import Reckon.Proofs.Fronts

/-!
# The segments of a text

The lexer loses nothing and invents nothing: the text is cut into pieces that follow each other
without a gap, and every token and every fault belongs to one of them.

* `Token.Lexed`: a token as the lexer makes it.
* `Piece`: one piece of a text, with its token or its faults.
* `piece_front`: the front of every text is such a piece.
* `segmented_tokens`: **every text is made of pieces**, and their tokens and faults, in order, are
  those of the text.
-/

namespace Reckon

/-! ## Pieces -/

/-- A token as the lexer makes it: it has characters, and a value if and only if it is a literal,
which then is of the token's kind. -/
structure Token.Lexed (t : Token) : Prop where
  /-- it has characters -/
  lexeme_ne : t.lexeme ≠ []
  /-- it is no end of file -/
  kind_ne : t.kind ≠ .endOfFile
  /-- literals have a value, and they alone -/
  isSome_value : t.value.isSome = t.kind.isLiteral
  /-- the value is of the token's kind -/
  kind_value : ∀ v, t.value = some v → v.kind = t.kind

/-- The fault is an unknown escape in the piece, whose offset is `start`: it stands at a backslash,
and names the character right after it. -/
def Diagnostic.IsEscapeIn (d : Diagnostic) (start : Nat) (piece : Text) : Prop :=
  ∃ before c after, piece = before ++ '\\' :: c :: after ∧
    d = .badEscape c (start + before.length) ∧ unescape? c = none

/-- The fault for which a piece, whose offset is `start`, is dropped. It stands where the piece
begins. -/
inductive Malformed (start : Nat) : Text → Diagnostic → Prop
  /-- a string without its end -/
  | openString {s : Text} : Malformed start ('"' :: s) (.openString start)
  /-- a character literal without its end -/
  | openChar {s : Text} : Malformed start ('\'' :: s) (.openChar start)
  /-- a character literal without a character -/
  | emptyChar {s : Text} : Malformed start ('\'' :: s) (.emptyChar start)
  /-- a number beyond its type -/
  | badNumber {d : Char} {s : Text} {type : NumberType} (hd : d.isDigit = true) :
      Malformed start (d :: s) (.badNumber (d :: s) type start)

/-- A piece of a text, whose offset is `start`, with the token that it is, if it is one, and its
faults. Unknown escapes are in literals in quotes only, whole ones and dropped ones. -/
inductive Piece (start : Nat) (piece : Text) : List Token → List Diagnostic → Prop
  /-- blanks -/
  | blank (hne : piece ≠ []) (hblank : ∀ c ∈ piece, isSpace c = true) : Piece start piece [] []
  /-- a token -/
  | token {kind : Kind} {value : Option Literal} {escapes : List Diagnostic}
      (htoken : Token.Lexed ⟨kind, start, piece, value⟩)
      (hescapes : ∀ d ∈ escapes, kind.isQuoted = true ∧ d.IsEscapeIn start piece) :
      Piece start piece [⟨kind, start, piece, value⟩] escapes
  /-- a malformed literal -/
  | dropped {fault : Diagnostic} {escapes : List Diagnostic} (hfault : Malformed start piece fault)
      (hescapes : ∀ d ∈ escapes, (fault = .openString start ∨ fault = .openChar start) ∧
        d.IsEscapeIn start piece) :
      Piece start piece [] (escapes ++ [fault])

/-- The text, whose offset is `start`, is made of pieces with these tokens and these faults. -/
inductive Segmented : (start : Nat) → Text → List Token → List Diagnostic → Prop
  /-- the end of the text -/
  | nil {start : Nat} : Segmented start [] [] []
  /-- a piece, and the rest of the text -/
  | cons {start : Nat} {piece s : Text} {now later : List Token} {faults more : List Diagnostic}
      (hpiece : Piece start piece now faults)
      (h : Segmented (start + piece.length) s later more) :
      Segmented start (piece ++ s) (now ++ later) (faults ++ more)

/-! ## Tokens -/

theorem Kind.isLiteral_ofWord? (word : String) :
    ((ofWord? word).getD .identifier).isLiteral = false := by
  unfold ofWord?
  split <;> rfl

theorem Kind.isLiteral_of_ofAssigning? {c : Char} {kind : Kind} (h : ofAssigning? c = some kind) :
    kind.isLiteral = false := by
  unfold ofAssigning? at h
  split at h <;> cases h <;> rfl

theorem Kind.isLiteral_of_ofSeparator? {c : Char} {kind : Kind} (h : ofSeparator? c = some kind) :
    kind.isLiteral = false := by
  unfold ofSeparator? at h
  split at h <;> cases h <;> rfl

/-- A token without a value. -/
theorem Token.Lexed.plain {kind : Kind} {start : Nat} {piece : Text} (hne : piece ≠ [])
    (hkind : kind ≠ .endOfFile) (hliteral : kind.isLiteral = false) :
    Token.Lexed ⟨kind, start, piece, none⟩ :=
  ⟨hne, hkind, hliteral.symm, by simp⟩

/-- A literal. -/
theorem Token.Lexed.literal {v : Literal} {start : Nat} {piece : Text} (hne : piece ≠ []) :
    Token.Lexed ⟨v.kind, start, piece, some v⟩ := by
  refine ⟨hne, ?_, v.kind_isLiteral.symm, by simp⟩
  cases v <;> simp [Literal.kind]

/-- The unknown escapes of a piece are in it. -/
theorem mem_unknownEscapes {start : Nat} {piece : Text} {d : Diagnostic}
    (h : d ∈ unknownEscapes start piece) : d.IsEscapeIn start piece := by
  fun_induction unknownEscapes start piece with
  | case1 start c rest ih =>
    rcases List.mem_append.1 h with h | h
    · rcases hc : unescape? c with _ | w
      · rw [hc] at h
        obtain rfl := List.mem_singleton.1 h
        exact ⟨[], c, rest, rfl, rfl, hc⟩
      · rw [hc] at h
        cases h
    · obtain ⟨before, e, after, rfl, rfl, he⟩ := ih h
      refine ⟨'\\' :: c :: before, e, after, rfl, ?_, he⟩
      simp only [List.length_cons, Diagnostic.badEscape.injEq, true_and]
      omega
  | case2 start c rest hplain ih =>
    obtain ⟨before, e, after, rfl, rfl, he⟩ := ih h
    refine ⟨c :: before, e, after, rfl, ?_, he⟩
    simp only [List.length_cons, Diagnostic.badEscape.injEq, true_and]
    omega
  | case3 => cases h

/-! ## The front of a text -/

/-- What a character literal can be. -/
theorem readChar_cases (start : Nat) (s : Text) :
    (readChar start s).content = .dropped (.openChar start) ∨
      ((readChar start s).content = .dropped (.emptyChar start) ∧ (readChar start s).escapes = []) ∨
      ∃ c, (readChar start s).content = .token .charLiteral (some (.char c)) := by
  fun_cases readChar start s with
  | case1 | case2 | case4 | case5 => exact .inl rfl
  | case3 => exact .inr (.inl ⟨rfl, rfl⟩)
  | case6 c rest _ w => exact (closeChar_content start 3 w [] rest).imp_right fun h => .inr ⟨w, h⟩
  | case7 c rest =>
    exact (closeChar_content start 3 c _ rest).imp_right fun h => .inr ⟨c, h⟩
  | case8 c rest => exact (closeChar_content start 2 c [] rest).imp_right fun h => .inr ⟨c, h⟩

/-- What a sign can be. -/
theorem foundSign_lexed {c : Char} {kind : Kind} (h : Kind.ofSeparator? c = some kind)
    (start : Nat) (rest : Text) {piece : Text} (hne : piece ≠ []) :
    ∃ kind', (foundSign c kind rest).content = .token kind' none ∧
      Token.Lexed ⟨kind', start, piece, none⟩ := by
  rw [foundSign]
  split
  · rename_i long hlong _
    exact ⟨long, rfl, .plain hne (Kind.of_ofAssigning? hlong).2.2
      (Kind.isLiteral_of_ofAssigning? hlong)⟩
  · exact ⟨kind, rfl, .plain hne (Kind.of_ofSeparator? h).2 (Kind.isLiteral_of_ofSeparator? h)⟩

/-- What is taken of a text that begins with no blank is a token or dropped. -/
theorem content_cases {start : Nat} {c : Char} {rest body : Text} (hc : isSpace c = false)
    (hpiece : (c :: rest).take (recognize start c rest).length = c :: body) :
    (∃ kind value, (recognize start c rest).content = .token kind value ∧
      Token.Lexed ⟨kind, start, c :: body, value⟩ ∧
      ((recognize start c rest).escapes = [] ∨ kind.isQuoted = true)) ∨
    ∃ fault, (recognize start c rest).content = .dropped fault ∧
      Malformed start (c :: body) fault ∧
      ((recognize start c rest).escapes = [] ∨ fault = .openString start ∨
        fault = .openChar start) := by
  have hne : c :: body ≠ [] := List.cons_ne_nil c body
  cases lead c with
  | blank h =>
    rw [h] at hc
    cases hc
  | string h =>
    subst h
    rw [recognize_quote]
    rcases readString_content start 1 [] [] rest with hopen | ⟨v, htoken⟩
    · exact .inr ⟨_, hopen, .openString, .inr (.inl rfl)⟩
    · exact .inl ⟨_, _, htoken, Token.Lexed.literal (v := .str v) hne, .inr rfl⟩
  | char h =>
    subst h
    rw [recognize_apostrophe]
    rcases readChar_cases start rest with hopen | ⟨hempty, hescapes⟩ | ⟨v, htoken⟩
    · exact .inr ⟨_, hopen, .openChar, .inr (.inr rfl)⟩
    · exact .inr ⟨_, hempty, .emptyChar, .inl hescapes⟩
    · exact .inl ⟨_, _, htoken, Token.Lexed.literal (v := .char v) hne, .inr rfl⟩
  | digit h =>
    rw [recognize_of_isDigit h] at hpiece ⊢
    have hescapes := foundNumber_escapes start (c :: rest)
    rcases hvalue : (readNumber (c :: rest)).1.value? with _ | v
    · -- the fault names the whole piece
      have hfound : (foundNumber start (c :: rest)).content = .dropped (.badNumber
          ((c :: rest).take (foundNumber start (c :: rest)).length)
            (.ofLast (readNumber (c :: rest)).1.fraction.isSome
              ((c :: rest).take (foundNumber start (c :: rest)).length).getLast?) start) := by
        rw [foundNumber, hvalue]
      rw [hpiece] at hfound
      exact .inr ⟨_, hfound, .badNumber h, .inl hescapes⟩
    · have hfound : (foundNumber start (c :: rest)).content = .token v.kind (some v) := by
        rw [foundNumber, hvalue]
      exact .inl ⟨_, _, hfound, Token.Lexed.literal hne, .inl hescapes⟩
  | @sign kind h =>
    rw [recognize_of_separator h]
    obtain ⟨kind', hfound, hlexed⟩ := foundSign_lexed h start rest hne
    exact .inl ⟨_, _, hfound, hlexed, .inl (foundSign_escapes c kind rest)⟩
  | word h hdigit =>
    rw [recognize_of_word h hdigit]
    exact .inl ⟨_, _, rfl, .plain hne (Kind.ofWord?_getD _).2.2 (Kind.isLiteral_ofWord? _),
      .inl rfl⟩

/-- The unknown escapes of what is taken are in it. -/
theorem isEscapeIn_of_mem {start : Nat} {c : Char} {rest body : Text} {d : Diagnostic}
    (hescapes : (recognize start c rest).escapes =
      if isQuote c then unknownEscapes start (c :: body) else [])
    (hd : d ∈ (recognize start c rest).escapes) : d.IsEscapeIn start (c :: body) := by
  rw [hescapes] at hd
  split at hd
  · exact mem_unknownEscapes hd
  · cases hd

/-- The front of a text that begins with no blank. -/
theorem piece_of_not_isSpace {c : Char} (hc : isSpace c = false) (start : Nat) (rest : Text) :
    ∃ body after, rest = body ++ after ∧ (recognize start c rest).length = 1 + body.length ∧
      Piece start (c :: body) (front start c rest).token?.toList
        (front start c rest).diagnostics := by
  obtain ⟨body, after, hcut, hescapes⟩ := recognize_cut hc start rest
  have hpiece : (c :: rest).take (recognize start c rest).length = c :: body := by
    rw [hcut.length, Nat.add_comm, List.take_succ_cons, hcut.split, List.take_left]
  refine ⟨body, after, hcut.split, hcut.length, ?_⟩
  rw [front, hpiece]
  rcases content_cases hc hpiece with ⟨kind, value, hcontent, hlexed, hquoted⟩ |
    ⟨fault, hcontent, hfault, hopen⟩
  · rw [Segment.token?, Segment.diagnostics, Segment.fault?, hcontent]
    simp only [Option.toList_some, Option.toList_none, List.append_nil]
    refine .token hlexed fun d hd => ⟨?_, isEscapeIn_of_mem hescapes hd⟩
    rcases hquoted with hnone | hquoted
    · rw [hnone] at hd
      cases hd
    · exact hquoted
  · rw [Segment.token?, Segment.diagnostics, Segment.fault?, hcontent]
    simp only [Option.toList_some, Option.toList_none]
    refine .dropped hfault fun d hd => ⟨?_, isEscapeIn_of_mem hescapes hd⟩
    rcases hopen with hnone | hopen
    · rw [hnone] at hd
      cases hd
    · exact hopen

/-- The blanks at the front of a text. -/
theorem piece_of_isSpace {c : Char} (hc : isSpace c = true) (start : Nat) (rest : Text) :
    ∃ body after, rest = body ++ after ∧ (recognize start c rest).length = 1 + body.length ∧
      Piece start (c :: body) (front start c rest).token?.toList
        (front start c rest).diagnostics := by
  refine ⟨rest.takeWhile isSpace, rest.dropWhile isSpace,
    List.takeWhile_append_dropWhile.symm, ?_, ?_⟩
  · rw [recognize_of_isSpace hc, Nat.add_comm]
  · rw [front, recognize_of_isSpace hc]
    refine .blank (List.cons_ne_nil _ _) fun d hd => ?_
    rcases List.mem_cons.1 hd with rfl | hd
    · exact hc
    · exact List.mem_takeWhile_imp hd

/-- **The front of a text is a piece of it.** -/
theorem piece_front (start : Nat) (c : Char) (rest : Text) :
    ∃ body after, rest = body ++ after ∧ (recognize start c rest).length = 1 + body.length ∧
      Piece start (c :: body) (front start c rest).token?.toList
        (front start c rest).diagnostics := by
  by_cases hc : isSpace c = true
  · exact piece_of_isSpace hc start rest
  · exact piece_of_not_isSpace (by simpa using hc) start rest

/-! ## The whole text -/

/-- A text at any offset is made of pieces. -/
theorem segmented_from (start : Nat) (s : Text) :
    Segmented start s (tokensFrom start s) (faultsFrom start s) := by
  match s with
  | [] =>
    rw [tokensFrom_nil, faultsFrom_nil]
    exact .nil
  | c :: rest =>
    obtain ⟨body, after, hrest, hlength, hpiece⟩ := piece_front start c rest
    have hdrop : (c :: rest).drop (recognize start c rest).length = after := by
      rw [hlength, Nat.add_comm, List.drop_succ_cons, hrest, List.drop_left]
    have hnext := segmented_from (start + (c :: body).length) after
    rw [tokensFrom_cons, faultsFrom_cons, hdrop, hlength, Nat.add_comm 1, hrest]
    rw [hrest] at hpiece
    exact .cons hpiece hnext
termination_by s.length
decreasing_by
  rw [hrest, List.length_cons, List.length_append]
  omega

/-- **Every text is made of pieces**: blanks, tokens and dropped literals, one after the other. The
tokens of the text and its lexical faults are those of the pieces, in order. -/
theorem segmented_tokens (s : Text) : Segmented 0 s (tokens s) (lexicalDiagnostics s) :=
  segmented_from 0 s

end Reckon
