import Reckon.Proofs.Comments
import Reckon.Proofs.Lexing

/-!
# Where a literal ends

Literals in quotes are read twice: by the passes over the comments, for which a double quote opens
or closes a string unless a backslash stands before it, and by the lexer, which reads a backslash
and the character after it as one, and knows characters beside strings.

* `StringBody`, `Quoted`: the literals in quotes, as the lexer reads them without a fault.
* `quoted_of_tokens`: a text that is one literal token is such a literal.
* `Quoted.verbatim`: the passes keep every literal, and `Quoted.closed` says after which of them
  they are outside of strings.
* `withoutComments_literal_iff`: **the two agree on where a literal ends**, but for the character
  `'"'` and for the strings whose last escape is a backslash.
-/

namespace Reckon

/-! ## Literals as the lexer reads them -/

/-- The inside of a string: characters of one line, and known escapes. -/
inductive StringBody : Text → Prop
  /-- the end -/
  | nil : StringBody []
  /-- a character that stands for itself -/
  | plain {c : Char} {s : Text} (hquote : c ≠ '"') (hnewline : c ≠ '\n') (hescape : c ≠ '\\')
      (h : StringBody s) : StringBody (c :: s)
  /-- an escape -/
  | escape {c : Char} {s : Text} (hc : (unescape? c).isSome) (h : StringBody s) :
      StringBody ('\\' :: c :: s)

/-- The literals in quotes. -/
inductive Quoted : Text → Prop
  /-- a string -/
  | string {body : Text} (h : StringBody body) : Quoted ('"' :: (body ++ ['"']))
  /-- a character -/
  | char {c : Char} (hquote : c ≠ '\'') (hnewline : c ≠ '\n') (hescape : c ≠ '\\') :
      Quoted ['\'', c, '\'']
  /-- a character with an escape -/
  | escapedChar {c : Char} (hc : (unescape? c).isSome) : Quoted ['\'', '\\', c, '\'']

/-- No unknown escape is forgotten. -/
theorem escapes_readString (start n : Nat) (value : Text) (escapes : List Diagnostic) (s : Text) :
    escapes.reverse <+: (readString start n value escapes s).escapes := by
  fun_induction readString start n value escapes s with
  | case1 | case2 | case3 | case4 | case5 => exact List.prefix_refl _
  | case6 _ _ _ _ _ _ _ _ ih => exact ih
  | case7 _ _ _ _ _ _ _ ih =>
    rw [List.reverse_cons] at ih
    exact (List.prefix_append _ _).trans ih
  | case8 _ _ _ _ _ _ _ _ _ ih => exact ih

/-- A string that is read without a fault ends at the first quote after its inside. -/
theorem readString_token {start n : Nat} {value : Text} {escapes : List Diagnostic} {s : Text}
    {kind : Kind} {v : Option Literal}
    (h : (readString start n value escapes s).content = .token kind v)
    (hescapes : (readString start n value escapes s).escapes = []) :
    ∃ body after, StringBody body ∧ s = body ++ '"' :: after ∧
      (readString start n value escapes s).length = n + body.length + 1 := by
  fun_induction readString start n value escapes s with
  | case1 | case3 | case4 | case5 => cases h
  | case2 n _ _ after => exact ⟨[], after, .nil, rfl, rfl⟩
  | case6 n value escapes c rest hnewline w hw ih =>
    obtain ⟨body, after, hbody, rfl, hlength⟩ := ih h hescapes
    refine ⟨'\\' :: c :: body, after, .escape (by rw [hw]; rfl) hbody, rfl, ?_⟩
    rw [hlength]
    simp only [List.length_cons]
    omega
  | case7 n value escapes c rest hnewline hw ih =>
    -- an unknown escape is a fault, and stays one
    have hprefix := escapes_readString start (n + 2) (c :: value)
      (.badEscape c (start + n) :: escapes) rest
    rw [hescapes, List.prefix_nil, List.reverse_eq_nil_iff] at hprefix
    cases hprefix
  | case8 n value escapes c rest hquote hnewline hlast hescape ih =>
    obtain ⟨body, after, hbody, rfl, hlength⟩ := ih h hescapes
    -- a backslash would be read with the character after it
    have hplain : c ≠ '\\' := by
      intro hc
      rcases hsplit : body ++ '"' :: after with _ | ⟨d, rest⟩
      · exact hlast hc hsplit
      · exact hescape d rest hc hsplit
    refine ⟨c :: body, after, .plain hquote hnewline hplain hbody, rfl, ?_⟩
    rw [hlength]
    simp only [List.length_cons]
    omega

/-- A character literal is closed by a quote. -/
theorem closeChar_token {start n : Nat} {c : Char} {escapes : List Diagnostic} {s : Text}
    {kind : Kind} {v : Option Literal}
    (h : (closeChar start n c escapes s).content = .token kind v) :
    (∃ after, s = '\'' :: after) ∧ (closeChar start n c escapes s).length = n + 1 ∧
      (closeChar start n c escapes s).escapes = escapes := by
  unfold closeChar at h ⊢
  split at h
  · exact ⟨⟨_, rfl⟩, rfl, rfl⟩
  · cases h

/-- A character that is read without a fault ends at the quote right after it. -/
theorem readChar_token {start : Nat} {s : Text} {kind : Kind} {v : Option Literal} :
    (readChar start s).content = .token kind v → (readChar start s).escapes = [] →
      ∃ l after, Quoted l ∧ '\'' :: s = l ++ after ∧ (readChar start s).length = l.length := by
  fun_cases readChar start s with
  | case1 | case2 | case3 | case4 | case5 =>
    intro h
    cases h
  | case6 c rest hnewline w hw =>
    intro h _
    obtain ⟨⟨after, rfl⟩, hlength, -⟩ := closeChar_token h
    exact ⟨['\'', '\\', c, '\''], after, .escapedChar (by rw [hw]; rfl), rfl, hlength⟩
  | case7 c rest hnewline hw =>
    -- an unknown escape is a fault
    intro h hescapes
    obtain ⟨-, -, hkept⟩ := closeChar_token h
    rw [hkept] at hescapes
    cases hescapes
  | case8 c rest hnewline hquote hlast hescape =>
    intro h _
    obtain ⟨⟨after, rfl⟩, hlength, -⟩ := closeChar_token h
    have hplain : c ≠ '\\' := fun hc => hescape _ _ hc rfl
    exact ⟨['\'', c, '\''], after, .char hquote hnewline hplain, rfl, hlength⟩

/-- A front of a text that is a literal token in quotes is such a literal. -/
theorem quoted_of_content {start : Nat} {c : Char} {rest : Text} {kind : Kind}
    {v : Option Literal} (h : (recognize start c rest).content = .token kind v)
    (hescapes : (recognize start c rest).escapes = []) (hkind : kind.isQuoted = true) :
    ∃ l after, Quoted l ∧ c :: rest = l ++ after ∧ (recognize start c rest).length = l.length := by
  have hne : kind.isQuoted ≠ false := by simp [hkind]
  have hfront := recognize_front start c rest
  generalize recognize start c rest = found at hfront h hescapes ⊢
  cases hfront with
  | blank => cases h
  | string hc =>
    obtain ⟨body, after, hbody, rfl, hlength⟩ := readString_token h hescapes
    refine ⟨'"' :: (body ++ ['"']), after, .string hbody, by simp [hc], ?_⟩
    rw [hlength]
    simp only [List.length_cons, List.length_append, List.length_nil]
    omega
  | char hc =>
    rw [hc]
    exact readChar_token h hescapes
  | assigning hc =>
    cases h
    exact absurd (Kind.of_ofAssigning? hc).2.1 hne
  | number =>
    rcases foundNumber_content start (c :: rest) with ⟨fault, h'⟩ | ⟨v, hv, h'⟩ <;>
      cases h'.symm.trans h
    exact absurd hv.1 hne
  | separator hc =>
    cases h
    exact absurd (Kind.of_ofSeparator? hc).1 hne
  | word =>
    cases h
    exact absurd (Kind.ofWord?_getD _).2.1 hne

/-- A text that the lexer reads without a fault as one literal in quotes is such a literal. -/
theorem quoted_of_tokens {l : Text} {t : Token} (htokens : tokens l = [t])
    (hfaults : lexicalDiagnostics l = []) (hlexeme : t.lexeme = l)
    (hkind : t.kind.isQuoted = true) : Quoted l := by
  have hmem : t ∈ tokensFrom 0 l := by
    change t ∈ tokens l
    rw [htokens]
    exact List.mem_singleton_self t
  obtain ⟨before, c, rest, hsplit, hposition, htake, hcontent⟩ := mem_tokensFrom hmem
  -- the token reaches over the whole text, so nothing is before it
  have hbefore : before = [] := by
    have hlength := congrArg List.length (hlexeme.symm.trans htake)
    rw [hsplit] at hlength
    simp only [List.length_append, List.length_cons, List.length_take] at hlength
    exact List.eq_nil_of_length_eq_zero (by omega)
  subst hbefore
  obtain rfl : l = c :: rest := hsplit
  have hzero : t.position = 0 := hposition
  rw [hzero] at htake hcontent
  have hescapes : (recognize 0 c rest).escapes = [] := by
    have hfront : faultsFrom 0 (c :: rest) = [] := hfaults
    rw [faultsFrom_cons, List.append_eq_nil_iff] at hfront
    exact (List.append_eq_nil_iff.1 hfront.1).1
  obtain ⟨l, after, hquoted, hl, hlength⟩ := quoted_of_content hcontent hescapes hkind
  -- nor is anything after it
  have hwhole : c :: rest = l := by
    rw [← hlexeme, htake, hlength, hl, List.take_left]
  rw [hwhole]
  exact hquoted

/-! ## Literals as the passes over the comments read them -/

open Comment

/-- The inside of a string has no quote that ends it: every one comes after a backslash. -/
theorem StringBody.verbatim {body : Text} (h : StringBody body) (prev : Char) :
    Verbatim prev true body true := by
  induction h generalizing prev with
  | nil => exact .nil
  | @plain c s hquote _ _ _ ih =>
    have hstate : quoteState prev c true = true := by simp [quoteState, hquote]
    refine .cons ?_ ?_
    · simp [hstate]
    · rw [hstate]
      exact ih c
  | @escape c s _ _ ih =>
    -- the character after the backslash is no unescaped quote, whatever it is
    have hslash : quoteState prev '\\' true = true := by simp [quoteState]
    have hescaped : quoteState '\\' c true = true := by simp [quoteState]
    refine .cons ?_ (.cons ?_ ?_)
    · simp [hslash]
    · simp [hslash, hescaped]
    · rw [hslash, hescaped]
      exact ih c

/-- The literals after which the passes are outside of strings: all but the character `'"'`, and
the strings before whose last quote there is a backslash. -/
def Closes (l : Text) : Prop := l ≠ ['\'', '"', '\''] ∧ ¬ ['\\', '"'] <:+ l

/-- The last quote of a string does not count as one where its inside ends in a backslash. -/
theorem suffix_string_iff {body : Text} :
    ['\\', '"'] <:+ '"' :: (body ++ ['"']) ↔ body.getLastD '"' = '\\' := by
  rw [← List.reverse_prefix]
  rcases List.eq_nil_or_concat body with rfl | ⟨s, c, rfl⟩
  · simp
  · simp [eq_comm]

/-- The passes find no comment in a literal. -/
theorem Quoted.verbatim {l : Text} (h : Quoted l) :
    ∃ after, Verbatim ' ' false l after ∧ (after = false ↔ Closes l) := by
  cases h with
  | @string body hbody =>
    refine ⟨decide (body.getLastD '"' = '\\'), .cons (by simp) ?_, ?_⟩
    · have hopen : quoteState ' ' '"' false = true := rfl
      have hclose : quoteState (body.getLastD '"') '"' true =
          decide (body.getLastD '"' = '\\') := by
        simp [quoteState]
      rw [hopen, ← hclose]
      exact (hbody.verbatim '"').append (.cons (by simp) .nil)
    · simp [Closes, suffix_string_iff]
  | @char c hquote hnewline hescape =>
    refine ⟨decide (c = '"'), .cons (by simp) (.cons (by simp) ?_), ?_⟩
    · have hstate : quoteState '\'' c (quoteState ' ' '\'' false) = decide (c = '"') := by
        by_cases hc : c = '"' <;> simp [quoteState, hc]
      rw [hstate]
      have hlast : quoteState c '\'' (decide (c = '"')) = decide (c = '"') := by simp [quoteState]
      refine .cons (by simp) ?_
      rw [hlast]
      exact .nil
    · simp [Closes, ← List.reverse_prefix]
  | @escapedChar c hc =>
    refine ⟨false, .cons (by simp) (.cons (by simp) (.cons (by simp) (.cons (by simp) ?_))), ?_⟩
    · have hstate : quoteState c '\'' (quoteState '\\' c (quoteState '\'' '\\'
          (quoteState ' ' '\'' false))) = false := by
        simp [quoteState]
      rw [hstate]
      exact .nil
    · simp [Closes, ← List.reverse_prefix]

/-! ## Both -/

theorem withoutBlocks_literal {l c : Text} (h : Quoted l) (hstar : '*' ∉ c) :
    (withoutBlocks (l ++ ' ' :: '/' :: '/' :: c)).text = l ++ ' ' :: '/' :: '/' :: c := by
  obtain ⟨after, hl, -⟩ := h.verbatim
  have hrest : '*' ∉ ' ' :: '/' :: '/' :: c := by simp [hstar]
  rw [withoutBlocks, stripBlocks_verbatim hl, stripBlocks_of_no_star hrest]
  simp

/-- **Where a literal ends.** Let the text `l` be one string or character that the lexer reads
without a fault, and let a line comment follow. The literal is kept as it is. The comment is taken
out if and only if the literal `Closes`: it is not the character `'"'`, and no string with a
backslash before its last quote. -/
theorem withoutComments_literal_iff {l c : Text} {t : Token} (htokens : tokens l = [t])
    (hfaults : lexicalDiagnostics l = []) (hlexeme : t.lexeme = l)
    (hkind : t.kind = .stringLiteral ∨ t.kind = .charLiteral) (hline : '\n' ∉ c)
    (hstar : '*' ∉ c) :
    (l ++ [' ']) <+: withoutComments (l ++ ' ' :: '/' :: '/' :: c) ∧
      (withoutComments (l ++ ' ' :: '/' :: '/' :: c) = l ++ [' '] ↔ Closes l) := by
  have hquoted : Quoted l := by
    refine quoted_of_tokens htokens hfaults hlexeme ?_
    rcases hkind with hkind | hkind <;> rw [hkind] <;> rfl
  obtain ⟨after, hl, hcloses⟩ := hquoted.verbatim
  rw [withoutComments, withoutBlocks_literal hquoted hstar, withoutLines, stripLines_verbatim hl,
    ← hcloses]
  cases after with
  | false =>
    have hdropped : stripLines (l.getLastD ' ') false false (l.reverse ++ [])
        (' ' :: '/' :: '/' :: c) = l ++ [' '] := by
      simp [stripLines, quoteState, stripLines_comment hline]
    rw [hdropped]
    exact ⟨List.prefix_refl _, by simp⟩
  | true =>
    have hkept : stripLines (l.getLastD ' ') true false (l.reverse ++ []) (' ' :: '/' :: '/' :: c) =
        stripLines '/' true false ('/' :: '/' :: ' ' :: l.reverse) c := by
      simp [stripLines, quoteState]
    rw [hkept, stripLines_eq_append]
    simp

/-- A string with a comment's marks and an escaped quote in it closes. -/
theorem withoutComments_literal_marks :
    let l := "\"/*\\\"//\"".toList
    let t : Token := ⟨.stringLiteral, 0, l, some (.str "/*\"//".toList)⟩
    (tokens l = [t] ∧ lexicalDiagnostics l = []) ∧
      withoutComments (l ++ ' ' :: '/' :: '/' :: ['x']) = l ++ [' '] := by
  intro l t
  have htokens : tokens l = [t] := by decide +kernel
  have hfaults : lexicalDiagnostics l = [] := by decide +kernel
  have hcloses : Closes l := by
    rw [Closes]
    decide
  exact ⟨⟨htokens, hfaults⟩, (withoutComments_literal_iff htokens hfaults rfl (.inl rfl)
    (by decide) (by decide)).2.2 hcloses⟩

/-- The string `"a\\"` and the character `'"'` do not close: the comment after them stays. -/
theorem withoutComments_literal_ne :
    let l := "\"a\\\\\"".toList
    let m := "'\"'".toList
    (tokens l = [⟨.stringLiteral, 0, l, some (.str "a\\".toList)⟩] ∧ lexicalDiagnostics l = [] ∧
      withoutComments (l ++ ' ' :: '/' :: '/' :: ['x']) ≠ l ++ [' ']) ∧
    tokens m = [⟨.charLiteral, 0, m, some (.char '"')⟩] ∧ lexicalDiagnostics m = [] ∧
      withoutComments (m ++ ' ' :: '/' :: '/' :: ['x']) ≠ m ++ [' '] := by
  decide +kernel

end Reckon
