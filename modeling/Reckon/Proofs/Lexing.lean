import Mathlib.Data.List.TakeWhile
import Reckon.Proofs.Grammar
import Reckon.Token.Segment

/-!
# The lexer on arithmetic

The lexer knows many tokens, the grammar of expressions only seven. This module says which texts
the lexer turns, without a fault, into tokens of these seven kinds.

* `Front`: what a text can begin with, one case for each branch of `recognize`.
* `tokensFrom`, `faultsFrom`: tokens and faults of a text at an offset, segment by segment.
* `Spelled`: a text as blanks, signs and numbers, with the tokens that they make.
* `spelled_iff`: **these are the texts**. From left to right no neighbour disturbs a sign or a
  number, since none of `=`, `.`, `u` and `f` can follow (`Spelled.head`). From right to left
  every other branch of the lexer makes a fault or a token of another kind.
-/

namespace Reckon

/-! ## The front of a text -/

/-- What a text `c :: rest` can begin with. -/
inductive Front (start : Nat) (c : Char) (rest : Text) : Found → Prop
  /-- blanks -/
  | blank (h : isSpace c = true) :
      Front start c rest ⟨(rest.takeWhile isSpace).length + 1, .blank, []⟩
  /-- a string -/
  | string (h : c = '"') : Front start c rest (readString start 1 [] [] rest)
  /-- a character literal -/
  | char (h : c = '\'') : Front start c rest (readChar start rest)
  /-- an operator of two characters -/
  | assigning {kind : Kind} (h : Kind.ofAssigning? c = some kind) (hnext : rest.head? = some '=') :
      Front start c rest ⟨2, .token kind none, []⟩
  /-- a number -/
  | number (h : c.isDigit = true) : Front start c rest (foundNumber start (c :: rest))
  /-- an operator of one character, or punctuation -/
  | separator {kind : Kind} (h : Kind.ofSeparator? c = some kind) :
      Front start c rest ⟨1, .token kind none, []⟩
  /-- a word -/
  | word (h : isBoundary c = false) (hdigit : c.isDigit = false) :
      Front start c rest (foundWord c rest)

theorem recognize_front (start : Nat) (c : Char) (rest : Text) :
    Front start c rest (recognize start c rest) := by
  rw [recognize]
  split
  · exact .blank ‹_›
  split
  · exact .string ‹_›
  split
  · exact .char ‹_›
  split
  · exact .assigning ‹_› ‹_›
  split
  · exact .number ‹_›
  split
  · exact .separator ‹_›
  · refine .word ?_ (by simp_all)
    simp_all [isBoundary]

/-- The first segment of a text. -/
def front (start : Nat) (c : Char) (rest : Text) : Segment :=
  ⟨start, (c :: rest).take (recognize start c rest).length, (recognize start c rest).content,
    (recognize start c rest).escapes⟩

/-- The tokens of a text whose offset is `start`. -/
def tokensFrom (start : Nat) (s : Text) : List Token :=
  (segmentsFrom start [] s).filterMap Segment.token?

/-- The faults in the tokens of a text whose offset is `start`. -/
def faultsFrom (start : Nat) (s : Text) : List Diagnostic :=
  (segmentsFrom start [] s).flatMap Segment.diagnostics

@[simp] theorem tokensFrom_nil (start : Nat) : tokensFrom start [] = [] := by
  simp [tokensFrom]

@[simp] theorem faultsFrom_nil (start : Nat) : faultsFrom start [] = [] := by
  simp [faultsFrom]

theorem segmentsFrom_eq_front_cons (start : Nat) (c : Char) (rest : Text) :
    segmentsFrom start [] (c :: rest) = front start c rest ::
      segmentsFrom (start + (recognize start c rest).length) []
        ((c :: rest).drop (recognize start c rest).length) := by
  rw [segmentsFrom_cons, segmentsFrom_eq_append]
  rfl

/-- The tokens of a text are that of its front, if it is one, and those after it. -/
theorem tokensFrom_cons (start : Nat) (c : Char) (rest : Text) :
    tokensFrom start (c :: rest) = (front start c rest).token?.toList ++
      tokensFrom (start + (recognize start c rest).length)
        ((c :: rest).drop (recognize start c rest).length) := by
  rw [tokensFrom, segmentsFrom_eq_front_cons, List.filterMap_cons]
  cases (front start c rest).token? <;> rfl

/-- The faults of a text are those of its front and those after it. -/
theorem faultsFrom_cons (start : Nat) (c : Char) (rest : Text) :
    faultsFrom start (c :: rest) = (front start c rest).diagnostics ++
      faultsFrom (start + (recognize start c rest).length)
        ((c :: rest).drop (recognize start c rest).length) := by
  rw [faultsFrom, segmentsFrom_eq_front_cons, List.flatMap_cons]
  rfl

/-- Every segment is the front of what is left of the text where it starts. -/
theorem mem_segmentsFrom {start : Nat} {s : Text} {segment : Segment}
    (h : segment ∈ segmentsFrom start [] s) :
    ∃ before c rest, s = before ++ c :: rest ∧ segment = front (start + before.length) c rest := by
  match s with
  | [] => simp at h
  | c :: rest =>
    rw [segmentsFrom_eq_front_cons] at h
    rcases List.mem_cons.1 h with rfl | h
    · exact ⟨[], c, rest, rfl, rfl⟩
    · obtain ⟨before, d, rest', hsplit, rfl⟩ := mem_segmentsFrom h
      have hlen : before.length + (rest'.length + 1) =
          (c :: rest).length - (recognize start c rest).length := by
        simpa using (congrArg List.length hsplit).symm
      refine ⟨(c :: rest).take (recognize start c rest).length ++ before, d, rest', ?_, ?_⟩
      · rw [List.append_assoc, ← hsplit, List.take_append_drop]
      · rw [List.length_append, List.length_take, Nat.min_eq_left (by omega), Nat.add_assoc]
termination_by s.length
decreasing_by
  have := length_recognize_pos start c rest
  simp only [List.length_drop, List.length_cons]
  omega

/-- Every token is the front of what is left of the text where it stands. -/
theorem mem_tokensFrom {start : Nat} {s : Text} {t : Token} (h : t ∈ tokensFrom start s) :
    ∃ before c rest, s = before ++ c :: rest ∧ t.position = start + before.length ∧
      t.lexeme = (c :: rest).take (recognize t.position c rest).length ∧
      (recognize t.position c rest).content = .token t.kind t.value := by
  obtain ⟨segment, hmem, ht⟩ := List.mem_filterMap.1 h
  obtain ⟨before, c, rest, hsplit, rfl⟩ := mem_segmentsFrom hmem
  rw [Segment.token?] at ht
  split at ht
  · rename_i hcontent
    obtain rfl := Option.some.inj ht
    exact ⟨before, c, rest, hsplit, rfl, rfl, hcontent⟩
  · cases ht

/-! ## Blanks -/

theorem recognize_of_isSpace {c : Char} (h : isSpace c = true) (start : Nat) (rest : Text) :
    recognize start c rest = ⟨(rest.takeWhile isSpace).length + 1, .blank, []⟩ := by
  simp [recognize, h]

/-- A blank at the front changes no token and no fault of the rest. -/
theorem from_of_isSpace {c : Char} (h : isSpace c = true) (start : Nat) (s : Text) :
    tokensFrom start (c :: s) = tokensFrom (start + 1) s ∧
      faultsFrom start (c :: s) = faultsFrom (start + 1) s := by
  rw [tokensFrom_cons, faultsFrom_cons, front, recognize_of_isSpace h]
  simp only [Segment.token?, Segment.diagnostics, Segment.fault?, Option.toList_none,
    List.nil_append]
  match s with
  | [] => simp
  | d :: s =>
    by_cases hd : isSpace d = true
    · -- the blanks of the rest are passed over in one go, as they are after one blank more
      have hstart : start + ((s.takeWhile isSpace).length + 1 + 1) =
          start + 1 + ((s.takeWhile isSpace).length + 1) := by omega
      rw [tokensFrom_cons, faultsFrom_cons, front, recognize_of_isSpace hd]
      simp [Segment.token?, Segment.diagnostics, Segment.fault?, hd, hstart]
    · simp [hd]

/-! ## Numbers -/

theorem readNumber_whole (s : Text) : (readNumber s).1.whole = s.takeWhile Char.isDigit := by
  rw [readNumber]
  dsimp only
  split <;> rfl

/-- No suffix asks for a signed integer. -/
theorem readNumber_suffix (s : Text) : (readNumber s).1.suffix ≠ some .int := by
  rw [readNumber]
  dsimp only
  split <;> simp

/-- Digits alone, with none of the characters after them that would go on with the number. -/
theorem readNumber_digits {ds after : Text} (hds : ∀ d ∈ ds, d.isDigit = true)
    (hafter : ∀ d, after.head? = some d → d.isDigit = false ∧ d ≠ '.' ∧ d ≠ 'u' ∧ d ≠ 'f') :
    readNumber (ds ++ after) = (⟨ds, none, none⟩, after) := by
  have htake : (ds ++ after).takeWhile Char.isDigit = ds := by
    rw [List.takeWhile_append_of_pos hds]
    match after, hafter with
    | [], _ => simp
    | d :: after, hafter => simp [(hafter d rfl).1]
  have hdrop : (ds ++ after).dropWhile Char.isDigit = after := by
    rw [List.dropWhile_append_of_pos hds]
    match after, hafter with
    | [], _ => simp
    | d :: after, hafter => simp [(hafter d rfl).1]
  rw [readNumber]
  rw [htake, hdrop]
  match after, hafter with
  | [], _ => rfl
  | d :: after, hafter =>
    obtain ⟨-, hdot, hu, hf⟩ := hafter d rfl
    simp [hdot, hu, hf]

/-- A number with the value of a signed integer is made of digits alone. -/
theorem Number.value?_eq_int {n : Number} (hn : n.suffix ≠ some .int) {v : Int32}
    (h : n.value? = some (.int v)) :
    n = ⟨n.whole, none, none⟩ ∧ natOfDigits n.whole ≤ 2147483647 ∧
      v = Int32.ofNat (natOfDigits n.whole) := by
  obtain ⟨whole, fraction, suffix⟩ := n
  match suffix, fraction with
  | none, none =>
    simp only [value?, type, Option.isNone_none, true_and] at h
    split at h
    · exact ⟨rfl, ‹_›, by simpa using h.symm⟩
    · cases h
  | none, some _ => simp [value?, type] at h
  | some .int, _ => exact absurd rfl hn
  | some .uint, _ =>
    simp only [value?, type] at h
    split at h <;> cases h
  | some .float, _ => simp [value?, type] at h
  | some .double, _ => simp [value?, type] at h

/-- The token of digits alone. -/
theorem foundNumber_digits {ds after : Text} (hds : ∀ d ∈ ds, d.isDigit = true)
    (hafter : ∀ d, after.head? = some d → d.isDigit = false ∧ d ≠ '.' ∧ d ≠ 'u' ∧ d ≠ 'f')
    (hvalue : Number.natOfDigits ds ≤ 2147483647) (start : Nat) :
    foundNumber start (ds ++ after) =
      ⟨ds.length, .token .intLiteral (some (.int (Int32.ofNat (Number.natOfDigits ds)))), []⟩ := by
  have hint : Number.value? ⟨ds, none, none⟩ =
      some (.int (Int32.ofNat (Number.natOfDigits ds))) := by
    simp [Number.value?, Number.type, hvalue]
  rw [foundNumber, readNumber_digits hds hafter]
  simp [hint, Number.length, Literal.kind]

/-! ## Texts of blanks, signs and numbers -/

/-- The kinds of the literals in quotes. -/
def Kind.isQuoted : Kind → Bool
  | .stringLiteral | .charLiteral => true
  | _ => false

/-- The signs of the grammar. -/
def Kind.ofSign? : Char → Option Kind
  | '+' => some .plus
  | '-' => some .minus
  | '*' => some .times
  | '/' => some .slash
  | '(' => some .openParen
  | ')' => some .closeParen
  | _ => none

/-- The text, whose offset is `start`, is made of blanks, signs and numbers, and these are its
tokens. A number takes all digits that stand together, and is no greater than the greatest
signed integer. -/
inductive Spelled : (start : Nat) → Text → List Token → Prop
  /-- the end of the text -/
  | nil {start : Nat} : Spelled start [] []
  /-- a blank -/
  | blank {start : Nat} {c : Char} {s : Text} {ts : List Token} (hc : isSpace c = true)
      (h : Spelled (start + 1) s ts) : Spelled start (c :: s) ts
  /-- a sign -/
  | sign {start : Nat} {c : Char} {kind : Kind} {s : Text} {ts : List Token}
      (hc : Kind.ofSign? c = some kind) (h : Spelled (start + 1) s ts) :
      Spelled start (c :: s) (⟨kind, start, [c], none⟩ :: ts)
  /-- a number -/
  | number {start : Nat} {ds s : Text} {ts : List Token} (hds : ds ≠ [])
      (hdigits : ∀ d ∈ ds, d.isDigit = true)
      (hlast : ∀ d, s.head? = some d → d.isDigit = false)
      (hvalue : Number.natOfDigits ds ≤ 2147483647) (h : Spelled (start + ds.length) s ts) :
      Spelled start (ds ++ s)
        (⟨.intLiteral, start, ds, some (.int (Int32.ofNat (Number.natOfDigits ds)))⟩ :: ts)

/-- The signs are the separators that the grammar knows. -/
theorem Kind.ofSign?_eq_some_iff {c : Char} {kind : Kind} :
    ofSign? c = some kind ↔ ofSeparator? c = some kind ∧ kind.isArithmetic = true := by
  constructor
  · intro h
    unfold ofSign? at h
    split at h <;> cases h <;> exact ⟨rfl, rfl⟩
  · rintro ⟨h, hk⟩
    unfold ofSeparator? at h
    split at h <;> cases h <;> first | rfl | cases hk

/-- No sign makes a number. -/
theorem Kind.ne_of_ofSign? {c : Char} {kind : Kind} (h : ofSign? c = some kind) :
    kind ≠ .intLiteral := by
  unfold ofSign? at h
  split at h <;> cases h <;> decide

/-- What such a text begins with. -/
theorem Spelled.head {start : Nat} {s : Text} {ts : List Token} (h : Spelled start s ts) {c : Char}
    (hc : s.head? = some c) :
    isSpace c = true ∨ c.isDigit = true ∨ ∃ kind, Kind.ofSign? c = some kind := by
  cases h with
  | nil => cases hc
  | blank hd _ =>
    obtain rfl := Option.some.inj hc
    exact .inl hd
  | sign hd _ =>
    obtain rfl := Option.some.inj hc
    exact .inr (.inr ⟨_, hd⟩)
  | @number _ ds s _ hds hdigits _ _ _ =>
    match ds, hds with
    | d :: ds, _ =>
      obtain rfl := Option.some.inj hc
      exact .inr (.inl (hdigits d List.mem_cons_self))

/-- None of the characters that would change the token before them. -/
theorem Spelled.head_ne {start : Nat} {s : Text} {ts : List Token} (h : Spelled start s ts)
    {c : Char} (hc : s.head? = some c) : c ≠ '=' ∧ c ≠ '.' ∧ c ≠ 'u' ∧ c ≠ 'f' := by
  have hhead := h.head hc
  refine ⟨?_, ?_, ?_, ?_⟩ <;>
  · rintro rfl
    simp [isSpace, Kind.ofSign?] at hhead

/-- A sign is a token by itself where no `=` follows. -/
theorem recognize_of_ofSign? {c : Char} {kind : Kind} (hc : Kind.ofSign? c = some kind)
    {rest : Text} (hrest : rest.head? ≠ some '=') (start : Nat) :
    recognize start c rest = ⟨1, .token kind none, []⟩ := by
  have hsep := (Kind.ofSign?_eq_some_iff.1 hc).1
  have hplain : isSpace c = false ∧ c ≠ '"' ∧ c ≠ '\'' ∧ c.isDigit = false := by
    unfold Kind.ofSign? at hc
    split at hc <;> cases hc <;> decide
  obtain ⟨hspace, hstring, hchar, hdigit⟩ := hplain
  rw [recognize]
  rw [if_neg (by simp [hspace]), if_neg hstring, if_neg hchar]
  split
  · rename_i hnext
    exact absurd hnext hrest
  · simp [hdigit, hsep]

/-- A number is read as one where digits begin. -/
theorem recognize_of_isDigit {c : Char} (hc : c.isDigit = true) (start : Nat) (rest : Text) :
    recognize start c rest = foundNumber start (c :: rest) := by
  have hne : ∀ d : Char, d.isDigit = false → c ≠ d := by
    rintro d hd rfl
    rw [hc] at hd
    cases hd
  have hspace : isSpace c = false := by
    simp [isSpace, hne ' ' rfl, hne '\t' rfl, hne '\r' rfl, hne '\n' rfl]
  have hassign : Kind.ofAssigning? c = none := by
    unfold Kind.ofAssigning?
    split <;> first | rfl | exact absurd hc (by decide)
  have hstring := hne '"' rfl
  have hchar := hne '\'' rfl
  rw [recognize]
  rw [if_neg (by simp [hspace]), if_neg hstring, if_neg hchar, hassign]
  simp [hc]

/-- A front that is a token without an unknown escape: the token comes first, and the faults are
those after it. -/
theorem from_of_token {start n : Nat} {c : Char} {rest : Text} {kind : Kind}
    {value : Option Literal} (h : recognize start c rest = ⟨n, .token kind value, []⟩) :
    tokensFrom start (c :: rest) =
        ⟨kind, start, (c :: rest).take n, value⟩ :: tokensFrom (start + n) ((c :: rest).drop n) ∧
      faultsFrom start (c :: rest) = faultsFrom (start + n) ((c :: rest).drop n) := by
  rw [tokensFrom_cons, faultsFrom_cons, front, h]
  exact ⟨rfl, rfl⟩

/-- The lexer reads such a text without a fault. -/
theorem Spelled.lexes {start : Nat} {s : Text} {ts : List Token} (h : Spelled start s ts) :
    tokensFrom start s = ts ∧ faultsFrom start s = [] := by
  induction h with
  | nil => simp
  | blank hc _ ih =>
    rw [(from_of_isSpace hc _ _).1, (from_of_isSpace hc _ _).2]
    exact ih
  | @sign start c kind s ts hc h ih =>
    have hnext : s.head? ≠ some '=' := fun hs => (h.head_ne hs).1 rfl
    obtain ⟨htokens, hfaults⟩ := from_of_token (recognize_of_ofSign? hc hnext start)
    rw [htokens, hfaults]
    simp [ih]
  | @number start ds s ts hds hdigits hlast hvalue h ih =>
    -- what follows is spelled too, so it does not go on with the number
    have hafter : ∀ d, s.head? = some d → d.isDigit = false ∧ d ≠ '.' ∧ d ≠ 'u' ∧ d ≠ 'f' :=
      fun d hd => ⟨hlast d hd, (h.head_ne hd).2⟩
    match ds, hds with
    | c :: ds, _ =>
      have hfound := recognize_of_isDigit (hdigits c List.mem_cons_self) start (ds ++ s)
      rw [← List.cons_append, foundNumber_digits hdigits hafter hvalue] at hfound
      obtain ⟨htokens, hfaults⟩ := from_of_token hfound
      rw [List.cons_append, htokens, hfaults, ← List.cons_append, List.take_left, List.drop_left,
        ih.1, ih.2]
      exact ⟨rfl, rfl⟩

/-! ## All other texts -/

theorem readString_content (start n : Nat) (value : Text) (escapes : List Diagnostic) (s : Text) :
    (readString start n value escapes s).content = .dropped (.openString start) ∨
      ∃ v, (readString start n value escapes s).content =
        .token .stringLiteral (some (.str v)) := by
  fun_induction readString start n value escapes s with
  | case1 | case3 | case4 | case5 => exact .inl rfl
  | case2 => exact .inr ⟨_, rfl⟩
  | case6 _ _ _ _ _ _ _ _ ih => exact ih
  | case7 _ _ _ _ _ _ _ ih => exact ih
  | case8 _ _ _ _ _ _ _ _ _ ih => exact ih

theorem closeChar_content (start n : Nat) (c : Char) (escapes : List Diagnostic) (s : Text) :
    (closeChar start n c escapes s).content = .dropped (.openChar start) ∨
      (closeChar start n c escapes s).content = .token .charLiteral (some (.char c)) := by
  unfold closeChar
  split
  · exact .inr rfl
  · exact .inl rfl

theorem readChar_content (start : Nat) (s : Text) :
    (∃ fault, (readChar start s).content = .dropped fault) ∨
      ∃ c, (readChar start s).content = .token .charLiteral (some (.char c)) := by
  have hclose : ∀ n c escapes s,
      (∃ fault, (closeChar start n c escapes s).content = .dropped fault) ∨
        ∃ c', (closeChar start n c escapes s).content = .token .charLiteral (some (.char c')) :=
    fun n c escapes s => (closeChar_content start n c escapes s).imp (⟨_, ·⟩) (⟨_, ·⟩)
  unfold readChar
  split
  · exact .inl ⟨_, rfl⟩
  · exact .inl ⟨_, rfl⟩
  · exact .inl ⟨_, rfl⟩
  · exact .inl ⟨_, rfl⟩
  · split
    · exact .inl ⟨_, rfl⟩
    · split <;> exact hclose _ _ _ _
  · exact hclose _ _ _ _

/-- The kind of a word is no kind of the grammar, no literal and not the end of file. -/
theorem Kind.ofWord?_getD (word : String) :
    ((ofWord? word).getD .identifier).isArithmetic = false ∧
      ((ofWord? word).getD .identifier).isQuoted = false ∧
      (ofWord? word).getD .identifier ≠ .endOfFile := by
  unfold ofWord?
  split <;> exact ⟨rfl, rfl, by decide⟩

theorem Kind.of_ofAssigning? {c : Char} {kind : Kind} (h : ofAssigning? c = some kind) :
    kind.isArithmetic = false ∧ kind.isQuoted = false ∧ kind ≠ .endOfFile := by
  unfold ofAssigning? at h
  split at h <;> cases h <;> exact ⟨rfl, rfl, by decide⟩

theorem Kind.of_ofSeparator? {c : Char} {kind : Kind} (h : ofSeparator? c = some kind) :
    kind.isQuoted = false ∧ kind ≠ .endOfFile := by
  unfold ofSeparator? at h
  split at h <;> cases h <;> exact ⟨rfl, by decide⟩

/-- The value of a number is none of a literal in quotes. -/
theorem Number.kind_value? {n : Number} {v : Literal} (h : n.value? = some v) :
    v.kind.isQuoted = false ∧ v.kind ≠ .endOfFile := by
  rw [value?] at h
  split at h
  · obtain ⟨x, -, rfl⟩ := Option.map_eq_some_iff.1 h
    exact ⟨rfl, by simp [Literal.kind]⟩
  · obtain ⟨x, -, rfl⟩ := Option.map_eq_some_iff.1 h
    exact ⟨rfl, by simp [Literal.kind]⟩
  · dsimp only at h
    split at h <;> cases h
    exact ⟨rfl, by simp [Literal.kind]⟩
  · dsimp only at h
    split at h <;> cases h
    exact ⟨rfl, by simp [Literal.kind]⟩

theorem foundNumber_content (start : Nat) (s : Text) :
    (∃ fault, (foundNumber start s).content = .dropped fault) ∨
      ∃ v : Literal, (v.kind.isQuoted = false ∧ v.kind ≠ .endOfFile) ∧
        (foundNumber start s).content = .token v.kind (some v) := by
  unfold foundNumber
  dsimp only
  split
  · rename_i v hv
    exact .inr ⟨v, Number.kind_value? hv, rfl⟩
  · exact .inl ⟨_, rfl⟩

/-- No front of a text is an end of file. -/
theorem recognize_kind_ne {start : Nat} {c : Char} {rest : Text} {kind : Kind}
    {value : Option Literal} (h : (recognize start c rest).content = .token kind value) :
    kind ≠ .endOfFile := by
  have hfront := recognize_front start c rest
  generalize recognize start c rest = found at hfront h
  cases hfront with
  | blank => cases h
  | string =>
    rcases readString_content start 1 [] [] rest with h' | ⟨v, h'⟩ <;> cases h'.symm.trans h
    decide
  | char =>
    rcases readChar_content start rest with ⟨fault, h'⟩ | ⟨v, h'⟩ <;> cases h'.symm.trans h
    decide
  | assigning hc =>
    cases h
    exact (Kind.of_ofAssigning? hc).2.2
  | number =>
    rcases foundNumber_content start (c :: rest) with ⟨fault, h'⟩ | ⟨v, hv, h'⟩ <;>
      cases h'.symm.trans h
    exact hv.2
  | separator hc =>
    cases h
    exact (Kind.of_ofSeparator? hc).2
  | word =>
    cases h
    exact (Kind.ofWord?_getD _).2.2

/-- The lexer makes no end of file. -/
theorem kind_ne_endOfFile {start : Nat} {s : Text} {t : Token} (h : t ∈ tokensFrom start s) :
    t.kind ≠ .endOfFile := by
  obtain ⟨before, c, rest, -, -, -, hcontent⟩ := mem_tokensFrom h
  exact recognize_kind_ne hcontent

/-- Without a fault in the text its front is not dropped. -/
theorem content_ne_dropped {start : Nat} {c : Char} {rest : Text}
    (h : faultsFrom start (c :: rest) = []) (fault : Diagnostic) :
    (recognize start c rest).content ≠ .dropped fault := by
  intro hcontent
  rw [faultsFrom_cons, front, Segment.diagnostics, Segment.fault?, hcontent] at h
  simp at h

/-- A front that is a token is among the tokens of the text. -/
theorem isArithmetic_of_content {start : Nat} {c : Char} {rest : Text}
    (h : ∀ t ∈ tokensFrom start (c :: rest), t.kind.isArithmetic = true) (kind : Kind)
    (value : Option Literal) (hcontent : (recognize start c rest).content = .token kind value) :
    kind.isArithmetic = true := by
  refine h ⟨kind, start, (c :: rest).take (recognize start c rest).length, value⟩ ?_
  rw [tokensFrom_cons, front, Segment.token?, hcontent]
  simp

/-- A front that is a number of the grammar is made of digits alone. -/
theorem foundNumber_of_arithmetic {start : Nat} {c : Char} {rest : Text} (hc : c.isDigit = true)
    (hdropped : ∀ fault, (foundNumber start (c :: rest)).content ≠ .dropped fault)
    (hkind : ∀ kind value, (foundNumber start (c :: rest)).content = .token kind value →
      kind.isArithmetic = true) :
    ∃ ds after, c :: rest = ds ++ after ∧ ds ≠ [] ∧ (∀ d ∈ ds, d.isDigit = true) ∧
      (∀ d, after.head? = some d → d.isDigit = false) ∧ Number.natOfDigits ds ≤ 2147483647 ∧
      foundNumber start (c :: rest) = ⟨ds.length,
        .token .intLiteral (some (.int (Int32.ofNat (Number.natOfDigits ds)))), []⟩ := by
  have hwhole := readNumber_whole (c :: rest)
  have hsuffix := readNumber_suffix (c :: rest)
  unfold foundNumber at hdropped hkind ⊢
  dsimp only at hdropped hkind ⊢
  -- only the digits before the point and the suffix matter from here on
  generalize (readNumber (c :: rest)).1 = n at hwhole hsuffix hdropped hkind ⊢
  rcases hv : n.value? with _ | v
  · rw [hv] at hdropped
    exact absurd rfl (hdropped _)
  · rw [hv] at hkind
    obtain ⟨i, rfl⟩ : ∃ i, v = .int i := by
      have := hkind _ _ rfl
      cases v <;> first | exact ⟨_, rfl⟩ | cases this
    obtain ⟨hn, hvalue, rfl⟩ := Number.value?_eq_int hsuffix hv
    refine ⟨n.whole, (c :: rest).dropWhile Char.isDigit, ?_, ?_, ?_, ?_, hvalue, ?_⟩
    · rw [hwhole, List.takeWhile_append_dropWhile]
    · simp [hwhole, hc]
    · rw [hwhole]
      exact fun d hd => List.mem_takeWhile_imp hd
    · intro d hd
      have hlast := List.head?_dropWhile_not Char.isDigit (c :: rest)
      rw [hd] at hlast
      simpa using hlast
    · rw [hn]
      simp [Number.length, Literal.kind]

/-- A text that the lexer reads without a fault, and of whose tokens the grammar knows all
kinds, is made of blanks, signs and numbers. -/
theorem Spelled.of_lexes {start : Nat} {s : Text} (hfaults : faultsFrom start s = [])
    (hkinds : ∀ t ∈ tokensFrom start s, t.kind.isArithmetic = true) :
    Spelled start s (tokensFrom start s) := by
  match s with
  | [] =>
    rw [tokensFrom_nil]
    exact .nil
  | c :: rest =>
    have hdropped := content_ne_dropped hfaults
    have hkind := isArithmetic_of_content hkinds
    have hfront := recognize_front start c rest
    generalize hfound : recognize start c rest = found at hfront hdropped hkind
    cases hfront with
    | blank hc =>
      obtain ⟨htokens, hfaults'⟩ := from_of_isSpace hc start rest
      rw [htokens] at hkinds ⊢
      exact .blank hc (Spelled.of_lexes (hfaults' ▸ hfaults) hkinds)
    | string =>
      -- a string is a fault or a token of its own kind, and so is a character
      rcases readString_content start 1 [] [] rest with h | ⟨v, h⟩
      · exact absurd h (hdropped _)
      · cases hkind _ _ h
    | char =>
      rcases readChar_content start rest with ⟨fault, h⟩ | ⟨v, h⟩
      · exact absurd h (hdropped _)
      · cases hkind _ _ h
    | assigning hc =>
      have := hkind _ _ rfl
      rw [(Kind.of_ofAssigning? hc).1] at this
      cases this
    | number hc =>
      obtain ⟨ds, after, hsplit, hds, hdigits, hlast, hvalue, hnumber⟩ :=
        foundNumber_of_arithmetic hc hdropped hkind
      obtain ⟨htokens, hfaults'⟩ := from_of_token (hfound.trans hnumber)
      rw [hsplit, List.take_left, List.drop_left] at htokens
      rw [hsplit, List.drop_left] at hfaults'
      rw [hsplit] at hfaults hkinds ⊢
      rw [htokens] at hkinds ⊢
      exact .number hds hdigits hlast hvalue
        (Spelled.of_lexes (hfaults'.symm.trans hfaults)
          fun t ht => hkinds t (List.mem_cons_of_mem _ ht))
    | @separator kind hc =>
      have hsign : Kind.ofSign? c = some kind :=
        Kind.ofSign?_eq_some_iff.2 ⟨hc, hkind _ _ rfl⟩
      obtain ⟨htokens, hfaults'⟩ := from_of_token hfound
      simp only [List.take_succ_cons, List.take_zero, List.drop_succ_cons, List.drop_zero]
        at htokens hfaults'
      rw [htokens] at hkinds ⊢
      exact .sign hsign
        (Spelled.of_lexes (hfaults'.symm.trans hfaults)
          fun t ht => hkinds t (List.mem_cons_of_mem _ ht))
    | word =>
      have := hkind _ _ rfl
      rw [(Kind.ofWord?_getD _).1] at this
      cases this
termination_by s.length
decreasing_by
  · simp
  · have := congrArg List.length hsplit
    have := List.length_pos_iff.2 hds
    simp only [List.length_append, List.length_cons] at *
    omega
  · simp

/-- The token is a number with the value of its digits, or it stands where its sign is in the
text, whose offset is `start`. -/
def Token.StandsIn (t : Token) (start : Nat) (s : Text) : Prop :=
  (t.kind = .intLiteral ∧ ∃ v, t.value = some (.int v) ∧
    v.toInt = Number.natOfDigits t.lexeme) ∨
    ∃ c, Kind.ofSign? c = some t.kind ∧ start ≤ t.position ∧ s[t.position - start]? = some c

theorem Token.StandsIn.append {t : Token} {start : Nat} {s : Text} (before : Text)
    (h : t.StandsIn (start + before.length) s) : t.StandsIn start (before ++ s) := by
  rcases h with hnum | ⟨c, hc, hle, hget⟩
  · exact .inl hnum
  · refine .inr ⟨c, hc, by omega, ?_⟩
    rw [List.getElem?_append_right (by omega), Nat.sub_sub]
    exact hget

/-- The tokens of such a text stand where their signs are. -/
theorem Spelled.mem {start : Nat} {s : Text} {ts : List Token} (h : Spelled start s ts) {t : Token}
    (ht : t ∈ ts) : t.StandsIn start s := by
  induction h with
  | nil => cases ht
  | @blank start c _ _ _ _ ih => exact (ih ht).append [c]
  | @sign start c kind _ _ hc _ ih =>
    rcases List.mem_cons.1 ht with rfl | ht
    · exact .inr ⟨c, hc, Nat.le_refl _, by simp⟩
    · exact (ih ht).append [c]
  | @number start ds _ _ _ _ _ hvalue _ ih =>
    rcases List.mem_cons.1 ht with rfl | ht
    · exact .inl ⟨rfl, _, rfl, Int32.toInt_ofNat_of_lt (by omega)⟩
    · exact (ih ht).append ds

/-- **The texts of arithmetic**: the lexer reads a text without a fault and into tokens of the
grammar's kinds if and only if it is made of blanks, signs and numbers. -/
theorem spelled_iff {start : Nat} {s : Text} {ts : List Token} :
    Spelled start s ts ↔ faultsFrom start s = [] ∧ tokensFrom start s = ts ∧
      ∀ t ∈ ts, t.kind.isArithmetic = true := by
  constructor
  · intro h
    refine ⟨h.lexes.2, h.lexes.1, fun t ht => ?_⟩
    rcases h.mem ht with ⟨hkind, -⟩ | ⟨c, hc, -⟩
    · rw [hkind]
      rfl
    · exact (Kind.ofSign?_eq_some_iff.1 hc).2
  · rintro ⟨hfaults, rfl, hkinds⟩
    exact .of_lexes hfaults hkinds

end Reckon
