import Reckon.Proofs.Numerals
import Reckon.Proofs.RoundTrip

/-!
# Literals as they are printed

The printed form of a literal is its source form, as far as it has one: the lexer reads it as one
token with the same value. Printing and reading are two tables. Quoted text has a short escape for
five characters and for the quote around it, and leaves the other kind of quote alone; the lexer
knows seven escapes, and the same in both kinds of quotes.

* `Text.Legible`: the characters that are quoted as they are or by a short escape.
* `Text.Legible.cases`: how the lexer reads what is written for them.
* `Literal.HasSource`: the literals whose printed form is a source form.
* `tokens_display`: **printed literals are read back**.
-/

namespace Reckon

/-! ## One character -/

/-- Between two `quote` characters the character stands for itself, or has an escape of two
characters. -/
def Text.Legible (quote c : Char) : Prop :=
  Text.escape quote c = [c] ∨ ∃ letter, Text.escape quote c = ['\\', letter]

/-- Every short escape is one that the lexer knows. -/
theorem unescape?_of_shortEscape? {c letter : Char} (h : Text.shortEscape? c = some letter) :
    unescape? letter = some c := by
  unfold Text.shortEscape? at h
  split at h <;> cases h <;> rfl

/-- Newlines and backslashes have a short escape. -/
theorem plain_of_shortEscape? {c : Char} (h : Text.shortEscape? c = none) :
    c ≠ '\n' ∧ c ≠ '\\' := by
  constructor
  · rintro rfl
    cases h
  · rintro rfl
    cases h

/-- A legible character is written as itself, and then it is nothing that the lexer would take for
something else, or by an escape that the lexer knows. -/
theorem Text.Legible.cases {quote c : Char} (h : Text.Legible quote c)
    (hquote : unescape? quote = some quote) :
    (Text.escape quote c = [c] ∧ c ≠ quote ∧ c ≠ '\n' ∧ c ≠ '\\') ∨
      ∃ letter, Text.escape quote c = ['\\', letter] ∧ letter ≠ '\n' ∧
        unescape? letter = some c := by
  have hknown : ∀ {letter : Char}, unescape? letter = some c → letter ≠ '\n' := by
    rintro letter hletter rfl
    cases hletter
  rw [Text.Legible] at h
  rw [Text.escape] at h ⊢
  rcases hshort : Text.shortEscape? c with _ | letter
  · rw [hshort] at h
    obtain ⟨hnewline, hbackslash⟩ := plain_of_shortEscape? hshort
    dsimp only at h ⊢
    by_cases hc : c = quote
    · subst hc
      rw [if_pos rfl]
      exact .inr ⟨c, rfl, hknown hquote, hquote⟩
    · rw [if_neg hc] at h ⊢
      split at h
      · rename_i hshown
        exact .inl ⟨if_pos hshown, hc, hnewline, hbackslash⟩
      · -- a code point takes more than two characters
        simp at h
  · have hletter := unescape?_of_shortEscape? hshort
    exact .inr ⟨letter, rfl, hknown hletter, hletter⟩

/-! ## Literals in quotes -/

/-- A character of a quoted text is read back. -/
theorem readString_escape {c : Char} (h : Text.Legible '"' c) (start n : Nat) (value : Text)
    (escapes : List Diagnostic) (rest : Text) :
    readString start n value escapes (Text.escape '"' c ++ rest) =
      readString start (n + (Text.escape '"' c).length) (c :: value) escapes rest := by
  rcases h.cases rfl with ⟨hescape, hquote, hnewline, hbackslash⟩ |
    ⟨letter, hescape, hnewline, hletter⟩
  · rw [hescape]
    exact readString_plain hquote hnewline hbackslash start n value escapes rest
  · rw [hescape]
    exact readString_known hnewline hletter start n value escapes rest

/-- A quoted text is read back, up to the quote at its end. -/
theorem readString_quoted {s : Text} (h : ∀ c ∈ s, Text.Legible '"' c) (start n : Nat)
    (value : Text) (escapes : List Diagnostic) (rest : Text) :
    readString start n value escapes (s.flatMap (Text.escape '"') ++ '"' :: rest) =
      ⟨n + (s.flatMap (Text.escape '"')).length + 1,
        .token .stringLiteral (some (.str (value.reverse ++ s))), escapes.reverse⟩ := by
  induction s generalizing n value with
  | nil => simp [readString]
  | cons c s ih =>
    obtain ⟨hc, hs⟩ := List.forall_mem_cons.1 h
    rw [List.flatMap_cons, List.append_assoc, readString_escape hc, ih hs]
    simp [Nat.add_assoc]

/-- A quoted character is read back. -/
theorem readChar_quoted {c : Char} (h : Text.Legible '\'' c) (start : Nat) (rest : Text) :
    readChar start (Text.escape '\'' c ++ '\'' :: rest) =
      ⟨(Text.escape '\'' c).length + 2, .token .charLiteral (some (.char c)), []⟩ := by
  rcases h.cases rfl with ⟨hescape, hquote, hnewline, hbackslash⟩ |
    ⟨letter, hescape, hnewline, hletter⟩
  · rw [hescape]
    exact readChar_plain hnewline hquote hbackslash start ('\'' :: rest)
  · rw [hescape]
    exact readChar_known hnewline hletter start ('\'' :: rest)

/-! ## Numbers -/

/-- Digits with a suffix or without, and nothing behind them, are one literal if their value has the
type. -/
theorem recognize_numeral {d : Char} {ds : Text} (hdigits : ∀ c ∈ d :: ds, c.isDigit = true)
    {suffix : Option NumberType} (hsuffix : ∀ t, suffix = some t → t = .uint ∨ t = .float)
    {v : Literal} (hv : Number.value? ⟨d :: ds, none, suffix⟩ = some v) :
    recognize 0 d (ds ++ suffix.elim [] NumberType.letter) =
      ⟨(d :: (ds ++ suffix.elim [] NumberType.letter)).length, .token v.kind (some v), []⟩ := by
  have hn : Number.Readable ⟨d :: ds, none, suffix⟩ := ⟨hdigits, by simp, hsuffix⟩
  have hspelling : Number.spelling ⟨d :: ds, none, suffix⟩ =
      d :: (ds ++ suffix.elim [] NumberType.letter) := rfl
  have hread : readNumber (d :: (ds ++ suffix.elim [] NumberType.letter)) =
      (⟨d :: ds, none, suffix⟩, []) := by
    refine readNumber_eq_iff.2 ⟨hn, ?_, ?_⟩
    · intro _ c hc
      cases hc
    · rw [hspelling, List.append_nil]
  rw [recognize_of_readNumber (hdigits d List.mem_cons_self) hread, hspelling, Number.content, hv]
  rfl

/-! ## Printed literals -/

/-- The literals whose printed form is a source form: integers without a sign, and what can be
quoted without code points. -/
def Literal.HasSource : Literal → Prop
  | .int n => 0 ≤ n.toInt
  | .uint _ => True
  | .char c => Text.Legible '\'' c
  | .str s => ∀ c ∈ s, Text.Legible '"' c
  | .float _ | .double _ => False

/-- An unsigned integer is written in digits, which stand for it, and a letter. -/
theorem display_uint (n : UInt32) :
    ∃ ds, (Literal.uint n).display.toList = ds ++ ['u'] ∧ ds ≠ [] ∧
      (∀ d ∈ ds, d.isDigit = true) ∧ Number.natOfDigits ds = n.toNat := by
  refine ⟨Nat.toDigits 10 n.toNat, ?_, Nat.toDigits_ne_nil, ?_, Nat.ofDigitChars_ten_toDigits⟩
  · rw [Literal.display, String.toList_append, Nat.toString_eq_repr, Nat.toList_repr]
    rfl
  · intro d hd
    exact Nat.isDigit_of_mem_toDigits (by decide) (by decide) hd

/-- The lexer recognises a printed literal, and takes all of it. -/
theorem Literal.HasSource.recognize {v : Literal} (h : v.HasSource) :
    ∃ c rest, v.display.toList = c :: rest ∧
      Reckon.recognize 0 c rest = ⟨(c :: rest).length, .token v.kind (some v), []⟩ := by
  cases v with
  | int n =>
    obtain ⟨ds, hdisplay, hne, hdigits, hmax, hvalue⟩ := display_int h
    obtain ⟨d, ds, rfl⟩ := List.exists_cons_of_ne_nil hne
    have hv : Number.value? ⟨d :: ds, none, none⟩ = some (.int n) := by
      rw [Number.value?]
      simp only [Number.type, Option.isNone_none, true_and, hvalue]
      exact if_pos hmax
    have hfound := recognize_numeral hdigits (by simp) hv
    rw [Option.elim_none, List.append_nil] at hfound
    exact ⟨d, ds, hdisplay, hfound⟩
  | uint n =>
    obtain ⟨ds, hdisplay, hne, hdigits, hvalue⟩ := display_uint n
    obtain ⟨d, ds, rfl⟩ := List.exists_cons_of_ne_nil hne
    have hv : Number.value? ⟨d :: ds, none, some .uint⟩ = some (.uint n) := by
      have hlt := n.toNat_lt
      rw [Number.value?]
      simp only [Number.type, Option.isNone_none, true_and, hvalue, UInt32.ofNat_toNat]
      exact if_pos (by omega)
    exact ⟨d, ds ++ ['u'], hdisplay, recognize_numeral hdigits (by simp) hv⟩
  | float | double => exact absurd h id
  | char c =>
    refine ⟨'\'', Text.escape '\'' c ++ ['\''], ?_, ?_⟩
    · simp [Literal.display, Text.quotedChar, Text.quotedWith]
    · rw [recognize_apostrophe, readChar_quoted h]
      simp [Literal.kind]
  | str s =>
    refine ⟨'"', s.flatMap (Text.escape '"') ++ ['"'], ?_, ?_⟩
    · simp [Literal.display, Text.quoted, Text.quotedWith]
    · rw [recognize_quote, readString_quoted h]
      simp [Literal.kind, Nat.add_comm]

/-- **Printed literals are read back.** The printed form of a signed integer from zero on, of an
unsigned integer, and of a character or a text that is quoted without code points is one token: it
has the literal as its value and the whole printed form as its lexeme, and there is no fault. -/
theorem tokens_display {v : Literal} (h : v.HasSource) :
    tokens v.display.toList = [.literal v 0 v.display.toList] ∧
      lexicalDiagnostics v.display.toList = [] := by
  obtain ⟨c, rest, hdisplay, hfound⟩ := h.recognize
  obtain ⟨htokens, hfaults⟩ := from_of_token hfound
  rw [List.take_length, List.drop_length, tokensFrom_nil] at htokens
  rw [List.drop_length, faultsFrom_nil] at hfaults
  rw [hdisplay]
  exact ⟨htokens, hfaults⟩

/-- A text with both kinds of quotes, a backslash, a newline and NUL, and the greatest unsigned
integer. -/
theorem tokens_display_escapes :
    let v := Literal.str ['"', '\'', '\\', '\n', '\x00', 'é']
    (v.HasSource ∧ v.display = "\"\\\"'\\\\\\n\\0é\"") ∧
      tokens v.display.toList = [.literal v 0 v.display.toList] ∧
      tokens "4294967295u".toList = [.literal (.uint 4294967295) 0 "4294967295u".toList] := by
  intro v
  have hv : v.HasSource := by
    intro c hc
    simp only [List.mem_cons, List.not_mem_nil, or_false] at hc
    rcases hc with rfl | rfl | rfl | rfl | rfl | rfl
    · exact .inr ⟨'"', by decide +kernel⟩
    · exact .inl (by decide +kernel)
    · exact .inr ⟨'\\', by decide +kernel⟩
    · exact .inr ⟨'n', by decide +kernel⟩
    · exact .inr ⟨'0', by decide +kernel⟩
    · exact .inl (by decide +kernel)
  have huint : (Literal.uint 4294967295).display = "4294967295u" := by decide +kernel
  refine ⟨⟨hv, by decide +kernel⟩, (tokens_display hv).1, ?_⟩
  rw [← huint]
  exact (tokens_display (v := .uint 4294967295) trivial).1

end Reckon
