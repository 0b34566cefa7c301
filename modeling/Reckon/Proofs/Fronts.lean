import Mathlib.Data.List.TakeWhile
import Reckon.Proofs.Lexing

/-!
# What the front of a text depends on

The lexer looks at the front of a text and takes a piece of it. This module says which piece, and
on what of the text around it the answer depends.

* `Number.spelling`, `readNumber_eq_iff`: **how a number is cut**, as an equivalence.
* `Cut`: the piece that a reader takes. A token does not depend on what follows it, if that is a
  blank or nothing. One lemma for each reader, and `recognize_cut` for all of them.
* `unknownEscapes`: the unknown escapes in a literal, read off the literal itself.
* `recognize_append_newline`: a newline further on is as good as the end of the text.
* `recognize_shift`: the place of the text changes nothing but the places of the faults.
-/

namespace Reckon

/-! ## Runs of characters -/

/-- A run of characters ends where a character of another class follows. -/
theorem takeWhile_append_of_head {p : Char → Bool} {after : Text}
    (h : ∀ c, after.head? = some c → p c = false) (s : Text) :
    (s ++ after).takeWhile p = s.takeWhile p := by
  induction s with
  | nil =>
    rcases after with _ | ⟨c, after⟩
    · rfl
    · simp [h c rfl]
  | cons c s ih => simp only [List.cons_append, List.takeWhile_cons, ih]

theorem dropWhile_append_of_head {p : Char → Bool} {after : Text}
    (h : ∀ c, after.head? = some c → p c = false) (s : Text) :
    (s ++ after).dropWhile p = s.dropWhile p ++ after := by
  induction s with
  | nil =>
    rcases after with _ | ⟨c, after⟩
    · rfl
    · simp [h c rfl]
  | cons c s ih =>
    rw [List.cons_append, List.dropWhile_cons, List.dropWhile_cons, ih]
    split <;> rfl

/-- A run of digits ends where something else follows. -/
theorem span_digits {ds after : Text} (hds : ∀ d ∈ ds, d.isDigit = true)
    (hafter : ∀ d, after.head? = some d → d.isDigit = false) :
    (ds ++ after).takeWhile Char.isDigit = ds ∧ (ds ++ after).dropWhile Char.isDigit = after := by
  rw [takeWhile_append_of_head hafter, dropWhile_append_of_head hafter]
  exact ⟨List.takeWhile_eq_self_iff.2 hds, by rw [List.dropWhile_eq_nil_iff.2 hds]; rfl⟩

/-- The first character after a run of digits is no digit. -/
theorem isDigit_of_head?_dropWhile {s : Text} {d : Char}
    (h : (s.dropWhile Char.isDigit).head? = some d) : d.isDigit = false := by
  have hnot := List.head?_dropWhile_not Char.isDigit s
  rw [h] at hnot
  simpa using hnot

/-! ## Numbers -/

/-- The letter of a suffix. -/
def NumberType.letter : NumberType → Text
  | .uint => ['u']
  | .float => ['f']
  | .int | .double => []

namespace Number

/-- The number as it is written. -/
def spelling (n : Number) : Text :=
  n.whole ++ (n.fraction.elim [] ('.' :: ·) ++ n.suffix.elim [] NumberType.letter)

/-- The numbers that can be written. -/
structure Readable (n : Number) : Prop where
  /-- digits before the point -/
  whole : ∀ d ∈ n.whole, d.isDigit = true
  /-- digits after the point -/
  fraction : ∀ places, n.fraction = some places → ∀ d ∈ places, d.isDigit = true
  /-- one of the two suffixes, or none -/
  suffix : ∀ type, n.suffix = some type → type = .uint ∨ type = .float

/-- The text does not go on with the number. After a suffix anything may follow. -/
def EndsBefore (n : Number) (after : Text) : Prop :=
  n.suffix = none → ∀ d, after.head? = some d →
    d.isDigit = false ∧ d ≠ 'u' ∧ d ≠ 'f' ∧ (n.fraction = none → d ≠ '.')

theorem length_spelling {n : Number} (h : n.Readable) : n.spelling.length = n.length := by
  obtain ⟨whole, fraction, suffix⟩ := n
  rcases suffix with _ | type
  · cases fraction <;> simp [spelling, Number.length]
  · rcases h.suffix type rfl with rfl | rfl <;> cases fraction <;>
      simp [spelling, Number.length, NumberType.letter] <;> omega

end Number

/-- The end of a number: its suffix, and what follows. -/
def readSuffix (whole : Text) (fraction : Option Text) : Text → Number × Text
  | 'u' :: rest => (⟨whole, fraction, some .uint⟩, rest)
  | 'f' :: rest => (⟨whole, fraction, some .float⟩, rest)
  | rest => (⟨whole, fraction, none⟩, rest)

theorem readNumber_of_dot {s rest : Text} (h : s.dropWhile Char.isDigit = '.' :: rest) :
    readNumber s = readSuffix (s.takeWhile Char.isDigit) (some (rest.takeWhile Char.isDigit))
      (rest.dropWhile Char.isDigit) := by
  rw [readNumber, h]
  rfl

theorem readNumber_of_no_dot {s : Text} (h : (s.dropWhile Char.isDigit).head? ≠ some '.') :
    readNumber s = readSuffix (s.takeWhile Char.isDigit) none (s.dropWhile Char.isDigit) := by
  rw [readNumber]
  generalize s.dropWhile Char.isDigit = tail at *
  split
  rename_i fraction rest hpoint
  split at hpoint
  · exact absurd rfl h
  · cases hpoint
    rfl

/-- What is read as the suffix, whatever stands before it. -/
theorem readSuffix_sound (whole : Text) (fraction : Option Text) (s : Text) :
    ∃ suffix after, readSuffix whole fraction s = (⟨whole, fraction, suffix⟩, after) ∧
      s = suffix.elim [] NumberType.letter ++ after ∧
      (∀ type, suffix = some type → type = .uint ∨ type = .float) ∧
      (suffix = none → s = after ∧ ∀ d, s.head? = some d → d ≠ 'u' ∧ d ≠ 'f') := by
  unfold readSuffix
  split
  · exact ⟨some .uint, _, rfl, rfl, by simp, by simp⟩
  · exact ⟨some .float, _, rfl, rfl, by simp, by simp⟩
  · rename_i hu hf
    refine ⟨none, s, rfl, rfl, by simp, fun _ => ⟨rfl, fun d hd => ?_⟩⟩
    obtain ⟨rest, rfl⟩ := List.head?_eq_some_iff.1 hd
    refine ⟨?_, ?_⟩
    · rintro rfl
      exact hu rest rfl
    · rintro rfl
      exact hf rest rfl

theorem readSuffix_letter {n : Number} {after : Text} (hn : n.Readable)
    (hafter : n.EndsBefore after) :
    readSuffix n.whole n.fraction (n.suffix.elim [] NumberType.letter ++ after) = (n, after) := by
  obtain ⟨whole, fraction, suffix⟩ := n
  rcases suffix with _ | type
  · rcases after with _ | ⟨d, after⟩
    · rfl
    · obtain ⟨-, hu, hf, -⟩ := hafter rfl d rfl
      simp [readSuffix, hu, hf]
  · rcases hn.suffix type rfl with rfl | rfl <;> rfl

/-- What is read as a number is written so. -/
theorem readNumber_sound (s : Text) :
    ∃ n after, readNumber s = (n, after) ∧ n.Readable ∧ n.EndsBefore after ∧
      s = n.spelling ++ after := by
  have hdigits : ∀ s : Text, ∀ d ∈ s.takeWhile Char.isDigit, d.isDigit = true :=
    fun s d hd => List.mem_takeWhile_imp hd
  by_cases hdot : (s.dropWhile Char.isDigit).head? = some '.'
  · obtain ⟨rest, hrest⟩ := List.head?_eq_some_iff.1 hdot
    obtain ⟨suffix, after, hread, htail, hsuffix, hnone⟩ := readSuffix_sound
      (s.takeWhile Char.isDigit) (some (rest.takeWhile Char.isDigit)) (rest.dropWhile Char.isDigit)
    refine ⟨_, after, (readNumber_of_dot hrest).trans hread, ⟨hdigits s, ?_, hsuffix⟩, ?_, ?_⟩
    · intro places hplaces
      obtain rfl := Option.some.inj hplaces
      exact hdigits rest
    · intro h d hd
      obtain ⟨rfl, hletter⟩ := hnone h
      obtain ⟨hu, hf⟩ := hletter d hd
      exact ⟨isDigit_of_head?_dropWhile hd, hu, hf, by simp⟩
    · rw [Number.spelling, List.append_assoc, List.append_assoc, ← htail, Option.elim_some,
        List.cons_append, List.takeWhile_append_dropWhile, ← hrest, List.takeWhile_append_dropWhile]
  · obtain ⟨suffix, after, hread, htail, hsuffix, hnone⟩ := readSuffix_sound
      (s.takeWhile Char.isDigit) none (s.dropWhile Char.isDigit)
    refine ⟨_, after, (readNumber_of_no_dot hdot).trans hread, ⟨hdigits s, by simp, hsuffix⟩, ?_,
      ?_⟩
    · intro h d hd
      obtain ⟨rfl, hletter⟩ := hnone h
      obtain ⟨hu, hf⟩ := hletter d hd
      refine ⟨isDigit_of_head?_dropWhile hd, hu, hf, ?_⟩
      rintro - rfl
      exact hdot hd
    · rw [Number.spelling, List.append_assoc, List.append_assoc, ← htail, Option.elim_none,
        List.nil_append, List.takeWhile_append_dropWhile]

/-- The digits of a number end with its suffix, or where the text does not go on with it. -/
theorem Number.Readable.head_suffix {n : Number} {after : Text} (hn : n.Readable)
    (hafter : n.EndsBefore after) {d : Char}
    (hd : (n.suffix.elim [] NumberType.letter ++ after).head? = some d) :
    d.isDigit = false ∧ (n.fraction = none → d ≠ '.') := by
  rcases hsuffix : n.suffix with _ | type
  · rw [hsuffix] at hd
    obtain ⟨hdigit, -, -, hdot⟩ := hafter hsuffix d hd
    exact ⟨hdigit, hdot⟩
  · rw [hsuffix] at hd
    rcases hn.suffix type hsuffix with rfl | rfl <;> obtain rfl := Option.some.inj hd <;>
      exact ⟨rfl, fun _ => by decide⟩

/-- A number that can be written is read back, where the text does not go on with it. -/
theorem readNumber_spelling {n : Number} {after : Text} (hn : n.Readable)
    (hafter : n.EndsBefore after) : readNumber (n.spelling ++ after) = (n, after) := by
  have htail : ∀ d, (n.suffix.elim [] NumberType.letter ++ after).head? = some d →
      d.isDigit = false ∧ (n.fraction = none → d ≠ '.') := fun _ => hn.head_suffix hafter
  rw [Number.spelling, List.append_assoc, List.append_assoc]
  rw [← readSuffix_letter hn hafter]
  -- from here on the suffix and what follows are one text that begins with no digit
  generalize n.suffix.elim [] NumberType.letter ++ after = tail at htail ⊢
  rcases hfraction : n.fraction with _ | places
  · obtain ⟨htake, hdrop⟩ := span_digits hn.whole fun d hd => (htail d hd).1
    rw [Option.elim_none, List.nil_append, readNumber_of_no_dot, htake, hdrop]
    rw [hdrop]
    exact fun h => (htail _ h).2 hfraction rfl
  · have hdot : ∀ d, ('.' :: (places ++ tail)).head? = some d → d.isDigit = false := by
      rintro d hd
      obtain rfl := Option.some.inj hd
      rfl
    obtain ⟨htake, hdrop⟩ := span_digits hn.whole hdot
    obtain ⟨hplaces, hrest⟩ := span_digits (hn.fraction places hfraction) fun d hd => (htail d hd).1
    rw [Option.elim_some, List.cons_append, readNumber_of_dot hdrop, htake, hplaces, hrest]

/-- **How a number is cut.** The number is what stands at the front of the text, and the text after
it does not go on with it. -/
theorem readNumber_eq_iff {s after : Text} {n : Number} :
    readNumber s = (n, after) ↔ n.Readable ∧ n.EndsBefore after ∧ s = n.spelling ++ after := by
  constructor
  · intro h
    obtain ⟨n', after', h', hsound⟩ := readNumber_sound s
    cases h'.symm.trans h
    exact hsound
  · rintro ⟨hn, hafter, rfl⟩
    exact readNumber_spelling hn hafter

/-! ## The piece that is taken -/

/-- The text is at its end, or goes on with a blank. -/
def AtBlank (s : Text) : Prop := ∀ d, s.head? = some d → isSpace d = true

/-- A reader has read `n` characters, and takes `body` of the text that follows. If it finds a
token, this does not depend on what stands after `body`, so long as it is a blank or nothing. -/
structure Cut (read : Text → Found) (n : Nat) (body after s : Text) : Prop where
  /-- the piece is at the front of the text -/
  split : s = body ++ after
  /-- it reaches as far as the reader says -/
  length : (read s).length = n + body.length
  /-- it can be read without what follows -/
  closed : ∀ kind value, (read s).content = .token kind value → ∀ rest, AtBlank rest →
    read (body ++ rest) = read s

/-- A reader that passes characters over and then reads as another does. -/
theorem Cut.push {read other : Text → Found} {n m : Nat} {body after s : Text}
    (h : Cut other m body after s) (front : Text) (hm : m = n + front.length)
    (heq : ∀ t, read (front ++ t) = other t) : Cut read n (front ++ body) after (front ++ s) where
  split := by rw [h.split, List.append_assoc]
  length := by rw [heq, h.length, hm, List.length_append, Nat.add_assoc]
  closed kind value htoken rest hrest := by
    rw [heq] at htoken ⊢
    rw [List.append_assoc, heq]
    exact h.closed kind value htoken rest hrest

/-- A piece that is dropped. -/
theorem Cut.of_dropped {read : Text → Found} {n : Nat} {body after s : Text} {fault : Diagnostic}
    (hsplit : s = body ++ after) (hlength : (read s).length = n + body.length)
    (h : (read s).content = .dropped fault) : Cut read n body after s :=
  ⟨hsplit, hlength, fun _ _ htoken => by cases h.symm.trans htoken⟩

theorem isSpace_cases {c : Char} (h : isSpace c = true) :
    c = ' ' ∨ c = '\t' ∨ c = '\r' ∨ c = '\n' := by
  simpa [isSpace, or_assoc] using h

/-- A newline is a blank. -/
theorem atBlank_newline (b : Text) : AtBlank ('\n' :: b) := by
  intro d hd
  obtain rfl := Option.some.inj hd
  rfl

/-- A blank goes on with no number, and neither does the end of the text. -/
theorem AtBlank.endsBefore {after : Text} (h : AtBlank after) (n : Number) :
    n.EndsBefore after := by
  intro _ d hd
  rcases isSpace_cases (h d hd) with rfl | rfl | rfl | rfl <;>
    exact ⟨rfl, by decide, by decide, fun _ => by decide⟩

theorem Number.EndsBefore.append {n : Number} {after rest : Text} (h : n.EndsBefore after)
    (hrest : n.EndsBefore rest) : n.EndsBefore (after ++ rest) := by
  rcases after with _ | ⟨d, after⟩
  · exact hrest
  · exact h

theorem foundNumber_escapes (start : Nat) (s : Text) : (foundNumber start s).escapes = [] := by
  rw [foundNumber]
  split <;> rfl

theorem foundNumber_cut (start : Nat) (s : Text) :
    ∃ body after, Cut (foundNumber start) 0 body after s := by
  obtain ⟨n, after, hread, hn, -, rfl⟩ := readNumber_sound s
  refine ⟨n.spelling, after, rfl, ?_, fun _ _ _ rest hrest => ?_⟩
  · rw [Number.length_spelling hn, Nat.zero_add, foundNumber, hread]
    dsimp only
    split <;> rfl
  · have hrest' := readNumber_eq_iff.2 ⟨hn, hrest.endsBefore n, rfl⟩
    rw [foundNumber, foundNumber, hread, hrest', ← Number.length_spelling hn, List.take_left,
      List.take_left]

theorem foundNumber_append_newline (start : Nat) (s b : Text) :
    foundNumber start (s ++ '\n' :: b) = foundNumber start s := by
  obtain ⟨n, after, hread, hn, hafter, rfl⟩ := readNumber_sound s
  have hread' :=
    readNumber_eq_iff.2 ⟨hn, hafter.append ((atBlank_newline b).endsBefore n), rfl⟩
  rw [← List.append_assoc] at hread'
  rw [foundNumber, foundNumber, hread, hread', ← Number.length_spelling hn, List.append_assoc,
    List.take_left, List.take_left]

/-! ## Literals in quotes -/

/-- The unknown escapes in the literal, or the piece of a literal, whose offset is `start`. A
backslash and the character after it are read as one. -/
def unknownEscapes (start : Nat) : Text → List Diagnostic
  | '\\' :: c :: rest =>
    (if (unescape? c).isNone then [.badEscape c start] else []) ++ unknownEscapes (start + 2) rest
  | _ :: rest => unknownEscapes (start + 1) rest
  | [] => []

theorem unknownEscapes_plain {c : Char} (hc : c ≠ '\\') (start : Nat) (s : Text) :
    unknownEscapes start (c :: s) = unknownEscapes (start + 1) s := by
  simp [unknownEscapes, hc]

/-- A character of a string that stands for itself. -/
theorem readString_plain {c : Char} (hquote : c ≠ '"') (hnewline : c ≠ '\n') (hescape : c ≠ '\\')
    (start n : Nat) (value : Text) (escapes : List Diagnostic) (s : Text) :
    readString start n value escapes (c :: s) =
      readString start (n + 1) (c :: value) escapes s := by
  simp [readString, hescape]

/-- A known escape of a string. -/
theorem readString_known {c w : Char} (hnewline : c ≠ '\n') (hw : unescape? c = some w)
    (start n : Nat) (value : Text) (escapes : List Diagnostic) (s : Text) :
    readString start n value escapes ('\\' :: c :: s) =
      readString start (n + 2) (w :: value) escapes s := by
  rw [readString, if_neg hnewline, hw]

/-- An unknown escape of a string. -/
theorem readString_unknown {c : Char} (hnewline : c ≠ '\n') (hw : unescape? c = none)
    (start n : Nat) (value : Text) (escapes : List Diagnostic) (s : Text) :
    readString start n value escapes ('\\' :: c :: s) =
      readString start (n + 2) (c :: value) (.badEscape c (start + n) :: escapes) s := by
  rw [readString, if_neg hnewline, hw]

/-- A character is no backslash if it is none at the end of the text and none before another. -/
theorem ne_backslash {c : Char} {s : Text} (hlast : c = '\\' → s = [] → False)
    (hescape : ∀ d rest, c = '\\' → s = d :: rest → False) : c ≠ '\\' := by
  intro hc
  rcases s with _ | ⟨d, rest⟩
  · exact hlast hc rfl
  · exact hescape d rest hc rfl

/-- What is read of a string, and the unknown escapes in it. -/
theorem readString_cut (start n : Nat) (value : Text) (escapes : List Diagnostic) (s : Text) :
    ∃ body after, Cut (readString start n value escapes) n body after s ∧
      (readString start n value escapes s).escapes =
        escapes.reverse ++ unknownEscapes (start + n) body := by
  fun_induction readString start n value escapes s with
  | case1 => exact ⟨[], [], .of_dropped rfl rfl rfl, by simp [unknownEscapes]⟩
  | case2 _ _ _ after =>
    exact ⟨['"'], after, ⟨rfl, rfl, fun _ _ _ _ _ => rfl⟩, by simp [unknownEscapes]⟩
  | case3 _ _ _ after =>
    exact ⟨[], '\n' :: after, .of_dropped rfl rfl rfl, by simp [unknownEscapes]⟩
  | case4 => exact ⟨['\\'], [], .of_dropped rfl rfl rfl, by simp [unknownEscapes]⟩
  | case5 _ _ _ after =>
    exact ⟨['\\'], '\n' :: after, .of_dropped rfl rfl rfl, by simp [unknownEscapes]⟩
  | case6 n value escapes c rest hnewline w hw ih =>
    obtain ⟨body, after, hcut, hescapes⟩ := ih
    refine ⟨['\\', c] ++ body, after, hcut.push ['\\', c] rfl ?_, ?_⟩
    · exact readString_known hnewline hw start n value escapes
    · rw [hescapes, List.cons_append, List.cons_append, unknownEscapes, hw]
      rfl
  | case7 n value escapes c rest hnewline hw ih =>
    obtain ⟨body, after, hcut, hescapes⟩ := ih
    refine ⟨['\\', c] ++ body, after, hcut.push ['\\', c] rfl ?_, ?_⟩
    · exact readString_unknown hnewline hw start n value escapes
    · rw [hescapes, List.cons_append, List.cons_append, unknownEscapes, hw, List.reverse_cons,
        List.append_assoc]
      rfl
  | case8 n value escapes c rest hquote hnewline hlast hescape ih =>
    have hplain := ne_backslash hlast hescape
    obtain ⟨body, after, hcut, hescapes⟩ := ih
    refine ⟨[c] ++ body, after, hcut.push [c] rfl ?_, ?_⟩
    · exact readString_plain hquote hnewline hplain start n value escapes
    · rw [hescapes, List.cons_append, unknownEscapes_plain hplain]
      rfl

/-- A string that is open at the end of its line is open at the end of the text. -/
theorem readString_append_newline (start n : Nat) (value : Text) (escapes : List Diagnostic)
    (s b : Text) :
    readString start n value escapes (s ++ '\n' :: b) = readString start n value escapes s := by
  fun_induction readString start n value escapes s with
  | case1 | case2 | case3 | case4 | case5 => rfl
  | case6 n value escapes c rest hnewline w hw ih =>
    rw [List.cons_append, List.cons_append, readString_known hnewline hw, ih]
  | case7 n value escapes c rest hnewline hw ih =>
    rw [List.cons_append, List.cons_append, readString_unknown hnewline hw, ih]
  | case8 n value escapes c rest hquote hnewline hlast hescape ih =>
    rw [List.cons_append, readString_plain hquote hnewline (ne_backslash hlast hescape), ih]

/-- The end of a character literal: the quote, if it is there. -/
theorem closeChar_cut (start n : Nat) (c : Char) (escapes : List Diagnostic) (s : Text) :
    ∃ body after, Cut (closeChar start n c escapes) n body after s ∧
      (closeChar start n c escapes s).escapes = escapes ∧
      ∀ offset, unknownEscapes offset body = [] := by
  by_cases hquote : s.head? = some '\''
  · obtain ⟨after, rfl⟩ := List.head?_eq_some_iff.1 hquote
    exact ⟨['\''], after, ⟨rfl, rfl, fun _ _ _ _ _ => rfl⟩, rfl, fun _ => rfl⟩
  · have hopen : closeChar start n c escapes s = ⟨n, .dropped (.openChar start), escapes⟩ := by
      rw [closeChar.eq_def]
      split
      · exact absurd rfl hquote
      · rfl
    exact ⟨[], s, .of_dropped rfl (by rw [hopen]; rfl) (by rw [hopen]), by rw [hopen], fun _ => rfl⟩

theorem closeChar_append_newline (start n : Nat) (c : Char) (escapes : List Diagnostic)
    (s b : Text) :
    closeChar start n c escapes (s ++ '\n' :: b) = closeChar start n c escapes s := by
  rcases s with _ | ⟨d, s⟩
  · rfl
  · by_cases hd : d = '\''
    · subst hd
      rfl
    · simp [closeChar, hd]

/-- A character literal with a character that stands for itself. -/
theorem readChar_plain {c : Char} (hnewline : c ≠ '\n') (hquote : c ≠ '\'') (hescape : c ≠ '\\')
    (start : Nat) (s : Text) : readChar start (c :: s) = closeChar start 2 c [] s := by
  simp [readChar, hescape]

/-- A character literal with a known escape. -/
theorem readChar_known {c w : Char} (hnewline : c ≠ '\n') (hw : unescape? c = some w) (start : Nat)
    (s : Text) : readChar start ('\\' :: c :: s) = closeChar start 3 w [] s := by
  rw [readChar, if_neg hnewline, hw]

/-- A character literal with an unknown escape. -/
theorem readChar_unknown {c : Char} (hnewline : c ≠ '\n') (hw : unescape? c = none) (start : Nat)
    (s : Text) :
    readChar start ('\\' :: c :: s) = closeChar start 3 c [.badEscape c (start + 1)] s := by
  rw [readChar, if_neg hnewline, hw]

/-- What is read of a character literal, and the unknown escape in it. -/
theorem readChar_cut (start : Nat) (s : Text) :
    ∃ body after, Cut (readChar start) 1 body after s ∧
      (readChar start s).escapes = unknownEscapes (start + 1) body := by
  fun_cases readChar start s with
  | case1 => exact ⟨[], [], .of_dropped rfl rfl rfl, rfl⟩
  | case2 after => exact ⟨[], '\n' :: after, .of_dropped rfl rfl rfl, rfl⟩
  | case3 after => exact ⟨['\''], after, .of_dropped rfl rfl rfl, rfl⟩
  | case4 => exact ⟨['\\'], [], .of_dropped rfl rfl rfl, rfl⟩
  | case5 after => exact ⟨['\\'], '\n' :: after, .of_dropped rfl rfl rfl, rfl⟩
  | case6 c rest hnewline w hw =>
    obtain ⟨body, after, hcut, hescapes, hnone⟩ := closeChar_cut start 3 w [] rest
    refine ⟨['\\', c] ++ body, after, hcut.push ['\\', c] rfl ?_, ?_⟩
    · exact readChar_known hnewline hw start
    · rw [hescapes, List.cons_append, List.cons_append, unknownEscapes, List.nil_append, hnone, hw]
      rfl
  | case7 c rest hnewline hw =>
    obtain ⟨body, after, hcut, hescapes, hnone⟩ :=
      closeChar_cut start 3 c [.badEscape c (start + 1)] rest
    refine ⟨['\\', c] ++ body, after, hcut.push ['\\', c] rfl ?_, ?_⟩
    · exact readChar_unknown hnewline hw start
    · rw [hescapes, List.cons_append, List.cons_append, unknownEscapes, List.nil_append, hnone, hw]
      rfl
  | case8 c rest hnewline hquote hlast hescape =>
    have hplain := ne_backslash hlast hescape
    obtain ⟨body, after, hcut, hescapes, hnone⟩ := closeChar_cut start 2 c [] rest
    refine ⟨[c] ++ body, after, hcut.push [c] rfl ?_, ?_⟩
    · exact readChar_plain hnewline hquote hplain start
    · rw [hescapes, List.cons_append, unknownEscapes_plain hplain, List.nil_append, hnone]

theorem readChar_append_newline (start : Nat) (s b : Text) :
    readChar start (s ++ '\n' :: b) = readChar start s := by
  fun_cases readChar start s with
  | case1 | case2 | case3 | case4 | case5 => rfl
  | case6 c rest hnewline w hw =>
    rw [List.cons_append, List.cons_append, readChar_known hnewline hw, closeChar_append_newline]
  | case7 c rest hnewline hw =>
    rw [List.cons_append, List.cons_append, readChar_unknown hnewline hw, closeChar_append_newline]
  | case8 c rest hnewline hquote hlast hescape =>
    rw [List.cons_append, readChar_plain hnewline hquote (ne_backslash hlast hescape),
      closeChar_append_newline]

/-! ## Words and signs -/

/-- A blank ends a word. -/
theorem AtBlank.endsWord {s : Text} (h : AtBlank s) (d : Char) (hd : s.head? = some d) :
    (!isBoundary d) = false := by
  simp [isBoundary, h d hd]

theorem foundWord_cut (c : Char) (s : Text) : ∃ body after, Cut (foundWord c) 1 body after s := by
  refine ⟨s.takeWhile fun d => !isBoundary d, s.dropWhile fun d => !isBoundary d,
    List.takeWhile_append_dropWhile.symm, Nat.add_comm _ _, fun _ _ _ rest hrest => ?_⟩
  rw [foundWord, foundWord, takeWhile_append_of_head hrest.endsWord, List.takeWhile_takeWhile]
  simp

theorem foundWord_append_newline (c : Char) (s b : Text) :
    foundWord c (s ++ '\n' :: b) = foundWord c s := by
  rw [foundWord, foundWord, takeWhile_append_of_head (atBlank_newline b).endsWord]

/-- An operator or a punctuation mark, by the character after it. -/
def foundSign (c : Char) (kind : Kind) (rest : Text) : Found :=
  match Kind.ofAssigning? c, rest.head? with
  | some long, some '=' => ⟨2, .token long none, []⟩
  | _, _ => ⟨1, .token kind none, []⟩

/-- Only a `=` after it makes a sign longer. -/
theorem foundSign_of_ne {rest : Text} (h : rest.head? ≠ some '=') (c : Char) (kind : Kind) :
    foundSign c kind rest = ⟨1, .token kind none, []⟩ := by
  rw [foundSign]
  split
  · exact absurd ‹_› h
  · rfl

theorem AtBlank.head?_ne {s : Text} (h : AtBlank s) : s.head? ≠ some '=' := by
  intro hs
  cases h '=' hs

theorem foundSign_cut (c : Char) (kind : Kind) (s : Text) :
    ∃ body after, Cut (foundSign c kind) 1 body after s := by
  rcases hlong : Kind.ofAssigning? c with _ | long
  · -- a sign that is never longer
    have hshort : ∀ t, foundSign c kind t = ⟨1, .token kind none, []⟩ := by
      intro t
      rw [foundSign, hlong]
    refine ⟨[], s, rfl, by rw [hshort]; rfl, fun _ _ _ rest _ => ?_⟩
    rw [hshort, hshort]
  · by_cases hnext : s.head? = some '='
    · obtain ⟨after, rfl⟩ := List.head?_eq_some_iff.1 hnext
      have hfound : ∀ t, foundSign c kind ('=' :: t) = ⟨2, .token long none, []⟩ := by
        intro t
        rw [foundSign, hlong]
        rfl
      refine ⟨['='], after, rfl, by rw [hfound]; rfl, fun _ _ _ rest _ => ?_⟩
      rw [hfound, List.cons_append, hfound]
    · refine ⟨[], s, rfl, by rw [foundSign_of_ne hnext]; rfl, fun _ _ _ rest hrest => ?_⟩
      rw [foundSign_of_ne hnext, List.nil_append, foundSign_of_ne hrest.head?_ne]

theorem foundSign_escapes (c : Char) (kind : Kind) (rest : Text) :
    (foundSign c kind rest).escapes = [] := by
  rw [foundSign]
  split <;> rfl

theorem foundSign_append_newline (c : Char) (kind : Kind) (s b : Text) :
    foundSign c kind (s ++ '\n' :: b) = foundSign c kind s := by
  rcases s with _ | ⟨d, s⟩
  · rw [List.nil_append, foundSign_of_ne (atBlank_newline b).head?_ne, foundSign_of_ne (by simp)]
  · rfl

/-! ## The front -/

/-- The classes of characters that a text can begin with. -/
inductive Lead (c : Char) : Prop
  /-- a blank -/
  | blank (h : isSpace c = true)
  /-- a string -/
  | string (h : c = '"')
  /-- a character literal -/
  | char (h : c = '\'')
  /-- a number -/
  | digit (h : c.isDigit = true)
  /-- an operator or a punctuation mark -/
  | sign {kind : Kind} (h : Kind.ofSeparator? c = some kind)
  /-- a word -/
  | word (h : isBoundary c = false) (hdigit : c.isDigit = false)

theorem lead (c : Char) : Lead c := by
  by_cases hdigit : c.isDigit = true
  · exact .digit hdigit
  · by_cases hboundary : isBoundary c = true
    · simp only [isBoundary, Bool.or_eq_true, decide_eq_true_eq, Option.isSome_iff_exists]
        at hboundary
      obtain ((hspace | hstring) | hchar) | ⟨kind, hsign⟩ := hboundary
      · exact .blank hspace
      · exact .string hstring
      · exact .char hchar
      · exact .sign hsign
    · exact .word (by simpa using hboundary) (by simpa using hdigit)

theorem recognize_quote (start : Nat) (rest : Text) :
    recognize start '"' rest = readString start 1 [] [] rest := rfl

theorem recognize_apostrophe (start : Nat) (rest : Text) :
    recognize start '\'' rest = readChar start rest := rfl

/-- A separator is no blank, no quote and no digit. -/
theorem Kind.plain_of_ofSeparator? {c : Char} {kind : Kind} (h : ofSeparator? c = some kind) :
    isSpace c = false ∧ c ≠ '"' ∧ c ≠ '\'' ∧ c.isDigit = false := by
  unfold ofSeparator? at h
  split at h <;> cases h <;> decide

theorem recognize_of_separator {c : Char} {kind : Kind} (h : Kind.ofSeparator? c = some kind)
    (start : Nat) (rest : Text) : recognize start c rest = foundSign c kind rest := by
  obtain ⟨hspace, hstring, hchar, hdigit⟩ := Kind.plain_of_ofSeparator? h
  rw [recognize, if_neg (by simp [hspace]), if_neg hstring, if_neg hchar, h]
  simp only [hdigit, Bool.false_eq_true, if_false]
  rfl

/-- A character that makes a longer sign is a sign by itself. -/
theorem Kind.isSome_ofSeparator? {c : Char} {kind : Kind} (h : ofAssigning? c = some kind) :
    (ofSeparator? c).isSome = true := by
  unfold ofAssigning? at h
  split at h <;> first | rfl | cases h

theorem recognize_of_word {c : Char} (h : isBoundary c = false) (hdigit : c.isDigit = false)
    (start : Nat) (rest : Text) : recognize start c rest = foundWord c rest := by
  simp only [isBoundary, Bool.or_eq_false_iff, decide_eq_false_iff_not, Option.isSome_eq_false_iff,
    Option.isNone_iff_eq_none] at h
  obtain ⟨⟨⟨hspace, hstring⟩, hchar⟩, hsign⟩ := h
  have hlong : Kind.ofAssigning? c = none := by
    rcases hlong : Kind.ofAssigning? c with _ | kind
    · rfl
    · have := Kind.isSome_ofSeparator? hlong
      rw [hsign] at this
      cases this
  rw [recognize, if_neg (by simp [hspace]), if_neg hstring, if_neg hchar, hlong]
  simp [hdigit, hsign]

/-- A newline further on is as good as the end of the text, unless blanks are read. -/
theorem recognize_append_newline {c : Char} (hc : isSpace c = false) (start : Nat) (rest b : Text) :
    recognize start c (rest ++ '\n' :: b) = recognize start c rest := by
  cases lead c with
  | blank h =>
    rw [h] at hc
    cases hc
  | string h =>
    subst h
    exact readString_append_newline ..
  | char h =>
    subst h
    exact readChar_append_newline ..
  | digit h =>
    rw [recognize_of_isDigit h, recognize_of_isDigit h, ← List.cons_append,
      foundNumber_append_newline]
  | sign h => rw [recognize_of_separator h, recognize_of_separator h, foundSign_append_newline]
  | word h hdigit =>
    rw [recognize_of_word h hdigit, recognize_of_word h hdigit, foundWord_append_newline]

/-- A number begins with a digit, so it takes the first character. -/
theorem recognize_cut_of_isDigit {c : Char} (hc : c.isDigit = true) (start : Nat) (rest : Text) :
    ∃ body after, Cut (recognize start c) 1 body after rest := by
  obtain ⟨piece, after, hcut⟩ := foundNumber_cut start (c :: rest)
  rcases piece with _ | ⟨d, body⟩
  · have hpos : 0 < (foundNumber start (c :: rest)).length := length_foundNumber_pos hc
    rw [hcut.length] at hpos
    exact absurd hpos (by simp)
  · obtain ⟨rfl, hrest⟩ := List.cons.inj hcut.split
    refine ⟨body, after, hrest, ?_, fun kind value htoken tail htail => ?_⟩
    · rw [recognize_of_isDigit hc, hcut.length, List.length_cons]
      omega
    · rw [recognize_of_isDigit hc] at htoken ⊢
      rw [recognize_of_isDigit hc]
      exact hcut.closed kind value htoken tail htail

/-- Does the character begin a literal in quotes? -/
def isQuote (c : Char) : Bool := c = '"' || c = '\''

/-- The unknown escapes are found in literals in quotes only. -/
theorem escapes_of_not_isQuote {c : Char} (hc : isQuote c = false) (start : Nat) (rest : Text) :
    (recognize start c rest).escapes = [] := by
  cases lead c with
  | blank h => rw [recognize_of_isSpace h]
  | string h | char h =>
    subst h
    cases hc
  | digit h => rw [recognize_of_isDigit h, foundNumber_escapes]
  | sign h => rw [recognize_of_separator h, foundSign_escapes]
  | word h hdigit => rw [recognize_of_word h hdigit, foundWord]

/-- A front that is no literal in quotes takes a piece of the text. -/
theorem recognize_cut_of_not_isQuote {c : Char} (hspace : isSpace c = false)
    (hquote : isQuote c = false) (start : Nat) (rest : Text) :
    ∃ body after, Cut (recognize start c) 1 body after rest := by
  cases lead c with
  | blank h =>
    rw [h] at hspace
    cases hspace
  | string h | char h =>
    subst h
    cases hquote
  | digit h => exact recognize_cut_of_isDigit h start rest
  | sign h =>
    rw [funext (recognize_of_separator h start)]
    exact foundSign_cut c _ rest
  | word h hdigit =>
    rw [funext (recognize_of_word h hdigit start)]
    exact foundWord_cut c rest

/-- **What is taken of a text** that begins with no blank: a piece at its front, with the unknown
escapes in it if it begins with a quote. -/
theorem recognize_cut {c : Char} (hc : isSpace c = false) (start : Nat) (rest : Text) :
    ∃ body after, Cut (recognize start c) 1 body after rest ∧
      (recognize start c rest).escapes =
        if isQuote c then unknownEscapes start (c :: body) else [] := by
  by_cases hquote : isQuote c = true
  · simp only [isQuote, Bool.or_eq_true, decide_eq_true_eq] at hquote
    rcases hquote with rfl | rfl
    · exact readString_cut start 1 [] [] rest
    · exact readChar_cut start rest
  · rw [Bool.not_eq_true] at hquote
    obtain ⟨body, after, hcut⟩ := recognize_cut_of_not_isQuote hc hquote start rest
    refine ⟨body, after, hcut, ?_⟩
    rw [escapes_of_not_isQuote hquote, hquote]
    rfl

/-! ## Texts at another place -/

/-- The fault, `k` characters further on. -/
def Diagnostic.shift (k : Nat) : Diagnostic → Diagnostic
  | .openString p => .openString (p + k)
  | .openChar p => .openChar (p + k)
  | .emptyChar p => .emptyChar (p + k)
  | .badEscape c p => .badEscape c (p + k)
  | .badNumber lexeme type p => .badNumber lexeme type (p + k)
  | .openComment p => .openComment (p + k)
  | .unexpected expected found p => .unexpected expected found (p + k)
  | .trailing found p => .trailing found (p + k)
  | .tooDeep limit p => .tooDeep limit (p + k)

/-- The token, `k` characters further on. -/
def Token.shift (k : Nat) (t : Token) : Token := t.moveTo (t.position + k)

/-- The same content, `k` characters further on. -/
def Content.shift (k : Nat) : Content → Content
  | .dropped fault => .dropped (fault.shift k)
  | content => content

/-- What is found, `k` characters further on. -/
def Found.shift (k : Nat) (found : Found) : Found :=
  ⟨found.length, found.content.shift k, found.escapes.map (Diagnostic.shift k)⟩

theorem readString_shift (k start n : Nat) (value : Text) (escapes : List Diagnostic) (s : Text) :
    readString (start + k) n value (escapes.map (Diagnostic.shift k)) s =
      (readString start n value escapes s).shift k := by
  fun_induction readString start n value escapes s with
  | case1 | case2 | case3 | case4 | case5 =>
    simp [readString, Found.shift, Content.shift, Diagnostic.shift]
  | case6 n value escapes c rest hnewline w hw ih => rw [readString_known hnewline hw, ih]
  | case7 n value escapes c rest hnewline hw ih =>
    rw [readString_unknown hnewline hw, ← ih, List.map_cons, Diagnostic.shift, Nat.add_right_comm]
  | case8 n value escapes c rest hquote hnewline hlast hescape ih =>
    rw [readString_plain hquote hnewline (ne_backslash hlast hescape), ih]

theorem closeChar_shift (k start n : Nat) (c : Char) (escapes : List Diagnostic) (s : Text) :
    closeChar (start + k) n c (escapes.map (Diagnostic.shift k)) s =
      (closeChar start n c escapes s).shift k := by
  rw [closeChar.eq_def, closeChar.eq_def]
  split <;> rfl

theorem readChar_shift (k start : Nat) (s : Text) :
    readChar (start + k) s = (readChar start s).shift k := by
  fun_cases readChar start s with
  | case1 | case2 | case3 | case4 | case5 => rfl
  | case6 c rest hnewline w hw =>
    rw [readChar_known hnewline hw, ← closeChar_shift]
    rfl
  | case7 c rest hnewline hw =>
    rw [readChar_unknown hnewline hw, ← closeChar_shift, List.map_cons, Diagnostic.shift,
      Nat.add_right_comm]
    rfl
  | case8 c rest hnewline hquote hlast hescape =>
    rw [readChar_plain hnewline hquote (ne_backslash hlast hescape), ← closeChar_shift]
    rfl

theorem foundNumber_shift (k start : Nat) (s : Text) :
    foundNumber (start + k) s = (foundNumber start s).shift k := by
  rw [foundNumber, foundNumber]
  rcases (readNumber s).1.value? with _ | v <;> rfl

theorem foundSign_shift (k : Nat) (c : Char) (kind : Kind) (rest : Text) :
    (foundSign c kind rest).shift k = foundSign c kind rest := by
  rw [foundSign]
  split <;> rfl

/-- The place of a text changes nothing of its front but the places of the faults. -/
theorem recognize_shift (k start : Nat) (c : Char) (rest : Text) :
    recognize (start + k) c rest = (recognize start c rest).shift k := by
  cases lead c with
  | blank h =>
    rw [recognize_of_isSpace h, recognize_of_isSpace h]
    rfl
  | string h =>
    subst h
    exact readString_shift k start 1 [] [] rest
  | char h =>
    subst h
    exact readChar_shift k start rest
  | digit h => rw [recognize_of_isDigit h, recognize_of_isDigit h, foundNumber_shift]
  | sign h => rw [recognize_of_separator h, recognize_of_separator h, foundSign_shift]
  | word h hdigit =>
    rw [recognize_of_word h hdigit, recognize_of_word h hdigit]
    rfl

/-- Tokens have no place in them. -/
theorem Content.shift_eq_token_iff {k : Nat} {content : Content} {kind : Kind}
    {value : Option Literal} :
    content.shift k = .token kind value ↔ content = .token kind value := by
  cases content <;> simp [Content.shift]

theorem unknownEscapes_shift (k start : Nat) (s : Text) :
    unknownEscapes (start + k) s = (unknownEscapes start s).map (Diagnostic.shift k) := by
  fun_induction unknownEscapes start s with
  | case1 start c rest ih =>
    rw [unknownEscapes, Nat.add_right_comm, ih, List.map_append]
    rcases unescape? c with _ | w <;> rfl
  | case2 start c rest hplain ih =>
    rw [unknownEscapes, Nat.add_right_comm, ih]
    exact hplain
  | case3 => rfl

end Reckon
