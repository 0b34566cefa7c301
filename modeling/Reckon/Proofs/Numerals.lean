import Reckon.Proofs.Fronts
import Reckon.Proofs.Rounding

/-!
# Numbers in a text

Where digits begin, the lexer takes a number and brings it into the type that the text asks for.

* `decimal`: what digits before and after a point are worth.
* `Asks`: the type that is asked for, by the letter behind the digits or by the point among them.
  The last character of the number tells the same (`Number.Readable.ofLast_eq`).
* `Casts`: what becomes of the digits in a type: the value if the type has it, and nothing else.
* `segmentsFrom_numeral`: **a number is cut and cast exactly**. It reaches over its digits and one
  letter, and a failed cast is one fault that names all of it and the type that was asked for.
-/

namespace Reckon

/-! ## What digits are worth -/

/-- What digits before and after a point are worth. -/
def decimal (whole places : Text) : ℚ :=
  Number.natOfDigits whole + Number.natOfDigits places / 10 ^ places.length

theorem natOfDigits_append (ds es : Text) :
    Number.natOfDigits (ds ++ es) =
      Number.natOfDigits ds * 10 ^ es.length + Number.natOfDigits es := by
  calc
    Number.natOfDigits (ds ++ es)
      = Nat.ofDigitChars 10 es (Number.natOfDigits ds) := Nat.ofDigitChars_append 0
    _ = 10 ^ es.length * Number.natOfDigits ds + Number.natOfDigits es :=
      Nat.ofDigitChars_eq_ofDigitChars_zero
    _ = Number.natOfDigits ds * 10 ^ es.length + Number.natOfDigits es := by rw [Nat.mul_comm]

/-- All digits in one row, over a power of ten. -/
theorem decimal_eq (whole places : Text) :
    decimal whole places =
      (Number.natOfDigits (whole ++ places) : ℚ) / (10 ^ places.length : ℕ) := by
  rw [decimal, natOfDigits_append]
  push_cast
  field_simp

/-! ## Types -/

/-- The digits with the point among them, if there is one. -/
def numeral (whole : Text) (places : Option Text) : Text := whole ++ places.elim [] ('.' :: ·)

/-- The type that the text behind a numeral asks for, with the letter that is taken of the text and
what is left of it. Without a letter it is the point that decides. -/
inductive Asks (point : Bool) : (behind letter after : Text) → NumberType → Prop
  /-- the letter of unsigned integers -/
  | uint {after : Text} : Asks point ('u' :: after) ['u'] after .uint
  /-- the letter of single precision -/
  | float {after : Text} : Asks point ('f' :: after) ['f'] after .float
  /-- no letter, and a point -/
  | double {after : Text} (hu : after.head? ≠ some 'u') (hf : after.head? ≠ some 'f')
      (hpoint : point = true) : Asks point after [] after .double
  /-- no letter and no point -/
  | int {after : Text} (hu : after.head? ≠ some 'u') (hf : after.head? ≠ some 'f')
      (hpoint : point = false) : Asks point after [] after .int

/-- What becomes of digits in a type. Integers are exact, and have no point; a number of a binary
format is the nearest of its values, and is refused from half way between the greatest of them and
the next power of two on, where the nearest value would be infinite. -/
inductive Casts (whole : Text) (places : Option Text) : NumberType → Option Literal → Prop
  /-- a signed integer -/
  | int {n : Int32} (hle : Number.natOfDigits whole ≤ 2147483647)
      (hn : n.toInt = Number.natOfDigits whole) : Casts whole places .int (some (.int n))
  /-- a signed integer of more than 32 bits -/
  | beyondInt (hlt : 2147483647 < Number.natOfDigits whole) : Casts whole places .int none
  /-- an unsigned integer -/
  | uint {n : UInt32} (hplaces : places = none) (hle : Number.natOfDigits whole ≤ 4294967295)
      (hn : n.toNat = Number.natOfDigits whole) : Casts whole places .uint (some (.uint n))
  /-- an unsigned integer of more than 32 bits -/
  | beyondUint (hplaces : places = none) (hlt : 4294967295 < Number.natOfDigits whole) :
      Casts whole places .uint none
  /-- an unsigned integer with a point -/
  | pointUint (hplaces : places ≠ none) : Casts whole places .uint none
  /-- a value of single precision -/
  | float {x : Binary} (hlt : decimal whole (places.getD []) < Format.single.limit)
      (hx : Format.single.Nearest (decimal whole (places.getD [])) x) :
      Casts whole places .float (some (.float x))
  /-- a number beyond single precision -/
  | beyondFloat (hle : Format.single.limit ≤ decimal whole (places.getD [])) :
      Casts whole places .float none
  /-- a value of double precision -/
  | double {x : Binary} (hlt : decimal whole (places.getD []) < Format.double.limit)
      (hx : Format.double.Nearest (decimal whole (places.getD [])) x) :
      Casts whole places .double (some (.double x))
  /-- a number beyond double precision -/
  | beyondDouble (hle : Format.double.limit ≤ decimal whole (places.getD [])) :
      Casts whole places .double none

/-! ## Cutting -/

/-- Every text asks for a type. -/
theorem exists_asks (point : Bool) (behind : Text) :
    ∃ letter after type, Asks point behind letter after type := by
  by_cases hu : behind.head? = some 'u'
  · obtain ⟨after, rfl⟩ := List.head?_eq_some_iff.1 hu
    exact ⟨_, _, _, .uint⟩
  by_cases hf : behind.head? = some 'f'
  · obtain ⟨after, rfl⟩ := List.head?_eq_some_iff.1 hf
    exact ⟨_, _, _, .float⟩
  · cases point with
    | true => exact ⟨_, _, _, .double hu hf rfl⟩
    | false => exact ⟨_, _, _, .int hu hf rfl⟩

/-- The suffix of the number, as it is written and with the type that it gives. -/
theorem Asks.exists_suffix {point : Bool} {behind letter after : Text} {type : NumberType}
    (h : Asks point behind letter after type) :
    ∃ suffix : Option NumberType, letter = suffix.elim [] NumberType.letter ∧
      behind = letter ++ after ∧
      (∀ t, suffix = some t → t = .uint ∨ t = .float) ∧
      (suffix = none → after.head? ≠ some 'u' ∧ after.head? ≠ some 'f') ∧
      ∀ whole places, places.isSome = point → Number.type ⟨whole, places, suffix⟩ = type := by
  cases h with
  | uint => exact ⟨some .uint, rfl, rfl, by simp, by simp, fun _ _ _ => rfl⟩
  | float => exact ⟨some .float, rfl, rfl, by simp, by simp, fun _ _ _ => rfl⟩
  | double hu hf hpoint =>
    refine ⟨none, rfl, rfl, by simp, fun _ => ⟨hu, hf⟩, ?_⟩
    intro whole places hplaces
    obtain ⟨ds, rfl⟩ := Option.isSome_iff_exists.1 (hplaces.trans hpoint)
    rfl
  | int hu hf hpoint =>
    refine ⟨none, rfl, rfl, by simp, fun _ => ⟨hu, hf⟩, ?_⟩
    intro whole places hplaces
    obtain rfl : places = none := by simpa using hplaces.trans hpoint
    rfl

/-- The last character tells the type of a number: neither digits nor a point end with a letter. -/
theorem Number.Readable.ofLast_eq {n : Number} (h : n.Readable) :
    NumberType.ofLast n.fraction.isSome n.spelling.getLast? = n.type := by
  obtain ⟨whole, fraction, suffix⟩ := n
  rcases suffix with _ | type
  · -- without a suffix the number ends with a digit or with its point
    have hlast : ∀ c, (numeral whole fraction).getLast? = some c → c.isDigit = true ∨ c = '.' := by
      intro c hc
      rcases List.mem_append.1 (List.mem_of_getLast? hc) with hmem | hmem
      · exact .inl (h.whole c hmem)
      · rcases fraction with _ | places
        · cases hmem
        · rcases List.mem_cons.1 hmem with rfl | hmem
          · exact .inr rfl
          · exact .inl (h.fraction places rfl c hmem)
    have hspelling : Number.spelling ⟨whole, fraction, none⟩ = numeral whole fraction := by
      rw [Number.spelling, numeral, Option.elim_none, List.append_nil]
    rw [hspelling, NumberType.ofLast.eq_def]
    split
    · rcases hlast _ ‹_› with h | h <;> cases h
    · rcases hlast _ ‹_› with h | h <;> cases h
    · cases fraction <;> rfl
  · rcases h.suffix type rfl with rfl | rfl
    · simp [Number.spelling, NumberType.letter, NumberType.ofLast, Number.type]
    · simp [Number.spelling, NumberType.letter, NumberType.ofLast, Number.type]

/-- The number that is read where the text asks for a type. -/
theorem Asks.exists_number {whole behind letter after : Text} {places : Option Text}
    {type : NumberType} (h : Asks places.isSome behind letter after type)
    (hwhole : ∀ d ∈ whole, d.isDigit = true)
    (hplaces : ∀ ds, places = some ds → ∀ d ∈ ds, d.isDigit = true)
    (hbehind : ∀ d, behind.head? = some d → d.isDigit = false ∧ (places = none → d ≠ '.')) :
    ∃ n : Number, n.whole = whole ∧ n.fraction = places ∧ n.type = type ∧ n.Readable ∧
      n.spelling = numeral whole places ++ letter ∧
      readNumber (numeral whole places ++ behind) = (n, after) := by
  obtain ⟨suffix, hletter, hsplit, hsuffix, hnone, htype⟩ := h.exists_suffix
  have hreadable : Number.Readable ⟨whole, places, suffix⟩ := ⟨hwhole, hplaces, hsuffix⟩
  have hspelling : Number.spelling ⟨whole, places, suffix⟩ = numeral whole places ++ letter := by
    rw [Number.spelling, numeral, hletter, List.append_assoc]
  refine ⟨⟨whole, places, suffix⟩, rfl, rfl, htype _ _ rfl, hreadable, hspelling,
    readNumber_eq_iff.2 ⟨hreadable, ?_, ?_⟩⟩
  · -- without a suffix the text behind is the text after
    intro hno d hd
    have hno : suffix = none := hno
    have hafter : behind = after := by rw [hsplit, hletter, hno]; rfl
    obtain ⟨hu, hf⟩ := hnone hno
    rw [hafter] at hbehind
    obtain ⟨hdigit, hdot⟩ := hbehind d hd
    exact ⟨hdigit, fun hc => hu (hc ▸ hd), fun hc => hf (hc ▸ hd), hdot⟩
  · rw [hspelling, hsplit, List.append_assoc]

/-! ## Casting -/

/-- A number in a binary format. -/
theorem Number.binary?_cases (n : Number) {f : Format} (hf : f.Proper) :
    (n.binary? f = none ∧ f.limit ≤ decimal n.whole (n.fraction.getD [])) ∨
      ∃ x, n.binary? f = some x ∧ decimal n.whole (n.fraction.getD []) < f.limit ∧
        f.Nearest (decimal n.whole (n.fraction.getD [])) x := by
  have hpow : 0 < 10 ^ (n.fraction.getD []).length := Nat.pow_pos (by decide)
  have hbinary : n.binary? f = f.ofRatio? (natOfDigits (n.whole ++ n.fraction.getD []))
    (10 ^ (n.fraction.getD []).length) := rfl
  have hiff := Format.ofRatio?_eq_none_iff hf (natOfDigits (n.whole ++ n.fraction.getD [])) hpow
  rw [hbinary, decimal_eq]
  rcases hx : f.ofRatio? (natOfDigits (n.whole ++ n.fraction.getD [])) _ with _ | x
  · exact .inl ⟨rfl, hiff.1 hx⟩
  · refine .inr ⟨x, rfl, ?_, Format.nearest_of_ofRatio? hf hpow hx⟩
    apply lt_of_not_ge
    intro hle
    rw [hiff.2 hle] at hx
    cases hx

/-- The value of a number is what becomes of its digits in its type. -/
theorem Number.Readable.casts {n : Number} (h : n.Readable) :
    Casts n.whole n.fraction n.type n.value? := by
  rw [Number.value?]
  split
  · rename_i htype
    rw [htype]
    rcases n.binary?_cases Format.single_proper with ⟨hx, hle⟩ | ⟨x, hx, hlt, hnear⟩ <;> rw [hx]
    · exact .beyondFloat hle
    · exact .float hlt hnear
  · rename_i htype
    rw [htype]
    rcases n.binary?_cases Format.double_proper with ⟨hx, hle⟩ | ⟨x, hx, hlt, hnear⟩ <;> rw [hx]
    · exact .beyondDouble hle
    · exact .double hlt hnear
  · rename_i htype
    -- a signed integer has neither suffix nor point
    have hfraction : n.fraction = none := by
      rw [Number.type] at htype
      split at htype
      · rename_i t hsuffix
        rcases h.suffix t hsuffix with rfl | rfl <;> cases htype
      · cases htype
      · assumption
    rw [htype, hfraction]
    dsimp only
    split
    · rename_i hle
      exact .int hle.2 (Int32.toInt_ofNat_of_lt (by have := hle.2; omega))
    · rename_i hlt
      exact .beyondInt (by simpa using hlt)
  · rename_i htype
    rw [htype]
    dsimp only
    split
    · rename_i hle
      refine .uint (by simpa using hle.1) hle.2 (UInt32.toNat_ofNat_of_lt' ?_)
      have := hle.2
      simp only [UInt32.size]
      omega
    · rename_i hlt
      by_cases hfraction : n.fraction = none
      · exact .beyondUint hfraction (by simpa [hfraction] using hlt)
      · exact .pointUint hfraction

/-! ## Numbers -/

/-- What a number is: a literal, or a piece that is dropped. -/
def Number.content (start : Nat) (n : Number) : Content :=
  n.value?.elim (.dropped (.badNumber n.spelling n.type start)) fun v => .token v.kind (some v)

/-- The front of a text that begins with a number is the number. -/
theorem recognize_of_readNumber {c : Char} (hc : c.isDigit = true) {rest after : Text} {n : Number}
    (h : readNumber (c :: rest) = (n, after)) (start : Nat) :
    recognize start c rest = ⟨n.spelling.length, n.content start, []⟩ := by
  obtain ⟨hn, -, htext⟩ := readNumber_eq_iff.1 h
  rw [recognize_of_isDigit hc, foundNumber, h, ← Number.length_spelling hn, htext, List.take_left,
    Number.content, ← hn.ofLast_eq]
  cases n.value? <;> rfl

theorem segmentsFrom_of_readNumber {c : Char} (hc : c.isDigit = true) {rest after : Text}
    {n : Number} (h : readNumber (c :: rest) = (n, after)) (start : Nat) :
    segmentsFrom start [] (c :: rest) = ⟨start, n.spelling, n.content start, []⟩ ::
      segmentsFrom (start + n.spelling.length) [] after := by
  obtain ⟨-, -, htext⟩ := readNumber_eq_iff.1 h
  rw [segmentsFrom_eq_front_cons, front, recognize_of_readNumber hc h, htext, List.take_left,
    List.drop_left]

/-- **A number is cut and cast exactly.** Take digits, with or without a point and digits after it,
and a text behind them that does not go on with them. The piece that the lexer takes is the digits
with the point, and the letter `u` or `f` if the text behind begins with it; the rest of the text
comes after it. The piece is the literal that becomes of the digits in the type that is asked for,
or it is dropped with one fault, at the first digit, that names the whole piece and this type, the
same that the last character of the piece tells. -/
theorem segmentsFrom_numeral {whole behind : Text} {places : Option Text} (hne : whole ≠ [])
    (hwhole : ∀ d ∈ whole, d.isDigit = true)
    (hplaces : ∀ ds, places = some ds → ∀ d ∈ ds, d.isDigit = true)
    (hbehind : ∀ d, behind.head? = some d → d.isDigit = false ∧ (places = none → d ≠ '.'))
    (start : Nat) :
    ∃ letter after type value, Asks places.isSome behind letter after type ∧
      Casts whole places type value ∧
      let lexeme := numeral whole places ++ letter
      type = .ofLast places.isSome lexeme.getLast? ∧
      ∃ segment, segmentsFrom start [] (numeral whole places ++ behind) =
          segment :: segmentsFrom (start + lexeme.length) [] after ∧
        segment.start = start ∧ segment.text = lexeme ∧
        segment.token? = value.map (Token.literal · start lexeme) ∧
        segment.diagnostics = if value = none then [.badNumber lexeme type start] else [] := by
  obtain ⟨letter, after, type, hasks⟩ := exists_asks places.isSome behind
  obtain ⟨n, rfl, rfl, rfl, hn, hspelling, hread⟩ := hasks.exists_number hwhole hplaces hbehind
  refine ⟨letter, after, n.type, n.value?, hasks, hn.casts, hspelling ▸ hn.ofLast_eq.symm,
    ⟨start, n.spelling, n.content start, []⟩, ?_, rfl, hspelling, ?_, ?_⟩
  · rcases hsplit : n.whole with _ | ⟨c, ds⟩
    · exact absurd hsplit hne
    · have hc : c.isDigit = true := hwhole c (by simp [hsplit])
      rw [hsplit] at hread hspelling
      rw [← hspelling]
      exact segmentsFrom_of_readNumber hc hread start
  · rw [← hspelling, Segment.token?, Number.content]
    cases n.value? <;> rfl
  · rw [← hspelling, Segment.diagnostics, Segment.fault?, Number.content]
    cases n.value? <;> rfl

/-- The greatest unsigned integer, with a digit right behind its letter, and the least number that
is beyond single precision: half way between its greatest value and `2 ^ 128`. -/
theorem segmentsFrom_numeral_edges :
    (∃ segment, segmentsFrom 7 [] (numeral "04294967295".toList none ++ ['u', '1']) =
        segment :: segmentsFrom 19 [] ['1'] ∧
      segment.token? = some (.literal (.uint 4294967295) 7 "04294967295u".toList)) ∧
    ∃ segment, segmentsFrom 7 []
        (numeral "340282356779733661637539395458142568448".toList (some ['0']) ++ ['f']) =
        segment :: segmentsFrom 49 [] [] ∧
      segment.diagnostics =
        [.badNumber "340282356779733661637539395458142568448.0f".toList .float 7] := by
  constructor
  · obtain ⟨letter, after, type, value, hasks, hcasts, -, segment, hsegments, -, -, htoken, -⟩ :=
      @segmentsFrom_numeral "04294967295".toList ['u', '1'] none (by decide)
        (List.all_eq_true.1 (by decide)) (by simp) (by simp) 7
    cases hasks with
    | uint =>
      cases hcasts with
      | @uint n _ _ hn =>
        obtain rfl : n = 4294967295 := UInt32.toNat_inj.1 (hn.trans (by decide))
        exact ⟨segment, hsegments, htoken⟩
      | beyondUint _ hlt => exact absurd hlt (by decide)
      | pointUint hplaces => exact absurd rfl hplaces
    | double hu | int hu => exact absurd rfl hu
  · obtain ⟨letter, after, type, value, hasks, hcasts, -, segment, hsegments, -, -, -, hfaults⟩ :=
      @segmentsFrom_numeral "340282356779733661637539395458142568448".toList ['f'] (some ['0'])
        (by decide) (List.all_eq_true.1 (by decide)) (by simp) (by simp) 7
    have hdigits : Number.natOfDigits "340282356779733661637539395458142568448".toList =
        340282356779733661637539395458142568448 := by decide +kernel
    have hzero : Number.natOfDigits ['0'] = 0 := rfl
    have hlimit : Format.single.limit =
        decimal "340282356779733661637539395458142568448".toList ['0'] := by
      rw [decimal, hdigits, hzero, Format.limit, Format.single]
      norm_num
    cases hasks with
    | float =>
      cases hcasts with
      | float hlt => exact absurd hlt (not_lt.2 hlimit.le)
      | beyondFloat => exact ⟨segment, hsegments, hfaults⟩
    | double _ hf | int _ hf => exact absurd rfl hf

end Reckon
