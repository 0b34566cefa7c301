import Reckon.Proofs.Joining
import Reckon.Proofs.Scanner

/-!
# The scanner finds the tokens

The scanner and the segments of a text agree, part by part of the lexer.

* `Scanner.settle`: the scanner after what the lexer finds. Each part of the scanner ends there, and
  so does the choice between them (`Sees.pick_eq`), which rests on its order: a word takes its first
  character since that is no boundary.
* `Sees.next_progress`: a call moves on, or it is at the end.
* `tokenize_progress`: **every call moves on, and together they give the tokens of the text**.
-/

namespace Reckon

namespace Scanner

/-! ## Literals in quotes -/

/-- What the lexer finds at the scanner's place, as a token or a dropped piece, and the scanner
after it. -/
def settle (s : Scanner) (found : Found) : Option Token × Scanner :=
  let segment : Segment :=
    ⟨s.position, (s.input.drop s.position).take found.length, found.content, found.escapes⟩
  (segment.token?, s.past found.length segment.diagnostics)

theorem settle_dropped (s : Scanner) (n : Nat) (fault : Diagnostic) (escapes : List Diagnostic) :
    s.settle ⟨n, .dropped fault, escapes⟩ = (none, s.past n (escapes ++ [fault])) := rfl

theorem settle_token (s : Scanner) (n : Nat) (kind : Kind) (value : Option Literal)
    (escapes : List Diagnostic) :
    s.settle ⟨n, .token kind value, escapes⟩ =
      (some ⟨kind, s.position, (s.input.drop s.position).take n, value⟩, s.past n escapes) := by
  simp [settle, Segment.token?, Segment.diagnostics, Segment.fault?]

namespace Sees

variable {s : Scanner} {n rounds : Nat} {c : Char} {rest : Text}

/-- There is a character before a scanner that has come on. -/
theorem before?_past (s : Scanner) (n : Nat) (ds : List Diagnostic) :
    (s.past (n + 1) ds).before? = some (s.position + n) := by
  simp [before?, past]

/-- After a backslash at the end of its line there is no escape. -/
theorem escape_end (h : s.Sees (n + 1) rest) (hend : ∀ c ∈ rest.head?, c = '\n')
    (ds : List Diagnostic) : (s.past (n + 1) ds).escape = some (none, s.past (n + 1) ds) := by
  rw [escape, before?_past, h.peek]
  rcases rest with _ | ⟨c, rest⟩
  · rfl
  · obtain rfl := hend c rfl
    rfl

theorem escape_known {v : Char} (h : s.Sees (n + 1) (c :: rest)) (hc : c ≠ '\n')
    (hv : unescape? c = some v) (ds : List Diagnostic) :
    (s.past (n + 1) ds).escape = some (some v, s.past (n + 2) ds) := by
  rw [escape, before?_past, h.peek]
  simp [hv, h.advance]

theorem escape_unknown (h : s.Sees (n + 1) (c :: rest)) (hc : c ≠ '\n')
    (hv : unescape? c = none) (ds : List Diagnostic) :
    (s.past (n + 1) ds).escape =
      some (some c, s.past (n + 2) (ds ++ [.badEscape c (s.position + n)])) := by
  rw [escape, before?_past, h.peek]
  simp [hv, h.advance, report_past]

section String

variable (start : Nat) (value : Text) (ds : List Diagnostic)

theorem string_end (h : s.Sees n rest) (hend : ∀ c ∈ rest.head?, c = '\n') :
    string start (rounds + 1) value (s.past n ds) =
      some (none, s.past n (ds ++ [.openString start])) := by
  rw [string, h.peek, ← report_past]
  rcases rest with _ | ⟨c, rest⟩
  · rfl
  · obtain rfl := hend c rfl
    rfl

theorem string_backslash (h : s.Sees n ('\\' :: rest)) (hend : ∀ c ∈ rest.head?, c = '\n') :
    string start (rounds + 1) value (s.past n ds) =
      some (none, s.past (n + 1) (ds ++ [.openString start])) := by
  rw [string, h.peek, ← report_past]
  change ((s.past n ds).advance.escape >>= _) = _
  rw [h.advance, h.step.escape_end hend]
  rfl

theorem string_close (h : s.Sees n ('"' :: rest)) :
    string s.position (rounds + 1) value (s.past n ds) =
      some (some (.literal (.str value) s.position ((s.input.drop s.position).take (n + 1))),
        s.past (n + 1) ds) := by
  rw [string, h.peek]
  change ((s.past n ds).advance.lexeme? s.position >>= _) = _
  rw [h.advance, h.step.lexeme?]
  rfl

theorem string_known {v : Char} (h : s.Sees n ('\\' :: c :: rest)) (hc : c ≠ '\n')
    (hv : unescape? c = some v) :
    string start (rounds + 1) value (s.past n ds) =
      string start rounds (value ++ [v]) (s.past (n + 2) ds) := by
  rw [string, h.peek]
  change ((s.past n ds).advance.escape >>= _) = _
  rw [h.advance, h.step.escape_known hc hv]
  rfl

theorem string_unknown (h : s.Sees n ('\\' :: c :: rest)) (hc : c ≠ '\n')
    (hv : unescape? c = none) :
    string start (rounds + 1) value (s.past n ds) =
      string start rounds (value ++ [c])
        (s.past (n + 2) (ds ++ [.badEscape c (s.position + n)])) := by
  rw [string, h.peek]
  change ((s.past n ds).advance.escape >>= _) = _
  rw [h.advance, h.step.escape_unknown hc hv]
  rfl

theorem string_plain (h : s.Sees n (c :: rest)) (hquote : c ≠ '"') (hnewline : c ≠ '\n')
    (hescape : c ≠ '\\') :
    string start (rounds + 1) value (s.past n ds) =
      string start rounds (value ++ [c]) (s.past (n + 1) ds) := by
  rw [string, h.peek, ← h.advance]
  simp

end String

/-- The scanner reads a string as the lexer finds it. -/
theorem string_eq (h : s.Sees n rest) (hrounds : rest.length ≤ rounds) (value : Text)
    (escapes : List Diagnostic) :
    string s.position (rounds + 1) value.reverse (s.past n escapes.reverse) =
      some (s.settle (readString s.position n value escapes rest)) := by
  fun_induction readString s.position n value escapes rest generalizing rounds with
  | case1 => rw [h.string_end _ _ _ (by simp), settle_dropped]
  | case2 => rw [h.string_close, settle_token]; rfl
  | case3 => rw [h.string_end _ _ _ (by simp), settle_dropped]
  | case4 => rw [h.string_backslash _ _ _ (by simp), settle_dropped]
  | case5 => rw [h.string_backslash _ _ _ (by simp), settle_dropped]
  | case6 n value escapes c rest hc v hv ih =>
    obtain ⟨rounds, rfl⟩ := exists_rounds hrounds
    rw [h.string_known _ _ _ hc hv, ← List.reverse_cons,
      ih h.step.step (Nat.le_of_succ_le (Nat.le_of_succ_le_succ hrounds))]
  | case7 n value escapes c rest hc hv ih =>
    obtain ⟨rounds, rfl⟩ := exists_rounds hrounds
    rw [h.string_unknown _ _ _ hc hv, ← List.reverse_cons, ← List.reverse_cons,
      ih h.step.step (Nat.le_of_succ_le (Nat.le_of_succ_le_succ hrounds))]
  | case8 n value escapes c rest hquote hnewline hlast hescape ih =>
    obtain ⟨rounds, rfl⟩ := exists_rounds hrounds
    rw [h.string_plain _ _ _ hquote hnewline (ne_backslash hlast hescape), ← List.reverse_cons,
      ih h.step (Nat.le_of_succ_le_succ hrounds)]

/-- The scanner ends a character literal as the lexer does. -/
theorem quote_eq (h : s.Sees n rest) (c : Char) (escapes : List Diagnostic) :
    quote s.position c (s.past n escapes) =
      some (s.settle (closeChar s.position n c escapes rest)) := by
  rw [quote, h.peek]
  by_cases hquote : rest.head? = some '\''
  · obtain ⟨after, rfl⟩ := List.head?_eq_some_iff.1 hquote
    change ((s.past n escapes).advance.lexeme? s.position >>= _) = _
    rw [h.advance, h.step.lexeme?, closeChar, settle_token]
    rfl
  · have hopen : closeChar s.position n c escapes rest =
        ⟨n, .dropped (.openChar s.position), escapes⟩ := by
      rw [closeChar.eq_def]
      split
      · exact absurd rfl hquote
      · rfl
    rw [hopen, settle_dropped, ← report_past]
    split
    · exact absurd ‹_› hquote
    · rfl

/-- The scanner reads a character literal as the lexer finds it. -/
theorem char_eq (h : s.Sees 1 rest) :
    char s.position (s.past 1 []) = some (s.settle (readChar s.position rest)) := by
  rw [char, h.peek]
  fun_cases readChar s.position rest with
  | case1 => rw [settle_dropped, ← report_past]; rfl
  | case2 => rw [settle_dropped, ← report_past]; rfl
  | case3 =>
    rw [settle_dropped, ← report_past, ← h.advance]
    rfl
  | case4 =>
    change ((s.past 1 []).advance.escape >>= _) = _
    rw [h.advance, h.step.escape_end (by simp), settle_dropped, ← report_past]
    rfl
  | case5 after =>
    change ((s.past 1 []).advance.escape >>= _) = _
    rw [h.advance, h.step.escape_end (by simp), settle_dropped, ← report_past]
    rfl
  | case6 c rest hc v hv =>
    change ((s.past 1 []).advance.escape >>= _) = _
    rw [h.advance, h.step.escape_known hc hv, ← h.step.step.quote_eq]
    rfl
  | case7 c rest hc hv =>
    change ((s.past 1 []).advance.escape >>= _) = _
    rw [h.advance, h.step.escape_unknown hc hv, ← h.step.step.quote_eq]
    rfl
  | case8 c rest hnewline hquote hlast hescape =>
    have hplain := ne_backslash hlast hescape
    rw [← h.step.quote_eq, ← h.advance]
    simp

end Sees

/-! ## Numbers -/

theorem foldl_push_whole (ds whole : Text) (suffix : Option NumberType) :
    ds.foldl Number.push ⟨whole, none, suffix⟩ = ⟨whole ++ ds, none, suffix⟩ := by
  induction ds generalizing whole with
  | nil => rw [List.append_nil]; rfl
  | cons d ds ih =>
    rw [List.foldl_cons, List.append_cons]
    exact ih (whole ++ [d])

theorem foldl_push_places (ds whole places : Text) (suffix : Option NumberType) :
    ds.foldl Number.push ⟨whole, some places, suffix⟩ = ⟨whole, some (places ++ ds), suffix⟩ := by
  induction ds generalizing places with
  | nil => rw [List.append_nil]; rfl
  | cons d ds ih =>
    rw [List.foldl_cons, List.append_cons]
    exact ih (places ++ [d])

namespace Sees

variable {s : Scanner} {n rounds : Nat} {rest : Text}

/-- Digits are added to the number. -/
theorem digits_append {ds : Text} (h : s.Sees n (ds ++ rest)) (hds : ∀ d ∈ ds, d.isDigit = true)
    (hrounds : (ds ++ rest).length ≤ rounds) (number : Number) :
    ∃ k, rest.length ≤ k ∧ digits (rounds + 1) number (s.past n []) =
      digits (k + 1) (ds.foldl Number.push number) (s.past (n + ds.length) []) := by
  induction ds generalizing n rounds number with
  | nil => exact ⟨rounds, hrounds, rfl⟩
  | cons d ds ih =>
    obtain ⟨rounds, rfl⟩ := exists_rounds hrounds
    have hd : d.isDigit = true := hds d List.mem_cons_self
    obtain ⟨k, hk, hdigits⟩ := ih h.step (fun e he => hds e (List.mem_cons_of_mem d he))
      (Nat.le_of_succ_le_succ hrounds) (number.push d)
    refine ⟨k, hk, ?_⟩
    rw [digits, h.peek]
    simp only [List.cons_append, List.head?_cons, hd, if_true, List.foldl_cons, List.length_cons]
    rw [h.advance, hdigits, Nat.add_assoc n, Nat.add_comm 1]

/-- A first point is passed over. -/
theorem digits_point (h : s.Sees n ('.' :: rest)) (whole : Text) (suffix : Option NumberType) :
    digits (rounds + 1) ⟨whole, none, suffix⟩ (s.past n []) =
      digits rounds ⟨whole, some [], suffix⟩ (s.past (n + 1) []) := by
  rw [digits, h.peek, ← h.advance]
  rfl

/-- The digits end before what does not go on with them. -/
theorem digits_end {number : Number} (h : s.Sees n rest)
    (hend : ∀ c ∈ rest.head?, c.isDigit = false ∧ (number.fraction = none → c ≠ '.')) :
    digits (rounds + 1) number (s.past n []) = some (number, s.past n []) := by
  rw [digits, h.peek]
  rcases rest with _ | ⟨c, rest⟩
  · rfl
  · obtain ⟨hdigit, hdot⟩ := hend c rfl
    simp only [List.head?_cons, hdigit]
    rw [if_neg (by simp), if_neg fun hc => hdot hc.2 hc.1]

/-- All digits of a number, with a point among them or without. -/
theorem digits_eq {number : Number} (hnumber : number.Readable)
    (h : s.Sees 0 (number.whole ++ (number.fraction.elim [] ('.' :: ·) ++ rest)))
    (hend : ∀ c ∈ rest.head?, c.isDigit = false ∧ (number.fraction = none → c ≠ '.'))
    (hrounds : (number.whole ++ (number.fraction.elim [] ('.' :: ·) ++ rest)).length ≤ rounds) :
    digits (rounds + 1) ⟨[], none, none⟩ (s.past 0 []) =
      some (⟨number.whole, number.fraction, none⟩,
        s.past (number.whole ++ number.fraction.elim [] ('.' :: ·)).length []) := by
  obtain ⟨k, hk, hwhole⟩ := h.digits_append hnumber.whole hrounds ⟨[], none, none⟩
  rw [hwhole, foldl_push_whole, List.nil_append]
  have hsees := h.move
  rcases hfraction : number.fraction with _ | places
  · rw [hfraction, Option.elim_none, List.nil_append] at hsees
    rw [hfraction] at hend
    rw [hsees.digits_end hend, Option.elim_none, List.append_nil, Nat.zero_add]
  · rw [hfraction] at hsees hend hk
    obtain ⟨k, rfl⟩ := exists_rounds hk
    obtain ⟨j, -, hplaces⟩ := hsees.step.digits_append (hnumber.fraction places hfraction)
      (Nat.le_of_succ_le_succ hk) ⟨number.whole, some [], none⟩
    rw [hsees.digits_point, hplaces, foldl_push_places, List.nil_append,
      hsees.step.move.digits_end (fun c hc => ⟨(hend c hc).1, by simp⟩)]
    simp [Nat.add_assoc, Nat.add_comm 1]

/-- The suffix of a number, which takes its letter. -/
theorem suffix_eq {number : Number} (hnumber : number.Readable) {after : Text}
    (hafter : number.EndsBefore after)
    (h : s.Sees n (number.suffix.elim [] NumberType.letter ++ after)) :
    suffix ⟨number.whole, number.fraction, none⟩ (s.past n []) =
      (number, s.past (n + (number.suffix.elim [] NumberType.letter).length) []) := by
  obtain ⟨whole, fraction, type?⟩ := number
  rw [suffix, h.peek]
  rcases type? with _ | type
  · rcases after with _ | ⟨d, after⟩
    · rfl
    · obtain ⟨-, hu, hf, -⟩ := hafter rfl d rfl
      simp [hu, hf]
  · rcases hnumber.suffix type rfl with rfl | rfl
    · exact congrArg (Prod.mk _) (h.advance [])
    · exact congrArg (Prod.mk _) (h.advance [])

/-- The token of a number, or the fault if it has no value. -/
theorem numeral_eq {number : Number} {after : Text} (hread : readNumber rest = (number, after))
    (hdrop : s.input.drop s.position = rest) (hpos : 0 < number.length)
    (h : s.Sees number.length after) :
    numeral s.position number (s.past number.length []) =
      some (s.settle (foundNumber s.position rest)) := by
  have hprevious : (s.past number.length []).previous = (rest.take number.length).getLast? := by
    obtain ⟨k, hk⟩ := Nat.exists_eq_add_one.2 hpos
    rw [hk] at h ⊢
    rw [h.previous, hdrop]
  rw [numeral, h.lexeme?, foundNumber, hread, hdrop, hprevious]
  dsimp only [Option.bind_eq_bind, Option.bind_some]
  rcases number.value? with _ | v
  · rw [settle_dropped, report_past]
  · rw [settle_token, hdrop]
    rfl

/-- The scanner reads a number as the lexer finds it. -/
theorem number_eq {c : Char} (hc : c.isDigit = true) (h : s.Sees 0 (c :: rest))
    (hrounds : (c :: rest).length ≤ rounds) :
    number (rounds + 1) s = some (s.settle (foundNumber s.position (c :: rest))) := by
  obtain ⟨n, after, hread, hn, hafter, hrest⟩ := readNumber_sound (c :: rest)
  have hpos : 0 < n.length := by
    have := length_readNumber_pos hc rest
    rwa [hread] at this
  have hspelling : c :: rest = n.whole ++ (n.fraction.elim [] ('.' :: ·) ++
      (n.suffix.elim [] NumberType.letter ++ after)) := by
    rw [hrest, Number.spelling, List.append_assoc, List.append_assoc]
  have hlength : (n.whole ++ n.fraction.elim [] ('.' :: ·)).length +
      (n.suffix.elim [] NumberType.letter).length = n.length := by
    rw [← Number.length_spelling hn, Number.spelling, ← List.length_append, List.append_assoc]
  have hdigits := (hspelling ▸ h).digits_eq hn (fun c hc => hn.head_suffix hafter hc)
    (hspelling ▸ hrounds)
  -- what is left after the digits, and after the suffix
  have hmid : s.Sees (n.whole ++ n.fraction.elim [] ('.' :: ·)).length
      (n.suffix.elim [] NumberType.letter ++ after) := by
    rw [hspelling, ← List.append_assoc] at h
    simpa using h.move
  have hlast : s.Sees n.length after := hlength ▸ hmid.move
  rw [number, ← past_zero s, hdigits]
  change numeral _ (suffix _ _).1 (suffix _ _).2 = _
  rw [hmid.suffix_eq hn hafter, hlength, past_zero]
  exact numeral_eq hread h.drop hpos hlast

/-! ## Words, signs, and the choice between all of them -/

/-- The scanner reads a word as the lexer finds it. Its first character is no boundary, so it is
passed over. -/
theorem word_eq {c : Char} (h : s.Sees 0 (c :: rest)) (hc : isBoundary c = false)
    (hrounds : (c :: rest).length ≤ rounds) :
    word (rounds + 1) s = some (s.settle (foundWord c rest)) := by
  let more := rest.takeWhile fun d => !isBoundary d
  have htake : (c :: rest).takeWhile (fun d => !isBoundary d) = c :: more := by
    simp [hc, more]
  have hsplit : c :: rest = (c :: more) ++ rest.dropWhile fun d => !isBoundary d := by
    rw [List.cons_append, List.takeWhile_append_dropWhile]
  have hsees : s.Sees (more.length + 1) (rest.dropWhile fun d => !isBoundary d) := by
    have hmove := (hsplit ▸ h).move
    rwa [Nat.zero_add, List.length_cons] at hmove
  have hpiece : (s.input.drop s.position).take (more.length + 1) = c :: more := by
    have hdrop : s.input.drop s.position = c :: rest := h.drop
    rw [hdrop, hsplit, ← List.length_cons, List.take_left]
  have hskip := h.skipWhile hrounds (fun d => !isBoundary d) []
  rw [past_zero, htake, Nat.zero_add, List.length_cons] at hskip
  rw [word, hskip, foundWord, settle_token, hpiece]
  change (Scanner.lexeme? _ _ >>= _) = _
  rw [hsees.lexeme?, hpiece]
  rfl

/-- Both characters of a sign are there. -/
theorem double_eq {c : Char} (h : s.Sees 0 (c :: '=' :: rest)) (kind : Kind) :
    double kind s = some (s.settle ⟨2, .token kind none, []⟩) := by
  have hpast : { s with position := s.position + 2 } = s.past 2 [] := by
    rw [past, List.append_nil]
  rw [double, hpast, settle_token]
  change (Scanner.lexeme? _ _ >>= _) = _
  rw [h.step.step.lexeme?]
  rfl

/-- A number, a sign of one character or a word is read as the lexer finds it. -/
theorem simple_eq {c : Char} (h : s.Sees 0 (c :: rest)) (hc : isSpace c = false)
    (hstring : c ≠ '"') (hchar : c ≠ '\'') (hrounds : (c :: rest).length ≤ rounds) :
    simple (rounds + 1) c s = some (s.settle
      (if c.isDigit then foundNumber s.position (c :: rest)
      else
        match Kind.ofSeparator? c with
        | some kind => ⟨1, .token kind none, []⟩
        | none => foundWord c rest)) := by
  rw [simple]
  by_cases hdigit : c.isDigit = true
  · rw [if_pos hdigit, if_pos hdigit]
    exact h.number_eq hdigit hrounds
  · rw [if_neg hdigit, if_neg hdigit]
    rcases hkind : Kind.ofSeparator? c with _ | kind
    · exact h.word_eq (by simp [isBoundary, hc, hstring, hchar, hkind]) hrounds
    · have hadvance := h.advance []
      have hdrop : s.input.drop s.position = c :: rest := h.drop
      rw [past_zero] at hadvance
      rw [settle_token, hadvance, hdrop]
      rfl

/-- **The scanner finds what the lexer finds.** -/
theorem pick_eq {c : Char} (h : s.Sees 0 (c :: rest)) (hc : isSpace c = false)
    (hrounds : (c :: rest).length ≤ rounds) :
    pick (rounds + 1) c s = some (s.settle (recognize s.position c rest)) := by
  have hadvance := h.advance []
  have hnext := h.peekNext []
  rw [past_zero] at hadvance hnext
  rw [recognize, if_neg (by simp [hc]), pick, hadvance, hnext]
  by_cases hstring : c = '"'
  · rw [if_pos hstring, if_pos hstring]
    exact h.step.string_eq (Nat.le_of_succ_le hrounds) [] []
  by_cases hchar : c = '\''
  · rw [if_neg hstring, if_neg hstring, if_pos hchar, if_pos hchar]
    exact h.step.char_eq
  rw [if_neg hstring, if_neg hstring, if_neg hchar, if_neg hchar]
  have hsimple := h.simple_eq hc hstring hchar hrounds
  by_cases hequals : rest.head? = some '='
  · rw [if_pos hequals]
    obtain ⟨after, rfl⟩ := List.head?_eq_some_iff.1 hequals
    rcases Kind.ofAssigning? c with _ | kind
    · exact hsimple
    · exact h.double_eq kind
  · rw [if_neg hequals]
    split
    · exact absurd ‹_› hequals
    · exact hsimple

end Sees

/-! ## One call -/

/-- The front of a text is no end of file. -/
theorem front_kind_ne {start : Nat} {c : Char} {rest : Text} {t : Token}
    (h : t ∈ (front start c rest).token?) : t.kind ≠ .endOfFile := by
  rw [Segment.token?] at h
  split at h
  · obtain rfl := Option.some.inj h
    exact recognize_kind_ne ‹_›
  · cases h

section Next

variable {s : Scanner} {rest : Text}

/-- After the blanks. -/
theorem Sees.skip_blanks (h : s.Sees 0 rest) :
    Scanner.skipWhile isSpace (s.input.length + 1) s =
        some (s.past (rest.takeWhile isSpace).length []) ∧
      (s.past (rest.takeWhile isSpace).length []).Sees 0 (rest.dropWhile isSpace) := by
  have hskip := h.skipWhile h.length_le isSpace []
  rw [past_zero, Nat.zero_add] at hskip
  rw [← List.takeWhile_append_dropWhile (p := isSpace) (l := rest)] at h
  refine ⟨hskip, sees_past.2 ?_⟩
  rw [Nat.add_comm]
  exact h.move

/-- When only blanks are left, the scanner comes to the end of the text. -/
theorem Sees.next_end (h : s.Sees 0 rest) (hend : rest.dropWhile isSpace = []) :
    s.next = some (some (.plain .endOfFile s.input.length []), s.past rest.length []) := by
  obtain ⟨hskip, hsees⟩ := h.skip_blanks
  have htake : rest.takeWhile isSpace = rest := by
    rw [List.takeWhile_eq_self_iff, ← List.dropWhile_eq_nil_iff]
    exact hend
  have hposition : (s.past rest.length []).position = s.input.length := h.length
  rw [htake, hend] at hsees
  rw [htake] at hskip
  have hpeek := hsees.peek []
  rw [past_zero] at hpeek
  simp only [next, hskip, Option.bind_eq_bind, Option.bind_some, hpeek, List.head?_nil, hposition]

/-- What the lexer finds at the scanner's place is the front of the text there. -/
theorem Sees.settle_recognize {c : Char} {more : Text} (h : s.Sees 0 (c :: more)) :
    s.settle (recognize s.position c more) =
      ((front s.position c more).token?,
        s.past (recognize s.position c more).length (front s.position c more).diagnostics) := by
  have hdrop : s.input.drop s.position = c :: more := h.drop
  rw [settle, hdrop]
  rfl

/-- The place after the front of the text. -/
theorem Sees.past_front {c : Char} {more : Text} (h : s.Sees 0 (c :: more))
    (ds : List Diagnostic) :
    (s.past (recognize s.position c more).length ds).Sees 0
      ((c :: more).drop (recognize s.position c more).length) := by
  have hle := length_recognize_le s.position c more
  have hsplit := List.take_append_drop (recognize s.position c more).length (c :: more)
  have hmove := (hsplit.symm ▸ h).move
  rw [List.length_take, Nat.min_eq_left hle] at hmove
  rw [sees_past, Nat.add_comm]
  exact hmove

/-- Else it ends after what the lexer finds behind the blanks. -/
theorem Sees.next_front {c : Char} {more : Text} (h : s.Sees 0 rest)
    (hfront : rest.dropWhile isSpace = c :: more) :
    let place := s.position + (rest.takeWhile isSpace).length
    let after := s.past ((rest.takeWhile isSpace).length + (recognize place c more).length)
      (front place c more).diagnostics
    s.next = some ((front place c more).token?, after) ∧
      after.Sees 0 ((c :: more).drop (recognize place c more).length) := by
  intro place after
  obtain ⟨hskip, hsees⟩ := h.skip_blanks
  rw [hfront] at hsees
  have hc : isSpace c = false := by
    have hnot := List.head?_dropWhile_not isSpace rest
    rw [hfront] at hnot
    simpa using hnot
  have hpeek := hsees.peek []
  have hpast := s.past_past (rest.takeWhile isSpace).length (recognize place c more).length []
    (front place c more).diagnostics
  have hpick := hsees.pick_eq hc hsees.length_le
  rw [past_zero] at hpeek
  rw [hsees.settle_recognize] at hpick
  constructor
  · simp only [next, hskip, Option.bind_eq_bind, Option.bind_some, hpeek, List.head?_cons]
    exact hpick.trans (congrArg (fun x => some (_, x)) hpast)
  · rw [show after = _ from hpast.symm]
    exact hsees.past_front _

/-- **A call moves on** or finds the end of the text, and does not leave the text. -/
theorem Sees.next_progress (h : s.Sees 0 rest) :
    ∃ token? after, s.next = some (token?, after) ∧ after.input = s.input ∧
      after.position ≤ s.input.length ∧
      (token? = some (.plain .endOfFile s.input.length []) ∧ after.position = s.input.length ∨
        (∀ t ∈ token?, t.kind ≠ .endOfFile) ∧ s.position < after.position) := by
  rcases hrest : rest.dropWhile isSpace with _ | ⟨c, more⟩
  · exact ⟨_, _, h.next_end hrest, rfl, Nat.le_of_eq h.length, .inl ⟨rfl, h.length⟩⟩
  · obtain ⟨hnext, hsees⟩ := h.next_front hrest
    refine ⟨_, _, hnext, rfl, hsees.le, .inr ⟨fun t => front_kind_ne, ?_⟩⟩
    have hpos := length_recognize_pos (s.position + (rest.takeWhile isSpace).length) c more
    simp only [past]
    omega

end Next

/-! ## All calls -/

section Tokenize

variable {s : Scanner} {rest : Text}

/-- When only blanks are left, one call is enough. -/
theorem Sees.tokenizeFrom_end (h : s.Sees 0 rest) (hend : rest.dropWhile isSpace = [])
    (calls : Nat) (before : List Token) (stalls : Nat) :
    tokenizeFrom (calls + 1) before stalls s =
      some ⟨before, ⟨s.input, s.input.length, s.faults⟩, stalls⟩ := by
  have hlast : s.past rest.length [] = ⟨s.input, s.input.length, s.faults⟩ := by
    rw [← h.length, past, List.append_nil]
    rfl
  rw [tokenizeFrom, h.next_end hend, hlast]
  rfl

/-- Else a call goes on after the front of what is left: a token is no end of file, and a dropped
piece is not empty. -/
theorem Sees.tokenizeFrom_front {c : Char} {more : Text} (h : s.Sees 0 rest)
    (hfront : rest.dropWhile isSpace = c :: more) (calls : Nat) (before : List Token)
    (stalls : Nat) :
    let place := s.position + (rest.takeWhile isSpace).length
    tokenizeFrom (calls + 1) before stalls s =
      tokenizeFrom calls (before ++ (front place c more).token?.toList) stalls
        (s.past ((rest.takeWhile isSpace).length + (recognize place c more).length)
          (front place c more).diagnostics) := by
  intro place
  have hmoved : s.position + ((rest.takeWhile isSpace).length +
      (recognize place c more).length) ≠ s.position := by
    have hpos := length_recognize_pos place c more
    omega
  rw [tokenizeFrom, (h.next_front hfront).1]
  dsimp only [Option.bind_eq_bind, Option.bind_some]
  rcases htoken : (front place c more).token? with _ | t
  · rw [Option.toList_none, List.append_nil]
    exact if_neg hmoved
  · exact if_neg (front_kind_ne htoken)

/-- **All calls together** give the tokens and the faults of what is left of the text, and none of
them stalls. There are no more of them than characters, and one for the end. -/
theorem Sees.tokenizeFrom_eq (h : s.Sees 0 rest) {calls : Nat} (hcalls : rest.length ≤ calls)
    (before : List Token) (stalls : Nat) :
    tokenizeFrom (calls + 1) before stalls s =
      some ⟨before ++ tokensFrom s.position rest,
        ⟨s.input, s.input.length, s.faults ++ faultsFrom s.position rest⟩, stalls⟩ := by
  induction calls generalizing s rest before with
  | zero =>
    obtain rfl := List.eq_nil_of_length_eq_zero (Nat.le_zero.1 hcalls)
    rw [h.tokenizeFrom_end rfl, tokensFrom_nil, faultsFrom_nil, List.append_nil, List.append_nil]
  | succ calls ih =>
    obtain ⟨htokens, hfaults⟩ := from_of_blanks
      (fun c hc => List.mem_takeWhile_imp hc) s.position (rest.dropWhile isSpace)
    have hblanks : (rest.takeWhile isSpace).length + (rest.dropWhile isSpace).length =
        rest.length := by
      rw [← List.length_append, List.takeWhile_append_dropWhile]
    rw [List.takeWhile_append_dropWhile] at htokens hfaults
    rw [htokens, hfaults]
    rcases hrest : rest.dropWhile isSpace with _ | ⟨c, more⟩
    · rw [h.tokenizeFrom_end hrest, tokensFrom_nil, faultsFrom_nil, List.append_nil,
        List.append_nil]
    · have hpos := length_recognize_pos (s.position + (rest.takeWhile isSpace).length) c more
      rw [hrest, List.length_cons] at hblanks
      rw [h.tokenizeFrom_front hrest, ih (h.next_front hrest).2, tokensFrom_cons, faultsFrom_cons]
      · simp [past, Nat.add_assoc]
      · rw [List.length_drop, List.length_cons]
        omega

end Tokenize

end Scanner

/-- **The lexer always makes progress.** From any place of a text a call for the next token does not
fail, so it reads nothing outside of the text and its loops come to an end. It leaves the scanner in
the text: at its end with an end of file, or further on than before, whether there is a token or one
was dropped. So the text is at its end after as many calls as it has characters, and one more; they
give its tokens and its lexical faults, and none of them stalls. -/
theorem tokenize_progress (input : Text) :
    (∀ (position : Nat) (faults : List Diagnostic), position ≤ input.length →
      ∃ token? after, (Scanner.mk input position faults).next = some (token?, after) ∧
        after.input = input ∧ after.position ≤ input.length ∧
        (token? = some (.plain .endOfFile input.length []) ∧ after.position = input.length ∨
          (∀ t ∈ token?, t.kind ≠ .endOfFile) ∧ position < after.position)) ∧
    Scanner.tokenize (input.length + 1) input =
      some ⟨tokens input, ⟨input, input.length, lexicalDiagnostics input⟩, 0⟩ := by
  constructor
  · intro position faults hposition
    have hsees : (Scanner.mk input position faults).Sees 0 (input.drop position) :=
      ⟨rfl, hposition⟩
    exact hsees.next_progress
  · have hsees : (Scanner.mk input 0 []).Sees 0 input := ⟨rfl, Nat.zero_le _⟩
    exact hsees.tokenizeFrom_eq (Nat.le_refl input.length) [] 0

/-- A character literal with an unknown escape, a sign of two characters at the end of a text, and a
string that a backslash leaves open there. From inside of a literal the scanner moves on as well. -/
theorem tokenize_progress_open :
    let input := "'\\q'== \"\\".toList
    (∃ token? after, (Scanner.mk input 2 []).next = some (token?, after) ∧ 2 < after.position) ∧
      Scanner.tokenize 10 input =
        some ⟨tokens input, ⟨input, 9, [.badEscape 'q' 1, .openString 7]⟩, 0⟩ := by
  intro input
  obtain ⟨hcalls, hall⟩ := tokenize_progress input
  have hfaults : lexicalDiagnostics input = [.badEscape 'q' 1, .openString 7] := by
    decide +kernel
  obtain ⟨token?, after, hnext, -, -, hend | ⟨-, hmoves⟩⟩ := hcalls 2 [] (by decide)
  · exact ⟨⟨token?, after, hnext, by rw [hend.2]; decide⟩, hfaults ▸ hall⟩
  · exact ⟨⟨token?, after, hnext, hmoves⟩, hfaults ▸ hall⟩

end Reckon
