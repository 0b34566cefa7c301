import Reckon.Token.Segment

/-!
# A lexer with a cursor

The segments of a text say what the lexer finds. Here it is a machine: a scanner stands at a place
of the text, looks at the character there and goes on. It can only read what is inside of the text,
and nothing in its loops says by itself that they come to an end.

* `Scanner`: the place, and the faults so far. A piece that does not lie in the text cannot be cut
  out (`lexeme?`), there is nothing before the first character (`before?`), and a loop gives up when
  its rounds are used up. All this shows as `none`.
* `Scanner.next`, `Scanner.tokenize`: one token, and all of them. A call that drops a token and does
  not move is counted as a stall.
* `Scanner.past`, `Scanner.Sees`: the scanner further on, and what is left of the text there. What
  each small step does is said once, about these.
-/

namespace Reckon

/-! ## The scanner -/

/-- A lexer at work on a text. -/
structure Scanner where
  /-- the whole text -/
  input : Text
  /-- the offset that it has come to -/
  position : Nat
  /-- the faults that it has found -/
  faults : List Diagnostic
  deriving DecidableEq

/-- One more digit of a number, before the point or after it. -/
def Number.push (n : Number) (digit : Char) : Number :=
  match n.fraction with
  | none => { n with whole := n.whole ++ [digit] }
  | some places => { n with fraction := some (places ++ [digit]) }

namespace Scanner

/-- The next character. -/
def peek (s : Scanner) : Option Char := s.input[s.position]?

/-- The character after the next one. -/
def peekNext (s : Scanner) : Option Char := s.input[s.position + 1]?

/-- Go on by one character, if there is one. -/
def advance (s : Scanner) : Scanner :=
  match s.peek with
  | some _ => { s with position := s.position + 1 }
  | none => s

/-- The text from an offset up to the scanner. There is none if the offset is further on, or if the
scanner is beyond the end. -/
def lexeme? (s : Scanner) (start : Nat) : Option Text :=
  if start ≤ s.position ∧ s.position ≤ s.input.length then
    some ((s.input.drop start).take (s.position - start))
  else none

/-- The offset before the scanner. There is none before the first character. -/
def before? (s : Scanner) : Option Nat := if s.position = 0 then none else some (s.position - 1)

/-- The last character that was passed. -/
def previous (s : Scanner) : Option Char := s.before?.bind fun i => s.input[i]?

/-- Write down a fault. -/
def report (s : Scanner) (fault : Diagnostic) : Scanner := { s with faults := s.faults ++ [fault] }

/-- Go on over the characters of a class. -/
def skipWhile (keep : Char → Bool) : (rounds : Nat) → Scanner → Option Scanner
  | 0, _ => none
  | rounds + 1, s =>
    match s.peek with
    | some c => if keep c then skipWhile keep rounds s.advance else some s
    | none => some s

/-- What the character after a backslash stands for; nothing if the literal ends there. -/
def escape (s : Scanner) : Option (Option Char × Scanner) := do
  let backslash ← s.before?
  match s.peek with
  | none | some '\n' => some (none, s)
  | some c =>
    match unescape? c with
    | some v => some (some v, s.advance)
    | none => some (some c, s.advance.report (.badEscape c backslash))

/-- The inside of a string that starts at the offset `start`; `value` is what was read of it. -/
def string (start : Nat) :
    (rounds : Nat) → (value : Text) → Scanner → Option (Option Token × Scanner)
  | 0, _, _ => none
  | rounds + 1, value, s =>
    match s.peek with
    | none | some '\n' => some (none, s.report (.openString start))
    | some '"' => do
      let lexeme ← s.advance.lexeme? start
      some (some (.literal (.str value) start lexeme), s.advance)
    | some '\\' => do
      let (c?, s) ← s.advance.escape
      match c? with
      | some c => string start rounds (value ++ [c]) s
      | none => some (none, s.report (.openString start))
    | some c => string start rounds (value ++ [c]) s.advance

/-- The end of a character literal. -/
def quote (start : Nat) (c : Char) (s : Scanner) : Option (Option Token × Scanner) :=
  match s.peek with
  | some '\'' => do
    let lexeme ← s.advance.lexeme? start
    some (some (.literal (.char c) start lexeme), s.advance)
  | _ => some (none, s.report (.openChar start))

/-- The inside of a character literal that starts at the offset `start`. -/
def char (start : Nat) (s : Scanner) : Option (Option Token × Scanner) :=
  match s.peek with
  | none | some '\n' => some (none, s.report (.openChar start))
  | some '\'' => some (none, s.advance.report (.emptyChar start))
  | some '\\' => do
    let (c?, s) ← s.advance.escape
    match c? with
    | some c => quote start c s
    | none => some (none, s.report (.openChar start))
  | some c => quote start c s.advance

/-- The digits of a number with one point among them; `n` is what was read of it. -/
def digits : (rounds : Nat) → (n : Number) → Scanner → Option (Number × Scanner)
  | 0, _, _ => none
  | rounds + 1, n, s =>
    match s.peek with
    | some c =>
      if c.isDigit then digits rounds (n.push c) s.advance
      else if c = '.' ∧ n.fraction = none then
        digits rounds { n with fraction := some [] } s.advance
      else some (n, s)
    | none => some (n, s)

/-- The letter of a type after the digits of a number. -/
def suffix (n : Number) (s : Scanner) : Number × Scanner :=
  match s.peek with
  | some 'u' => ({ n with suffix := some .uint }, s.advance)
  | some 'f' => ({ n with suffix := some .float }, s.advance)
  | _ => (n, s)

/-- The token of a number that starts at the offset `start` and was read up to the scanner. The
type that could not take it is read off the last character. -/
def numeral (start : Nat) (n : Number) (s : Scanner) : Option (Option Token × Scanner) := do
  let lexeme ← s.lexeme? start
  match n.value? with
  | some v => some (some (.literal v start lexeme), s)
  | none =>
    let type := NumberType.ofLast n.fraction.isSome s.previous
    some (none, s.report (.badNumber lexeme type start))

/-- A number. -/
def number (rounds : Nat) (s : Scanner) : Option (Option Token × Scanner) := do
  let (n, after) ← digits rounds ⟨[], none, none⟩ s
  let read := suffix n after
  numeral s.position read.1 read.2

/-- A word. -/
def word (rounds : Nat) (s : Scanner) : Option (Option Token × Scanner) := do
  let after ← skipWhile (fun c => !isBoundary c) rounds s
  let lexeme ← after.lexeme? s.position
  let kind := (Kind.ofWord? (String.ofList lexeme)).getD .identifier
  some (some (.plain kind s.position lexeme), after)

/-- A sign of two characters. -/
def double (kind : Kind) (s : Scanner) : Option (Option Token × Scanner) := do
  let after := { s with position := s.position + 2 }
  let lexeme ← after.lexeme? s.position
  some (some (.plain kind s.position lexeme), after)

/-- A number, a sign of one character, or a word. -/
def simple (rounds : Nat) (c : Char) (s : Scanner) : Option (Option Token × Scanner) :=
  if c.isDigit then number rounds s
  else
    match Kind.ofSeparator? c with
    | some kind => some (some (.plain kind s.position [c]), s.advance)
    | none => word rounds s

/-- What begins with the next character, which is `c`. -/
def pick (rounds : Nat) (c : Char) (s : Scanner) : Option (Option Token × Scanner) :=
  if c = '"' then string s.position rounds [] s.advance
  else if c = '\'' then char s.position s.advance
  else if s.peekNext = some '=' then
    match Kind.ofAssigning? c with
    | some kind => double kind s
    | none => simple rounds c s
  else simple rounds c s

/-- The next token after blanks, or no token if it is malformed and dropped. After the last one
comes an end of file. No loop has more rounds than the text has characters, and one. -/
def next (s : Scanner) : Option (Option Token × Scanner) := do
  let rounds := s.input.length + 1
  let s ← skipWhile isSpace rounds s
  match s.peek with
  | none => some (some (.plain .endOfFile s.position []), s)
  | some c => pick rounds c s

/-- All that comes of a text. -/
structure Tokenized where
  /-- the tokens, without the end of file -/
  tokens : List Token
  /-- the scanner after the last call -/
  last : Scanner
  /-- how many calls dropped a token and did not move -/
  stalls : Nat
  deriving DecidableEq

/-- Call for tokens up to the end of file, so many times at most. After a stall one character is
passed over. -/
def tokenizeFrom : (calls : Nat) → (before : List Token) → (stalls : Nat) → Scanner →
    Option Tokenized
  | 0, _, _, _ => none
  | calls + 1, before, stalls, s => do
    let (token?, after) ← s.next
    match token? with
    | some t =>
      if t.kind = .endOfFile then some ⟨before, after, stalls⟩
      else tokenizeFrom calls (before ++ [t]) stalls after
    | none =>
      if after.position = s.position then tokenizeFrom calls before (stalls + 1) after.advance
      else tokenizeFrom calls before stalls after

/-- The tokens of a text, in so many calls at most. -/
def tokenize (calls : Nat) (input : Text) : Option Tokenized :=
  tokenizeFrom calls [] 0 ⟨input, 0, []⟩

/-! ## Places further on -/

/-- The scanner `n` characters further on, with more faults. -/
def past (s : Scanner) (n : Nat) (more : List Diagnostic) : Scanner :=
  ⟨s.input, s.position + n, s.faults ++ more⟩

/-- From `n` characters further on, `rest` is left of the text. -/
structure Sees (s : Scanner) (n : Nat) (rest : Text) : Prop where
  /-- it is what comes after the place -/
  drop : s.input.drop (s.position + n) = rest
  /-- the place is in the text, or at its end -/
  le : s.position + n ≤ s.input.length

/-- Rounds for what is left are enough to go on by one character. -/
theorem exists_rounds {c : Char} {rest : Text} {rounds : Nat} (h : (c :: rest).length ≤ rounds) :
    ∃ k, rounds = k + 1 :=
  Nat.exists_eq_add_one.2 (Nat.lt_of_lt_of_le (Nat.succ_pos rest.length) h)

theorem past_zero (s : Scanner) : s.past 0 [] = s := by
  rw [past, Nat.add_zero, List.append_nil]

theorem past_past (s : Scanner) (n m : Nat) (ds es : List Diagnostic) :
    (s.past n ds).past m es = s.past (n + m) (ds ++ es) := by
  rw [past, past, past, Nat.add_assoc, List.append_assoc]

theorem report_past (s : Scanner) (n : Nat) (ds : List Diagnostic) (d : Diagnostic) :
    (s.past n ds).report d = s.past n (ds ++ [d]) := by
  rw [past, report, past, List.append_assoc]

/-- A scanner that has come on sees what it saw further on. -/
theorem sees_past {s : Scanner} {n m : Nat} {ds : List Diagnostic} {rest : Text} :
    (s.past n ds).Sees m rest ↔ s.Sees (n + m) rest := by
  constructor
  · rintro ⟨hdrop, hle⟩
    exact ⟨by rw [← Nat.add_assoc]; exact hdrop, by rw [← Nat.add_assoc]; exact hle⟩
  · rintro ⟨hdrop, hle⟩
    rw [← Nat.add_assoc] at hdrop hle
    exact ⟨hdrop, hle⟩

namespace Sees

variable {s : Scanner} {n rounds : Nat} {c : Char} {rest : Text}

theorem peek (h : s.Sees n rest) (ds : List Diagnostic) : (s.past n ds).peek = rest.head? := by
  rw [← h.drop, List.head?_drop]
  rfl

theorem peekNext (h : s.Sees n (c :: rest)) (ds : List Diagnostic) :
    (s.past n ds).peekNext = rest.head? := by
  have hrest : rest = s.input.drop (s.position + n + 1) := by
    rw [← List.tail_drop, h.drop, List.tail_cons]
  rw [hrest, List.head?_drop]
  rfl

/-- What is left is as long as the text from there on. -/
theorem length (h : s.Sees n rest) : s.position + n + rest.length = s.input.length := by
  have hle := h.le
  rw [← h.drop, List.length_drop]
  omega

theorem length_le (h : s.Sees n rest) : rest.length ≤ s.input.length :=
  h.length ▸ Nat.le_add_left _ _

theorem move {front : Text} (h : s.Sees n (front ++ rest)) : s.Sees (n + front.length) rest := by
  refine ⟨?_, ?_⟩
  · rw [← Nat.add_assoc, ← List.drop_drop, h.drop, List.drop_left]
  · have := h.length
    rw [List.length_append] at this
    omega

theorem step (h : s.Sees n (c :: rest)) : s.Sees (n + 1) rest :=
  (show s.Sees n ([c] ++ rest) from h).move

theorem advance (h : s.Sees n (c :: rest)) (ds : List Diagnostic) :
    (s.past n ds).advance = s.past (n + 1) ds := by
  rw [Scanner.advance, h.peek]
  rfl

/-- The piece up to the scanner lies in the text. -/
theorem lexeme? (h : s.Sees n rest) (ds : List Diagnostic) :
    (s.past n ds).lexeme? s.position = some ((s.input.drop s.position).take n) := by
  rw [Scanner.lexeme?, if_pos ⟨Nat.le_add_right _ _, h.le⟩]
  simp [past]

/-- The last character that was passed is that of the piece up to the scanner. -/
theorem previous (h : s.Sees (n + 1) rest) (ds : List Diagnostic) :
    (s.past (n + 1) ds).previous = ((s.input.drop s.position).take (n + 1)).getLast? := by
  have hlength : ((s.input.drop s.position).take (n + 1)).length = n + 1 := by
    have hle := h.le
    rw [List.length_take, List.length_drop]
    omega
  rw [List.getLast?_eq_getElem?, hlength, Nat.add_sub_cancel, List.getElem?_take_of_lt (by omega),
    List.getElem?_drop]
  rfl

theorem skipWhile (h : s.Sees n rest) (hrounds : rest.length ≤ rounds) (keep : Char → Bool)
    (ds : List Diagnostic) :
    Scanner.skipWhile keep (rounds + 1) (s.past n ds) =
      some (s.past (n + (rest.takeWhile keep).length) ds) := by
  induction rest generalizing n rounds with
  | nil =>
    rw [Scanner.skipWhile, h.peek]
    rfl
  | cons c rest ih =>
    obtain ⟨rounds, rfl⟩ := exists_rounds hrounds
    rw [Scanner.skipWhile, h.peek, List.takeWhile_cons]
    by_cases hc : keep c = true
    · simp only [List.head?_cons, hc, if_true, List.length_cons]
      rw [h.advance, ih h.step (Nat.le_of_succ_le_succ hrounds), Nat.add_assoc, Nat.add_comm 1]
    · simp [hc]

end Sees

end Scanner

end Reckon
