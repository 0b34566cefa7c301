import Reckon.Diagnostic

/-!
# Lexing: a text as a row of segments

The lexer cuts the text into segments and leaves no character out: blanks, tokens, and
pieces that begin like a literal and are dropped with a diagnostic. Tokens and diagnostics
are read off the segments.

* `Found`: what stands at the front of a text, and how far it reaches.
* `recognize`: the front of a non-empty text. It always reaches over one character at
  least, so that the lexer comes to the end of every text.
* `segments`: the whole text.
* `tokens`, `lexicalDiagnostics`: what is read off.
-/

namespace Reckon

/-- The blanks between tokens. -/
def isSpace (c : Char) : Bool := c = ' ' || c = '\t' || c = '\r' || c = '\n'

/-- The characters that end a word. -/
def isBoundary (c : Char) : Bool :=
  isSpace c || c = '"' || c = '\'' || (Kind.ofSeparator? c).isSome

/-- The character that an escape stands for. -/
def unescape? : Char → Option Char
  | 'n' => some '\n'
  | 't' => some '\t'
  | 'r' => some '\r'
  | '0' => some '\x00'
  | '\\' => some '\\'
  | '\'' => some '\''
  | '"' => some '"'
  | _ => none

/-- What a segment is. -/
inductive Content where
  /-- blanks -/
  | blank
  /-- a token, with its value if it is a literal -/
  | token (kind : Kind) (value : Option Literal)
  /-- a malformed literal -/
  | dropped (fault : Diagnostic)
  deriving DecidableEq

/-- What stands at the front of a text. -/
structure Found where
  /-- how many characters it has -/
  length : Nat
  /-- what it is -/
  content : Content
  /-- the unknown escapes in it -/
  escapes : List Diagnostic
  deriving DecidableEq

/-! ## Literals in quotes -/

/-- The inside of a string that starts at the offset `start`: `n` characters are read,
`value` is what they stand for and `escapes` the unknown escapes among them, both last
first. The string has to be closed on its line; the newline does not belong to it. A
character with an unknown escape stands for itself. -/
def readString (start n : Nat) (value : Text) (escapes : List Diagnostic) : Text → Found
  | [] => ⟨n, .dropped (.openString start), escapes.reverse⟩
  | '"' :: _ => ⟨n + 1, .token .stringLiteral (some (.str value.reverse)), escapes.reverse⟩
  | '\n' :: _ => ⟨n, .dropped (.openString start), escapes.reverse⟩
  | '\\' :: [] => ⟨n + 1, .dropped (.openString start), escapes.reverse⟩
  | '\\' :: c :: rest =>
    if c = '\n' then ⟨n + 1, .dropped (.openString start), escapes.reverse⟩
    else
      match unescape? c with
      | some v => readString start (n + 2) (v :: value) escapes rest
      | none => readString start (n + 2) (c :: value) (.badEscape c (start + n) :: escapes) rest
  | c :: rest => readString start (n + 1) (c :: value) escapes rest

/-- The end of a character literal of which `n` characters are read: the closing quote must
follow. -/
def closeChar (start n : Nat) (c : Char) (escapes : List Diagnostic) : Text → Found
  | '\'' :: _ => ⟨n + 1, .token .charLiteral (some (.char c)), escapes⟩
  | _ => ⟨n, .dropped (.openChar start), escapes⟩

/-- The inside of a character literal that starts at the offset `start`. -/
def readChar (start : Nat) : Text → Found
  | [] => ⟨1, .dropped (.openChar start), []⟩
  | '\n' :: _ => ⟨1, .dropped (.openChar start), []⟩
  | '\'' :: _ => ⟨2, .dropped (.emptyChar start), []⟩
  | '\\' :: [] => ⟨2, .dropped (.openChar start), []⟩
  | '\\' :: c :: rest =>
    if c = '\n' then ⟨2, .dropped (.openChar start), []⟩
    else
      match unescape? c with
      | some v => closeChar start 3 v [] rest
      | none => closeChar start 3 c [.badEscape c (start + 1)] rest
  | c :: rest => closeChar start 2 c [] rest

/-! ## Numbers and words -/

/-- The number at the front of a text, and what follows it: digits, then a point with the
digits after it if there is one, then the letter of a type if there is one. -/
def readNumber (s : Text) : Number × Text :=
  let whole := s.takeWhile Char.isDigit
  let (fraction, rest) :=
    match s.dropWhile Char.isDigit with
    | '.' :: rest => (some (rest.takeWhile Char.isDigit), rest.dropWhile Char.isDigit)
    | rest => (none, rest)
  match rest with
  | 'u' :: rest => (⟨whole, fraction, some .uint⟩, rest)
  | 'f' :: rest => (⟨whole, fraction, some .float⟩, rest)
  | rest => (⟨whole, fraction, none⟩, rest)

/-- How many characters a number has. -/
def Number.length (n : Number) : Nat :=
  n.whole.length + (n.fraction.elim 0 fun places => places.length + 1) +
    (if n.suffix.isSome then 1 else 0)

/-- The number at the front of a text whose offset is `start`. The type that could not take it is
read off its end. -/
def foundNumber (start : Nat) (s : Text) : Found :=
  let number := (readNumber s).1
  let lexeme := s.take number.length
  match number.value? with
  | some v => ⟨number.length, .token v.kind (some v), []⟩
  | none =>
    let type := NumberType.ofLast number.fraction.isSome lexeme.getLast?
    ⟨number.length, .dropped (.badNumber lexeme type start), []⟩

/-- A word that begins with `c`: all characters up to the next boundary. -/
def foundWord (c : Char) (rest : Text) : Found :=
  let more := rest.takeWhile fun d => !isBoundary d
  let kind := (Kind.ofWord? (String.ofList (c :: more))).getD .identifier
  ⟨more.length + 1, .token kind none, []⟩

/-! ## The front of a text -/

/-- What the text `c :: rest`, whose offset is `start`, begins with. An operator of two
characters goes before the operator of one. -/
def recognize (start : Nat) (c : Char) (rest : Text) : Found :=
  if isSpace c then ⟨(rest.takeWhile isSpace).length + 1, .blank, []⟩
  else if c = '"' then readString start 1 [] [] rest
  else if c = '\'' then readChar start rest
  else
    match Kind.ofAssigning? c, rest.head? with
    | some kind, some '=' => ⟨2, .token kind none, []⟩
    | _, _ =>
      if c.isDigit then foundNumber start (c :: rest)
      else
        match Kind.ofSeparator? c with
        | some kind => ⟨1, .token kind none, []⟩
        | none => foundWord c rest

theorem le_length_readString (start n : Nat) (value : Text) (escapes : List Diagnostic)
    (s : Text) : n ≤ (readString start n value escapes s).length := by
  fun_induction readString start n value escapes s with
  | case1 | case3 => exact Nat.le_refl _
  | case2 | case4 | case5 => exact Nat.le_succ _
  | case6 _ _ _ _ _ _ _ _ ih => exact Nat.le_trans (Nat.le_add_right _ 2) ih
  | case7 _ _ _ _ _ _ _ ih => exact Nat.le_trans (Nat.le_add_right _ 2) ih
  | case8 _ _ _ _ _ _ _ _ _ ih => exact Nat.le_of_succ_le ih

theorem length_closeChar_pos {start n : Nat} (hn : 0 < n) (c : Char) (escapes : List Diagnostic)
    (s : Text) : 0 < (closeChar start n c escapes s).length := by
  unfold closeChar
  split <;> simp [hn]

theorem length_readChar_pos (start : Nat) (s : Text) : 0 < (readChar start s).length := by
  unfold readChar
  split
  · simp
  · simp
  · simp
  · simp
  · split
    · simp
    · split <;> exact length_closeChar_pos (by omega) _ _ _
  · exact length_closeChar_pos (by omega) _ _ _

theorem length_readNumber_pos {c : Char} (hc : c.isDigit = true) (rest : Text) :
    0 < (readNumber (c :: rest)).1.length := by
  have hwhole : 0 < (readNumber (c :: rest)).1.whole.length := by
    unfold readNumber
    simp only [List.takeWhile_cons, hc, if_true]
    split <;> simp
  unfold Number.length
  omega

theorem length_foundNumber_pos {start : Nat} {c : Char} {rest : Text} (hc : c.isDigit = true) :
    0 < (foundNumber start (c :: rest)).length := by
  unfold foundNumber
  dsimp only
  split <;> exact length_readNumber_pos hc rest

/-- The lexer makes progress: whatever a text begins with has at least one character. -/
theorem length_recognize_pos (start : Nat) (c : Char) (rest : Text) :
    0 < (recognize start c rest).length := by
  unfold recognize
  split
  · simp
  split
  · exact le_length_readString ..
  split
  · exact length_readChar_pos ..
  split
  · simp
  split
  · rename_i hc
    exact length_foundNumber_pos hc
  split
  · simp
  · simp [foundWord]

/-! ## Segments -/

/-- A piece of the text. -/
structure Segment where
  /-- the offset of the first character -/
  start : Nat
  /-- the characters -/
  text : Text
  /-- what it is -/
  content : Content
  /-- the unknown escapes in it -/
  escapes : List Diagnostic
  deriving DecidableEq

/-- The segments of a text whose offset is `start`, after the segments `before`, which come
last first. -/
def segmentsFrom (start : Nat) (before : List Segment) (s : Text) : List Segment :=
  match s with
  | [] => before.reverse
  | c :: rest =>
    let found := recognize start c rest
    let segment := ⟨start, (c :: rest).take found.length, found.content, found.escapes⟩
    segmentsFrom (start + found.length) (segment :: before) ((c :: rest).drop found.length)
termination_by s.length
decreasing_by
  have := length_recognize_pos start c rest
  simp only [List.length_drop, List.length_cons]
  omega

/-! `segmentsFrom` is defined by well-founded recursion; these are its equations. -/

@[simp] theorem segmentsFrom_nil (start : Nat) (before : List Segment) :
    segmentsFrom start before [] = before.reverse := by
  rw [segmentsFrom]

theorem segmentsFrom_cons (start : Nat) (before : List Segment) (c : Char) (rest : Text) :
    segmentsFrom start before (c :: rest) =
      segmentsFrom (start + (recognize start c rest).length)
        (⟨start, (c :: rest).take (recognize start c rest).length,
          (recognize start c rest).content, (recognize start c rest).escapes⟩ :: before)
        ((c :: rest).drop (recognize start c rest).length) := by
  rw [segmentsFrom]

/-- The segments before a text do not bear on its own. -/
theorem segmentsFrom_eq_append (start : Nat) (before : List Segment) (s : Text) :
    segmentsFrom start before s = before.reverse ++ segmentsFrom start [] s := by
  match s with
  | [] => simp
  | c :: rest =>
    rw [segmentsFrom_cons start before, segmentsFrom_cons start [],
      segmentsFrom_eq_append _ (_ :: before), segmentsFrom_eq_append _ [_]]
    simp
termination_by s.length
decreasing_by
  all_goals
    have := length_recognize_pos start c rest
    simp only [List.length_drop, List.length_cons]
    omega

/-- The segments of a text. -/
def segments (s : Text) : List Segment := segmentsFrom 0 [] s

namespace Segment

/-- The token of a segment. -/
def token? (s : Segment) : Option Token :=
  match s.content with
  | .token kind value => some ⟨kind, s.start, s.text, value⟩
  | _ => none

/-- The fault for which a segment is dropped. -/
def fault? (s : Segment) : Option Diagnostic :=
  match s.content with
  | .dropped fault => some fault
  | _ => none

/-- The faults of a segment, in the order of their discovery: a literal is dropped at its
end. -/
def diagnostics (s : Segment) : List Diagnostic := s.escapes ++ s.fault?.toList

end Segment

/-- The tokens of a text. -/
def tokens (s : Text) : List Token := (segments s).filterMap Segment.token?

/-- The faults of the tokens of a text. -/
def lexicalDiagnostics (s : Text) : List Diagnostic := (segments s).flatMap Segment.diagnostics

end Reckon
