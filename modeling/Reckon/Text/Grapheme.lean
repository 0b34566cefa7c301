import Reckon.Text.BreakTable
import Reckon.Text.Class

/-!
# A text as symbols

What a reader takes for one symbol may be several characters: a letter with its marks, the
letters of a Hangul syllable, two letters that stand for a flag, pictures put together by a
joiner. The rules say between which characters a symbol does not end.

* `BreakClass`: how a character takes part in a symbol.
* `SoFar`: what the rules have to know of the symbol before a character.
* `SoFar.joins`: the rules.
* `graphemes`: the symbols of a text. They are the text, cut into pieces
  (`flatten_graphemes`).
-/

namespace Reckon.Text

/-- How a character takes part in a symbol. -/
inductive BreakClass where
  /-- the first character of a line end of two -/
  | carriageReturn
  /-- the other character of a line end -/
  | lineFeed
  /-- stands alone -/
  | control
  /-- a mark on the character before it -/
  | extend
  /-- the joiner of pictures -/
  | joiner
  /-- half of a flag -/
  | indicator
  /-- belongs to the character after it -/
  | prepended
  /-- a mark with a place of its own -/
  | spacing
  /-- a consonant that begins a Hangul syllable -/
  | leading
  /-- a vowel of a Hangul syllable -/
  | vowel
  /-- a consonant that ends a Hangul syllable -/
  | trailing
  /-- a whole Hangul syllable that ends with its vowel -/
  | openSyllable
  /-- a whole Hangul syllable that ends with a consonant -/
  | closedSyllable
  /-- a picture -/
  | pictograph
  /-- anything else -/
  | other
  deriving DecidableEq

/-- A skin tone, which is a mark on the picture before it. -/
def isSkinTone (c : Char) : Bool := 0x1f3fb ≤ c.toNat && c.toNat ≤ 0x1f3ff

/-- Half of a flag. -/
def isIndicator (c : Char) : Bool := 0x1f1e6 ≤ c.toNat && c.toNat ≤ 0x1f1ff

/-- The joiner of pictures. -/
def zeroWidthJoiner : Char := '\u200d'

/-- The part that a code point has in a Hangul syllable. Whole syllables come in rows of 28,
of which the first has no final consonant. -/
def hangulClass? (n : Nat) : Option BreakClass :=
  if (0x1100 ≤ n && n ≤ 0x115f) || (0xa960 ≤ n && n ≤ 0xa97c) then some .leading
  else if (0x1160 ≤ n && n ≤ 0x11a7) || (0xd7b0 ≤ n && n ≤ 0xd7c6) then some .vowel
  else if (0x11a8 ≤ n && n ≤ 0x11ff) || (0xd7cb ≤ n && n ≤ 0xd7fb) then some .trailing
  else if 0xac00 ≤ n && n ≤ 0xd7a3 then
    some (if (n - 0xac00) % 28 = 0 then .openSyllable else .closedSyllable)
  else if n = 0x16d63 || (0x16d67 ≤ n && n ≤ 0x16d6a) then some .vowel
  else none

/-- The class of a character. -/
def breakClass (c : Char) : BreakClass :=
  let n := c.toNat
  if 0x20 ≤ n && n ≤ 0x7e then .other
  else if c = '\r' then .carriageReturn
  else if c = '\n' then .lineFeed
  else if c = zeroWidthJoiner then .joiner
  else if Table.control.has n then .control
  else if extendsGrapheme c || isSkinTone c then .extend
  else if Table.spacingMark.has n then .spacing
  else if Table.prepended.has n then .prepended
  else if isIndicator c then .indicator
  else if Table.pictograph.has n then .pictograph
  else (hangulClass? n).getD .other

/-- What precedes in the symbol, as far as a picture or a conjunct may go on. -/
inductive Openness where
  /-- nothing may go on -/
  | closed
  /-- a picture, or a consonant, with its marks -/
  | started
  /-- and after it what asks for another one -/
  | linked
  deriving DecidableEq

/-- What the rules have to know of a symbol that is not at its end. -/
structure SoFar where
  /-- the class of its last character -/
  last : BreakClass
  /-- is that the first half of a flag? -/
  halfFlag : Bool
  /-- a picture and its joiner -/
  picture : Openness
  /-- a consonant and its linker -/
  conjunct : Openness
  deriving DecidableEq

/-- How a picture goes on: marks may follow it, and then a joiner. -/
def pictureAfter (before : Openness) : BreakClass → Openness
  | .pictograph => .started
  | .extend => if before = .started then .started else .closed
  | .joiner => if before = .started then .linked else .closed
  | _ => .closed

/-- How a conjunct goes on: marks may follow the consonant, and one linker among them at
least. -/
def conjunctAfter (before : Openness) (c : Char) : Openness :=
  if Table.conjunctConsonant.has c.toNat then .started
  else if before = .closed then .closed
  else if Table.conjunctLinker.has c.toNat then .linked
  else if (breakClass c = .extend || breakClass c = .joiner) && c ≠ '\u200c' then before
  else .closed

namespace SoFar

/-- The symbol that begins with a character. -/
def ofChar (c : Char) : SoFar :=
  let k := breakClass c
  ⟨k, k = .indicator, pictureAfter .closed k, conjunctAfter .closed c⟩

/-- The symbol with one more character. -/
def add (b : SoFar) (c : Char) : SoFar :=
  let k := breakClass c
  ⟨k, k = .indicator && !b.halfFlag, pictureAfter b.picture k, conjunctAfter b.conjunct c⟩

/-- Does a character belong to the symbol before it? -/
def joins (b : SoFar) (c : Char) : Bool :=
  match b.last, breakClass c with
  | .carriageReturn, k => k = .lineFeed
  | .control, _ | .lineFeed, _ => false
  | _, .control | _, .carriageReturn | _, .lineFeed => false
  | _, .extend | _, .joiner | _, .spacing => true
  | .prepended, _ => true
  | .leading, .leading | .leading, .vowel | .leading, .openSyllable
  | .leading, .closedSyllable => true
  | .openSyllable, .vowel | .openSyllable, .trailing | .vowel, .vowel | .vowel, .trailing => true
  | .closedSyllable, .trailing | .trailing, .trailing => true
  | .indicator, .indicator => b.halfFlag
  | _, .pictograph => b.picture = .linked
  | _, _ => b.conjunct = .linked && Table.conjunctConsonant.has c.toNat

end SoFar

/-- The symbols of a text, after the symbols `before`, which come last first, and the symbol
so far, which comes last character first. -/
def graphemesFrom (b : SoFar) (symbol : Text) (before : List Text) : Text → List Text
  | [] => (symbol.reverse :: before).reverse
  | c :: rest =>
    if b.joins c then graphemesFrom (b.add c) (c :: symbol) before rest
    else graphemesFrom (.ofChar c) [c] (symbol.reverse :: before) rest

/-- The symbols of a text. -/
def graphemes : Text → List Text
  | [] => []
  | c :: rest => graphemesFrom (.ofChar c) [c] [] rest

theorem flatten_graphemesFrom (b : SoFar) (symbol : Text) (before : List Text) (s : Text) :
    (graphemesFrom b symbol before s).flatten = before.reverse.flatten ++ symbol.reverse ++ s := by
  induction s generalizing b symbol before with
  | nil => simp [graphemesFrom]
  | cons c rest ih =>
    rw [graphemesFrom]
    split
    · rw [ih]
      simp
    · rw [ih]
      simp

/-- No character is lost between the symbols, and none is added. -/
@[simp] theorem flatten_graphemes (s : Text) : (graphemes s).flatten = s := by
  cases s with
  | nil => rfl
  | cons c rest =>
    rw [graphemes, flatten_graphemesFrom]
    rfl

end Reckon.Text
