import Reckon.Text.Table

/-!
# Character classes

What the rest of the library asks of a single character, and of a text through its
characters: whether a line is blank, and whether a character can be shown as it is.
-/

namespace Reckon.Text

/-- A character with the property `White_Space`. -/
def isWhiteSpace (c : Char) : Bool := Table.whiteSpace.has c.toNat

/-- A mark that attaches to the character before it. -/
def extendsGrapheme (c : Char) : Bool := Table.graphemeExtend.has c.toNat

/-- The two sound marks of halfwidth Katakana, which are letters as well as marks. -/
def isSoundMark (c : Char) : Bool := c = '\uff9e' || c = '\uff9f'

/-- A character that is shown as it is when text is quoted: it has a visible form, and it is
a letter or does not attach to its neighbour. -/
def isShown (c : Char) : Bool :=
  !Table.unprinted.has c.toNat && (!extendsGrapheme c || isSoundMark c)

/-- A line is blank when it holds white space only. -/
def isBlank (s : Text) : Bool := s.all isWhiteSpace

end Reckon.Text
