import Reckon.Text.Basic

/-!
# A screen of cells

What is drawn is a rectangle of cells, each with a symbol and a style. A `Paint` says what
of the style is to change: a colour that it does not name stays as it was.

* `Color`, `Style`, `Cell`: what a cell looks like.
* `Paint`: a change of style.
* `Rect`: a part of the screen, in cells from the top left corner.
* `Canvas`: the screen. Drawing outside of it does nothing.
-/

namespace Reckon

/-- A colour of a terminal. -/
inductive Color where
  /-- the terminal's own -/
  | standard
  /-- black -/
  | black
  /-- red, green and blue, as one number of six hexadecimal digits -/
  | rgb (code : Nat)
  deriving DecidableEq

/-- How a cell looks. -/
structure Style where
  /-- the colour of the symbol -/
  fg : Color
  /-- the colour behind it -/
  bg : Color
  /-- is it bold? -/
  bold : Bool
  deriving DecidableEq

/-- The style of an empty cell. -/
def Style.standard : Style := ⟨.standard, .standard, false⟩

/-- A change of style. -/
structure Paint where
  /-- the new colour of the symbol, if it changes -/
  fg : Option Color
  /-- the new colour behind it, if it changes -/
  bg : Option Color
  /-- does it become bold? -/
  bold : Bool
  deriving DecidableEq

namespace Paint

/-- No change. -/
def none : Paint := ⟨.none, .none, false⟩

/-- A new colour of the symbol. -/
def ink (c : Color) : Paint := ⟨some c, .none, false⟩

/-- New colours of the symbol and behind it. -/
def ofColors (fg bg : Color) : Paint := ⟨some fg, some bg, false⟩

/-- A new colour behind the symbol. -/
def background (c : Color) : Paint := ⟨.none, some c, false⟩

/-- The same change, and bold. -/
def inBold (p : Paint) : Paint := { p with bold := true }

/-- The style after a change. -/
def onto (p : Paint) (s : Style) : Style :=
  ⟨p.fg.getD s.fg, p.bg.getD s.bg, p.bold || s.bold⟩

end Paint

/-- A cell of the screen. -/
structure Cell where
  /-- the symbol: a character and the marks on it -/
  symbol : Text
  /-- the style -/
  style : Style
  deriving DecidableEq

namespace Cell

/-- An empty cell. -/
def empty : Cell := ⟨[' '], .standard⟩

/-- Another style. -/
def paint (c : Cell) (p : Paint) : Cell := { c with style := p.onto c.style }

/-- Another symbol, and another style. -/
def write (c : Cell) (symbol : Text) (p : Paint) : Cell := { c.paint p with symbol }

/-- One more mark on the symbol, and another style. -/
def extend (c : Cell) (mark : Text) (p : Paint) : Cell :=
  { c.paint p with symbol := c.symbol ++ mark }

end Cell

/-- A part of the screen. -/
structure Rect where
  /-- the first column -/
  x : Nat
  /-- the first row -/
  y : Nat
  /-- the number of columns -/
  width : Nat
  /-- the number of rows -/
  height : Nat
  deriving DecidableEq

namespace Rect

/-- The column after the last one. -/
def right (r : Rect) : Nat := r.x + r.width

/-- The row after the last one. -/
def bottom (r : Rect) : Nat := r.y + r.height

/-- Has it no cells? -/
def isEmpty (r : Rect) : Bool := r.width = 0 || r.height = 0

/-- The part inside a border of one cell. -/
def inside (r : Rect) : Rect :=
  ⟨min (r.x + 1) r.right, min (r.y + 1) r.bottom, r.width - 2, r.height - 2⟩

/-- The part without its first `n` columns. -/
def indent (r : Rect) (n : Nat) : Rect := ⟨r.x + n, r.y, r.width - n, r.height⟩

/-- The row with the given number. -/
def row (r : Rect) (n : Nat) : Rect := ⟨r.x, r.y + n, r.width, 1⟩

/-- The first columns, as many as the given percentage, to the nearest column, and the
others. -/
def splitColumns (r : Rect) (percent : Nat) : Rect × Rect :=
  let n := (r.width * percent + 50) / 100
  (⟨r.x, r.y, n, r.height⟩, ⟨r.x + n, r.y, r.width - n, r.height⟩)

/-- The first rows, as many as the given percentage, to the nearest row, and the others. -/
def splitRows (r : Rect) (percent : Nat) : Rect × Rect :=
  let n := (r.height * percent + 50) / 100
  (⟨r.x, r.y, r.width, n⟩, ⟨r.x, r.y + n, r.width, r.height - n⟩)

end Rect

/-- A screen. -/
structure Canvas where
  /-- the number of columns -/
  width : Nat
  /-- the number of rows -/
  height : Nat
  /-- the cells, row by row -/
  cells : Array Cell
  deriving DecidableEq

namespace Canvas

/-- An empty screen. -/
def blank (width height : Nat) : Canvas := ⟨width, height, Array.replicate (width * height) .empty⟩

/-- Change one cell. -/
def modify (c : Canvas) (x y : Nat) (f : Cell → Cell) : Canvas :=
  if x < c.width ∧ y < c.height then { c with cells := c.cells.modify (y * c.width + x) f } else c

/-- The cell in a column and a row. -/
def get? (c : Canvas) (x y : Nat) : Option Cell :=
  if x < c.width ∧ y < c.height then c.cells[y * c.width + x]? else none

/-- The cells of a row. -/
def row (c : Canvas) (y : Nat) : List Cell := (List.range c.width).filterMap fun x => c.get? x y

/-- Change the cells of `width` columns of a row. -/
def modifyRow (c : Canvas) (x y width : Nat) (f : Cell → Cell) : Canvas :=
  (List.range' x width).foldl (fun c x => c.modify x y f) c

/-- Change the cells of `height` rows of a column. -/
def modifyColumn (c : Canvas) (x y height : Nat) (f : Cell → Cell) : Canvas :=
  (List.range' y height).foldl (fun c y => c.modify x y f) c

/-- Change the style of a part of the screen. -/
def paint (c : Canvas) (area : Rect) (p : Paint) : Canvas :=
  (List.range' area.y area.height).foldl
    (fun c y => c.modifyRow area.x y area.width fun cell => cell.paint p) c

end Canvas

end Reckon
