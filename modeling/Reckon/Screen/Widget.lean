import Reckon.Screen.Canvas
import Reckon.Text.Width

/-!
# Drawing text and frames

Text is drawn symbol by symbol, and a wide symbol takes several cells. Text that does not fit
is cut.

* `Span`: a text with its paint.
* `Canvas.frame`: a border with a title.
* `Canvas.paragraph`: one line, at the left or right end of its area.
* `Canvas.list`: items one below the other.
* `Canvas.shown`: what of the cells is to be seen.
-/

namespace Reckon

/-- A text and how it is painted. -/
structure Span where
  /-- the text -/
  text : Text
  /-- how it is painted -/
  paint : Paint
  deriving DecidableEq

/-- The symbols of a span. Line ends are not drawn. -/
def Span.symbols (s : Span) : List Text :=
  (Text.graphemes s.text).filter fun g => !g.contains '\n'

/-! ## Frames -/

namespace Canvas

/-- A border around an area, with a title in its top row. -/
def frame (c : Canvas) (area : Rect) (title : Text) (p : Paint) : Canvas :=
  if area.isEmpty then c
  else
    let put := fun (symbol : Char) (cell : Cell) => cell.write [symbol] p
    let last := area.right - 1
    let low := area.bottom - 1
    let c := c.modifyColumn area.x area.y area.height (put '│')
    let c := c.modifyRow area.x area.y area.width (put '─')
    let c := c.modifyColumn last area.y area.height (put '│')
    let c := c.modifyRow area.x low area.width (put '─')
    let c := c.modify last low (put '┘')
    let c := c.modify last area.y (put '┐')
    let c := c.modify area.x low (put '└')
    let c := c.modify area.x area.y (put '┌')
    (title.take (area.width - 2)).zipIdx.foldl
      (fun c (symbol, i) => c.modify (area.x + 1 + i) area.y (put symbol)) c

/-! ## One line -/

/-- The symbols that fit into the given width; a symbol that is too wide for any place is
passed over, and the first other one that does not fit ends the line. -/
def fitting (width used : Nat) : List (Text × Paint) → List (Text × Paint)
  | [] => []
  | (g, p) :: rest =>
    let w := Text.width g
    if width < w then fitting width used rest
    else if width < used + w then []
    else (g, p) :: fitting width (used + w) rest

/-- Draw symbols from a column on. Symbols without a width are not drawn. -/
def putSymbols (y : Nat) : Nat → List (Text × Paint) → Canvas → Canvas
  | _, [], c => c
  | x, (g, p) :: rest, c =>
    let w := Text.width g
    if w = 0 then putSymbols y x rest c
    else putSymbols y (x + w) rest (c.modify x y fun cell => cell.write g p)

/-- One line of spans in the first row of an area, from its left end or at its right end. -/
def paragraph (c : Canvas) (area : Rect) (atRight : Bool) (spans : List Span) : Canvas :=
  if area.isEmpty then c
  else
    let symbols := fitting area.width 0 (spans.flatMap fun s => s.symbols.map fun g => (g, s.paint))
    let used := symbols.foldr (fun (g, _) n => Text.width g + n) 0
    let x := if atRight then area.x + (area.width - used) else area.x
    putSymbols area.y x symbols c

/-! ## Lists -/

/-- Draw the symbols of a span from the column `x` on, up to the column `stop`; `start` is
the column of the first one. A symbol without a width is put onto the symbol before it, and
a wide one empties the cell that it covers. -/
def putSpan (y stop start : Nat) (p : Paint) : Nat → Bool → List Text → Canvas → Canvas
  | _, _, [], c => c
  | x, first, g :: rest, c =>
    let w := Text.width g
    if stop < x + w then c
    else
      let c :=
        if first then c.modify x y fun cell => cell.write g p
        else if x = start then c.modify x y fun cell => cell.extend g p
        else if w = 0 then c.modify (x - 1) y fun cell => cell.extend g p
        else c.modify x y fun cell => cell.write g p
      let c := c.modifyRow (x + 1) y (w - 1) fun _ => .empty
      putSpan y stop start p (x + w) false rest c

/-- Draw spans one after the other in the first row of an area. Each one begins where the
width of the text before it ends, and one without a width is left out. -/
def putSpans (area : Rect) : List Span → Canvas → Canvas
  | [], c => c
  | s :: rest, c =>
    let w := Text.width s.text
    if w = 0 then putSpans area rest c
    else if area.isEmpty then c
    else
      putSpans (area.indent w) rest
        (putSpan area.y area.right area.x s.paint area.x true s.symbols c)

end Canvas

/-- An entry of a list: its rows, and how the whole of it is painted. -/
structure Item where
  /-- the rows -/
  rows : List (List Span)
  /-- how the rows are painted, to the end of the area -/
  paint : Paint
  deriving DecidableEq

/-- The lines of a text: it is cut at newlines, and a carriage return before a newline goes
with it. -/
def linesOf (s : Text) : List Text :=
  let (line, lines) :=
    s.foldr (fun c (line, lines) => if c = '\n' then ([], line :: lines) else (c :: line, lines))
      (([], []) : Text × List Text)
  let all := line :: lines
  let ended := if all.getLast? = some [] ∧ 1 < all.length then all.dropLast else all
  (ended.zipIdx).map fun (l, i) =>
    if i + 1 < all.length ∧ l.getLast? = some '\r' then l.dropLast else l

namespace Canvas

/-- Draw the rows of an item. -/
def putRows (area : Rect) (rows : List (List Span)) (c : Canvas) : Canvas :=
  rows.zipIdx.foldl (fun c (spans, i) => putSpans (area.row i) spans c) c

/-- Draw items one below the other, as long as they fit as a whole. -/
def list (area : Rect) : List Item → Canvas → Canvas
  | [], c => c
  | item :: rest, c =>
    let n := item.rows.length
    if area.isEmpty || area.height < n then c
    else
      let here : Rect := ⟨area.x, area.y, area.width, n⟩
      list ⟨area.x, area.y + n, area.width, area.height - n⟩ rest
        (putRows here item.rows (c.paint here item.paint))

/-! ## What is seen -/

/-- The cells that are seen, after the cell `before`: a wide symbol covers the cell after it,
of which nothing is seen. -/
def seenAfter (before : Cell) : List Cell → List Cell
  | [] => []
  | cell :: rest => (if 2 ≤ Text.width before.symbol then .empty else cell) :: seenAfter cell rest

/-- The screen that is seen. -/
def shown (c : Canvas) : Canvas := { c with cells := (seenAfter .empty c.cells.toList).toArray }

end Canvas

end Reckon
