import Reckon.Screen.Widget
import Reckon.Session.Transcript
import Reckon.Workbench.Theme

/-!
# The rows of the scrolling panes

What the panes for tokens, tree and transcript have to show, and which part of it fits.

* `Token.row`, `Expr.rows`, `TranscriptLine.item`: the rows.
* `Window`: the rows that are shown. The offset is brought back so far that the pane is full
  as long as there are rows to fill it.
-/

namespace Reckon

/-! ## Rows -/

/-- The row of a token: offset, kind, lexeme, and the value of a literal. -/
def Token.row (t : Token) : List Span :=
  let head : List Span :=
    [⟨(Text.padLeft ' ' 4 (toString t.position) ++ " ").toList, .ink Theme.faint⟩,
      ⟨(Text.padRight 16 t.kind.name).toList, .ink (Theme.ofKind t.kind)⟩,
      ⟨(Text.quoted t.lexeme).toList, .ink Theme.text⟩]
  match t.value with
  | none => head
  | some v =>
    head ++ [⟨(" = " ++ v.display ++ " (" ++ v.typeName ++ ")").toList, .ink Theme.secondary⟩]

/-- A row of the tree pane. -/
structure TreeRow where
  /-- the depth of the node -/
  depth : Nat
  /-- what the node is -/
  label : String
  /-- how the label is painted -/
  paint : Paint
  deriving DecidableEq

/-- The row of a number. A missing one is marked, with its offset. -/
def Token.treeRow (t : Token) (depth : Nat) : TreeRow :=
  match t.value, t.isPlaceholder with
  | some v, false => ⟨depth, "Number " ++ v.display, .ink Theme.number⟩
  | _, _ => ⟨depth, "Number <missing> @" ++ toString t.position, .ink Theme.error⟩

/-- The rows of a tree at the given depth, followed by `rest`: a node comes before its
operands. -/
def Expr.rowsThen (depth : Nat) : Expr → List TreeRow → List TreeRow
  | .number t, rest => t.treeRow depth :: rest
  | .node op _ _ l r, rest =>
    ⟨depth, "Binary '" ++ String.singleton op.symbol ++ "'", (Paint.ink Theme.operator).inBold⟩ ::
      l.rowsThen (depth + 1) (r.rowsThen (depth + 1) rest)

/-- The rows of a tree. -/
def Expr.rows (e : Expr) : List TreeRow := e.rowsThen 0 []

/-- The spans of a row of the tree: a rule for each level above it, and the label. -/
def TreeRow.spans (r : TreeRow) : List Span :=
  [⟨(List.replicate r.depth ['│', ' ']).flatten, .ink Theme.faint⟩, ⟨r.label.toList, r.paint⟩]

/-- The item of a line of the transcript. -/
def TranscriptLine.item (l : TranscriptLine) : Item :=
  let (text, paint) := match l.kind with
    | .input => ("> " ++ l.text, Paint.ink Theme.faint)
    | .value => (l.text, (Paint.ink Theme.success).inBold)
    | .error => (l.text, Paint.ink Theme.error)
  ⟨(linesOf text.toList).map fun s => [⟨s, .none⟩], paint⟩

/-! ## What is shown of them -/

/-- The rows of a pane that are shown. -/
structure Window where
  /-- how many rows come before -/
  offset : Nat
  /-- how many rows there is room for -/
  room : Nat
  deriving DecidableEq

/-- The rows that a pane of the given height has room for: all but its border, and one at
least. -/
def paneRoom (height : Nat) : Nat := max 1 (height - 2)

/-- The window onto `total` rows in a pane of the given height, as near to the given offset
as can be without leaving room at the end. -/
def window (total height offset : Nat) : Window :=
  let room := paneRoom height
  ⟨if room < total then min offset (total - room) else 0, room⟩

/-- The rows in a window. -/
def Window.select {α : Type} (w : Window) (rows : List α) : List α :=
  (rows.drop w.offset).take w.room

end Reckon
