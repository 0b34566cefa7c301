import Reckon.Workbench.Highlight
import Reckon.Workbench.Rows

/-!
# The panes of the workbench

Each pane is drawn into its part of a screen. The scrolling ones also give back their offset,
brought to where rows are; a pane that has nothing to show leaves it alone.
-/

namespace Reckon

/-- A screen and, on it, the terminal's cursor. -/
structure Frame where
  /-- the screen -/
  canvas : Canvas
  /-- the column and row of the cursor, if it is shown -/
  cursor : Option (Nat × Nat)

/-- An empty screen. -/
def Frame.blank (width height : Nat) : Frame := ⟨.blank width height, none⟩

/-- The greatest column of a screen. -/
def maxColumn : Nat := 65535

/-- The column of the cursor before the character with the given number: it stays left of the
border of its pane. -/
def cursorColumn (area : Rect) (cursor : Nat) : Nat :=
  min (min (min (area.x + 2) maxColumn + min cursor maxColumn) maxColumn)
    (min area.right maxColumn - 2)

/-- The border of a pane. -/
def Canvas.pane (c : Canvas) (area : Rect) (title : String) (focused : Bool) : Canvas :=
  c.frame area title.toList (Theme.borderPaint focused)

/-- A pane that has nothing to show, and says so. -/
def Canvas.emptyPane (c : Canvas) (area : Rect) (title note : String) (focused : Bool) : Canvas :=
  ((c.paint area (.ink Theme.faint)).pane area title focused).paragraph area.inside false
    [⟨note.toList, .none⟩]

/-- The pane of the input line, with its border and the spans of the line put on the screen by the
given drawing. The cursor is shown when the pane has the focus. -/
def Frame.inputWith (draw : Canvas → Rect → Bool → List Span → Canvas) (f : Frame) (area : Rect)
    (line : Text) (cursor : Nat) (focused : Bool) : Frame :=
  let spans : List Span :=
    if line.isEmpty then [⟨"type an expression, e.g. (2 + 3) * 4".toList, .ink Theme.faint⟩]
    else highlight line
  { canvas := draw f.canvas area focused spans
    cursor := if focused then some (cursorColumn area cursor, area.y + 1) else f.cursor }

/-- One line of spans in a pane, behind its border and one blank column. -/
def Canvas.inputPane (c : Canvas) (area : Rect) (focused : Bool) (spans : List Span) : Canvas :=
  (c.pane area " Input " focused).paragraph (area.inside.indent 1) false spans

/-- The pane of the input line. -/
def Frame.input (f : Frame) (area : Rect) (line : Text) (cursor : Nat) (focused : Bool) : Frame :=
  f.inputWith Canvas.inputPane area line cursor focused

/-- The pane of the tokens, and its offset. -/
def Canvas.tokensPane (c : Canvas) (area : Rect) (tokens? : Option (List Token)) (focused : Bool)
    (offset : Nat) : Canvas × Nat :=
  let title := match tokens? with
    | some tokens => " Tokens (" ++ toString tokens.length ++ ") "
    | none => " Tokens "
  match tokens? with
  | none | some [] => (c.emptyPane area title "(no tokens)" focused, offset)
  | some tokens =>
    let w := window tokens.length area.height offset
    let items := (w.select tokens).map fun t => ⟨[t.row], .none⟩
    ((c.pane area title focused).list area.inside items, w.offset)

/-- The pane of the tree, and its offset. -/
def Canvas.treePane (c : Canvas) (area : Rect) (tree? : Option Expr) (focused : Bool)
    (offset : Nat) : Canvas × Nat :=
  match tree? with
  | none => (c.emptyPane area " Syntax Tree " "(nothing parsed yet)" focused, offset)
  | some tree =>
    let w := window tree.rows.length area.height offset
    let items := (w.select tree.rows).map fun r => ⟨[r.spans], .none⟩
    ((c.pane area " Syntax Tree " focused).list area.inside items, w.offset)

/-- The pane of the transcript, and its offset. -/
def Canvas.transcriptPane (c : Canvas) (area : Rect) (t : Transcript) (focused : Bool)
    (offset : Nat) : Canvas × Nat :=
  if t.lines.isEmpty then (c.emptyPane area " Transcript " "(no output)" focused, offset)
  else
    let w := window t.lines.length area.height offset
    let items := (w.select t.lines).map TranscriptLine.item
    ((c.pane area " Transcript " focused).list (area.inside.indent 1) items, w.offset)

/-! ## The status bar -/

/-- How the last run ended, if there was one, as the colour of the counter. -/
def badgeColor : Option Bool → Color
  | some true => Theme.success
  | some false => Theme.error
  | none => Theme.primary

/-- The left half of the bar: the counters and a message. -/
def statusSpans (message : String) (runs successes : Nat) (lastOk : Option Bool) : List Span :=
  let counter := " Runs " ++ toString runs ++ " (" ++ toString successes ++ " ok) "
  let messageColor := if lastOk = some false then Theme.error else Theme.text
  [⟨counter.toList, (Paint.ofColors .black (badgeColor lastOk)).inBold⟩,
    ⟨" | ".toList, .ofColors Theme.faint Theme.bar⟩,
    ⟨(" " ++ message ++ " ").toList, .ofColors messageColor Theme.bar⟩]

/-- The right half of the bar: the keys and what they do. -/
def keySpans : List Span :=
  let key := fun s : String => (⟨s.toList, .ofColors .black Theme.faint⟩ : Span)
  let does := fun s : String => (⟨s.toList, .ofColors Theme.text Theme.bar⟩ : Span)
  let rule : Span := ⟨['│'], .ofColors Theme.faint Theme.bar⟩
  [key " ↵ ", does " run ", rule, does " ", key " ↑/↓ ", does " history ", rule, does " ",
    key " ⇥ ", does " focus ", rule, does " ", key " PgUp/PgDn ", does " scroll ", rule, does " ",
    key "Esc", does " quit "]

/-- The status bar. -/
def Canvas.statusBar (c : Canvas) (area : Rect) (message : String) (runs successes : Nat)
    (lastOk : Option Bool) : Canvas :=
  let (left, right) := area.splitColumns 50
  let c := (c.paint left (.background Theme.bar)).paragraph left false
    (statusSpans message runs successes lastOk)
  (c.paint right (.background Theme.bar)).paragraph right true keySpans

end Reckon
