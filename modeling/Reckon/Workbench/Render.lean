import Reckon.Workbench.Pane
import Reckon.Workbench.State

/-!
# The whole screen of the workbench

The input line is at the top and the status bar at the bottom; between them the transcript
is on the left, and the tokens are above the tree on the right.
-/

namespace Reckon

/-- Where the panes are on a screen. -/
structure Areas where
  /-- the input line -/
  input : Rect
  /-- the transcript -/
  transcript : Rect
  /-- the tokens -/
  tokens : Rect
  /-- the tree -/
  tree : Rect
  /-- the status bar -/
  status : Rect
  deriving DecidableEq

/-- The panes on a screen of the given size. When there are few rows, the status bar has its
row first, and then the input line. -/
def Areas.ofSize (width height : Nat) : Areas :=
  let bar := min 1 height
  let top := min 3 (height - bar)
  let middle : Rect := ⟨0, top, width, height - top - bar⟩
  let (left, right) := middle.splitColumns 55
  let (upper, lower) := right.splitRows 50
  { input := ⟨0, 0, width, top⟩
    transcript := left
    tokens := upper
    tree := lower
    status := ⟨0, height - bar, width, bar⟩ }

namespace Workbench

/-- Draw the workbench on a screen of the given size, with the panes where the layout has them. The
offsets of the panes are brought to where rows are. -/
def renderWith (layout : Nat → Nat → Areas) (w : Workbench) (width height : Nat) :
    Workbench × Frame :=
  let areas := layout width height
  let f := (Frame.blank width height).input areas.input w.editor.line w.editor.cursor
    (w.focus = .input)
  let (c, transcript) := f.canvas.transcriptPane areas.transcript w.transcript
    (w.focus = .transcript) w.scroll.transcript
  let (c, tokens) := c.tokensPane areas.tokens (w.lastRun.map Outcome.tokens)
    (w.focus = .tokens) w.scroll.tokens
  let (c, tree) := c.treePane areas.tree (w.lastRun.map Outcome.tree) (w.focus = .tree)
    w.scroll.tree
  let c := c.statusBar areas.status w.status w.transcript.runs w.transcript.successes
    (w.lastRun.map Outcome.isSuccess)
  ({ w with scroll := ⟨tokens, tree, transcript⟩ }, ⟨c, f.cursor⟩)

/-- Draw the workbench on a screen of the given size. -/
def render (w : Workbench) (width height : Nat) : Workbench × Frame :=
  w.renderWith Areas.ofSize width height

end Workbench

end Reckon
