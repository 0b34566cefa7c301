import Reckon.Session.History
import Reckon.Session.Transcript
import Reckon.Workbench.Editor

/-!
# The workbench and its keys

The state of an interactive session, and what each key does to it. A submitted line is run;
its outcome goes to the transcript and is shown until the next one.
-/

namespace Reckon

/-- The panes that can have the focus. -/
inductive Focus where
  | input | tokens | tree | transcript
  deriving DecidableEq

namespace Focus

/-- The next pane. -/
def next : Focus → Focus
  | .input => .tokens
  | .tokens => .tree
  | .tree => .transcript
  | .transcript => .input

/-- The pane before. -/
def prev : Focus → Focus
  | .input => .transcript
  | .tokens => .input
  | .tree => .tokens
  | .transcript => .tree

end Focus

/-- A key of the keyboard. -/
inductive Key where
  /-- a character -/
  | char (c : Char)
  /-- a character with the control key -/
  | control (c : Char)
  | escape | tab | backTab | enter | pageUp | pageDown | up | down | left | right | home
  | endOfLine | backspace | delete
  /-- any other key -/
  | other
  deriving DecidableEq

/-- How far the panes are scrolled, in rows. -/
structure Scroll where
  /-- the pane of the tokens -/
  tokens : Nat
  /-- the pane of the tree -/
  tree : Nat
  /-- the pane of the transcript -/
  transcript : Nat
  deriving DecidableEq

/-- No pane is scrolled further. -/
def maxScroll : Nat := 18446744073709551615

/-- A page is so many rows. -/
def pageRows : Nat := 5

namespace Scroll

/-- Change the offset of the pane with the focus; the input line stands for the
transcript. -/
def update (s : Scroll) (focus : Focus) (f : Nat → Nat) : Scroll :=
  match focus with
  | .tokens => { s with tokens := f s.tokens }
  | .tree => { s with tree := f s.tree }
  | .input | .transcript => { s with transcript := f s.transcript }

end Scroll

/-- The state of an interactive session. -/
structure Workbench where
  /-- the line that is being edited -/
  editor : Editor
  /-- the lines that were entered -/
  history : History
  /-- the record of the runs -/
  transcript : Transcript
  /-- the last run -/
  lastRun : Option Outcome
  /-- the pane with the focus -/
  focus : Focus
  /-- how far the panes are scrolled -/
  scroll : Scroll
  /-- has the user asked to leave? -/
  quit : Bool
  /-- the message in the status bar -/
  status : String

namespace Workbench

/-- The start of a session. -/
def start : Workbench where
  editor := .empty
  history := .empty
  transcript := .empty
  lastRun := none
  focus := .input
  scroll := ⟨0, 0, 0⟩
  quit := false
  status := "Ready!"

/-- What the status bar says of a run. -/
def verdictText (o : Outcome) : String :=
  match o.result with
  | some (.ok v) => "= " ++ toString v.toInt
  | some (.error e) => "Evaluation failed: " ++ e.message
  | none => toString o.diagnostics.length ++ " diagnostic(s)"

/-- Run the line, unless it is blank. The transcript is scrolled to its end, the other panes
to their start. -/
def submit (w : Workbench) : Workbench :=
  if w.editor.line.isBlank then { w with status := "Nothing to run" }
  else
    let o := run w.editor.line
    { w with
      editor := .empty
      history := w.history.push w.editor.line
      transcript := w.transcript.record o
      lastRun := some o
      scroll := ⟨0, 0, maxScroll⟩
      status := verdictText o }

/-- Call back an older line, if there is one. -/
def recallOlder (w : Workbench) : Workbench :=
  let (line?, history) := w.history.older
  match line? with
  | some line => { w with history, editor := .ofLine line }
  | none => { w with history }

/-- Call back a newer line; beyond the latest one the line is empty. -/
def recallNewer (w : Workbench) : Workbench :=
  let (line?, history) := w.history.newer
  { w with history, editor := .ofLine (line?.getD []) }

/-- Change the line. -/
def edit (w : Workbench) (f : Editor → Editor) : Workbench := { w with editor := f w.editor }

/-- What a key does. -/
def press (w : Workbench) : Key → Workbench
  | .char c => w.edit (·.insert c)
  | .control c => if c = 'c' then { w with quit := true } else w.edit (·.insert c)
  | .escape => { w with quit := true }
  | .tab => { w with focus := w.focus.next }
  | .backTab => { w with focus := w.focus.prev }
  | .enter => w.submit
  | .pageUp => { w with scroll := w.scroll.update w.focus (· - pageRows) }
  | .pageDown => { w with scroll := w.scroll.update w.focus fun n => min (n + pageRows) maxScroll }
  | .up => w.recallOlder
  | .down => w.recallNewer
  | .left => w.edit Editor.left
  | .right => w.edit Editor.right
  | .home => w.edit Editor.toStart
  | .endOfLine => w.edit Editor.toEnd
  | .backspace => w.edit Editor.backspace
  | .delete => w.edit Editor.delete
  | .other => w

end Workbench

end Reckon
