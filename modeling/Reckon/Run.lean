import Reckon.Comment
import Reckon.Expr.Parser
import Reckon.Token.Segment

/-!
# Running a text

From a text to its value: comments are taken out, the rest is cut into tokens, the tokens
are read as an expression, and if nothing was wrong on the way the expression is evaluated.
Each stage gets the journal and appends to it.

* `strip`, `scan`, `parse`: the stages.
* `Outcome`: all that a run finds out.
* `run`: a run.
* `Outcome.report`: what is printed of it.
-/

namespace Reckon

/-- Take the comments out of a text. -/
def strip (s : Text) (journal : Journal) : Text × Journal :=
  let text := Comment.withoutComments s
  (text, (journal.addAll ((Comment.diagnostics s).map .found)).add
    (.stripped s.length text.length))

/-- The events of a segment. -/
def Segment.events (s : Segment) : List Event :=
  s.diagnostics.map .found ++ (s.token?.map .token).toList

/-- Cut a text into tokens. -/
def scan (s : Text) (journal : Journal) : List Token × Journal :=
  let segments := segments s
  let tokens := segments.filterMap Segment.token?
  (tokens, (journal.addAll (segments.flatMap Segment.events)).add (.lexed tokens.length))

/-- What a run finds out. -/
structure Outcome where
  /-- the text -/
  source : Text
  /-- the text without its comments -/
  stripped : Text
  /-- its tokens -/
  tokens : List Token
  /-- its expression -/
  tree : Expr
  /-- its faults -/
  diagnostics : List Diagnostic
  /-- its value, or why it has none; nothing if there are faults -/
  result : Option (Except EvalError Int32)
  /-- what happened -/
  journal : Journal

/-- The event that ends a run. -/
def verdict (source : Text) (diagnostics : List Diagnostic)
    (result : Option (Except EvalError Int32)) : Event :=
  match result with
  | some (.ok v) => .evaluated source v
  | some (.error e) => .failed source e
  | none => .skipped source diagnostics.length

/-- Run a text. -/
def run (source : Text) : Outcome :=
  let (stripped, journal) := strip source .empty
  let (tokens, journal) := scan stripped journal
  let (tree, journal) := parse tokens journal
  let diagnostics := journal.diagnostics
  let result := if diagnostics.isEmpty then some tree.eval else none
  { source, stripped, tokens, tree, diagnostics, result
    journal := journal.add (verdict source diagnostics result) }

namespace Outcome

/-- A run succeeds when it ends with a value. -/
def isSuccess (o : Outcome) : Bool :=
  match o.result with
  | some (.ok _) => true
  | _ => false

/-- What is printed of a run: its value, or why there is none, or the faults of the text. -/
def report (o : Outcome) : List String :=
  match o.result with
  | some (.ok v) => [toString v.toInt]
  | some (.error e) => ["ERROR: " ++ e.message]
  | none => o.diagnostics.map Diagnostic.message

/-- The report as one text. -/
def display (o : Outcome) : String := Text.joinLines o.report

end Outcome

/-- Why a line has no value. -/
inductive LineError where
  /-- the text has faults -/
  | faults (diagnostics : List Diagnostic)
  /-- the expression has no value -/
  | evaluation (error : EvalError)
  deriving DecidableEq

/-- The message of such an error. -/
def LineError.message : LineError → String
  | .faults ds => Text.joinLines (ds.map Diagnostic.message)
  | .evaluation e => "ERROR: " ++ e.message

/-- The value of a line. -/
def Outcome.value (o : Outcome) : Except LineError Int32 :=
  match o.result with
  | some (.ok v) => .ok v
  | some (.error e) => .error (.evaluation e)
  | none => .error (.faults o.diagnostics)

/-- The value of a text. -/
def evaluateLine (source : Text) : Except LineError Int32 := (run source).value

end Reckon
