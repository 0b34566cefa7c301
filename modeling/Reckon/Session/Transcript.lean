import Reckon.Run

/-!
# The transcript of a session

Each run is recorded as its text and the lines of its report. Only the last lines are kept;
how many runs there were, and how many of them succeeded, is counted apart from the lines.
-/

namespace Reckon

/-- So many lines are kept. -/
def transcriptLimit : Nat := 1000

/-- What a line of the transcript is. -/
inductive LineKind where
  /-- the text of a run -/
  | input
  /-- the value of a run -/
  | value
  /-- why a run has no value -/
  | error
  deriving DecidableEq

/-- A line of the transcript. -/
structure TranscriptLine where
  /-- what it says -/
  text : String
  /-- what it is -/
  kind : LineKind
  /-- the number of the run it belongs to, from zero -/
  run : Nat
  deriving DecidableEq

/-- The record of the runs of a session. -/
structure Transcript where
  /-- the lines that are kept, the oldest first -/
  lines : List TranscriptLine
  /-- the number of runs -/
  runs : Nat
  /-- the number of successful runs -/
  successes : Nat
  deriving DecidableEq

namespace Transcript

/-- No runs. -/
def empty : Transcript := ⟨[], 0, 0⟩

/-- Add a line. When as many lines are kept as can be, the oldest one makes room for it. -/
def push (t : Transcript) (line : TranscriptLine) : Transcript :=
  let kept := if t.lines.length = transcriptLimit then t.lines.tail else t.lines
  { t with lines := kept ++ [line] }

/-- Record a run: its text, and then the lines of its report. -/
def record (t : Transcript) (o : Outcome) : Transcript :=
  let kind : LineKind := if o.isSuccess then .value else .error
  let counted : Transcript :=
    { t with runs := t.runs + 1, successes := t.successes + if o.isSuccess then 1 else 0 }
  o.report.foldl (fun t' text => t'.push ⟨text, kind, t.runs⟩)
    (counted.push ⟨String.ofList o.source, .input, t.runs⟩)

end Transcript

end Reckon
