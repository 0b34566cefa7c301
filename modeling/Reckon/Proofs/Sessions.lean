import Reckon.Proofs.Retention
import Reckon.Workbench.Render

/-!
# Sessions

What a session has recorded is a function of the lines that were submitted in it. Keys are pressed
and the screen is drawn in any order; only an Enter on a line that is not blank adds to the record,
and it adds what running that line gives.

* `Action`, `Workbench.act`: what can happen to a workbench.
* `Workbench.submitted`: the lines that a row of actions submits.
* `Ledger`: the recorded part of a workbench. One action adds to it the line that it submits, if
  any (`ledger_act`), and a row of actions all its lines (`ledger_actAll`).
* `session_of_submitted`: **a session is the lines submitted in it**.
-/

namespace Reckon

/-- What can happen to a workbench. -/
inductive Action where
  /-- a key is pressed -/
  | press (key : Key)
  /-- the workbench is drawn on a screen of the given size -/
  | draw (width height : Nat)

namespace Workbench

/-- The workbench after an action. -/
def act (w : Workbench) : Action → Workbench
  | .press key => w.press key
  | .draw width height => (w.render width height).1

/-- The line that an action submits: at an Enter that of the editor, unless it is blank. -/
def submitted? (w : Workbench) : Action → Option Text
  | .press .enter => if w.editor.line.isBlank then none else some w.editor.line
  | _ => none

/-- The lines that a row of actions submits. -/
def submitted (w : Workbench) : List Action → List Text
  | [] => []
  | a :: actions => (w.submitted? a).toList ++ (w.act a).submitted actions

end Workbench

/-! ## The record -/

/-- What a session has recorded. -/
structure Ledger where
  /-- the record of the runs -/
  transcript : Transcript
  /-- the remembered lines -/
  entries : List Text
  /-- the last run -/
  lastRun : Option Outcome

namespace Ledger

/-- Run a line and record it. -/
def enter (l : Ledger) (line : Text) : Ledger where
  transcript := l.transcript.record (run line)
  entries := (History.push ⟨l.entries, none⟩ line).entries
  lastRun := some (run line)

variable (l : Ledger) (lines : List Text)

theorem transcript_enterAll :
    (lines.foldl enter l).transcript = (lines.map run).foldl Transcript.record l.transcript := by
  induction lines generalizing l with
  | nil => rfl
  | cons line lines ih => exact ih (l.enter line)

theorem entries_enterAll (h : History) (hentries : l.entries = h.entries) :
    (lines.foldl enter l).entries = (lines.foldl History.push h).entries := by
  induction lines generalizing l h with
  | nil => exact hentries
  | cons line lines ih =>
    refine ih (l.enter line) (h.push line) ?_
    simp only [enter, History.push, hentries]

theorem lastRun_enterAll :
    (lines.foldl enter l).lastRun = (lines.getLast?.map run).or l.lastRun := by
  induction lines generalizing l with
  | nil => rfl
  | cons line lines ih =>
    rw [List.foldl_cons, ih, List.getLast?_cons]
    cases lines.getLast? <;> rfl

end Ledger

namespace Workbench

/-- The recorded part of a workbench. -/
def ledger (w : Workbench) : Ledger := ⟨w.transcript, w.history.entries, w.lastRun⟩

theorem ledger_recallOlder (w : Workbench) : w.recallOlder.ledger = w.ledger := by
  have hentries := w.history.entries_older
  rw [recallOlder]
  rcases holder : w.history.older with ⟨line?, history⟩
  rw [holder] at hentries
  cases line? <;> simpa [ledger] using hentries

theorem ledger_recallNewer (w : Workbench) : w.recallNewer.ledger = w.ledger := by
  rw [recallNewer, ledger, ledger, History.entries_newer]

/-- An Enter on a blank line changes only the message of the status bar. -/
theorem submit_of_isBlank {w : Workbench} (h : w.editor.line.isBlank) :
    w.submit = { w with status := "Nothing to run" } := by
  rw [submit, if_pos h]

theorem ledger_submit (w : Workbench) :
    w.submit.ledger = (w.submitted? (.press .enter)).toList.foldl Ledger.enter w.ledger := by
  rw [submit, submitted?]
  split
  · rfl
  · rfl

/-- **An action** adds to the record the line that it submits. -/
theorem ledger_act (w : Workbench) (a : Action) :
    (w.act a).ledger = (w.submitted? a).toList.foldl Ledger.enter w.ledger := by
  cases a with
  | draw width height => rfl
  | press key =>
    cases key with
    | enter => exact w.ledger_submit
    | up => exact w.ledger_recallOlder
    | down => exact w.ledger_recallNewer
    | control c =>
      rw [act, press]
      split <;> rfl
    -- all other keys are about the line, the focus, the scrolling or leaving
    | _ => rfl

/-- **A row of actions** adds the lines that it submits, in order. -/
theorem ledger_actAll (w : Workbench) (actions : List Action) :
    (actions.foldl act w).ledger = (w.submitted actions).foldl Ledger.enter w.ledger := by
  induction actions generalizing w with
  | nil => rfl
  | cons a actions ih => rw [List.foldl_cons, ih, ledger_act, submitted, List.foldl_append]

end Workbench

/-- **A session is the lines submitted in it.** After any row of keys and drawings, a request to
leave among them or not, the transcript is that of the runs of these lines, the history remembers
what it does after a push of each, the last run is that of the last line, and the counters count
the lines and the successful ones. Any action that submits nothing leaves all this alone, and an
Enter on a blank line changes only the message of the status bar. -/
theorem session_of_submitted (actions : List Action) :
    let w := actions.foldl Workbench.act .start
    let lines := Workbench.start.submitted actions
    (w.transcript = (lines.map run).foldl Transcript.record .empty ∧
      w.history.entries = (lines.foldl History.push .empty).entries ∧
      w.lastRun = lines.getLast?.map run ∧
      w.transcript.runs = lines.length ∧
      w.transcript.successes = lines.countP fun line => (run line).isSuccess) ∧
    (∀ a, w.submitted? a = none →
      (w.act a).transcript = w.transcript ∧
      (w.act a).history.entries = w.history.entries ∧ (w.act a).lastRun = w.lastRun) ∧
    (w.editor.line.isBlank → w.act (.press .enter) = { w with status := "Nothing to run" }) := by
  intro w lines
  have hledger : w.ledger = lines.foldl Ledger.enter Workbench.start.ledger :=
    Workbench.start.ledger_actAll actions
  have htranscript : w.transcript = (lines.map run).foldl Transcript.record .empty :=
    (congrArg Ledger.transcript hledger).trans (Ledger.transcript_enterAll _ lines)
  obtain ⟨hruns, hsuccesses⟩ := Transcript.counts_recordAll .empty (lines.map run)
  refine ⟨⟨htranscript, ?_, ?_, ?_, ?_⟩, fun a ha => ?_, Workbench.submit_of_isBlank⟩
  · exact (congrArg Ledger.entries hledger).trans (Ledger.entries_enterAll _ lines .empty rfl)
  · have hlast := (congrArg Ledger.lastRun hledger).trans (Ledger.lastRun_enterAll _ lines)
    exact hlast.trans Option.or_none
  · rw [htranscript, hruns, List.length_map]
    exact Nat.zero_add _
  · rw [htranscript, hsuccesses, List.countP_map]
    exact Nat.zero_add _
  · have hsame : (w.act a).ledger = w.ledger := by
      rw [Workbench.ledger_act, ha]
      rfl
    exact ⟨congrArg Ledger.transcript hsame, congrArg Ledger.entries hsame,
      congrArg Ledger.lastRun hsame⟩

/-- A blank line, a run, a request to leave, a drawing, and the run of a line that was called
back. -/
theorem session_of_submitted_recalled :
    let actions : List Action := [.press (.char ' '), .press .enter, .press (.char '1'),
      .press .enter, .press .escape, .draw 40 12, .press .up, .press (.char '/'),
      .press (.char '0'), .press .enter]
    let w := actions.foldl Workbench.act .start
    Workbench.start.submitted actions = [[' ', '1'], [' ', '1', '/', '0']] ∧
      w.transcript.runs = 2 ∧ w.transcript.successes = 1 ∧
      (w.submitted? (.draw 40 12) = none ∧ (w.act (.draw 40 12)).transcript = w.transcript) ∧
      w.editor.line.isBlank ∧
      w.act (.press .enter) = { w with status := "Nothing to run" } := by
  intro actions w
  have hlines : Workbench.start.submitted actions = [[' ', '1'], [' ', '1', '/', '0']] := by
    decide +kernel
  have hsuccesses : [[' ', '1'], [' ', '1', '/', '0']].countP (fun s => (run s).isSuccess) = 1 := by
    decide +kernel
  have hblank : w.editor.line.isBlank := by decide +kernel
  obtain ⟨⟨-, -, -, hruns, hcount⟩, hother, henter⟩ := session_of_submitted actions
  rw [hlines] at hruns hcount
  exact ⟨hlines, hruns, hcount.trans hsuccesses, ⟨rfl, (hother _ rfl).1⟩, hblank, henter hblank⟩

end Reckon
