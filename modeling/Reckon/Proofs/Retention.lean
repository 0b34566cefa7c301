import Reckon.Session.Transcript

/-!
# What a transcript keeps

Lines are dropped one at a time, while a run is being recorded; what is kept in the end is the tail
of the log that nothing was dropped from. The counters do not depend on the lines.

* `Transcript.Keeps`: the lines of a transcript are the tail of a log. A pushed line goes to the
  end of the log (`Keeps.push`), and so do the lines of a run (`Keeps.record`).
* `recordAll_tail`: **the transcript of any row of runs**.
-/

namespace Reckon

/-! ## The log -/

/-- The lines of the run with the given number. -/
def Outcome.lines (o : Outcome) (run : Nat) : List TranscriptLine :=
  ⟨String.ofList o.source, .input, run⟩ ::
    o.report.map fun text => ⟨text, if o.isSuccess then .value else .error, run⟩

/-- The lines of all runs, which are numbered from `first` on. -/
def fullLog (os : List Outcome) (first : Nat) : List TranscriptLine :=
  (os.zipIdx first).flatMap fun (o, i) => o.lines i

theorem fullLog_cons (o : Outcome) (os : List Outcome) (first : Nat) :
    fullLog (o :: os) first = o.lines first ++ fullLog os (first + 1) := by
  simp [fullLog]

/-! ## Tails -/

theorem length_keepLast {α : Type} (n : Nat) (xs : List α) :
    (keepLast n xs).length = min n xs.length := by
  rw [keepLast, List.length_drop]
  omega

theorem keepLast_min {α : Type} (n : Nat) (xs : List α) :
    keepLast (min n xs.length) xs = keepLast n xs := by
  have hdrop : xs.length - min n xs.length = xs.length - n := by omega
  rw [keepLast, hdrop, keepLast]

/-- When a tail is full, its first element makes room for a new one. -/
theorem keepLast_concat {α : Type} {n : Nat} (hn : 0 < n) (xs : List α) (x : α) :
    keepLast n (xs ++ [x]) =
      (if (keepLast n xs).length = n then (keepLast n xs).tail else keepLast n xs) ++ [x] := by
  have hlen : (xs ++ [x]).length - n ≤ xs.length := by
    rw [List.length_append, List.length_singleton]
    omega
  rw [keepLast, List.drop_append_of_le_length hlen, List.length_append, List.length_singleton]
  rcases Nat.lt_or_ge xs.length n with hlt | hge
  · have hroom : ¬ (keepLast n xs).length = n := by
      rw [length_keepLast]
      omega
    have hdrop : xs.length + 1 - n = xs.length - n := by omega
    rw [if_neg hroom, hdrop, keepLast]
  · have hfull : (keepLast n xs).length = n := by
      rw [length_keepLast]
      omega
    have hdrop : xs.length + 1 - n = xs.length - n + 1 := by omega
    rw [if_pos hfull, hdrop, keepLast, List.tail_drop]

namespace Transcript

/-- The lines of the transcript are the tail of the log. -/
def Keeps (t : Transcript) (log : List TranscriptLine) : Prop :=
  t.lines = keepLast transcriptLimit log

/-- A pushed line goes to the end of the log. -/
theorem Keeps.push {t : Transcript} {log : List TranscriptLine} (h : t.Keeps log)
    (line : TranscriptLine) : (t.push line).Keeps (log ++ [line]) := by
  rw [Keeps, keepLast_concat (by decide), ← h]
  rfl

theorem Keeps.pushAll {t : Transcript} {log : List TranscriptLine} (h : t.Keeps log)
    (lines : List TranscriptLine) : (lines.foldl Transcript.push t).Keeps (log ++ lines) := by
  induction lines generalizing t log with
  | nil => simpa using h
  | cons line lines ih => simpa using ih (h.push line)

/-- Lines are not counted. -/
theorem counts_pushAll (t : Transcript) (lines : List TranscriptLine) :
    (lines.foldl push t).runs = t.runs ∧ (lines.foldl push t).successes = t.successes := by
  induction lines generalizing t with
  | nil => exact ⟨rfl, rfl⟩
  | cons line lines ih => exact ih (t.push line)

/-! ## Runs -/

/-- A run is counted, and then its lines are pushed. -/
theorem record_eq_pushAll (t : Transcript) (o : Outcome) :
    t.record o = (o.lines t.runs).foldl push
      { t with runs := t.runs + 1, successes := t.successes + if o.isSuccess then 1 else 0 } := by
  rw [record, Outcome.lines, List.foldl_cons, List.foldl_map]

theorem runs_record (t : Transcript) (o : Outcome) : (t.record o).runs = t.runs + 1 := by
  rw [record_eq_pushAll]
  exact (counts_pushAll _ _).1

theorem successes_record (t : Transcript) (o : Outcome) :
    (t.record o).successes = t.successes + if o.isSuccess then 1 else 0 := by
  rw [record_eq_pushAll]
  exact (counts_pushAll _ _).2

/-- The lines of a run go to the end of the log, however many they are. -/
theorem Keeps.record {t : Transcript} {log : List TranscriptLine} (h : t.Keeps log)
    (o : Outcome) : (t.record o).Keeps (log ++ o.lines t.runs) := by
  rw [record_eq_pushAll]
  -- counting leaves the lines alone
  refine Keeps.pushAll ?_ _
  exact h

theorem Keeps.recordAll {t : Transcript} {log : List TranscriptLine} (h : t.Keeps log)
    (os : List Outcome) :
    (os.foldl Transcript.record t).Keeps (log ++ fullLog os t.runs) := by
  induction os generalizing t log with
  | nil => simpa [fullLog] using h
  | cons o os ih =>
    have hrest := ih (h.record o)
    rw [runs_record, List.append_assoc, ← fullLog_cons] at hrest
    exact hrest

theorem counts_recordAll (t : Transcript) (os : List Outcome) :
    (os.foldl record t).runs = t.runs + os.length ∧
      (os.foldl record t).successes = t.successes + os.countP Outcome.isSuccess := by
  induction os generalizing t with
  | nil => exact ⟨rfl, rfl⟩
  | cons o os ih =>
    obtain ⟨hruns, hsuccesses⟩ := ih (t.record o)
    rw [List.foldl_cons, hruns, hsuccesses, runs_record, successes_record, List.countP_cons,
      List.length_cons]
    omega

/-- **The transcript of any row of runs** has the last 1000 lines of their log, or all if there
are not so many, whatever was dropped on the way; the runs and the successful ones among them are
all counted. -/
theorem recordAll_tail (os : List Outcome) :
    let t := os.foldl record .empty
    let log := fullLog os 0
    t.lines = keepLast (min 1000 log.length) log ∧ t.lines.length = min 1000 log.length ∧
      t.runs = os.length ∧ t.successes = os.countP Outcome.isSuccess := by
  intro t log
  have hstart : Keeps .empty [] := rfl
  have hkeeps : t.lines = keepLast 1000 log := hstart.recordAll os
  obtain ⟨hruns, hsuccesses⟩ := counts_recordAll .empty os
  refine ⟨?_, ?_, ?_, ?_⟩
  · rw [keepLast_min, hkeeps]
  · rw [hkeeps, length_keepLast]
  · rw [hruns]
    exact Nat.zero_add _
  · rw [hsuccesses]
    exact Nat.zero_add _

end Transcript

end Reckon
