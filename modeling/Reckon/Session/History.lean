import Reckon.Text.Class

/-!
# The lines that were entered

Lines can be called back, the latest first. Blank lines are not remembered, nor a line that
equals the one before it. While the user goes back and forth a place in the list is kept;
entering a line, or going forth beyond the latest one, gives it up.
-/

namespace Reckon

/-- The remembered lines. -/
structure History where
  /-- the lines, the oldest first -/
  entries : List Text
  /-- the place of the line that was called back last -/
  place : Option Nat
  deriving DecidableEq

namespace History

/-- Nothing is remembered. -/
def empty : History := ⟨[], none⟩

/-- Remember a line, unless it is blank or repeats the latest one. -/
def push (h : History) (line : Text) : History where
  entries :=
    if line.isBlank || h.entries.getLast? = some line then h.entries else h.entries ++ [line]
  place := none

/-- Go back by one line, and stay at the oldest. -/
def older (h : History) : Option Text × History :=
  match h.place with
  | none =>
    if h.entries.isEmpty then (none, h)
    else
      let i := h.entries.length - 1
      (h.entries[i]?, { h with place := some i })
  | some i => (h.entries[i - 1]?, { h with place := some (i - 1) })

/-- Go forth by one line; there is none after the latest. -/
def newer (h : History) : Option Text × History :=
  match h.place with
  | none => (none, h)
  | some i =>
    if i + 1 < h.entries.length then (h.entries[i + 1]?, { h with place := some (i + 1) })
    else (none, { h with place := none })

@[simp] theorem entries_older (h : History) : h.older.2.entries = h.entries := by
  rw [older]
  split
  · split <;> rfl
  · rfl

@[simp] theorem entries_newer (h : History) : h.newer.2.entries = h.entries := by
  rw [newer]
  split
  · rfl
  · split <;> rfl

end History

end Reckon
