import Mathlib.Data.List.Destutter
import Reckon.Session.History

/-!
# Calling lines back

Whatever is done with a history, what it remembers depends only on the lines that were pushed, and
going back and forth moves along the entries, with the fresh line after the latest one.

* **entries** — pushing keeps the lines that are not blank, with equal neighbours collapsed
  (`entries_replay`);
* **places** — an index among the entries, or the fresh line, is one number from `0` to the number
  of entries (`standing`); going back subtracts one from it, going forth adds one, and both stop at
  the ends (`older_standing`, `newer_standing`);
* **runs** — a history is at such a place after every row of moves (`placed_replay`), and at the
  fresh line after a push or a step forth that found nothing (`standing_of_freshens`).
-/

namespace Reckon

/-! ## Collapsed lists -/

/-- A further element is left out of a collapsed list if it equals the last one. -/
theorem destutter'_concat {α : Type} [DecidableEq α] (l : List α) (x a : α) :
    (l ++ [a]).destutter' (· ≠ ·) x =
      if (l.destutter' (· ≠ ·) x).getLast? = some a then l.destutter' (· ≠ ·) x
      else l.destutter' (· ≠ ·) x ++ [a] := by
  induction l generalizing x with
  | nil => by_cases h : x = a <;> simp [List.destutter', h]
  | cons b l ih =>
    by_cases h : x = b
    · simpa [List.destutter', h] using ih b
    · have hlast : (x :: l.destutter' (· ≠ ·) b).getLast? = (l.destutter' (· ≠ ·) b).getLast? := by
        rw [List.getLast?_cons_of_ne_nil (List.destutter'_ne_nil _ _)]
      simp only [List.cons_append, List.destutter', if_pos (show x ≠ b from h), ih, hlast]
      split <;> rfl

theorem destutter_concat {α : Type} [DecidableEq α] (l : List α) (a : α) :
    (l ++ [a]).destutter (· ≠ ·) =
      if (l.destutter (· ≠ ·)).getLast? = some a then l.destutter (· ≠ ·)
      else l.destutter (· ≠ ·) ++ [a] := by
  cases l with
  | nil => simp
  | cons x l => exact destutter'_concat l x a

namespace History

/-! ## Moves -/

/-- What can be done with a history. -/
inductive Move where
  /-- remember a line -/
  | push (line : Text)
  /-- go back -/
  | older
  /-- go forth -/
  | newer

/-- A move: the line that is called back, if any, and the history after it. -/
def move (h : History) : Move → Option Text × History
  | .push line => (none, h.push line)
  | .older => h.older
  | .newer => h.newer

/-- The history after a row of moves. -/
def replay (moves : List Move) : History := moves.foldl (fun h m => (h.move m).2) .empty

/-- The line that a move pushes. -/
def Move.pushed? : Move → Option Text
  | .push line => some line
  | _ => none

/-- After going back. -/
def back (h : History) : History := h.older.2

/-- After going forth. -/
def forth (h : History) : History := h.newer.2

theorem replay_concat (moves : List Move) (m : Move) :
    replay (moves ++ [m]) = ((replay moves).move m).2 := by
  simp [replay]

/-! ## What is remembered -/

/-- **What is remembered** are the pushed lines without the blank ones, and of equal neighbours
among the rest only one. -/
theorem entries_replay (moves : List Move) :
    (replay moves).entries =
      ((moves.filterMap Move.pushed?).filter (!·.isBlank)).destutter (· ≠ ·) := by
  induction moves using List.reverseRecOn with
  | nil => rfl
  | append_singleton moves m ih =>
    rw [replay_concat, List.filterMap_append, List.filter_append]
    cases m with
    | push line =>
      cases hblank : line.isBlank
      · simp [move, push, Move.pushed?, hblank, destutter_concat, ih]
      · simp [move, push, Move.pushed?, hblank, ih]
    | older => simp [move, Move.pushed?, List.filterMap_cons, ih]
    | newer => simp [move, Move.pushed?, List.filterMap_cons, ih]

/-! ## Places -/

/-- The history at a place among its entries. The fresh line is the place after the latest
entry. -/
def standing (entries : List Text) (i : Nat) : History :=
  ⟨entries, if i < entries.length then some i else none⟩

variable {entries : List Text} {i : Nat}

theorem older_standing (hi : i ≤ entries.length) :
    (standing entries i).older = (entries[i - 1]?, standing entries (i - 1)) := by
  rcases Nat.lt_or_ge i entries.length with hlt | hge
  · have hlt' : i - 1 < entries.length := by omega
    simp [older, standing, hlt, hlt']
  · obtain rfl : i = entries.length := Nat.le_antisymm hi hge
    cases entries <;> simp [older, standing]

theorem newer_standing (hi : i ≤ entries.length) :
    (standing entries i).newer =
      (entries[i + 1]?, standing entries (min (i + 1) entries.length)) := by
  rcases Nat.lt_or_ge i entries.length with hlt | hge
  · rw [Nat.min_eq_left hlt]
    by_cases hnext : i + 1 < entries.length
    · simp [newer, standing, hlt, hnext]
    · simp [newer, standing, hlt, hnext]
  · obtain rfl : i = entries.length := Nat.le_antisymm hi hge
    simp [newer, standing]

/-- Steps back stop at the oldest entry. -/
theorem back_iterate_standing (hi : i ≤ entries.length) (k : Nat) :
    back^[k] (standing entries i) = standing entries (i - k) := by
  induction k with
  | zero => rfl
  | succ k ih =>
    have hk : i - k ≤ entries.length := by omega
    rw [Function.iterate_succ_apply', ih, back, older_standing hk, Nat.sub_sub]

/-- Steps forth stop at the fresh line. -/
theorem forth_iterate_standing (hi : i ≤ entries.length) (j : Nat) :
    forth^[j] (standing entries i) = standing entries (min (i + j) entries.length) := by
  induction j with
  | zero => simp [hi]
  | succ j ih =>
    have hj : min (i + j) entries.length ≤ entries.length := Nat.min_le_right _ _
    have hnext : min (min (i + j) entries.length + 1) entries.length =
        min (i + (j + 1)) entries.length := by omega
    rw [Function.iterate_succ_apply', ih, forth, newer_standing hj, hnext]

/-! ## Rows of moves -/

/-- The user stands at an entry or at the fresh line. -/
def Placed (h : History) : Prop := ∃ i ≤ h.entries.length, h = standing h.entries i

theorem placed_standing (hi : i ≤ entries.length) : (standing entries i).Placed := ⟨i, hi, rfl⟩

theorem push_eq_standing (h : History) (line : Text) :
    h.push line = standing (h.push line).entries (h.push line).entries.length := by
  simp [standing, push]

/-- Every move leads to a place again. -/
theorem Placed.move {h : History} (hplaced : h.Placed) (m : Move) : (h.move m).2.Placed := by
  obtain ⟨i, hi, hstand⟩ := hplaced
  cases m with
  | push line => exact ⟨_, le_refl _, h.push_eq_standing line⟩
  | older =>
    rw [History.move, hstand, older_standing hi]
    exact placed_standing (by omega)
  | newer =>
    rw [History.move, hstand, newer_standing hi]
    exact placed_standing (by omega)

/-- **After any row of moves** the user stands at an entry or at the fresh line. -/
theorem placed_replay (moves : List Move) : (replay moves).Placed := by
  induction moves using List.reverseRecOn with
  | nil => exact placed_standing (le_refl 0)
  | append_singleton moves m ih =>
    rw [replay_concat]
    exact ih.move m

/-- The place that is kept is that of an entry. -/
theorem Placed.place_lt {h : History} (hplaced : h.Placed) {i : Nat} (hi : h.place = some i) :
    i < h.entries.length := by
  obtain ⟨j, -, hstand⟩ := hplaced
  rw [hstand, standing] at hi
  split at hi
  · next hlt =>
    obtain rfl := Option.some.inj hi
    exact hlt
  · contradiction

/-- Going back fails only where nothing is remembered. -/
theorem Placed.older_eq_none_iff {h : History} (hplaced : h.Placed) :
    h.older.1 = none ↔ h.entries = [] := by
  obtain ⟨i, hi, hstand⟩ := hplaced
  rw [hstand, older_standing hi, List.getElem?_eq_none_iff, ← hstand, ← List.length_eq_zero_iff]
  omega

/-- Where nothing is remembered, going back changes nothing. -/
theorem Placed.older_of_nil {h : History} (hplaced : h.Placed) (hnil : h.entries = []) :
    h.older = (none, h) := by
  cases hplace : h.place with
  | none => simp [older, hplace, hnil]
  | some i =>
    have hlt := hplaced.place_lt hplace
    simp [hnil] at hlt

/-- A move that starts a fresh line: a push, or a step forth that finds nothing. -/
def Move.Freshens (h : History) (m : Move) : Prop :=
  (∃ line, m = .push line) ∨ m = .newer ∧ h.newer.1 = none

theorem standing_of_freshens {h : History} (hplaced : h.Placed) {m : Move} (hm : m.Freshens h) :
    (h.move m).2 = standing (h.move m).2.entries (h.move m).2.entries.length := by
  rcases hm with ⟨line, rfl⟩ | ⟨rfl, hnone⟩
  · exact h.push_eq_standing line
  · obtain ⟨i, hi, hstand⟩ := hplaced
    rw [hstand, newer_standing hi, List.getElem?_eq_none_iff] at hnone
    have hend : min (i + 1) h.entries.length = h.entries.length := Nat.min_eq_right hnone
    rw [move, entries_newer]
    rw [hstand, newer_standing hi, hend]
    rfl

/-- From the fresh line back, forth again, and back from there. -/
theorem recall_of_fresh (entries : List Text) (k j : Nat) :
    let h := standing entries entries.length
    let n := entries.length
    (back^[k] h).older.1 = entries[n - min (k + 1) n]? ∧
      (forth^[j] (back^[k] h)).newer.1 = entries[n - min k n + (j + 1)]? ∧
      (n ≤ n - min k n + j → (forth^[j] (back^[k] h)).older.1 = entries[n - 1]?) := by
  intro h n
  have hk : n - k ≤ entries.length := Nat.sub_le n k
  have hback : back^[k] h = standing entries (n - k) := back_iterate_standing (le_refl n) k
  have hforth : forth^[j] (back^[k] h) = standing entries (min (n - k + j) n) := by
    rw [hback, forth_iterate_standing hk]
  have hj : min (n - k + j) n ≤ entries.length := Nat.min_le_right _ _
  refine ⟨?_, ?_, fun hend => ?_⟩
  · have hplace : n - k - 1 = n - min (k + 1) n := by omega
    rw [hback, older_standing hk, hplace]
  · rw [hforth, newer_standing hj]
    by_cases hlt : n - k + j < n
    · have hplace : min (n - k + j) n + 1 = n - min k n + (j + 1) := by omega
      rw [hplace]
    -- beyond the latest entry both numbers are too large
    · have hout : n ≤ min (n - k + j) n + 1 := by omega
      have hout' : n ≤ n - min k n + (j + 1) := by omega
      rw [List.getElem?_eq_none hout, List.getElem?_eq_none hout']
  · have hplace : min (n - k + j) n - 1 = n - 1 := by omega
    rw [hforth, older_standing hj, hplace]

/-- **Recall.** After any row of moves the history remembers the pushed lines without the blank
ones, equal neighbours collapsed; its place is none or that of an entry, so that going back finds
nothing only if nothing is remembered. After a further move that starts a fresh line, with `n`
entries, the steps back call back the entries `n - 1`, `n - 2` and so on, and then the oldest one
again and again; from there the steps forth call back the entries that follow, and nothing beyond
the latest one, where going back starts with the latest one again. -/
theorem recall_replay (moves : List Move) :
    (replay moves).entries =
        ((moves.filterMap Move.pushed?).filter (!·.isBlank)).destutter (· ≠ ·) ∧
      (∀ i, (replay moves).place = some i → i < (replay moves).entries.length) ∧
      ((replay moves).older.1 = none ↔ (replay moves).entries = []) ∧
      ∀ m : Move, m.Freshens (replay moves) →
        let h := replay (moves ++ [m])
        let n := h.entries.length
        ∀ k j,
          (back^[k] h).older.1 = h.entries[n - min (k + 1) n]? ∧
          (forth^[j] (back^[k] h)).newer.1 = h.entries[n - min k n + (j + 1)]? ∧
          (n ≤ n - min k n + j → (forth^[j] (back^[k] h)).older.1 = h.entries[n - 1]?) := by
  have hplaced := placed_replay moves
  refine ⟨entries_replay moves, fun i hi => hplaced.place_lt hi, hplaced.older_eq_none_iff, ?_⟩
  intro m hm h n k j
  have hfresh : h = standing h.entries n := by
    have hmove := standing_of_freshens hplaced hm
    rwa [← replay_concat] at hmove
  have hrecall := recall_of_fresh h.entries k j
  rwa [← hfresh] at hrecall

/-- Two entries out of four pushed lines, left by a step forth from the later one. -/
theorem recall_replay_two :
    let moves : List Move := [.push ['1'], .push [' '], .push ['2'], .push ['2'], .older]
    let h := replay (moves ++ [.newer])
    Move.newer.Freshens (replay moves) ∧ h.entries = [['1'], ['2']] ∧
      (back^[1] h).older.1 = some ['1'] ∧ (back^[2] h).older.1 = some ['1'] ∧
      (forth^[0] (back^[2] h)).newer.1 = some ['2'] ∧
      (forth^[1] (back^[2] h)).newer.1 = none ∧
      (forth^[2] (back^[2] h)).older.1 = some ['2'] := by
  intro moves h
  have hfresh : Move.newer.Freshens (replay moves) := .inr ⟨rfl, by decide +kernel⟩
  have hentries : h.entries = [['1'], ['2']] := by decide +kernel
  obtain ⟨hone, -, -⟩ := (recall_replay moves).2.2.2 .newer hfresh 1 0
  obtain ⟨htwo, hnext, -⟩ := (recall_replay moves).2.2.2 .newer hfresh 2 0
  obtain ⟨-, hlast, -⟩ := (recall_replay moves).2.2.2 .newer hfresh 2 1
  obtain ⟨-, -, hagain⟩ := (recall_replay moves).2.2.2 .newer hfresh 2 2
  simp only [show replay (moves ++ [.newer]) = h from rfl, hentries] at hone htwo hnext hlast hagain
  exact ⟨hfresh, hentries, hone, htwo, hnext, hlast, hagain (by decide)⟩

end History

end Reckon
