import Reckon.Proofs.Recall
import Reckon.Workbench.State

/-!
# Editing a line

A line with a cursor is the same as two texts, what is before the cursor and what is after it. The
editor keeps one text and a number of characters, and edits the text at byte offsets; the two stay
in step whatever keys are pressed, so that every edit is made at a boundary of a character.

* `Text.IsBoundary`: where a stored text can be cut. An edit is refused exactly elsewhere
  (`isSome_insertAt?_iff`, `isSome_removeAt?_iff`).
* `Draft`: the two texts, with the history that lines are called back from. `Draft.press` says
  what a key does to them.
* `Workbench.Shows`: a workbench has the line and the history of a draft. Every key keeps this up
  (`Shows.press`), and so does every row of keys (`Shows.pressAll`).
* `press_eq_draft`: **the workbench edits like a draft**.
-/

namespace Reckon

/-! ## Boundaries -/

namespace Text

/-- A place between two characters of a stored text, or at one of its ends. -/
def IsBoundary (s : Text) (offset : Nat) : Prop :=
  String.Pos.Raw.IsValid (String.ofList s) ⟨offset⟩

/-- The boundaries are the ends of the beginnings. -/
theorem isBoundary_iff {s : Text} {offset : Nat} :
    s.IsBoundary offset ↔ ∃ before after, s = before ++ after ∧ byteLength before = offset := by
  rw [IsBoundary, String.Pos.Raw.isValid_ofList]
  constructor
  · rintro ⟨n, hn⟩
    exact ⟨s.take n, s.drop n, (List.take_append_drop n s).symm, hn.symm⟩
  · rintro ⟨before, after, rfl, rfl⟩
    refine ⟨before.length, ?_⟩
    rw [List.take_left, byteLength]

/-- What a text is cut into is the text. -/
theorem cutFrom_eq_some {before s a b : Text} {offset : Nat}
    (h : cutFrom before s offset = some (a, b)) :
    a ++ b = before.reverse ++ s ∧ byteLength a = byteLength before + offset := by
  fun_induction cutFrom before s offset with
  | case1 before s =>
    obtain ⟨rfl, rfl⟩ := Prod.mk.inj (Option.some.inj h)
    simp
  | case2 => contradiction
  | case3 before c s n hle ih =>
    obtain ⟨happend, hlength⟩ := ih h
    refine ⟨by simpa using happend, ?_⟩
    rw [hlength, byteLength_cons]
    omega
  | case4 => contradiction

theorem cutAt?_eq_some_iff {s a b : Text} {offset : Nat} :
    s.cutAt? offset = some (a, b) ↔ s = a ++ b ∧ byteLength a = offset := by
  constructor
  · intro h
    obtain ⟨happend, hlength⟩ := cutFrom_eq_some h
    exact ⟨happend.symm, by simpa using hlength⟩
  · rintro ⟨rfl, rfl⟩
    exact cutAt?_append a b

/-- A character is refused where there is no boundary, and only there. -/
theorem isSome_insertAt?_iff {s : Text} {offset : Nat} {c : Char} :
    (s.insertAt? offset c).isSome ↔ s.IsBoundary offset := by
  rw [insertAt?, Option.isSome_map, Option.isSome_iff_exists, Prod.exists, isBoundary_iff]
  simp only [cutAt?_eq_some_iff]

/-- A character is taken out at every boundary but the end. -/
theorem isSome_removeAt?_iff {s : Text} {offset : Nat} :
    (s.removeAt? offset).isSome ↔ s.IsBoundary offset ∧ offset < s.byteLength := by
  rw [isBoundary_iff]
  constructor
  · intro h
    rw [removeAt?] at h
    split at h
    · next before c after hcut =>
      obtain ⟨rfl, rfl⟩ := cutAt?_eq_some_iff.1 hcut
      have hpos := c.utf8Size_pos
      refine ⟨⟨_, _, rfl, rfl⟩, ?_⟩
      rw [byteLength_append, byteLength_cons]
      omega
    · contradiction
  · rintro ⟨⟨before, after, rfl, rfl⟩, hlt⟩
    cases after with
    | nil => simp at hlt
    | cons c after => rw [removeAt?_append_cons, Option.isSome_some]

@[simp] theorem byteOffset_append (s t : Text) : byteOffset (s ++ t) s.length = byteLength s := by
  rw [byteOffset, List.take_left]

end Text

/-! ## The editor between two parts of a line -/

namespace Editor

/-- The editor with the cursor between two parts of its line. -/
def between (before after : Text) : Editor := ⟨before ++ after, before.length⟩

variable (before after : Text) (c : Char)

theorem insert_between : (between before after).insert c = between (before ++ [c]) after := by
  simp [insert, between, edited]

theorem backspace_between :
    (between before after).backspace = between before.dropLast after := by
  rcases List.eq_nil_or_concat before with rfl | ⟨before, c, rfl⟩
  · rfl
  · simp [backspace, between, edited]

theorem delete_between : (between before after).delete = between before after.tail := by
  cases after with
  | nil => simp [delete, between]
  | cons c after => simp [delete, between, edited]

theorem left_between :
    (between before after).left = between before.dropLast (before.getLast?.toList ++ after) := by
  rcases List.eq_nil_or_concat before with rfl | ⟨before, c, rfl⟩
  · rfl
  · simp [left, between]

theorem right_between :
    (between before after).right = between (before ++ after.head?.toList) after.tail := by
  cases after with
  | nil => simp [right, between]
  | cons c after => simp [right, between]

theorem toStart_between : (between before after).toStart = between [] (before ++ after) := rfl

theorem toEnd_between : (between before after).toEnd = between (before ++ after) [] := by
  simp [toEnd, between]

theorem ofLine_eq_between (line : Text) : ofLine line = between line [] := by
  simp [ofLine, between]

/-- A character between two parts is taken out at a boundary before the end. -/
theorem boundary_of_append_cons :
    (before ++ c :: after).IsBoundary ((before ++ c :: after).byteOffset before.length) ∧
      (before ++ c :: after).byteOffset before.length < (before ++ c :: after).byteLength := by
  rw [← Text.isSome_removeAt?_iff, Text.byteOffset_append, Text.removeAt?_append_cons]
  rfl

/-- The editor between two parts edits at boundaries: no edit of it is refused. -/
theorem boundaries_between :
    let line := (between before after).line
    let cursor := (between before after).cursor
    line.IsBoundary (line.byteOffset cursor) ∧
      (0 < cursor → line.IsBoundary (line.byteOffset (cursor - 1)) ∧
        line.byteOffset (cursor - 1) < line.byteLength) ∧
      (cursor < line.length → line.IsBoundary (line.byteOffset cursor) ∧
        line.byteOffset cursor < line.byteLength) := by
  intro line cursor
  refine ⟨?_, fun hpos => ?_, fun hlt => ?_⟩
  · have hinsert : (line.insertAt? (line.byteOffset cursor) ' ').isSome := by
      simp [line, cursor, between]
    exact Text.isSome_insertAt?_iff.1 hinsert
  · rcases List.eq_nil_or_concat before with rfl | ⟨before, c, rfl⟩
    · exact absurd hpos (Nat.lt_irrefl 0)
    · simpa [line, cursor, between] using boundary_of_append_cons before after c
  · cases after with
    | nil => simp [line, cursor, between] at hlt
    | cons c after => exact boundary_of_append_cons before after c

end Editor

/-! ## Drafts -/

/-- A line in the making: what is before the cursor, what is after it, and the history that lines
are called back from. -/
structure Draft where
  /-- what is before the cursor -/
  before : Text
  /-- what is after the cursor -/
  after : Text
  /-- the lines that were entered -/
  history : History

namespace Draft

/-- An empty line, and no lines to call back. -/
def start : Draft := ⟨[], [], .empty⟩

/-- What a key does to a draft. -/
def press (d : Draft) : Key → Draft
  | .char c => { d with before := d.before ++ [c] }
  | .control c => if c = 'c' then d else { d with before := d.before ++ [c] }
  | .backspace => { d with before := d.before.dropLast }
  | .delete => { d with after := d.after.tail }
  | .left =>
    { d with before := d.before.dropLast, after := d.before.getLast?.toList ++ d.after }
  | .right => { d with before := d.before ++ d.after.head?.toList, after := d.after.tail }
  | .home => { d with before := [], after := d.before ++ d.after }
  | .endOfLine => { d with before := d.before ++ d.after, after := [] }
  | .up =>
    if d.history.entries = [] then d
    else ⟨d.history.older.1.getD [], [], d.history.older.2⟩
  | .down => ⟨d.history.newer.1.getD [], [], d.history.newer.2⟩
  | .enter =>
    if (d.before ++ d.after).isBlank then d
    else ⟨[], [], d.history.push (d.before ++ d.after)⟩
  | .escape | .tab | .backTab | .pageUp | .pageDown | .other => d

end Draft

/-! ## Keys -/

/-- The workbench has the line, the cursor and the history of the draft. -/
structure Workbench.Shows (w : Workbench) (d : Draft) : Prop where
  /-- the line and the cursor -/
  editor : w.editor = .between d.before d.after
  /-- the history -/
  history : w.history = d.history
  /-- lines are called back from a place of the history -/
  placed : d.history.Placed

namespace Workbench.Shows

theorem start : Shows .start .start := ⟨rfl, rfl, History.placed_standing (le_refl 0)⟩

variable {w : Workbench} {d : Draft}

theorem edit (h : w.Shows d) (f : Editor → Editor) {before after : Text}
    (hf : f (.between d.before d.after) = .between before after) :
    (w.edit f).Shows { d with before, after } := by
  refine ⟨?_, h.history, h.placed⟩
  rw [Workbench.edit, h.editor, hf]

theorem recallOlder (h : w.Shows d) : w.recallOlder.Shows (d.press .up) := by
  have hplaced : d.history.older.2.Placed := h.placed.move .older
  rw [Workbench.recallOlder, h.history, Draft.press]
  by_cases hnil : d.history.entries = []
  · rw [if_pos hnil, h.placed.older_of_nil hnil]
    exact ⟨h.editor, rfl, h.placed⟩
  -- an entry is found, since the place is one of the history
  · obtain ⟨line, hline⟩ : ∃ line, d.history.older.1 = some line := by
      rw [← Option.ne_none_iff_exists']
      exact mt h.placed.older_eq_none_iff.1 hnil
    have holder : d.history.older = (some line, d.history.older.2) := Prod.ext hline rfl
    rw [if_neg hnil, holder]
    exact ⟨Editor.ofLine_eq_between line, rfl, hplaced⟩

theorem recallNewer (h : w.Shows d) : w.recallNewer.Shows (d.press .down) := by
  refine ⟨?_, ?_, h.placed.move .newer⟩
  · rw [Workbench.recallNewer, h.history]
    exact Editor.ofLine_eq_between _
  · rw [Workbench.recallNewer, h.history]
    rfl

theorem submit (h : w.Shows d) : w.submit.Shows (d.press .enter) := by
  have hline : w.editor.line = d.before ++ d.after := by rw [h.editor, Editor.between]
  rw [Workbench.submit, hline, h.history, Draft.press]
  split
  · exact ⟨h.editor, rfl, h.placed⟩
  · exact ⟨rfl, rfl, h.placed.move (.push _)⟩

/-- **Every key** does to the workbench what it does to the draft. -/
theorem press (h : w.Shows d) (k : Key) : (w.press k).Shows (d.press k) := by
  cases k with
  | char c => exact h.edit (·.insert c) (Editor.insert_between _ _ c)
  | control c =>
    rw [Workbench.press, Draft.press]
    split
    · exact ⟨h.editor, h.history, h.placed⟩
    · exact h.edit (·.insert c) (Editor.insert_between _ _ c)
  | backspace => exact h.edit _ (Editor.backspace_between _ _)
  | delete => exact h.edit _ (Editor.delete_between _ _)
  | left => exact h.edit _ (Editor.left_between _ _)
  | right => exact h.edit _ (Editor.right_between _ _)
  | home => exact h.edit _ (Editor.toStart_between _ _)
  | endOfLine => exact h.edit _ (Editor.toEnd_between _ _)
  | up => exact h.recallOlder
  | down => exact h.recallNewer
  | enter => exact h.submit
  | escape | tab | backTab | pageUp | pageDown | other => exact ⟨h.editor, h.history, h.placed⟩

/-- **Every row of keys**, from the start of a session. -/
theorem pressAll (keys : List Key) :
    Shows (keys.foldl Workbench.press .start) (keys.foldl Draft.press .start) :=
  List.foldl_rel start fun k _ _ _ h => h.press k

end Workbench.Shows

/-- **The workbench edits like a draft.** After any row of keys the line is what the draft has
before and after its cursor, the cursor counts the characters before it, and the histories are the
same. So the cursor is never beyond the end of the line; a character is put in at a boundary of the
stored line, and the characters before and after the cursor, where there are such, are taken out
at boundaries before its end. -/
theorem press_eq_draft (keys : List Key) :
    let w := keys.foldl Workbench.press .start
    let d := keys.foldl Draft.press .start
    let line := w.editor.line
    let cursor := w.editor.cursor
    (line = d.before ++ d.after ∧ cursor = d.before.length ∧ w.history = d.history) ∧
      cursor ≤ line.length ∧
      line.IsBoundary (line.byteOffset cursor) ∧
      (0 < cursor → line.IsBoundary (line.byteOffset (cursor - 1)) ∧
        line.byteOffset (cursor - 1) < line.byteLength) ∧
      (cursor < line.length → line.IsBoundary (line.byteOffset cursor) ∧
        line.byteOffset cursor < line.byteLength) := by
  intro w d line cursor
  obtain ⟨heditor, hhistory, -⟩ : w.Shows d := Workbench.Shows.pressAll keys
  have hline : line = d.before ++ d.after := congrArg Editor.line heditor
  have hcursor : cursor = d.before.length := congrArg Editor.cursor heditor
  refine ⟨⟨hline, hcursor, hhistory⟩, ?_, ?_⟩
  · rw [hline, hcursor, List.length_append]
    exact Nat.le_add_right _ _
  · have hbounds := Editor.boundaries_between d.before d.after
    rwa [← heditor] at hbounds

/-- Characters of one, three and four bytes, with the cursor before the last one. -/
theorem press_eq_draft_wide :
    let w := [Key.char 'a', .char '世', .char '😀', .left].foldl Workbench.press .start
    w.editor = ⟨['a', '世', '😀'], 2⟩ ∧
      (Text.IsBoundary ['a', '世', '😀'] 1 ∧ 1 < Text.byteLength ['a', '世', '😀']) ∧
      (Text.IsBoundary ['a', '世', '😀'] 4 ∧ 4 < Text.byteLength ['a', '世', '😀']) := by
  intro w
  have heditor : w.editor = ⟨['a', '世', '😀'], 2⟩ := by decide +kernel
  obtain ⟨-, -, -, hbefore, hafter⟩ :=
    press_eq_draft [Key.char 'a', .char '世', .char '😀', .left]
  rw [show List.foldl Workbench.press .start _ = w from rfl, heditor] at hbefore hafter
  exact ⟨heditor, hbefore (by decide), hafter (by decide)⟩

end Reckon
