import Reckon.Proofs.Evaluation
import Reckon.Proofs.Pruning

/-!
# Bounds for any row of tokens

Whatever the tokens are, the parser returns a tree that fits its tokens, knows its own depth and is
not too deep, and it does not report a limit twice.

* `Made.wellFormed`, `Made.node_depth_eq`: the nodes of a tree that the parser's steps make fit
  their tokens and keep their heights.
* `Cursor.Records`: what is written down between two cursors, with the flag of the depth limits as
  the count of its warnings.
* `parse_bounded`: **the bounds of every parse**.
-/

namespace Reckon

/-! ## The tree -/

namespace Made

variable {endAt : Nat} {c : Cursor} {r : Reading c}

/-- The nodes of a tree fit their tokens. -/
theorem wellFormed (h : Made endAt r) : r.expr.WellFormed := by
  induction h with
  | missing => rfl
  | leaf _ ht => exact ht
  | refused => rfl
  | group _ _ _ ih => exact ih
  | join _ _ hop _ _ ihl ihr =>
    rw [Reading.join]
    split
    · exact ihl
    · exact ⟨hop.ofKind?, ihl, ihr⟩

/-- Every node of a tree keeps its height: the steps join trees that do, and the depth of the
whole is worked out from theirs. -/
theorem node_depth_eq (h : Made endAt r) {d : Expr} (hd : d ∈ r.expr.postorder) :
    d.depth = d.height := by
  induction h with
  | missing | leaf | refused =>
    obtain rfl := List.mem_singleton.1 hd
    rfl
  | group _ _ _ ih => exact ih hd
  | @join k origin left op t rest right h hrest hop hleft hright ihl ihr =>
    have hroot := (Made.join h hrest hop hleft hright).depth_eq
    by_cases hle : treeLimit ≤ max left.expr.depth right.expr.depth
    · rw [Reading.join, if_pos hle] at hd
      exact ihl hd
    · rw [Reading.join, if_neg hle] at hd hroot
      rw [Expr.binary, Expr.postorder, List.mem_append, List.mem_append, List.mem_singleton] at hd
      rcases hd with (hd | hd) | rfl
      · exact ihl hd
      · exact ihr hd
      · exact hroot

end Made

/-! ## What is written down -/

/-- Is the fault that of a depth limit? -/
def Diagnostic.isTooDeep : Diagnostic → Bool
  | .tooDeep .. => true
  | _ => false

theorem Diagnostic.eq_tooDeep {d : Diagnostic} (h : d.isTooDeep = true) :
    ∃ limit position, d = .tooDeep limit position := by
  cases d <;> simp_all [isTooDeep]

/-- Is the fault that of a token after the expression? -/
def Diagnostic.isTrailing : Diagnostic → Bool
  | .trailing .. => true
  | _ => false

/-- From `c` to `c'` the faults `ds` were written down, none of them about tokens after the
expression. The flag goes up with the one that is about a depth limit. -/
structure Cursor.Records (c c' : Cursor) (ds : List Diagnostic) : Prop where
  /-- what was written down -/
  faults : c'.faults = c.faults ++ ds
  /-- the flag counts the warnings -/
  warnings : ds.countP Diagnostic.isTooDeep + c.tooDeep.toNat = c'.tooDeep.toNat
  /-- all is about the expression -/
  inner : ∀ d ∈ ds, d.isTrailing = false

namespace Cursor

theorem Quiet.records {c c' : Cursor} (h : c.Quiet c') : c.Records c' [] := by
  refine ⟨?_, ?_, by simp⟩
  · rw [h.faults, List.append_nil]
  · rw [h.tooDeep, List.countP_nil, Nat.zero_add]

theorem Records.trans {a b c : Cursor} {ds ds' : List Diagnostic} (h : a.Records b ds)
    (h' : b.Records c ds') : a.Records c (ds ++ ds') := by
  have hcount := h.warnings
  have hcount' := h'.warnings
  refine ⟨?_, ?_, fun d hd => ?_⟩
  · rw [h'.faults, h.faults, List.append_assoc]
  · rw [List.countP_append]
    omega
  · rcases List.mem_append.1 hd with hd | hd
    · exact h.inner d hd
    · exact h'.inner d hd

/-- The flag goes up once. -/
theorem Records.countP_isTooDeep_le {c c' : Cursor} {ds : List Diagnostic}
    (h : c.Records c' ds) : ds.countP Diagnostic.isTooDeep ≤ 1 := by
  have hcount := h.warnings
  have hflag := c'.tooDeep.toNat_le
  omega

theorem Records.countP_isTrailing {c c' : Cursor} {ds : List Diagnostic}
    (h : c.Records c' ds) : ds.countP Diagnostic.isTrailing = 0 := by
  rw [List.countP_eq_zero]
  intro d hd
  simp [h.inner d hd]

theorem records_reportUnexpected (endAt : Nat) (k : Kind) (c : Cursor) :
    c.Records (c.reportUnexpected endAt k) [.unexpected k c.kind (c.position endAt)] := by
  refine ⟨?_, ?_, by simp [Diagnostic.isTrailing]⟩
  · simp [reportUnexpected, Event.fault?]
  · simp [reportUnexpected, note, Diagnostic.isTooDeep]

theorem records_reportTooDeep (limit position : Nat) (c : Cursor) :
    c.Records (c.reportTooDeep limit position)
      (if c.tooDeep then [] else [.tooDeep limit position]) := by
  have hwarns := c.warns_reportTooDeep limit position
  refine ⟨hwarns.faults, ?_, ?_⟩
  · rw [hwarns.tooDeep]
    cases c.tooDeep <;> simp [Diagnostic.isTooDeep]
  · cases c.tooDeep <;> simp [Diagnostic.isTrailing]

end Cursor

theorem records_closed (endAt : Nat) (c : Cursor) : ∃ ds, c.Records (closed endAt c) ds := by
  rw [closed]
  split
  · exact ⟨_, c.records_reportUnexpected endAt .closeParen⟩
  · rename_i t rest h
    split
    · exact ⟨_, (c.quiet_jump rest).records⟩
    · exact ⟨_, c.records_reportUnexpected endAt .closeParen⟩

theorem Reading.records_join {origin c : Cursor} (op : Operator) (t : Token)
    (left : Reading origin) (right : Reading c) (h : c.rest <:+ origin.rest) :
    ∃ ds, right.next.Records (left.join op t right h).next ds := by
  rw [Reading.join]
  split
  · exact ⟨_, right.next.records_reportTooDeep treeLimit t.position⟩
  · exact ⟨_, (right.next.quiet_joined op).records⟩

/-- What the steps write down. -/
theorem Made.records {endAt : Nat} {c : Cursor} {r : Reading c} (h : Made endAt r) :
    ∃ ds, c.Records r.next ds := by
  induction h with
  | missing c => exact ⟨_, c.records_reportUnexpected endAt .intLiteral⟩
  | @leaf c t rest => exact ⟨_, (c.quiet_jump rest).records⟩
  | @refused c t => exact ⟨_, (c.records_reportTooDeep nestingLimit t.position).trans
      (Cursor.quiet_jump _ (skipGroup 0 c.rest)).records⟩
  | @group c t rest h inside ht hin ih =>
    obtain ⟨ds, hds⟩ := ih
    obtain ⟨ds', hds'⟩ := records_closed endAt (inside (c.jump rest)).next
    exact ⟨_, ((c.quiet_jump rest).records.trans hds).trans hds'⟩
  | @join k origin left op t rest right h hrest hop hleft hright ihl ihr =>
    obtain ⟨ds, hds⟩ := ihl
    obtain ⟨ds', hds'⟩ := ihr
    obtain ⟨ds'', hds''⟩ := Reading.records_join op t left right h
    exact ⟨_, ((hds.trans (left.next.quiet_jump rest).records).trans hds').trans hds''⟩

/-! ## All tokens -/

/-- A token after the expression is written down last. -/
theorem faults_reportTrailing (c : Cursor) :
    ∃ ds, (reportTrailing c).faults = c.faults ++ ds ∧
      (ds = [] ∨ ∃ kind position, ds = [.trailing kind position]) := by
  rw [reportTrailing]
  split
  · exact ⟨[], by simp, .inl rfl⟩
  · exact ⟨_, Cursor.faults_note .., .inr ⟨_, _, rfl⟩⟩

/-- **The bounds of every parse.** For any row of tokens, ends of file among them or not, the
parser returns a tree whose leaves are signed integers and whose operators are those of their
tokens. The depth that each of its nodes keeps is the true height of the tree below it, and the
whole has at most 1024 levels. Of what is written down at most one fault is about a depth limit,
and at most one, the last one, about tokens after the expression. -/
theorem parse_bounded (ts : List Token) (journal : Journal) :
    (parse ts journal).1.WellFormed ∧
    (∀ d ∈ (parse ts journal).1.postorder, d.depth = d.height) ∧
    (parse ts journal).1.height ≤ 1024 ∧
    ∃ ds, (parse ts journal).2.diagnostics = journal.diagnostics ++ ds ∧
      ds.countP Diagnostic.isTooDeep ≤ 1 ∧ ds.countP Diagnostic.isTrailing ≤ 1 ∧
      ∀ d ∈ ds.dropLast, d.isTrailing = false := by
  have hmade := made_expression (endOf ts) nestingLimit (startOf ts journal)
  refine ⟨hmade.wellFormed, fun d hd => hmade.node_depth_eq hd, hmade.height_le, ?_⟩
  obtain ⟨ds, hds⟩ := hmade.records
  obtain ⟨ds', hfaults, hlast⟩ :=
    faults_reportTrailing (expression (endOf ts) nestingLimit (startOf ts journal)).next
  have hinner := hds.countP_isTrailing
  have honce := hds.countP_isTooDeep_le
  refine ⟨ds ++ ds', ?_, ?_⟩
  · rw [diagnostics_parse, hfaults, hds.faults, List.append_assoc]
    rfl
  · rcases hlast with rfl | ⟨kind, position, rfl⟩
    · rw [List.append_nil, hinner]
      exact ⟨honce, Nat.zero_le 1, fun d hd => hds.inner d (List.dropLast_subset ds hd)⟩
    · rw [List.countP_append, List.countP_append, hinner, List.dropLast_concat]
      exact ⟨honce, Nat.le_refl 1, hds.inner⟩

/-- `1+(2*3` with tokens after an end of file: the parenthesis is missing, the tokens are not
looked at, and each node keeps its height. -/
theorem parse_bounded_unclosed :
    let one := Token.literal (.int 1) 0 ['1']
    let plus := Token.plain .plus 1 ['+']
    let two := Token.literal (.int 2) 3 ['2']
    let times := Token.plain .times 4 ['*']
    let three := Token.literal (.int 3) 5 ['3']
    let product := Expr.node .mul times 2 (.number two) (.number three)
    let tree := Expr.node .add plus 3 (.number one) product
    let ts := [one, plus, .plain .openParen 2 ['('], two, times, three, .plain .endOfFile 6 [], two]
    (parse ts .empty).1 = tree ∧ tree.height = 3 ∧
      (parse ts .empty).2.diagnostics = [.unexpected .closeParen .endOfFile 6] := by
  intro one plus two times three product tree ts
  have htree : (parse ts .empty).1 = tree := by decide +kernel
  have hroot : tree.depth = tree.height :=
    (parse_bounded ts .empty).2.1 tree (htree ▸ tree.mem_postorder_self)
  exact ⟨htree, hroot.symm, by decide +kernel⟩

end Reckon
