import Reckon.Expr.Eval

/-!
# Evaluation is exact arithmetic

What an expression is worth in unbounded integers, and how the 32-bit evaluation follows it.

* `Operator.worth?`, `Expr.worth?`: the exact value, by the arithmetic of the integers; there is
  none for a leaf that is no integer and for a division by zero.
* `Expr.postorder`: the nodes in the order in which they are evaluated.
* `Expr.eval_eq_ok_iff`: **evaluation succeeds exactly when every node has an exact value in
  range**, with the value of the whole.
* `Expr.FailsWith`, `Expr.eval_eq_error`: an error is that of a single node.
-/

namespace Reckon

/-! ## The range -/

/-- The integers of 32 bits. -/
def InRange (n : Int) : Prop := -2147483648 ≤ n ∧ n ≤ 2147483647

instance (n : Int) : Decidable (InRange n) := inferInstanceAs (Decidable (_ ∧ _))

theorem inRange_toInt (v : Int32) : InRange v.toInt := by
  have hlo := v.le_toInt
  have hhi := v.toInt_lt
  exact ⟨by omega, by omega⟩

theorem fit?_eq_none_iff {n : Int} : fit? n = none ↔ ¬ InRange n := by
  rw [fit?, InRange]
  split <;> simp_all

/-- An integer in range is that of some 32 bits. -/
theorem InRange.exists_toInt {n : Int} (h : InRange n) : ∃ v : Int32, v.toInt = n := by
  rcases hfit : fit? n with _ | v
  · exact absurd h (fit?_eq_none_iff.1 hfit)
  · exact ⟨v, fit?_eq_some_iff.1 hfit⟩

/-! ## One operator -/

/-- The result of an operator in unbounded integers: a quotient goes toward zero, and there is
none by zero. -/
def Operator.worth? : Operator → Int → Int → Option Int
  | .add, a, b => some (a + b)
  | .sub, a, b => some (a - b)
  | .mul, a, b => some (a * b)
  | .div, a, b => if b = 0 then none else some (a.tdiv b)

/-- The evaluation works out what the operator is worth. -/
theorem Operator.worth?_toInt (op : Operator) (a b : Int32) :
    op.worth? a.toInt b.toInt =
      if op = .div ∧ b = 0 then none else some (op.exact a.toInt b.toInt) := by
  have hzero : b.toInt = 0 ↔ b = 0 := Int32.toInt_inj (y := 0)
  cases op <;> simp [worth?, exact, hzero]

/-- An operator has a value exactly when its exact result fits. -/
theorem Operator.apply_eq_ok_iff {op : Operator} {position : Nat} {a b v : Int32} :
    op.apply position a b = .ok v ↔ op.worth? a.toInt b.toInt = some v.toInt := by
  rw [apply, worth?_toInt]
  split
  · simp
  · rw [Option.some.injEq, eq_comm (b := v.toInt), ← fit?_eq_some_iff]
    cases fit? (op.exact a.toInt b.toInt) <;> simp

/-- The two errors of an operator. -/
theorem Operator.apply_eq_error {op : Operator} {position : Nat} {a b : Int32} {err : EvalError}
    (h : op.apply position a b = .error err) :
    (op = .div ∧ b = 0 ∧ err = .divisionByZero position) ∨
      (err = .overflow a op b position ∧
        ∃ n, op.worth? a.toInt b.toInt = some n ∧ ¬ InRange n) := by
  rw [apply] at h
  split at h
  · rename_i hdiv
    cases h
    exact .inl ⟨hdiv.1, hdiv.2, rfl⟩
  · rename_i hdiv
    split at h
    · cases h
    · rename_i hfit
      cases h
      exact .inr ⟨rfl, _, by rw [worth?_toInt, if_neg hdiv], fit?_eq_none_iff.1 hfit⟩

/-! ## Trees -/

/-- The integer that a leaf stands for. -/
def Token.worth? (t : Token) : Option Int :=
  match t.value with
  | some (.int n) => some n.toInt
  | some (.uint n) => some n.toNat
  | _ => none

/-- The value of an expression in unbounded integers. -/
def Expr.worth? : Expr → Option Int
  | .number t => t.worth?
  | .node op _ _ l r =>
    match l.worth?, r.worth? with
    | some a, some b => op.worth? a b
    | _, _ => none

/-- The nodes of a tree, operands before their operator and from left to right. -/
def Expr.postorder : Expr → List Expr
  | .number t => [.number t]
  | .node op t depth l r => l.postorder ++ r.postorder ++ [.node op t depth l r]

theorem Expr.mem_postorder_self (e : Expr) : e ∈ e.postorder := by
  cases e <;> simp [postorder]

/-- What a node hands down to its operands, a tree hands down to all its nodes. -/
theorem Expr.of_mem_postorder {P : Expr → Prop}
    (hdown : ∀ op t depth l r, P (.node op t depth l r) → P l ∧ P r) {d e : Expr} (he : P e)
    (h : d ∈ e.postorder) : P d := by
  induction e with
  | number t =>
    obtain rfl := List.mem_singleton.1 h
    exact he
  | node op t depth l r ihl ihr =>
    obtain ⟨hl, hr⟩ := hdown op t depth l r he
    simp only [postorder, List.mem_append, List.mem_singleton] at h
    rcases h with (h | h) | rfl
    · exact ihl hl h
    · exact ihr hr h
    · exact he

theorem Token.eval_eq_ok_iff {t : Token} {v : Int32} :
    t.eval = .ok v ↔ t.worth? = some v.toInt := by
  rw [eval, worth?]
  match t.value with
  | some (.int n) => simp [Int32.toInt_inj]
  | some (.uint n) =>
    have hfit : (n.toNat : Int) = v.toInt ↔ fit? n.toNat = some v := by
      rw [fit?_eq_some_iff]
      exact eq_comm
    simp only [Option.some.injEq, hfit]
    rcases fit? n.toNat with _ | w <;> simp
  | some (.float _) | some (.double _) | some (.char _) | some (.str _) | none => simp

/-- The operands come first. -/
theorem Expr.eval_node_eq_ok_iff {op : Operator} {t : Token} {depth : Nat} {l r : Expr}
    {v : Int32} :
    (Expr.node op t depth l r).eval = .ok v ↔
      ∃ a b, l.eval = .ok a ∧ r.eval = .ok b ∧ op.apply t.position a b = .ok v := by
  rw [eval]
  rcases l.eval with _ | a
  · simp
  · rcases r.eval with _ | b <;> simp

/-- A node has an exact value that fits. -/
def Expr.Fitting (e : Expr) : Prop := ∃ n, e.worth? = some n ∧ InRange n

theorem Expr.worth?_node_eq_some_iff {op : Operator} {t : Token} {depth : Nat} {l r : Expr}
    {n : Int} :
    (Expr.node op t depth l r).worth? = some n ↔
      ∃ a b, l.worth? = some a ∧ r.worth? = some b ∧ op.worth? a b = some n := by
  rw [worth?]
  rcases l.worth? with _ | a
  · simp
  · rcases r.worth? with _ | b <;> simp

/-- **Checked evaluation is exact.** An expression has a 32-bit value if and only if the exact
values of all its nodes exist and are in range, and then it is the exact value. -/
theorem Expr.eval_eq_ok_iff {e : Expr} {v : Int32} :
    e.eval = .ok v ↔ (∀ d ∈ e.postorder, d.Fitting) ∧ e.worth? = some v.toInt := by
  induction e generalizing v with
  | number t =>
    rw [eval, Token.eval_eq_ok_iff, worth?]
    simp only [postorder, List.mem_singleton, forall_eq]
    exact ⟨fun h => ⟨⟨_, h, inRange_toInt v⟩, h⟩, And.right⟩
  | node op t depth l r ihl ihr =>
    rw [eval_node_eq_ok_iff]
    simp only [postorder, List.mem_append, List.mem_singleton, or_imp, forall_and, forall_eq]
    constructor
    · rintro ⟨a, b, ha, hb, hv⟩
      obtain ⟨hnodesl, hl⟩ := ihl.1 ha
      obtain ⟨hnodesr, hr⟩ := ihr.1 hb
      have hnode : (Expr.node op t depth l r).worth? = some v.toInt :=
        worth?_node_eq_some_iff.2 ⟨_, _, hl, hr, Operator.apply_eq_ok_iff.1 hv⟩
      exact ⟨⟨⟨hnodesl, hnodesr⟩, _, hnode, inRange_toInt v⟩, hnode⟩
    · rintro ⟨⟨⟨hnodesl, hnodesr⟩, -⟩, hnode⟩
      obtain ⟨m, n, hl, hr, hworth⟩ := worth?_node_eq_some_iff.1 hnode
      -- the operands' values are in range, so evaluation finds them
      obtain ⟨m', hl', hm⟩ := hnodesl l l.mem_postorder_self
      obtain ⟨n', hr', hn⟩ := hnodesr r r.mem_postorder_self
      obtain rfl := Option.some.inj (hl.symm.trans hl')
      obtain rfl := Option.some.inj (hr.symm.trans hr')
      obtain ⟨a, rfl⟩ := hm.exists_toInt
      obtain ⟨b, rfl⟩ := hn.exists_toInt
      exact ⟨a, b, ihl.2 ⟨hnodesl, hl⟩, ihr.2 ⟨hnodesr, hr⟩,
        Operator.apply_eq_ok_iff.2 hworth⟩

/-- The node has the error in its own right: it is a leaf without a value, or its operands have
values and the operator has none for them. -/
def Expr.FailsWith (err : EvalError) : Expr → Prop
  | .number t => t.eval = .error err
  | .node op t _ l r =>
    ∃ a b, l.eval = .ok a ∧ r.eval = .ok b ∧ op.apply t.position a b = .error err

/-- An error comes from one node. -/
theorem Expr.eval_eq_error {e : Expr} {err : EvalError} (h : e.eval = .error err) :
    ∃ d ∈ e.postorder, d.FailsWith err := by
  induction e with
  | number t => exact ⟨_, mem_postorder_self _, h⟩
  | node op t depth l r ihl ihr =>
    rw [eval] at h
    rcases hl : l.eval with errl | a
    · rw [hl] at h
      obtain rfl := Except.error.inj h
      obtain ⟨d, hd, hfails⟩ := ihl hl
      exact ⟨d, by simp [postorder, hd], hfails⟩
    · rcases hr : r.eval with errr | b
      · rw [hl, hr] at h
        obtain rfl := Except.error.inj h
        obtain ⟨d, hd, hfails⟩ := ihr hr
        exact ⟨d, by simp [postorder, hd], hfails⟩
      · -- both operands have values, so the error is the operator's
        rw [hl, hr] at h
        exact ⟨_, mem_postorder_self _, a, b, hl, hr, h⟩

end Reckon
