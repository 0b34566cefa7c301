import Reckon.Proofs.Evaluation

/-!
# The first node that fails

Evaluation stops at the first node, operands before their operator and from left to right, whose
exact value does not exist or does not fit. What is wrong with a node is said here in exact
integers, without the evaluation.

* `Expr.Within`: every leaf is an integer, no divisor is zero and every exact value fits.
* `Expr.Fails`: what is wrong with one node, with the node's offset and its operands' exact values.
* `Expr.firstUnfit`: the first node in evaluation order without an exact value that fits.
* `Expr.eval_exact`: **evaluation is exact arithmetic**, and its error is that of the first such
  node.
-/

namespace Reckon

/-! ## Expressions within 32 bits -/

/-- The leaf is a signed integer, or an unsigned one in the signed range. -/
def Token.IsInteger (t : Token) : Prop :=
  (∃ n, t.value = some (.int n)) ∨ ∃ n, t.value = some (.uint n) ∧ n.toNat ≤ 2147483647

/-- In unbounded integers nothing is wrong with the expression, and no node leaves the range. -/
structure Expr.Within (e : Expr) : Prop where
  /-- all leaves are integers -/
  leaves : ∀ t, .number t ∈ e.postorder → t.IsInteger
  /-- no divisor is zero -/
  divisors : ∀ t depth l r, .node .div t depth l r ∈ e.postorder →
    ∃ n, r.worth? = some n ∧ n ≠ 0
  /-- all exact values fit -/
  range : ∀ d ∈ e.postorder, ∃ n, d.worth? = some n ∧ InRange n

/-- A leaf with a value that fits is an integer. -/
theorem Expr.Fitting.isInteger {t : Token} (h : (Expr.number t).Fitting) : t.IsInteger := by
  obtain ⟨n, hn, hlo, hhi⟩ := h
  rw [worth?, Token.worth?] at hn
  rcases hv : t.value with _ | v <;> rw [hv] at hn
  · cases hn
  · cases v with
    | int m => exact .inl ⟨m, hv⟩
    | uint m =>
      obtain rfl := Option.some.inj hn
      exact .inr ⟨m, hv, by omega⟩
    | float | double | char | str => cases hn

/-- A quotient with an exact value has a divisor other than zero. -/
theorem Expr.Fitting.divisor {t : Token} {depth : Nat} {l r : Expr}
    (h : (Expr.node .div t depth l r).Fitting) : ∃ n, r.worth? = some n ∧ n ≠ 0 := by
  obtain ⟨n, hn, -⟩ := h
  obtain ⟨a, b, -, hr, hworth⟩ := worth?_node_eq_some_iff.1 hn
  refine ⟨b, hr, ?_⟩
  rintro rfl
  cases hworth

theorem Expr.within_iff {e : Expr} : e.Within ↔ ∀ d ∈ e.postorder, d.Fitting := by
  constructor
  · intro h d hd
    exact h.range d hd
  · intro h
    exact ⟨fun t ht => (h _ ht).isInteger, fun t depth l r hd => (h _ hd).divisor, h⟩

/-! ## What is wrong with a node -/

/-- The node has no value that fits, and the error says why. The operands of an operator are
given by their exact values. -/
inductive Expr.Fails : Expr → EvalError → Prop
  /-- a leaf without a value -/
  | missing {t : Token} (h : t.value = none) : Fails (.number t) (.missingValue t.position)
  /-- an unsigned leaf beyond the signed range -/
  | beyond {t : Token} {n : UInt32} (h : t.value = some (.uint n)) (hn : 2147483647 < n.toNat) :
      Fails (.number t) (.outOfRange t.lexeme t.position)
  /-- a leaf of another type -/
  | notInteger {t : Token} {v : Literal} (h : t.value = some v) (hint : ∀ n, v ≠ .int n)
      (huint : ∀ n, v ≠ .uint n) :
      Fails (.number t) (.notInteger t.lexeme v.typeName t.position)
  /-- a divisor that is zero -/
  | zeroDivisor {t : Token} {depth : Nat} {l r : Expr} (h : r.worth? = some 0) :
      Fails (.node .div t depth l r) (.divisionByZero t.position)
  /-- a result out of range -/
  | overflow {op : Operator} {t : Token} {depth : Nat} {l r : Expr} {a b : Int32} {n : Int}
      (hl : l.worth? = some a.toInt) (hr : r.worth? = some b.toInt)
      (hworth : op.worth? a.toInt b.toInt = some n) (hrange : ¬ InRange n) :
      Fails (.node op t depth l r) (.overflow a op b t.position)

/-- A node that fails has no exact value that fits. -/
theorem Expr.Fails.not_fitting {e : Expr} {err : EvalError} (h : e.Fails err) : ¬ e.Fitting := by
  rintro ⟨n, hn, hrange⟩
  cases h with
  | missing h =>
    rw [worth?, Token.worth?, h] at hn
    cases hn
  | beyond h hbeyond =>
    rw [worth?, Token.worth?, h] at hn
    obtain rfl := Option.some.inj hn
    have := hrange.2
    omega
  | @notInteger t v h hint huint =>
    rw [worth?, Token.worth?, h] at hn
    cases v with
    | int n => exact hint n rfl
    | uint n => exact huint n rfl
    | float _ | double _ | char _ | str _ => cases hn
  | zeroDivisor h =>
    obtain ⟨a, b, -, hr, hworth⟩ := worth?_node_eq_some_iff.1 hn
    obtain rfl := Option.some.inj (hr.symm.trans h)
    cases hworth
  | overflow hl hr hworth hbeyond =>
    obtain ⟨a, b, hl', hr', hworth'⟩ := worth?_node_eq_some_iff.1 hn
    obtain rfl := Option.some.inj (hl.symm.trans hl')
    obtain rfl := Option.some.inj (hr.symm.trans hr')
    obtain rfl := Option.some.inj (hworth.symm.trans hworth')
    exact hbeyond hrange

/-- A node fails in one way only. -/
theorem Expr.Fails.unique {e : Expr} {err err' : EvalError} (h : e.Fails err)
    (h' : e.Fails err') : err = err' := by
  cases h with
  | missing h =>
    cases h' with
    | missing => rfl
    | beyond h' | notInteger h' => rw [h] at h'; cases h'
  | beyond h =>
    cases h' with
    | beyond => rfl
    | missing h' => rw [h] at h'; cases h'
    | notInteger h' _ huint => exact absurd (Option.some.inj (h'.symm.trans h)) (huint _)
  | notInteger h _ huint =>
    cases h' with
    | missing h' => rw [h] at h'; cases h'
    | beyond h' => exact absurd (Option.some.inj (h.symm.trans h')) (huint _)
    | notInteger h' => rw [Option.some.inj (h.symm.trans h')]
  | zeroDivisor h =>
    cases h' with
    | zeroDivisor => rfl
    | overflow _ hr hworth =>
      rw [Option.some.inj (hr.symm.trans h)] at hworth
      cases hworth
  | overflow hl hr hworth =>
    cases h' with
    | zeroDivisor h' =>
      rw [Option.some.inj (hr.symm.trans h')] at hworth
      cases hworth
    | overflow hl' hr' =>
      rw [Int32.toInt_inj.1 (Option.some.inj (hl.symm.trans hl')),
        Int32.toInt_inj.1 (Option.some.inj (hr.symm.trans hr'))]

/-- The error of a leaf says what is wrong with it. -/
theorem Token.fails_of_eval {t : Token} {err : EvalError} (h : t.eval = .error err) :
    (Expr.number t).Fails err := by
  rw [eval] at h
  rcases hv : t.value with _ | v <;> rw [hv] at h
  · obtain rfl := Except.error.inj h
    exact .missing hv
  · cases v with
    | int n => cases h
    | uint n =>
      rcases hfit : fit? n.toNat with _ | v
      · simp only [hfit] at h
        obtain rfl := Except.error.inj h
        have hrange := fit?_eq_none_iff.1 hfit
        rw [InRange] at hrange
        exact .beyond hv (by omega)
      · simp only [hfit] at h
        cases h
    | float | double | char | str =>
      obtain rfl := Except.error.inj h
      exact .notInteger hv (by simp) (by simp)

/-- The error of an operator says what is wrong with its node. -/
theorem Operator.fails_of_apply {op : Operator} {t : Token} {depth : Nat} {l r : Expr}
    {a b : Int32} {err : EvalError} (hl : l.worth? = some a.toInt) (hr : r.worth? = some b.toInt)
    (h : op.apply t.position a b = .error err) : (Expr.node op t depth l r).Fails err := by
  rcases apply_eq_error h with ⟨rfl, rfl, rfl⟩ | ⟨rfl, n, hworth, hrange⟩
  · exact .zeroDivisor hr
  · exact .overflow hl hr hworth hrange

/-! ## The first one -/

instance (e : Expr) : Decidable e.Fitting :=
  inferInstanceAs (Decidable (∃ n ∈ e.worth?, InRange n))

/-- The first node, in the order of evaluation, without an exact value that fits. -/
def Expr.firstUnfit (e : Expr) : Option Expr := e.postorder.find? fun d => ¬ d.Fitting

theorem Expr.firstUnfit_eq_none_iff {e : Expr} :
    e.firstUnfit = none ↔ ∀ d ∈ e.postorder, d.Fitting := by
  simp [firstUnfit, List.find?_eq_none]

/-- An expression with a value has no such node. -/
theorem Expr.firstUnfit_of_ok {e : Expr} {v : Int32} (h : e.eval = .ok v) :
    e.firstUnfit = none :=
  firstUnfit_eq_none_iff.2 (eval_eq_ok_iff.1 h).1

/-- The left operand comes first, then the right one, then the node itself. -/
theorem Expr.firstUnfit_node (op : Operator) (t : Token) (depth : Nat) (l r : Expr) :
    (Expr.node op t depth l r).firstUnfit =
      (l.firstUnfit.or r.firstUnfit).or
        ([Expr.node op t depth l r].find? fun d => ¬ d.Fitting) := by
  rw [firstUnfit, postorder, List.find?_append, List.find?_append]
  rfl

theorem Expr.Fails.find?_singleton {e : Expr} {err : EvalError} (h : e.Fails err) :
    ([e].find? fun d => ¬ d.Fitting) = some e := by
  simp [h.not_fitting]

/-- An error of the evaluation is that of the first unfit node. The induction follows the
evaluation: an operand that has a value adds nothing before the node that is looked for. -/
theorem Expr.fails_of_eval {e : Expr} {err : EvalError} (h : e.eval = .error err) :
    ∃ d, e.firstUnfit = some d ∧ d.Fails err := by
  induction e with
  | number t =>
    have hfails := Token.fails_of_eval h
    exact ⟨.number t, hfails.find?_singleton, hfails⟩
  | node op t depth l r ihl ihr =>
    rw [eval] at h
    rw [firstUnfit_node]
    rcases hl : l.eval with errl | a
    · rw [hl] at h
      obtain rfl := Except.error.inj h
      obtain ⟨d, hd, hfails⟩ := ihl hl
      exact ⟨d, by simp [hd], hfails⟩
    · rw [firstUnfit_of_ok hl, Option.none_or]
      rcases hr : r.eval with errr | b
      · rw [hl, hr] at h
        obtain rfl := Except.error.inj h
        obtain ⟨d, hd, hfails⟩ := ihr hr
        exact ⟨d, by simp [hd], hfails⟩
      · rw [hl, hr] at h
        have hfails : (Expr.node op t depth l r).Fails err :=
          Operator.fails_of_apply (eval_eq_ok_iff.1 hl).2 (eval_eq_ok_iff.1 hr).2 h
        rw [firstUnfit_of_ok hr, Option.none_or, hfails.find?_singleton]
        exact ⟨_, rfl, hfails⟩

/-- **Checked evaluation is exact arithmetic.** An expression, whatever its leaves, has a value if
and only if all leaves are integers, no divisor is zero and the exact value of every node is in
range; the value is then the exact one. Otherwise its error is that of the first node, operands
before their operator and from left to right, whose exact value does not exist or is out of
range. -/
theorem Expr.eval_exact (e : Expr) :
    (∀ v, e.eval = .ok v ↔ e.Within ∧ e.worth? = some v.toInt) ∧
    ((∃ v, e.eval = .ok v) ↔ e.Within) ∧
    ∀ err, e.eval = .error err ↔ ∃ d, e.firstUnfit = some d ∧ d.Fails err := by
  refine ⟨fun v => ?_, ⟨?_, fun h => ?_⟩, fun err => ⟨fails_of_eval, ?_⟩⟩
  · rw [within_iff]
    exact eval_eq_ok_iff
  · rintro ⟨v, hv⟩
    exact within_iff.2 (eval_eq_ok_iff.1 hv).1
  · obtain ⟨n, hn, hrange⟩ := h.range e e.mem_postorder_self
    obtain ⟨v, rfl⟩ := hrange.exists_toInt
    exact ⟨v, eval_eq_ok_iff.2 ⟨within_iff.1 h, hn⟩⟩
  · rintro ⟨d, hd, hfails⟩
    rcases heval : e.eval with err' | v
    · obtain ⟨d', hd', hfails'⟩ := fails_of_eval heval
      obtain rfl := Option.some.inj (hd.symm.trans hd')
      rw [hfails.unique hfails']
    · rw [firstUnfit_of_ok heval] at hd
      cases hd

/-- `((7 - 9) * 3 + 1) / 2` is `-2`, since a quotient goes toward zero, and
`(0 - 2147483647 - 1) / (0 - 1)` is one more than fits. -/
theorem Expr.eval_exact_quotients :
    let leaf (n : Int32) := Expr.number (.literal (.int n) 0 [])
    let minus (p : Nat) := Expr.binary .sub (.plain .minus p ['-'])
    let times := Expr.binary .mul (.plain .times 2 ['*'])
    let plus := Expr.binary .add (.plain .plus 3 ['+'])
    let slash := Expr.binary .div (.plain .slash 4 ['/'])
    let e := slash (plus (times (minus 1 (leaf 7) (leaf 9)) (leaf 3)) (leaf 1)) (leaf 2)
    let e' := slash (minus 2 (minus 1 (leaf 0) (leaf 2147483647)) (leaf 1))
      (minus 5 (leaf 0) (leaf 1))
    (e.worth? = some (((7 - 9) * 3 + 1 : Int).tdiv 2) ∧ e.eval = .ok (-2)) ∧
      e'.eval = .error (.overflow (-2147483648) .div (-1) 4) := by
  intro leaf minus times plus slash e e'
  have hworth : e.worth? = some (-2) := by decide
  have hwithin : e.Within := within_iff.2 (by decide)
  have hfirst : e'.firstUnfit = some e' := by decide
  have hfails : e'.Fails (.overflow (-2147483648) .div (-1) 4) :=
    .overflow (n := 2147483648) rfl rfl rfl (by decide)
  exact ⟨⟨hworth, ((eval_exact e).1 (-2)).2 ⟨hwithin, hworth⟩⟩,
    ((eval_exact e').2.2 _).2 ⟨e', hfirst, hfails⟩⟩

end Reckon
