import Reckon.Expr.Basic

/-!
# Evaluation

An expression is worth a 32-bit signed integer. Each operator is worked out exactly and the
result has to fit; division goes toward zero. The left operand comes first, then the right
one, then the operator, so the error of an expression is that of the first node, in this
order, that has no value.

* `Operator.exact`: the operators on unbounded integers.
* `fit?`: an integer as a 32-bit one.
* `Expr.eval`: the value of an expression, or why it has none.
-/

namespace Reckon

/-- Why an expression has no value. -/
inductive EvalError where
  /-- a division by zero -/
  | divisionByZero (position : Nat)
  /-- a result beyond 32 bits -/
  | overflow (left : Int32) (op : Operator) (right : Int32) (position : Nat)
  /-- a literal of another type -/
  | notInteger (lexeme : Text) (typeName : String) (position : Nat)
  /-- an unsigned literal beyond the signed range -/
  | outOfRange (lexeme : Text) (position : Nat)
  /-- a leaf without a value -/
  | missingValue (position : Nat)
  deriving DecidableEq

namespace EvalError

/-- The offset of the node that has no value. -/
def position : EvalError → Nat
  | .divisionByZero p | .overflow _ _ _ p | .notInteger _ _ p | .outOfRange _ p
  | .missingValue p => p

/-- Why there is no value, without the place. -/
def cause : EvalError → String
  | .divisionByZero _ => "Division by zero"
  | .overflow l op r _ =>
    "Integer overflow in " ++ toString l.toInt ++ " " ++ String.singleton op.symbol ++ " " ++
      toString r.toInt
  | .notInteger lexeme typeName _ =>
    "Literal \"" ++ String.ofList lexeme ++ "\" of type " ++ typeName ++ " is not an integer"
  | .outOfRange lexeme _ =>
    "Literal \"" ++ String.ofList lexeme ++ "\" does not fit in type int"
  | .missingValue _ => "Missing literal value"

/-- The message of an error. -/
def message (e : EvalError) : String := e.cause ++ " at position " ++ toString e.position

end EvalError

/-- An integer as a 32-bit one, if it is in range. -/
def fit? (n : Int) : Option Int32 :=
  if -2147483648 ≤ n ∧ n ≤ 2147483647 then some (Int32.ofInt n) else none

theorem fit?_eq_some_iff {n : Int} {v : Int32} : fit? n = some v ↔ v.toInt = n := by
  unfold fit?
  constructor
  · intro h
    split at h
    · rename_i hn
      obtain rfl := Option.some.inj h
      exact Int32.toInt_ofInt_of_le hn.1 (by omega)
    · simp at h
  · rintro rfl
    have hlo := v.le_toInt
    have hhi := v.toInt_lt
    rw [if_pos ⟨by omega, by omega⟩, Int32.ofInt_toInt]

/-- The operator on unbounded integers; division goes toward zero. -/
def Operator.exact : Operator → Int → Int → Int
  | .add, a, b => a + b
  | .sub, a, b => a - b
  | .mul, a, b => a * b
  | .div, a, b => a.tdiv b

/-- The operator between two values, for a node at the given offset. -/
def Operator.apply (op : Operator) (position : Nat) (a b : Int32) : Except EvalError Int32 :=
  if op = .div ∧ b = 0 then .error (.divisionByZero position)
  else
    match fit? (op.exact a.toInt b.toInt) with
    | some v => .ok v
    | none => .error (.overflow a op b position)

/-- The value of a leaf: signed integers as they are, unsigned ones if they are in range. -/
def Token.eval (t : Token) : Except EvalError Int32 :=
  match t.value with
  | some (.int n) => .ok n
  | some (.uint n) =>
    match fit? n.toNat with
    | some v => .ok v
    | none => .error (.outOfRange t.lexeme t.position)
  | some v => .error (.notInteger t.lexeme v.typeName t.position)
  | none => .error (.missingValue t.position)

/-- The value of an expression, or why it has none. -/
def Expr.eval : Expr → Except EvalError Int32
  | .number t => t.eval
  | .node op t _ l r =>
    match l.eval with
    | .error e => .error e
    | .ok a =>
      match r.eval with
      | .error e => .error e
      | .ok b => op.apply t.position a b

end Reckon
