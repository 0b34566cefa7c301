import Reckon.Token.Basic

/-!
# Expression trees

An expression is a number or two expressions joined by one of four operators. The tree keeps
the tokens it was read from, so that every later message can point into the text; a leaf
whose number was missing keeps a placeholder. A node also keeps the depth of the tree below it,
so that a long chain need not be measured again with every operand that joins it.

* `Operator`, `Operator.ofKind?`: the operators and their tokens.
* `Expr`: the tree; `depth`, `nodeCount` and `position` are its measures.
* `Expr.binary`: the node of two operands, with the depth worked out from theirs.
* `Expr.formula`: the expression on one line, in full parentheses.
* `Expr.outline`: one line per node, indented by depth.
-/

namespace Reckon

/-- The operators of an expression. -/
inductive Operator where
  | add | sub | mul | div
  deriving DecidableEq

namespace Operator

/-- The operator's sign. -/
def symbol : Operator → Char
  | .add => '+'
  | .sub => '-'
  | .mul => '*'
  | .div => '/'

/-- The operator that a token of the given kind stands for. -/
def ofKind? : Kind → Option Operator
  | .plus => some .add
  | .minus => some .sub
  | .times => some .mul
  | .slash => some .div
  | _ => none

end Operator

/-- An expression with the tokens it was read from. -/
inductive Expr where
  /-- a number -/
  | number (token : Token)
  /-- two expressions and the operator between them, with the depth of the whole -/
  | node (op : Operator) (token : Token) (depth : Nat) (left right : Expr)
  deriving DecidableEq

namespace Expr

/-- The leaf of a token, if the token is a number. -/
def ofToken? (t : Token) : Option Expr := if t.kind.isNumeric then some (.number t) else none

/-- The depth that a tree keeps; that of a leaf is one. -/
def depth : Expr → Nat
  | .number _ => 1
  | .node _ _ depth _ _ => depth

/-- Two expressions and the operator between them. -/
def binary (op : Operator) (token : Token) (left right : Expr) : Expr :=
  .node op token (1 + max left.depth right.depth) left right

/-- The nodes of a tree. -/
def nodeCount : Expr → Nat
  | .number _ => 1
  | .node _ _ _ l r => 1 + l.nodeCount + r.nodeCount

/-- The offset of a leaf, or of the operator at the root. -/
def position : Expr → Nat
  | .number t => t.position
  | .node _ t _ _ _ => t.position

@[simp] theorem depth_binary (op : Operator) (t : Token) (l r : Expr) :
    (binary op t l r).depth = 1 + max l.depth r.depth := rfl

/-! ## On one line -/

/-- The expression in full parentheses, followed by `rest`. -/
def formulaThen : Expr → Text → Text
  | .number t, rest =>
    match t.value with
    | some v => v.display.toList ++ rest
    | none => '?' :: rest
  | .node op _ _ l r, rest =>
    '(' :: l.formulaThen (' ' :: op.symbol :: ' ' :: r.formulaThen (')' :: rest))

/-- The expression in full parentheses. A leaf without a value is a question mark. -/
def formula (e : Expr) : Text := e.formulaThen []

theorem formulaThen_eq (e : Expr) (rest : Text) : e.formulaThen rest = e.formula ++ rest := by
  induction e generalizing rest with
  | number t =>
    rw [formula, formulaThen, formulaThen]
    split <;> simp
  | node op t d l r ihl ihr =>
    rw [formula, formulaThen, formulaThen, ihl, ihr, ihl (' ' :: _), ihr [')']]
    simp

/-! ## One line per node -/

/-- What a line of the outline says of a node. -/
def label : Expr → String
  | .number t =>
    match t.value with
    | some v => "Number " ++ v.display
    | none => "Number <missing>"
  | .node op _ _ _ _ => "Binary '" ++ String.singleton op.symbol ++ "'"

/-- The lines of a tree at the given depth: a node comes before its operands, and each
level is indented by two spaces. -/
def outlineFrom (depth : Nat) (e : Expr) : List String :=
  (String.ofList (List.replicate (2 * depth) ' ') ++ e.label) ::
    match e with
    | .number _ => []
    | .node _ _ _ l r => l.outlineFrom (depth + 1) ++ r.outlineFrom (depth + 1)

/-- The lines of a tree. -/
def outline (e : Expr) : List String := e.outlineFrom 0

theorem length_outlineFrom (e : Expr) (d : Nat) : (e.outlineFrom d).length = e.nodeCount := by
  induction e generalizing d with
  | number => simp [outlineFrom, nodeCount]
  | node op t depth l r ihl ihr =>
    rw [outlineFrom]
    simp only [List.length_cons, List.length_append, ihl, ihr, nodeCount]
    omega

end Expr

end Reckon
