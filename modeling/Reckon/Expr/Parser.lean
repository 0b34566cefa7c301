import Reckon.Journal

/-!
# Reading an expression from tokens

Recursive descent over

    expression := term (('+' | '-') term)*
    term       := primary (('*' | '/') primary)*
    primary    := '(' expression ')' | int literal

with operators joined from the left. The parser always returns a tree: where a number is
missing it puts a placeholder, and where a parenthesis is missing it goes on without it.
Two limits keep trees small, one on open parentheses and one on the depth of the tree; the
first time that one is met it is reported, and later silently obeyed.

* `Cursor`: the tokens that are left, and what is written down so far.
* `Reading c`: an expression read from the cursor `c`, with the cursor after it. The rest of
  the tokens is a suffix of what was there, so reading never goes back.
* `chain`: operands with operators between them.
* `primary`, `term`, `expression`: the grammar. They take the number of parentheses that may
  still be opened.
* `parse`: all tokens, up to an end of file among them.
-/

namespace Reckon

/-- At most so many parentheses are open at once. -/
def nestingLimit : Nat := 256

/-- No tree is deeper. -/
def treeLimit : Nat := 1024

/-! ## The cursor -/

/-- A place among the tokens. -/
structure Cursor where
  /-- the tokens that are left -/
  rest : List Token
  /-- has a depth limit been reported? -/
  tooDeep : Bool
  /-- what happened so far -/
  journal : Journal
  deriving DecidableEq

namespace Cursor

/-- The kind of the next token; after the last one comes the end of file. -/
def kind (c : Cursor) : Kind :=
  match c.rest with
  | [] => .endOfFile
  | t :: _ => t.kind

/-- The offset of the next token; that of the end of file is given. -/
def position (endAt : Nat) (c : Cursor) : Nat :=
  match c.rest with
  | [] => endAt
  | t :: _ => t.position

/-- The cursor at other tokens. -/
def jump (c : Cursor) (rest : List Token) : Cursor := { c with rest }

/-- Write down an event. -/
def note (c : Cursor) (e : Event) : Cursor := { c with journal := c.journal.add e }

/-- Report that the next token is not of the kind that had to come. -/
def reportUnexpected (endAt : Nat) (expected : Kind) (c : Cursor) : Cursor :=
  c.note (.found (.unexpected expected c.kind (c.position endAt)))

/-- Report that a depth limit is met, unless one was reported before. -/
def reportTooDeep (limit position : Nat) (c : Cursor) : Cursor :=
  if c.tooDeep then c
  else
    { (c.note (.tooDeep limit position)).note (.found (.tooDeep limit position)) with
      tooDeep := true }

@[simp] theorem rest_jump (c : Cursor) (rest : List Token) : (c.jump rest).rest = rest := rfl

@[simp] theorem rest_note (c : Cursor) (e : Event) : (c.note e).rest = c.rest := rfl

@[simp] theorem rest_reportUnexpected (endAt : Nat) (k : Kind) (c : Cursor) :
    (c.reportUnexpected endAt k).rest = c.rest := rfl

@[simp] theorem rest_reportTooDeep (limit position : Nat) (c : Cursor) :
    (c.reportTooDeep limit position).rest = c.rest := by
  unfold reportTooDeep
  split <;> rfl

end Cursor

/-- An expression read from the cursor `c`. -/
structure Reading (c : Cursor) where
  /-- the expression -/
  expr : Expr
  /-- the place after it -/
  next : Cursor
  /-- reading only moves forward -/
  forward : next.rest <:+ c.rest

/-! ## Chains of operands -/

/-- The operators that bind as tightly as the given one. -/
inductive Tightness where
  /-- `+` and `-` -/
  | sums
  /-- `*` and `/` -/
  | products
  deriving DecidableEq

/-- The operator of a token, if it is one of the given tightness. -/
def Tightness.operator? : Tightness → Kind → Option Operator
  | .sums, .plus => some .add
  | .sums, .minus => some .sub
  | .products, .times => some .mul
  | .products, .slash => some .div
  | _, _ => none

/-- Join two operands. When the tree would become deeper than allowed, the right one is left
out. -/
def Reading.join {origin c : Cursor} (op : Operator) (token : Token) (left : Reading origin)
    (right : Reading c) (h : c.rest <:+ origin.rest) : Reading origin :=
  if treeLimit ≤ max left.expr.depth right.expr.depth then
    { expr := left.expr
      next := right.next.reportTooDeep treeLimit token.position
      forward := by
        rw [Cursor.rest_reportTooDeep]
        exact right.forward.trans h }
  else
    { expr := .binary op token left.expr right.expr
      next := right.next.note (.joined op)
      forward := right.forward.trans h }

/-- The place after two joined operands is the place after the right one. -/
theorem Reading.rest_join {origin c : Cursor} (op : Operator) (token : Token)
    (left : Reading origin) (right : Reading c) (h : c.rest <:+ origin.rest) :
    (left.join op token right h).next.rest = right.next.rest := by
  unfold Reading.join
  split <;> simp

/-- What follows a first operand: operators of one tightness, each with an operand after it. -/
def chain (tightness : Tightness) (operand : (c : Cursor) → Reading c) {origin : Cursor}
    (left : Reading origin) : Reading origin :=
  match hrest : left.next.rest with
  | [] => left
  | t :: rest =>
    match tightness.operator? t.kind with
    | none => left
    | some op =>
      let c := left.next.jump rest
      have h : c.rest <:+ origin.rest :=
        (hrest ▸ List.suffix_cons t rest : rest <:+ left.next.rest).trans left.forward
      chain tightness operand (left.join op t (operand c) h)
termination_by left.next.rest.length
decreasing_by
  rw [Reading.rest_join]
  have := (operand (left.next.jump rest)).forward.length_le
  rw [hrest]
  simp only [Cursor.rest_jump, List.length_cons] at this ⊢
  omega

/-! `chain` is defined by well-founded recursion; these are its equations. -/

section Chain

variable {tightness : Tightness} {operand : (c : Cursor) → Reading c} {origin : Cursor}

/-- A chain ends with the tokens. -/
theorem chain_of_nil {left : Reading origin} (h : left.next.rest = []) :
    chain tightness operand left = left := by
  rw [chain]
  split
  · rfl
  · rename_i h'
    rw [h] at h'
    cases h'

/-- A chain ends before a token that is no operator of its tightness. -/
theorem chain_of_none {left : Reading origin} {t : Token} {rest : List Token}
    (h : left.next.rest = t :: rest) (hop : tightness.operator? t.kind = none) :
    chain tightness operand left = left := by
  rw [chain]
  split
  · rfl
  · rename_i h'
    rw [h] at h'
    cases h'
    rw [hop]

/-- An operator of its tightness continues a chain. -/
theorem chain_of_some {left : Reading origin} {t : Token} {rest : List Token} {op : Operator}
    (h : left.next.rest = t :: rest) (hop : tightness.operator? t.kind = some op) :
    chain tightness operand left =
      chain tightness operand
        (left.join op t (operand (left.next.jump rest))
          ((h ▸ List.suffix_cons t rest : rest <:+ left.next.rest).trans left.forward)) := by
  conv => lhs; rw [chain]
  split
  · rename_i h'
    rw [h] at h'
    cases h'
  · rename_i h'
    rw [h] at h'
    cases h'
    rw [hop]

end Chain

/-! ## The grammar -/

/-- The tokens after a group in parentheses of which `depth` are open; all of them are gone
if the group is not closed. -/
def skipGroup (depth : Nat) : List Token → List Token
  | [] => []
  | t :: rest =>
    if t.kind = .openParen then skipGroup (depth + 1) rest
    else if t.kind = .closeParen then
      if depth ≤ 1 then rest else skipGroup (depth - 1) rest
    else skipGroup depth rest

theorem skipGroup_suffix (depth : Nat) (ts : List Token) : skipGroup depth ts <:+ ts := by
  induction ts generalizing depth with
  | nil => exact List.suffix_refl _
  | cons t rest ih =>
    rw [skipGroup]
    have hcons : rest <:+ t :: rest := List.suffix_cons t rest
    split
    · exact (ih _).trans hcons
    split
    · split
      · exact hcons
      · exact (ih _).trans hcons
    · exact (ih _).trans hcons

section Grammar

variable (endAt : Nat)

/-- No number where one had to come: a placeholder takes its place. -/
def missing (c : Cursor) : Reading c where
  expr := .number (.placeholder .intLiteral (c.position endAt))
  next := c.reportUnexpected endAt .intLiteral
  forward := List.suffix_refl _

/-- A number. -/
def leaf (c : Cursor) (t : Token) (rest : List Token) (h : c.rest = t :: rest) : Reading c where
  expr := .number t
  next := c.jump rest
  forward := h ▸ List.suffix_cons t rest

/-- A group that would open too many parentheses: it is skipped, and a placeholder takes its
place. -/
def refused (c : Cursor) (t : Token) : Reading c where
  expr := .number (.placeholder .intLiteral t.position)
  next := (c.reportTooDeep nestingLimit t.position).jump (skipGroup 0 c.rest)
  forward := skipGroup_suffix 0 c.rest

/-- The place after the closing parenthesis of a group; if it is missing, reading goes on
without it. -/
def closed (c : Cursor) : Cursor :=
  match c.rest with
  | [] => c.reportUnexpected endAt .closeParen
  | t :: rest =>
    if t.kind = .closeParen then c.jump rest else c.reportUnexpected endAt .closeParen

theorem rest_closed_suffix (c : Cursor) : (closed endAt c).rest <:+ c.rest := by
  unfold closed
  split
  · exact List.suffix_refl _
  · rename_i t rest h
    split
    · exact h ▸ List.suffix_cons t rest
    · exact List.suffix_refl _

/-- A group in parentheses with the given inside. -/
def group (c : Cursor) (t : Token) (rest : List Token) (h : c.rest = t :: rest)
    (inside : (c : Cursor) → Reading c) : Reading c :=
  let r := inside (c.jump rest)
  { expr := r.expr
    next := closed endAt r.next
    forward := (rest_closed_suffix endAt r.next).trans
      (r.forward.trans (h ▸ List.suffix_cons t rest)) }

/-- Operands of sums, from a reader of primaries. -/
def termOf (primary : (c : Cursor) → Reading c) (c : Cursor) : Reading c :=
  chain .products primary (primary c)

/-- Whole expressions, from a reader of primaries. -/
def expressionOf (primary : (c : Cursor) → Reading c) (c : Cursor) : Reading c :=
  chain .sums (termOf primary) (termOf primary c)

/-- A number, or a group if `room` allows one more open parenthesis. -/
def primary : (room : Nat) → (c : Cursor) → Reading c
  | room, c =>
    match h : c.rest with
    | [] => missing endAt c
    | t :: rest =>
      if t.kind = .openParen then
        match room with
        | 0 => refused c t
        | room + 1 => group endAt c t rest h (expressionOf (primary room))
      else if t.kind = .intLiteral then leaf c t rest h
      else missing endAt c

/-- An operand of a sum. -/
def term (room : Nat) (c : Cursor) : Reading c := termOf (primary endAt room) c

/-- An expression. -/
def expression (room : Nat) (c : Cursor) : Reading c := expressionOf (primary endAt room) c

end Grammar

/-! ## All tokens -/

/-- The tokens before the first end of file. -/
def body (ts : List Token) : List Token := ts.takeWhile fun t => t.kind ≠ .endOfFile

/-- The offset of the end of file: that of the first such token, or else the offset after the
last token. -/
def endOf (ts : List Token) : Nat :=
  match ts.find? fun t => t.kind = .endOfFile with
  | some t => t.position
  | none => (ts.getLast?.map Token.stop).getD 0

/-- Report a token that follows a whole expression. -/
def reportTrailing (c : Cursor) : Cursor :=
  match c.rest with
  | [] => c
  | t :: _ => c.note (.found (.trailing t.kind t.position))

/-- The expression of a list of tokens, and the journal with what was written down. -/
def parse (ts : List Token) (journal : Journal) : Expr × Journal :=
  let r := expression (endOf ts) nestingLimit ⟨body ts, false, journal⟩
  let c := reportTrailing r.next
  (r.expr, c.journal.add (.parsed r.expr.nodeCount))

end Reckon
