import Reckon.Proofs.Grammar

/-!
# A parser with a cursor

The parser once more, as a machine that points into a fixed row of tokens. It puts an end of file
behind a row that does not end with one, counts the open parentheses up and down, and writes down
each call that it leaves. Nothing in it says by itself that its loops and calls come to an end, so
it is given some time, and `none` says that the time was too short. Reading outside of the row and
counting below zero is `none` as well, however long the time.

* `Walker`: the row, the position, the open parentheses, and the calls left so far.
* `Walker.read`, `Walker.skipGroup`: the calls.
* `Walker.parse`: a whole run.
-/

namespace Reckon

/-- What is called: the reading of a phrase, or the skipping of a group. -/
inductive Rule where
  /-- read a phrase -/
  | read (phrase : Phrase)
  /-- go past a group in parentheses -/
  | skipGroup
  deriving DecidableEq

/-- A call that has been left. -/
structure Call where
  /-- what was called -/
  rule : Rule
  /-- the position on entry -/
  start : Nat
  /-- the position on return -/
  stop : Nat
  /-- the open parentheses on entry -/
  before : Nat
  /-- the open parentheses on return -/
  after : Nat
  deriving DecidableEq

/-- A parser that points into its tokens. -/
structure Walker where
  /-- all tokens -/
  tokens : List Token
  /-- the index of the next one -/
  position : Nat
  /-- the open parentheses around it -/
  nesting : Nat
  /-- has a depth limit been reported? -/
  tooDeep : Bool
  /-- what happened so far -/
  journal : Journal
  /-- the calls left so far -/
  calls : List Call

/-- The tokens with an end of file behind them, unless they end with one. -/
def withFinalEnd (ts : List Token) : List Token :=
  if ts.getLast?.map Token.kind = some .endOfFile then ts
  else ts ++ [.plain .endOfFile ((ts.getLast?.map Token.stop).getD 0) []]

namespace Walker

/-- Before the first token. -/
def start (ts : List Token) (journal : Journal) : Walker :=
  ⟨withFinalEnd ts, 0, 0, false, journal, []⟩

/-- The next token; past the end it is the last one. -/
def current (w : Walker) : Option Token := w.tokens[min w.position (w.tokens.length - 1)]?

/-- Take the next token and move past it, but not past the last one. -/
def advance (w : Walker) : Option (Token × Walker) := do
  let t ← w.current
  return (t, if w.position < w.tokens.length - 1 then { w with position := w.position + 1 } else w)

/-- Write down an event. -/
def note (w : Walker) (e : Event) : Walker := { w with journal := w.journal.add e }

/-- Report that a depth limit is met, unless one was reported before. -/
def reportTooDeep (limit position : Nat) (w : Walker) : Walker :=
  if w.tooDeep then w
  else
    { (w.note (.tooDeep limit position)).note (.found (.tooDeep limit position)) with
      tooDeep := true }

/-- Take a token of the given kind, or report what is there instead. -/
def expect (kind : Kind) (w : Walker) : Option (Token × Walker) := do
  let t ← w.current
  if t.kind = kind then w.advance
  else return (.placeholder kind t.position, w.note (.found (.unexpected kind t.kind t.position)))

/-- One more parenthesis is open. -/
def enter (w : Walker) : Walker := { w with nesting := w.nesting + 1 }

/-- One parenthesis less is open. -/
def leave (w : Walker) : Option Walker :=
  if w.nesting = 0 then none else some { w with nesting := w.nesting - 1 }

/-- Write down the call that came from `before` to here. -/
def record (w : Walker) (rule : Rule) (before : Walker) : Walker :=
  { w with
    calls := w.calls ++ [⟨rule, before.position, w.position, before.nesting, w.nesting⟩] }

/-- Move past tokens until the group of which `opened` parentheses are open is closed. -/
def skip : (time opened : Nat) → Walker → Option Walker
  | 0, _, _ => none
  | time + 1, opened, w => do
    let t ← w.current
    if t.kind = .endOfFile then return w
    else
      let (t, w) ← w.advance
      if t.kind = .openParen then skip time (opened + 1) w
      else if t.kind = .closeParen then
        if opened - 1 = 0 then return w else skip time (opened - 1) w
      else skip time opened w

/-- Move past the group that opens here. -/
def skipGroup (time : Nat) (w : Walker) : Option Walker := do
  let w' ← w.skip time 0
  return w'.record .skipGroup w

/-- Join two operands, or leave out the right one when the tree would become too deep. -/
def join (op : Operator) (token : Token) (left right : Expr) (w : Walker) : Expr × Walker :=
  if treeLimit ≤ max left.depth right.depth then
    (left, w.reportTooDeep treeLimit token.position)
  else (.binary op token left right, w.note (.joined op))

mutual

/-- Read a phrase and write down the call. -/
def read : (time : Nat) → Phrase → Walker → Option (Expr × Walker)
  | 0, _, _ => none
  | time + 1, p, w => do
    let (e, w') ← follow time p w
    return (e, w'.record (.read p) w)

/-- The grammar. -/
def follow : (time : Nat) → Phrase → Walker → Option (Expr × Walker)
  | 0, _, _ => none
  | time + 1, .primary, w => do
    let t ← w.current
    if t.kind = .openParen then
      if nestingLimit ≤ w.nesting then
        let w' ← (w.reportTooDeep nestingLimit t.position).skipGroup time
        return (.number (.placeholder .intLiteral t.position), w')
      else
        let (_, w₁) ← w.advance
        let (e, w₂) ← read time .expression w₁.enter
        let w₃ ← w₂.leave
        let (_, w₄) ← w₃.expect .closeParen
        return (e, w₄)
    else
      let (t, w') ← w.expect .intLiteral
      return (.number t, w')
  | time + 1, .chain k, w => do
    let (left, w') ← read time k.operand w
    more time k left w'

/-- What follows a first operand: operators of one tightness, each with an operand after it. -/
def more : (time : Nat) → Tightness → Expr → Walker → Option (Expr × Walker)
  | 0, _, _, _ => none
  | time + 1, k, left, w => do
    let t ← w.current
    match k.operator? t.kind with
    | none => return (left, w)
    | some op =>
      let (_, w₁) ← w.advance
      let (right, w₂) ← read time k.operand w₁
      let (e, w₃) := w₂.join op t left right
      more time k e w₃

end

/-- Report a token that follows a whole expression. -/
def reportTrailing (w : Walker) : Option Walker := do
  let t ← w.current
  return if t.kind = .endOfFile then w else w.note (.found (.trailing t.kind t.position))

/-- Read an expression and report what follows it. -/
def parse (time : Nat) (ts : List Token) (journal : Journal) : Option (Expr × Walker) := do
  let (e, w) ← (start ts journal).read time .expression
  let w' ← w.reportTrailing
  return (e, w'.note (.parsed e.nodeCount))

end Walker

end Reckon
