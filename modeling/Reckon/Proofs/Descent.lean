import Mathlib.Data.List.TakeWhile
import Reckon.Proofs.Grammar

/-!
# The descent of the parser

What the theorems about `parse` need of its steps, said once.

* `Phrase.Stops`, `stops_expressionOf`: a chain is read as far as it goes.
* `Invariant`: what has to be checked of the parser's steps so that a property holds of every
  reading. The descent is walked through once, in `Invariant.expression`.
* `Made`: the readings that these steps make. The depth that a tree keeps is its height
  (`Made.depth_eq`), and it is not too high (`Made.height_le`).
* `Cursor.Quiet`, `Cursor.Grows`: faults are never taken back, and the flag of the depth limits is
  raised with a fault only. So a reading without a new fault is made of steps without one.
* `diagnostics_parse`, `parse_tree`: `parse` is the reading of one expression and a look at what
  is left.
-/

namespace Reckon

/-! ## Where a chain ends -/

/-- What follows a phrase does not go on with it: an operator at the front is one that the
phrase has in parentheses only. -/
def Phrase.Stops (p : Phrase) (after : List Token) : Prop :=
  ∀ (t : Token) (rest : List Token) (k : Tightness) (op : Operator), after = t :: rest →
    Joins k t.kind op → p.encloses k = true

theorem Phrase.stops_nil (p : Phrase) : p.Stops [] := by
  intro t rest k op h
  cases h

/-- A primary goes on with nothing. -/
theorem Phrase.stops_primary (after : List Token) : Phrase.primary.Stops after :=
  fun _ _ _ _ _ _ => rfl

/-- Where an operand has ended and no operator of its chain comes, the chain has ended. -/
theorem Phrase.Stops.chain {k : Tightness} {t : Token} {rest : List Token}
    (h : k.operand.Stops (t :: rest)) (hkind : k.operator? t.kind = none) :
    (Phrase.chain k).Stops (t :: rest) := by
  rintro t' rest' k' op hcons hop
  have hencloses := h t' rest' k' op hcons hop
  obtain ⟨rfl, rfl⟩ := List.cons.inj hcons
  have hne : k' ≠ k := by
    rintro rfl
    rw [Tightness.operator?_eq_some_iff.2 hop] at hkind
    cases hkind
  cases k <;> cases k' <;> simp_all [Phrase.encloses, Tightness.operand]

/-- A chain goes on with fewer tokens. -/
theorem Reading.length_join_lt {origin : Cursor} {left : Reading origin} {t : Token}
    {rest : List Token} (hrest : left.next.rest = t :: rest) (op : Operator)
    (right : Reading (left.next.jump rest)) (h : (left.next.jump rest).rest <:+ origin.rest) :
    (left.join op t right h).next.rest.length < left.next.rest.length := by
  have := right.forward.length_le
  rw [Reading.rest_join, hrest]
  simp only [Cursor.rest_jump, List.length_cons] at this ⊢
  omega

/-- Whatever a chain reads, it goes on as long as it can. -/
theorem stops_chain {k : Tightness} {operand : (c : Cursor) → Reading c}
    (hop : ∀ c, k.operand.Stops (operand c).next.rest) {origin : Cursor} (left : Reading origin)
    (hleft : k.operand.Stops left.next.rest) :
    (Phrase.chain k).Stops (chain k operand left).next.rest := by
  match hrest : left.next.rest with
  | [] =>
    rw [chain_of_nil hrest, hrest]
    exact Phrase.stops_nil _
  | t :: rest =>
    rcases hkind : k.operator? t.kind with _ | op
    · rw [chain_of_none hrest hkind, hrest]
      rw [hrest] at hleft
      exact hleft.chain hkind
    · rw [chain_of_some hrest hkind]
      have hjoin := Reading.rest_join op t left (operand (left.next.jump rest))
        ((hrest ▸ List.suffix_cons t rest : rest <:+ left.next.rest).trans left.forward)
      exact stops_chain hop _ (hjoin ▸ hop _)
termination_by left.next.rest.length
decreasing_by exact Reading.length_join_lt hrest _ _ _

/-- After an expression comes no operator. -/
theorem stops_expressionOf (reader : (c : Cursor) → Reading c) (c : Cursor) :
    Phrase.expression.Stops (expressionOf reader c).next.rest := by
  have hterm : ∀ c, Phrase.term.Stops (termOf reader c).next.rest := fun c =>
    stops_chain (k := .products) (fun _ => Phrase.stops_primary _) _ (Phrase.stops_primary _)
  exact stops_chain (k := .sums) hterm _ (hterm c)

/-! ## Properties of every reading -/

theorem Cursor.kind_of_nil {c : Cursor} (h : c.rest = []) : c.kind = .endOfFile := by
  rw [kind, h]

theorem Cursor.kind_of_cons {c : Cursor} {t : Token} {rest : List Token} (h : c.rest = t :: rest) :
    c.kind = t.kind := by
  rw [kind, h]

/-- What keeps a property of readings true along the parser's steps. The property may speak
about the phrase that is read and about the parentheses that may still be opened. A number is
missing only where neither a number nor a parenthesis comes, and the inside of a group is read as
far as it goes. -/
structure Invariant (endAt : Nat) (P : Phrase → Nat → (c : Cursor) → Reading c → Prop) :
    Prop where
  /-- no number where one had to come -/
  missing : ∀ (room : Nat) (c : Cursor), c.kind ≠ .openParen → c.kind ≠ .intLiteral →
    P .primary room c (missing endAt c)
  /-- a number -/
  leaf : ∀ (room : Nat) (c : Cursor) (t : Token) (rest : List Token) (h : c.rest = t :: rest),
    t.kind = .intLiteral → P .primary room c (leaf c t rest h)
  /-- a group beyond the limit -/
  refused : ∀ (c : Cursor) (t : Token) (rest : List Token), c.rest = t :: rest →
    t.kind = .openParen → P .primary 0 c (refused c t)
  /-- a group -/
  group : ∀ (room : Nat) (c : Cursor) (t : Token) (rest : List Token) (h : c.rest = t :: rest)
    (inside : (c : Cursor) → Reading c), t.kind = .openParen →
    Phrase.expression.Stops (inside (c.jump rest)).next.rest →
    P .expression room (c.jump rest) (inside (c.jump rest)) →
    P .primary (room + 1) c (group endAt c t rest h inside)
  /-- a chain of one operand -/
  single : ∀ (k : Tightness) (room : Nat) (c : Cursor) (r : Reading c),
    P k.operand room c r → P (.chain k) room c r
  /-- one more operator and operand -/
  join : ∀ (k : Tightness) (room : Nat) (origin : Cursor) (left : Reading origin) (op : Operator)
    (t : Token) (rest : List Token) (right : Reading (left.next.jump rest))
    (h : (left.next.jump rest).rest <:+ origin.rest), left.next.rest = t :: rest →
    Joins k t.kind op → P (.chain k) room origin left →
    P k.operand room (left.next.jump rest) right →
    P (.chain k) room origin (left.join op t right h)

namespace Invariant

variable {endAt : Nat} {P : Phrase → Nat → (c : Cursor) → Reading c → Prop}

/-- The loop of a chain keeps the property of what it has read so far. -/
theorem chain_of_left (hP : Invariant endAt P) {k : Tightness} {room : Nat}
    {operand : (c : Cursor) → Reading c} (hop : ∀ c, P k.operand room c (operand c))
    {origin : Cursor} (left : Reading origin) (hleft : P (.chain k) room origin left) :
    P (.chain k) room origin (chain k operand left) := by
  match hrest : left.next.rest with
  | [] =>
    rw [chain_of_nil hrest]
    exact hleft
  | t :: rest =>
    rcases hkind : k.operator? t.kind with _ | op
    · rw [chain_of_none hrest hkind]
      exact hleft
    · rw [chain_of_some hrest hkind]
      exact hP.chain_of_left hop _ (hP.join k room origin left op t rest _ _ hrest
        (Tightness.operator?_eq_some_iff.1 hkind) hleft (hop _))
termination_by left.next.rest.length
decreasing_by exact Reading.length_join_lt hrest _ _ _

theorem chain (hP : Invariant endAt P) {k : Tightness} {room : Nat}
    {operand : (c : Cursor) → Reading c} (hop : ∀ c, P k.operand room c (operand c))
    (c : Cursor) : P (.chain k) room c (Reckon.chain k operand (operand c)) :=
  hP.chain_of_left hop _ (hP.single k room c _ (hop c))

theorem expressionOf (hP : Invariant endAt P) {room : Nat}
    {operand : (c : Cursor) → Reading c} (hop : ∀ c, P .primary room c (operand c))
    (c : Cursor) : P .expression room c (expressionOf operand c) :=
  hP.chain (k := .sums) (fun c => hP.chain (k := .products) hop c) c

theorem primary (hP : Invariant endAt P) (room : Nat) (c : Cursor) :
    P .primary room c (primary endAt room c) := by
  induction room generalizing c with
  | zero =>
    rw [Reckon.primary]
    split
    · exact hP.missing 0 c (by simp [Cursor.kind_of_nil ‹_›]) (by simp [Cursor.kind_of_nil ‹_›])
    · rename_i t rest h
      split
      · exact hP.refused c t rest h ‹_›
      split
      · exact hP.leaf 0 c t rest h ‹_›
      · exact hP.missing 0 c (by rwa [Cursor.kind_of_cons h]) (by rwa [Cursor.kind_of_cons h])
  | succ room ih =>
    rw [Reckon.primary]
    split
    · exact hP.missing _ c (by simp [Cursor.kind_of_nil ‹_›]) (by simp [Cursor.kind_of_nil ‹_›])
    · rename_i t rest h
      split
      · exact hP.group room c t rest h _ ‹_› (stops_expressionOf _ _) (hP.expressionOf ih _)
      split
      · exact hP.leaf _ c t rest h ‹_›
      · exact hP.missing _ c (by rwa [Cursor.kind_of_cons h]) (by rwa [Cursor.kind_of_cons h])

/-- A property that every step keeps holds of the reading of a whole expression. -/
theorem expression (hP : Invariant endAt P) (room : Nat) (c : Cursor) :
    P .expression room c (expression endAt room c) :=
  hP.expressionOf (hP.primary room) c

end Invariant

/-! ## The steps -/

/-- The readings that the parser makes, each from those before it. -/
inductive Made (endAt : Nat) : {c : Cursor} → Reading c → Prop
  /-- no number where one had to come -/
  | missing (c : Cursor) : Made endAt (missing endAt c)
  /-- a number -/
  | leaf {c : Cursor} {t : Token} {rest : List Token} (h : c.rest = t :: rest)
      (ht : t.kind = .intLiteral) : Made endAt (leaf c t rest h)
  /-- a group beyond the limit -/
  | refused {c : Cursor} {t : Token} {rest : List Token} (h : c.rest = t :: rest)
      (ht : t.kind = .openParen) : Made endAt (refused c t)
  /-- a group -/
  | group {c : Cursor} {t : Token} {rest : List Token} (h : c.rest = t :: rest)
      {inside : (c : Cursor) → Reading c} (ht : t.kind = .openParen)
      (hin : Made endAt (inside (c.jump rest))) : Made endAt (group endAt c t rest h inside)
  /-- two operands with an operator between them -/
  | join {k : Tightness} {origin : Cursor} {left : Reading origin} {op : Operator} {t : Token}
      {rest : List Token} {right : Reading (left.next.jump rest)}
      (h : (left.next.jump rest).rest <:+ origin.rest) (hrest : left.next.rest = t :: rest)
      (hop : Joins k t.kind op) (hleft : Made endAt left) (hright : Made endAt right) :
      Made endAt (left.join op t right h)

theorem made_invariant (endAt : Nat) : Invariant endAt (fun _ _ _ r => Made endAt r) where
  missing _ c _ _ := .missing c
  leaf _ _ _ _ h ht := .leaf h ht
  refused _ _ _ h ht := .refused h ht
  group _ _ _ _ h _ ht _ hin := .group h ht hin
  single _ _ _ _ hr := hr
  join _ _ _ _ _ _ _ _ h hrest hop hleft hright := .join h hrest hop hleft hright

/-- The parser makes an expression by these steps. -/
theorem made_expression (endAt room : Nat) (c : Cursor) : Made endAt (expression endAt room c) :=
  (made_invariant endAt).expression room c

theorem Expr.height_number_le (t : Token) : (Expr.number t).height ≤ treeLimit := by
  simp [treeLimit]

namespace Made

variable {endAt : Nat} {c : Cursor} {r : Reading c}

/-- The depth that a tree keeps is its height. -/
theorem depth_eq (h : Made endAt r) : r.expr.depth = r.expr.height := by
  induction h with
  | missing | leaf | refused => rfl
  | group _ _ _ ih => exact ih
  | join _ _ _ _ _ ihl ihr =>
    rw [Reading.join]
    split
    · exact ihl
    · rw [Expr.depth_binary, Expr.height_binary, ihl, ihr]

/-- No tree is too high: a join that would make one keeps its left operand. -/
theorem height_le (h : Made endAt r) : r.expr.height ≤ treeLimit := by
  induction h with
  | missing | leaf | refused => exact Expr.height_number_le _
  | group _ _ _ ih => exact ih
  | join _ _ _ hleft hright ihl _ =>
    rw [Reading.join]
    split
    · exact ihl
    · rename_i hlt
      rw [hleft.depth_eq, hright.depth_eq] at hlt
      rw [Expr.height_binary]
      omega

end Made

/-! The branches of `primary`, which matches on the tokens with the equation that it hands on. -/

theorem primary_of_nil {endAt room : Nat} {c : Cursor} (h : c.rest = []) :
    primary endAt room c = missing endAt c := by
  rw [primary]
  split
  · rfl
  · rename_i h'
    rw [h] at h'
    cases h'

theorem primary_of_cons {endAt room : Nat} {c : Cursor} {t : Token} {rest : List Token}
    (h : c.rest = t :: rest) :
    primary endAt room c =
      if t.kind = .openParen then
        match room with
        | 0 => refused c t
        | room + 1 => group endAt c t rest h (expressionOf (primary endAt room))
      else if t.kind = .intLiteral then leaf c t rest h
      else missing endAt c := by
  rw [primary]
  split
  · rename_i h'
    rw [h] at h'
    cases h'
  · rename_i h'
    obtain ⟨rfl, rfl⟩ := List.cons.inj (h.symm.trans h')
    rfl

/-- A number is read as a leaf. -/
theorem primary_of_literal {endAt room : Nat} {c : Cursor} {t : Token} {rest : List Token}
    (h : c.rest = t :: rest) (ht : t.kind = .intLiteral) :
    primary endAt room c = leaf c t rest h := by
  rw [primary_of_cons h, if_neg (by rw [ht]; decide), if_pos ht]

/-- A parenthesis is read as a group while there is room. -/
theorem primary_of_open {endAt room : Nat} {c : Cursor} {t : Token} {rest : List Token}
    (h : c.rest = t :: rest) (ht : t.kind = .openParen) :
    primary endAt (room + 1) c = group endAt c t rest h (expressionOf (primary endAt room)) := by
  rw [primary_of_cons h, if_pos ht]

/-- A parenthesis is refused when there is none. -/
theorem primary_of_refused {endAt : Nat} {c : Cursor} {t : Token} {rest : List Token}
    (h : c.rest = t :: rest) (ht : t.kind = .openParen) : primary endAt 0 c = refused c t := by
  rw [primary_of_cons h, if_pos ht]

/-- Where neither a number nor a parenthesis comes, a number is missing. -/
theorem primary_of_missing {endAt room : Nat} {c : Cursor} (hopen : c.kind ≠ .openParen)
    (hint : c.kind ≠ .intLiteral) : primary endAt room c = missing endAt c := by
  match hrest : c.rest with
  | [] => exact primary_of_nil hrest
  | t :: rest =>
    rw [Cursor.kind_of_cons hrest] at hopen hint
    rw [primary_of_cons hrest, if_neg hopen, if_neg hint]

/-! ## Faults stay -/

namespace Cursor

/-- The faults written down so far. -/
def faults (c : Cursor) : List Diagnostic := c.journal.diagnostics

/-- From `c` to `c'` no fault was found. -/
structure Quiet (c c' : Cursor) : Prop where
  /-- no fault was written down -/
  faults : c'.faults = c.faults
  /-- no depth limit was met -/
  tooDeep : c'.tooDeep = c.tooDeep

/-- What the parser does to what is written down: if anything at all, it adds faults. -/
def Grows (c c' : Cursor) : Prop := c.Quiet c' ∨ c.faults.length < c'.faults.length

theorem Quiet.refl (c : Cursor) : c.Quiet c := ⟨rfl, rfl⟩

theorem Quiet.trans {a b c : Cursor} (h : a.Quiet b) (h' : b.Quiet c) : a.Quiet c :=
  ⟨h'.faults.trans h.faults, h'.tooDeep.trans h.tooDeep⟩

theorem Quiet.grows {c c' : Cursor} (h : c.Quiet c') : c.Grows c' := .inl h

theorem Grows.length_le {c c' : Cursor} (h : c.Grows c') :
    c.faults.length ≤ c'.faults.length := by
  rcases h with h | h
  · exact Nat.le_of_eq (congrArg List.length h.faults.symm)
  · exact Nat.le_of_lt h

/-- Without a new fault nothing has changed. -/
theorem Grows.quiet {c c' : Cursor} (h : c.Grows c') (hf : c'.faults = c.faults) : c.Quiet c' := by
  rcases h with h | h
  · exact h
  · rw [hf] at h
    exact absurd h (Nat.lt_irrefl _)

theorem Grows.trans {a b c : Cursor} (h : a.Grows b) (h' : b.Grows c) : a.Grows c := by
  have hle := h.length_le
  rcases h' with h' | h'
  · rcases h with h | h
    · exact .inl (h.trans h')
    · exact .inr (by rwa [h'.faults])
  · exact .inr (by omega)

/-- A stretch without a new fault is made of two such stretches. -/
theorem Grows.split {a b c : Cursor} (h : a.Grows b) (h' : b.Grows c)
    (hf : c.faults = a.faults) : a.Quiet b ∧ b.Quiet c := by
  have hle := h.length_le
  have hle' := h'.length_le
  rcases h with h | h
  · exact ⟨h, h'.quiet (hf.trans h.faults.symm)⟩
  · rw [hf] at hle'
    omega

theorem quiet_jump (c : Cursor) (rest : List Token) : c.Quiet (c.jump rest) := ⟨rfl, rfl⟩

@[simp] theorem faults_note (c : Cursor) (e : Event) :
    (c.note e).faults = c.faults ++ e.fault?.toList :=
  Journal.diagnostics_add c.journal e

theorem quiet_joined (c : Cursor) (op : Operator) : c.Quiet (c.note (.joined op)) :=
  ⟨by simp [Event.fault?], rfl⟩

theorem length_faults_reportUnexpected (endAt : Nat) (k : Kind) (c : Cursor) :
    (c.reportUnexpected endAt k).faults.length = c.faults.length + 1 := by
  simp [reportUnexpected, Event.fault?]

/-- Meeting a limit is quiet only if it was met before. -/
theorem grows_reportTooDeep (limit position : Nat) (c : Cursor) :
    c.Grows (c.reportTooDeep limit position) := by
  rw [reportTooDeep]
  split
  · exact .inl (.refl c)
  · refine .inr ?_
    change c.faults.length <
      ((c.note (.tooDeep limit position)).note (.found (.tooDeep limit position))).faults.length
    simp [Event.fault?]

theorem not_quiet_reportTooDeep {c : Cursor} (h : c.tooDeep = false) (limit position : Nat) :
    ¬ c.Quiet (c.reportTooDeep limit position) := by
  intro hq
  have htrue : (c.reportTooDeep limit position).tooDeep = true := by
    simp [reportTooDeep, h]
  rw [hq.tooDeep, h] at htrue
  cases htrue

end Cursor

/-- The closing parenthesis is there, or its absence is reported. -/
theorem closed_eq (endAt : Nat) (c : Cursor) :
    (∃ t rest, c.rest = t :: rest ∧ t.kind = .closeParen ∧ closed endAt c = c.jump rest) ∨
      c.kind ≠ .closeParen ∧ closed endAt c = c.reportUnexpected endAt .closeParen := by
  rw [closed]
  split
  · rename_i h
    exact .inr ⟨by simp [Cursor.kind_of_nil h], rfl⟩
  · rename_i t rest h
    split
    · exact .inl ⟨t, rest, h, ‹_›, rfl⟩
    · exact .inr ⟨by rwa [Cursor.kind_of_cons h], rfl⟩

theorem closed_cases (endAt : Nat) (c : Cursor) :
    (∃ t rest, c.rest = t :: rest ∧ t.kind = .closeParen ∧ closed endAt c = c.jump rest) ∨
      c.faults.length < (closed endAt c).faults.length := by
  rcases closed_eq endAt c with h | ⟨-, h⟩
  · exact .inl h
  · exact .inr (by rw [h, Cursor.length_faults_reportUnexpected]; omega)

theorem closed_of_close {endAt : Nat} {c : Cursor} {t : Token} {rest : List Token}
    (h : c.rest = t :: rest) (ht : t.kind = .closeParen) : closed endAt c = c.jump rest := by
  simp [closed, h, ht]

theorem grows_closed (endAt : Nat) (c : Cursor) : c.Grows (closed endAt c) := by
  rcases closed_cases endAt c with ⟨t, rest, -, -, h⟩ | h
  · rw [h]
    exact (c.quiet_jump rest).grows
  · exact .inr h

/-- Past the limit on trees the limit is reported. -/
theorem Reading.next_join_of_le {origin c : Cursor} {op : Operator} {t : Token}
    {left : Reading origin} {right : Reading c} {h : c.rest <:+ origin.rest}
    (hle : treeLimit ≤ max left.expr.depth right.expr.depth) :
    (left.join op t right h).next = right.next.reportTooDeep treeLimit t.position := by
  rw [Reading.join, if_pos hle]

theorem Reading.grows_join {origin c : Cursor} (op : Operator) (t : Token)
    (left : Reading origin) (right : Reading c) (h : c.rest <:+ origin.rest) :
    right.next.Grows (left.join op t right h).next := by
  rw [Reading.join]
  split
  · exact right.next.grows_reportTooDeep _ _
  · exact (right.next.quiet_joined op).grows

/-! ## All tokens -/

/-- Tokens after the expression are reported. -/
theorem length_faults_reportTrailing {c : Cursor} (h : c.rest ≠ []) :
    (reportTrailing c).faults.length = c.faults.length + 1 := by
  rw [reportTrailing]
  split
  · contradiction
  · simp [Event.fault?]

theorem reportTrailing_of_nil {c : Cursor} (h : c.rest = []) : reportTrailing c = c := by
  simp [reportTrailing, h]

theorem grows_reportTrailing (c : Cursor) : c.Grows (reportTrailing c) := by
  by_cases h : c.rest = []
  · rw [reportTrailing_of_nil h]
    exact (Cursor.Quiet.refl c).grows
  · exact .inr (by rw [length_faults_reportTrailing h]; omega)

/-- The cursor before the first token. -/
def startOf (ts : List Token) (journal : Journal) : Cursor := ⟨body ts, false, journal⟩

/-- The faults that a parse leaves are those after the last step. -/
theorem diagnostics_parse (ts : List Token) (journal : Journal) :
    (parse ts journal).2.diagnostics =
      (reportTrailing (expression (endOf ts) nestingLimit (startOf ts journal)).next).faults := by
  simp [parse, startOf, Cursor.faults, Event.fault?]

theorem parse_tree (ts : List Token) (journal : Journal) :
    (parse ts journal).1 = (expression (endOf ts) nestingLimit (startOf ts journal)).expr := rfl

theorem body_eq_self {ts : List Token} (h : ∀ t ∈ ts, t.kind ≠ .endOfFile) : body ts = ts := by
  rw [body, List.takeWhile_eq_self_iff]
  intro t ht
  simpa using h t ht

end Reckon
