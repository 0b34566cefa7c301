import Reckon.Proofs.Bounds
import Reckon.Proofs.Parsing

/-!
# The first fault shows at the earliest token

A row of tokens can be an expression's beginning up to some token and with that token no more. This
is the token at which the parser reports its first fault, unless that is about a depth limit.

* `Viable`: a row that some tokens after it make an expression.
* `Place`: what may come next in a row that is read from the left. A phrase leads from where an
  operand has to come to where one has ended (`Derives.walk`), so a row that leads nowhere is the
  beginning of no expression (`not_viable_of_walk`).
* `Stuck`: the beginning of a phrase, with tokens after it that it cannot go on with.
* `Blaming`: what a reading without the flag has come to, a phrase or the first fault. One lemma
  for each step, and `blaming_invariant` for the descent.
* `parse_blames_earliest`: **the first fault is at the earliest token**.
-/

namespace Reckon

/-- The row is the beginning of an expression. -/
def Viable (ts : List Token) : Prop := ∃ more e, Derives .expression (ts ++ more) e

/-! ## Reading a row from the left -/

/-- What has to come next, with the number of parentheses that are open. -/
inductive Place where
  /-- a number or a parenthesis that opens -/
  | operand (opened : Nat)
  /-- an operator or a parenthesis that closes; an operand has just ended -/
  | operator (opened : Nat)
  deriving DecidableEq

/-- Every operator has a tightness. -/
theorem Operator.exists_tightness {kind : Kind} {op : Operator} (h : ofKind? kind = some op) :
    ∃ k, Joins k kind op := by
  unfold ofKind? at h
  split at h <;> cases h
  · exact ⟨_, .plus⟩
  · exact ⟨_, .minus⟩
  · exact ⟨_, .times⟩
  · exact ⟨_, .slash⟩

namespace Place

/-- The place after a token, if the token may come. -/
def step : Place → Kind → Option Place
  | .operand n, kind =>
    if kind = .intLiteral then some (.operator n)
    else if kind = .openParen then some (.operand (n + 1))
    else none
  | .operator n, kind =>
    if kind = .closeParen then if n = 0 then none else some (.operator (n - 1))
    else (Operator.ofKind? kind).map fun _ => .operand n

/-- The place after a row of tokens, if they may come. -/
def walk (p : Place) : List Token → Option Place
  | [] => some p
  | t :: ts => (p.step t.kind).bind fun q => q.walk ts

theorem walk_append (p : Place) (xs ys : List Token) :
    p.walk (xs ++ ys) = (p.walk xs).bind fun q => q.walk ys := by
  induction xs generalizing p with
  | nil => rfl
  | cons t xs ih =>
    rw [List.cons_append, walk, walk]
    cases p.step t.kind with
    | none => rfl
    | some q => exact ih q

theorem walk_open {t : Token} (ht : t.kind = .openParen) (n : Nat) (ts : List Token) :
    (operand n).walk (t :: ts) = (operand (n + 1)).walk ts := by
  simp [walk, step, ht]

theorem walk_operator {k : Tightness} {t : Token} {op : Operator}
    (ht : Joins k t.kind op) (n : Nat) (ts : List Token) :
    (operator n).walk (t :: ts) = (operand n).walk ts := by
  obtain ⟨-, -, hclose⟩ := ht.ne
  simp [walk, step, hclose, ht.ofKind?]

/-- The tokens do not go on from the place: the first of them may not come, or there is none and
the row is no whole expression. -/
def Refuses (p : Place) : List Token → Prop
  | [] => p ≠ .operator 0
  | t :: _ => p.step t.kind = none

/-- Where an operand has to come, only a number or a parenthesis may. -/
theorem refuses_operand {c : Cursor} (hopen : c.kind ≠ .openParen) (hnumber : c.kind ≠ .intLiteral)
    (n : Nat) : (operand n).Refuses c.rest := by
  match hrest : c.rest with
  | [] => simp [Refuses]
  | t :: rest =>
    rw [Cursor.kind_of_cons hrest] at hopen hnumber
    simp [Refuses, step, hopen, hnumber]

/-- Where an expression has ended, no operator comes, so only a parenthesis that closes one may. -/
theorem step_operator {t : Token} {rest : List Token}
    (hstops : Phrase.expression.Stops (t :: rest)) {n : Nat}
    (hclose : t.kind = .closeParen → n = 0) : (operator n).step t.kind = none := by
  rw [step]
  split
  · rw [if_pos (hclose ‹_›)]
  · cases hop : Operator.ofKind? t.kind with
    | none => rfl
    | some op =>
      obtain ⟨k, hk⟩ := Operator.exists_tightness hop
      have hencloses := hstops t rest k op rfl hk
      cases k <;> cases hencloses

theorem refuses_operator {c : Cursor} (hstops : Phrase.expression.Stops c.rest)
    (hclose : c.kind ≠ .closeParen) (n : Nat) : (operator (n + 1)).Refuses c.rest := by
  match hrest : c.rest with
  | [] => simp [Refuses]
  | t :: rest =>
    rw [Cursor.kind_of_cons hrest] at hclose
    rw [hrest] at hstops
    exact step_operator hstops fun h => absurd h hclose

end Place

/-- A phrase leads from where an operand has to come to where one has ended. -/
theorem Derives.walk {p : Phrase} {ts : List Token} {e : Expr} (h : Derives p ts e) (n : Nat) :
    (Place.operand n).walk ts = some (.operator n) := by
  induction h generalizing n with
  | literal h => simp [Place.walk, Place.step, h]
  | group ho _ hc ih =>
    rw [Place.walk_open ho, Place.walk_append, ih (n + 1)]
    simp [Place.walk, Place.step, hc]
  | single _ ih => exact ih n
  | joined _ ht _ ihl ihr =>
    rw [Place.walk_append, ihl n, Option.bind_some, Place.walk_operator ht, ihr n]

/-- A row that leads nowhere is the beginning of no expression. -/
theorem not_viable_of_walk {ts : List Token} (h : (Place.operand 0).walk ts = none) :
    ¬ Viable ts := by
  rintro ⟨more, e, hderives⟩
  have hwalk := hderives.walk 0
  rw [Place.walk_append, h] at hwalk
  cases hwalk

/-! ## Stuck phrases -/

/-- The tokens `used` are the beginning of a phrase, and it does not go on with `after`, however
many parentheses are open around it. -/
structure Stuck (p : Phrase) (used after : List Token) : Prop where
  /-- some tokens would have completed the phrase -/
  begins : ∃ more e, Derives p (used ++ more) e
  /-- those that follow do not even begin to -/
  refused : ∀ n, ∃ place, (Place.operand n).walk used = some place ∧ place.Refuses after

namespace Stuck

/-- Nothing is read where an operand has to come. -/
theorem start {c : Cursor} (hopen : c.kind ≠ .openParen) (hnumber : c.kind ≠ .intLiteral) :
    Stuck .primary [] c.rest where
  begins := ⟨[.literal (.int 0) 0 []], _, .literal rfl⟩
  refused n := ⟨.operand n, rfl, Place.refuses_operand hopen hnumber n⟩

/-- The parenthesis that closes a group is missing. -/
theorem unclosed {o : Token} {used : List Token} {e : Expr} {c : Cursor}
    (ho : o.kind = .openParen) (h : Derives .expression used e)
    (hstops : Phrase.expression.Stops c.rest) (hclose : c.kind ≠ .closeParen) :
    Stuck .primary (o :: used) c.rest where
  begins := ⟨[.plain .closeParen 0 []], e, .group ho h rfl⟩
  refused n := by
    refine ⟨.operator (n + 1), ?_, Place.refuses_operator hstops hclose n⟩
    rw [Place.walk_open ho, h.walk]

theorem group {o : Token} {used after : List Token} (ho : o.kind = .openParen)
    (h : Stuck .expression used after) : Stuck .primary (o :: used) after where
  begins := by
    obtain ⟨more, e, hderives⟩ := h.begins
    have hgroup : Derives .primary (o :: (used ++ more ++ [.plain .closeParen 0 []])) e :=
      .group ho hderives rfl
    exact ⟨more ++ [.plain .closeParen 0 []], e, by simpa using hgroup⟩
  refused n := by
    rw [Place.walk_open ho]
    exact h.refused (n + 1)

theorem single {k : Tightness} {used after : List Token} (h : Stuck k.operand used after) :
    Stuck (.chain k) used after where
  begins := by
    obtain ⟨more, e, hderives⟩ := h.begins
    exact ⟨more, e, .single hderives⟩
  refused := h.refused

theorem joined {k : Tightness} {xs used after : List Token} {t : Token} {op : Operator} {l : Expr}
    (hl : Derives (.chain k) xs l) (ht : Joins k t.kind op)
    (h : Stuck k.operand used after) : Stuck (.chain k) (xs ++ t :: used) after where
  begins := by
    obtain ⟨more, e, hderives⟩ := h.begins
    have hjoined : Derives (.chain k) (xs ++ t :: (used ++ more)) (.binary op t l e) :=
      .joined hl ht hderives
    exact ⟨more, _, by simpa using hjoined⟩
  refused n := by
    rw [Place.walk_append, hl.walk, Option.bind_some, Place.walk_operator ht]
    exact h.refused n

end Stuck

/-! ## The parser's steps -/

/-- The fault is about the token after the beginning `used` of a phrase, which is stuck there. -/
def Blames (endAt : Nat) (p : Phrase) (c : Cursor) (d : Diagnostic) : Prop :=
  ∃ used after expected, c.rest = used ++ after ∧ Stuck p used after ∧
    d = .unexpected expected (c.jump after).kind ((c.jump after).position endAt)

/-- The first fault of a reading is about a depth limit, or about the token at which the phrase is
stuck. -/
structure Blaming (endAt : Nat) (p : Phrase) (room : Nat) (c : Cursor) (r : Reading c) : Prop where
  /-- without a fault there is a phrase -/
  sound : Sound p room c r
  /-- the parser makes it -/
  made : Made endAt r
  /-- the first fault -/
  first : c.tooDeep = false → r.next.faults ≠ c.faults →
    ∃ d, c.faults ++ [d] <+: r.next.faults ∧ (d.isTooDeep = true ∨ Blames endAt p c d)

theorem Cursor.Records.faults_prefix {c c' : Cursor} {ds : List Diagnostic}
    (h : c.Records c' ds) : c.faults <+: c'.faults :=
  ⟨ds, h.faults.symm⟩

/-- A number that is missing is blamed on the token in its place. -/
theorem blaming_missing {endAt room : Nat} {c : Cursor} (hopen : c.kind ≠ .openParen)
    (hnumber : c.kind ≠ .intLiteral) :
    Blaming endAt .primary room c (missing endAt c) where
  sound := (sound_invariant endAt).missing room c hopen hnumber
  made := .missing c
  first _ _ := by
    have hfaults := (c.records_reportUnexpected endAt .intLiteral).faults
    refine ⟨_, ⟨[], ?_⟩, .inr ⟨[], c.rest, .intLiteral, rfl, .start hopen hnumber, rfl⟩⟩
    rw [List.append_nil]
    exact hfaults.symm

theorem blaming_refused {endAt : Nat} {c : Cursor} {t : Token} {rest : List Token}
    (h : c.rest = t :: rest) (ht : t.kind = .openParen) :
    Blaming endAt .primary 0 c (refused c t) where
  sound := (sound_invariant endAt).refused c t rest h ht
  made := .refused h ht
  first hflag _ := by
    have hfaults := (c.warns_reportTooDeep nestingLimit t.position).faults
    rw [hflag] at hfaults
    exact ⟨_, ⟨[], (List.append_nil _).trans hfaults.symm⟩, .inl rfl⟩

/-- A group blames what its inside blames. If its inside is a phrase, the parenthesis that is
missing is blamed on the token after it. -/
theorem blaming_group {endAt room : Nat} {c : Cursor} {t : Token} {rest : List Token}
    (h : c.rest = t :: rest) {inside : (c : Cursor) → Reading c} (ht : t.kind = .openParen)
    (hstops : Phrase.expression.Stops (inside (c.jump rest)).next.rest)
    (hin : Blaming endAt .expression room (c.jump rest) (inside (c.jump rest))) :
    Blaming endAt .primary (room + 1) c (group endAt c t rest h inside) where
  sound := sound_group h ht hin.sound
  made := .group h ht hin.made
  first hflag hne := by
    have hnext : (group endAt c t rest h inside).next = closed endAt (inside (c.jump rest)).next :=
      rfl
    rw [hnext] at hne ⊢
    by_cases hquiet : (inside (c.jump rest)).next.faults = c.faults
    · obtain ⟨used, e, htakes, hfits⟩ := hin.sound.2 hflag hquiet
      have hrest : c.rest = t :: used ++ (inside (c.jump rest)).next.rest := by
        rw [h, List.cons_append]
        exact congrArg (t :: ·) htakes.rest
      rcases closed_eq endAt (inside (c.jump rest)).next
        with ⟨-, rest', -, -, hjump⟩ | ⟨hkind, hrep⟩
      · rw [hjump] at hne
        exact absurd hquiet hne
      · have hfaults :=
          ((inside (c.jump rest)).next.records_reportUnexpected endAt .closeParen).faults
        rw [hrep, hfaults, hquiet]
        exact ⟨_, List.prefix_refl _, .inr ⟨t :: used, _, .closeParen, hrest,
          .unclosed ht hfits.derives hstops hkind, rfl⟩⟩
    · obtain ⟨d, hd, hblames⟩ := hin.first hflag hquiet
      obtain ⟨ds, hds⟩ := records_closed endAt (inside (c.jump rest)).next
      refine ⟨d, hd.trans hds.faults_prefix, hblames.imp_right ?_⟩
      rintro ⟨used, after, expected, hrest, hstuck, rfl⟩
      refine ⟨t :: used, after, expected, ?_, hstuck.group ht, rfl⟩
      rw [h, List.cons_append]
      exact congrArg (t :: ·) hrest

/-- Two operands blame what the first of them to have a fault blames. -/
theorem blaming_join {endAt : Nat} {k : Tightness} {room : Nat} {origin : Cursor}
    {left : Reading origin} {op : Operator} {t : Token} {rest : List Token}
    {right : Reading (left.next.jump rest)} (h : (left.next.jump rest).rest <:+ origin.rest)
    (hrest : left.next.rest = t :: rest) (hop : Joins k t.kind op)
    (hleft : Blaming endAt (.chain k) room origin left)
    (hright : Blaming endAt k.operand room (left.next.jump rest) right) :
    Blaming endAt (.chain k) room origin (left.join op t right h) where
  sound := sound_join h hrest hop hleft.sound hright.sound
  made := .join h hrest hop hleft.made hright.made
  first hflag hne := by
    obtain ⟨ds, hds⟩ := hright.made.records
    obtain ⟨ds', hds'⟩ := Reading.records_join op t left right h
    by_cases hquiet : left.next.faults = origin.faults
    · obtain ⟨xs, l, htakes, hfits⟩ := hleft.sound.2 hflag hquiet
      have hflag' : left.next.tooDeep = false := (hleft.sound.1.quiet hquiet).tooDeep.trans hflag
      by_cases hquiet' : right.next.faults = left.next.faults
      · -- both operands are phrases, so it is the limit on trees that was met
        have hflag'' : right.next.tooDeep = false :=
          (hright.sound.1.quiet hquiet').tooDeep.trans hflag'
        by_cases hle : treeLimit ≤ max left.expr.depth right.expr.depth
        · have hfaults := (right.next.warns_reportTooDeep treeLimit t.position).faults
          rw [hflag'', hquiet', hquiet] at hfaults
          rw [Reading.next_join_of_le hle, hfaults]
          exact ⟨_, List.prefix_refl _, .inl rfl⟩
        · have hnext : (left.join op t right h).next = right.next.note (.joined op) := by
            rw [Reading.join, if_neg hle]
          rw [hnext, (right.next.quiet_joined op).faults] at hne
          exact absurd (hquiet'.trans hquiet) hne
      · obtain ⟨d, hd, hblames⟩ := hright.first hflag' hquiet'
        have hd' : origin.faults ++ [d] <+: right.next.faults := hquiet ▸ hd
        refine ⟨d, hd'.trans hds'.faults_prefix, hblames.imp_right ?_⟩
        rintro ⟨used, after, expected, hused, hstuck, rfl⟩
        refine ⟨xs ++ t :: used, after, expected, ?_, .joined hfits.derives hop hstuck, rfl⟩
        have hrest' : rest = used ++ after := hused
        rw [htakes.rest, hrest, hrest', List.append_assoc, List.cons_append]
    · obtain ⟨d, hd, hblames⟩ := hleft.first hflag hquiet
      exact ⟨d, (hd.trans hds.faults_prefix).trans hds'.faults_prefix, hblames⟩

/-- **The descent blames the earliest token.** -/
theorem blaming_invariant (endAt : Nat) : Invariant endAt (Blaming endAt) where
  missing _ _ hopen hnumber := blaming_missing hopen hnumber
  leaf room c t rest h ht := ⟨(sound_invariant endAt).leaf room c t rest h ht, .leaf h ht,
    fun _ hne => absurd rfl hne⟩
  refused _ _ _ h ht := blaming_refused h ht
  group _ _ _ _ h _ ht hstops hin := blaming_group h ht hstops hin
  single k room c r hr := by
    refine ⟨(sound_invariant endAt).single k room c r hr.sound, hr.made, fun hflag hne => ?_⟩
    obtain ⟨d, hd, hblames⟩ := hr.first hflag hne
    refine ⟨d, hd, hblames.imp_right ?_⟩
    rintro ⟨used, after, expected, hrest, hstuck, hfault⟩
    exact ⟨used, after, expected, hrest, hstuck.single, hfault⟩
  join _ _ _ _ _ _ _ _ h hrest hop hleft hright := blaming_join h hrest hop hleft hright

/-! ## All tokens -/

/-- The kind and the offset of the token that a fault is about, if it is about one that may not
come. -/
def Diagnostic.found? : Diagnostic → Option (Kind × Nat)
  | .unexpected _ found position => some (found, position)
  | .trailing found position => some (found, position)
  | _ => none

/-- The tokens that the parser reads: those of the row, and an end of file after them. -/
def withEnd (ts : List Token) : List Token := ts ++ [.plain .endOfFile (endOf ts) []]

/-- What the parser finds after a beginning of the row is the next of its tokens. -/
theorem getElem?_withEnd (used after : List Token) (c : Cursor) :
    ∃ t, (withEnd (used ++ after))[used.length]? = some t ∧ (c.jump after).kind = t.kind ∧
      (c.jump after).position (endOf (used ++ after)) = t.position := by
  rw [withEnd, List.append_assoc, List.getElem?_append_right (Nat.le_refl _), Nat.sub_self]
  cases after with
  | nil => exact ⟨_, rfl, rfl, rfl⟩
  | cons t rest => exact ⟨t, rfl, rfl, rfl⟩

/-- The tokens `used` are the beginning of an expression, and those after them do not go on with
it. -/
structure RefusedAt (used after : List Token) : Prop where
  /-- the beginning -/
  viable : Viable used
  /-- what comes then may not come -/
  refuses : ∃ place, (Place.operand 0).walk used = some place ∧ place.Refuses after

theorem Stuck.refusedAt {used after : List Token} (h : Stuck .expression used after) :
    RefusedAt used after :=
  ⟨h.begins, h.refused 0⟩

/-- A whole expression does not go on with a token that was left over. -/
theorem Derives.refusedAt {used rest : List Token} {t : Token} {e : Expr}
    (h : Derives .expression used e) (hstops : Phrase.expression.Stops (t :: rest)) :
    RefusedAt used (t :: rest) where
  viable := ⟨[], e, by rwa [List.append_nil]⟩
  refuses := ⟨.operator 0, h.walk 0, Place.step_operator hstops fun _ => rfl⟩

namespace RefusedAt

variable {used after : List Token}

/-- With the token that is refused the row is the beginning of no expression. -/
theorem not_viable (h : RefusedAt used after) (hlt : used.length < (used ++ after).length) :
    ¬ Viable ((used ++ after).take (used.length + 1)) := by
  obtain ⟨place, hwalk, hrefuses⟩ := h.refuses
  cases after with
  | nil => simp at hlt
  | cons t rest =>
    have hstep : place.step t.kind = none := hrefuses
    rw [List.take_length_add_append, List.take_succ_cons, List.take_zero]
    refine not_viable_of_walk ?_
    rw [Place.walk_append, hwalk, Option.bind_some, Place.walk, hstep]
    rfl

/-- A row whose end is refused is no expression. -/
theorem not_derives (h : RefusedAt used after) (heq : used.length = (used ++ after).length) :
    ¬ ∃ e, Derives .expression (used ++ after) e := by
  obtain ⟨place, hwalk, hrefuses⟩ := h.refuses
  obtain rfl : after = [] := by simpa using heq
  rintro ⟨e, he⟩
  have hend := he.walk 0
  rw [List.append_nil, hwalk] at hend
  exact hrefuses (Option.some.inj hend)

end RefusedAt

/-- The first fault of a parse that is about a token is about the first one that is refused. -/
theorem exists_refusedAt {ts : List Token} (hend : ∀ t ∈ ts, t.kind ≠ .endOfFile) {d : Diagnostic}
    (hfirst : (parse ts .empty).2.diagnostics.head? = some d) {kind : Kind} {position : Nat}
    (hfound : d.found? = some (kind, position)) :
    ∃ (used after : List Token) (c : Cursor), ts = used ++ after ∧ RefusedAt used after ∧
      kind = (c.jump after).kind ∧ position = (c.jump after).position (endOf ts) := by
  have hrest : (startOf ts .empty).rest = ts := body_eq_self hend
  have hblaming := (blaming_invariant (endOf ts)).expression nestingLimit (startOf ts .empty)
  have hstops : Phrase.expression.Stops
      (expression (endOf ts) nestingLimit (startOf ts .empty)).next.rest := stops_expressionOf _ _
  rw [diagnostics_parse] at hfirst
  generalize expression (endOf ts) nestingLimit (startOf ts .empty) = r at hfirst hblaming hstops
  by_cases hquiet : r.next.faults = []
  · -- the expression was read without a fault, so there is a token after it
    obtain ⟨used, e, htakes, hfits⟩ := hblaming.sound.2 rfl hquiet
    have hts : ts = used ++ r.next.rest := hrest.symm.trans htakes.rest
    cases hnext : r.next.rest with
    | nil =>
      rw [reportTrailing_of_nil hnext, hquiet] at hfirst
      cases hfirst
    | cons t rest =>
      have hfaults : (reportTrailing r.next).faults = [.trailing t.kind t.position] := by
        simp [reportTrailing, hnext, hquiet, Event.fault?]
      rw [hfaults] at hfirst
      obtain rfl := Option.some.inj hfirst
      obtain ⟨rfl, rfl⟩ := Prod.mk.inj (Option.some.inj hfound)
      rw [hnext] at hts hstops
      exact ⟨used, t :: rest, r.next, hts, hfits.derives.refusedAt hstops, rfl, rfl⟩
  · obtain ⟨d', hd', hblames⟩ := hblaming.first rfl hquiet
    obtain ⟨more, hmore⟩ := hd'
    obtain ⟨ds, hds, -⟩ := faults_reportTrailing r.next
    have hd : d' = d := by
      rw [hds, ← hmore] at hfirst
      exact Option.some.inj hfirst
    subst hd
    rcases hblames with hdeep | ⟨used, after, expected, hused, hstuck, rfl⟩
    · obtain ⟨limit, place, rfl⟩ := Diagnostic.eq_tooDeep hdeep
      cases hfound
    · obtain ⟨rfl, rfl⟩ := Prod.mk.inj (Option.some.inj hfound)
      exact ⟨used, after, _, hrest.symm.trans hused, hstuck.refusedAt, rfl, rfl⟩

/-- **The first fault is at the earliest token.** If the first fault of a row is not about a depth
limit, then its kind and offset are those of a token, the end of file after the row included, such
that the tokens before it are the beginning of an expression, while with it they are the beginning
of none; if it is the end of file, the row is no expression. -/
theorem parse_blames_earliest {ts : List Token} (hend : ∀ t ∈ ts, t.kind ≠ .endOfFile)
    {d : Diagnostic} (hfirst : (parse ts .empty).2.diagnostics.head? = some d) {kind : Kind}
    {position : Nat} (hfound : d.found? = some (kind, position)) :
    ∃ k t, (withEnd ts)[k]? = some t ∧ kind = t.kind ∧ position = t.position ∧
      Viable (ts.take k) ∧ (k < ts.length → ¬ Viable (ts.take (k + 1))) ∧
      (k = ts.length → ¬ ∃ e, Derives .expression ts e) := by
  obtain ⟨used, after, c, rfl, hrefused, rfl, rfl⟩ := exists_refusedAt hend hfirst hfound
  obtain ⟨t, ht, hkind, hposition⟩ := getElem?_withEnd used after c
  refine ⟨used.length, t, ht, hkind, hposition, ?_, hrefused.not_viable, hrefused.not_derives⟩
  rw [List.take_left]
  exact hrefused.viable

/-- `2*(3 4`: a parenthesis is missing at the second number of the group, where the group could
have gone on in another way. -/
theorem parse_blames_earliest_group :
    let two := Token.literal (.int 2) 0 ['2']
    let times := Token.plain .times 1 ['*']
    let three := Token.literal (.int 3) 3 ['3']
    let four := Token.literal (.int 4) 5 ['4']
    let ts := [two, times, .plain .openParen 2 ['('], three, four]
    (∀ t ∈ ts, t.kind ≠ .endOfFile) ∧
      (parse ts .empty).2.diagnostics.head? = some (.unexpected .closeParen .intLiteral 5) ∧
      ∃ k t, (withEnd ts)[k]? = some t ∧ t.kind = .intLiteral ∧ t.position = 5 ∧
        Viable (ts.take k) ∧ (k < ts.length → ¬ Viable (ts.take (k + 1))) ∧
        (k = ts.length → ¬ ∃ e, Derives .expression ts e) := by
  intro two times three four ts
  have hend : ∀ t ∈ ts, t.kind ≠ .endOfFile := by decide
  have hfirst : (parse ts .empty).2.diagnostics.head? =
      some (.unexpected .closeParen .intLiteral 5) := by decide +kernel
  obtain ⟨k, t, ht, hkind, hposition, hearliest⟩ := parse_blames_earliest hend hfirst rfl
  exact ⟨hend, hfirst, k, t, ht, hkind.symm, hposition.symm, hearliest⟩

end Reckon
