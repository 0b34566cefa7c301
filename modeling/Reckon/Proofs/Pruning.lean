import Reckon.Proofs.Descent

/-!
# Sentences beyond the depth limits

The parser reads every sentence of the grammar to its end, however deep it is, and a limit that
is met is reported once and does no further harm. What it returns is the tree of the sentence in
which each group that opens too many parentheses is a placeholder, as long as this tree is not
itself too deep.

* `Pruned room p ts e`: the phrase `p` with such groups replaced, if `room` parentheses may be
  opened. The constructors are the branches that the parser takes in a sentence.
* `firstBeyond`: the parenthesis at which the limit is met first.
* `Cursor.Warns`: from one cursor to another, the only fault that may be new is that of a limit,
  and only if none was reported before.
* `Reading.Covers`: what the parser makes of a phrase. One lemma for each step, and
  `follows_expression` for the whole descent.
* `parse_pruned`: **no cascade**.
-/

namespace Reckon

/-! ## Pruned trees -/

/-- The tokens are the given phrase, and the expression is its tree with every group that opens
when `room` parentheses are open already replaced by a placeholder at its opening one. -/
inductive Pruned : (room : Nat) → Phrase → List Token → Expr → Prop
  /-- a number -/
  | literal {room : Nat} {t : Token} (h : t.kind = .intLiteral) :
      Pruned room .primary [t] (.number t)
  /-- an expression in parentheses -/
  | group {room : Nat} {o c : Token} {ts : List Token} {e : Expr} (ho : o.kind = .openParen)
      (h : Pruned room .expression ts e) (hc : c.kind = .closeParen) :
      Pruned (room + 1) .primary (o :: (ts ++ [c])) e
  /-- an expression in parentheses for which there is no room -/
  | cut {o c : Token} {ts : List Token} {e : Expr} (ho : o.kind = .openParen)
      (h : Derives .expression ts e) (hc : c.kind = .closeParen) :
      Pruned 0 .primary (o :: (ts ++ [c])) (.number (.placeholder .intLiteral o.position))
  /-- a chain of one operand -/
  | single {room : Nat} {k : Tightness} {ts : List Token} {e : Expr}
      (h : Pruned room k.operand ts e) : Pruned room (.chain k) ts e
  /-- a chain with one more operator and operand at its end -/
  | joined {room : Nat} {k : Tightness} {xs ys : List Token} {t : Token} {op : Operator}
      {l r : Expr} (hl : Pruned room (.chain k) xs l) (ht : Joins k t.kind op)
      (hr : Pruned room k.operand ys r) :
      Pruned room (.chain k) (xs ++ t :: ys) (.binary op t l r)

/-- Every phrase has a pruned tree. -/
theorem Derives.pruned {p : Phrase} {ts : List Token} {e : Expr} (h : Derives p ts e)
    (room : Nat) : ∃ e', Pruned room p ts e' := by
  induction h generalizing room with
  | literal h => exact ⟨_, .literal h⟩
  | group ho h hc ih =>
    cases room with
    | zero => exact ⟨_, .cut ho h hc⟩
    | succ room =>
      obtain ⟨e', he'⟩ := ih room
      exact ⟨e', .group ho he' hc⟩
  | single _ ih =>
    obtain ⟨e', he'⟩ := ih room
    exact ⟨e', .single he'⟩
  | joined _ ht _ ihl ihr =>
    obtain ⟨l', hl'⟩ := ihl room
    obtain ⟨r', hr'⟩ := ihr room
    exact ⟨_, .joined hl' ht hr'⟩

/-- What is pruned is a phrase. -/
theorem Pruned.derives {room : Nat} {p : Phrase} {ts : List Token} {e : Expr}
    (h : Pruned room p ts e) : ∃ e', Derives p ts e' := by
  induction h with
  | literal h => exact ⟨_, .literal h⟩
  | group ho _ hc ih =>
    obtain ⟨e', he'⟩ := ih
    exact ⟨e', .group ho he' hc⟩
  | cut ho h hc => exact ⟨_, .group ho h hc⟩
  | single _ ih =>
    obtain ⟨e', he'⟩ := ih
    exact ⟨e', .single he'⟩
  | joined _ ht _ ihl ihr =>
    obtain ⟨l', hl'⟩ := ihl
    obtain ⟨r', hr'⟩ := ihr
    exact ⟨_, .joined hl' ht hr'⟩

theorem Pruned.openParens_eq {room : Nat} {p : Phrase} {ts : List Token} {e : Expr}
    (h : Pruned room p ts e) : openParens ts = 0 := by
  obtain ⟨e', he'⟩ := h.derives
  exact he'.openParens_eq

/-! ## The parenthesis beyond the limit -/

/-- The first parenthesis that opens when `room` parentheses are open already. -/
def firstBeyond (room : Int) : List Token → Option Token
  | [] => none
  | t :: ts =>
    if t.kind = .openParen ∧ room ≤ 0 then some t else firstBeyond (room - t.nesting) ts

theorem firstBeyond_of_ne {t : Token} (ht : t.kind ≠ .openParen) (room : Int) (ts : List Token) :
    firstBeyond room (t :: ts) = firstBeyond (room - t.nesting) ts := by
  rw [firstBeyond, if_neg (fun h => ht h.1)]

/-- After a row the limit is met where it is met first in the row, or else after it. -/
theorem firstBeyond_append (room : Int) (xs ys : List Token) :
    firstBeyond room (xs ++ ys) =
      (firstBeyond room xs).or (firstBeyond (room - openParens xs) ys) := by
  induction xs generalizing room with
  | nil => simp [firstBeyond]
  | cons t xs ih =>
    rw [List.cons_append, firstBeyond, firstBeyond, openParens_cons]
    split
    · rfl
    · rw [ih, Int.sub_sub]

/-- A row within the room meets no limit. -/
theorem firstBeyond_eq_none {room : Int} {ts : List Token} (h : OpenAtMost room ts) :
    firstBeyond room ts = none := by
  induction ts generalizing room with
  | nil => rfl
  | cons t ts ih =>
    obtain ⟨-, hts⟩ := openAtMost_cons.1 h
    rw [firstBeyond, if_neg, ih hts]
    rintro ⟨ht, hroom⟩
    have hpos : 0 ≤ room - t.nesting := hts [] List.nil_prefix
    rw [Token.nesting_open ht] at hpos
    omega

/-- A group takes one parenthesis from the room of its inside. -/
theorem firstBeyond_group {o c : Token} {ts : List Token} (ho : o.kind = .openParen)
    (hc : c.kind = .closeParen) (room : Nat) :
    firstBeyond ((room + 1 : Nat) : Int) (o :: (ts ++ [c])) = firstBeyond room ts := by
  have hroom : ((room + 1 : Nat) : Int) - o.nesting = room := by
    rw [Token.nesting_open ho]
    omega
  have hpos : ¬((room + 1 : Nat) : Int) ≤ 0 := by omega
  rw [firstBeyond, if_neg (fun h => hpos h.2), hroom, firstBeyond_append,
    firstBeyond_of_ne (by rw [hc]; decide), firstBeyond, Option.or_none]

/-- Operators leave the room as it is. -/
theorem firstBeyond_joined {room : Nat} {k : Tightness} {xs ys : List Token} {t : Token}
    {op : Operator} (hxs : openParens xs = 0) (ht : Joins k t.kind op) :
    firstBeyond room (xs ++ t :: ys) = (firstBeyond room xs).or (firstBeyond room ys) := by
  rw [firstBeyond_append, firstBeyond_of_ne ht.ne.2.1, hxs,
    Token.nesting_operator ht, Int.sub_zero, Int.sub_zero]

/-! ## At most one warning -/

/-- From `c` to `c'` the fault `w` of a depth limit was met first, if any. It is written down
unless the flag was up before, and the flag is up after it. -/
structure Cursor.Warns (c c' : Cursor) (w : Option Diagnostic) : Prop where
  /-- what was written down -/
  faults : c'.faults = c.faults ++ if c.tooDeep then [] else w.toList
  /-- the flag -/
  tooDeep : c'.tooDeep = (c.tooDeep || w.isSome)

namespace Cursor

theorem Quiet.warns {c c' : Cursor} (h : c.Quiet c') : c.Warns c' none := by
  refine ⟨?_, ?_⟩
  · rw [h.faults]
    simp
  · rw [h.tooDeep]
    simp

theorem Warns.quiet {c c' : Cursor} (h : c.Warns c' none) : c.Quiet c' := by
  refine ⟨?_, ?_⟩
  · rw [h.faults]
    simp
  · rw [h.tooDeep]
    simp

/-- Of two warnings the first counts. -/
theorem Warns.trans {a b c : Cursor} {w w' : Option Diagnostic} (h : a.Warns b w)
    (h' : b.Warns c w') : a.Warns c (w.or w') := by
  refine ⟨?_, ?_⟩
  · rw [h'.faults, h.faults, h.tooDeep]
    cases a.tooDeep <;> cases w <;> simp
  · rw [h'.tooDeep, h.tooDeep]
    cases a.tooDeep <;> cases w <;> simp

theorem warns_reportTooDeep (limit position : Nat) (c : Cursor) :
    c.Warns (c.reportTooDeep limit position) (some (.tooDeep limit position)) := by
  rw [reportTooDeep]
  split
  · rename_i h
    refine ⟨?_, ?_⟩ <;> simp [h]
  · rename_i h
    refine ⟨?_, by simp⟩
    change ((c.note (.tooDeep limit position)).note (.found (.tooDeep limit position))).faults = _
    simp [h, Event.fault?]

end Cursor

/-! ## What the parser makes of a phrase -/

/-- The tree that is returned and the warning that is given for a row with the pruned tree `e`:
both are right unless `e` is too deep, and then there is some warning. -/
structure Answers (room : Nat) (ts : List Token) (e returned : Expr) (w : Option Diagnostic) :
    Prop where
  /-- a warning is about one of the two limits -/
  limit : ∀ d, w = some d →
    ∃ limit position, (limit = nestingLimit ∨ limit = treeLimit) ∧ d = .tooDeep limit position
  /-- within the limit on trees -/
  within : e.height ≤ treeLimit →
    returned = e ∧ w = (firstBeyond room ts).map fun o => .tooDeep nestingLimit o.position
  /-- beyond it -/
  beyond : treeLimit < e.height → w.isSome = true

/-- The reading takes the tokens `ts`, whose pruned tree is `e`, without a fault but that of a
limit. -/
structure Reading.Covers (endAt : Nat) {c : Cursor} (r : Reading c) (room : Nat) (ts : List Token)
    (e : Expr) : Prop where
  /-- the parser makes it -/
  made : Made endAt r
  /-- the tokens are taken from the front -/
  rest : c.rest = ts ++ r.next.rest
  /-- the tree and the warning -/
  answers : ∃ w, c.Warns r.next w ∧ Answers room ts e r.expr w

/-- What a reading leaves is what follows the tokens that it takes. -/
theorem Reading.Covers.next_rest {endAt : Nat} {c : Cursor} {r : Reading c} {room : Nat}
    {ts after : List Token} {e : Expr} (h : r.Covers endAt room ts e)
    (hc : c.rest = ts ++ after) : r.next.rest = after :=
  List.append_cancel_left (h.rest.symm.trans hc)

/-! ### Leaves -/

/-- A leaf is never too deep, so its tree and its warning are right. -/
theorem Answers.number {room : Nat} {ts : List Token} {t : Token} {w : Option Diagnostic}
    (h : w = (firstBeyond room ts).map fun o => .tooDeep nestingLimit o.position) :
    Answers room ts (.number t) (.number t) w where
  limit d hd := by
    rw [h, Option.map_eq_some_iff] at hd
    obtain ⟨o, -, rfl⟩ := hd
    exact ⟨_, _, .inl rfl, rfl⟩
  within _ := ⟨rfl, h⟩
  beyond hdeep := absurd hdeep (Nat.not_lt.2 (Expr.height_number_le t))

theorem Reading.Covers.leaf {endAt : Nat} {c : Cursor} {t : Token} {rest : List Token}
    (h : c.rest = t :: rest) (ht : t.kind = .intLiteral) (room : Nat) :
    (leaf c t rest h).Covers endAt room [t] (.number t) := by
  have hroom : firstBeyond room [t] = none := by
    rw [firstBeyond_of_ne (by rw [ht]; decide), firstBeyond]
  refine ⟨.leaf h ht, h, none, (c.quiet_jump rest).warns, .number ?_⟩
  rw [hroom]
  rfl

/-! ### Groups -/

theorem skipGroup_open {t : Token} (ht : t.kind = .openParen) (depth : Nat) (ts : List Token) :
    skipGroup depth (t :: ts) = skipGroup (depth + 1) ts := by
  rw [skipGroup, if_pos ht]

theorem skipGroup_of_nesting {t : Token} (ht : t.nesting = 0) (depth : Nat) (ts : List Token) :
    skipGroup depth (t :: ts) = skipGroup depth ts := by
  have hopen : t.kind ≠ .openParen := by
    intro h
    rw [Token.nesting_open h] at ht
    cases ht
  have hclose : t.kind ≠ .closeParen := by
    intro h
    rw [Token.nesting_close h] at ht
    cases ht
  rw [skipGroup, if_neg hopen, if_neg hclose]

/-- Within a group that is skipped, a phrase is passed over as a whole. -/
theorem Derives.skipGroup_append {p : Phrase} {ts : List Token} {e : Expr} (h : Derives p ts e)
    (depth : Nat) (after : List Token) :
    skipGroup (depth + 1) (ts ++ after) = skipGroup (depth + 1) after := by
  induction h generalizing depth after with
  | literal h => exact skipGroup_of_nesting (Token.nesting_literal h) _ _
  | @group o c ts e ho _ hc ih =>
    have hdeeper : ¬depth + 1 + 1 ≤ 1 := by omega
    rw [List.cons_append, List.append_assoc, skipGroup_open ho, ih, List.singleton_append,
      skipGroup, if_neg (by rw [hc]; decide), if_pos hc, if_neg hdeeper]
    rfl
  | single _ ih => exact ih depth after
  | @joined k xs ys t op l r _ ht _ ihl ihr =>
    rw [List.append_assoc, ihl, List.cons_append,
      skipGroup_of_nesting (Token.nesting_operator ht), ihr]

/-- A group is skipped up to and including its own closing parenthesis. -/
theorem Derives.skipGroup_group {o c : Token} {ts : List Token} {e : Expr}
    (ho : o.kind = .openParen) (h : Derives .expression ts e) (hc : c.kind = .closeParen)
    (after : List Token) : skipGroup 0 (o :: (ts ++ c :: after)) = after := by
  rw [skipGroup_open ho, h.skipGroup_append, skipGroup, if_neg (by rw [hc]; decide), if_pos hc,
    if_pos (Nat.le_refl 1)]

theorem Reading.Covers.refused {endAt : Nat} {c : Cursor} {o t : Token} {ts after : List Token}
    {e : Expr}
    (h : c.rest = o :: (ts ++ t :: after)) (ho : o.kind = .openParen)
    (hin : Derives .expression ts e) (ht : t.kind = .closeParen) :
    (refused c o).Covers endAt 0 (o :: (ts ++ [t]))
      (.number (.placeholder .intLiteral o.position)) := by
  have hskip : skipGroup 0 c.rest = after := by rw [h, hin.skipGroup_group ho ht]
  have hwarns := (c.warns_reportTooDeep nestingLimit o.position).trans
    (Cursor.quiet_jump _ (skipGroup 0 c.rest)).warns
  refine ⟨.refused h ho, ?_, _, hwarns, .number ?_⟩
  · change c.rest = o :: (ts ++ [t]) ++ skipGroup 0 c.rest
    rw [hskip, h]
    simp
  · rw [firstBeyond, if_pos ⟨ho, Int.le_refl 0⟩]
    rfl

theorem Reading.Covers.group {endAt room : Nat} {c : Cursor} {o t : Token}
    {rest ts after : List Token} {e : Expr} {inside : (c : Cursor) → Reading c}
    (h : c.rest = o :: rest) (hrest : rest = ts ++ t :: after) (ho : o.kind = .openParen)
    (ht : t.kind = .closeParen) (hin : (inside (c.jump rest)).Covers endAt room ts e) :
    (group endAt c o rest h inside).Covers endAt (room + 1) (o :: (ts ++ [t])) e := by
  have hnext : (inside (c.jump rest)).next.rest = t :: after := hin.next_rest hrest
  have hclosed : (Reckon.group endAt c o rest h inside).next =
      (inside (c.jump rest)).next.jump after := closed_of_close hnext ht
  obtain ⟨w, hwarns, hanswers⟩ := hin.answers
  have hwarns' := ((c.quiet_jump rest).warns.trans hwarns).trans
    (Cursor.quiet_jump _ after).warns
  rw [Option.none_or, Option.or_none, ← hclosed] at hwarns'
  refine ⟨.group h ho hin.made, ?_, w, hwarns', hanswers.limit, fun hheight => ?_, hanswers.beyond⟩
  · rw [hclosed, h, hrest]
    simp
  · rw [firstBeyond_group ho ht]
    exact hanswers.within hheight

/-! ### Chains -/

/-- The first warning of two operands is about one of the two limits, as each of theirs is. -/
theorem Answers.limit_or {room : Nat} {xs ys : List Token} {l l' r r' : Expr}
    {w w' : Option Diagnostic} (hl : Answers room xs l l' w) (hr : Answers room ys r r' w')
    (d : Diagnostic) (hd : w.or w' = some d) :
    ∃ limit position, (limit = nestingLimit ∨ limit = treeLimit) ∧
      d = .tooDeep limit position := by
  rcases Option.or_eq_some_iff.1 hd with hd | ⟨-, hd⟩
  · exact hl.limit d hd
  · exact hr.limit d hd

/-- Without a warning the tree is the pruned one. -/
theorem Answers.eq_of_isSome {room : Nat} {ts : List Token} {e e' : Expr} {w : Option Diagnostic}
    (h : Answers room ts e e' w) (hw : w.isSome = false) : e' = e := by
  rcases Nat.lt_or_ge treeLimit e.height with hdeep | hle
  · rw [h.beyond hdeep] at hw
    cases hw
  · exact (h.within hle).1

theorem Reading.Covers.join {endAt : Nat} {k : Tightness} {room : Nat} {origin : Cursor}
    {left : Reading origin} {xs ys : List Token} {l r : Expr} {op : Operator} {t : Token}
    {rest : List Token} {right : Reading (left.next.jump rest)}
    (hleft : left.Covers endAt room xs l) (hright : right.Covers endAt room ys r)
    (hrest : left.next.rest = t :: rest)
    (hop : Joins k t.kind op) (hxs : openParens xs = 0)
    (h : (left.next.jump rest).rest <:+ origin.rest) :
    (left.join op t right h).Covers endAt room (xs ++ t :: ys) (.binary op t l r) := by
  obtain ⟨w, hwarns, hanswers⟩ := hleft.answers
  obtain ⟨w', hwarns', hanswers'⟩ := hright.answers
  have hboth : origin.Warns right.next (w.or w') := by
    have := hwarns.trans ((left.next.quiet_jump rest).warns.trans hwarns')
    rwa [Option.none_or] at this
  have htokens : origin.rest = xs ++ t :: ys ++ right.next.rest := by
    have hys : rest = ys ++ right.next.rest := hright.rest
    calc origin.rest = xs ++ t :: rest := by rw [hleft.rest, hrest]
      _ = xs ++ t :: (ys ++ right.next.rest) := congrArg (xs ++ t :: ·) hys
      _ = xs ++ t :: ys ++ right.next.rest := by simp
  have hmade := Made.join h hrest hop hleft.made hright.made
  have hdepthl := hleft.made.depth_eq
  have hdepthr := hright.made.depth_eq
  -- within the limit both operands are what they should be
  have hwithin : (Expr.binary op t l r).height ≤ treeLimit →
      left.expr = l ∧ right.expr = r ∧ max left.expr.depth right.expr.depth < treeLimit ∧
        w.or w' = (firstBeyond room (xs ++ t :: ys)).map
          fun o => .tooDeep nestingLimit o.position := by
    intro hheight
    rw [Expr.height_binary] at hheight
    obtain ⟨hl, hw⟩ := hanswers.within (by omega)
    obtain ⟨hr, hw'⟩ := hanswers'.within (by omega)
    refine ⟨hl, hr, ?_, ?_⟩
    · rw [hdepthl, hdepthr, hl, hr]
      omega
    · rw [hw, hw', firstBeyond_joined hxs hop, Option.map_or]
  refine ⟨hmade, by rwa [Reading.rest_join], ?_⟩
  rw [Reading.join]
  split
  · rename_i hle
    refine ⟨_, hboth.trans (right.next.warns_reportTooDeep treeLimit t.position), ?_, ?_, ?_⟩
    · intro d hd
      rcases Option.or_eq_some_iff.1 hd with hd | ⟨-, hd⟩
      · exact hanswers.limit_or hanswers' d hd
      · exact ⟨_, _, .inr rfl, (Option.some.inj hd).symm⟩
    · intro hheight
      obtain ⟨-, -, hlt, -⟩ := hwithin hheight
      omega
    · intro _
      simp
  · rename_i hlt
    have hwarn := hboth.trans (right.next.quiet_joined op).warns
    rw [Option.or_none] at hwarn
    refine ⟨_, hwarn, hanswers.limit_or hanswers', ?_, ?_⟩
    · intro hheight
      obtain ⟨hl, hr, -, hw⟩ := hwithin hheight
      exact ⟨by rw [hl, hr], hw⟩
    · intro hdeep
      -- without a warning the operands would be those of the pruned tree, and too deep to join
      by_contra hnone
      rw [Bool.not_eq_true, Option.isSome_or, Bool.or_eq_false_iff] at hnone
      rw [hdepthl, hdepthr, hanswers.eq_of_isSome hnone.1, hanswers'.eq_of_isSome hnone.2] at hlt
      rw [Expr.height_binary] at hdeep
      omega

/-! ## The descent in a sentence -/

theorem Phrase.stops_close (p : Phrase) {t : Token} (ht : t.kind = .closeParen)
    (rest : List Token) : p.Stops (t :: rest) := by
  rintro t' rest' k op h hop
  obtain ⟨rfl, rfl⟩ := List.cons.inj h
  exact absurd ht hop.ne.2.2

theorem Phrase.Stops.operand {k : Tightness} {after : List Token}
    (h : (Phrase.chain k).Stops after) : k.operand.Stops after :=
  fun t rest k' op hafter hop => Phrase.operand_encloses (h t rest k' op hafter hop)

/-- An operand ends before an operator of its chain. -/
theorem Phrase.stops_operator {k : Tightness} {t : Token} {op : Operator}
    (ht : Joins k t.kind op) (rest : List Token) : k.operand.Stops (t :: rest) := by
  rintro t' rest' k' op' h hop
  obtain ⟨rfl, rfl⟩ := List.cons.inj h
  obtain ⟨rfl, -⟩ := ht.unique hop
  exact k.operand_encloses

/-- A chain ends where nothing goes on with it. -/
theorem chain_of_stops {k : Tightness} {operand : (c : Cursor) → Reading c} {origin : Cursor}
    {left : Reading origin} (h : (Phrase.chain k).Stops left.next.rest) :
    chain k operand left = left := by
  match hrest : left.next.rest with
  | [] => exact chain_of_nil hrest
  | t :: rest =>
    rcases hop : k.operator? t.kind with _ | op
    · exact chain_of_none hrest hop
    · have := h t rest k op hrest (Tightness.operator?_eq_some_iff.1 hop)
      cases k <;> simp [Phrase.encloses] at this

/-- Before a phrase, with a row after it that does not go on with it, the reader covers the
phrase. -/
def Follows (endAt : Nat) (p : Phrase) (room : Nat) (reader : (c : Cursor) → Reading c) : Prop :=
  ∀ (c : Cursor) (ts after : List Token) (e : Expr), Pruned room p ts e → c.rest = ts ++ after →
    p.Stops after → (reader c).Covers endAt room ts e

/-- The loop of a chain arrives at the tree of any beginning of the chain. The induction is on
the derivation, which grows at its right end as the loop does. -/
theorem Follows.chain_reaches {endAt : Nat} {k : Tightness} {room : Nat}
    {operand : (c : Cursor) → Reading c} (hoperand : Follows endAt k.operand room operand)
    {p : Phrase} (hp : p = .chain k) {ts : List Token} {e : Expr} (h : Pruned room p ts e)
    {c : Cursor} {after : List Token} (hc : c.rest = ts ++ after)
    (hafter : k.operand.Stops after) :
    ∃ r : Reading c, r.Covers endAt room ts e ∧
      chain k operand (operand c) = chain k operand r := by
  induction h generalizing after with
  | literal => cases hp
  | group => cases hp
  | cut => cases hp
  | single h =>
    obtain rfl := Phrase.chain.inj hp
    exact ⟨operand c, hoperand c _ after _ h hc hafter, rfl⟩
  | @joined room k' xs ys t op l r hl ht hr ihl _ =>
    obtain rfl := Phrase.chain.inj hp
    have hcl : c.rest = xs ++ t :: (ys ++ after) := by rw [hc, List.append_assoc, List.cons_append]
    -- the loop arrives at the tree before the operator, and takes one turn more
    obtain ⟨left, hleft, hchain⟩ := ihl hoperand rfl hcl (Phrase.stops_operator ht _)
    have hrest : left.next.rest = t :: (ys ++ after) := hleft.next_rest hcl
    have hforward : ys ++ after <:+ c.rest :=
      (hrest ▸ List.suffix_cons t (ys ++ after) : ys ++ after <:+ left.next.rest).trans left.forward
    have hright := hoperand (left.next.jump (ys ++ after)) ys after r hr rfl hafter
    exact ⟨_, hleft.join hright hrest ht hl.openParens_eq hforward,
      hchain.trans (chain_of_some hrest (Tightness.operator?_eq_some_iff.2 ht))⟩

theorem Follows.chain {endAt : Nat} {k : Tightness} {room : Nat}
    {operand : (c : Cursor) → Reading c} (hoperand : Follows endAt k.operand room operand) :
    Follows endAt (.chain k) room (fun c => Reckon.chain k operand (operand c)) := by
  intro c ts after e h hc hafter
  obtain ⟨r, hr, hchain⟩ := hoperand.chain_reaches rfl h hc hafter.operand
  have hstop : (Phrase.chain k).Stops r.next.rest := by
    rw [hr.next_rest hc]
    exact hafter
  show (Reckon.chain k operand (operand c)).Covers endAt room ts e
  rw [hchain, chain_of_stops hstop]
  exact hr

theorem follows_expressionOf {endAt room : Nat} {reader : (c : Cursor) → Reading c}
    (h : Follows endAt .primary room reader) :
    Follows endAt .expression room (expressionOf reader) :=
  Follows.chain (k := .sums) (Follows.chain (k := .products) h)

/-- Primaries, by the parentheses that may still be opened. -/
theorem follows_primary (endAt room : Nat) :
    Follows endAt .primary room (primary endAt room) := by
  induction room with
  | zero =>
    intro c ts after e h hc _
    cases h with
    | literal ht =>
      rw [primary_of_literal hc ht]
      exact .leaf hc ht 0
    | cut ho hin ht =>
      have hrest := hc
      rw [List.cons_append, List.append_assoc, List.singleton_append] at hrest
      rw [primary_of_refused hrest ho]
      exact .refused hrest ho hin ht
  | succ room ih =>
    intro c ts after e h hc _
    cases h with
    | literal ht =>
      rw [primary_of_literal hc ht]
      exact .leaf hc ht _
    | @group _ o t us _ ho hin ht =>
      have hrest : us ++ [t] ++ after = us ++ t :: after := by simp
      rw [primary_of_open hc ho]
      exact .group hc hrest ho ht
        (follows_expressionOf ih _ us (t :: after) e hin hrest (Phrase.stops_close _ ht after))

/-- **The descent covers sentences**: the parser reads every expression to its end. -/
theorem follows_expression (endAt room : Nat) :
    Follows endAt .expression room (expression endAt room) :=
  follows_expressionOf (follows_primary endAt room)

/-! ## All tokens -/

/-- The parser reads all tokens of a sentence, since none is an end of file. -/
theorem Derives.body_eq {p : Phrase} {ts : List Token} {e : Expr} (h : Derives p ts e) :
    body ts = ts := by
  refine body_eq_self fun t ht hend => ?_
  have hkind := h.isArithmetic t ht
  rw [hend] at hkind
  cases hkind

/-- What is returned and written down for a sentence, in terms of its pruned tree. -/
theorem parse_of_pruned {ts : List Token} {e : Expr} (h : Pruned nestingLimit .expression ts e)
    (journal : Journal) :
    ∃ w : Option Diagnostic,
      (parse ts journal).2.diagnostics = journal.diagnostics ++ w.toList ∧
        (parse ts journal).1.height ≤ treeLimit ∧
        Answers nestingLimit ts e (parse ts journal).1 w := by
  obtain ⟨e', he'⟩ := h.derives
  have hstart : (startOf ts journal).rest = ts ++ [] := by simp [startOf, he'.body_eq]
  have hcovers := follows_expression (endOf ts) nestingLimit _ ts [] e h hstart
    (Phrase.stops_nil _)
  obtain ⟨w, hwarns, hanswers⟩ := hcovers.answers
  refine ⟨w, ?_, hcovers.made.height_le, hanswers⟩
  rw [diagnostics_parse, reportTrailing_of_nil (hcovers.next_rest hstart)]
  exact hwarns.faults

/-- **Meeting a limit causes no cascade.** A sentence of any depth and length has a pruned tree,
in which each group that opens when 256 parentheses are open already is a placeholder. If this
tree has at most 1024 levels, it is returned, and the only fault that is written down, if there is
such a group, is that of the limit 256 at the first such parenthesis. If the pruned tree is
deeper, a tree of at most 1024 levels is returned, and the only fault is that of one of the two
limits. -/
theorem parse_pruned {ts : List Token} {e : Expr} (h : Derives .expression ts e)
    (journal : Journal) :
    (∃ pruned, Pruned 256 .expression ts pruned) ∧
    ∀ pruned, Pruned 256 .expression ts pruned →
      ∃ ds, (parse ts journal).2.diagnostics = journal.diagnostics ++ ds ∧
        (pruned.height ≤ 1024 → (parse ts journal).1 = pruned ∧
          ds = ((firstBeyond 256 ts).map fun o => .tooDeep 256 o.position).toList) ∧
        (1024 < pruned.height → (parse ts journal).1.height ≤ 1024 ∧
          ∃ limit position, (limit = 256 ∨ limit = 1024) ∧ ds = [.tooDeep limit position]) := by
  refine ⟨h.pruned 256, fun pruned hpruned => ?_⟩
  obtain ⟨w, hfaults, hshallow, hanswers⟩ := parse_of_pruned hpruned journal
  refine ⟨w.toList, hfaults, fun hheight => ?_, fun hdeep => ⟨hshallow, ?_⟩⟩
  · obtain ⟨htree, hw⟩ := hanswers.within hheight
    exact ⟨htree, congrArg Option.toList hw⟩
  · obtain ⟨d, rfl⟩ := Option.isSome_iff_exists.1 (hanswers.beyond hdeep)
    obtain ⟨limit, position, hlimit, rfl⟩ := hanswers.limit d rfl
    exact ⟨limit, position, hlimit, rfl⟩

/-- Parentheses around a primary take from the room. -/
theorem Pruned.enclosed {room : Nat} {ts : List Token} {e : Expr} (h : Pruned room .primary ts e)
    {os cs : List Token} (hos : ∀ o ∈ os, o.kind = .openParen)
    (hcs : ∀ c ∈ cs, c.kind = .closeParen) (hcount : os.length = cs.length) :
    Pruned (room + os.length) .primary (os ++ ts ++ cs.reverse) e := by
  induction os generalizing cs with
  | nil =>
    obtain rfl := List.eq_nil_of_length_eq_zero hcount.symm
    simpa using h
  | cons o os ih =>
    obtain ⟨c, cs, rfl⟩ := List.exists_cons_of_length_eq_add_one hcount.symm
    have hinner := ih (fun o' ho' => hos o' (List.mem_cons_of_mem o ho'))
      (fun c' hc' => hcs c' (List.mem_cons_of_mem c hc')) (Nat.succ.inj hcount)
    have hgroup := Pruned.group (hos o List.mem_cons_self)
      (.single (k := .sums) (.single (k := .products) hinner)) (hcs c List.mem_cons_self)
    simpa [Nat.add_assoc] using hgroup

/-- One number in 257 pairs of parentheses, and a sum after them: the innermost pair is a
placeholder, and the sum is read. -/
theorem parse_pruned_nested :
    let opens := (List.range 257).map fun i => Token.plain .openParen i ['(']
    let one := Token.literal (.int 1) 257 ['1']
    let closes := (List.range 257).map fun i => Token.plain .closeParen (258 + i) [')']
    let plus := Token.plain .plus 515 ['+']
    let two := Token.literal (.int 2) 516 ['2']
    let ts := opens ++ one :: closes ++ [plus, two]
    (∃ e, Derives .expression ts e) ∧
      (parse ts .empty).1 =
        .binary .add plus (.number (.placeholder .intLiteral 256)) (.number two) ∧
      (parse ts .empty).2.diagnostics = [.tooDeep 256 256] := by
  intro opens one closes plus two ts
  let os := (List.range 256).map fun i => Token.plain .openParen i ['(']
  let cs := ((List.range 256).map fun i => Token.plain .closeParen (259 + i) [')']).reverse
  have hos : ∀ o ∈ os, o.kind = .openParen := by simp [os, Token.plain]
  have hcs : ∀ c ∈ cs, c.kind = .closeParen := by simp [cs, Token.plain]
  have hone : Derives .expression [one] (.number one) :=
    .single (k := .sums) (.single (k := .products) (.literal rfl))
  have hcut : Pruned 0 .primary
      (.plain .openParen 256 ['('] :: ([one] ++ [.plain .closeParen 258 [')']]))
      (.number (.placeholder .intLiteral 256)) := .cut rfl hone rfl
  have hrow : os ++ .plain .openParen 256 ['('] :: ([one] ++ [.plain .closeParen 258 [')']]) ++
      cs.reverse = opens ++ one :: closes := by decide +kernel
  have hroom : 0 + os.length = 256 := by simp [os]
  have hnested := hcut.enclosed hos hcs (by simp [os, cs])
  rw [hrow, hroom] at hnested
  have hpruned : Pruned 256 .expression ts
      (.binary .add plus (.number (.placeholder .intLiteral 256)) (.number two)) :=
    .joined (k := .sums) (.single (k := .sums) (.single (k := .products) hnested)) .plus
      (.single (k := .products) (.literal rfl))
  have hfirst : firstBeyond 256 ts = some (.plain .openParen 256 ['(']) := by decide +kernel
  obtain ⟨e, he⟩ := hpruned.derives
  obtain ⟨ds, hfaults, hwithin, -⟩ := (parse_pruned he .empty).2 _ hpruned
  obtain ⟨htree, hds⟩ := hwithin (by decide)
  rw [hds, hfirst] at hfaults
  exact ⟨⟨e, he⟩, htree, hfaults⟩

end Reckon
