import Reckon.Proofs.Pruning

/-!
# The parser reads the grammar

`parse` finds no fault in exactly the token rows that the grammar derives within the two depth
limits, and then returns their tree.

* `Fits`: a derivation within the limits.
* `Sound`: a reading without a new fault has a derivation behind it.
* `Complete`: a reader that stands before a phrase reads it, if the tokens after the phrase do
  not go on with it. The descent is that of `follows_expression`, where no limit is met.
-/

namespace Reckon

/-! ## Derivations within the limits -/

/-- A derivation that opens at most `room` parentheses at once and whose tree is not higher
than allowed. -/
structure Fits (p : Phrase) (room : Nat) (ts : List Token) (e : Expr) : Prop where
  /-- the derivation -/
  derives : Derives p ts e
  /-- the limit on parentheses -/
  openAtMost : OpenAtMost room ts
  /-- the limit on trees -/
  shallow : e.height ≤ treeLimit

namespace Fits

theorem literal {t : Token} (h : t.kind = .intLiteral) (room : Nat) :
    Fits .primary room [t] (.number t) where
  derives := .literal h
  openAtMost := by simp [Token.nesting_literal h]
  shallow := Expr.height_number_le t

/-- One pair of parentheses takes one of the room. -/
theorem openAtMost_group {o c : Token} (ho : o.kind = .openParen) (hc : c.kind = .closeParen)
    {ts : List Token} {e : Expr} (h : Derives .expression ts e) {n : Int} :
    OpenAtMost n (o :: (ts ++ [c])) ↔ 1 ≤ n ∧ OpenAtMost (n - 1) ts := by
  simp only [openAtMost_cons, openAtMost_append, openAtMost_nil, h.openParens_eq,
    Token.nesting_open ho, Token.nesting_close hc]
  constructor
  · rintro ⟨-, hts, hpos, -⟩
    exact ⟨by omega, hts⟩
  · rintro ⟨hpos, hts⟩
    exact ⟨by omega, hts, by omega, by omega⟩

theorem group {o c : Token} (ho : o.kind = .openParen) (hc : c.kind = .closeParen)
    {room : Nat} {ts : List Token} {e : Expr} (h : Fits .expression room ts e) :
    Fits .primary (room + 1) (o :: (ts ++ [c])) e where
  derives := .group ho h.derives hc
  openAtMost := by
    have hroom : ((room + 1 : Nat) : Int) - 1 = room := by omega
    rw [openAtMost_group ho hc h.derives, hroom]
    exact ⟨by omega, h.openAtMost⟩
  shallow := h.shallow

theorem single {k : Tightness} {room : Nat} {ts : List Token} {e : Expr}
    (h : Fits k.operand room ts e) : Fits (.chain k) room ts e where
  derives := .single h.derives
  openAtMost := h.openAtMost
  shallow := h.shallow

/-- The row before an operator of a chain has closed its parentheses, so the row after it has
the whole room again. -/
theorem openAtMost_joined {k : Tightness} {xs ys : List Token} {t : Token} {op : Operator}
    {l : Expr} (hl : Derives (.chain k) xs l) (ht : Joins k t.kind op) {room : Nat} :
    OpenAtMost room (xs ++ t :: ys) ↔ OpenAtMost room xs ∧ OpenAtMost room ys := by
  simp only [openAtMost_append, openAtMost_cons, hl.openParens_eq, Token.nesting_operator ht,
    Int.sub_zero]
  exact ⟨fun h => ⟨h.1, h.2.2⟩, fun h => ⟨h.1, Int.natCast_nonneg room, h.2⟩⟩

theorem joined {k : Tightness} {room : Nat} {xs ys : List Token} {t : Token} {op : Operator}
    {l r : Expr} (hl : Fits (.chain k) room xs l) (ht : Joins k t.kind op)
    (hr : Fits k.operand room ys r) (hheight : max l.height r.height < treeLimit) :
    Fits (.chain k) room (xs ++ t :: ys) (.binary op t l r) where
  derives := .joined hl.derives ht hr.derives
  openAtMost := (openAtMost_joined hl.derives ht).2 ⟨hl.openAtMost, hr.openAtMost⟩
  shallow := by
    rw [Expr.height_binary]
    omega

end Fits

/-! ## Readings without a fault -/

/-- The reading takes the tokens `ts` and gives the tree `e`, without a new fault. -/
structure Reading.Takes {c : Cursor} (r : Reading c) (ts : List Token) (e : Expr) : Prop where
  /-- the tokens are taken from the front -/
  rest : c.rest = ts ++ r.next.rest
  /-- the tree -/
  expr : r.expr = e
  /-- no fault was found -/
  quiet : c.Quiet r.next

/-- What a reading leaves is what follows the tokens that it takes. -/
theorem Reading.Takes.next_rest {c : Cursor} {r : Reading c} {ts after : List Token} {e : Expr}
    (h : r.Takes ts e) (hc : c.rest = ts ++ after) : r.next.rest = after :=
  List.append_cancel_left (h.rest.symm.trans hc)

/-- A group takes its parentheses and what its inside takes. -/
theorem Reading.Takes.group {endAt : Nat} {c : Cursor} {o t : Token} {rest ts after : List Token}
    {e : Expr} {inside : (c : Cursor) → Reading c} (h : c.rest = o :: rest)
    (hrest : rest = ts ++ t :: after) (ht : t.kind = .closeParen)
    (hin : (inside (c.jump rest)).Takes ts e) :
    (group endAt c o rest h inside).Takes (o :: (ts ++ [t])) e := by
  have hnext : (inside (c.jump rest)).next.rest = t :: after := hin.next_rest hrest
  have hclosed : (Reckon.group endAt c o rest h inside).next =
      (inside (c.jump rest)).next.jump after := closed_of_close hnext ht
  refine ⟨?_, hin.expr, ?_⟩
  · calc c.rest = o :: rest := h
      _ = o :: (ts ++ t :: after) := congrArg (o :: ·) hrest
      _ = o :: (ts ++ [t]) ++ (Reckon.group endAt c o rest h inside).next.rest := by simp [hclosed]
  · rw [hclosed]
    exact ((c.quiet_jump rest).trans hin.quiet).trans (Cursor.quiet_jump _ after)

/-- Within the limit on trees joined operands make a node. -/
theorem Reading.Takes.join {origin : Cursor} {left : Reading origin} {xs ys : List Token}
    {l r : Expr} {t : Token} {rest : List Token} {right : Reading (left.next.jump rest)}
    (hleft : left.Takes xs l) (hright : right.Takes ys r) (hrest : left.next.rest = t :: rest)
    (op : Operator) (h : (left.next.jump rest).rest <:+ origin.rest)
    (hdepth : max l.depth r.depth < treeLimit) :
    (left.join op t right h).Takes (xs ++ t :: ys) (.binary op t l r) := by
  have hlimit : ¬ treeLimit ≤ max left.expr.depth right.expr.depth := by
    rw [hleft.expr, hright.expr]
    omega
  rw [Reading.join, if_neg hlimit]
  refine ⟨?_, by rw [hleft.expr, hright.expr], ?_⟩
  · have hys : rest = ys ++ right.next.rest := hright.rest
    calc origin.rest = xs ++ t :: rest := by rw [hleft.rest, hrest]
      _ = xs ++ t :: (ys ++ right.next.rest) := congrArg (xs ++ t :: ·) hys
      _ = xs ++ t :: ys ++ right.next.rest := by simp
  · exact (hleft.quiet.trans (left.next.quiet_jump rest)).trans
      (hright.quiet.trans (right.next.quiet_joined op))

/-! ## Soundness -/

/-- A reading never takes faults back, and one that finds none has a derivation within the
limits behind it. A cursor whose flag is up does not report the limits any more. -/
def Sound (p : Phrase) (room : Nat) (c : Cursor) (r : Reading c) : Prop :=
  c.Grows r.next ∧ (c.tooDeep = false → r.next.faults = c.faults →
    ∃ ts e, r.Takes ts e ∧ Fits p room ts e)

/-- A group that finds no fault has a sound inside and its closing parenthesis. -/
theorem sound_group {endAt room : Nat} {c : Cursor} {t : Token} {rest : List Token}
    (h : c.rest = t :: rest) {inside : (c : Cursor) → Reading c} (ht : t.kind = .openParen)
    (hin : Sound .expression room (c.jump rest) (inside (c.jump rest))) :
    Sound .primary (room + 1) c (group endAt c t rest h inside) := by
  obtain ⟨hgrows, hsound⟩ := hin
  have hinside : c.Grows (inside (c.jump rest)).next := (c.quiet_jump rest).grows.trans hgrows
  have hclosed := grows_closed endAt (inside (c.jump rest)).next
  refine ⟨hinside.trans hclosed, fun hflag hfaults => ?_⟩
  obtain ⟨hquiet, hquiet'⟩ := hinside.split hclosed hfaults
  obtain ⟨ts, e, htakes, hfits⟩ := hsound hflag hquiet.faults
  rcases closed_cases endAt (inside (c.jump rest)).next with ⟨t', rest', hrest', ht', -⟩ | hlt
  · have hinner : rest = ts ++ t' :: rest' := by
      rw [← hrest', ← htakes.rest, Cursor.rest_jump]
    exact ⟨_, e, .group h hinner ht' htakes, hfits.group ht ht'⟩
  · rw [hquiet'.faults] at hlt
    exact absurd hlt (Nat.lt_irrefl _)

/-- Joined operands are sound: past the limit on trees a fault is reported, since the flag is
down as long as there is none. -/
theorem sound_join {k : Tightness} {room : Nat} {origin : Cursor} {left : Reading origin}
    {op : Operator} {t : Token} {rest : List Token} {right : Reading (left.next.jump rest)}
    (h : (left.next.jump rest).rest <:+ origin.rest) (hrest : left.next.rest = t :: rest)
    (hop : Joins k t.kind op) (hleft : Sound (.chain k) room origin left)
    (hright : Sound k.operand room (left.next.jump rest) right) :
    Sound (.chain k) room origin (left.join op t right h) := by
  obtain ⟨hgrowsl, hsoundl⟩ := hleft
  obtain ⟨hgrowsr, hsoundr⟩ := hright
  have hright' : left.next.Grows right.next := (left.next.quiet_jump rest).grows.trans hgrowsr
  have hboth : origin.Grows right.next := hgrowsl.trans hright'
  have hjoin := Reading.grows_join op t left right h
  refine ⟨hboth.trans hjoin, fun hflag hfaults => ?_⟩
  obtain ⟨hquiet, hquiet'⟩ := hboth.split hjoin hfaults
  obtain ⟨hquietl, hquietr⟩ := hgrowsl.split hright' hquiet.faults
  obtain ⟨xs, l, htakesl, hfitsl⟩ := hsoundl hflag hquietl.faults
  obtain ⟨ys, r, htakesr, hfitsr⟩ := hsoundr (hquietl.tooDeep.trans hflag) hquietr.faults
  have hdepth : max l.depth r.depth < treeLimit := by
    -- past the limit the flag would have gone up
    by_contra hle
    rw [← htakesl.expr, ← htakesr.expr, Nat.not_lt] at hle
    rw [Reading.next_join_of_le hle] at hquiet'
    exact Cursor.not_quiet_reportTooDeep (hquiet.tooDeep.trans hflag) _ _ hquiet'
  have hheight : max l.height r.height < treeLimit := by
    rwa [← hfitsl.derives.depth_eq, ← hfitsr.derives.depth_eq]
  exact ⟨_, _, htakesl.join htakesr hrest op h hdepth, hfitsl.joined hop hfitsr hheight⟩

/-- **Soundness**: the parser's steps keep readings sound. -/
theorem sound_invariant (endAt : Nat) : Invariant endAt Sound where
  missing room c _ _ := by
    have hlen : (missing endAt c).next.faults.length = c.faults.length + 1 :=
      c.length_faults_reportUnexpected endAt .intLiteral
    refine ⟨.inr (by omega), fun _ hfaults => ?_⟩
    rw [hfaults] at hlen
    omega
  leaf room c t rest h ht := by
    have hquiet : c.Quiet (leaf c t rest h).next := c.quiet_jump rest
    exact ⟨hquiet.grows, fun _ _ => ⟨[t], .number t, ⟨h, rfl, hquiet⟩, .literal ht room⟩⟩
  refused c t rest h ht := by
    have hreport := c.grows_reportTooDeep nestingLimit t.position
    have hjump := ((c.reportTooDeep nestingLimit t.position).quiet_jump (skipGroup 0 c.rest)).grows
    refine ⟨hreport.trans hjump, fun hflag hfaults => ?_⟩
    obtain ⟨hquiet, -⟩ := hreport.split hjump hfaults
    exact absurd hquiet (Cursor.not_quiet_reportTooDeep hflag _ _)
  group _ _ _ _ h _ ht _ hin := sound_group h ht hin
  single k room c r hr := by
    obtain ⟨hgrows, hsound⟩ := hr
    refine ⟨hgrows, fun hflag hfaults => ?_⟩
    obtain ⟨ts, e, htakes, hfits⟩ := hsound hflag hfaults
    exact ⟨ts, e, htakes, hfits.single⟩
  join _ _ _ _ _ _ _ _ h hrest hop hleft hright := sound_join h hrest hop hleft hright

/-! ## Completeness -/

/-- Before a phrase within the limits, with a row after it that does not go on with it, the
reader takes the phrase. -/
def Complete (p : Phrase) (room : Nat) (reader : (c : Cursor) → Reading c) : Prop :=
  ∀ (c : Cursor) (ts after : List Token) (e : Expr), Fits p room ts e → c.rest = ts ++ after →
    p.Stops after → (reader c).Takes ts e

/-- Nothing is pruned of a phrase that keeps within its room. -/
theorem Derives.pruned_of_openAtMost {p : Phrase} {ts : List Token} {e : Expr}
    (h : Derives p ts e) {room : Nat} (hopen : OpenAtMost room ts) : Pruned room p ts e := by
  induction h generalizing room with
  | literal h => exact .literal h
  | group ho h hc ih =>
    obtain ⟨hroom, hinside⟩ := (Fits.openAtMost_group ho hc h).1 hopen
    obtain ⟨n, rfl⟩ : ∃ n, room = n + 1 := ⟨room - 1, by omega⟩
    have hn : ((n + 1 : Nat) : Int) - 1 = n := by omega
    rw [hn] at hinside
    exact .group ho (ih hinside) hc
  | single _ ih => exact .single (ih hopen)
  | joined hl ht _ ihl ihr =>
    obtain ⟨hopenl, hopenr⟩ := (Fits.openAtMost_joined hl ht).1 hopen
    exact .joined (ihl hopenl) ht (ihr hopenr)

/-- **Completeness**: the parser reads every expression within the limits. -/
theorem complete_expression (endAt room : Nat) :
    Complete .expression room (expression endAt room) := by
  intro c ts after e h hc hafter
  have hcovers := follows_expression endAt room c ts after e
    (h.derives.pruned_of_openAtMost h.openAtMost) hc hafter
  obtain ⟨w, hwarns, hanswers⟩ := hcovers.answers
  obtain ⟨hexpr, hw⟩ := hanswers.within h.shallow
  rw [firstBeyond_eq_none h.openAtMost] at hw
  obtain rfl : w = none := hw
  exact ⟨hcovers.rest, hexpr, hwarns.quiet⟩

/-! ## All tokens -/

/-- Parsing takes no fault back. -/
theorem length_diagnostics_le_parse (ts : List Token) (journal : Journal) :
    journal.diagnostics.length ≤ (parse ts journal).2.diagnostics.length := by
  have hgrows := ((sound_invariant (endOf ts)).expression nestingLimit (startOf ts journal)).1
  rw [diagnostics_parse]
  exact (hgrows.trans (grows_reportTrailing _)).length_le

/-- A sentence within the limits is parsed into its tree without a fault. -/
theorem parse_of_fits {ts : List Token} {e : Expr} (hend : ∀ t ∈ ts, t.kind ≠ .endOfFile)
    (h : Fits .expression nestingLimit ts e) (journal : Journal) :
    (parse ts journal).1 = e ∧ (parse ts journal).2.diagnostics = journal.diagnostics := by
  have hstart : (startOf ts journal).rest = ts ++ [] := by simp [startOf, body_eq_self hend]
  have htakes := complete_expression (endOf ts) nestingLimit _ ts [] e h hstart (Phrase.stops_nil _)
  rw [parse_tree, diagnostics_parse, reportTrailing_of_nil (htakes.next_rest hstart)]
  exact ⟨htakes.expr, htakes.quiet.faults⟩

/-- A parse without a new fault has read a sentence within the limits. -/
theorem fits_of_parse {ts : List Token} (hend : ∀ t ∈ ts, t.kind ≠ .endOfFile)
    {journal : Journal} (h : (parse ts journal).2.diagnostics = journal.diagnostics) :
    Fits .expression nestingLimit ts (parse ts journal).1 := by
  rw [diagnostics_parse] at h
  obtain ⟨hgrows, hsound⟩ :=
    (sound_invariant (endOf ts)).expression nestingLimit (startOf ts journal)
  obtain ⟨hquiet, hquiet'⟩ := hgrows.split (grows_reportTrailing _) h
  obtain ⟨us, e, htakes, hfits⟩ := hsound rfl hquiet.faults
  have hrest : (expression (endOf ts) nestingLimit (startOf ts journal)).next.rest = [] := by
    -- tokens that are left over are a fault
    by_contra hne
    have hlen := length_faults_reportTrailing hne
    rw [hquiet'.faults] at hlen
    omega
  have hus : us = ts := by
    have := htakes.rest
    rw [hrest, List.append_nil] at this
    rw [← this, startOf, body_eq_self hend]
  rw [parse_tree, htakes.expr, ← hus]
  exact hfits

/-- **The parser accepts exactly its grammar.** Of a row of tokens without an end of file among
them no fault is reported if and only if the grammar derives it with at most 256 parentheses
open at any point and a tree of at most 1024 levels. The tree returned is then the only one that
the grammar gives to the row, made of the row's own tokens less the parentheses. -/
theorem parse_faultless_iff (ts : List Token) (hend : ∀ t ∈ ts, t.kind ≠ .endOfFile) :
    ((parse ts .empty).2.diagnostics = [] ↔
      ∃ e, Derives .expression ts e ∧ OpenAtMost 256 ts ∧ e.height ≤ 1024) ∧
    ((parse ts .empty).2.diagnostics = [] →
      Derives .expression ts (parse ts .empty).1 ∧
      (∀ e, Derives .expression ts e → e = (parse ts .empty).1) ∧
      (parse ts .empty).1.tokens = ts.filter fun t => !t.isParen) := by
  have hfits : (parse ts .empty).2.diagnostics = [] →
      Fits .expression nestingLimit ts (parse ts .empty).1 := fun h => fits_of_parse hend h
  refine ⟨⟨fun h => ?_, ?_⟩, fun h => ?_⟩
  · obtain ⟨hderives, hopen, hheight⟩ := hfits h
    exact ⟨_, hderives, hopen, hheight⟩
  · rintro ⟨e, hderives, hopen, hheight⟩
    exact (parse_of_fits hend ⟨hderives, hopen, hheight⟩ .empty).2
  · have hderives := (hfits h).derives
    exact ⟨hderives, fun e he => he.unique hderives, hderives.tokens_eq⟩

/-- `2*(3-4)`: the group stands at the root's right. -/
theorem parse_faultless_group :
    let two := Token.literal (.int 2) 0 ['2']
    let times := Token.plain .times 1 ['*']
    let three := Token.literal (.int 3) 3 ['3']
    let minus := Token.plain .minus 4 ['-']
    let four := Token.literal (.int 4) 5 ['4']
    let ts :=
      [two, times, .plain .openParen 2 ['('], three, minus, four, .plain .closeParen 6 [')']]
    (∀ t ∈ ts, t.kind ≠ .endOfFile) ∧ (parse ts .empty).2.diagnostics = [] ∧
      (parse ts .empty).1 =
        .binary .mul times (.number two) (.binary .sub minus (.number three) (.number four)) := by
  intro two times three minus four ts
  have hend : ∀ t ∈ ts, t.kind ≠ .endOfFile := by decide
  have hinner : Derives .expression ([three] ++ minus :: [four])
      (.binary .sub minus (.number three) (.number four)) :=
    .joined (k := .sums) (.single (k := .sums) (.single (k := .products) (.literal rfl))) .minus
      (.single (k := .products) (.literal rfl))
  have hderives : Derives .expression ts
      (.binary .mul times (.number two) (.binary .sub minus (.number three) (.number four))) :=
    .single (k := .sums) (.joined (k := .products) (.single (k := .products) (.literal rfl)) .times
      (.group rfl hinner rfl))
  have hopen : OpenAtMost 256 ts := by
    simp [ts, two, times, three, minus, four, Token.nesting, Token.literal, Token.plain,
      Literal.kind]
  have hfaults : (parse ts .empty).2.diagnostics = [] :=
    (parse_faultless_iff ts hend).1.2 ⟨_, hderives, hopen, by decide⟩
  exact ⟨hend, hfaults, (((parse_faultless_iff ts hend).2 hfaults).2.1 _ hderives).symm⟩

end Reckon