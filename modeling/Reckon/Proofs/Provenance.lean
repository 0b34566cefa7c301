import Reckon.Proofs.Bounds

/-!
# Where the tokens of a tree come from

Whatever is missing in a row of tokens or left over in it, the parser makes its tree of the row's
own tokens, in their order, and of placeholders that have each been reported.

* `Expr.written`: the tokens of a tree from left to right, less the placeholders at its leaves.
* `Accounted`: where a leaf comes from.
* `Reading.Traced`: a reading with the tokens that it has passed and the faults that it has written
  down, one lemma for each of the parser's steps.
* `parse_traced`: **nothing is invented, doubled or moved**.
-/

namespace Reckon

/-! ## Leaves and placeholders -/

namespace Expr

/-- The tokens at the leaves from left to right. -/
def leaves : Expr → List Token
  | .number t => [t]
  | .node _ _ _ l r => l.leaves ++ r.leaves

/-- The tokens of a tree from left to right, less the placeholders at its leaves. -/
def written : Expr → List Token
  | .number t => if t.isPlaceholder then [] else [t]
  | .node _ t _ l r => l.written ++ t :: r.written

theorem written_number_sublist (t : Token) : (Expr.number t).written.Sublist [t] := by
  rw [written]
  split
  · exact List.nil_sublist _
  · exact List.Sublist.refl _

end Expr

/-- A token with characters stands for no missing one. -/
theorem Token.isPlaceholder_eq_false {t : Token} (h : t.lexeme ≠ []) :
    t.isPlaceholder = false := by
  simp [isPlaceholder, h]

/-- A leaf is one of the tokens passed, or it was reported that a number is missing there, or a
parenthesis was passed there and the flag of the depth limits is up. -/
def Accounted (used : List Token) (ds : List Diagnostic) (flag : Bool) (t : Token) : Prop :=
  t ∈ used ∨ (∃ found, .unexpected .intLiteral found t.position ∈ ds) ∨
    flag = true ∧ ∃ o ∈ used, o.kind = .openParen ∧ o.position = t.position

/-- A leaf stays accounted for when more is read. -/
theorem Accounted.mono {used used' : List Token} {ds ds' : List Diagnostic} {flag flag' : Bool}
    {t : Token} (h : Accounted used ds flag t) (hused : used ⊆ used') (hds : ds ⊆ ds')
    (hflag : flag = true → flag' = true) : Accounted used' ds' flag' t := by
  rcases h with hmem | ⟨found, hfound⟩ | ⟨hup, o, ho, hopen⟩
  · exact .inl (hused hmem)
  · exact .inr (.inl ⟨found, hds hfound⟩)
  · exact .inr (.inr ⟨hflag hup, o, hused ho, hopen⟩)

/-- The flag of the depth limits does not go down. -/
theorem Cursor.Records.tooDeep_mono {c c' : Cursor} {ds : List Diagnostic} (h : c.Records c' ds)
    (hflag : c.tooDeep = true) : c'.tooDeep = true := by
  have hcount := h.warnings
  rw [hflag] at hcount
  cases hup : c'.tooDeep with
  | true => rfl
  | false =>
    rw [hup] at hcount
    simp at hcount

/-- A flag that has gone up was reported. -/
theorem Cursor.Records.exists_tooDeep {c c' : Cursor} {ds : List Diagnostic} (h : c.Records c' ds)
    (hdown : c.tooDeep = false) (hup : c'.tooDeep = true) :
    ∃ limit position, .tooDeep limit position ∈ ds := by
  have hcount := h.warnings
  rw [hdown, hup] at hcount
  have hpos : 0 < ds.countP Diagnostic.isTooDeep := by
    simp at hcount
    omega
  obtain ⟨d, hd, hdeep⟩ := List.countP_pos_iff.1 hpos
  obtain ⟨limit, position, rfl⟩ := Diagnostic.eq_tooDeep hdeep
  exact ⟨limit, position, hd⟩

/-! ## The parser's steps -/

/-- The reading has passed the tokens `used` and written down the faults `ds`. Its tree is made of
some of these tokens, in their order, and of placeholders that have a reason. -/
structure Reading.Traced {c : Cursor} (r : Reading c) (used : List Token) (ds : List Diagnostic) :
    Prop where
  /-- the tokens passed -/
  rest : c.rest = used ++ r.next.rest
  /-- the faults -/
  records : c.Records r.next ds
  /-- the order of the tokens -/
  written : r.expr.written.Sublist used
  /-- where the leaves come from -/
  leaves : ∀ t ∈ r.expr.leaves, Accounted used ds r.next.tooDeep t

namespace Reading

theorem traced_missing (endAt : Nat) (c : Cursor) :
    ∃ used ds, (missing endAt c).Traced used ds := by
  refine ⟨[], _, rfl, c.records_reportUnexpected endAt .intLiteral, List.nil_sublist _, ?_⟩
  intro t ht
  obtain rfl := List.mem_singleton.1 ht
  exact .inr (.inl ⟨c.kind, List.mem_singleton.2 rfl⟩)

theorem traced_leaf {c : Cursor} {t : Token} {rest : List Token} (h : c.rest = t :: rest) :
    ∃ used ds, (leaf c t rest h).Traced used ds := by
  refine ⟨[t], [], h, (c.quiet_jump rest).records, Expr.written_number_sublist t, ?_⟩
  intro t' ht'
  exact .inl ht'

/-- The parenthesis of a group that is skipped is among the tokens passed. -/
theorem traced_refused {c : Cursor} {t : Token} {rest : List Token} (h : c.rest = t :: rest)
    (ht : t.kind = .openParen) : ∃ used ds, (refused c t).Traced used ds := by
  obtain ⟨skipped, hskipped⟩ := skipGroup_suffix 1 rest
  have hnext : skipGroup 0 c.rest = skipGroup 1 rest := by rw [h, skipGroup_open ht]
  have hwarns := c.warns_reportTooDeep nestingLimit t.position
  have hup : (refused c t).next.tooDeep = true := by
    change (c.reportTooDeep nestingLimit t.position).tooDeep = true
    rw [hwarns.tooDeep]
    simp
  refine ⟨t :: skipped, _, ?_, (c.records_reportTooDeep nestingLimit t.position).trans
    (Cursor.quiet_jump _ (skipGroup 0 c.rest)).records, List.nil_sublist _, ?_⟩
  · change c.rest = t :: skipped ++ skipGroup 0 c.rest
    rw [hnext, h, List.cons_append, hskipped]
  · intro t' ht'
    obtain rfl := List.mem_singleton.1 ht'
    exact .inr (.inr ⟨hup, t, List.mem_cons_self, ht, rfl⟩)

theorem Traced.group {endAt : Nat} {c : Cursor} {t : Token} {rest : List Token}
    (h : c.rest = t :: rest) {inside : (c : Cursor) → Reading c} {used : List Token}
    {ds : List Diagnostic} (hin : (inside (c.jump rest)).Traced used ds) :
    ∃ used ds, (group endAt c t rest h inside).Traced used ds := by
  obtain ⟨close, hclose⟩ := rest_closed_suffix endAt (inside (c.jump rest)).next
  obtain ⟨ds', hds'⟩ := records_closed endAt (inside (c.jump rest)).next
  have hused : used ⊆ t :: (used ++ close) := fun u hu => by simp [hu]
  refine ⟨t :: (used ++ close), _, ?_, ((c.quiet_jump rest).records.trans hin.records).trans hds',
    ?_, fun t' ht' => ?_⟩
  · have hrest : rest = used ++ (inside (c.jump rest)).next.rest := hin.rest
    change c.rest = t :: (used ++ close) ++ (closed endAt (inside (c.jump rest)).next).rest
    rw [List.cons_append, List.append_assoc, hclose, ← hrest, h]
  · exact (hin.written.trans (List.sublist_append_left used close)).trans
      (List.sublist_cons_self t _)
  · exact (hin.leaves t' ht').mono hused (List.subset_append_left ds ds') hds'.tooDeep_mono

/-- Two operands are joined, or the left one is kept. -/
theorem expr_join {origin c : Cursor} (op : Operator) (t : Token) (left : Reading origin)
    (right : Reading c) (h : c.rest <:+ origin.rest) :
    (left.join op t right h).expr = left.expr ∨
      (left.join op t right h).expr = .binary op t left.expr right.expr := by
  rw [join]
  split
  · exact .inl rfl
  · exact .inr rfl

theorem Traced.join {origin : Cursor} {left : Reading origin} {op : Operator} {t : Token}
    {rest : List Token} {right : Reading (left.next.jump rest)}
    (h : (left.next.jump rest).rest <:+ origin.rest) (hrest : left.next.rest = t :: rest)
    {xs ys : List Token} {ds ds' : List Diagnostic} (hleft : left.Traced xs ds)
    (hright : right.Traced ys ds') : ∃ used ds, (left.join op t right h).Traced used ds := by
  obtain ⟨ds'', hds''⟩ := records_join op t left right h
  have hboth := (hleft.records.trans (left.next.quiet_jump rest).records).trans hright.records
  have hxs : xs ⊆ xs ++ t :: ys := List.subset_append_left _ _
  have hys : ys ⊆ xs ++ t :: ys := fun u hu => by simp [hu]
  -- whichever of the two trees is kept, its leaves were there before the join
  have hl : ∀ u ∈ left.expr.leaves, Accounted (xs ++ t :: ys) (ds ++ [] ++ ds' ++ ds'')
      (left.join op t right h).next.tooDeep u := by
    intro u hu
    refine (hleft.leaves u hu).mono hxs (fun d hd => by simp [hd]) fun hup => ?_
    exact hds''.tooDeep_mono (hright.records.tooDeep_mono hup)
  have hr : ∀ u ∈ right.expr.leaves, Accounted (xs ++ t :: ys) (ds ++ [] ++ ds' ++ ds'')
      (left.join op t right h).next.tooDeep u := by
    intro u hu
    exact (hright.leaves u hu).mono hys (fun d hd => by simp [hd]) hds''.tooDeep_mono
  refine ⟨xs ++ t :: ys, _, ?_, hboth.trans hds'', ?_, ?_⟩
  · have hys' : rest = ys ++ right.next.rest := hright.rest
    rw [rest_join, hleft.rest, hrest, List.append_assoc, List.cons_append, ← hys']
  · rcases expr_join op t left right h with hexpr | hexpr
    · rw [hexpr]
      exact hleft.written.trans (List.sublist_append_left _ _)
    · rw [hexpr]
      exact hleft.written.append (hright.written.cons_cons t)
  · intro u hu
    rcases expr_join op t left right h with hexpr | hexpr
    · rw [hexpr] at hu
      exact hl u hu
    · rw [hexpr] at hu
      rcases List.mem_append.1 hu with hu | hu
      · exact hl u hu
      · exact hr u hu

end Reading

/-- Every reading of the parser can be traced. -/
theorem Made.traced {endAt : Nat} {c : Cursor} {r : Reading c} (h : Made endAt r) :
    ∃ used ds, r.Traced used ds := by
  induction h with
  | missing c => exact Reading.traced_missing endAt c
  | leaf h _ => exact Reading.traced_leaf h
  | refused h ht => exact Reading.traced_refused h ht
  | group h _ _ ih =>
    obtain ⟨used, ds, hin⟩ := ih
    exact hin.group h
  | join h hrest _ _ _ ihl ihr =>
    obtain ⟨xs, ds, hleft⟩ := ihl
    obtain ⟨ys, ds', hright⟩ := ihr
    exact hleft.join h hrest hright

/-! ## All tokens -/

/-- **Recovery neither invents, doubles nor moves tokens.** The tree of any row of tokens with
characters is made of tokens of the row, each at its own place and in the row's order, and of
placeholders. A placeholder stands where it was reported that a number is missing, or at a
parenthesis of the row, and then a depth limit was reported. -/
theorem parse_traced (ts : List Token) (hlexeme : ∀ t ∈ ts, t.lexeme ≠ []) (journal : Journal) :
    (parse ts journal).1.written.Sublist ts ∧
    ∃ ds, (parse ts journal).2.diagnostics = journal.diagnostics ++ ds ∧
      ∀ t ∈ (parse ts journal).1.leaves, t.isPlaceholder = true →
        (∃ found, .unexpected .intLiteral found t.position ∈ ds) ∨
        (∃ o ∈ ts, o.kind = .openParen ∧ o.position = t.position) ∧
          ∃ limit position, .tooDeep limit position ∈ ds := by
  obtain ⟨used, ds, htraced⟩ :=
    (made_expression (endOf ts) nestingLimit (startOf ts journal)).traced
  obtain ⟨ds', hfaults, -⟩ :=
    faults_reportTrailing (expression (endOf ts) nestingLimit (startOf ts journal)).next
  have hused : used.Sublist ts := by
    have hbody : used.Sublist (body ts) := by
      rw [show body ts = _ from htraced.rest]
      exact List.sublist_append_left _ _
    exact hbody.trans (List.takeWhile_sublist _)
  refine ⟨htraced.written.trans hused, ds ++ ds', ?_, fun t ht hplaceholder => ?_⟩
  · rw [diagnostics_parse, hfaults, htraced.records.faults, List.append_assoc]
    rfl
  · rcases htraced.leaves t ht with hmem | ⟨found, hfound⟩ | ⟨hup, o, ho, hopen⟩
    · have hread := Token.isPlaceholder_eq_false (hlexeme t (hused.subset hmem))
      rw [hread] at hplaceholder
      cases hplaceholder
    · exact .inl ⟨found, List.mem_append_left _ hfound⟩
    · obtain ⟨limit, position, hdeep⟩ := htraced.records.exists_tooDeep rfl hup
      exact .inr ⟨⟨o, hused.subset ho, hopen⟩, limit, position, List.mem_append_left _ hdeep⟩

/-- `(1+)*x`: two numbers are missing, each is reported, and the name is left over. -/
theorem parse_traced_gaps :
    let one := Token.literal (.int 1) 1 ['1']
    let plus := Token.plain .plus 2 ['+']
    let times := Token.plain .times 4 ['*']
    let ts := [.plain .openParen 0 ['('], one, plus, .plain .closeParen 3 [')'], times,
      .plain .identifier 5 ['x']]
    (∀ t ∈ ts, t.lexeme ≠ []) ∧
      (parse ts .empty).1.leaves = [one, .placeholder .intLiteral 3, .placeholder .intLiteral 5] ∧
      (parse ts .empty).1.written = [one, plus, times] ∧ [one, plus, times].Sublist ts ∧
      ∀ t ∈ (parse ts .empty).1.leaves, t.isPlaceholder = true →
        ∃ found, .unexpected .intLiteral found t.position ∈ (parse ts .empty).2.diagnostics := by
  intro one plus times ts
  have hlexeme : ∀ t ∈ ts, t.lexeme ≠ [] := by decide
  have hwritten : (parse ts .empty).1.written = [one, plus, times] := by decide +kernel
  have hquiet : ∀ limit position, .tooDeep limit position ∉ (parse ts .empty).2.diagnostics := by
    have hfaults : (parse ts .empty).2.diagnostics = [.unexpected .intLiteral .closeParen 3,
        .unexpected .intLiteral .identifier 5, .trailing .identifier 5] := by decide +kernel
    simp [hfaults]
  obtain ⟨hsublist, ds, hds, hleaves⟩ := parse_traced ts hlexeme .empty
  rw [Journal.diagnostics_empty, List.nil_append] at hds
  rw [hwritten] at hsublist
  rw [hds] at hquiet ⊢
  refine ⟨hlexeme, by decide +kernel, hwritten, hsublist, fun t ht hplaceholder => ?_⟩
  rcases hleaves t ht hplaceholder with hfound | ⟨-, limit, position, hdeep⟩
  · exact hfound
  · exact absurd hdeep (hquiet limit position)

end Reckon
