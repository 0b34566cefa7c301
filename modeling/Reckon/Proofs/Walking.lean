import Reckon.Proofs.Descent
import Reckon.Proofs.Walker

/-!
# The walk through the tokens

The walker reads what `parse` reads, and keeps to its place while it does.

* `Call.Orderly`: a call goes forward, stays before or at the first end of file, closes what it
  opened, and gets on at a parenthesis or a number.
* `Walker.On`: the places that a run can reach, as an invariant that each small step keeps.
* `Ends`: given time enough, a computation comes to its end.
* `Walker.Reads`: a call ends, with the tree and the place of a `Reading`. One lemma for each
  part of the descent says so: `reads_more` for the loop of a chain, by the tokens that are left,
  and `reads_primary` for the recursion through parentheses, by the number that may still be
  opened.
* `walk_orderly`: **every run ends, as `parse` does, and all of its calls are orderly**.
-/

namespace Reckon

/-! ## Time enough -/

/-- Given time enough, the computation ends with `r`, and more time does not change that. -/
def Ends {α : Type} (run : Nat → Option α) (r : α) : Prop :=
  ∃ bound, ∀ time, bound ≤ time → run time = some r

namespace Ends

variable {α β : Type} {run : Nat → Option α} {a : α} {b : β}

theorem now (h : ∀ time, run time = some a) : Ends run a := ⟨0, fun time _ => h time⟩

/-- A step that takes a unit of time. -/
theorem later (h : Ends (fun time => run (time + 1)) a) : Ends run a := by
  obtain ⟨bound, h⟩ := h
  refine ⟨bound + 1, fun time htime => ?_⟩
  obtain ⟨time, rfl⟩ := Nat.exists_eq_add_one.2 (Nat.lt_of_lt_of_le bound.succ_pos htime)
  exact h time (Nat.le_of_succ_le_succ htime)

/-- Two computations one after the other. -/
theorem bind {next : Nat → α → Option β} (h : Ends run a) (h' : Ends (fun time => next time a) b) :
    Ends (fun time => (run time).bind (next time)) b := by
  obtain ⟨bound, h⟩ := h
  obtain ⟨bound', h'⟩ := h'
  refine ⟨max bound bound', fun time htime => ?_⟩
  exact Option.bind_eq_some_iff.mpr ⟨a, h time (by omega), h' time (by omega)⟩

end Ends

/-! ## Orderly calls -/

/-- A call that keeps to the discipline of the walk along the tokens `ts`. -/
structure Call.Orderly (ts : List Token) (c : Call) : Prop where
  /-- it does not go back -/
  forward : c.start ≤ c.stop
  /-- it does not go past the first end of file -/
  stop_le : c.stop ≤ ts.findIdx fun t => t.kind = .endOfFile
  /-- it closes what it opened -/
  after_eq : c.after = c.before
  /-- no more parentheses are open than allowed -/
  before_le : c.before ≤ nestingLimit
  /-- it gets on where there is something to read -/
  progress : ∀ t, ts[c.start]? = some t → t.kind = .openParen ∨ t.kind = .intLiteral →
    c.start < c.stop

/-- The first end of file comes right after the body. -/
theorem findIdx_end (ts : List Token) :
    ts.findIdx (fun t => t.kind = .endOfFile) = (body ts).length := by
  induction ts with
  | nil => rfl
  | cons t ts ih =>
    rw [List.findIdx_cons, body, List.takeWhile_cons]
    by_cases h : t.kind = .endOfFile
    · simp [h]
    · simpa [h, body] using ih

/-- Nothing behind an end of file belongs to the body. -/
theorem body_append_end {eof : Token} (h : eof.kind = .endOfFile) (before after : List Token) :
    body (before ++ eof :: after) = body before := by
  have hend : (eof :: after).takeWhile (fun t => t.kind ≠ .endOfFile) = [] := by simp [h]
  rw [body, List.takeWhile_append, hend, List.append_nil, body]
  split
  · exact (List.takeWhile_prefix _ |>.eq_of_length ‹_›).symm
  · rfl

/-- Tokens with an end of file among them are the body, the end, and what nobody reads. -/
theorem exists_end {ts : List Token} (h : ∃ t ∈ ts, t.kind = .endOfFile) :
    ∃ eof after, ts = body ts ++ eof :: after ∧ eof.kind = .endOfFile ∧
      endOf ts = eof.position := by
  obtain ⟨eof, hfind⟩ : ∃ eof, ts.find? (fun t => t.kind = .endOfFile) = some eof := by
    rw [← Option.isSome_iff_exists, List.find?_isSome]
    simpa using h
  obtain ⟨heof, before, after, rfl, hbefore⟩ := List.find?_eq_some_iff_append.mp hfind
  have heof : eof.kind = .endOfFile := by simpa using heof
  refine ⟨eof, after, ?_, heof, by rw [endOf, hfind]⟩
  rw [body_append_end heof, body_eq_self (by simpa using hbefore)]

/-! ## The place of a walker -/

namespace Walker

/-- The place as a cursor: the tokens that are left of the body. -/
def cursor (w : Walker) : Cursor := ⟨(body w.tokens).drop w.position, w.tooDeep, w.journal⟩

/-- The walker is at a place of the tokens `ts` that a run can reach, with `nesting` parentheses
open and all calls before it in order. -/
structure On (ts : List Token) (nesting : Nat) (w : Walker) : Prop where
  /-- the tokens never change -/
  tokens_eq : w.tokens = ts
  /-- an end of file is among them -/
  ended : ∃ t ∈ ts, t.kind = .endOfFile
  /-- the position is not past the first one -/
  position_le : w.position ≤ (body ts).length
  /-- the open parentheses -/
  nesting_eq : w.nesting = nesting
  /-- there are not too many -/
  nesting_le : nesting ≤ nestingLimit
  /-- the calls left so far are in order -/
  calls_orderly : ∀ c ∈ w.calls, c.Orderly ts

variable {ts : List Token} {n : Nat} {w w' : Walker}

theorem On.rest_eq (h : w.On ts n) : w.cursor.rest = (body ts).drop w.position := by
  rw [cursor, h.tokens_eq]

theorem On.length_rest (h : w.On ts n) :
    w.cursor.rest.length = (body ts).length - w.position := by
  rw [h.rest_eq, List.length_drop]

/-- At a place that a run can reach nothing is read outside of the row. -/
theorem On.current_eq (h : w.On ts n) : w.current = ts[w.position]? := by
  obtain ⟨eof, after, hts, -⟩ := exists_end h.ended
  have hlength : (body ts).length < ts.length := by
    have := congrArg List.length hts
    simp only [List.length_append, List.length_cons] at this
    omega
  have := h.position_le
  rw [current, h.tokens_eq, Nat.min_eq_left (by omega)]

/-- The next token of the body. -/
theorem On.current_of_cons (h : w.On ts n) {t : Token} {rest : List Token}
    (hrest : w.cursor.rest = t :: rest) : w.current = some t := by
  obtain ⟨eof, after, hts, -⟩ := exists_end h.ended
  have hget : (body ts)[w.position]? = some t := by
    rw [← List.head?_drop, ← h.rest_eq, hrest]
    rfl
  rw [h.current_eq, hts, List.getElem?_append_left (List.getElem?_eq_some_iff.mp hget).1, hget]

/-- After the body comes the first end of file. -/
theorem On.current_of_nil (h : w.On ts n) (hrest : w.cursor.rest = []) :
    ∃ eof, w.current = some eof ∧ eof.kind = .endOfFile ∧ eof.position = endOf ts := by
  obtain ⟨eof, after, hts, heof, hend⟩ := exists_end h.ended
  have hposition : w.position = (body ts).length := by
    have hlength := h.length_rest
    have := h.position_le
    simp only [hrest, List.length_nil] at hlength
    omega
  refine ⟨eof, ?_, heof, hend.symm⟩
  rw [h.current_eq, hts, List.getElem?_append_right (by omega), hposition]
  simp

theorem On.kind_ne_end (h : w.On ts n) {t : Token} {rest : List Token}
    (hrest : w.cursor.rest = t :: rest) : t.kind ≠ .endOfFile := by
  have hmem : t ∈ body ts := List.mem_of_mem_drop (by rw [← h.rest_eq, hrest]; simp)
  simpa using List.mem_takeWhile_imp hmem

/-- What the parser sees of the next token. -/
theorem On.current_view (h : w.On ts n) :
    ∃ t, w.current = some t ∧ t.kind = w.cursor.kind ∧
      t.position = w.cursor.position (endOf ts) := by
  match hrest : w.cursor.rest with
  | [] =>
    obtain ⟨eof, hcurrent, hkind, hposition⟩ := h.current_of_nil hrest
    exact ⟨eof, hcurrent, hkind.trans (Cursor.kind_of_nil hrest).symm,
      by rw [hposition, Cursor.position, hrest]⟩
  | t :: rest =>
    exact ⟨t, h.current_of_cons hrest, (Cursor.kind_of_cons hrest).symm,
      by rw [Cursor.position, hrest]⟩

/-- Taking a token of the body. -/
theorem On.advance (h : w.On ts n) {t : Token} {rest : List Token}
    (hrest : w.cursor.rest = t :: rest) :
    ∃ w', w.advance = some (t, w') ∧ w'.cursor = w.cursor.jump rest ∧ w'.On ts n := by
  obtain ⟨eof, after, hts, -⟩ := exists_end h.ended
  have hlength := h.length_rest
  have htotal := congrArg List.length hts
  simp only [hrest, List.length_append, List.length_cons] at hlength htotal
  refine ⟨{ w with position := w.position + 1 }, ?_, ?_, ?_⟩
  · rw [Walker.advance, h.current_of_cons hrest, h.tokens_eq]
    simp only [Option.bind_eq_bind, Option.bind_some, Option.pure_def]
    rw [if_pos (by omega)]
  · have hdrop : (body w.tokens).drop (w.position + 1) = rest := by
      rw [← List.drop_drop, show (body w.tokens).drop w.position = t :: rest from hrest]
      rfl
    simp [cursor, Cursor.jump, hdrop]
  · exact { h with position_le := by simp only; omega }

/-- Writing down an event. -/
theorem On.note (h : w.On ts n) (e : Event) : (w.note e).On ts n := { h with }

@[simp] theorem cursor_note (w : Walker) (e : Event) : (w.note e).cursor = w.cursor.note e := rfl

theorem On.reportTooDeep (h : w.On ts n) (limit position : Nat) :
    (w.reportTooDeep limit position).On ts n := by
  rw [Walker.reportTooDeep]
  split
  · exact h
  · exact { h with }

@[simp] theorem cursor_reportTooDeep (w : Walker) (limit position : Nat) :
    (w.reportTooDeep limit position).cursor = w.cursor.reportTooDeep limit position := by
  rw [Walker.reportTooDeep, Cursor.reportTooDeep, show w.cursor.tooDeep = w.tooDeep from rfl]
  split <;> rfl

/-- Writing down a call that went forward, and got on where there was something to read. -/
theorem On.record (h : w.On ts n) (h' : w'.On ts n) (rule : Rule)
    (hforward : w'.cursor.rest <:+ w.cursor.rest)
    (hprogress : w.cursor.kind = .openParen ∨ w.cursor.kind = .intLiteral →
      w'.cursor.rest.length < w.cursor.rest.length) : (w'.record rule w).On ts n := by
  have hlength := hforward.length_le
  have hle := h.position_le
  have hle' := h'.position_le
  rw [h.length_rest, h'.length_rest] at hlength hprogress
  refine { h' with calls_orderly := ?_ }
  intro c hc
  rcases List.mem_append.mp hc with hc | hc
  · exact h'.calls_orderly c hc
  · obtain rfl := List.mem_singleton.mp hc
    refine ⟨by simp only; omega, by simpa only [findIdx_end], ?_, ?_, ?_⟩
    · exact h'.nesting_eq.trans h.nesting_eq.symm
    · exact h.nesting_eq ▸ h.nesting_le
    · intro t ht hkind
      obtain ⟨t', ht', hkind', -⟩ := h.current_view
      obtain rfl : t = t' := Option.some.inj (ht.symm.trans (h.current_eq.symm.trans ht'))
      have := hprogress (hkind' ▸ hkind)
      simp only
      omega

/-! ## Calls and readings -/

/-- The call ends where the reading does, with its tree. -/
def Reads (ts : List Token) (n : Nat) {c : Cursor} (r : Reading c)
    (run : Nat → Option (Expr × Walker)) : Prop :=
  ∃ w', Ends run (r.expr, w') ∧ w'.cursor = r.next ∧ w'.On ts n

end Walker

/-- What each phrase of the grammar reads. -/
def phrase (endAt room : Nat) : Phrase → (c : Cursor) → Reading c
  | .primary => primary endAt room
  | .chain .products => term endAt room
  | .chain .sums => expression endAt room

theorem phrase_chain (endAt room : Nat) (k : Tightness) (c : Cursor) :
    phrase endAt room (.chain k) c =
      chain k (phrase endAt room k.operand) (phrase endAt room k.operand c) := by
  cases k <;> rfl

/-- A property that every step keeps holds of every phrase. -/
theorem Invariant.phrase {endAt : Nat} {P : Phrase → Nat → (c : Cursor) → Reading c → Prop}
    (hP : Invariant endAt P) (p : Phrase) (room : Nat) (c : Cursor) :
    P p room c (Reckon.phrase endAt room p c) := by
  match p with
  | .primary => exact hP.primary room c
  | .chain .products => exact hP.chain (k := .products) (hP.primary room) c
  | .chain .sums => exact hP.expression room c

/-- Skipping a group takes its parenthesis. -/
theorem length_skipGroup_lt {t : Token} (ht : t.kind = .openParen) (rest : List Token) :
    (skipGroup 0 (t :: rest)).length < (t :: rest).length := by
  rw [skipGroup, if_pos ht, List.length_cons]
  exact Nat.lt_succ_of_le (skipGroup_suffix _ rest).length_le

/-- At a parenthesis or a number every phrase takes a token at least. -/
theorem progress_invariant (endAt : Nat) : Invariant endAt fun _ _ c r =>
    c.kind = .openParen ∨ c.kind = .intLiteral → r.next.rest.length < c.rest.length where
  missing _ c hopen hint := by
    rintro (h | h)
    · exact absurd h hopen
    · exact absurd h hint
  leaf _ c t rest h _ _ := by simp [leaf, h]
  refused c t rest h ht _ := by
    simp only [refused, Cursor.rest_jump, h]
    exact length_skipGroup_lt ht rest
  group _ c t rest h inside _ _ _ _ := by
    have hclosed := (rest_closed_suffix endAt (inside (c.jump rest)).next).length_le
    have hinside := (inside (c.jump rest)).forward.length_le
    simp only [group, Cursor.rest_jump, h, List.length_cons] at hinside ⊢
    omega
  single _ _ _ _ h := h
  join _ _ origin left op t rest right h hrest _ hleft _ hkind :=
    (Reading.length_join_lt hrest op right h).trans (hleft hkind)

namespace Walker

variable {ts : List Token} {n room : Nat} {w w' : Walker}

/-- Skipping ends, after the group if it is closed, and else at the end of file. -/
theorem reads_skip (h : w.On ts n) (opened : Nat) :
    ∃ w', Ends (fun time => w.skip time opened) w' ∧
      w'.cursor = w.cursor.jump (Reckon.skipGroup opened w.cursor.rest) ∧ w'.On ts n := by
  induction hrest : w.cursor.rest generalizing w opened with
  | nil =>
    obtain ⟨eof, hcurrent, hkind, -⟩ := h.current_of_nil hrest
    refine ⟨w, .later (.now fun time => ?_), ?_, h⟩
    · rw [skip, hcurrent]
      simp [hkind]
    · rw [Reckon.skipGroup, ← hrest]
      rfl
  | cons t rest ih =>
    obtain ⟨w₁, hadvance, hcursor, h₁⟩ := h.advance hrest
    have hnext : ∀ opened, ∃ w', Ends (fun time => w₁.skip time opened) w' ∧
        w'.cursor = w.cursor.jump (Reckon.skipGroup opened rest) ∧ w'.On ts n := by
      intro opened
      obtain ⟨w', hskip, hw', h'⟩ := ih h₁ opened (by rw [hcursor, Cursor.rest_jump])
      exact ⟨w', hskip, by rw [hw', hcursor]; rfl, h'⟩
    suffices hlater : ∃ w', Ends (fun time => w.skip (time + 1) opened) w' ∧
        w'.cursor = w.cursor.jump (Reckon.skipGroup opened (t :: rest)) ∧ w'.On ts n from
      hlater.imp fun _ => And.imp_left .later
    simp only [skip, h.current_of_cons hrest, Option.bind_eq_bind, Option.bind_some,
      Option.pure_def, h.kind_ne_end hrest, if_false, hadvance, Reckon.skipGroup]
    split
    · exact hnext _
    split
    · simp only [Nat.sub_eq_zero_iff_le]
      split
      · exact ⟨w₁, .now fun _ => rfl, hcursor, h₁⟩
      · exact hnext _
    · exact hnext _

/-- A skipped group is a call of its own. -/
theorem reads_skipGroup (h : w.On ts n) {t : Token} {rest : List Token}
    (hrest : w.cursor.rest = t :: rest) (ht : t.kind = .openParen) :
    ∃ w', Ends (fun time => w.skipGroup time) w' ∧
      w'.cursor = w.cursor.jump (Reckon.skipGroup 0 w.cursor.rest) ∧ w'.On ts n := by
  obtain ⟨w', hskip, hcursor, h'⟩ := reads_skip h 0
  refine ⟨w'.record .skipGroup w, hskip.bind (.now fun _ => rfl), hcursor, ?_⟩
  refine h.record h' .skipGroup ?_ fun _ => ?_
  · rw [hcursor]
    exact skipGroup_suffix 0 _
  · rw [hcursor, hrest, Cursor.rest_jump]
    exact length_skipGroup_lt ht rest

/-- A token that had to come. -/
theorem reads_expect (h : w.On ts n) (kind : Kind) (hkind : kind ≠ .endOfFile) :
    (∃ t rest w', w.cursor.rest = t :: rest ∧ t.kind = kind ∧ w.expect kind = some (t, w') ∧
        w'.cursor = w.cursor.jump rest ∧ w'.On ts n) ∨
      w.cursor.kind ≠ kind ∧ ∃ w',
        w.expect kind = some (.placeholder kind (w.cursor.position (endOf ts)), w') ∧
        w'.cursor = w.cursor.reportUnexpected (endOf ts) kind ∧ w'.On ts n := by
  obtain ⟨t, hcurrent, hview, hposition⟩ := h.current_view
  rw [expect, hcurrent]
  by_cases ht : t.kind = kind
  · match hrest : w.cursor.rest with
    | [] =>
      rw [Cursor.kind_of_nil hrest, ht] at hview
      exact absurd hview hkind
    | t' :: rest =>
      obtain ⟨w', hadvance, hcursor, h'⟩ := h.advance hrest
      rw [Cursor.kind_of_cons hrest, ht] at hview
      refine .inl ⟨t', rest, w', rfl, hview.symm, ?_, hcursor, h'⟩
      simpa [ht] using hadvance
  · refine .inr ⟨hview ▸ ht, w.note (.found (.unexpected kind t.kind t.position)), ?_, ?_, h.note _⟩
    · simp [ht, hposition]
    · rw [cursor_note, hview, hposition]
      rfl

/-- A call of its own, once the grammar is followed. -/
theorem reads_of_follow {p : Phrase} (h : w.On ts n)
    (hfollow : Reads ts n (phrase (endOf ts) room p w.cursor) fun time => w.follow time p) :
    Reads ts n (phrase (endOf ts) room p w.cursor) fun time => w.read time p := by
  obtain ⟨w', hends, hcursor, h'⟩ := hfollow
  refine ⟨w'.record (.read p) w, .later ?_, hcursor, ?_⟩
  · simp only [read]
    exact hends.bind (.now fun _ => rfl)
  refine h.record h' _ ?_ ?_
  · rw [hcursor]
    exact (phrase (endOf ts) room p w.cursor).forward
  · rw [hcursor]
    exact (progress_invariant (endOf ts)).phrase p room w.cursor

/-- Joining two operands is joining their readings. -/
theorem reads_join {origin c : Cursor} {left : Reading origin} {right : Reading c} (h : w.On ts n)
    (hcursor : w.cursor = right.next) (op : Operator) (t : Token)
    (hsuffix : c.rest <:+ origin.rest) :
    ∃ w', w.join op t left.expr right.expr = ((left.join op t right hsuffix).expr, w') ∧
      w'.cursor = (left.join op t right hsuffix).next ∧ w'.On ts n := by
  rw [join, Reading.join]
  split
  · exact ⟨_, rfl, by rw [cursor_reportTooDeep, hcursor], h.reportTooDeep _ _⟩
  · exact ⟨_, rfl, by rw [cursor_note, hcursor], h.note _⟩

/-- The loop of a chain ends: each round takes an operator. -/
theorem reads_more {k : Tightness}
    (hop : ∀ w : Walker, w.On ts n →
      Reads ts n (phrase (endOf ts) room k.operand w.cursor) fun time => w.read time k.operand)
    {origin : Cursor} (left : Reading origin) {w : Walker} (h : w.On ts n)
    (hcursor : w.cursor = left.next) :
    Reads ts n (chain k (phrase (endOf ts) room k.operand) left)
      fun time => w.more time k left.expr := by
  match hrest : left.next.rest with
  | [] =>
    obtain ⟨eof, hcurrent, hkind, -⟩ := h.current_of_nil (hcursor ▸ hrest)
    have hnone : k.operator? eof.kind = none := by rw [hkind]; cases k <;> rfl
    rw [chain_of_nil hrest]
    exact ⟨w, .later (.now fun time => by simp [more, hcurrent, hnone]), hcursor, h⟩
  | t :: rest =>
    have hrest' : w.cursor.rest = t :: rest := hcursor ▸ hrest
    have hcurrent := h.current_of_cons hrest'
    rcases hkind : k.operator? t.kind with _ | op
    · rw [chain_of_none hrest hkind]
      exact ⟨w, .later (.now fun time => by simp [more, hcurrent, hkind]), hcursor, h⟩
    · obtain ⟨w₁, hadvance, hcursor₁, h₁⟩ := h.advance hrest'
      rw [hcursor] at hcursor₁
      obtain ⟨w₂, hread, hcursor₂, h₂⟩ := hop w₁ h₁
      rw [hcursor₁] at hread hcursor₂
      have hsuffix : (left.next.jump rest).rest <:+ origin.rest :=
        (hrest ▸ List.suffix_cons t rest : rest <:+ left.next.rest).trans left.forward
      obtain ⟨w₃, hjoin, hcursor₃, h₃⟩ := reads_join h₂ hcursor₂ op t hsuffix
      obtain ⟨w₄, hmore, hcursor₄, h₄⟩ := reads_more hop _ h₃ hcursor₃
      rw [chain_of_some hrest hkind]
      refine ⟨w₄, .later ?_, hcursor₄, h₄⟩
      simp only [more, hcurrent, Option.bind_eq_bind, Option.bind_some, hkind, hadvance]
      refine hread.bind ?_
      simpa only [hjoin] using hmore
termination_by left.next.rest.length
decreasing_by exact Reading.length_join_lt hrest _ _ _

/-- A chain is read when its operands are. -/
theorem reads_chain {k : Tightness}
    (hop : ∀ w : Walker, w.On ts n →
      Reads ts n (phrase (endOf ts) room k.operand w.cursor) fun time => w.read time k.operand)
    (w : Walker) (h : w.On ts n) :
    Reads ts n (phrase (endOf ts) room (.chain k) w.cursor) fun time => w.read time (.chain k) := by
  refine reads_of_follow h ?_
  obtain ⟨w₁, hread, hcursor₁, h₁⟩ := hop w h
  obtain ⟨w₂, hmore, hcursor₂, h₂⟩ := reads_more hop _ h₁ hcursor₁
  rw [phrase_chain]
  refine ⟨w₂, .later ?_, hcursor₂, h₂⟩
  simp only [follow]
  exact hread.bind hmore

/-- So is an expression when its primaries are. -/
theorem reads_expression
    (hop : ∀ w : Walker, w.On ts n →
      Reads ts n (phrase (endOf ts) room .primary w.cursor) fun time => w.read time .primary)
    (w : Walker) (h : w.On ts n) :
    Reads ts n (phrase (endOf ts) room .expression w.cursor) fun time => w.read time .expression :=
  reads_chain (k := .sums) (reads_chain (k := .products) hop) w h

/-- A number, or its absence. -/
theorem follow_number (h : w.On ts n) (hopen : w.cursor.kind ≠ .openParen) :
    Reads ts n (primary (endOf ts) room w.cursor) fun time => w.follow time .primary := by
  obtain ⟨t, hcurrent, hview, -⟩ := h.current_view
  have ht : t.kind ≠ .openParen := hview ▸ hopen
  obtain ⟨t', rest, w', hrest, hkind, hexpect, hcursor, h'⟩ | ⟨hkind, w', hexpect, hcursor, h'⟩ :=
    reads_expect h .intLiteral (by decide)
  · rw [primary_of_literal hrest hkind]
    exact ⟨w', .later (.now fun time => by simp [follow, hcurrent, ht, hexpect, leaf]), hcursor, h'⟩
  · rw [primary_of_missing hopen hkind]
    exact ⟨w', .later (.now fun time => by simp [follow, hcurrent, ht, hexpect, missing]), hcursor,
      h'⟩

/-- A group that would open too many parentheses. -/
theorem follow_refused (h : w.On ts nestingLimit) {t : Token} {rest : List Token}
    (hrest : w.cursor.rest = t :: rest) (ht : t.kind = .openParen) :
    Reads ts nestingLimit (primary (endOf ts) 0 w.cursor) fun time => w.follow time .primary := by
  have hcursor := cursor_reportTooDeep w nestingLimit t.position
  have hrest' : (w.reportTooDeep nestingLimit t.position).cursor.rest = t :: rest := by
    rwa [hcursor, Cursor.rest_reportTooDeep]
  obtain ⟨w', hskip, hcursor', h'⟩ :=
    reads_skipGroup (h.reportTooDeep nestingLimit t.position) hrest' ht
  rw [primary_of_refused hrest ht]
  refine ⟨w', .later ?_, ?_, h'⟩
  · simp only [follow, h.current_of_cons hrest, Option.bind_eq_bind, Option.bind_some, ht,
      h.nesting_eq, if_true, Nat.le_refl]
    exact hskip.bind (.now fun _ => rfl)
  · rw [hcursor', hcursor, Cursor.rest_reportTooDeep]
    rfl

/-- The closing parenthesis of a group. -/
theorem reads_closed (h : w.On ts n) :
    ∃ t w', w.expect .closeParen = some (t, w') ∧ w'.cursor = closed (endOf ts) w.cursor ∧
      w'.On ts n := by
  obtain ⟨t, rest, w', hrest, hkind, hexpect, hcursor, h'⟩ | ⟨hkind, w', hexpect, hcursor, h'⟩ :=
    reads_expect h .closeParen (by decide)
  · exact ⟨t, w', hexpect, by rw [hcursor, closed_of_close hrest hkind], h'⟩
  · rcases closed_eq (endOf ts) w.cursor with ⟨t, rest, hrest, ht, -⟩ | ⟨-, hclosed⟩
    · exact absurd ((Cursor.kind_of_cons hrest).trans ht) hkind
    · exact ⟨_, w', hexpect, by rw [hcursor, hclosed], h'⟩

/-- A group, when its inside is read with one more parenthesis open. -/
theorem follow_group (h : w.On ts n) {t : Token} {rest : List Token}
    (hrest : w.cursor.rest = t :: rest) (ht : t.kind = .openParen) (hlt : n < nestingLimit)
    (hinside : ∀ w : Walker, w.On ts (n + 1) → Reads ts (n + 1)
      (phrase (endOf ts) room .expression w.cursor) fun time => w.read time .expression) :
    Reads ts n (primary (endOf ts) (room + 1) w.cursor) fun time => w.follow time .primary := by
  obtain ⟨w₁, hadvance, hcursor₁, h₁⟩ := h.advance hrest
  have henter : w₁.enter.On ts (n + 1) :=
    { h₁ with nesting_eq := congrArg (· + 1) h₁.nesting_eq, nesting_le := hlt }
  obtain ⟨w₂, hread, hcursor₂, h₂⟩ := hinside _ henter
  rw [show w₁.enter.cursor = w.cursor.jump rest from hcursor₁] at hread hcursor₂
  have hleave : w₂.leave = some { w₂ with nesting := n } := by
    simp [leave, h₂.nesting_eq]
  have h₃ : On ts n { w₂ with nesting := n } :=
    { h₂ with nesting_eq := rfl, nesting_le := h.nesting_le }
  obtain ⟨t', w₄, hexpect, hcursor₄, h₄⟩ := reads_closed h₃
  rw [primary_of_open hrest ht]
  refine ⟨w₄, .later ?_, hcursor₄.trans (congrArg _ hcursor₂), h₄⟩
  simp only [follow, h.current_of_cons hrest, Option.bind_eq_bind, Option.bind_some, ht,
    h.nesting_eq, if_true, Nat.not_le.mpr hlt, if_false, hadvance]
  refine hread.bind (.now fun time => ?_)
  simp only [hleave, hexpect, Option.bind_some]
  rfl

/-- A primary is read, however many parentheses are open: the recursion goes down with the
number of those that may still be opened. -/
theorem reads_primary (room : Nat) {n : Nat} (hroom : n + room = nestingLimit) (w : Walker)
    (h : w.On ts n) :
    Reads ts n (phrase (endOf ts) room .primary w.cursor) fun time => w.read time .primary := by
  refine reads_of_follow h ?_
  by_cases hopen : w.cursor.kind = .openParen
  · obtain ⟨t, rest, hrest⟩ := List.exists_cons_of_ne_nil (l := w.cursor.rest) fun hnil => by
      rw [Cursor.kind_of_nil hnil] at hopen
      cases hopen
    have ht : t.kind = .openParen := Cursor.kind_of_cons hrest ▸ hopen
    match room with
    | 0 =>
      obtain rfl : n = nestingLimit := hroom
      exact follow_refused h hrest ht
    | room + 1 =>
      refine follow_group h hrest ht (by omega) (reads_expression ?_)
      exact reads_primary room (by omega)
  · exact follow_number h hopen

/-! ## Whole runs -/

theorem exists_end_withFinalEnd (ts : List Token) : ∃ t ∈ withFinalEnd ts, t.kind = .endOfFile := by
  rw [withFinalEnd]
  split
  · rename_i h
    obtain ⟨t, hlast, hkind⟩ := Option.map_eq_some_iff.mp h
    exact ⟨t, List.mem_of_getLast? hlast, hkind⟩
  · exact ⟨_, List.mem_append_right _ (List.mem_singleton_self _), rfl⟩

/-- An end of file behind a row changes neither its body nor where it ends. -/
theorem body_withFinalEnd (ts : List Token) : body (withFinalEnd ts) = body ts := by
  rw [withFinalEnd]
  split
  · rfl
  · exact body_append_end rfl ts []

theorem endOf_withFinalEnd (ts : List Token) : endOf (withFinalEnd ts) = endOf ts := by
  rw [withFinalEnd]
  split
  · rfl
  · rw [endOf, endOf, List.find?_append]
    cases ts.find? fun t => t.kind = .endOfFile <;> rfl

theorem on_start (ts : List Token) (journal : Journal) :
    (start ts journal).On (withFinalEnd ts) 0 where
  tokens_eq := rfl
  ended := exists_end_withFinalEnd ts
  position_le := Nat.zero_le _
  nesting_eq := rfl
  nesting_le := Nat.zero_le _
  calls_orderly := by simp [start]

theorem cursor_start (ts : List Token) (journal : Journal) :
    (start ts journal).cursor = startOf ts journal := by
  simp [cursor, start, startOf, body_withFinalEnd]

theorem reads_trailing (h : w.On ts n) :
    ∃ w', w.reportTrailing = some w' ∧ w'.cursor = Reckon.reportTrailing w.cursor ∧
      w'.calls = w.calls ∧ w'.On ts n := by
  match hrest : w.cursor.rest with
  | [] =>
    obtain ⟨eof, hcurrent, hkind, -⟩ := h.current_of_nil hrest
    refine ⟨w, ?_, (reportTrailing_of_nil hrest).symm, rfl, h⟩
    simp [Walker.reportTrailing, hcurrent, hkind]
  | t :: rest =>
    refine ⟨w.note (.found (.trailing t.kind t.position)), ?_, ?_, rfl, h.note _⟩
    · simp [Walker.reportTrailing, h.current_of_cons hrest, h.kind_ne_end hrest]
    · rw [Reckon.reportTrailing, hrest]
      rfl

/-- The call that is left last is the outermost one. -/
theorem getLast?_calls_read {p : Phrase} {e : Expr} (h : Ends (fun time => w.read time p) (e, w')) :
    w'.calls.getLast? = some ⟨.read p, w.position, w'.position, w.nesting, w'.nesting⟩ := by
  obtain ⟨bound, h⟩ := h
  have hread : w.read (bound + 1) p = some (e, w') := h (bound + 1) (Nat.le_succ bound)
  rw [read] at hread
  obtain ⟨⟨e', w₁⟩, -, hrecord⟩ := Option.bind_eq_some_iff.mp hread
  cases hrecord
  exact List.getLast?_concat

/-- A run ends as `parse` does, and is one call at a place that it can reach. -/
theorem ends_parse (ts : List Token) (journal : Journal) :
    ∃ w, Ends (fun time => parse time ts journal) ((Reckon.parse ts journal).1, w) ∧
      w.journal = (Reckon.parse ts journal).2 ∧
      (∃ stop, w.calls.getLast? = some ⟨.read .expression, 0, stop, 0, 0⟩) ∧
      w.On (withFinalEnd ts) 0 := by
  obtain ⟨w₁, hread, hcursor, h₁⟩ :=
    reads_expression (reads_primary nestingLimit (Nat.zero_add _)) _ (on_start ts journal)
  rw [cursor_start, endOf_withFinalEnd] at hread hcursor
  obtain ⟨w₂, htrailing, hcursor', hcalls, h₂⟩ := reads_trailing h₁
  refine ⟨w₂.note (.parsed (Reckon.parse ts journal).1.nodeCount), ?_, ?_, ?_, h₂.note _⟩
  · refine hread.bind (.now fun time => ?_)
    simp only [htrailing, Option.bind_eq_bind, Option.bind_some]
    rfl
  · have hjournal : w₂.journal = (Reckon.reportTrailing w₁.cursor).journal :=
      congrArg Cursor.journal hcursor'
    rw [hcursor] at hjournal
    rw [note, hjournal]
    rfl
  · have hlast := getLast?_calls_read hread
    rw [h₁.nesting_eq, ← hcalls] at hlast
    exact ⟨_, hlast⟩

end Walker

/-- Nothing behind an end of file is read. -/
theorem parse_append_end {eof : Token} (h : eof.kind = .endOfFile) (before after : List Token)
    (journal : Journal) :
    parse (before ++ eof :: after) journal = parse (before ++ [eof]) journal := by
  have hend : endOf (before ++ eof :: after) = endOf (before ++ [eof]) := by
    rw [endOf, endOf, List.find?_append, List.find?_append]
    cases before.find? fun t => t.kind = .endOfFile <;> simp [h]
  rw [parse, parse, hend, body_append_end h, body_append_end h]

/-- **The parser walks in order.** On every row of tokens the machine ends, with the tree and the
journal of `parse`; every call on the way went forward, stopped at the first end of file at the
latest, closed the parentheses that it opened, never with too many open, and took a token where a
parenthesis or a number was next. So nothing behind an end of file matters. -/
theorem walk_orderly (ts : List Token) (journal : Journal) :
    (∃ w, Ends (fun time => Walker.parse time ts journal) ((parse ts journal).1, w) ∧
      w.journal = (parse ts journal).2 ∧
      (∃ stop, w.calls.getLast? = some ⟨.read .expression, 0, stop, 0, 0⟩) ∧
      ∀ c ∈ w.calls, c.Orderly (withFinalEnd ts)) ∧
    ∀ (before after after' : List Token) (eof : Token), eof.kind = .endOfFile →
      parse (before ++ eof :: after) journal = parse (before ++ eof :: after') journal := by
  refine ⟨?_, fun before after after' eof heof => ?_⟩
  · obtain ⟨w, hparse, hjournal, hlast, h⟩ := Walker.ends_parse ts journal
    exact ⟨w, hparse, hjournal, hlast, h.calls_orderly⟩
  · rw [parse_append_end heof, parse_append_end heof before after']

/-- A parenthesis that nothing closes: one behind the end of file does not close it either. -/
theorem walk_orderly_unclosed :
    let opening : Token := .plain .openParen 0 ['(']
    let closing : Token := .plain .closeParen 1 [')']
    let eof : Token := .plain .endOfFile 1 []
    eof.kind = .endOfFile ∧
      parse ([opening] ++ eof :: [closing]) .empty = parse ([opening] ++ eof :: []) .empty ∧
      ∃ w, Ends (fun time => Walker.parse time [opening, eof, closing] .empty)
          ((parse [opening, eof, closing] .empty).1, w) ∧
        ∀ c ∈ w.calls, c.Orderly (withFinalEnd [opening, eof, closing]) := by
  intro opening closing eof
  obtain ⟨⟨w, hparse, -, -, hcalls⟩, hend⟩ := walk_orderly [opening, eof, closing] .empty
  exact ⟨rfl, hend _ _ _ eof rfl, w, hparse, hcalls⟩

end Reckon
