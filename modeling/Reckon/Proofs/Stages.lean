import Reckon.Proofs.Running
import Reckon.Proofs.Scanning

/-!
# The stages and the journal

The journal goes through all stages of a run, and no stage looks at it: each appends to whatever
it is given what it would append to an empty one. For the parser this is a simulation. The events
before its start are put in front of a cursor and taken along through every step; the flag of the
depth limits, which does decide what is written down, is none of them.

* `Cursor.after`: a cursor with events put in front.
* `Reading.Behind`, `Oblivious`: readers that find the same from such a cursor. The steps of the
  parser make oblivious readers of oblivious readers, hence `oblivious_expression`.
* `Event.IsSyntactic`, `Made.mem_events`: what the parser writes down.
* `Appending`: a stage that never looks and only appends; `tokenizeFrom_appends` says the same of
  the scanner, which hands its faults on from call to call.
* `run_in_stages`: **the faults of a run are those of its stages**, one stage after the other.
-/

namespace Reckon

/-! ## Events put in front -/

/-- The events of `j`, and after them those of `k`. -/
def Journal.followedBy (j k : Journal) : Journal := ⟨k.latestFirst ++ j.latestFirst⟩

@[simp] theorem Journal.events_followedBy (j k : Journal) :
    (j.followedBy k).events = j.events ++ k.events := by
  simp [followedBy, events]

namespace Cursor

/-- The same place, with the events of `j` before all that is written down. -/
def after (j : Journal) (c : Cursor) : Cursor := { c with journal := j.followedBy c.journal }

variable (j : Journal) (c : Cursor)

@[simp] theorem rest_after : (c.after j).rest = c.rest := rfl

@[simp] theorem kind_after : (c.after j).kind = c.kind := rfl

theorem jump_after (rest : List Token) : (c.after j).jump rest = (c.jump rest).after j := rfl

theorem reportUnexpected_after (endAt : Nat) (k : Kind) :
    (c.after j).reportUnexpected endAt k = (c.reportUnexpected endAt k).after j := rfl

/-- The flag decides whether a limit is reported, and no event bears on the flag. -/
theorem reportTooDeep_after (limit position : Nat) :
    (c.after j).reportTooDeep limit position = (c.reportTooDeep limit position).after j := by
  rw [reportTooDeep, reportTooDeep, after]
  split <;> rfl

end Cursor

theorem closed_after (endAt : Nat) (j : Journal) (c : Cursor) :
    closed endAt (c.after j) = (closed endAt c).after j := by
  rcases closed_eq endAt c with ⟨t, rest, hrest, ht, h⟩ | ⟨hkind, h⟩
  · have hrest' : (c.after j).rest = t :: rest := by rw [c.rest_after, hrest]
    rw [h, closed_of_close hrest' ht, c.jump_after]
  · rcases closed_eq endAt (c.after j) with ⟨t, rest, hrest, ht, -⟩ | ⟨-, h'⟩
    · rw [← Cursor.kind_of_cons hrest, c.kind_after] at ht
      exact absurd ht hkind
    · rw [h, h', c.reportUnexpected_after]

theorem reportTrailing_after (j : Journal) (c : Cursor) :
    reportTrailing (c.after j) = (reportTrailing c).after j := by
  rw [reportTrailing, reportTrailing, c.rest_after]
  split <;> rfl

/-! ## Readers that do not look -/

/-- The reading `r'` is `r` with the events of `j` put in front. -/
structure Reading.Behind (j : Journal) {c c' : Cursor} (r : Reading c) (r' : Reading c') :
    Prop where
  /-- the same expression -/
  expr : r'.expr = r.expr
  /-- the same events behind those of `j`, and else the same place -/
  next : r'.next = r.next.after j

/-- What is written down before does not bear on what the reader finds. -/
def Oblivious (reader : (c : Cursor) → Reading c) : Prop :=
  ∀ (j : Journal) (c c' : Cursor), c' = c.after j → (reader c).Behind j (reader c')

theorem oblivious_missing (endAt : Nat) : Oblivious (missing endAt) := by
  rintro j c _ rfl
  exact ⟨rfl, rfl⟩

theorem behind_refused (j : Journal) (c : Cursor) (t : Token) :
    (refused c t).Behind j (refused (c.after j) t) := by
  refine ⟨rfl, ?_⟩
  exact congrArg (Cursor.jump · (skipGroup 0 c.rest)) (c.reportTooDeep_after j nestingLimit _)

namespace Reading.Behind

variable {j : Journal}

theorem group {inside : (c : Cursor) → Reading c} (hin : Oblivious inside) (endAt : Nat)
    {c : Cursor} {t : Token} {rest : List Token} (h : c.rest = t :: rest)
    (h' : (c.after j).rest = t :: rest) :
    (group endAt c t rest h inside).Behind j (Reckon.group endAt (c.after j) t rest h' inside) := by
  have hinside := hin j (c.jump rest) _ (c.jump_after j rest)
  refine ⟨hinside.expr, ?_⟩
  exact (congrArg (closed endAt) hinside.next).trans (closed_after endAt j _)

theorem join {origin origin' c c' : Cursor} {left : Reading origin} {left' : Reading origin'}
    {right : Reading c} {right' : Reading c'} (hleft : left.Behind j left')
    (hright : right.Behind j right') (op : Operator) (t : Token) (h : c.rest <:+ origin.rest)
    (h' : c'.rest <:+ origin'.rest) :
    (left.join op t right h).Behind j (left'.join op t right' h') := by
  rw [Reading.join, Reading.join, hleft.expr, hright.expr]
  split
  · refine ⟨rfl, ?_⟩
    exact (congrArg (Cursor.reportTooDeep treeLimit t.position) hright.next).trans
      (right.next.reportTooDeep_after j treeLimit t.position)
  · exact ⟨rfl, congrArg (Cursor.note · (.joined op)) hright.next⟩

/-- The loop of a chain takes the events in front along. -/
theorem chain {k : Tightness} {operand : (c : Cursor) → Reading c} (hop : Oblivious operand)
    {origin origin' : Cursor} {left : Reading origin} {left' : Reading origin'}
    (hleft : left.Behind j left') :
    (chain k operand left).Behind j (Reckon.chain k operand left') := by
  have hsame : left'.next.rest = left.next.rest := by rw [hleft.next, Cursor.rest_after]
  match hrest : left.next.rest with
  | [] =>
    rw [chain_of_nil hrest, chain_of_nil (hsame.trans hrest)]
    exact hleft
  | t :: rest =>
    rcases hkind : k.operator? t.kind with _ | op
    · rw [chain_of_none hrest hkind, chain_of_none (hsame.trans hrest) hkind]
      exact hleft
    · have hplace : left'.next.jump rest = (left.next.jump rest).after j := by
        rw [hleft.next, Cursor.jump_after]
      rw [chain_of_some hrest hkind, chain_of_some (hsame.trans hrest) hkind]
      exact chain hop (hleft.join (hop j _ _ hplace) op t _ _)
termination_by left.next.rest.length
decreasing_by exact Reading.length_join_lt hrest _ _ _

end Reading.Behind

theorem Oblivious.expressionOf {reader : (c : Cursor) → Reading c} (h : Oblivious reader) :
    Oblivious (expressionOf reader) := by
  have hterm : Oblivious (termOf reader) := fun j c c' hc => (h j c c' hc).chain h
  exact fun j c c' hc => (hterm j c c' hc).chain hterm

/-- Only a parenthesis is read in more than one step. -/
theorem oblivious_primary_of_open {endAt room : Nat}
    (hopen : ∀ (j : Journal) (c : Cursor) (t : Token) (rest : List Token), c.rest = t :: rest →
      t.kind = .openParen → (primary endAt room c).Behind j (primary endAt room (c.after j))) :
    Oblivious (primary endAt room) := by
  rintro j c _ rfl
  have hmissing := oblivious_missing endAt j c _ rfl
  rcases hrest : c.rest with _ | ⟨t, rest⟩
  · have hrest' : (c.after j).rest = [] := by rw [c.rest_after, hrest]
    rw [primary_of_nil hrest, primary_of_nil hrest']
    exact hmissing
  · by_cases ht : t.kind = .openParen
    · exact hopen j c t rest hrest ht
    · have hrest' : (c.after j).rest = t :: rest := by rw [c.rest_after, hrest]
      rw [primary_of_cons hrest, primary_of_cons hrest', if_neg ht, if_neg ht]
      split
      · exact ⟨rfl, rfl⟩
      · exact hmissing

theorem oblivious_primary (endAt room : Nat) : Oblivious (primary endAt room) := by
  induction room with
  | zero =>
    apply oblivious_primary_of_open
    intro j c t rest hrest ht
    have hrest' : (c.after j).rest = t :: rest := by rw [c.rest_after, hrest]
    rw [primary_of_refused hrest ht, primary_of_refused hrest' ht]
    exact behind_refused j c t
  | succ room ih =>
    apply oblivious_primary_of_open
    intro j c t rest hrest ht
    have hrest' : (c.after j).rest = t :: rest := by rw [c.rest_after, hrest]
    rw [primary_of_open hrest ht, primary_of_open hrest' ht]
    exact .group ih.expressionOf endAt hrest hrest'

/-- **The parser does not look at what is written down.** -/
theorem oblivious_expression (endAt room : Nat) : Oblivious (expression endAt room) :=
  (oblivious_primary endAt room).expressionOf

/-! ## What the parser writes down -/

/-- The events of the parser. Of the faults these are all that are not lexical. -/
def Event.IsSyntactic : Event → Prop
  | .found d => d.isLexical = false
  | .joined _ | .tooDeep .. | .parsed _ => True
  | _ => False

namespace Cursor

theorem mem_events_note {c : Cursor} {e e' : Event} (h : e' ∈ (c.note e).journal.events)
    (he : e.IsSyntactic) : e' ∈ c.journal.events ∨ e'.IsSyntactic := by
  have hadd : (c.note e).journal.events = c.journal.events ++ [e] := c.journal.events_add e
  rw [hadd, List.mem_append, List.mem_singleton] at h
  rcases h with h | rfl
  · exact .inl h
  · exact .inr he

theorem mem_events_reportTooDeep {c : Cursor} {limit position : Nat} {e : Event}
    (h : e ∈ (c.reportTooDeep limit position).journal.events) :
    e ∈ c.journal.events ∨ e.IsSyntactic := by
  rw [reportTooDeep] at h
  split at h
  · exact .inl h
  · rcases mem_events_note (c := c.note (.tooDeep limit position)) h rfl with h | h
    · exact mem_events_note h trivial
    · exact .inr h

end Cursor

theorem mem_events_closed {endAt : Nat} {c : Cursor} {e : Event}
    (h : e ∈ (closed endAt c).journal.events) : e ∈ c.journal.events ∨ e.IsSyntactic := by
  rcases closed_eq endAt c with ⟨t, rest, -, -, hclosed⟩ | ⟨-, hclosed⟩
  · rw [hclosed] at h
    exact .inl h
  · rw [hclosed] at h
    exact Cursor.mem_events_note h rfl

theorem mem_events_reportTrailing {c : Cursor} {e : Event}
    (h : e ∈ (reportTrailing c).journal.events) : e ∈ c.journal.events ∨ e.IsSyntactic := by
  rw [reportTrailing] at h
  split at h
  · exact .inl h
  · exact Cursor.mem_events_note h rfl

/-- What a step of the parser finds written down and did not write itself was there before. -/
theorem Made.mem_events {endAt : Nat} {c : Cursor} {r : Reading c} (h : Made endAt r) {e : Event}
    (he : e ∈ r.next.journal.events) : e ∈ c.journal.events ∨ e.IsSyntactic := by
  induction h with
  | missing c => exact Cursor.mem_events_note he rfl
  | leaf => exact .inl he
  | refused => exact Cursor.mem_events_reportTooDeep he
  | group _ _ _ ih =>
    rcases mem_events_closed he with he | he
    · exact ih he
    · exact .inr he
  | @join k origin left op t rest right h hrest hop hleft hright ihl ihr =>
    have hboth : e ∈ right.next.journal.events ∨ e.IsSyntactic := by
      rw [Reading.join] at he
      split at he
      · exact Cursor.mem_events_reportTooDeep he
      · exact Cursor.mem_events_note he trivial
    rcases hboth with he | he
    · rcases ihr he with he | he
      · exact ihl he
      · exact .inr he
    · exact .inr he

/-- The events after a parse: those after its last step, and that it is over. -/
theorem events_parse (ts : List Token) (journal : Journal) :
    (parse ts journal).2.events =
      (reportTrailing (expression (endOf ts) nestingLimit (startOf ts journal)).next).journal.events
        ++ [.parsed (parse ts journal).1.nodeCount] :=
  Journal.events_add _ _

/-- A parse adds events of the parser only. -/
theorem mem_events_parse {ts : List Token} {journal : Journal} {e : Event}
    (h : e ∈ (parse ts journal).2.events) : e ∈ journal.events ∨ e.IsSyntactic := by
  rw [events_parse, List.mem_append, List.mem_singleton] at h
  rcases h with h | rfl
  · rcases mem_events_reportTrailing h with h | h
    · exact (made_expression (endOf ts) nestingLimit (startOf ts journal)).mem_events h
    · exact .inr h
  · exact .inr trivial

/-! ## Stages that append -/

/-- The stage never looks at the journal that it is given, and leaves it as it is with more after
it: what it would write into an empty one. -/
structure Appending {α : Type} (stage : Journal → α × Journal) : Prop where
  /-- what the stage returns -/
  value : ∀ j, (stage j).1 = (stage .empty).1
  /-- what it writes down -/
  events : ∀ j, (stage j).2.events = j.events ++ (stage .empty).2.events
  /-- the faults among that -/
  diagnostics : ∀ j, (stage j).2.diagnostics = j.diagnostics ++ (stage .empty).2.diagnostics

/-- The faults follow from the events. -/
theorem Appending.of_events {α : Type} {stage : Journal → α × Journal}
    (hvalue : ∀ j, (stage j).1 = (stage .empty).1)
    (hevents : ∀ j, (stage j).2.events = j.events ++ (stage .empty).2.events) :
    Appending stage := by
  refine ⟨hvalue, hevents, fun j => ?_⟩
  rw [Journal.diagnostics, Journal.diagnostics, Journal.diagnostics, hevents j,
    List.filterMap_append]

theorem appending_strip (s : Text) : Appending (strip s) :=
  .of_events (fun _ => rfl) fun j => by simp [strip]

theorem appending_scan (s : Text) : Appending (scan s) :=
  .of_events (fun _ => rfl) fun j => by simp [scan]

theorem appending_parse (ts : List Token) : Appending (parse ts) := by
  have hread := fun j => oblivious_expression (endOf ts) nestingLimit j (startOf ts .empty)
    (startOf ts j) rfl
  have hexpr : ∀ j, (parse ts j).1 = (parse ts .empty).1 := fun j => (hread j).expr
  refine .of_events hexpr fun j => ?_
  rw [events_parse, events_parse ts .empty, hexpr j, (hread j).next, reportTrailing_after,
    ← List.append_assoc]
  exact congrArg (· ++ _) (j.events_followedBy _)

/-- The scanner hands its faults on from call to call. It never looks at those that it is given
either: it returns the tokens of the text, and adds the faults of the text after them. -/
theorem tokenizeFrom_appends (s : Text) (faults : List Diagnostic) :
    Scanner.tokenizeFrom (s.length + 1) [] 0 ⟨s, 0, faults⟩ =
      some ⟨(scan s .empty).1, ⟨s, s.length, faults ++ (scan s .empty).2.diagnostics⟩, 0⟩ := by
  have hsees : (Scanner.mk s 0 faults).Sees 0 s := ⟨rfl, Nat.zero_le _⟩
  rw [diagnostics_scan]
  exact hsees.tokenizeFrom_eq (Nat.le_refl s.length) [] 0

/-! ## The faults of the stages -/

/-- The comments have one fault at most. -/
theorem diagnostics_strip_cases (s : Text) :
    (strip s .empty).2.diagnostics = [] ∨
      ∃ p, (strip s .empty).2.diagnostics = [.openComment p] := by
  rw [diagnostics_strip, Comment.diagnostics]
  rcases (Comment.withoutBlocks s).openAt with _ | p
  · exact .inl rfl
  · exact .inr ⟨p, rfl⟩

/-- The faults of a piece are lexical. -/
theorem Piece.isLexical {start : Nat} {piece : Text} {ts : List Token} {ds : List Diagnostic}
    (h : Piece start piece ts ds) : ∀ d ∈ ds, d.isLexical = true := by
  have hescape : ∀ {d : Diagnostic}, d.IsEscapeIn start piece → d.isLexical = true := by
    rintro d ⟨before, c, after, -, rfl, -⟩
    rfl
  cases h with
  | blank => simp
  | token _ hescapes => exact fun d hd => hescape (hescapes d hd).2
  | dropped hfault hescapes =>
    intro d hd
    rcases List.mem_append.1 hd with hd | hd
    · exact hescape (hescapes d hd).2
    · obtain rfl := List.mem_singleton.1 hd
      cases hfault <;> rfl

theorem Segmented.isLexical {start : Nat} {s : Text} {ts : List Token} {ds : List Diagnostic}
    (h : Segmented start s ts ds) : ∀ d ∈ ds, d.isLexical = true := by
  induction h with
  | nil => simp
  | cons hpiece _ ih => exact List.forall_mem_append.2 ⟨hpiece.isLexical, ih⟩

theorem isLexical_of_mem_scan {s : Text} {d : Diagnostic}
    (h : d ∈ (scan s .empty).2.diagnostics) : d.isLexical = true := by
  rw [diagnostics_scan] at h
  exact (segmented_from 0 s).isLexical d h

theorem not_isLexical_of_mem_parse {ts : List Token} {d : Diagnostic}
    (h : d ∈ (parse ts .empty).2.diagnostics) : d.isLexical = false := by
  obtain ⟨e, he, hfault⟩ := List.mem_filterMap.1 h
  rcases mem_events_parse he with he | he
  · cases he
  · unfold Event.fault? at hfault
    split at hfault
    · obtain rfl := Option.some.inj hfault
      exact he
    · cases hfault

/-- **The faults of a run are those of its stages.** No stage looks at the journal that it is given:
it returns what it would return for an empty one, and appends exactly what it would write into an
empty one. The lexer does so call by call: started with any faults, the scanner comes to the same
tokens and to these faults with its own after them. So the text, the tokens and the tree of a run
are those of its stages, and its faults are those of the comments, of which there is one at most,
then those of the tokens of what is left, which are lexical, and then those of the order of these
tokens, which are not: no lexical fault comes after one that is not. -/
theorem run_in_stages :
    ((∀ s, Appending (strip s)) ∧ (∀ s, Appending (scan s)) ∧ ∀ ts, Appending (parse ts)) ∧
    (∀ s faults, Scanner.tokenizeFrom (s.length + 1) [] 0 ⟨s, 0, faults⟩ =
      some ⟨(scan s .empty).1, ⟨s, s.length, faults ++ (scan s .empty).2.diagnostics⟩, 0⟩) ∧
    ∀ s,
      let comments := (strip s .empty).2.diagnostics
      let lexical := (scan (run s).stripped .empty).2.diagnostics
      let syntactic := (parse (run s).tokens .empty).2.diagnostics
      ((run s).stripped = (strip s .empty).1 ∧ (run s).tokens = (scan (run s).stripped .empty).1 ∧
        (run s).tree = (parse (run s).tokens .empty).1) ∧
      (run s).diagnostics = comments ++ lexical ++ syntactic ∧
      (comments = [] ∨ ∃ p, comments = [.openComment p]) ∧
      (∀ d ∈ lexical, d.isLexical = true) ∧ (∀ d ∈ syntactic, d.isLexical = false) ∧
      (run s).diagnostics.Pairwise fun d d' => d'.isLexical = true → d.isLexical = true := by
  refine ⟨⟨appending_strip, appending_scan, appending_parse⟩, tokenizeFrom_appends, ?_⟩
  intro s comments lexical syntactic
  have hrun : (run s).diagnostics = comments ++ lexical ++ syntactic := by
    rw [diagnostics_run, (appending_parse _).diagnostics]
    congr 1
    exact (appending_scan _).diagnostics _
  have hcomments : comments = [] ∨ ∃ p, comments = [.openComment p] := diagnostics_strip_cases s
  have hlexical : ∀ d ∈ lexical, d.isLexical = true := fun d => isLexical_of_mem_scan
  have hsyntactic : ∀ d ∈ syntactic, d.isLexical = false := fun d => not_isLexical_of_mem_parse
  refine ⟨⟨rfl, rfl, (appending_parse _).value _⟩, hrun, hcomments, hlexical, hsyntactic, ?_⟩
  have hbefore : ∀ d ∈ comments ++ lexical, d.isLexical = true := by
    refine List.forall_mem_append.2 ⟨?_, hlexical⟩
    rcases hcomments with h | ⟨p, h⟩ <;> rw [h] <;> simp [Diagnostic.isLexical]
  rw [hrun, List.pairwise_append]
  refine ⟨?_, ?_, fun d hd _ _ _ => hbefore d hd⟩
  · exact List.pairwise_of_forall_mem_list fun d hd _ _ _ => hbefore d hd
  · apply List.pairwise_of_forall_mem_list
    intro d _ d' hd' hlex
    rw [hsyntactic d' hd'] at hlex
    cases hlex

end Reckon
