import Reckon.Proofs.Joining
import Reckon.Proofs.Lines
import Reckon.Proofs.OneLine
import Reckon.Proofs.Stages

/-!
# Output line by line

What a run prints can be cut into its lines again, whatever the text of the run was. The pieces
that messages are made of are dealt with in `Reckon.Proofs.OneLine`; here the stages of a run are
followed, to see which of these pieces they write down.

* `newline_notMem_front`: no token and no dropped literal reaches over a newline. This is where
  the bare pieces of messages come from.
* `Journal.Plain`: every event so far is told on one line. Each stage keeps this, hence
  `plain_run`.
* `Framed`: a text made of lines, each with a newline at its end and none inside; a text is framed
  in one way (`Framed.unique`), and what is printed line by line is (`framed_endLines`).
* `framed_printed`: **what is printed of a run is framed**, with a line for each token, for each
  node of the tree and for each item of the report.
-/

namespace Reckon

/-! ## Tokens of one line -/

/-- What is taken of a text that begins with no blank ends before the next newline. -/
theorem newline_notMem_front {c : Char} (hc : isSpace c = false) (start : Nat) (rest : Text) :
    '\n' ∉ (c :: rest).take (recognize start c rest).length := by
  have hne : '\n' ≠ c := by
    rintro rfl
    cases hc
  by_cases hrest : '\n' ∈ rest
  · -- the rest is as good as its part before the newline
    obtain ⟨line, more, rfl, hline⟩ := List.eq_append_cons_of_mem hrest
    rw [recognize_append_newline hc, ← List.cons_append,
      List.take_append_of_le_length (length_recognize_le start c line)]
    intro hmem
    exact hline (List.mem_of_ne_of_mem hne (List.mem_of_mem_take hmem))
  · intro hmem
    exact hrest (List.mem_of_ne_of_mem hne (List.mem_of_mem_take hmem))

/-- A character with an unknown escape stands in its piece. -/
theorem Diagnostic.IsEscapeIn.plain {d : Diagnostic} {start : Nat} {piece : Text}
    (h : d.IsEscapeIn start piece) (hpiece : '\n' ∉ piece) : d.Plain := by
  obtain ⟨before, c, after, rfl, rfl, -⟩ := h
  rintro rfl
  simp at hpiece

/-- The faults of a piece name what stands in it. -/
theorem Piece.plain {start : Nat} {piece : Text} {ts : List Token} {ds : List Diagnostic}
    (h : Piece start piece ts ds) (hpiece : '\n' ∉ piece) :
    (∀ t ∈ ts, '\n' ∉ t.lexeme) ∧ ∀ d ∈ ds, d.Plain := by
  cases h with
  | blank => simp
  | token _ hescapes => exact ⟨by simpa using hpiece, fun d hd => (hescapes d hd).2.plain hpiece⟩
  | dropped hfault hescapes =>
    refine ⟨by simp, ?_⟩
    intro d hd
    rcases List.mem_append.1 hd with hd | hd
    · exact (hescapes d hd).2.plain hpiece
    · obtain rfl := List.mem_singleton.1 hd
      cases hfault with
      | openString | openChar | emptyChar => trivial
      | badNumber => exact hpiece

/-- What a segment adds to the journal names no newline: blanks add nothing, and any other segment
is on one line. -/
theorem plain_of_mem_events {s : Text} {segment : Segment} (h : segment ∈ segments s) {e : Event}
    (he : e ∈ segment.events) : e.Plain := by
  obtain ⟨before, c, rest, -, rfl⟩ := mem_segmentsFrom h
  by_cases hc : isSpace c = true
  · rw [front, recognize_of_isSpace hc] at he
    cases he
  · rw [Bool.not_eq_true] at hc
    obtain ⟨body, after, hrest, hlength, hpiece⟩ :=
      piece_of_not_isSpace hc (0 + before.length) rest
    have hbody : '\n' ∉ c :: body := by
      have hfront := newline_notMem_front hc (0 + before.length) rest
      rwa [hlength, Nat.add_comm, List.take_succ_cons, hrest, List.take_left] at hfront
    obtain ⟨htokens, hfaults⟩ := hpiece.plain hbody
    rcases List.mem_append.1 he with he | he
    · obtain ⟨d, hd, rfl⟩ := List.mem_map.1 he
      exact hfaults d hd
    · rw [Option.toList_map] at he
      obtain ⟨t, ht, rfl⟩ := List.mem_map.1 he
      exact htokens t ht

/-- No token of a run has a newline in it. -/
theorem newline_notMem_lexeme {s : Text} {t : Token} (h : t ∈ (run s).tokens) :
    '\n' ∉ t.lexeme := by
  obtain ⟨segment, hsegment, ht⟩ := List.mem_filterMap.1 h
  have hevent : Event.token t ∈ segment.events := by
    rw [Segment.events, ht]
    simp
  exact plain_of_mem_events hsegment hevent

/-! ## The journal -/

/-- Every event so far is told on one line. -/
def Journal.Plain (j : Journal) : Prop := ∀ e ∈ j.events, e.Plain

namespace Journal.Plain

variable {j : Journal}

theorem add (h : j.Plain) {e : Event} (he : e.Plain) : (j.add e).Plain := by
  intro e' he'
  rw [events_add, List.mem_append, List.mem_singleton] at he'
  rcases he' with he' | rfl
  · exact h e' he'
  · exact he

theorem addAll (h : j.Plain) {es : List Event} (hes : ∀ e ∈ es, e.Plain) : (j.addAll es).Plain := by
  intro e he
  rw [events_addAll, List.mem_append] at he
  rcases he with he | he
  · exact h e he
  · exact hes e he

/-- The faults that are written down are among the events. -/
theorem of_mem_diagnostics (h : j.Plain) {d : Diagnostic} (hd : d ∈ j.diagnostics) : d.Plain := by
  obtain ⟨e, he, hfault⟩ := List.mem_filterMap.1 hd
  have hplain := h e he
  unfold Event.fault? at hfault
  split at hfault
  · obtain rfl := Option.some.inj hfault
    exact hplain
  · cases hfault

end Journal.Plain

/-- The parser writes down kinds, places and limits, and nothing of the text. -/
theorem Event.IsSyntactic.plain {e : Event} (h : e.IsSyntactic) : e.Plain := by
  cases e with
  | found d =>
    cases d with
    | badEscape | badNumber => cases h
    | _ => trivial
  | token | failed => exact absurd h id
  | _ => trivial

/-! ## The stages of a run -/

theorem Journal.Plain.strip {j : Journal} (h : j.Plain) (s : Text) : (strip s j).2.Plain := by
  refine (h.addAll ?_).add trivial
  intro e he
  obtain ⟨d, hd, rfl⟩ := List.mem_map.1 he
  rw [Comment.diagnostics, Option.toList_map] at hd
  obtain ⟨p, -, rfl⟩ := List.mem_map.1 hd
  trivial

theorem Journal.Plain.scan {j : Journal} (h : j.Plain) (s : Text) : (scan s j).2.Plain := by
  refine (h.addAll ?_).add trivial
  intro e he
  obtain ⟨segment, hsegment, he⟩ := List.mem_flatMap.1 he
  exact plain_of_mem_events hsegment he

theorem Journal.Plain.parse {j : Journal} (h : j.Plain) (ts : List Token) :
    (parse ts j).2.Plain := by
  intro e he
  rcases mem_events_parse he with he | he
  · exact h e he
  · exact he.plain

/-- Only arithmetic fails in a run: its leaves have values. -/
theorem isArithmetic_of_run {s : Text} {err : EvalError}
    (h : (run s).result = some (.error err)) : err.IsArithmetic := by
  rw [run_result] at h
  split at h
  · rename_i hfaults
    obtain ⟨d, hd, hfails⟩ := Expr.eval_eq_error (Option.some.inj h)
    cases d with
    | number t =>
      obtain ⟨v, hv, -⟩ := (sentence_of_run hfaults).leaf hd
      rw [Expr.FailsWith, Token.eval, hv] at hfails
      cases hfails
    | node op t depth l r =>
      obtain ⟨a, b, -, -, herr⟩ := hfails
      rcases Operator.apply_eq_error herr with ⟨-, -, rfl⟩ | ⟨rfl, -⟩ <;> trivial
  · cases h

/-- The first three stages. -/
theorem plain_parse (s : Text) : (parse (run s).tokens (beforeParse s)).2.Plain := by
  have hempty : Journal.empty.Plain := by
    intro e he
    cases he
  exact ((hempty.strip s).scan _).parse _

/-- **A run is told in lines**: no event of it names a newline of its text. -/
theorem plain_run (s : Text) : (run s).journal.Plain := by
  have hrun : (run s).journal = (parse (run s).tokens (beforeParse s)).2.add
      (verdict s (run s).diagnostics (run s).result) := rfl
  rw [hrun]
  apply (plain_parse s).add
  rcases hresult : (run s).result with _ | err | v
  · trivial
  · exact isArithmetic_of_run hresult
  · trivial

/-! ## The report -/

/-- The value, the error or the faults. -/
theorem run_report_cases (s : Text) :
    (∃ v, evaluateLine s = .ok v ∧ (run s).report = [toString v.toInt]) ∨
    (∃ err : EvalError, err.IsArithmetic ∧ evaluateLine s = .error (.evaluation err) ∧
      (run s).report = ["ERROR: " ++ err.message]) ∨
    (run s).diagnostics ≠ [] ∧ evaluateLine s = .error (.faults (run s).diagnostics) ∧
      (run s).report = (run s).diagnostics.map Diagnostic.message := by
  rw [evaluateLine, Outcome.value, Outcome.report]
  rcases hresult : (run s).result with _ | err | v
  · refine .inr (.inr ⟨?_, rfl, rfl⟩)
    intro hfaults
    rw [run_result, if_pos hfaults] at hresult
    cases hresult
  · exact .inr (.inl ⟨err, isArithmetic_of_run hresult, rfl, rfl⟩)
  · exact .inl ⟨v, rfl, rfl⟩

theorem report_run_ne_nil (s : Text) : (run s).report ≠ [] := by
  rcases run_report_cases s with ⟨v, -, hreport⟩ | ⟨err, -, -, hreport⟩ | ⟨hne, -, hreport⟩ <;>
    rw [hreport]
  · simp
  · simp
  · simpa using hne

theorem oneLine_of_mem_report {s : Text} {line : String} (h : line ∈ (run s).report) :
    OneLine line := by
  rcases run_report_cases s with ⟨v, -, hreport⟩ | ⟨err, herr, -, hreport⟩ | ⟨-, -, hreport⟩ <;>
    rw [hreport] at h
  · obtain rfl := List.mem_singleton.1 h
    exact oneLine_int _
  · obtain rfl := List.mem_singleton.1 h
    exact .append (.words rfl) herr.oneLine_message
  · obtain ⟨d, hd, rfl⟩ := List.mem_map.1 h
    exact ((plain_parse s).of_mem_diagnostics hd).oneLine_message

/-- The report is the value, or the message of what evaluating the line gives in its place. -/
theorem display_run (s : Text) :
    (run s).display = (match evaluateLine s with
      | .ok v => toString v.toInt
      | .error err => err.message) := by
  rw [Outcome.display, Text.joinLines]
  rcases run_report_cases s with ⟨v, hvalue, hreport⟩ | ⟨err, -, hvalue, hreport⟩ |
    ⟨-, hvalue, hreport⟩ <;> rw [hvalue, hreport]
  · exact String.intercalate_singleton
  · exact String.intercalate_singleton
  · rfl

/-! ## Lines and frames -/

/-- The text is made of the given lines: each has a newline at its end, and none inside. -/
structure Framed (text : String) (lines : List String) : Prop where
  /-- the lines, each with its newline -/
  text_eq : text.toList = lines.flatMap fun line => line.toList ++ ['\n']
  /-- no other newlines -/
  oneLine : ∀ line ∈ lines, OneLine line

/-- Lines that are printed with a newline after each of them frame what is printed. -/
theorem framed_endLines {lines : List String} (h : ∀ line ∈ lines, OneLine line) :
    Framed (Text.endLines lines) lines where
  text_eq := by simp [Text.endLines, List.flatMap_def, Function.comp_def]
  oneLine := h

/-- **A text is framed in one way.** The first line ends at the first newline, on either side. -/
theorem Framed.unique {text : String} {lines lines' : List String} (h : Framed text lines)
    (h' : Framed text lines') : lines = lines' := by
  have heq := h.text_eq.symm.trans h'.text_eq
  have honeLine := h.oneLine
  have honeLine' := h'.oneLine
  clear h h'
  induction lines generalizing lines' with
  | nil =>
    cases lines' with
    | nil => rfl
    | cons line' lines' => simp at heq
  | cons line lines ih =>
    cases lines' with
    | nil => simp at heq
    | cons line' lines' =>
      simp only [List.flatMap_cons, List.append_assoc, List.singleton_append] at heq
      obtain ⟨hoff, hmore⟩ := List.forall_mem_cons.1 honeLine
      obtain ⟨hoff', hmore'⟩ := List.forall_mem_cons.1 honeLine'
      obtain ⟨hline, hrest⟩ := append_mark_inj hoff hoff' heq
      rw [String.toList_inj.1 hline, ih hrest hmore hmore']

/-- The lines before the report: the tokens and the tree, as far as they are asked for. -/
def shownLines (opts : Options) (o : Outcome) : List String :=
  (if opts.showTokens then o.tokens.map fun t => "  " ++ t.display else []) ++
    if opts.showTree then o.tree.outline else []

theorem length_shownLines (opts : Options) (o : Outcome) :
    (shownLines opts o).length = (if opts.showTokens then o.tokens.length else 0) +
      if opts.showTree then o.tree.nodeCount else 0 := by
  rw [shownLines, List.length_append, apply_ite List.length, apply_ite List.length, List.length_map,
    Expr.outline, Expr.length_outlineFrom, List.length_nil]

theorem oneLine_of_mem_shownLines {opts : Options} {s : Text} {line : String}
    (h : line ∈ shownLines opts (run s)) : OneLine line := by
  rcases List.mem_append.1 h with h | h <;> split at h
  · obtain ⟨t, ht, rfl⟩ := List.mem_map.1 h
    exact .append (.words rfl) (Token.oneLine_display (newline_notMem_lexeme ht))
  · cases h
  · exact Expr.oneLine_of_mem_outlineFrom h
  · cases h

/-- **What is printed of a run is framed**, whatever its text, and in one way: a line for each token
and for each node of the tree, if they are asked for, and then the lines of the report. There is
always a report, and put together it is the value of the text in decimal digits, or else the message
of the error that the text has instead. -/
theorem framed_printed (opts : Options) (s : Text) :
    (∃! lines, Framed (printed opts (run s)) lines) ∧
    (∀ lines, Framed (printed opts (run s)) lines → (run s).report <:+ lines ∧
      lines.length = (if opts.showTokens then (run s).tokens.length else 0) +
        (if opts.showTree then (run s).tree.nodeCount else 0) + (run s).report.length) ∧
    (run s).report ≠ [] ∧
    (run s).display = "\n".intercalate (run s).report ∧
    (run s).display = (match evaluateLine s with
      | .ok v => toString v.toInt
      | .error err => err.message) := by
  have hframed : Framed (printed opts (run s)) (shownLines opts (run s) ++ (run s).report) := by
    refine framed_endLines fun line hline => ?_
    rcases List.mem_append.1 hline with hline | hline
    · exact oneLine_of_mem_shownLines hline
    · exact oneLine_of_mem_report hline
  refine ⟨⟨_, hframed, fun lines h => h.unique hframed⟩, fun lines h => ?_, report_run_ne_nil s,
    rfl, display_run s⟩
  rw [h.unique hframed, List.length_append, length_shownLines]
  exact ⟨List.suffix_append _ _, rfl⟩

/-- A product that goes on after a newline: four tokens, three nodes and one fault. -/
theorem framed_printed_unclosed :
    let s := "2*\n(3".toList
    let opts : Options := ⟨.once s, true, true, "> ", .stderr, none⟩
    let lines := ["  int literal 2 @0", "  '*' @1", "  '(' @3", "  int literal 3 @4", "Binary '*'",
      "  Number 2", "  Number 3", "ERROR: Expected ')' but found end of file at position 5"]
    Framed (printed opts (run s)) lines ∧ (∀ lines', Framed (printed opts (run s)) lines' →
      lines' = lines) ∧ lines.length = 4 + 3 + 1 := by
  intro s opts lines
  have hframed : Framed (printed opts (run s)) lines := ⟨by decide +kernel, by decide +kernel⟩
  obtain ⟨hunique, hlength, -⟩ := framed_printed opts s
  have hcounts : (run s).tokens.length = 4 ∧ (run s).tree.nodeCount = 3 ∧
      (run s).report.length = 1 := by decide +kernel
  refine ⟨hframed, fun lines' h => hunique.unique h hframed, ?_⟩
  have hcount := (hlength lines hframed).2
  rwa [hcounts.1, hcounts.2.1, hcounts.2.2] at hcount

end Reckon
