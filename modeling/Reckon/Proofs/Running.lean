import Reckon.Proofs.Evaluation
import Reckon.Proofs.Lexing
import Reckon.Proofs.Parsing
import Reckon.Run

/-!
# Runs from end to end

The stages put together: which texts run without a fault, what they are worth, and what can
still go wrong with them.

* `diagnostics_run`: a run's faults are those of the comments, of the tokens and of the parser.
* `Sentence`: a text of the language, with its tokens and its tree.
* `run_faultless_iff`: **the language of the runs**, and the value of its texts.
* `run_error_cases`: **only arithmetic goes wrong** in a text without faults, at the sign of
  the operator.
-/

namespace Reckon

/-! ## What the stages write down -/

@[simp] theorem Journal.diagnostics_addAll (j : Journal) (es : List Event) :
    (j.addAll es).diagnostics = j.diagnostics ++ es.filterMap Event.fault? := by
  simp [diagnostics]

@[simp] theorem Event.fault?_comp_found : Event.fault? ∘ Event.found = some := rfl

/-- The faults among the events of a segment are the faults of the segment. -/
theorem filterMap_fault?_events (s : Segment) :
    s.events.filterMap Event.fault? = s.diagnostics := by
  rw [Segment.events, List.filterMap_append, List.filterMap_map]
  cases s.token? <;> simp [Event.fault?]

theorem diagnostics_strip (s : Text) (journal : Journal) :
    (strip s journal).2.diagnostics = journal.diagnostics ++ Comment.diagnostics s := by
  simp [strip, Event.fault?]

theorem diagnostics_scan (s : Text) (journal : Journal) :
    (scan s journal).2.diagnostics = journal.diagnostics ++ lexicalDiagnostics s := by
  simp [scan, lexicalDiagnostics, List.filterMap_flatMap, filterMap_fault?_events, Event.fault?]

/-- What is written down before the parser starts. -/
def beforeParse (s : Text) : Journal :=
  (scan (Comment.withoutComments s) (strip s .empty).2).2

theorem diagnostics_beforeParse (s : Text) :
    (beforeParse s).diagnostics =
      Comment.diagnostics s ++ lexicalDiagnostics (Comment.withoutComments s) := by
  simp [beforeParse, diagnostics_scan, diagnostics_strip]

theorem run_stripped (s : Text) : (run s).stripped = Comment.withoutComments s := rfl

theorem run_tree (s : Text) : (run s).tree = (parse (run s).tokens (beforeParse s)).1 := rfl

theorem diagnostics_run (s : Text) :
    (run s).diagnostics = (parse (run s).tokens (beforeParse s)).2.diagnostics := rfl

/-- A tree is evaluated if and only if there is no fault. -/
theorem run_result (s : Text) :
    (run s).result = if (run s).diagnostics = [] then some (run s).tree.eval else none := by
  have h : (run s).result = if (run s).diagnostics.isEmpty then some (run s).tree.eval else none :=
    rfl
  rw [h]
  simp only [List.isEmpty_iff]

/-! ## The language of the runs -/

/-- A text of the language: its comments are closed, what is left of it is made of blanks,
signs and numbers, and the tokens `ts` of these are an expression within the two limits, with
the tree `e`. -/
structure Sentence (s : Text) (ts : List Token) (e : Expr) : Prop where
  /-- no block is left open -/
  closed : (Comment.withoutBlocks s).openAt = none
  /-- the tokens -/
  spelled : Spelled 0 (Comment.withoutComments s) ts
  /-- the tree -/
  derives : Derives .expression ts e
  /-- the limit on open parentheses -/
  nesting : OpenAtMost 256 ts
  /-- the limit on the tree -/
  height : e.height ≤ 1024

theorem comment_diagnostics_eq_nil {s : Text} :
    Comment.diagnostics s = [] ↔ (Comment.withoutBlocks s).openAt = none := by
  rw [Comment.diagnostics]
  cases (Comment.withoutBlocks s).openAt <;> simp

theorem Sentence.fits {s : Text} {ts : List Token} {e : Expr} (h : Sentence s ts e) :
    Fits .expression nestingLimit ts e :=
  ⟨h.derives, h.nesting, h.height⟩

theorem Sentence.run_tokens {s : Text} {ts : List Token} {e : Expr} (h : Sentence s ts e) :
    (run s).tokens = ts :=
  h.spelled.lexes.1

/-- The lexer makes no end of file, so the parser reads all tokens of a run. -/
theorem run_tokens_kind_ne (s : Text) : ∀ t ∈ (run s).tokens, t.kind ≠ .endOfFile :=
  fun _ ht => kind_ne_endOfFile ht

/-- A sentence runs without a fault, and its tree is that of the run. -/
theorem Sentence.run {s : Text} {ts : List Token} {e : Expr} (h : Sentence s ts e) :
    (run s).diagnostics = [] ∧ (run s).tree = e := by
  have hkinds := run_tokens_kind_ne s
  rw [h.run_tokens] at hkinds
  obtain ⟨htree, hfaults⟩ := parse_of_fits hkinds h.fits (beforeParse s)
  have hbefore : (beforeParse s).diagnostics = [] := by
    rw [diagnostics_beforeParse, comment_diagnostics_eq_nil.2 h.closed]
    exact h.spelled.lexes.2
  rw [run_tree, diagnostics_run, h.run_tokens]
  exact ⟨hfaults.trans hbefore, htree⟩

/-- A run without a fault is that of a sentence. -/
theorem sentence_of_run {s : Text} (h : (run s).diagnostics = []) :
    Sentence s (run s).tokens (run s).tree := by
  have hbefore : (beforeParse s).diagnostics = [] := by
    have hle := length_diagnostics_le_parse (run s).tokens (beforeParse s)
    rw [← diagnostics_run, h] at hle
    exact List.eq_nil_of_length_eq_zero (Nat.le_zero.1 hle)
  have hparse : (parse (run s).tokens (beforeParse s)).2.diagnostics =
      (beforeParse s).diagnostics := by
    rw [← diagnostics_run, h, hbefore]
  obtain ⟨hderives, hopen, hheight⟩ := fits_of_parse (run_tokens_kind_ne s) hparse
  rw [diagnostics_beforeParse, List.append_eq_nil_iff] at hbefore
  exact ⟨comment_diagnostics_eq_nil.1 hbefore.1,
    spelled_iff.2 ⟨hbefore.2, rfl, hderives.isArithmetic⟩, hderives, hopen, hheight⟩

/-! ## The nodes of a sentence -/

/-- A node keeps no token that its tree does not keep. -/
theorem Expr.tokens_subset {d e : Expr} (h : d ∈ e.postorder) : d.tokens ⊆ e.tokens := by
  refine of_mem_postorder (P := fun d => d.tokens ⊆ e.tokens) (fun op t depth l r hnode => ?_)
    (List.Subset.refl _) h
  obtain ⟨hl, hr⟩ := List.append_subset.1 hnode
  exact ⟨hl, (List.cons_subset.1 hr).2⟩

/-- The nodes of a tree that fits its tokens fit theirs. -/
theorem Expr.WellFormed.node {d e : Expr} (he : e.WellFormed) (h : d ∈ e.postorder) :
    d.WellFormed :=
  of_mem_postorder (fun _ _ _ _ _ hnode => hnode.2) he h

/-- The sign of an operator's token is that of the operator. -/
theorem Operator.symbol_eq_of_ofSign? {c : Char} {kind : Kind} {op : Operator}
    (hc : Kind.ofSign? c = some kind) (hop : ofKind? kind = some op) : op.symbol = c := by
  unfold Kind.ofSign? at hc
  split at hc <;> cases hc <;> cases hop <;> rfl

theorem Operator.kind_of_ofKind?_div {kind : Kind} (h : ofKind? kind = some .div) :
    kind = .slash := by
  unfold ofKind? at h
  split at h <;> cases h
  rfl

/-- The tokens of a node are tokens of the sentence. -/
theorem Sentence.token_mem {s : Text} {ts : List Token} {d e : Expr} (h : Sentence s ts e)
    (hd : d ∈ e.postorder) {t : Token} (ht : t ∈ d.tokens) : t ∈ ts := by
  have hmem : t ∈ e.tokens := Expr.tokens_subset hd ht
  rw [h.derives.tokens_eq] at hmem
  exact (List.mem_filter.1 hmem).1

/-- A leaf of a sentence has the value of its digits. -/
theorem Sentence.leaf {s : Text} {ts : List Token} {e : Expr} (h : Sentence s ts e) {t : Token}
    (ht : .number t ∈ e.postorder) :
    ∃ v, t.value = some (.int v) ∧ v.toInt = Number.natOfDigits t.lexeme := by
  have hkind : t.kind = .intLiteral := h.derives.wellFormed.node ht
  have hmem : t ∈ ts := h.token_mem ht List.mem_cons_self
  rcases h.spelled.mem hmem with ⟨-, hvalue⟩ | ⟨c, hc, -⟩
  · exact hvalue
  · exact absurd hkind (Kind.ne_of_ofSign? hc)

/-- An operator of a sentence is one of its tokens, and stands in the text where the token
says. -/
theorem Sentence.operator {s : Text} {ts : List Token} {e : Expr} (h : Sentence s ts e)
    {op : Operator} {t : Token} {depth : Nat} {l r : Expr}
    (ht : .node op t depth l r ∈ e.postorder) :
    t ∈ ts ∧ Operator.ofKind? t.kind = some op ∧
      (Comment.withoutComments s)[t.position]? = some op.symbol := by
  have hmem : t ∈ ts := h.token_mem ht (by simp [Expr.tokens])
  have hop : Operator.ofKind? t.kind = some op := (h.derives.wellFormed.node ht).1
  refine ⟨hmem, hop, ?_⟩
  rcases h.spelled.mem hmem with ⟨hkind, -⟩ | ⟨c, hc, -, hget⟩
  · rw [hkind] at hop
    cases hop
  · rw [Operator.symbol_eq_of_ofSign? hc hop]
    exact hget

/-! ## Values and errors -/

/-- **The language of the runs, and its values.** A text runs without a fault if and only if it
is a sentence: no block comment is left open, what is left without the comments are blanks, the
six signs and numbers up to 2147483647, and their tokens are an expression with at most 256 open
parentheses and at most 1024 levels. The run then returns the tree of the sentence, whose leaves
are worth what their digits say, and a value exactly when all nodes of the tree have exact values
of 32 bits: the exact value of the whole. -/
theorem run_faultless_iff (s : Text) :
    ((run s).diagnostics = [] ↔ ∃ ts e, Sentence s ts e) ∧
    ∀ ts e, Sentence s ts e → (run s).tree = e ∧
      (∀ t, .number t ∈ e.postorder → t.worth? = some (Number.natOfDigits t.lexeme : Int)) ∧
      ∀ v, (run s).result = some (.ok v) ↔
        (∀ d ∈ e.postorder, ∃ n, d.worth? = some n ∧ InRange n) ∧ e.worth? = some v.toInt := by
  refine ⟨⟨fun h => ⟨_, _, sentence_of_run h⟩, ?_⟩, fun ts e h => ?_⟩
  · rintro ⟨ts, e, h⟩
    exact h.run.1
  · obtain ⟨hfaults, htree⟩ := h.run
    refine ⟨htree, fun t ht => ?_, fun v => ?_⟩
    · obtain ⟨v, hv, hvalue⟩ := h.leaf ht
      rw [Token.worth?, hv]
      exact congrArg some hvalue
    · rw [run_result, if_pos hfaults, htree, Option.some.injEq]
      exact Expr.eval_eq_ok_iff

/-- `10/(2-4)`: the quotient is negative, and the comment does not count. -/
theorem run_faultless_quotient :
    let s := "10/(2-4) //x".toList
    Sentence s (run s).tokens (run s).tree ∧ (run s).tree.worth? = some (-5) := by
  intro s
  have hfaults : (run s).diagnostics = [] := by decide +kernel
  have hvalue : (run s).result = some (.ok (-5)) := by decide +kernel
  have hs : Sentence s (run s).tokens (run s).tree := sentence_of_run hfaults
  obtain ⟨-, -, hresult⟩ := (run_faultless_iff s).2 _ _ hs
  exact ⟨hs, ((hresult (-5)).1 hvalue).2⟩

/-- **Only arithmetic goes wrong.** Where a run ends with an error of the evaluation, the text is
a sentence and its whole tree was evaluated. The error is a division by zero, at the offset of a
token for a division, where the text has its sign; or an overflow, at the offset of the sign of
its operator, whose exact result for the two operands exists and is no integer of 32 bits. -/
theorem run_error_cases {s : Text} {err : EvalError} (h : (run s).result = some (.error err)) :
    Sentence s (run s).tokens (run s).tree ∧
    ((∃ p, err = .divisionByZero p ∧ (∃ t ∈ (run s).tokens, t.kind = .slash ∧ t.position = p) ∧
        (run s).stripped[p]? = some '/') ∨
      ∃ a op b p, err = .overflow a op b p ∧ (run s).stripped[p]? = some op.symbol ∧
        ∃ n, op.worth? a.toInt b.toInt = some n ∧ ¬ InRange n) := by
  rw [run_result] at h
  rw [run_stripped]
  split at h
  · rename_i hfaults
    have hs : Sentence s (run s).tokens (run s).tree := sentence_of_run hfaults
    refine ⟨hs, ?_⟩
    obtain ⟨d, hd, hfails⟩ := Expr.eval_eq_error (Option.some.inj h)
    cases d with
    | number t =>
      -- a leaf has a value
      obtain ⟨v, hv, -⟩ := hs.leaf hd
      rw [Expr.FailsWith, Token.eval, hv] at hfails
      cases hfails
    | node op t depth l r =>
      obtain ⟨a, b, -, -, herr⟩ := hfails
      obtain ⟨hmem, hop, hget⟩ := hs.operator hd
      rcases Operator.apply_eq_error herr with ⟨rfl, -, rfl⟩ | ⟨rfl, hrange⟩
      · exact .inl ⟨_, rfl, ⟨t, hmem, Operator.kind_of_ofKind?_div hop, rfl⟩, hget⟩
      · exact .inr ⟨a, op, b, _, rfl, hget, hrange⟩
  · cases h

/-- The error of `(7-2)/(1-1)` is at its division, that of the sum after a comment at the sum. -/
theorem run_error_cases_quotient_sum :
    let s := "(7-2)/(1-1)".toList
    let s' := "/*…*/2147483647 + 1".toList
    ((run s).result = some (.error (.divisionByZero 5)) ∧ (run s).stripped[5]? = some '/') ∧
      (run s').result = some (.error (.overflow 2147483647 .add 1 11)) ∧
      (run s').stripped[11]? = some '+' := by
  intro s s'
  have hs : (run s).result = some (.error (.divisionByZero 5)) := by decide +kernel
  have hs' : (run s').result = some (.error (.overflow 2147483647 .add 1 11)) := by decide +kernel
  refine ⟨⟨hs, ?_⟩, hs', ?_⟩
  · rcases (run_error_cases hs).2 with ⟨p, herr, -, hget⟩ | ⟨_, _, _, _, herr, -⟩ <;> cases herr
    exact hget
  · rcases (run_error_cases hs').2 with ⟨_, herr, -⟩ | ⟨_, _, _, p, herr, hget, -⟩ <;> cases herr
    exact hget

end Reckon
