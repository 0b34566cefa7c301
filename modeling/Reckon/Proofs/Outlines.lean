import Mathlib.Data.List.Forall2
import Reckon.Proofs.Framing
import Reckon.Proofs.Provenance
import Reckon.Proofs.RoundTrip
import Reckon.Workbench.Rows

/-!
# Two outlines of one tree

A tree is written out in two places, as the lines that are printed and as the rows of a pane. The
two know a missing number by different signs, the lines by its missing value and the rows also by
its missing characters. In a tree of the parser the two signs agree, and so do the lines and rows.

* `Token.IsLeaf`: the leaves of such a tree. `Made.of_mem_leaves` says where they come from, and
  `isLeaf_of_run` that a run has no others.
* `TreeRow.PrintedAs`: the line of a row.
* `Expr.alike_of_keys`: a tree can be read off its rows, since a row tells whether operands follow.
* `outline_of_rows`: **lines and rows say the same**, and they determine the tree.
-/

namespace Reckon

/-! ## Leaves -/

/-- A leaf of the parser: a signed integer with its characters, or a placeholder, which has neither
a value nor characters. -/
inductive Token.IsLeaf (t : Token) : Prop
  /-- a number of the text -/
  | number {n : Int32} (hvalue : t.value = some (.int n)) (hlexeme : t.lexeme ≠ [])
  /-- a missing number -/
  | missing {p : Nat} (h : t = .placeholder .intLiteral p)

/-- The leaves of a tree are numbers of the row and placeholders. -/
theorem Made.of_mem_leaves {P : Token → Prop} (hmissing : ∀ p, P (.placeholder .intLiteral p))
    {endAt : Nat} {c : Cursor} {r : Reading c} (h : Made endAt r)
    (hrest : ∀ t ∈ c.rest, t.kind = .intLiteral → P t) : ∀ t ∈ r.expr.leaves, P t := by
  induction h with
  | missing c =>
    intro t ht
    obtain rfl := List.mem_singleton.1 ht
    exact hmissing _
  | @leaf c t rest h ht =>
    intro t' ht'
    obtain rfl := List.mem_singleton.1 ht'
    apply hrest t'
    · rw [h]
      exact List.mem_cons_self
    · exact ht
  | refused =>
    intro t ht
    obtain rfl := List.mem_singleton.1 ht
    exact hmissing _
  | @group c t rest h inside ht hin ih =>
    apply ih
    intro t' ht'
    apply hrest t'
    rw [h]
    exact List.mem_cons_of_mem t ht'
  | @join k origin left op t rest right h _ _ _ _ ihl ihr =>
    have hl := ihl hrest
    have hr := ihr fun t' ht' => hrest t' (h.subset ht')
    intro t' ht'
    rcases Reading.expr_join op t left right h with hexpr | hexpr
    · rw [hexpr] at ht'
      exact hl t' ht'
    · rw [hexpr] at ht'
      rcases List.mem_append.1 ht' with ht' | ht'
      · exact hl t' ht'
      · exact hr t' ht'

/-- The tokens of a text are as the lexer makes them. -/
theorem Segmented.lexed {start : Nat} {s : Text} {ts : List Token} {ds : List Diagnostic}
    (h : Segmented start s ts ds) : ∀ t ∈ ts, t.Lexed := by
  induction h with
  | nil => simp
  | cons hpiece _ ih =>
    refine List.forall_mem_append.2 ⟨?_, ih⟩
    cases hpiece with
    | blank | dropped => simp
    | token htoken => simpa using htoken

/-- An integer literal has its value. -/
theorem Token.Lexed.isLeaf {t : Token} (h : t.Lexed) (hkind : t.kind = .intLiteral) :
    t.IsLeaf := by
  have hsome := h.isSome_value
  rw [hkind] at hsome
  obtain ⟨v, hv⟩ := Option.isSome_iff_exists.1 hsome
  have hv' := (h.kind_value v hv).trans hkind
  cases v with
  | int n => exact .number hv h.lexeme_ne
  | _ => cases hv'

theorem isLeaf_of_run (s : Text) : ∀ t ∈ (run s).tree.leaves, t.IsLeaf := by
  have hmade := made_expression (endOf (run s).tokens) nestingLimit
    (startOf (run s).tokens (beforeParse s))
  apply hmade.of_mem_leaves (P := Token.IsLeaf) fun p => .missing rfl
  intro t ht hkind
  have htokens : t ∈ (run s).tokens := (List.takeWhile_sublist _).subset ht
  exact ((segmented_from 0 _).lexed t htokens).isLeaf hkind

/-! ## Labels -/

theorem Token.treeRow_of_number {t : Token} {n : Int32} (hvalue : t.value = some (.int n))
    (hlexeme : t.lexeme ≠ []) (depth : Nat) :
    t.treeRow depth = ⟨depth, "Number " ++ toString n.toInt, .ink Theme.number⟩ := by
  rw [treeRow, hvalue, isPlaceholder_eq_false hlexeme]
  rfl

theorem isDigit_of_mem_repr {c : Char} {n : Nat} (h : c ∈ n.repr.toList) : c.isDigit := by
  rw [Nat.toList_repr] at h
  exact Nat.isDigit_of_mem_toDigits (by decide) (by decide) h

/-- The marks of a missing number are in no number. -/
theorem angle_notMem_toString (n : Int) : '<' ∉ (toString n).toList := by
  have hdigits : ∀ m : Nat, '<' ∉ m.repr.toList := by
    intro m hm
    cases isDigit_of_mem_repr hm
  rw [Int.toString_eq_repr, Int.repr_eq_if]
  split
  · exact hdigits _
  · simpa using hdigits _

/-- A natural number can be read off its digits. -/
theorem eq_of_repr_eq {m n : Nat} (h : m.repr = n.repr) : m = n := by
  have hdigits : Nat.toDigits 10 m = Nat.toDigits 10 n := by
    rw [← Nat.toList_repr, h, Nat.toList_repr]
  rw [← Nat.ofDigitChars_ten_toDigits (n := m), hdigits, Nat.ofDigitChars_ten_toDigits]

/-- An integer can be read off its text: of two with the same digits, the negative one has a
dash. -/
theorem eq_of_toString_eq {m n : Int} (h : toString m = toString n) : m = n := by
  have hdash : ∀ k l : Nat, k.repr ≠ "-" ++ l.repr := by
    intro k l hkl
    have hmem : '-' ∈ k.repr.toList := by
      rw [hkl]
      simp
    cases isDigit_of_mem_repr hmem
  rw [Int.toString_eq_repr, Int.toString_eq_repr, Int.repr_eq_if, Int.repr_eq_if] at h
  by_cases hm : 0 ≤ m <;> by_cases hn : 0 ≤ n
  · rw [if_pos hm, if_pos hn] at h
    have habs := eq_of_repr_eq h
    omega
  · rw [if_pos hm, if_neg hn] at h
    exact absurd h (hdash _ _)
  · rw [if_neg hm, if_pos hn] at h
    exact absurd h.symm (hdash _ _)
  · rw [if_neg hm, if_neg hn, String.append_right_inj] at h
    have habs := eq_of_repr_eq h
    omega

theorem missing_label (p : Nat) :
    "Number <missing> @" ++ toString p = "Number " ++ ("<missing> @" ++ toString p) := by
  have hmark : "Number <missing> @" = "Number " ++ "<missing> @" := by decide
  rw [hmark, String.append_assoc]

theorem number_ne_missing (n : Int) (p : Nat) :
    "Number " ++ toString n ≠ "Number <missing> @" ++ toString p := by
  intro h
  rw [missing_label, String.append_right_inj] at h
  apply angle_notMem_toString n
  rw [h]
  simp

/-- The label of an operator. -/
theorem binary_ne_number (op : Operator) (more : String) :
    "Binary '" ++ String.singleton op.symbol ++ "'" ≠ "Number " ++ more := by
  intro h
  have hfirst := congrArg (fun label => label.toList.head?) h
  simp at hfirst

/-- The label of a leaf says that it is a number. -/
theorem Token.exists_label (t : Token) (depth : Nat) :
    ∃ more, (t.treeRow depth).label = "Number " ++ more := by
  rw [treeRow]
  split
  · exact ⟨_, rfl⟩
  · exact ⟨_, missing_label t.position⟩

/-! ## Lines and rows -/

/-- The blanks before a line of the outline: two for each level above it. -/
def indent (depth : Nat) : String := String.ofList (List.replicate (2 * depth) ' ')

/-- The line of a row: its label after two blanks for each level above it. The place of a missing
number is left out. -/
structure TreeRow.PrintedAs (row : TreeRow) (line : String) : Prop where
  /-- a missing number -/
  missing : ∀ p : Nat, row.label = "Number <missing> @" ++ toString p →
    line = indent row.depth ++ "Number <missing>"
  /-- any other row -/
  other : (∀ p : Nat, row.label ≠ "Number <missing> @" ++ toString p) →
    line = indent row.depth ++ row.label

/-- A leaf is the same in both outlines, whichever sign of a missing number they go by. -/
theorem Token.IsLeaf.printedAs {t : Token} (h : t.IsLeaf) (depth : Nat) :
    (t.treeRow depth).PrintedAs (indent depth ++ (Expr.number t).label) := by
  cases h with
  | @number n hvalue hlexeme =>
    rw [treeRow_of_number hvalue hlexeme, Expr.label, hvalue]
    exact ⟨fun p h => absurd h (number_ne_missing _ p), fun _ => rfl⟩
  | @missing p h =>
    subst h
    exact ⟨fun _ _ => rfl, fun hne => absurd rfl (hne p)⟩

/-- The outlines of a tree agree line by line, if those of what follows do. -/
theorem Expr.forall₂_printedAs {e : Expr} (h : ∀ t ∈ e.leaves, t.IsLeaf) (depth : Nat)
    {rows : List TreeRow} {lines : List String}
    (hrest : List.Forall₂ TreeRow.PrintedAs rows lines) :
    List.Forall₂ TreeRow.PrintedAs (e.rowsThen depth rows) (e.outlineFrom depth ++ lines) := by
  induction e generalizing depth rows lines with
  | number t => exact .cons ((h t (List.mem_singleton.2 rfl)).printedAs depth) hrest
  | node op t d l r ihl ihr =>
    obtain ⟨hl, hr⟩ := List.forall_mem_append.1 h
    rw [outlineFrom, List.cons_append, List.append_assoc]
    refine .cons ⟨fun p hp => ?_, fun _ => rfl⟩ ?_
    · exact absurd (hp.trans (missing_label p)) (binary_ne_number op _)
    · exact ihl hl (depth + 1) (ihr hr (depth + 1) hrest)

/-! ## Reading the rows -/

/-- What a row says of its node. -/
def TreeRow.key (row : TreeRow) : Nat × String := (row.depth, row.label)

theorem Operator.eq_of_label_eq {op op' : Operator}
    (h : "Binary '" ++ String.singleton op.symbol ++ "'" =
      "Binary '" ++ String.singleton op'.symbol ++ "'") : op = op' := by
  cases op <;> cases op' <;> first | rfl | exact absurd h (by decide)

/-- Leaves with the same label have the same value. -/
theorem Token.IsLeaf.value_eq {t t' : Token} (h : t.IsLeaf) (h' : t'.IsLeaf) {depth depth' : Nat}
    (hlabel : (t.treeRow depth).label = (t'.treeRow depth').label) : t'.value = t.value := by
  cases h with
  | @number n hvalue hlexeme =>
    rw [treeRow_of_number hvalue hlexeme] at hlabel
    cases h' with
    | @number n' hvalue' hlexeme' =>
      rw [treeRow_of_number hvalue' hlexeme'] at hlabel
      have hint : n.toInt = n'.toInt := eq_of_toString_eq ((String.append_right_inj _).1 hlabel)
      rw [hvalue, hvalue', Int32.toInt_inj.1 hint]
    | @missing p' h' =>
      subst h'
      exact absurd hlabel (number_ne_missing _ p')
  | @missing p h =>
    subst h
    cases h' with
    | @number n' hvalue' hlexeme' =>
      rw [treeRow_of_number hvalue' hlexeme'] at hlabel
      exact absurd hlabel.symm (number_ne_missing _ p)
    | @missing p' h' =>
      subst h'
      rfl

/-- A tree can be read off the keys of its rows, whatever rows follow: the first one tells whether
there are operands, and each of them is read in the same way. -/
theorem Expr.alike_of_keys {e e' : Expr} (h : ∀ t ∈ e.leaves, t.IsLeaf)
    (h' : ∀ t ∈ e'.leaves, t.IsLeaf) {depth : Nat} {rest rest' : List TreeRow}
    (hkeys : (e.rowsThen depth rest).map TreeRow.key = (e'.rowsThen depth rest').map TreeRow.key) :
    e.Alike e' ∧ rest.map TreeRow.key = rest'.map TreeRow.key := by
  induction e generalizing e' depth rest rest' with
  | number t =>
    cases e' with
    | number t' =>
      obtain ⟨hkey, hrest⟩ := List.cons.inj hkeys
      have hlabel : (t.treeRow depth).label = (t'.treeRow depth).label := congrArg Prod.snd hkey
      have hvalue := (h t (List.mem_singleton.2 rfl)).value_eq (h' t' (List.mem_singleton.2 rfl))
        hlabel
      exact ⟨.number hvalue, hrest⟩
    | node op' t' d' l' r' =>
      obtain ⟨hkey, -⟩ := List.cons.inj hkeys
      obtain ⟨more, hmore⟩ := t.exists_label depth
      exact absurd ((congrArg Prod.snd hkey).symm.trans hmore) (binary_ne_number op' more)
  | node op t d l r ihl ihr =>
    obtain ⟨hl, hr⟩ := List.forall_mem_append.1 h
    cases e' with
    | number t' =>
      obtain ⟨hkey, -⟩ := List.cons.inj hkeys
      obtain ⟨more, hmore⟩ := t'.exists_label depth
      exact absurd ((congrArg Prod.snd hkey).trans hmore) (binary_ne_number op more)
    | node op' t' d' l' r' =>
      obtain ⟨hl', hr'⟩ := List.forall_mem_append.1 h'
      obtain ⟨hkey, hrest⟩ := List.cons.inj hkeys
      obtain rfl : op = op' := Operator.eq_of_label_eq (congrArg Prod.snd hkey)
      obtain ⟨hleft, hrest⟩ := ihl hl hl' hrest
      obtain ⟨hright, hrest⟩ := ihr hr hr' hrest
      exact ⟨.node hleft hright, hrest⟩

/-! ## Trees of runs -/

theorem Expr.length_rowsThen (e : Expr) (depth : Nat) (rest : List TreeRow) :
    (e.rowsThen depth rest).length = e.nodeCount + rest.length := by
  induction e generalizing depth rest with
  | number t => rw [rowsThen, List.length_cons, nodeCount, Nat.add_comm]
  | node op t d l r ihl ihr =>
    rw [rowsThen, List.length_cons, ihl, ihr, nodeCount]
    omega

/-- **The lines and the rows of a tree say the same.** The tree of any run is printed in as many
lines as the pane has rows, one for each node. In order, each line is that of its row: the label
after two blanks for each level, but for the place of a missing number. And the tree can be read off
its rows: another run whose rows have the same depths and labels has a tree of the same shape, with
the same operators and the same values. -/
theorem outline_of_rows (s : Text) :
    let e := (run s).tree
    Framed (Text.endLines e.outline) e.outline ∧
    (e.outline.length = e.nodeCount ∧ e.rows.length = e.nodeCount) ∧
    List.Forall₂ TreeRow.PrintedAs e.rows e.outline ∧
    ∀ s', (run s').tree.rows.map TreeRow.key = e.rows.map TreeRow.key →
      e.Alike (run s').tree := by
  intro e
  have hleaves := isLeaf_of_run s
  refine ⟨framed_endLines fun line hline => Expr.oneLine_of_mem_outlineFrom hline,
    ⟨e.length_outlineFrom 0, e.length_rowsThen 0 []⟩, ?_, ?_⟩
  · have hlines := Expr.forall₂_printedAs hleaves 0 .nil
    rwa [List.append_nil] at hlines
  · intro s' hkeys
    exact (Expr.alike_of_keys hleaves (isLeaf_of_run s') hkeys.symm).1

/-- The lines leave out the place of a missing number. A missing parenthesis is in neither
outline, so that the tree is the same without it. -/
theorem outline_of_rows_unclosed :
    (run "2*(3+".toList).tree.outline = ["Binary '*'", "  Number 2", "  Binary '+'", "    Number 3",
      "    Number <missing>"] ∧
    (run "2*(3+".toList).tree.rows.map TreeRow.key = [(0, "Binary '*'"), (1, "Number 2"),
      (1, "Binary '+'"), (2, "Number 3"), (2, "Number <missing> @5")] ∧
    (run "2*(3+".toList).tree.Alike (run "2*(3+)".toList).tree := by
  obtain ⟨-, -, -, hread⟩ := outline_of_rows "2*(3+".toList
  refine ⟨by decide +kernel, by decide +kernel, hread "2*(3+)".toList ?_⟩
  decide +kernel

end Reckon
