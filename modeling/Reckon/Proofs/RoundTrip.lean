import Reckon.Proofs.Bounds
import Reckon.Proofs.Comments
import Reckon.Proofs.Running

/-!
# Printed expressions are read back

An expression on one line, in full parentheses, is a text of the language, and a run of it finds
the expression again. The line is followed through the stages: it has no comments although it is
full of slashes and stars, since a blank stands after each operator; it is spelled from signs and
numbers; and each node takes one pair of parentheses, so a tree of `n + 1` levels never has more
than `n` of them open.

* `Expr.Alike`: trees that differ in the places and the lexemes of their tokens only.
* `SameVerdict`: results that differ in the place of an error only.
* `run_formula`: **printing and running are inverse**.
-/

namespace Reckon

/-! ## Trees up to the places of their tokens -/

/-- The same shape, the same operators and the same numbers. What a node keeps of its depth is left
to its shape. -/
inductive Expr.Alike : Expr → Expr → Prop
  /-- leaves with the same value -/
  | number {t t' : Token} (h : t'.value = t.value) : Alike (.number t) (.number t')
  /-- nodes with the same operator between operands that are alike -/
  | node {op : Operator} {t t' : Token} {depth depth' : Nat} {l l' r r' : Expr} (hl : Alike l l')
      (hr : Alike r r') : Alike (.node op t depth l r) (.node op t' depth' l' r')

theorem Expr.Alike.height_eq {e e' : Expr} (h : e.Alike e') : e'.height = e.height := by
  induction h with
  | number => rfl
  | node _ _ ihl ihr => rw [height, height, ihl, ihr]

/-- All leaves carry signed integers that are not negative, as the numbers of a text do. -/
def Expr.HasNumerals (e : Expr) : Prop :=
  ∀ t, .number t ∈ e.postorder → ∃ n : Int32, t.value = some (.int n) ∧ 0 ≤ n.toInt

theorem Expr.HasNumerals.operands {op : Operator} {t : Token} {depth : Nat} {l r : Expr}
    (h : (Expr.node op t depth l r).HasNumerals) : l.HasNumerals ∧ r.HasNumerals := by
  refine ⟨fun t' ht' => h t' ?_, fun t' ht' => h t' ?_⟩
  · simp [postorder, ht']
  · simp [postorder, ht']

/-- The same value, or the same error of the same operands. -/
inductive SameVerdict : Except EvalError Int32 → Except EvalError Int32 → Prop
  /-- the same value -/
  | ok (v : Int32) : SameVerdict (.ok v) (.ok v)
  /-- a division by zero in both -/
  | divisionByZero (p q : Nat) :
      SameVerdict (.error (.divisionByZero p)) (.error (.divisionByZero q))
  /-- an overflow of the same operator between the same operands -/
  | overflow (a : Int32) (op : Operator) (b : Int32) (p q : Nat) :
      SameVerdict (.error (.overflow a op b p)) (.error (.overflow a op b q))

theorem Operator.apply_sameVerdict (op : Operator) (p q : Nat) (a b : Int32) :
    SameVerdict (op.apply p a b) (op.apply q a b) := by
  rw [apply, apply]
  split
  · exact .divisionByZero p q
  · rcases fit? (op.exact a.toInt b.toInt) with _ | v
    · exact .overflow a op b p q
    · exact .ok v

/-- The places of the tokens show in the place of an error only. -/
theorem Expr.Alike.eval {e e' : Expr} (h : e.Alike e') (hleaves : e.HasNumerals) :
    SameVerdict e.eval e'.eval := by
  induction h with
  | @number t t' hvalue =>
    obtain ⟨n, hn, -⟩ := hleaves t (mem_postorder_self _)
    rw [Expr.eval, Expr.eval, Token.eval, Token.eval, hvalue, hn]
    exact .ok n
  | @node op t t' _ _ l l' r r' _ _ ihl ihr =>
    obtain ⟨hl, hr⟩ := hleaves.operands
    have hleft := ihl hl
    have hright := ihr hr
    rw [Expr.eval, Expr.eval]
    -- the first operand with an error decides, and the operator if there is none
    generalize l.eval = x, l'.eval = x' at hleft
    cases hleft with
    | divisionByZero p q => exact .divisionByZero p q
    | overflow a op' b p q => exact .overflow a op' b p q
    | ok a =>
      generalize r.eval = y, r'.eval = y' at hright
      cases hright with
      | divisionByZero p q => exact .divisionByZero p q
      | overflow c op' b p q => exact .overflow c op' b p q
      | ok b => exact op.apply_sameVerdict t.position t'.position a b

/-! ## The line -/

theorem Expr.formula_number {t : Token} {v : Literal} (h : t.value = some v) :
    (Expr.number t).formula = v.display.toList := by
  rw [formula, formulaThen, h]
  simp

theorem Expr.formula_node (op : Operator) (t : Token) (depth : Nat) (l r : Expr) :
    (Expr.node op t depth l r).formula =
      '(' :: (l.formula ++ ' ' :: op.symbol :: ' ' :: (r.formula ++ [')'])) := by
  rw [formula, formulaThen, l.formulaThen_eq, r.formulaThen_eq]

/-- An integer that is not negative is written in digits, which stand for it. -/
theorem display_int {n : Int32} (hn : 0 ≤ n.toInt) :
    ∃ ds, (Literal.int n).display.toList = ds ∧ ds ≠ [] ∧ (∀ d ∈ ds, d.isDigit = true) ∧
      Number.natOfDigits ds ≤ 2147483647 ∧ Int32.ofNat (Number.natOfDigits ds) = n := by
  obtain ⟨m, hm⟩ := Int.eq_ofNat_of_zero_le hn
  have hnat : Number.natOfDigits (Nat.toDigits 10 m) = m := Nat.ofDigitChars_ten_toDigits
  have hle : m ≤ 2147483647 := by
    have := (inRange_toInt n).2
    omega
  refine ⟨Nat.toDigits 10 m, ?_, Nat.toDigits_ne_nil, fun d hd => ?_, by rwa [hnat], ?_⟩
  · rw [Literal.display, hm, Int.toString_eq_repr, Int.repr_eq_if, if_pos (Int.natCast_nonneg m),
      Int.toNat_natCast, Nat.toList_repr]
  · exact Nat.isDigit_of_mem_toDigits (by decide) (by decide) hd
  · rw [hnat, ← Int32.toInt_inj, Int32.toInt_ofNat_of_lt (by omega), hm]

/-! ## No comments -/

section Verbatim

open Comment

/-- Without quotes and slashes there is nothing to find. -/
theorem verbatim_of_plain {s : Text} (h : ∀ c ∈ s, c ≠ '"' ∧ c ≠ '/') (prev : Char) :
    Verbatim prev false s false := by
  induction s generalizing prev with
  | nil => exact .nil
  | cons c s ih =>
    obtain ⟨hquote, hslash⟩ := h c List.mem_cons_self
    have hstate : quoteState prev c false = false := by simp [quoteState, hquote]
    refine .cons (fun _ hc => absurd hc hslash) ?_
    rw [hstate]
    exact ih (fun d hd => h d (List.mem_cons_of_mem c hd)) c

/-- The blank after an operator keeps its sign from making a comment. -/
theorem Operator.verbatim_symbol (op : Operator) (prev : Char) :
    Verbatim prev false [' ', op.symbol, ' '] false := by
  have hstate : quoteState ' ' op.symbol (quoteState prev ' ' false) = false := by
    cases op <;> rfl
  refine .cons (fun _ hc => absurd hc (by decide)) (.cons (fun _ _ => ⟨' ', rfl, by decide⟩) ?_)
  rw [hstate]
  exact verbatim_of_plain (by simp) op.symbol

/-- Neither pass over the comments finds one in the line of an expression. -/
theorem Expr.HasNumerals.verbatim {e : Expr} (h : e.HasNumerals) (prev : Char) :
    Verbatim prev false e.formula false := by
  induction e generalizing prev with
  | number t =>
    obtain ⟨n, hn, hpos⟩ := h t (mem_postorder_self _)
    obtain ⟨ds, hds, -, hdigits, -⟩ := display_int hpos
    rw [formula_number hn, hds]
    refine verbatim_of_plain (fun c hc => ?_) prev
    have hdigit := hdigits c hc
    refine ⟨?_, ?_⟩ <;>
    · rintro rfl
      cases hdigit
  | node op t depth l r ihl ihr =>
    obtain ⟨hl, hr⟩ := h.operands
    have hline : (Expr.node op t depth l r).formula =
        ['('] ++ (l.formula ++ ([' ', op.symbol, ' '] ++ (r.formula ++ [')']))) := by
      simp [formula_node]
    rw [hline]
    refine .append (verbatim_of_plain (by simp) prev) (.append (ihl hl _) ?_)
    refine .append (op.verbatim_symbol _) (.append (ihr hr _) ?_)
    exact verbatim_of_plain (by simp) _

/-- A text in which neither pass finds a comment is kept whole. -/
theorem withoutComments_verbatim {s : Text} (h : Verbatim ' ' false s false) :
    (withoutBlocks s).openAt = none ∧ withoutComments s = s := by
  have hblocks : withoutBlocks s = ⟨s, none⟩ := by
    have := stripBlocks_verbatim h 0 [] []
    rwa [List.append_nil, List.append_nil, stripBlocks_nil, List.reverse_reverse] at this
  have hlines : withoutLines s = s := by
    have := stripLines_verbatim h [] []
    rwa [List.append_nil, List.append_nil, stripLines, List.reverse_reverse] at this
  rw [withoutComments, hblocks]
  exact ⟨rfl, hlines⟩

end Verbatim

/-! ## The tokens of the line -/

/-- Every operator has a sign, whose token is an operator of one tightness. -/
theorem Operator.sign (op : Operator) :
    ∃ k kind, Kind.ofSign? op.symbol = some kind ∧ Joins k kind op := by
  cases op with
  | add => exact ⟨_, _, rfl, .plus⟩
  | sub => exact ⟨_, _, rfl, .minus⟩
  | mul => exact ⟨_, _, rfl, .times⟩
  | div => exact ⟨_, _, rfl, .slash⟩

/-- Two primaries with an operator between them are an expression, whatever its tightness. -/
theorem Fits.operation {k : Tightness} {room : Nat} {xs ys : List Token} {t : Token}
    {op : Operator} {l r : Expr} (hl : Fits .primary room xs l)
    (ht : Joins k t.kind op) (hr : Fits .primary room ys r)
    (hheight : max l.height r.height < treeLimit) :
    Fits .expression room (xs ++ t :: ys) (.binary op t l r) := by
  cases k with
  | sums =>
    have hterm : Fits .term room xs l := .single (k := .products) hl
    have hterm' : Fits .term room ys r := .single (k := .products) hr
    exact .joined (k := .sums) (.single (k := .sums) hterm) ht hterm' hheight
  | products =>
    exact .single (k := .sums)
      (.joined (k := .products) (.single (k := .products) hl) ht hr hheight)

/-- A sign makes a token of its kind before the others. -/
theorem Spelled.before_sign {start : Nat} {s : Text} {ts : List Token}
    (h : Spelled (start + 1) s ts) {c : Char} {kind : Kind} (hc : Kind.ofSign? c = some kind) :
    ∃ t, t.kind = kind ∧ Spelled start (c :: s) (t :: ts) :=
  ⟨_, rfl, .sign hc h⟩

/-- The line of an expression, before a text that does not go on with its last number, is spelled
from the tokens of one primary with a tree alike. Every node takes a pair of parentheses from the
room. -/
theorem Expr.HasNumerals.spelled {e : Expr} (h : e.HasNumerals) {room : Nat}
    (hroom : e.height ≤ room + 1) (hlimit : e.height ≤ treeLimit) {start : Nat} {rest : Text}
    {ts : List Token}
    (hrest : Spelled (start + e.formula.length) rest ts)
    (hhead : ∀ d, rest.head? = some d → d.isDigit = false) :
    ∃ us e', Spelled start (e.formula ++ rest) (us ++ ts) ∧ Fits .primary room us e' ∧
      e.Alike e' := by
  induction e generalizing room start rest ts with
  | number t =>
    obtain ⟨n, hn, hpos⟩ := h t (mem_postorder_self _)
    obtain ⟨ds, hds, hne, hdigits, hmax, hvalue⟩ := display_int hpos
    rw [formula_number hn, hds] at hrest ⊢
    refine ⟨_, _, Spelled.number hne hdigits hhead hmax hrest, .literal rfl room, .number ?_⟩
    rw [hn, hvalue]
  | node op t depth l r ihl ihr =>
    obtain ⟨hl, hr⟩ := h.operands
    obtain ⟨k, kind, hsign, hop⟩ := op.sign
    rw [height] at hroom hlimit
    have hlpos := l.height_pos
    obtain ⟨room, rfl⟩ : ∃ n, room = n + 1 := ⟨room - 1, by omega⟩
    have hline : (Expr.node op t depth l r).formula ++ rest =
        '(' :: (l.formula ++ (' ' :: op.symbol :: ' ' :: (r.formula ++ (')' :: rest)))) := by
      simp [formula_node]
    have hlength : start + (Expr.node op t depth l r).formula.length =
        start + 1 + l.formula.length + 1 + 1 + 1 + r.formula.length + 1 := by
      simp only [formula_node, List.length_cons, List.length_append, List.length_nil]
      omega
    rw [hlength] at hrest
    have hrooml : l.height ≤ room + 1 := by omega
    have hroomr : r.height ≤ room + 1 := by omega
    -- from the closing parenthesis back to the opening one
    obtain ⟨c, hc, hspellc⟩ := hrest.before_sign (c := ')') rfl
    obtain ⟨ys, r', hspellr, hfitsr, haliker⟩ :=
      ihr hr hroomr (by omega) hspellc (by simp)
    obtain ⟨t', ht', hspellt⟩ := (Spelled.blank (c := ' ') rfl hspellr).before_sign hsign
    obtain ⟨xs, l', hspelll, hfitsl, halikel⟩ :=
      ihl hl hrooml (by omega) (.blank (c := ' ') rfl hspellt) (by simp)
    obtain ⟨o, ho, hspello⟩ := hspelll.before_sign (c := '(') rfl
    have hinside : Fits .expression room (xs ++ t' :: ys) (.binary op t' l' r') := by
      refine hfitsl.operation (ht' ▸ hop) hfitsr ?_
      rw [halikel.height_eq, haliker.height_eq]
      omega
    refine ⟨o :: (xs ++ t' :: ys ++ [c]), _, ?_, hinside.group ho hc, .node halikel haliker⟩
    rw [hline]
    simpa using hspello

/-- The line of an expression of at most 257 levels is a sentence with a tree alike. -/
theorem Expr.HasNumerals.sentence {e : Expr} (h : e.HasNumerals) (hheight : e.height ≤ 257) :
    ∃ ts e', Sentence e.formula ts e' ∧ e.Alike e' := by
  obtain ⟨hclosed, hkept⟩ := withoutComments_verbatim (h.verbatim ' ')
  have hlimit : e.height ≤ treeLimit := by
    rw [treeLimit]
    omega
  have hnesting : e.height ≤ nestingLimit + 1 := hheight
  have hnil : Spelled (0 + e.formula.length) [] [] := .nil
  obtain ⟨ts, e', hspelled, hfits, halike⟩ := h.spelled hnesting hlimit hnil (by simp)
  rw [List.append_nil, List.append_nil] at hspelled
  have hderives : Derives .expression ts e' :=
    .single (k := .sums) (.single (k := .products) hfits.derives)
  exact ⟨ts, e', ⟨hclosed, by rwa [hkept], hderives, hfits.openAtMost, hfits.shallow⟩, halike⟩

/-- **Printing and running are inverse.** Take an expression of at most 257 levels whose leaves
carry signed integers from zero on. Its line in full parentheses runs without a fault; the tree of
the run has the same shape, operators and numbers, on tokens of the right kinds and with its true
depths; and it evaluates to the same value, or to the same error with the same operands. -/
theorem run_formula {e : Expr} (hheight : e.height ≤ 257) (hleaves : e.HasNumerals) :
    (run e.formula).diagnostics = [] ∧ e.Alike (run e.formula).tree ∧
      (run e.formula).tree.WellFormed ∧
      (∀ d ∈ (run e.formula).tree.postorder, d.depth = d.height) ∧
      ∃ verdict, (run e.formula).result = some verdict ∧ SameVerdict e.eval verdict := by
  obtain ⟨ts, e', hsentence, halike⟩ := hleaves.sentence hheight
  obtain ⟨hfaults, htree⟩ := hsentence.run
  have hdepths : ∀ d ∈ (run e.formula).tree.postorder, d.depth = d.height :=
    fun d hd => (made_expression _ _ _).node_depth_eq hd
  rw [htree] at hdepths
  rw [run_result, if_pos hfaults, htree]
  exact ⟨hfaults, halike, hsentence.derives.wellFormed, hdepths, _, rfl, halike.eval hleaves⟩

/-- `7 / (2 * 0)`, made of tokens from nowhere, divides by zero before and after. -/
theorem run_formula_quotient :
    let leaf (n : Int32) := Expr.number (.literal (.int n) 40 [])
    let e := Expr.binary .div (.plain .slash 40 []) (leaf 7)
      (.binary .mul (.plain .times 40 []) (leaf 2) (leaf 0))
    (e.height ≤ 257 ∧ e.HasNumerals ∧ e.formula = "(7 / (2 * 0))".toList ∧
        e.eval = .error (.divisionByZero 40)) ∧
      (run e.formula).diagnostics = [] ∧ e.Alike (run e.formula).tree ∧
      ∃ p, (run e.formula).result = some (.error (.divisionByZero p)) := by
  intro leaf e
  have hheight : e.height ≤ 257 := by decide
  have hleaves : e.HasNumerals := by
    intro t ht
    simp only [e, leaf, Expr.binary, Expr.postorder, List.mem_append, List.mem_singleton] at ht
    rcases ht with (ht | (ht | ht) | ht) | ht <;> cases ht <;> exact ⟨_, rfl, by decide⟩
  have hline : e.formula = "(7 / (2 * 0))".toList := by decide +kernel
  have herror : e.eval = .error (.divisionByZero 40) := by decide +kernel
  obtain ⟨hfaults, halike, -, -, verdict, hresult, hsame⟩ := run_formula hheight hleaves
  rw [herror] at hsame
  cases hsame with
  | divisionByZero p q => exact ⟨⟨hheight, hleaves, hline, herror⟩, hfaults, halike, q, hresult⟩

end Reckon
