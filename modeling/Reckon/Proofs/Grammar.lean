import Reckon.Expr.Parser

/-!
# The grammar of expressions

    expression := term (('+' | '-') term)*
    term       := primary (('*' | '/') primary)*
    primary    := '(' expression ')' | int literal

as a relation between a row of tokens and the tree that it derives, with operators joined from
the left. The two upper rules have one shape, a chain of operands with operators of one
tightness between them, so `Phrase.chain` stands for both.

* `Joins`: the operators of the grammar and their tokens.
* `Derives p ts e`: the tokens `ts` are a phrase `p`, and `e` is its tree.
* `openParens`, `OpenAtMost`: how many parentheses are open, at the end and at any point.
* `Derives.unique`: **the grammar is unambiguous**. A token row that is a phrase in two ways
  would have an operator of a chain inside one of the chain's operands, and there operators of
  this tightness stand in parentheses only (`Derives.openParens_pos`), while the row before an
  operator of the chain has closed all of its own.
* `Expr.height`: the levels of a tree, which its root keeps if it was derived.
-/

namespace Reckon

/-! ## Phrases and their trees -/

/-- The phrases of the grammar. -/
inductive Phrase where
  /-- a number, or an expression in parentheses -/
  | primary
  /-- operands with operators of one tightness between them -/
  | chain (tightness : Tightness)
  deriving DecidableEq

/-- `primary (('*' | '/') primary)*` -/
abbrev Phrase.term : Phrase := .chain .products

/-- `term (('+' | '-') term)*` -/
abbrev Phrase.expression : Phrase := .chain .sums

/-- The phrase between the operators of a chain. -/
def Tightness.operand : Tightness → Phrase
  | .products => .primary
  | .sums => .term

/-- The operators of the grammar: a token of the given kind joins the operands of a chain of
the given tightness, by the operator. -/
inductive Joins : Tightness → Kind → Operator → Prop
  | plus : Joins .sums .plus .add
  | minus : Joins .sums .minus .sub
  | times : Joins .products .times .mul
  | slash : Joins .products .slash .div

/-- The tokens are the given phrase, and the expression is its tree: chains are joined from
the left, and parentheses leave no node behind. -/
inductive Derives : Phrase → List Token → Expr → Prop
  /-- a number -/
  | literal {t : Token} (h : t.kind = .intLiteral) : Derives .primary [t] (.number t)
  /-- an expression in parentheses -/
  | group {o c : Token} {ts : List Token} {e : Expr} (ho : o.kind = .openParen)
      (h : Derives .expression ts e) (hc : c.kind = .closeParen) :
      Derives .primary (o :: (ts ++ [c])) e
  /-- a chain of one operand -/
  | single {k : Tightness} {ts : List Token} {e : Expr} (h : Derives k.operand ts e) :
      Derives (.chain k) ts e
  /-- a chain with one more operator and operand at its end -/
  | joined {k : Tightness} {xs ys : List Token} {t : Token} {op : Operator} {l r : Expr}
      (hl : Derives (.chain k) xs l) (ht : Joins k t.kind op)
      (hr : Derives k.operand ys r) : Derives (.chain k) (xs ++ t :: ys) (.binary op t l r)

/-- Inversion for primaries. -/
theorem Derives.primary_cases {ts : List Token} {e : Expr} (h : Derives .primary ts e) :
    (∃ t, t.kind = .intLiteral ∧ ts = [t] ∧ e = .number t) ∨
      ∃ o us c, o.kind = .openParen ∧ Derives .expression us e ∧ c.kind = .closeParen ∧
        ts = o :: (us ++ [c]) := by
  cases h with
  | literal h => exact .inl ⟨_, h, rfl, rfl⟩
  | group ho h hc => exact .inr ⟨_, _, _, ho, h, hc, rfl⟩

/-- Inversion for chains. -/
theorem Derives.chain_cases {k : Tightness} {ts : List Token} {e : Expr}
    (h : Derives (.chain k) ts e) :
    Derives k.operand ts e ∨
      ∃ xs t ys op l r, Derives (.chain k) xs l ∧ Joins k t.kind op ∧
        Derives k.operand ys r ∧ ts = xs ++ t :: ys ∧ e = .binary op t l r := by
  cases h with
  | single h => exact .inl h
  | joined hl ht hr => exact .inr ⟨_, _, _, _, _, _, hl, ht, hr, rfl, rfl⟩

/-- The parser goes by the operators of the grammar. -/
theorem Tightness.operator?_eq_some_iff {k : Tightness} {kind : Kind} {op : Operator} :
    k.operator? kind = some op ↔ Joins k kind op := by
  constructor
  · intro h
    unfold operator? at h
    split at h <;> cases h <;> constructor
  · rintro (_ | _ | _ | _) <;> rfl

namespace Joins

variable {k k' : Tightness} {kind : Kind} {op op' : Operator}

/-- The operator of a token does not hang on the chain that it stands in. -/
theorem ofKind? (h : Joins k kind op) : Operator.ofKind? kind = some op := by
  cases h <;> rfl

/-- A token joins by one operator, and in chains of one tightness. -/
theorem unique (h : Joins k kind op) (h' : Joins k' kind op') : k = k' ∧ op = op' := by
  cases h <;> cases h' <;> exact ⟨rfl, rfl⟩

/-- An operator is neither a number nor a parenthesis. -/
theorem ne (h : Joins k kind op) :
    kind ≠ .intLiteral ∧ kind ≠ .openParen ∧ kind ≠ .closeParen := by
  cases h <;> decide

end Joins

/-! ## Open parentheses -/

/-- What a token adds to the number of open parentheses. -/
def Token.nesting (t : Token) : Int :=
  if t.kind = .openParen then 1 else if t.kind = .closeParen then -1 else 0

theorem Token.nesting_open {t : Token} (h : t.kind = .openParen) : t.nesting = 1 := by
  simp [nesting, h]

theorem Token.nesting_close {t : Token} (h : t.kind = .closeParen) : t.nesting = -1 := by
  simp [nesting, h]

theorem Token.nesting_literal {t : Token} (h : t.kind = .intLiteral) : t.nesting = 0 := by
  simp [nesting, h]

theorem Token.nesting_operator {t : Token} {k : Tightness} {op : Operator}
    (h : Joins k t.kind op) : t.nesting = 0 := by
  obtain ⟨-, hopen, hclose⟩ := h.ne
  simp [nesting, hopen, hclose]

/-- The parentheses opened in a row of tokens, less those closed. -/
def openParens : List Token → Int
  | [] => 0
  | t :: ts => t.nesting + openParens ts

@[simp] theorem openParens_nil : openParens [] = 0 := rfl

@[simp] theorem openParens_cons (t : Token) (ts : List Token) :
    openParens (t :: ts) = t.nesting + openParens ts := rfl

@[simp] theorem openParens_append (xs ys : List Token) :
    openParens (xs ++ ys) = openParens xs + openParens ys := by
  induction xs with
  | nil => simp
  | cons t xs ih => simp only [List.cons_append, openParens_cons, ih]; omega

/-- At most `n` parentheses are open at any point of the row. -/
def OpenAtMost (n : Int) (ts : List Token) : Prop :=
  ∀ before, before <+: ts → openParens before ≤ n

@[simp] theorem openAtMost_nil {n : Int} : OpenAtMost n [] ↔ 0 ≤ n := by
  constructor
  · intro h
    exact h [] (List.prefix_refl _)
  · intro hn before hbefore
    rw [List.prefix_nil.1 hbefore]
    exact hn

/-- What one token leaves of the bound for the rest. -/
@[simp] theorem openAtMost_cons {n : Int} {t : Token} {ts : List Token} :
    OpenAtMost n (t :: ts) ↔ 0 ≤ n ∧ OpenAtMost (n - t.nesting) ts := by
  constructor
  · intro h
    refine ⟨h [] List.nil_prefix, fun before hbefore => ?_⟩
    have := h (t :: before) (List.cons_prefix_cons.2 ⟨rfl, hbefore⟩)
    rw [openParens_cons] at this
    omega
  · rintro ⟨hn, h⟩ before hbefore
    rcases List.prefix_cons_iff.1 hbefore with rfl | ⟨rest, rfl, hrest⟩
    · exact hn
    · have := h rest hrest
      rw [openParens_cons]
      omega

/-- What a row of tokens leaves of the bound for the rest. -/
theorem openAtMost_append {n : Int} {xs ys : List Token} :
    OpenAtMost n (xs ++ ys) ↔ OpenAtMost n xs ∧ OpenAtMost (n - openParens xs) ys := by
  induction xs generalizing n with
  | nil =>
    simp only [List.nil_append, openAtMost_nil, openParens_nil, Int.sub_zero]
    exact ⟨fun h => ⟨h [] List.nil_prefix, h⟩, And.right⟩
  | cons t xs ih =>
    simp only [List.cons_append, openAtMost_cons, ih, openParens_cons, and_assoc]
    rw [Int.sub_sub]

/-! ## What every phrase closes -/

/-- A phrase closes all parentheses that it opens. -/
theorem Derives.openParens_eq {p : Phrase} {ts : List Token} {e : Expr} (h : Derives p ts e) :
    openParens ts = 0 := by
  induction h with
  | literal h => simp [Token.nesting_literal h]
  | group ho _ hc ih => simp [Token.nesting_open ho, Token.nesting_close hc, ih]
  | single _ ih => exact ih
  | joined _ ht _ ihl ihr => simp [Token.nesting_operator ht, ihl, ihr]

/-- A phrase closes no parenthesis that it did not open. -/
theorem Derives.openParens_nonneg {p : Phrase} {ts : List Token} {e : Expr}
    (h : Derives p ts e) {before : List Token} (hb : before <+: ts) : 0 ≤ openParens before := by
  induction h generalizing before with
  | @literal t h =>
    rcases List.prefix_cons_iff.1 hb with rfl | ⟨rest, rfl, hrest⟩
    · exact Int.le_refl 0
    · simp [List.prefix_nil.1 hrest, Token.nesting_literal h]
  | @group o c ts e ho h hc ih =>
    rcases List.prefix_cons_iff.1 hb with rfl | ⟨rest, rfl, hrest⟩
    · exact Int.le_refl 0
    · rw [openParens_cons, Token.nesting_open ho]
      rcases List.prefix_concat_iff.1 hrest with rfl | hrest
      · simp [h.openParens_eq, Token.nesting_close hc]
      · have := ih hrest
        omega
  | single _ ih => exact ih hb
  | @joined k xs ys t op l r hl ht hr ihl ihr =>
    obtain ⟨after, hafter⟩ := hb
    rcases List.append_eq_append_iff.1 hafter with ⟨more, rfl, -⟩ | ⟨rest, rfl, hrest⟩
    · exact ihl (List.prefix_append _ _)
    · -- the prefix ends in the last operand; the row before it has closed its own parentheses
      rw [openParens_append, hl.openParens_eq]
      rcases List.prefix_cons_iff.1 ⟨after, hrest.symm⟩ with rfl | ⟨inner, rfl, hinner⟩
      · exact Int.le_refl 0
      · have := ihr hinner
        rw [openParens_cons, Token.nesting_operator ht]
        omega

/-! ## Unambiguity -/

/-- Does an operator of the given tightness stand in the phrase in parentheses only? -/
def Phrase.encloses : Phrase → Tightness → Bool
  | .primary, _ => true
  | .chain .products, .sums => true
  | _, _ => false

theorem Phrase.operand_encloses {k k' : Tightness} (h : (Phrase.chain k').encloses k = true) :
    k'.operand.encloses k = true := by
  cases k <;> cases k' <;> simp_all [encloses, Tightness.operand]

theorem Tightness.operand_encloses (k : Tightness) : k.operand.encloses k = true := by
  cases k <;> rfl

/-- Where the second of two marked elements of a row stands: before the first, at it or
after it. -/
theorem append_cons_cases {xs ys before after : List Token} {s t : Token}
    (h : xs ++ s :: ys = before ++ t :: after) :
    (∃ mid, xs = before ++ t :: mid ∧ after = mid ++ s :: ys) ∨
      (before = xs ∧ t = s ∧ after = ys) ∨
      ∃ mid, before = xs ++ s :: mid ∧ ys = mid ++ t :: after := by
  rcases List.append_eq_append_iff.1 h with ⟨mid, rfl, hmid⟩ | ⟨mid, rfl, hmid⟩
  · rcases List.cons_eq_append_iff.1 hmid with ⟨rfl, hcons⟩ | ⟨mid, rfl, hys⟩
    · obtain ⟨rfl, rfl⟩ := List.cons.inj hcons
      exact .inr (.inl ⟨by simp, rfl, rfl⟩)
    · exact .inr (.inr ⟨mid, rfl, hys⟩)
  · rcases List.cons_eq_append_iff.1 hmid with ⟨rfl, hcons⟩ | ⟨mid, rfl, hafter⟩
    · obtain ⟨rfl, rfl⟩ := List.cons.inj hcons
      exact .inr (.inl ⟨by simp, rfl, rfl⟩)
    · exact .inl ⟨mid, rfl, hafter⟩

/-- An operator that binds less tightly than a phrase stands within parentheses of the
phrase. -/
theorem Derives.openParens_pos {p : Phrase} {ts : List Token} {e : Expr} (h : Derives p ts e)
    {k : Tightness} (hp : p.encloses k = true) {before after : List Token} {t : Token}
    {op : Operator} (hts : ts = before ++ t :: after) (ht : Joins k t.kind op) :
    0 < openParens before := by
  induction h generalizing before after with
  | @literal t' h =>
    obtain ⟨-, rfl, -⟩ : before = [] ∧ t = t' ∧ after = [] := by
      simpa using List.singleton_eq_append_iff.1 hts
    exact absurd h ht.ne.1
  | @group o c us e ho h hc ih =>
    rcases List.cons_eq_append_iff.1 hts with ⟨-, hcons⟩ | ⟨inner, rfl, hinner⟩
    · obtain ⟨rfl, -⟩ := List.cons.inj hcons
      exact absurd ho ht.ne.2.1
    · rw [openParens_cons, Token.nesting_open ho]
      rcases append_cons_cases hinner with ⟨mid, rfl, -⟩ | ⟨-, rfl, -⟩ | ⟨mid, -, hmid⟩
      · have := h.openParens_nonneg (List.prefix_append inner (t :: mid))
        omega
      · exact absurd hc ht.ne.2.2
      · simp at hmid
  | single _ ih => exact ih (Phrase.operand_encloses hp) hts
  | @joined k' xs ys t' op' l r hl ht' hr ihl ihr =>
    rcases append_cons_cases hts with ⟨mid, rfl, -⟩ | ⟨-, rfl, -⟩ | ⟨mid, rfl, rfl⟩
    · exact ihl hp rfl
    · -- a chain does not enclose its own operators
      obtain ⟨rfl, -⟩ := ht.unique ht'
      cases k <;> simp [Phrase.encloses] at hp
    · have := ihr (Phrase.operand_encloses hp) rfl
      rw [openParens_append, openParens_cons, hl.openParens_eq, Token.nesting_operator ht']
      omega

/-- The operators of a chain stand outside its operands. -/
theorem Derives.operand_excludes {k : Tightness} {xs mid after : List Token} {t t' : Token}
    {op op' : Operator} {l l' r : Expr} (hl : Derives (.chain k) xs l)
    (ht : Joins k t.kind op) (hl' : Derives (.chain k) (xs ++ t :: mid) l')
    (ht' : Joins k t'.kind op')
    (hr : Derives k.operand (mid ++ t' :: after) r) : False := by
  have hpos := hr.openParens_pos k.operand_encloses rfl ht'
  have hzero := hl'.openParens_eq
  rw [openParens_append, openParens_cons, hl.openParens_eq, Token.nesting_operator ht] at hzero
  omega

/-- A chain ends in only one way with an operator and an operand. -/
theorem Derives.chain_split_unique {k : Tightness} {xs ys xs' ys' : List Token} {t t' : Token}
    {op op' : Operator} {l r l' r' : Expr} (hl : Derives (.chain k) xs l)
    (ht : Joins k t.kind op) (hr : Derives k.operand ys r)
    (hl' : Derives (.chain k) xs' l') (ht' : Joins k t'.kind op')
    (hr' : Derives k.operand ys' r') (h : xs ++ t :: ys = xs' ++ t' :: ys') :
    xs = xs' ∧ t = t' ∧ ys = ys' := by
  rcases append_cons_cases h with ⟨mid, rfl, rfl⟩ | ⟨rfl, rfl, rfl⟩ | ⟨mid, rfl, rfl⟩
  · exact (hl'.operand_excludes ht' hl ht hr').elim
  · exact ⟨rfl, rfl, rfl⟩
  · exact (hl.operand_excludes ht hl' ht' hr).elim

/-- **Unambiguity**: a row of tokens has at most one tree. -/
theorem Derives.unique {p : Phrase} {ts : List Token} {e e' : Expr} (h : Derives p ts e)
    (h' : Derives p ts e') : e = e' := by
  induction h generalizing e' with
  | @literal t h =>
    rcases h'.primary_cases with ⟨t', -, hts, rfl⟩ | ⟨o, us, c, -, -, -, hts⟩
    · obtain ⟨rfl, -⟩ := List.cons.inj hts
      rfl
    · simp at hts
  | @group o c us e ho h hc ih =>
    rcases h'.primary_cases with ⟨t', -, hts, -⟩ | ⟨o', us', c', -, hus', -, hts⟩
    · simp at hts
    · obtain ⟨rfl, hus⟩ := List.cons.inj hts
      obtain ⟨rfl, -⟩ := List.append_inj' hus rfl
      exact ih hus'
  | @single k ts e h ih =>
    rcases h'.chain_cases with h' | ⟨xs, t, ys, op, l, r, hl, ht, -, hts, -⟩
    · exact ih h'
    · -- one operand would have the chain's operator outside of parentheses
      have := h.openParens_pos k.operand_encloses hts ht
      rw [hl.openParens_eq] at this
      omega
  | @joined k xs ys t op l r hl ht hr ihl ihr =>
    rcases h'.chain_cases with h' | ⟨xs', t', ys', op', l', r', hl', ht', hr', hts, rfl⟩
    · have := h'.openParens_pos k.operand_encloses rfl ht
      rw [hl.openParens_eq] at this
      omega
    · obtain ⟨rfl, rfl, rfl⟩ := Derives.chain_split_unique hl ht hr hl' ht' hr' hts
      obtain ⟨-, rfl⟩ := ht.unique ht'
      rw [ihl hl', ihr hr']

/-! ## What the tree keeps of the tokens -/

/-- Is the token a parenthesis? -/
def Token.isParen (t : Token) : Bool := t.kind = .openParen || t.kind = .closeParen

/-- The tokens of a tree from left to right. -/
def Expr.tokens : Expr → List Token
  | .number t => [t]
  | .node _ t _ l r => l.tokens ++ t :: r.tokens

/-- The tree of a phrase keeps its tokens, but for the parentheses. -/
theorem Derives.tokens_eq {p : Phrase} {ts : List Token} {e : Expr} (h : Derives p ts e) :
    e.tokens = ts.filter fun t => !t.isParen := by
  induction h with
  | literal h => simp [Expr.tokens, Token.isParen, h]
  | group ho _ hc ih => simp [Token.isParen, ho, hc, ih]
  | single _ ih => exact ih
  | @joined k xs ys t op l r _ ht _ ihl ihr =>
    have hparen : t.isParen = false := by
      obtain ⟨-, hopen, hclose⟩ := ht.ne
      simp [Token.isParen, hopen, hclose]
    simp [Expr.binary, Expr.tokens, ihl, ihr, hparen]

/-- The kinds of the grammar. -/
def Kind.isArithmetic : Kind → Bool
  | .plus | .minus | .times | .slash | .openParen | .closeParen | .intLiteral => true
  | _ => false

theorem Joins.isArithmetic {k : Tightness} {kind : Kind} {op : Operator} (h : Joins k kind op) :
    kind.isArithmetic = true := by
  cases h <;> rfl

/-- The grammar knows the kinds of all tokens of a phrase. -/
theorem Derives.isArithmetic {p : Phrase} {ts : List Token} {e : Expr} (h : Derives p ts e) :
    ∀ t ∈ ts, t.kind.isArithmetic = true := by
  induction h with
  | literal h => simp [h, Kind.isArithmetic]
  | group ho _ hc ih => simpa [ho, hc, Kind.isArithmetic, or_imp, forall_and] using ih
  | single _ ih => exact ih
  | @joined k _ _ t _ _ _ _ ht _ ihl ihr =>
    have hkind : t.kind.isArithmetic = true := ht.isArithmetic
    simpa [hkind, or_imp, forall_and] using ⟨ihl, ihr⟩

/-- The nodes of a tree fit their tokens: leaves are signed integers, and the operator of a
node is that of its token. -/
def Expr.WellFormed : Expr → Prop
  | .number t => t.kind = .intLiteral
  | .node op t _ l r => Operator.ofKind? t.kind = some op ∧ l.WellFormed ∧ r.WellFormed

theorem Derives.wellFormed {p : Phrase} {ts : List Token} {e : Expr} (h : Derives p ts e) :
    e.WellFormed := by
  induction h with
  | literal h => exact h
  | group _ _ _ ih => exact ih
  | single _ ih => exact ih
  | joined _ ht _ ihl ihr => exact ⟨ht.ofKind?, ihl, ihr⟩

/-! ## The height of a tree -/

/-- The levels of a tree, whatever depths its nodes keep. -/
def Expr.height : Expr → Nat
  | .number _ => 1
  | .node _ _ _ l r => 1 + max l.height r.height

@[simp] theorem Expr.height_number (t : Token) : (number t).height = 1 := rfl

@[simp] theorem Expr.height_binary (op : Operator) (t : Token) (l r : Expr) :
    (binary op t l r).height = 1 + max l.height r.height := rfl

theorem Expr.height_pos (e : Expr) : 0 < e.height := by
  cases e with
  | number => simp
  | node => rw [height]; omega

/-- The root of a derived tree keeps its height. -/
theorem Derives.depth_eq {p : Phrase} {ts : List Token} {e : Expr} (h : Derives p ts e) :
    e.depth = e.height := by
  induction h with
  | literal => rfl
  | group _ _ _ ih => exact ih
  | single _ ih => exact ih
  | joined _ _ _ ihl ihr => rw [Expr.depth_binary, Expr.height_binary, ihl, ihr]

end Reckon
