import Mathlib.Algebra.Ring.Parity
import Reckon.Comment

/-!
# The comments of a text, by their offsets

What a pass over a text takes out, said without the pass: spans of the text, each from the mark of
a comment outside of strings to the comment's end, such that no comment is left between them.

* `Form`: a form of comment, with its mark and its end.
* `Form.Cuts`: the spans are the comments of the text.
* `Form.CutsFrom`: the same from an offset on. What the spans are is settled offset by offset
  (`cutsFrom_end`, `cutsFrom_keep`, `cutsFrom_open`), so there is exactly one choice of them.
* `stripBlocks_of_cuts`, `stripLines_of_cuts`: the two passes take out what the spans cover.
* `withoutComments_spans`: **taking comments out removes exactly the comments**.
-/

namespace Reckon.Comment

/-! ## Spans -/

/-- A stretch of a text, from one offset up to another. -/
structure Span where
  /-- the first offset -/
  start : Nat
  /-- the offset after the last -/
  stop : Nat
  deriving DecidableEq

/-- No span covers the offset. -/
def isKept (spans : List Span) (i : Nat) : Bool := spans.all fun a => i < a.start || a.stop ≤ i

/-- The offsets from `p` up to `i` that no span covers. -/
def keptBetween (spans : List Span) (p i : Nat) : List Nat :=
  (List.range' p (i - p)).filter (isKept spans)

/-- A double quote without a backslash right before it. -/
def quoteAt (s : Text) (i : Nat) : Bool := s[i]? = some '"' && (i = 0 || s[i - 1]? ≠ some '\\')

/-- How many unescaped double quotes stand before an offset outside of the spans. -/
def keptQuotes (s : Text) (spans : List Span) (i : Nat) : Nat :=
  (keptBetween spans 0 i).countP (quoteAt s)

/-- The characters outside of the spans. -/
def keptText (s : Text) (spans : List Span) : Text :=
  (keptBetween spans 0 s.length).filterMap fun i => s[i]?

theorem isKept_of_lt {spans : List Span} {p : Nat} (h : ∀ a ∈ spans, p < a.start) :
    isKept spans p = true := by
  rw [isKept, List.all_eq_true]
  intro a ha
  simp [h a ha]

theorem isKept_cons (a : Span) (spans : List Span) (i : Nat) :
    isKept (a :: spans) i = ((i < a.start || a.stop ≤ i) && isKept spans i) := rfl

theorem keptBetween_of_le (spans : List Span) {p i : Nat} (h : i ≤ p) :
    keptBetween spans p i = [] := by
  rw [keptBetween, Nat.sub_eq_zero_of_le h]
  rfl

/-- An offset before all spans is kept. -/
theorem keptBetween_keep {spans : List Span} {p i : Nat} (h : ∀ a ∈ spans, p < a.start)
    (hi : p < i) : keptBetween spans p i = p :: keptBetween spans (p + 1) i := by
  have hrange : List.range' p (i - p) = p :: List.range' (p + 1) (i - (p + 1)) := by
    rw [← List.range'_succ]
    congr 1
    omega
  rw [keptBetween, hrange, List.filter_cons, if_pos (isKept_of_lt h)]
  rfl

/-- The offsets of a first span are passed over. -/
theorem keptBetween_span {spans : List Span} {p stop : Nat} (hstop : p ≤ stop) (i : Nat) :
    keptBetween (⟨p, stop⟩ :: spans) p i = keptBetween spans stop i := by
  have hinside : ∀ j ∈ List.range' p (min i stop - p), ¬ isKept (⟨p, stop⟩ :: spans) j = true := by
    intro j hj
    rw [List.mem_range'_1] at hj
    rw [isKept_cons]
    simp only [Bool.and_eq_true, Bool.or_eq_true, decide_eq_true_eq]
    omega
  have hafter : ∀ j ∈ List.range' stop (i - stop),
      isKept (⟨p, stop⟩ :: spans) j = isKept spans j := by
    intro j hj
    rw [List.mem_range'_1] at hj
    have hle : stop ≤ j := hj.1
    simp [isKept_cons, hle]
  have hrange : List.range' p (i - p) =
      List.range' p (min i stop - p) ++ List.range' stop (i - stop) := by
    rcases Nat.le_total i stop with hle | hle
    · rw [Nat.min_eq_left hle, Nat.sub_eq_zero_of_le hle]
      simp
    · have hsplit := @List.range'_append_1 p (stop - p) (i - stop)
      rw [Nat.min_eq_right hle]
      rw [show p + (stop - p) = stop by omega] at hsplit
      rw [hsplit]
      congr 1
      omega
  rw [keptBetween, hrange, List.filter_append, List.filter_eq_nil_iff.2 hinside, List.nil_append,
    keptBetween, List.filter_congr hafter]

/-! ## Forms of comments -/

/-- A slash with the mark after it. -/
def OpensAt (mark : Char) (s : Text) (i : Nat) : Prop :=
  s[i]? = some '/' ∧ s[i + 1]? = some mark

instance (mark : Char) (s : Text) (i : Nat) : Decidable (OpensAt mark s i) :=
  inferInstanceAs (Decidable (_ ∧ _))

/-- A form of comment. -/
structure Form where
  /-- the character after the first slash -/
  mark : Char
  /-- where a comment that starts at an offset ends -/
  EndsAt : Text → Nat → Nat → Prop
  /-- a comment takes something away -/
  lt_of_endsAt : ∀ {s : Text} {i j : Nat}, OpensAt mark s i → EndsAt s i j → i < j
  /-- a comment ends within the text -/
  le_length : ∀ {s : Text} {i j : Nat}, EndsAt s i j → j ≤ s.length
  /-- a comment has one end -/
  unique : ∀ {s : Text} {i j k : Nat}, EndsAt s i j → EndsAt s i k → j = k
  /-- every comment has an end -/
  total : ∀ {s : Text} {i : Nat}, OpensAt mark s i → ∃ j, EndsAt s i j

/-- The spans are the comments of the text. -/
structure Form.Cuts (f : Form) (s : Text) (spans : List Span) : Prop where
  /-- they come one after the other -/
  ordered : spans.Pairwise fun a b => a.stop ≤ b.start
  /-- each starts at a mark with an even number of quotes before it -/
  opens : ∀ a ∈ spans, OpensAt f.mark s a.start ∧ Even (keptQuotes s spans a.start)
  /-- each is as long as a comment there -/
  ends : ∀ a ∈ spans, f.EndsAt s a.start a.stop
  /-- no such mark is left -/
  full : ∀ i, isKept spans i = true → Even (keptQuotes s spans i) → ¬ OpensAt f.mark s i

/-- The spans are the comments of the text from the offset `p` on, where a string is open or
not. -/
structure Form.CutsFrom (f : Form) (s : Text) (p : Nat) (inString : Bool) (spans : List Span) :
    Prop where
  /-- none starts before -/
  after : ∀ a ∈ spans, p ≤ a.start
  /-- they come one after the other -/
  ordered : spans.Pairwise fun a b => a.stop ≤ b.start
  /-- each starts at a mark outside of strings -/
  opens : ∀ a ∈ spans, OpensAt f.mark s a.start ∧
    Even (inString.toNat + (keptBetween spans p a.start).countP (quoteAt s))
  /-- each is as long as a comment there -/
  ends : ∀ a ∈ spans, f.EndsAt s a.start a.stop
  /-- no such mark is left -/
  full : ∀ i, p ≤ i → isKept spans i = true →
    Even (inString.toNat + (keptBetween spans p i).countP (quoteAt s)) → ¬ OpensAt f.mark s i

theorem Form.cuts_iff {f : Form} {s : Text} {spans : List Span} :
    f.Cuts s spans ↔ f.CutsFrom s 0 false spans := by
  have hcount : ∀ i, Even (keptQuotes s spans i) ↔
      Even (false.toNat + (keptBetween spans 0 i).countP (quoteAt s)) := by
    intro i
    rw [keptQuotes, Bool.toNat_false, Nat.zero_add]
  constructor
  · intro h
    exact ⟨fun _ _ => Nat.zero_le _, h.ordered,
      fun a ha => ⟨(h.opens a ha).1, (hcount _).1 (h.opens a ha).2⟩, h.ends,
      fun i _ hkept heven => h.full i hkept ((hcount i).2 heven)⟩
  · intro h
    exact ⟨h.ordered, fun a ha => ⟨(h.opens a ha).1, (hcount _).2 (h.opens a ha).2⟩, h.ends,
      fun i hkept heven => h.full i (Nat.zero_le i) hkept ((hcount i).1 heven)⟩

/-! ## Offset by offset -/

theorem OpensAt.lt_length {mark : Char} {s : Text} {i : Nat} (h : OpensAt mark s i) :
    i < s.length :=
  (List.getElem?_eq_some_iff.1 h.1).1

/-- The string state before an offset that is kept and after it. -/
theorem even_keptBetween {s : Text} {spans : List Span} {p i : Nat}
    (h : ∀ a ∈ spans, p < a.start) (hi : p < i) (inString : Bool) :
    Even (inString.toNat + (keptBetween spans p i).countP (quoteAt s)) ↔
      Even ((inString ^^ quoteAt s p).toNat +
        (keptBetween spans (p + 1) i).countP (quoteAt s)) := by
  rw [keptBetween_keep h hi, List.countP_cons]
  cases inString <;> cases quoteAt s p <;> simp [Nat.even_add_one, Nat.add_comm 1]

/-- No state but the one outside of strings is even. -/
theorem even_toNat {inString : Bool} : Even inString.toNat ↔ inString = false := by
  cases inString <;> simp

namespace Form

variable {f : Form} {s : Text} {p : Nat} {inString : Bool} {spans : List Span}

/-- After the end of a text there are no comments. -/
theorem cutsFrom_end (h : s.length ≤ p) : f.CutsFrom s p inString spans ↔ spans = [] := by
  constructor
  · intro hcuts
    refine List.eq_nil_iff_forall_not_mem.2 fun a ha => ?_
    have hlt := (hcuts.opens a ha).1.lt_length
    have hle := hcuts.after a ha
    omega
  · rintro rfl
    refine ⟨by simp, .nil, by simp, by simp, fun i hi _ _ hopens => ?_⟩
    have hlt := hopens.lt_length
    omega

/-- An offset at which no comment starts is kept. -/
theorem cutsFrom_keep (h : ¬(inString = false ∧ OpensAt f.mark s p)) :
    f.CutsFrom s p inString spans ↔ f.CutsFrom s (p + 1) (inString ^^ quoteAt s p) spans := by
  have hnone : Even (inString.toNat + (keptBetween spans p p).countP (quoteAt s)) →
      ¬ OpensAt f.mark s p := by
    rw [keptBetween_of_le spans (Nat.le_refl p), List.countP_nil, Nat.add_zero, even_toNat]
    exact fun hstate hopens => h ⟨hstate, hopens⟩
  constructor
  · intro hcuts
    have hafter : ∀ a ∈ spans, p < a.start := by
      intro a ha
      refine Nat.lt_of_le_of_ne (hcuts.after a ha) ?_
      rintro rfl
      obtain ⟨hopens, heven⟩ := hcuts.opens a ha
      exact hnone heven hopens
    refine ⟨hafter, hcuts.ordered, fun a ha => ?_, hcuts.ends, fun i hi hkept heven => ?_⟩
    · obtain ⟨hopens, heven⟩ := hcuts.opens a ha
      exact ⟨hopens, (even_keptBetween hafter (hafter a ha) inString).1 heven⟩
    · exact hcuts.full i (Nat.le_of_lt hi) hkept
        ((even_keptBetween hafter hi inString).2 heven)
  · intro hcuts
    have hafter : ∀ a ∈ spans, p < a.start := hcuts.after
    refine ⟨fun a ha => Nat.le_of_lt (hafter a ha), hcuts.ordered, fun a ha => ?_, hcuts.ends,
      fun i hi hkept heven => ?_⟩
    · obtain ⟨hopens, heven⟩ := hcuts.opens a ha
      exact ⟨hopens, (even_keptBetween hafter (hafter a ha) inString).2 heven⟩
    · rcases Nat.lt_or_eq_of_le hi with hlt | rfl
      · exact hcuts.full i hlt hkept ((even_keptBetween hafter hlt inString).1 heven)
      · exact hnone heven

/-- Where a comment starts there is a span. -/
theorem CutsFrom.head (hcuts : f.CutsFrom s p false spans) (hopens : OpensAt f.mark s p) :
    ∃ stop rest, spans = ⟨p, stop⟩ :: rest := by
  have hcovered : ¬ isKept spans p = true := by
    intro hkept
    refine hcuts.full p (Nat.le_refl p) hkept ?_ hopens
    rw [keptBetween_of_le spans (Nat.le_refl p)]
    exact Even.zero
  obtain ⟨a, ha, hle, hlt⟩ : ∃ a ∈ spans, a.start ≤ p ∧ p < a.stop := by
    simpa [isKept] using hcovered
  have hstart : a.start = p := Nat.le_antisymm hle (hcuts.after a ha)
  cases spans with
  | nil => simp at ha
  | cons b rest =>
    -- a span before it would have ended before the offset at which all spans start
    rcases List.mem_cons.1 ha with rfl | hmem
    · exact ⟨a.stop, rest, by rw [← hstart]⟩
    · have hb := List.mem_cons_self (a := b) (l := rest)
      have hbefore := (List.pairwise_cons.1 hcuts.ordered).1 a hmem
      have hpos := f.lt_of_endsAt (hcuts.opens b hb).1 (hcuts.ends b hb)
      have hafter := hcuts.after b hb
      omega

/-- The other spans are those from its end on. -/
theorem cutsFrom_span {stop : Nat} {rest : List Span} (hopens : OpensAt f.mark s p)
    (hends : f.EndsAt s p stop) :
    f.CutsFrom s p false (⟨p, stop⟩ :: rest) ↔ f.CutsFrom s stop false rest := by
  have hlt := f.lt_of_endsAt hopens hends
  have hcount : ∀ i, (keptBetween (⟨p, stop⟩ :: rest) p i).countP (quoteAt s) =
      (keptBetween rest stop i).countP (quoteAt s) := by
    intro i
    rw [keptBetween_span (Nat.le_of_lt hlt)]
  constructor
  · intro hcuts
    obtain ⟨hafter, hordered⟩ := List.pairwise_cons.1 hcuts.ordered
    refine ⟨hafter, hordered, fun a ha => ?_, fun a ha => hcuts.ends a (List.mem_cons_of_mem _ ha),
      fun i hi hkept heven => ?_⟩
    · obtain ⟨ha', heven⟩ := hcuts.opens a (List.mem_cons_of_mem _ ha)
      rw [hcount] at heven
      exact ⟨ha', heven⟩
    · rw [← hcount] at heven
      refine hcuts.full i (by omega) ?_ heven
      rw [isKept_cons, hkept]
      simp [hi]
  · intro hcuts
    refine ⟨?_, List.pairwise_cons.2 ⟨hcuts.after, hcuts.ordered⟩, ?_, ?_,
      fun i hi hkept heven => ?_⟩
    · intro a ha
      rcases List.mem_cons.1 ha with rfl | ha
      · exact Nat.le_refl p
      · exact Nat.le_trans (Nat.le_of_lt hlt) (hcuts.after a ha)
    · intro a ha
      rw [hcount]
      rcases List.mem_cons.1 ha with rfl | ha
      · rw [keptBetween_of_le rest (Nat.le_of_lt hlt)]
        exact ⟨hopens, Even.zero⟩
      · exact hcuts.opens a ha
    · intro a ha
      rcases List.mem_cons.1 ha with rfl | ha
      · exact hends
      · exact hcuts.ends a ha
    · rw [isKept_cons, Bool.and_eq_true, Bool.or_eq_true, decide_eq_true_eq,
        decide_eq_true_eq] at hkept
      have hout : i < p ∨ stop ≤ i := hkept.1
      rw [hcount] at heven
      exact hcuts.full i (by omega) hkept.2 heven

theorem cutsFrom_open (hopens : OpensAt f.mark s p) :
    f.CutsFrom s p false spans ↔ ∃ stop rest,
      spans = ⟨p, stop⟩ :: rest ∧ f.EndsAt s p stop ∧ f.CutsFrom s stop false rest := by
  constructor
  · intro hcuts
    obtain ⟨stop, rest, rfl⟩ := hcuts.head hopens
    have hends : f.EndsAt s p stop := hcuts.ends _ List.mem_cons_self
    exact ⟨stop, rest, rfl, hends, (cutsFrom_span hopens hends).1 hcuts⟩
  · rintro ⟨stop, rest, rfl, hends, hcuts⟩
    exact (cutsFrom_span hopens hends).2 hcuts

/-- From any offset on there is one choice of the spans. -/
theorem exists_cutsFrom (f : Form) (s : Text) (p : Nat) (inString : Bool) :
    ∃ spans, ∀ other, f.CutsFrom s p inString other ↔ other = spans := by
  by_cases hend : s.length ≤ p
  · exact ⟨[], fun other => cutsFrom_end hend⟩
  · by_cases hopens : inString = false ∧ OpensAt f.mark s p
    · obtain ⟨rfl, hopens⟩ := hopens
      obtain ⟨stop, hstop⟩ := f.total hopens
      have hlt := f.lt_of_endsAt hopens hstop
      obtain ⟨rest, hrest⟩ := exists_cutsFrom f s stop false
      refine ⟨⟨p, stop⟩ :: rest, fun other => ?_⟩
      rw [cutsFrom_open hopens]
      constructor
      · rintro ⟨stop', rest', rfl, hstop', hrest'⟩
        rw [f.unique hstop' hstop] at hrest' ⊢
        rw [(hrest rest').1 hrest']
      · rintro rfl
        exact ⟨stop, rest, rfl, hstop, (hrest rest).2 rfl⟩
    · obtain ⟨spans, hspans⟩ := exists_cutsFrom f s (p + 1) (inString ^^ quoteAt s p)
      exact ⟨spans, fun other => (cutsFrom_keep hopens).trans (hspans other)⟩
termination_by s.length - p

end Form

/-! ## Blocks -/

/-- A star with a slash after it. -/
def ClosesAt (s : Text) (j : Nat) : Prop := s[j]? = some '*' ∧ s[j + 1]? = some '/'

/-- The first end of a block at the offset `n` or after it. -/
structure FirstClose (s : Text) (n j : Nat) : Prop where
  /-- not before -/
  le : n ≤ j
  /-- an end -/
  closes : ClosesAt s j
  /-- the first one -/
  first : ∀ k, n ≤ k → k < j → ¬ ClosesAt s k

/-- The block that starts at the offset has no end. The end of a block is looked for after its two
opening characters. -/
def Unclosed (s : Text) (i : Nat) : Prop := ∀ j, i + 2 ≤ j → ¬ ClosesAt s j

theorem FirstClose.unique {s : Text} {n j k : Nat} (hj : FirstClose s n j)
    (hk : FirstClose s n k) : j = k := by
  rcases Nat.lt_trichotomy j k with hlt | heq | hlt
  · exact absurd hj.closes (hk.first j hj.le hlt)
  · exact heq
  · exact absurd hk.closes (hj.first k hk.le hlt)

theorem ClosesAt.le_length {s : Text} {j : Nat} (h : ClosesAt s j) : j + 2 ≤ s.length :=
  (List.getElem?_eq_some_iff.1 h.2).1

/-- What is looked for is found, or it is not there. -/
theorem blockEnd?_drop (s : Text) (n : Nat) :
    (∃ j, FirstClose s n j ∧ blockEnd? n (s.drop n) = some (j + 2, s.drop (j + 2))) ∨
      (∀ j, n ≤ j → ¬ ClosesAt s j) ∧ blockEnd? n (s.drop n) = none := by
  by_cases hn : s.length ≤ n
  · refine .inr ⟨fun j hj hcloses => ?_, ?_⟩
    · have := hcloses.le_length
      omega
    · rw [List.drop_eq_nil_of_le hn, blockEnd?]
  · have hcons : s.drop n = s[n] :: s.drop (n + 1) := List.drop_eq_getElem_cons (by omega)
    have hclose : ClosesAt s n ↔ s[n] = '*' ∧ (s.drop (n + 1)).head? = some '/' := by
      rw [ClosesAt, List.getElem?_eq_getElem (by omega), List.head?_drop]
      simp
    rw [hcons, blockEnd?]
    by_cases hcloses : ClosesAt s n
    · obtain ⟨hstar, hslash⟩ := hclose.1 hcloses
      refine .inl ⟨n, ⟨Nat.le_refl n, hcloses, fun k hk hlt => by omega⟩, ?_⟩
      simp [hstar, hslash]
    · have hskip : ¬((s[n] = '*' && (s.drop (n + 1)).head? = some '/') = true) := by
        simpa [hclose] using hcloses
      rw [if_neg hskip]
      rcases blockEnd?_drop s (n + 1) with ⟨j, hj, heq⟩ | ⟨hnone, heq⟩
      · refine .inl ⟨j, ⟨Nat.le_of_lt hj.le, hj.closes, fun k hk hlt => ?_⟩, heq⟩
        rcases Nat.lt_or_eq_of_le hk with hlt' | rfl
        · exact hj.first k hlt' hlt
        · exact hcloses
      · refine .inr ⟨fun j hj => ?_, heq⟩
        rcases Nat.lt_or_eq_of_le hj with hlt | rfl
        · exact hnone j hlt
        · exact hcloses
termination_by s.length - n

/-- Blocks end after the first end of a block, or with the text. -/
def Form.block : Form where
  mark := '*'
  EndsAt s i stop := (∃ j, FirstClose s (i + 2) j ∧ stop = j + 2) ∨ Unclosed s i ∧ stop = s.length
  lt_of_endsAt := by
    rintro s i stop hopens (⟨j, hj, rfl⟩ | ⟨-, rfl⟩)
    · have := hj.le
      omega
    · exact hopens.lt_length
  le_length := by
    rintro s i stop (⟨j, hj, rfl⟩ | ⟨-, rfl⟩)
    · exact hj.closes.le_length
    · exact Nat.le_refl _
  unique := by
    rintro s i stop stop' (⟨j, hj, rfl⟩ | ⟨hnone, rfl⟩) (⟨k, hk, rfl⟩ | ⟨hnone', rfl⟩)
    · rw [hj.unique hk]
    · exact absurd hj.closes (hnone' j hj.le)
    · exact absurd hk.closes (hnone k hk.le)
    · rfl
  total := by
    intro s i _
    rcases blockEnd?_drop s (i + 2) with ⟨j, hj, -⟩ | ⟨hnone, -⟩
    · exact ⟨j + 2, .inl ⟨j, hj, rfl⟩⟩
    · exact ⟨s.length, .inr ⟨hnone, rfl⟩⟩

/-- The last of the spans starts at the offset `x`, has no end and takes the rest of the text. -/
def LeftOpen (s : Text) (spans : List Span) (x : Nat) : Prop :=
  ∃ before, spans = before ++ [⟨x, s.length⟩] ∧ Unclosed s x

theorem not_leftOpen_nil (s : Text) (x : Nat) : ¬ LeftOpen s [] x := by
  rintro ⟨before, hspans, -⟩
  simp at hspans

/-- A block without an end is the last one. -/
theorem leftOpen_singleton {s : Text} {p x : Nat} (h : Unclosed s p) :
    LeftOpen s [⟨p, s.length⟩] x ↔ p = x := by
  constructor
  · rintro ⟨before, hspans, -⟩
    have hlast : [] ++ [Span.mk p s.length] = before ++ [⟨x, s.length⟩] := hspans
    obtain ⟨-, hspan⟩ := List.append_inj' hlast rfl
    exact congrArg Span.start (List.cons.inj hspan).1
  · rintro rfl
    exact ⟨[], rfl, h⟩

/-- A block with an end is not the one that is left open. -/
theorem leftOpen_cons {s : Text} {p j x stop : Nat} (h : FirstClose s (p + 2) j)
    (rest : List Span) : LeftOpen s (⟨p, stop⟩ :: rest) x ↔ LeftOpen s rest x := by
  constructor
  · rintro ⟨before, hspans, hopen⟩
    cases before with
    | nil =>
      obtain ⟨hfirst, -⟩ := List.cons.inj hspans
      obtain rfl : p = x := congrArg Span.start hfirst
      exact absurd h.closes (hopen j h.le)
    | cons b before =>
      obtain ⟨-, hrest⟩ := List.cons.inj hspans
      exact ⟨before, hrest, hopen⟩
  · rintro ⟨before, rfl, hopen⟩
    exact ⟨⟨p, stop⟩ :: before, rfl, hopen⟩

/-! ## Line comments -/

/-- The end of the line on which the offset `i` stands: the next newline, or the end of the
text. -/
structure LineEnd (s : Text) (i stop : Nat) : Prop where
  /-- not before -/
  le : i ≤ stop
  /-- no newline before -/
  free : ∀ j, i ≤ j → j < stop → s[j]? ≠ some '\n'
  /-- a newline or the end of the text -/
  stops : s[stop]? = some '\n' ∨ stop = s.length

namespace LineEnd

variable {s : Text} {i j k : Nat}

theorem le_length (h : LineEnd s i j) : j ≤ s.length := by
  rcases h.stops with hnewline | rfl
  · exact Nat.le_of_lt (List.getElem?_eq_some_iff.1 hnewline).1
  · exact Nat.le_refl _

theorem le_of_lineEnd (hj : LineEnd s i j) (hk : LineEnd s i k) : j ≤ k := by
  by_contra hlt
  rcases hk.stops with hnewline | hend
  · exact hj.free k hk.le (by omega) hnewline
  · have := hj.le_length
    omega

end LineEnd

theorem exists_lineEnd (s : Text) {i : Nat} (hi : i ≤ s.length) : ∃ stop, LineEnd s i stop := by
  by_cases hstops : s[i]? = some '\n' ∨ i = s.length
  · exact ⟨i, Nat.le_refl i, fun j hj hlt => by omega, hstops⟩
  · have hne : i ≠ s.length := fun h => hstops (.inr h)
    obtain ⟨stop, hstop⟩ := exists_lineEnd s (i := i + 1) (by omega)
    refine ⟨stop, Nat.le_of_lt hstop.le, fun j hj hlt => ?_, hstop.stops⟩
    rcases Nat.lt_or_eq_of_le hj with hlt' | rfl
    · exact hstop.free j hlt' hlt
    · exact fun h => hstops (.inl h)
termination_by s.length - i

/-- Line comments end before the next newline, or with the text. -/
def Form.line : Form where
  mark := '/'
  EndsAt := LineEnd
  lt_of_endsAt := by
    intro s i stop hopens hstop
    refine Nat.lt_of_le_of_ne hstop.le ?_
    rintro rfl
    rcases hstop.stops with hnewline | hend
    · rw [hopens.1] at hnewline
      cases hnewline
    · have := hopens.lt_length
      omega
  le_length := LineEnd.le_length
  unique hj hk := Nat.le_antisymm (hj.le_of_lineEnd hk) (hk.le_of_lineEnd hj)
  total hopens := exists_lineEnd _ (Nat.le_of_lt hopens.lt_length)

/-! ## The passes -/

/-- The character that a pass has seen last is a backslash if one stands before the offset. -/
def Seen (s : Text) (p : Nat) (prev : Char) : Prop :=
  prev = '\\' ↔ p ≠ 0 ∧ s[p - 1]? = some '\\'

theorem seen_zero (s : Text) : Seen s 0 ' ' := by
  simp [Seen]

theorem seen_succ {s : Text} {p : Nat} {c : Char} (h : s[p]? = some c) : Seen s (p + 1) c := by
  simp [Seen, h]

/-- A pass turns its string state over at the unescaped quotes. -/
theorem quoteState_eq {s : Text} {p : Nat} {prev c : Char} (hprev : Seen s p prev)
    (hc : s[p]? = some c) (inString : Bool) :
    quoteState prev c inString = (inString ^^ quoteAt s p) := by
  have hquote : (c = '"' ∧ prev ≠ '\\') ↔ quoteAt s p = true := by
    rw [quoteAt, hc]
    simp only [Option.some.injEq, Bool.and_eq_true, decide_eq_true_eq, Bool.or_eq_true, Ne,
      hprev.not, not_and_or, not_not]
  rw [quoteState, if_congr hquote rfl rfl]
  cases quoteAt s p <;> simp

/-- A pass finds a comment where one starts. -/
theorem opens_iff {s : Text} {p : Nat} {prev c mark : Char} (hc : s[p]? = some c)
    (inString : Bool) :
    (quoteState prev c inString = false ∧ c = '/' ∧ (s.drop (p + 1)).head? = some mark) ↔
      inString = false ∧ OpensAt mark s p := by
  rw [OpensAt, hc, List.head?_drop, Option.some.injEq]
  constructor
  · rintro ⟨hstate, rfl, hmark⟩
    exact ⟨hstate, rfl, hmark⟩
  · rintro ⟨hstate, rfl, hmark⟩
    exact ⟨hstate, rfl, hmark⟩

theorem drop_eq_cons {s : Text} {p : Nat} {c : Char} (h : s[p]? = some c) :
    s.drop p = c :: s.drop (p + 1) := by
  obtain ⟨hlt, rfl⟩ := List.getElem?_eq_some_iff.1 h
  exact List.drop_eq_getElem_cons hlt

/-- The characters outside of the spans from an offset on. -/
def textFrom (s : Text) (spans : List Span) (p : Nat) : Text :=
  (keptBetween spans p s.length).filterMap fun i => s[i]?

theorem textFrom_end {s : Text} {p : Nat} (h : s.length ≤ p) (spans : List Span) :
    textFrom s spans p = [] := by
  rw [textFrom, keptBetween_of_le spans h]
  rfl

theorem textFrom_keep {s : Text} {spans : List Span} {p : Nat} {c : Char} (hc : s[p]? = some c)
    (h : ∀ a ∈ spans, p < a.start) : textFrom s spans p = c :: textFrom s spans (p + 1) := by
  obtain ⟨hlt, -⟩ := List.getElem?_eq_some_iff.1 hc
  rw [textFrom, keptBetween_keep h hlt, List.filterMap_cons_some hc]
  rfl

theorem textFrom_span {s : Text} {spans : List Span} {p stop : Nat} (h : p ≤ stop) :
    textFrom s (⟨p, stop⟩ :: spans) p = textFrom s spans stop := by
  rw [textFrom, keptBetween_span h]
  rfl

/-- The pass over the blocks keeps what is outside of the spans, and it tells where the last block
starts if that has no end. -/
theorem stripBlocks_of_cuts {s : Text} {p : Nat} {prev : Char} {inString : Bool}
    {spans : List Span} (hprev : Seen s p prev) (hcuts : Form.block.CutsFrom s p inString spans)
    (kept : Text) :
    (stripBlocks p prev inString kept (s.drop p)).text = kept.reverse ++ textFrom s spans p ∧
      ∀ x, (stripBlocks p prev inString kept (s.drop p)).openAt = some x ↔
        LeftOpen s spans x := by
  by_cases hend : s.length ≤ p
  · obtain rfl := (Form.cutsFrom_end hend).1 hcuts
    rw [List.drop_eq_nil_of_le hend, stripBlocks_nil, textFrom_end hend]
    simp [not_leftOpen_nil]
  · obtain ⟨c, hc⟩ : ∃ c, s[p]? = some c := ⟨_, List.getElem?_eq_getElem (by omega)⟩
    by_cases hopens : inString = false ∧ OpensAt '*' s p
    · obtain ⟨rfl, hopens⟩ := hopens
      obtain ⟨stop, rest, rfl, hstop, hrest⟩ := (Form.cutsFrom_open (f := .block) hopens).1 hcuts
      have hlt := Form.block.lt_of_endsAt hopens hstop
      rw [drop_eq_cons hopens.1, drop_eq_cons hopens.2, textFrom_span (Nat.le_of_lt hlt)]
      rcases blockEnd?_drop s (p + 2) with ⟨j, hj, hfound⟩ | ⟨hnone, hfound⟩
      · obtain rfl := Form.block.unique hstop (.inl ⟨j, hj, rfl⟩)
        obtain ⟨htext, hopen⟩ := stripBlocks_of_cuts (seen_succ hj.closes.2) hrest kept
        rw [stripBlocks_block rfl hfound]
        exact ⟨htext, fun x => (hopen x).trans (leftOpen_cons hj rest).symm⟩
      · obtain rfl := Form.block.unique hstop (.inr ⟨hnone, rfl⟩)
        obtain rfl := (Form.cutsFrom_end (Nat.le_refl _)).1 hrest
        rw [stripBlocks_open rfl hfound, textFrom_end (Nat.le_refl _), List.append_nil]
        exact ⟨rfl, fun x => Option.some_inj.trans (leftOpen_singleton hnone).symm⟩
    · have hkept := (Form.cutsFrom_keep (f := .block) hopens).1 hcuts
      obtain ⟨htext, hopen⟩ := stripBlocks_of_cuts (seen_succ hc) hkept (c :: kept)
      rw [drop_eq_cons hc, stripBlocks_keep ((opens_iff hc inString).not.2 hopens),
        textFrom_keep hc hkept.after, quoteState_eq hprev hc]
      refine ⟨?_, hopen⟩
      rw [htext, List.reverse_cons, List.append_assoc]
      rfl
termination_by s.length - p

/-- A line comment is passed over up to its end. There the newline is kept, whatever was seen
before it. -/
theorem stripLines_to_lineEnd {s : Text} {i stop : Nat} (h : LineEnd s i stop)
    (prev prev' : Char) (inString : Bool) (kept : Text) :
    stripLines prev inString true kept (s.drop i) =
      stripLines prev' inString false kept (s.drop stop) := by
  rcases Nat.lt_or_eq_of_le h.le with hlt | rfl
  · obtain ⟨c, hc⟩ : ∃ c, s[i]? = some c :=
      ⟨_, List.getElem?_eq_getElem (Nat.lt_of_lt_of_le hlt h.le_length)⟩
    have hne : c ≠ '\n' := by
      rintro rfl
      exact h.free i (Nat.le_refl i) hlt hc
    rw [drop_eq_cons hc, stripLines, if_pos rfl, if_neg hne]
    exact stripLines_to_lineEnd ⟨hlt, fun j hj => h.free j (Nat.le_of_lt hj), h.stops⟩ _ _ _ _
  · rcases h.stops with hnewline | hend
    · rw [drop_eq_cons hnewline, stripLines_keep (by simp), stripLines, if_pos rfl, if_pos rfl]
      rfl
    · rw [hend, List.drop_length, stripLines, stripLines]
termination_by stop - i

/-- The pass over the line comments keeps what is outside of the spans. -/
theorem stripLines_of_cuts {s : Text} {p : Nat} {prev : Char} {inString : Bool}
    {spans : List Span} (hprev : Seen s p prev) (hcuts : Form.line.CutsFrom s p inString spans)
    (kept : Text) :
    stripLines prev inString false kept (s.drop p) = kept.reverse ++ textFrom s spans p := by
  by_cases hend : s.length ≤ p
  · rw [List.drop_eq_nil_of_le hend, textFrom_end hend, List.append_nil]
    rfl
  · obtain ⟨c, hc⟩ : ∃ c, s[p]? = some c := ⟨_, List.getElem?_eq_getElem (by omega)⟩
    by_cases hopens : inString = false ∧ OpensAt '/' s p
    · obtain ⟨rfl, hopens⟩ := hopens
      obtain ⟨stop, rest, rfl, hstop, hrest⟩ := (Form.cutsFrom_open (f := .line) hopens).1 hcuts
      have hlt := Form.line.lt_of_endsAt hopens hstop
      have hline : LineEnd s (p + 1) stop :=
        ⟨hlt, fun j hj => LineEnd.free hstop j (Nat.le_of_lt hj), LineEnd.stops hstop⟩
      obtain ⟨q, rfl⟩ : ∃ q, stop = q + 1 := ⟨stop - 1, by omega⟩
      obtain ⟨d, hd⟩ : ∃ d, s[q]? = some d :=
        ⟨_, List.getElem?_eq_getElem (Form.line.le_length hstop)⟩
      have hnext : (s.drop (p + 1)).head? = some '/' := by
        rw [List.head?_drop]
        exact hopens.2
      rw [drop_eq_cons hopens.1, stripLines_open rfl hnext, stripLines_to_lineEnd hline _ d,
        textFrom_span (Nat.le_of_lt hlt)]
      exact stripLines_of_cuts (seen_succ hd) hrest kept
    · have hkept := (Form.cutsFrom_keep (f := .line) hopens).1 hcuts
      rw [drop_eq_cons hc, stripLines_keep ((opens_iff hc inString).not.2 hopens),
        textFrom_keep hc hkept.after, quoteState_eq hprev hc,
        stripLines_of_cuts (seen_succ hc) hkept, List.reverse_cons, List.append_assoc]
      rfl
termination_by s.length - p

/-! ## Both -/

/-- **Taking comments out removes exactly the comments.** There is one choice of spans that are the
blocks of a text: each starts at a `/*` with an even number of unescaped double quotes outside of
the spans before it, and goes to the first `*/` after these two characters, or to the end of the
text if there is none; no other such `/*` is left. The pass over the blocks keeps what is outside
of these spans, and reports the last one if it has no end. Of the text that this leaves, the line
comments are taken out in the same way, from a `//` up to the newline. -/
theorem withoutComments_spans (s : Text) :
    (∃ blocks, (∀ spans, Form.block.Cuts s spans ↔ spans = blocks) ∧
      (withoutBlocks s).text = keptText s blocks ∧
      ∀ p, (withoutBlocks s).openAt = some p ↔ LeftOpen s blocks p) ∧
    ∃ lines, (∀ spans, Form.line.Cuts (withoutBlocks s).text spans ↔ spans = lines) ∧
      withoutComments s = keptText (withoutBlocks s).text lines := by
  refine ⟨?_, ?_⟩
  · obtain ⟨blocks, hblocks⟩ := Form.exists_cutsFrom .block s 0 false
    obtain ⟨htext, hopen⟩ := stripBlocks_of_cuts (seen_zero s) ((hblocks blocks).2 rfl) []
    exact ⟨blocks, fun spans => Form.cuts_iff.trans (hblocks spans), htext, hopen⟩
  · obtain ⟨lines, hlines⟩ := Form.exists_cutsFrom .line (withoutBlocks s).text 0 false
    have htext := stripLines_of_cuts (seen_zero _) ((hlines lines).2 rfl) []
    exact ⟨lines, fun spans => Form.cuts_iff.trans (hlines spans), htext⟩

end Reckon.Comment
