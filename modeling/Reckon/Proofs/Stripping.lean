import Mathlib.Algebra.Ring.Parity
import Reckon.Proofs.Comments

/-!
# Taking the comments out twice

Taking a block out joins what stands before it and what stands after it, and a quote in a line
comment opens a string for the first pass that the second pass never sees. So the text that is left
can have a block of its own, which a second run takes out.

* `unescapedQuotes`, `Unmarked`: the places outside of strings, by the number of quotes before them.
* `stripBlocks_unmarked`, `unmarked_of_length`: the pass over the blocks keeps the whole text if and
  only if no block begins in it.
* `unmarked_stripLines`: the pass over the line comments leaves none behind.
* `withoutLines_settled`: **that pass alone settles a text**.
* `withoutComments_twice_eq_iff`: **a second run changes nothing if and only if no block begins in
  what the first run left**.
-/

namespace Reckon.Comment

/-! ## Marks outside of strings -/

/-- How many double quotes of the text, which follows the character `prev`, have no backslash right
before them. -/
def unescapedQuotes (prev : Char) : Text → Nat
  | [] => 0
  | c :: s => (if c = '"' ∧ prev ≠ '\\' then 1 else 0) + unescapedQuotes c s

/-- Every `/` with the mark after it stands inside of a string: the quotes before it, with the one
of a string that is open at the start, are odd in number. -/
def Unmarked (mark prev : Char) (inString : Bool) (s : Text) : Prop :=
  ∀ before rest, s = before ++ '/' :: mark :: rest →
    Odd (unescapedQuotes prev before + inString.toNat)

/-- A quote counts one more, or turns the string state over. -/
theorem odd_unescapedQuotes_cons (prev c : Char) (inString : Bool) (s : Text) :
    Odd (unescapedQuotes prev (c :: s) + inString.toNat) ↔
      Odd (unescapedQuotes c s + (quoteState prev c inString).toNat) := by
  rw [unescapedQuotes, quoteState]
  by_cases hquote : c = '"' ∧ prev ≠ '\\'
  · rw [if_pos hquote, if_pos hquote]
    cases inString <;> simp [Nat.odd_iff] <;> omega
  · rw [if_neg hquote, if_neg hquote, Nat.zero_add]

theorem unmarked_nil (mark prev : Char) (inString : Bool) : Unmarked mark prev inString [] := by
  intro before rest h
  simp at h

/-- A text is free of a mark if none begins at its first character, and none in the rest. -/
theorem unmarked_cons_iff {mark prev c : Char} {inString : Bool} {s : Text} :
    Unmarked mark prev inString (c :: s) ↔
      ¬(quoteState prev c inString = false ∧ c = '/' ∧ s.head? = some mark) ∧
        Unmarked mark c (quoteState prev c inString) s := by
  constructor
  · intro h
    refine ⟨?_, fun before rest hs => ?_⟩
    · rintro ⟨hstate, rfl, hmark⟩
      obtain ⟨rest, rfl⟩ := List.head?_eq_some_iff.1 hmark
      have hodd := h [] rest rfl
      cases inString <;> simp [quoteState, unescapedQuotes] at hstate hodd
    · rw [← odd_unescapedQuotes_cons]
      exact h (c :: before) rest (by rw [hs, List.cons_append])
  · rintro ⟨hfirst, hrest⟩ before rest hs
    rcases before with _ | ⟨d, before⟩
    · obtain ⟨rfl, rfl⟩ := List.cons.inj hs
      cases inString with
      | false => exact absurd ⟨rfl, rfl, rfl⟩ hfirst
      | true => simp [unescapedQuotes]
    · obtain ⟨rfl, rfl⟩ := List.cons.inj hs
      rw [odd_unescapedQuotes_cons]
      exact hrest before rest rfl

/-! ## The pass over the blocks -/

/-- A text in which no block begins is kept. -/
theorem stripBlocks_unmarked {prev : Char} {inString : Bool} {s : Text}
    (h : Unmarked '*' prev inString s) (pos : Nat) (kept : Text) :
    stripBlocks pos prev inString kept s = ⟨kept.reverse ++ s, none⟩ := by
  induction s generalizing pos prev inString kept with
  | nil => simp
  | cons c s ih =>
    obtain ⟨hkeep, hrest⟩ := unmarked_cons_iff.1 h
    rw [stripBlocks_keep hkeep, ih hrest, List.reverse_cons, List.append_assoc]
    rfl

/-- The pass adds no character. -/
theorem length_stripBlocks_le (pos : Nat) (prev : Char) (inString : Bool) (kept s : Text) :
    (stripBlocks pos prev inString kept s).text.length ≤ kept.length + s.length := by
  fun_induction stripBlocks pos prev inString kept s with
  | case1 => simp
  | case2 => simp
  | case3 _ _ _ kept c rest _ _ next after hend ih =>
    have hafter := length_blockEnd? hend
    simp only [List.length_tail, List.length_cons] at hafter ⊢
    omega
  | case4 _ _ _ _ _ _ _ _ ih =>
    simp only [List.length_cons] at ih ⊢
    omega

/-- The pass takes something away where a block begins. -/
theorem length_stripBlocks_lt {pos : Nat} {prev : Char} {inString : Bool} {kept rest : Text}
    (hs : quoteState prev '/' inString = false) :
    (stripBlocks pos prev inString kept ('/' :: '*' :: rest)).text.length <
      kept.length + ('/' :: '*' :: rest).length := by
  rcases hend : blockEnd? (pos + 2) rest with _ | ⟨next, after⟩
  · rw [stripBlocks_open hs hend]
    simp
  · rw [stripBlocks_block hs hend]
    have hafter := length_blockEnd? hend
    have hle := length_stripBlocks_le next '/' false kept after
    simp only [List.length_cons]
    omega

/-- A text of which the pass keeps every character has no block. -/
theorem unmarked_of_length {pos : Nat} {prev : Char} {inString : Bool} {kept s : Text}
    (h : (stripBlocks pos prev inString kept s).text.length = kept.length + s.length) :
    Unmarked '*' prev inString s := by
  induction s generalizing pos prev inString kept with
  | nil => exact unmarked_nil _ _ _
  | cons c s ih =>
    have hkeep : ¬(quoteState prev c inString = false ∧ c = '/' ∧ s.head? = some '*') := by
      rintro ⟨hstate, rfl, hstar⟩
      obtain ⟨rest, rfl⟩ := List.head?_eq_some_iff.1 hstar
      exact absurd h (Nat.ne_of_lt (length_stripBlocks_lt hstate))
    have hrest : (stripBlocks (pos + 1) c (quoteState prev c inString) (c :: kept) s).text.length =
        (c :: kept).length + s.length := by
      rw [← stripBlocks_keep hkeep, h, List.length_cons, List.length_cons]
      omega
    exact unmarked_cons_iff.2 ⟨hkeep, ih hrest⟩

/-! ## The pass over the line comments -/

/-- A text in which no line comment begins is kept. -/
theorem stripLines_unmarked {prev : Char} {inString : Bool} {s : Text}
    (h : Unmarked '/' prev inString s) (kept : Text) :
    stripLines prev inString false kept s = kept.reverse ++ s := by
  induction s generalizing prev inString kept with
  | nil => simp [stripLines]
  | cons c s ih =>
    obtain ⟨hkeep, hrest⟩ := unmarked_cons_iff.1 h
    rw [stripLines_keep hkeep, ih hrest, List.reverse_cons, List.append_assoc]
    rfl

/-- The pass adds no character. -/
theorem length_stripLines_le (prev : Char) (inString inComment : Bool) (kept s : Text) :
    (stripLines prev inString inComment kept s).length ≤ kept.length + s.length := by
  fun_induction stripLines prev inString inComment kept s with
  | case1 => simp
  | case2 _ _ _ _ ih => simpa [Nat.add_assoc, Nat.add_comm 1] using ih
  | case3 _ _ _ _ _ _ ih => simp only [List.length_cons]; omega
  | case4 _ _ _ _ _ _ _ _ _ ih => simp only [List.length_cons]; omega
  | case5 _ _ _ _ _ _ _ _ _ ih => simp only [List.length_cons] at ih ⊢; omega

/-- The pass moves no slash to the front of the text. -/
theorem head?_of_head?_stripLines {prev : Char} {inString : Bool} {s : Text}
    (h : (stripLines prev inString false [] s).head? = some '/') : s.head? = some '/' := by
  rcases s with _ | ⟨c, s⟩
  · cases h
  · by_cases hopen : quoteState prev c inString = false ∧ c = '/' ∧ s.head? = some '/'
    · rw [hopen.2.1]
      rfl
    · rw [stripLines_keep hopen, stripLines_eq_append] at h
      exact h

/-- The pass leaves no line comment behind. Inside of a comment the character before the next kept
one does not matter, since that is the newline. -/
theorem unmarked_stripLines (prev : Char) (inString : Bool) (s : Text) :
    Unmarked '/' prev inString (stripLines prev inString false [] s) ∧
      ∀ before, Unmarked '/' before inString (stripLines prev inString true [] s) := by
  induction s generalizing prev inString with
  | nil => exact ⟨unmarked_nil _ _ _, fun _ => unmarked_nil _ _ _⟩
  | cons c s ih =>
    refine ⟨?_, fun before => ?_⟩
    · by_cases hopen : quoteState prev c inString = false ∧ c = '/' ∧ s.head? = some '/'
      · obtain ⟨hstate, rfl, hnext⟩ := hopen
        obtain rfl : inString = false := hstate
        rw [stripLines_open rfl hnext]
        exact (ih '/' false).2 prev
      · rw [stripLines_keep hopen, stripLines_eq_append]
        refine unmarked_cons_iff.2 ⟨?_, (ih c _).1⟩
        rintro ⟨hstate, hc, hnext⟩
        exact hopen ⟨hstate, hc, head?_of_head?_stripLines hnext⟩
    · by_cases hc : c = '\n'
      · subst hc
        rw [stripLines, if_pos rfl, if_pos rfl, stripLines_eq_append]
        exact unmarked_cons_iff.2 ⟨by simp, (ih '\n' inString).1⟩
      · rw [stripLines, if_pos rfl, if_neg hc]
        exact (ih c inString).2 before

/-- The pass over the line comments leaves none behind in the whole text. -/
theorem unmarked_withoutLines (s : Text) : Unmarked '/' ' ' false (withoutLines s) :=
  (unmarked_stripLines ' ' false s).1

/-- A second pass over the line comments changes nothing. -/
theorem withoutLines_withoutLines (s : Text) : withoutLines (withoutLines s) = withoutLines s :=
  stripLines_unmarked (unmarked_withoutLines s) []

/-- **The pass over the line comments settles a text**: a second pass changes nothing, and no `//`
is left with an even number of unescaped double quotes before it. The texts without such a `//` are
just those that the pass keeps as they are. -/
theorem withoutLines_settled (s : Text) :
    withoutLines (withoutLines s) = withoutLines s ∧
    (∀ before rest, withoutLines s = before ++ '/' :: '/' :: rest →
      ¬ Even (unescapedQuotes ' ' before)) ∧
    (withoutLines s = s ↔ ∀ before rest, s = before ++ '/' :: '/' :: rest →
      ¬ Even (unescapedQuotes ' ' before)) := by
  have hmarks : ∀ t, Unmarked '/' ' ' false t ↔ ∀ before rest, t = before ++ '/' :: '/' :: rest →
      ¬ Even (unescapedQuotes ' ' before) := by
    intro t
    simp only [Unmarked, Nat.not_even_iff_odd]
    rfl
  refine ⟨withoutLines_withoutLines s, (hmarks _).1 (unmarked_withoutLines s), ?_⟩
  rw [← hmarks]
  constructor
  · intro hkept
    rw [← hkept]
    exact unmarked_withoutLines s
  · intro h
    exact stripLines_unmarked h []

/-! ## Both -/

/-- **A second run** over a text whose comments are taken out changes nothing if and only if every
`/*` in that text is inside of a string: an odd number of unescaped double quotes stands before
it. -/
theorem withoutComments_twice_eq_iff (s : Text) :
    withoutComments (withoutComments s) = withoutComments s ↔
      ∀ before rest, withoutComments s = before ++ '/' :: '*' :: rest →
        Odd (unescapedQuotes ' ' before) := by
  change _ ↔ Unmarked '*' ' ' false (withoutComments s)
  constructor
  · intro h
    -- neither pass adds a character, so neither can have taken one away
    generalize withoutComments s = t at h ⊢
    have hblocks := length_stripBlocks_le 0 ' ' false [] t
    have hlines := length_stripLines_le ' ' false false [] (withoutBlocks t).text
    have hlength : (stripLines ' ' false false [] (withoutBlocks t).text).length = t.length :=
      congrArg List.length h
    rw [hlength] at hlines
    refine unmarked_of_length (Nat.le_antisymm hblocks ?_)
    simpa [withoutBlocks] using hlines
  · intro h
    have hblocks : (withoutBlocks (withoutComments s)).text = withoutComments s :=
      congrArg Stripped.text (stripBlocks_unmarked h 0 [])
    calc withoutComments (withoutComments s)
        = withoutLines (withoutComments s) := congrArg withoutLines hblocks
      _ = withoutComments s := withoutLines_withoutLines _

/-- A quote in a line comment, and a block between a slash and a star: both times a second run takes
out what the first has left. -/
theorem withoutComments_twice_ne :
    let s := "// 5\" pipe\n1 /* one */ + 2".toList
    let t := "1 //**/* 2".toList
    (withoutComments s = "\n1 /* one */ + 2".toList ∧
      withoutComments (withoutComments s) = "\n1  + 2".toList) ∧
    withoutComments t = "1 /* 2".toList ∧ withoutComments (withoutComments t) = "1 ".toList := by
  decide +kernel

end Reckon.Comment
