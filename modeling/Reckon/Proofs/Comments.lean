import Reckon.Comment

/-!
# What the passes over the comments keep

Both passes read the text from left to right and remember two things of what they have read: the
last character, and whether they are inside a string.

* `Verbatim`: a text in which neither pass finds a comment, with the string states before and
  after it.
* `stripBlocks_verbatim`, `stripLines_verbatim`: such a text is kept as it is, whatever follows.
* `stripBlocks_of_no_star`, `stripLines_comment`: a text without a star has no blocks, and a line
  comment is dropped.
-/

namespace Reckon.Comment

/-! ## Texts without comments -/

/-- Neither pass finds a comment in the text, which follows the character `prev` and leads from
the one string state to the other: after a slash outside of strings comes a character of the text
that makes no comment of it. -/
inductive Verbatim : (prev : Char) → (inString : Bool) → Text → (after : Bool) → Prop
  /-- the end of the text -/
  | nil {prev : Char} {inString : Bool} : Verbatim prev inString [] inString
  /-- a character -/
  | cons {prev c : Char} {inString after : Bool} {s : Text}
      (hc : quoteState prev c inString = false → c = '/' →
        ∃ d, s.head? = some d ∧ d ≠ '/' ∧ d ≠ '*')
      (h : Verbatim c (quoteState prev c inString) s after) : Verbatim prev inString (c :: s) after

theorem head?_append_of_head? {s : Text} {d : Char} (h : s.head? = some d) (rest : Text) :
    (s ++ rest).head? = some d := by
  rw [List.head?_append, h]
  rfl

/-- The pass over the blocks keeps such a text. -/
theorem stripBlocks_verbatim {prev : Char} {inString after : Bool} {s : Text}
    (h : Verbatim prev inString s after) (pos : Nat) (kept rest : Text) :
    stripBlocks pos prev inString kept (s ++ rest) =
      stripBlocks (pos + s.length) (s.getLastD prev) after (s.reverse ++ kept) rest := by
  induction h generalizing pos kept with
  | nil => rfl
  | @cons prev c inString after s hc _ ih =>
    have hkeep : ¬(quoteState prev c inString = false ∧ c = '/' ∧
        (s ++ rest).head? = some '*') := by
      rintro ⟨hstate, hslash, hstar⟩
      obtain ⟨d, hd, -, hne⟩ := hc hstate hslash
      rw [head?_append_of_head? hd] at hstar
      exact hne (Option.some.inj hstar)
    rw [List.cons_append, stripBlocks_keep hkeep, ih, List.getLastD_cons, List.length_cons,
      List.reverse_cons, List.append_assoc]
    congr 1
    omega

/-- The pass over the line comments keeps such a text. -/
theorem stripLines_verbatim {prev : Char} {inString after : Bool} {s : Text}
    (h : Verbatim prev inString s after) (kept rest : Text) :
    stripLines prev inString false kept (s ++ rest) =
      stripLines (s.getLastD prev) after false (s.reverse ++ kept) rest := by
  induction h generalizing kept with
  | nil => rfl
  | @cons prev c inString after s hc _ ih =>
    have hkeep : ¬(quoteState prev c inString = false ∧ c = '/' ∧
        (s ++ rest).head? = some '/') := by
      rintro ⟨hstate, hslash, hnext⟩
      obtain ⟨d, hd, hne, -⟩ := hc hstate hslash
      rw [head?_append_of_head? hd] at hnext
      exact hne (Option.some.inj hnext)
    rw [List.cons_append, stripLines_keep hkeep, ih, List.getLastD_cons, List.reverse_cons,
      List.append_assoc]
    rfl

theorem Verbatim.append {prev : Char} {inString mid after : Bool} {s t : Text}
    (hs : Verbatim prev inString s mid) (ht : Verbatim (s.getLastD prev) mid t after) :
    Verbatim prev inString (s ++ t) after := by
  induction hs with
  | nil => exact ht
  | @cons prev c inString mid s hc _ ih =>
    refine .cons (fun hstate hslash => ?_) (ih ?_)
    · obtain ⟨d, hd, hne⟩ := hc hstate hslash
      exact ⟨d, head?_append_of_head? hd t, hne⟩
    · rwa [List.getLastD_cons] at ht

/-! ## Texts in which a pass has little to do -/

/-- Without a star there is no block. -/
theorem stripBlocks_of_no_star {s : Text} (h : '*' ∉ s) (pos : Nat) (prev : Char)
    (inString : Bool) (kept : Text) :
    stripBlocks pos prev inString kept s = ⟨kept.reverse ++ s, none⟩ := by
  induction s generalizing pos prev inString kept with
  | nil => simp
  | cons c s ih =>
    have hs : '*' ∉ s := fun hmem => h (List.mem_cons_of_mem c hmem)
    have hkeep : ¬(quoteState prev c inString = false ∧ c = '/' ∧ s.head? = some '*') := by
      rintro ⟨-, -, hstar⟩
      exact hs (List.mem_of_head? hstar)
    rw [stripBlocks_keep hkeep, ih hs, List.reverse_cons, List.append_assoc]
    rfl

/-- A comment up to the end of its line is dropped. -/
theorem stripLines_comment {s : Text} (h : '\n' ∉ s) (prev : Char) (inString : Bool)
    (kept : Text) : stripLines prev inString true kept s = kept.reverse := by
  induction s generalizing prev with
  | nil => rfl
  | cons c s ih =>
    have hc : c ≠ '\n' := fun hc => h (hc ▸ List.mem_cons_self)
    have hs : '\n' ∉ s := fun hmem => h (List.mem_cons_of_mem c hmem)
    rw [stripLines, if_pos rfl, if_neg hc]
    exact ih hs c

/-- What was kept before does not bear on what is kept. -/
theorem stripLines_eq_append (prev : Char) (inString inComment : Bool) (kept s : Text) :
    stripLines prev inString inComment kept s =
      kept.reverse ++ stripLines prev inString inComment [] s := by
  induction s generalizing prev inString inComment kept with
  | nil => simp [stripLines]
  | cons c s ih =>
    have hpush : ∀ state, stripLines c state false (c :: kept) s =
        kept.reverse ++ stripLines c state false [c] s := by
      intro state
      rw [ih c state false (c :: kept), ih c state false [c], List.reverse_cons, List.append_assoc]
      rfl
    rw [stripLines, stripLines]
    dsimp only
    split
    · split
      · exact hpush _
      · exact ih ..
    · split
      · exact ih ..
      · exact hpush _

end Reckon.Comment
