import Reckon.Diagnostic

/-!
# Comments

Comments are taken out of the text in two passes, first the blocks `/* … */`, then the rest
of a line after `//`. In both a double quote opens or closes a string unless the character
right before it is a backslash, and a comment marker inside a string is text.

* `withoutBlocks`: the text without its blocks, and where a block was left open.
* `withoutLines`: the text without its line comments; the newline stays.
* `withoutComments`: both passes.
-/

namespace Reckon.Comment

/-- The string state after the character `c`, which follows `prev`: an unescaped double
quote opens or closes a string. -/
def quoteState (prev c : Char) (inString : Bool) : Bool :=
  if c = '"' ∧ prev ≠ '\\' then !inString else inString

/-! ## Blocks -/

/-- What follows the first `*/`, with the number of characters up to and including it, which
is counted from `n` on. -/
def blockEnd? (n : Nat) : Text → Option (Nat × Text)
  | [] => none
  | c :: rest =>
    if c = '*' && rest.head? = some '/' then some (n + 2, rest.tail)
    else blockEnd? (n + 1) rest

theorem length_blockEnd? {n m : Nat} {s after : Text} (h : blockEnd? n s = some (m, after)) :
    after.length < s.length := by
  induction s generalizing n with
  | nil => simp [blockEnd?] at h
  | cons c rest ih =>
    rw [blockEnd?] at h
    split at h
    · simp only [Option.some.injEq, Prod.mk.injEq] at h
      obtain ⟨-, rfl⟩ := h
      simp only [List.length_tail, List.length_cons]
      omega
    · have := ih h
      simp only [List.length_cons]
      omega

/-- The text that is left of a pass over the blocks. -/
structure Stripped where
  /-- the text without the blocks -/
  text : Text
  /-- the offset of a block that has no end; the text then stops there -/
  openAt : Option Nat
  deriving DecidableEq

/-- The pass over the blocks from the offset `pos` on: `prev` is the character before it,
`kept` what was kept so far, last character first. The end of a block is looked for after
its two opening characters. -/
def stripBlocks (pos : Nat) (prev : Char) (inString : Bool) (kept : Text) (s : Text) : Stripped :=
  match s with
  | [] => ⟨kept.reverse, none⟩
  | c :: rest =>
    let inString := quoteState prev c inString
    if !inString && c = '/' && rest.head? = some '*' then
      match _ : blockEnd? (pos + 2) rest.tail with
      | none => ⟨kept.reverse, some pos⟩
      | some (next, after) => stripBlocks next '/' inString kept after
    else stripBlocks (pos + 1) c inString (c :: kept) rest
termination_by s.length
decreasing_by
  · have := length_blockEnd? ‹_›
    simp only [List.length_tail, List.length_cons] at this ⊢
    omega
  · simp

/-! `stripBlocks` is defined by well-founded recursion; these are its equations. -/

@[simp] theorem stripBlocks_nil (pos : Nat) (prev : Char) (inString : Bool) (kept : Text) :
    stripBlocks pos prev inString kept [] = ⟨kept.reverse, none⟩ := by
  rw [stripBlocks]

/-- A character that opens no block is kept. -/
theorem stripBlocks_keep {prev c : Char} {inString : Bool} {rest : Text}
    (h : ¬(quoteState prev c inString = false ∧ c = '/' ∧ rest.head? = some '*')) (pos : Nat)
    (kept : Text) :
    stripBlocks pos prev inString kept (c :: rest) =
      stripBlocks (pos + 1) c (quoteState prev c inString) (c :: kept) rest := by
  rw [stripBlocks]
  simp only [Bool.and_eq_true, Bool.not_eq_true', decide_eq_true_eq, and_assoc]
  rw [if_neg h]

/-- A block with an end is left out. -/
theorem stripBlocks_block {prev : Char} {inString : Bool} {pos next : Nat} {rest after : Text}
    (hs : quoteState prev '/' inString = false)
    (h : blockEnd? (pos + 2) rest = some (next, after)) (kept : Text) :
    stripBlocks pos prev inString kept ('/' :: '*' :: rest) =
      stripBlocks next '/' false kept after := by
  rw [stripBlocks]
  simp only [hs, List.head?_cons, List.tail_cons, Bool.not_false, decide_true, Bool.and_self,
    if_true]
  split
  · rename_i h'
    rw [h] at h'
    cases h'
  · rename_i h'
    rw [h] at h'
    cases h'
    rfl

/-- A block without an end takes the rest of the text away. -/
theorem stripBlocks_open {prev : Char} {inString : Bool} {pos : Nat} {rest : Text}
    (hs : quoteState prev '/' inString = false) (h : blockEnd? (pos + 2) rest = none)
    (kept : Text) :
    stripBlocks pos prev inString kept ('/' :: '*' :: rest) = ⟨kept.reverse, some pos⟩ := by
  rw [stripBlocks]
  simp only [hs, List.head?_cons, List.tail_cons, Bool.not_false, decide_true, Bool.and_self,
    if_true]
  split
  · rfl
  · rename_i h'
    rw [h] at h'
    cases h'

/-- The text without its blocks. A block without an end takes the rest of the text away. -/
def withoutBlocks (s : Text) : Stripped := stripBlocks 0 ' ' false [] s

/-! ## Line comments -/

/-- The pass over the line comments: `prev` is the character before, `kept` what was kept
so far, last character first. -/
def stripLines (prev : Char) (inString inComment : Bool) (kept : Text) : Text → Text
  | [] => kept.reverse
  | c :: rest =>
    if inComment then
      if c = '\n' then stripLines c inString false (c :: kept) rest
      else stripLines c inString true kept rest
    else
      let inString := quoteState prev c inString
      if !inString && c = '/' && rest.head? = some '/' then stripLines c inString true kept rest
      else stripLines c inString false (c :: kept) rest

/-- A character that opens no line comment is kept. -/
theorem stripLines_keep {prev c : Char} {inString : Bool} {rest : Text}
    (h : ¬(quoteState prev c inString = false ∧ c = '/' ∧ rest.head? = some '/')) (kept : Text) :
    stripLines prev inString false kept (c :: rest) =
      stripLines c (quoteState prev c inString) false (c :: kept) rest := by
  rw [stripLines]
  simp only [Bool.false_eq_true, if_false, Bool.and_eq_true, Bool.not_eq_true', decide_eq_true_eq,
    and_assoc]
  rw [if_neg h]

/-- Where a line comment opens, its first slash is left out. -/
theorem stripLines_open {prev : Char} {inString : Bool} {rest : Text}
    (hs : quoteState prev '/' inString = false) (hnext : rest.head? = some '/') (kept : Text) :
    stripLines prev inString false kept ('/' :: rest) = stripLines '/' false true kept rest := by
  rw [stripLines]
  simp [hs, hnext]

/-- The text without its line comments. -/
def withoutLines (s : Text) : Text := stripLines ' ' false false [] s

/-! ## Both -/

/-- The text without its comments. -/
def withoutComments (s : Text) : Text := withoutLines (withoutBlocks s).text

/-- The fault of a text whose comments are taken out: a block that has no end. -/
def diagnostics (s : Text) : List Diagnostic :=
  ((withoutBlocks s).openAt.map Diagnostic.openComment).toList

end Reckon.Comment
