import Reckon.Text.Basic

/-!
# Offsets in bytes

A stored text is edited at offsets that count the bytes of its UTF-8 form, in which a character
takes one to four of them. An offset inside a character, or beyond the end, is no place in the
text: the text cannot be cut there, and an edit there is refused.

* `Text.byteOffset`: from a number of characters to an offset.
* `Text.cutAt?`: a text cut at an offset.
* `Text.insertAt?`, `Text.removeAt?`: the edits.
-/

namespace Reckon.Text

/-- The number of bytes of a text. -/
def byteLength (s : Text) : Nat := (String.ofList s).utf8ByteSize

/-- The offset of the character with the given number; that of the end, if there is none. -/
def byteOffset (s : Text) (n : Nat) : Nat := byteLength (s.take n)

/-- Cut a text at an offset. What is before the text is given in reverse. -/
def cutFrom (before : Text) : Text → Nat → Option (Text × Text)
  | s, 0 => some (before.reverse, s)
  | [], _ + 1 => none
  | c :: s, n + 1 =>
    if c.utf8Size ≤ n + 1 then cutFrom (c :: before) s (n + 1 - c.utf8Size) else none

/-- Cut a text at an offset. -/
def cutAt? (s : Text) (offset : Nat) : Option (Text × Text) := cutFrom [] s offset

/-- Put in a character at an offset. -/
def insertAt? (s : Text) (offset : Nat) (c : Char) : Option Text :=
  (s.cutAt? offset).map fun (before, after) => before ++ c :: after

/-- Take out the character at an offset; there is none at the end. -/
def removeAt? (s : Text) (offset : Nat) : Option Text :=
  match s.cutAt? offset with
  | some (before, _ :: after) => some (before ++ after)
  | _ => none

@[simp] theorem byteLength_nil : byteLength [] = 0 := rfl

@[simp] theorem byteLength_append (s t : Text) :
    byteLength (s ++ t) = byteLength s + byteLength t := by
  simp [byteLength]

@[simp] theorem byteLength_cons (c : Char) (s : Text) :
    byteLength (c :: s) = c.utf8Size + byteLength s := by
  simp [byteLength]

@[simp] theorem byteLength_reverse (s : Text) : byteLength s.reverse = byteLength s := by
  induction s with
  | nil => rfl
  | cons c s ih => simp [ih, Nat.add_comm]

/-- A text is cut after any of its beginnings. -/
theorem cutFrom_append (before s t : Text) :
    cutFrom before (s ++ t) (byteLength s) = some (before.reverse ++ s, t) := by
  induction s generalizing before with
  | nil => simp [cutFrom]
  | cons c s ih =>
    have hpos := c.utf8Size_pos
    obtain ⟨n, hn⟩ : ∃ n, byteLength (c :: s) = n + 1 :=
      Nat.exists_eq_add_one.2 (by simp; omega)
    have hrest : n + 1 - c.utf8Size = byteLength s := by
      rw [← hn, byteLength_cons, Nat.add_sub_cancel_left]
    rw [hn, List.cons_append, cutFrom, if_pos (by simp at hn; omega), hrest, ih]
    simp

@[simp] theorem cutAt?_append (s t : Text) : cutAt? (s ++ t) (byteLength s) = some (s, t) :=
  cutFrom_append [] s t

@[simp] theorem insertAt?_append (s t : Text) (c : Char) :
    insertAt? (s ++ t) (byteLength s) c = some (s ++ c :: t) := by
  simp [insertAt?]

@[simp] theorem removeAt?_append_cons (s t : Text) (c : Char) :
    removeAt? (s ++ c :: t) (byteLength s) = some (s ++ t) := by
  simp [removeAt?]

end Reckon.Text
