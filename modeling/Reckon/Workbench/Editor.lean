import Reckon.Text.Class
import Reckon.Text.Offset

/-!
# The line editor

A line of text with a cursor between two of its characters, or at an end. The cursor counts
characters; characters are put in and taken out at byte offsets.
-/

namespace Reckon

/-- A line that is being edited. -/
structure Editor where
  /-- the line -/
  line : Text
  /-- how many characters are before the cursor -/
  cursor : Nat
  deriving DecidableEq

namespace Editor

/-- An empty line. -/
def empty : Editor := ⟨[], 0⟩

/-- A given line with the cursor at its end. -/
def ofLine (line : Text) : Editor := ⟨line, line.length⟩

/-- The line after an edit, with the cursor at the given place. A refused edit changes
nothing. -/
def edited (e : Editor) (line? : Option Text) (cursor : Nat) : Editor :=
  match line? with
  | some line => ⟨line, cursor⟩
  | none => e

/-- Put a character before the cursor. -/
def insert (e : Editor) (c : Char) : Editor :=
  e.edited (e.line.insertAt? (e.line.byteOffset e.cursor) c) (e.cursor + 1)

/-- Take away the character before the cursor. -/
def backspace (e : Editor) : Editor :=
  if 0 < e.cursor then
    e.edited (e.line.removeAt? (e.line.byteOffset (e.cursor - 1))) (e.cursor - 1)
  else e

/-- Take away the character after the cursor. -/
def delete (e : Editor) : Editor :=
  if e.cursor < e.line.length then
    e.edited (e.line.removeAt? (e.line.byteOffset e.cursor)) e.cursor
  else e

/-- One character to the left. -/
def left (e : Editor) : Editor := { e with cursor := e.cursor - 1 }

/-- One character to the right. -/
def right (e : Editor) : Editor := { e with cursor := min (e.cursor + 1) e.line.length }

/-- To the start of the line. -/
def toStart (e : Editor) : Editor := { e with cursor := 0 }

/-- To the end of the line. -/
def toEnd (e : Editor) : Editor := { e with cursor := e.line.length }

end Editor

end Reckon
