/-!
# Text as a sequence of characters

Every offset of this library counts characters, so source text is a list of them.
Rendered messages are strings; a piece of source enters them through `String.ofList`.

* `Text`: source text.
* `keepLast`: the end of a list, such as the places of a number or the lines of a log.
* `Text.Ranges`: a character class as a table of code point ranges.
* `Text.joinLines`: the lines of a message put together.
-/

namespace Reckon

/-- Source text; an offset into it counts characters. -/
abbrev Text : Type := List Char

/-- The last elements of a list, at most `n` of them. -/
def keepLast {α : Type} (n : Nat) (xs : List α) : List α := xs.drop (xs.length - n)

namespace Text

/-- A set of code points: closed ranges, in increasing order. -/
abbrev Ranges : Type := List (Nat × Nat)

/-- Is the code point `n` in one of the ranges? The search stops at the first range
that starts beyond `n`. -/
def Ranges.has : Ranges → Nat → Bool
  | [], _ => false
  | (lo, hi) :: rest, n => if n < lo then false else if n ≤ hi then true else has rest n

/-- Lines with a newline between each two of them. -/
def joinLines (lines : List String) : String := "\n".intercalate lines

/-- Lines with a newline after each of them. -/
def endLines (lines : List String) : String := String.join (lines.map (· ++ "\n"))

/-- The text filled up with spaces to at least `width` characters, at its right end. -/
def padRight (width : Nat) (s : String) : String :=
  s ++ String.ofList (List.replicate (width - s.length) ' ')

/-- The text filled up with `fill` to at least `width` characters, at its left end. -/
def padLeft (fill : Char) (width : Nat) (s : String) : String :=
  String.ofList (List.replicate (width - s.length) fill) ++ s

end Text

end Reckon
