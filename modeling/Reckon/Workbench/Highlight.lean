import Reckon.Screen.Widget
import Reckon.Token.Segment
import Reckon.Workbench.Theme

/-!
# Highlighting of the input line

Every character of the line gets a colour from the segment it lies in: the characters of a
token the colour of its kind, all others the colour of plain text, and a character where a
fault shows the colour of faults. Neighbours of one colour are drawn as one span.
-/

namespace Reckon

/-- The colour of the characters of a segment where no fault shows. -/
def Segment.color (s : Segment) : Color :=
  match s.content with
  | .token kind _ => Theme.ofKind kind
  | _ => Theme.text

/-- The characters of a segment with their colours. -/
def Segment.colored (s : Segment) : List (Char × Color) :=
  (s.text.zipIdx s.start).map fun (c, i) =>
    (c, if s.diagnostics.any fun d => d.position = i then Theme.error else s.color)

/-- The characters of a text with their colours. -/
def colored (s : Text) : List (Char × Color) := (segments s).flatMap Segment.colored

/-- Neighbours of one colour put together. -/
def groupColors (cs : List (Char × Color)) : List (Text × Color) :=
  cs.foldr (fun (c, color) groups =>
    match groups with
    | (text, color') :: rest =>
      if color = color' then (c :: text, color) :: rest else ([c], color) :: groups
    | [] => [([c], color)]) []

/-- The spans of an input line. -/
def highlight (s : Text) : List Span :=
  (groupColors (colored s)).map fun (text, color) => ⟨text, .ink color⟩

end Reckon
