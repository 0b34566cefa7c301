import Reckon.Screen.Canvas
import Reckon.Token.Kind

/-!
# The colours of the workbench
-/

namespace Reckon.Theme

/-- plain text -/
def text : Color := .rgb 0xcdd6f4

/-- brackets, and the counter before the first run -/
def primary : Color := .rgb 0x89b4fa

/-- the values of tokens -/
def secondary : Color := .rgb 0xfab387

/-- what is of less interest -/
def faint : Color := .rgb 0x6c7086

/-- a success -/
def success : Color := .rgb 0xa6e3a1

/-- a fault -/
def error : Color := .rgb 0xf38ba8

/-- reserved words -/
def keyword : Color := .rgb 0xcba6f7

/-- character and string literals -/
def string : Color := .rgb 0xa6e3a1

/-- numbers -/
def number : Color := .rgb 0xfab387

/-- operators and separators -/
def operator : Color := .rgb 0x89dceb

/-- the names of types -/
def typeName : Color := .rgb 0x94e2d5

/-- the border of the pane that has the focus -/
def focusedBorder : Color := .rgb 0xf9e2af

/-- the border of any other pane -/
def border : Color := .rgb 0x6c7086

/-- behind the status bar -/
def bar : Color := .rgb 0x323246

/-- The colour of tokens of a kind. -/
def ofKind (k : Kind) : Color :=
  if k.isTypeName then typeName
  else if k.isKeyword then keyword
  else if k.isNumeric then number
  else
    match k with
    | .charLiteral | .stringLiteral => string
    | .identifier => text
    | .openParen | .closeParen | .openSquare | .closeSquare | .openCurly | .closeCurly => primary
    | _ => operator

/-- The paint of a pane's border. -/
def borderPaint (focused : Bool) : Paint :=
  if focused then (Paint.ink focusedBorder).inBold else Paint.ink border

end Reckon.Theme
