import Reckon.Token.Literal

/-!
# Tokens

A token is a piece of the text with its class: where it starts, the characters it is made
of, and, for a literal, its value. The parser also makes tokens with no characters, which
stand where one was missing.
-/

namespace Reckon

/-- A piece of the text with its class. -/
structure Token where
  /-- the class -/
  kind : Kind
  /-- the offset of the first character -/
  position : Nat
  /-- the characters -/
  lexeme : Text
  /-- the value of a literal -/
  value : Option Literal
  deriving DecidableEq

namespace Token

/-- A token without a value. -/
def plain (kind : Kind) (position : Nat) (lexeme : Text) : Token := ⟨kind, position, lexeme, none⟩

/-- A literal; its kind follows from its value. -/
def literal (value : Literal) (position : Nat) (lexeme : Text) : Token :=
  ⟨value.kind, position, lexeme, some value⟩

/-- A token that stands where one of this kind was missing. -/
def placeholder (kind : Kind) (position : Nat) : Token := plain kind position []

/-- Does the token stand for a missing one? -/
def isPlaceholder (t : Token) : Bool := t.lexeme.isEmpty && t.kind ≠ .endOfFile

/-- The token at another place of the text. -/
def moveTo (t : Token) (position : Nat) : Token := { t with position }

/-- The offset just after the token. -/
def stop (t : Token) : Nat := t.position + t.lexeme.length

/-- The printed form: the class, what the class leaves open, and the offset. -/
def display (t : Token) : String :=
  match t.value with
  | some v => t.kind.describe ++ " " ++ v.display ++ " @" ++ toString t.position
  | none =>
    if t.kind = .identifier then
      "identifier '" ++ String.ofList t.lexeme ++ "' @" ++ toString t.position
    else t.kind.describe ++ " @" ++ toString t.position

end Token

end Reckon
