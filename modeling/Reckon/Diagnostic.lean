import Reckon.Token.Basic

/-!
# Diagnostics

What can be wrong with a text, with the offset where it shows. The lexical ones come from
comments and from single tokens, the syntax ones from the order of the tokens.
-/

namespace Reckon

/-- A fault of a text. -/
inductive Diagnostic where
  /-- a string that is not closed on its line -/
  | openString (position : Nat)
  /-- a character literal that is not closed after its character -/
  | openChar (position : Nat)
  /-- a character literal without a character -/
  | emptyChar (position : Nat)
  /-- a backslash before a character that has no escape -/
  | badEscape (escape : Char) (position : Nat)
  /-- a number that does not fit its type -/
  | badNumber (lexeme : Text) (type : NumberType) (position : Nat)
  /-- a comment that is not closed -/
  | openComment (position : Nat)
  /-- a token of another kind than the one that had to come -/
  | unexpected (expected found : Kind) (position : Nat)
  /-- a token after a whole expression -/
  | trailing (found : Kind) (position : Nat)
  /-- an expression beyond one of the depth limits -/
  | tooDeep (limit : Nat) (position : Nat)
  deriving DecidableEq

namespace Diagnostic

/-- The offset where the fault shows. -/
def position : Diagnostic → Nat
  | .openString p | .openChar p | .emptyChar p | .badEscape _ p | .badNumber _ _ p
  | .openComment p | .unexpected _ _ p | .trailing _ p | .tooDeep _ p => p

/-- Faults of comments and single tokens, as opposed to faults in the order of tokens. -/
def isLexical : Diagnostic → Bool
  | .unexpected .. | .trailing .. | .tooDeep .. => false
  | _ => true

/-- What is wrong, without the place. -/
def cause : Diagnostic → String
  | .openString _ => "ERROR: Unterminated string literal at"
  | .openChar _ => "ERROR: Unterminated character literal at"
  | .emptyChar _ => "ERROR: Empty character literal at"
  | .badEscape c _ => "ERROR: Invalid escape sequence '\\" ++ String.singleton c ++ "' at"
  | .badNumber lexeme type _ =>
    "ERROR : Can't cast token \"" ++ String.ofList lexeme ++ "\" to type " ++ type.name ++ " in"
  | .openComment _ => "ERROR: Unterminated multi-line comment at"
  | .unexpected expected found _ =>
    "ERROR: Expected " ++ expected.describe ++ " but found " ++ found.describe ++ " at"
  | .trailing found _ =>
    "ERROR: Unexpected " ++ found.describe ++ " after end of expression at"
  | .tooDeep limit _ =>
    "ERROR: Expression nested too deeply (limit " ++ toString limit ++ ") at"

/-- The message of a fault. -/
def message (d : Diagnostic) : String := d.cause ++ " position " ++ toString d.position

end Diagnostic

end Reckon
