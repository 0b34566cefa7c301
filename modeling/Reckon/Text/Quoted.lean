import Reckon.Text.Class

/-!
# Quoted text

The form in which source text and literals appear in messages: between two quotes, on one
line, with an escape for every character that would not show. Five characters have a short
escape (NUL, tab, carriage return, newline and the backslash), the enclosing quote is
escaped by a backslash, and any other character without a visible form is written by its
code point in hexadecimal.
-/

namespace Reckon.Text

/-- The letter after the backslash for the characters with a short escape, whatever the
enclosing quote is. -/
def shortEscape? : Char → Option Char
  | '\x00' => some '0'
  | '\t' => some 't'
  | '\r' => some 'r'
  | '\n' => some 'n'
  | '\\' => some '\\'
  | _ => none

/-- The lower-case hexadecimal digits of a number. -/
def hexDigits (n : Nat) : Text := Nat.toDigits 16 n

/-- A character between two `quote` characters. -/
def escape (quote c : Char) : Text :=
  match shortEscape? c with
  | some letter => ['\\', letter]
  | none =>
    if c = quote then ['\\', quote]
    else if isShown c then [c]
    else ['\\', 'u', '\x7b'] ++ hexDigits c.toNat ++ ['\x7d']

/-- The text between two `quote` characters. -/
def quotedWith (quote : Char) (s : Text) : Text := quote :: (s.flatMap (escape quote) ++ [quote])

/-- The text between double quotes. -/
def quoted (s : Text) : String := String.ofList (quotedWith '"' s)

/-- A single character between single quotes. -/
def quotedChar (c : Char) : String := String.ofList (quotedWith '\'' [c])

end Reckon.Text
