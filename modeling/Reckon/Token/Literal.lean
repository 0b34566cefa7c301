import Reckon.Decimal.Layout
import Reckon.Text.Quoted
import Reckon.Token.Kind

/-!
# Literals

The values that tokens carry, and how they are read and written.

* `Literal`: a value with its type.
* `Literal.display`: its printed form, which is its source form as far as it has one.
* `Number`: a number as it stands in the text, before it is brought into its type.
* `Number.value?`: the value, unless it lies beyond the type.
-/

namespace Reckon

/-- The value of a literal. -/
inductive Literal where
  /-- a 32-bit signed integer -/
  | int (n : Int32)
  /-- a 32-bit unsigned integer -/
  | uint (n : UInt32)
  /-- a single precision value -/
  | float (x : Binary)
  /-- a double precision value -/
  | double (x : Binary)
  /-- a character -/
  | char (c : Char)
  /-- a text -/
  | str (s : Text)
  deriving DecidableEq

namespace Literal

/-- The kind of the tokens that carry such a value. -/
def kind : Literal → Kind
  | .int _ => .intLiteral
  | .uint _ => .uintLiteral
  | .float _ => .floatLiteral
  | .double _ => .doubleLiteral
  | .char _ => .charLiteral
  | .str _ => .stringLiteral

/-- The name of the value's type. -/
def typeName : Literal → String
  | .int _ => "int"
  | .uint _ => "uint"
  | .float _ => "float"
  | .double _ => "double"
  | .char _ => "char"
  | .str _ => "string"

/-- Single precision values are written without an exponent and without an empty
fraction. -/
def floatLayout : Layout := ⟨none, ""⟩

/-- Double precision values are written without an exponent from `0.0001` up to, and not
including, `10 ^ 16`, and a whole number keeps one zero after the point. -/
def doubleLayout : Layout := ⟨some (-4, 15), ".0"⟩

/-- The printed form: numbers with the suffix of their type, characters and texts in
quotes. -/
def display : Literal → String
  | .int n => toString n.toInt
  | .uint n => toString n.toNat ++ "u"
  | .float x => floatLayout.render (Format.single.shortest x) ++ "f"
  | .double x => doubleLayout.render (Format.double.shortest x)
  | .char c => Text.quotedChar c
  | .str s => Text.quoted s

theorem kind_isLiteral (v : Literal) : v.kind.isLiteral = true := by
  cases v <;> rfl

end Literal

/-- The types a number can have. -/
inductive NumberType where
  | int | uint | float | double
  deriving DecidableEq

/-- The name of the type in a message. -/
def NumberType.name : NumberType → String
  | .int => "int"
  | .uint => "uint"
  | .float => "float"
  | .double => "double"

/-- The type of a number as its last character tells it, or else the point among its digits. -/
def NumberType.ofLast (point : Bool) : Option Char → NumberType
  | some 'u' => .uint
  | some 'f' => .float
  | _ => if point then .double else .int

/-- A number as it stands in the text. -/
structure Number where
  /-- the digits before the point -/
  whole : Text
  /-- the digits after the point, if there is one -/
  fraction : Option Text
  /-- the type that the suffix asks for -/
  suffix : Option NumberType
  deriving DecidableEq

namespace Number

/-- The number that a row of decimal digits stands for. -/
def natOfDigits (ds : Text) : Nat := ds.foldl (fun n c => 10 * n + (c.toNat - '0'.toNat)) 0

/-- The type of the number: what the suffix says, and without a suffix double precision if
there is a point, else a signed integer. -/
def type (n : Number) : NumberType :=
  match n.suffix, n.fraction with
  | some t, _ => t
  | none, some _ => .double
  | none, none => .int

/-- The value nearest to the number in a binary format. -/
def binary? (f : Format) (n : Number) : Option Binary :=
  let places := n.fraction.getD []
  f.ofRatio? (natOfDigits (n.whole ++ places)) (Nat.pow 10 places.length)

/-- The value of the number in its type. An integer has to fit its type and must have no
point; a floating-point number must not be beyond the greatest value of its format. -/
def value? (n : Number) : Option Literal :=
  match n.type with
  | .float => (n.binary? .single).map .float
  | .double => (n.binary? .double).map .double
  | .int =>
    let m := natOfDigits n.whole
    if n.fraction.isNone ∧ m ≤ 2147483647 then some (.int (Int32.ofNat m)) else none
  | .uint =>
    let m := natOfDigits n.whole
    if n.fraction.isNone ∧ m ≤ 4294967295 then some (.uint (UInt32.ofNat m)) else none

end Number

end Reckon
