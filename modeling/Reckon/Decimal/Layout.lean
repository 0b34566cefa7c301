import Reckon.Decimal.Shortest
import Reckon.Text.Basic

/-!
# How a decimal is laid out

The digits are given; what is left is where the point goes. `Layout` holds the decisions
of one printed form, and `Layout.render` follows them.
-/

namespace Reckon

/-- The decisions of a printed form. -/
structure Layout where
  /-- the magnitudes that are written without an exponent, as an interval; all of them if
  it is not given -/
  positional : Option (Int × Int)
  /-- what follows a number with no digit after the point -/
  wholeSuffix : String

namespace Layout

/-- Is a number whose first digit has the weight `10 ^ magnitude` written without an
exponent? -/
def isPositional (l : Layout) (magnitude : Int) : Bool :=
  match l.positional with
  | none => true
  | some (lo, hi) => lo ≤ magnitude && magnitude ≤ hi

/-- The digits with the point among them, or with the zeros that lead to it. -/
def renderPositional (l : Layout) (d : Decimal) : String :=
  let ds := d.digits
  if 0 ≤ d.exponent then
    String.ofList (ds ++ List.replicate d.exponent.toNat '0') ++ l.wholeSuffix
  else
    let places := (-d.exponent).toNat
    if places < ds.length then
      String.ofList (ds.take (ds.length - places) ++ '.' :: keepLast places ds)
    else
      String.ofList ('0' :: '.' :: (List.replicate (places - ds.length) '0' ++ ds))

/-- One digit, the others after the point, and the exponent after the mark `e`. -/
def renderExponent (d : Decimal) : String :=
  let ds := d.digits
  let x := d.exponent + ds.length - 1
  match ds with
  | [] => ""
  | [c] => String.ofList [c, 'e'] ++ toString x
  | c :: rest => String.ofList (c :: '.' :: (rest ++ ['e'])) ++ toString x

/-- The printed form of a decimal. -/
def render (l : Layout) (d : Decimal) : String :=
  if d.coeff = 0 || l.isPositional (d.exponent + d.digits.length - 1) then l.renderPositional d
  else renderExponent d

end Layout

end Reckon
