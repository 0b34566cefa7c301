import Reckon.Decimal.Binary

/-!
# The shortest decimal that reads back

A value of a binary format stands for a whole interval of reals, those that round to it.
Of the decimals in that interval the ones with the fewest digits are wanted, and of these
the one nearest to the value. For each number of digits in turn, only the value's two
neighbours on the decimal grid have to be looked at: if any point of the grid lies in the
interval, one of the two does.
-/

namespace Reckon

/-- The value `coeff · 10 ^ exponent`. -/
structure Decimal where
  /-- the digits, as one number -/
  coeff : Nat
  /-- the power of ten that scales it -/
  exponent : Int
  deriving DecidableEq

namespace Decimal

/-- The number of decimal digits. -/
def digitCount (n : Nat) : Nat := (Nat.toDigits 10 n).length

/-- The digits that a number is written with. -/
def digits (d : Decimal) : List Char := Nat.toDigits 10 d.coeff

/-- Zeros at the end of the coefficient moved into the exponent, at most `fuel` of them. -/
def trim : Nat → Decimal → Decimal
  | 0, d => d
  | fuel + 1, d =>
    if d.coeff ≠ 0 ∧ d.coeff % 10 = 0 then trim fuel ⟨d.coeff / 10, d.exponent + 1⟩ else d

/-- The greatest `x` with `10 ^ x ≤ num / den`, for a ratio above zero. -/
def magnitude (num den : Nat) : Int :=
  if den ≤ num then (digitCount (num / den) : Int) - 1
  else
    let t := digitCount (den / num)
    if num * Nat.pow 10 (t - 1) = den then 1 - (t : Int) else -(t : Int)

end Decimal

namespace Format

/-- The interval of reals that round to a value, in quarters of the value's last place,
and whether its ends belong to it. Below a power of two the next value is only half as far
away as above it. -/
structure Interval where
  /-- the lower end -/
  low : Nat
  /-- the upper end -/
  high : Nat
  /-- do the ends belong to the interval? -/
  closed : Bool

/-- The interval of a value of the format. An end lies half way between two values and
rounds to the even one. -/
def interval (f : Format) (x : Binary) : Interval where
  low :=
    if x.coeff = Nat.pow 2 (f.precision - 1) ∧ f.minExp < x.exponent then 4 * x.coeff - 1
    else 4 * x.coeff - 2
  high := 4 * x.coeff + 2
  closed := x.coeff % 2 = 0

/-- The better of the value's two neighbours on the grid of step `10 ^ k`, if one of them
lies in the interval. Of two equally near ones the greater is taken. -/
def onGrid? (f : Format) (x : Binary) (k : Int) : Option Decimal :=
  let i := f.interval x
  let e := x.exponent - 2
  let unit := Nat.pow 2 e.toNat * Nat.pow 10 (-k).toNat
  let step := Nat.pow 2 (-e).toNat * Nat.pow 10 k.toNat
  let value := 4 * x.coeff * unit
  let inside := fun d : Nat =>
    if i.closed then i.low * unit ≤ d * step ∧ d * step ≤ i.high * unit
    else i.low * unit < d * step ∧ d * step < i.high * unit
  let below := value / step
  let above := below + 1
  match decide (inside below), decide (inside above) with
  | true, true =>
    if value - below * step < above * step - value then some ⟨below, k⟩ else some ⟨above, k⟩
  | true, false => some ⟨below, k⟩
  | false, true => some ⟨above, k⟩
  | false, false => none

/-- The first hit on the grids of `n`, `n + 1`, … digits for a value of the given decimal
magnitude. -/
def firstOnGrid (f : Format) (x : Binary) (magnitude : Int) : Nat → Nat → Decimal
  | 0, _ => ⟨0, 0⟩
  | fuel + 1, n =>
    match f.onGrid? x (magnitude - n + 1) with
    | some d => d
    | none => firstOnGrid f x magnitude fuel (n + 1)

/-- Digits enough for every value of either format to read back. -/
def maxDigits : Nat := 17

/-- The shortest decimal that reads back as the value. -/
def shortest (f : Format) (x : Binary) : Decimal :=
  if x.coeff = 0 then ⟨0, 0⟩
  else
    let (num, den) := scaled x.coeff 1 (-x.exponent)
    let d := f.firstOnGrid x (Decimal.magnitude num den) maxDigits 1
    d.trim maxDigits

end Format

end Reckon
