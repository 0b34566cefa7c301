/-!
# Binary floating-point values, exactly

A finite value is a coefficient times a power of two. Nothing here is rounded but where a
ratio of two integers is brought into a format, and that rounding is exact: to the nearest
value of the format, a half going to the even coefficient.

* `Format`: how many bits a coefficient has, and which exponents there are.
* `Binary`: a non-negative finite value.
* `Format.ofRatio?`: the value nearest to a ratio, unless it lies beyond the format.
* `Format.bits`: the value's interchange encoding.
-/

namespace Reckon

/-- A binary floating-point format. -/
structure Format where
  /-- the bits of a coefficient -/
  precision : Nat
  /-- the least exponent -/
  minExp : Int
  /-- the greatest exponent -/
  maxExp : Int
  deriving DecidableEq

namespace Format

/-- Single precision: 32 bits in all. -/
def single : Format := ⟨24, -149, 104⟩

/-- Double precision: 64 bits in all. -/
def double : Format := ⟨53, -1074, 971⟩

end Format

/-- The value `coeff · 2 ^ exponent`. -/
structure Binary where
  /-- the integer that is scaled -/
  coeff : Nat
  /-- the power of two that scales it -/
  exponent : Int
  deriving DecidableEq

/-- The quotient of two numbers, to the nearest integer, a half going to the even
neighbour. -/
def roundHalfEven (num den : Nat) : Nat :=
  let q := num / den
  let r := num % den
  if 2 * r < den then q else if den < 2 * r then q + 1 else q + q % 2

namespace Format

/-- The numerator and denominator of `num / den` divided by `2 ^ e`. -/
def scaled (num den : Nat) (e : Int) : Nat × Nat :=
  (num * Nat.pow 2 (-e).toNat, den * Nat.pow 2 e.toNat)

/-- The exponent at which `num / den` has a coefficient of full length, or the least
exponent of the format where that is greater. -/
def exponentOf (f : Format) (num den : Nat) : Int :=
  let guess := max f.minExp ((num.log2 : Int) - den.log2 - f.precision)
  let (n, d) := scaled num den guess
  if n / d < Nat.pow 2 f.precision then guess else guess + 1

/-- The value of the format nearest to `num / den`; none if that lies beyond its greatest
value. A ratio that is too small for the format becomes zero. -/
def ofRatio? (f : Format) (num den : Nat) : Option Binary :=
  if num = 0 then some ⟨0, f.minExp⟩
  else
    let e := f.exponentOf num den
    let (n, d) := scaled num den e
    let m := roundHalfEven n d
    let value : Binary := if m = Nat.pow 2 f.precision then ⟨m / 2, e + 1⟩ else ⟨m, e⟩
    if value.exponent ≤ f.maxExp then some value else none

/-- The interchange encoding of a value of the format: the exponent field counts from the
least exponent, and the coefficient's leading bit is not stored. -/
def bits (f : Format) (x : Binary) : Nat :=
  (x.exponent - f.minExp).toNat * Nat.pow 2 (f.precision - 1) + x.coeff

end Format

end Reckon
