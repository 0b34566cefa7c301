import Mathlib.Algebra.Order.Field.Power
import Mathlib.Tactic.FieldSimp
import Mathlib.Tactic.Linarith
import Mathlib.Tactic.Positivity
import Mathlib.Tactic.Ring
import Reckon.Decimal.Binary

/-!
# Rounding to a binary format

A ratio of two integers is brought into a format by integer arithmetic alone. This module says,
over the rationals, what comes out.

* `Binary.toRat`: what a value is worth, and `Format.Has`: which values a format has.
* `Format.Nearest`: a value of the format with none nearer to a number; where another one is as
  near, its coefficient is even.
* `Format.limit`: the point half way between the greatest value of a format and the value that would
  come next.
* `HalfEven`, `Format.Placed`: the two steps, the rounding of a quotient and the choice of the
  exponent. On the grid of that exponent all is nearest integers, and the values of smaller
  exponents lie below the whole grid.
* `Format.ofRatio?_eq_none_iff`, `Format.nearest_of_ofRatio?`: **a ratio is refused if and only if
  it reaches the limit**, and otherwise it becomes the value nearest to it.
-/

namespace Reckon

/-- What a value is worth. -/
def Binary.toRat (x : Binary) : ℚ := x.coeff * 2 ^ x.exponent

namespace Format

/-- The values of a format. The coefficient has its full length, unless the exponent is the
least. -/
structure Has (f : Format) (x : Binary) : Prop where
  /-- the coefficient has no more bits than the format -/
  coeff_lt : x.coeff < 2 ^ f.precision
  /-- the exponent is not too small -/
  minExp_le : f.minExp ≤ x.exponent
  /-- the exponent is not too great -/
  le_maxExp : x.exponent ≤ f.maxExp
  /-- the leading bit is set -/
  normal : f.minExp < x.exponent → 2 ^ (f.precision - 1) ≤ x.coeff

/-- The value of the format nearest to `v`, a half going to the even coefficient. -/
structure Nearest (f : Format) (v : ℚ) (x : Binary) : Prop where
  /-- it is a value of the format -/
  has : f.Has x
  /-- no value of the format is nearer -/
  closest : ∀ y, f.Has y → |v - x.toRat| ≤ |v - y.toRat|
  /-- if another value is as near, the coefficient is even -/
  even : ∀ y, f.Has y → y.toRat ≠ x.toRat → |v - y.toRat| = |v - x.toRat| → x.coeff % 2 = 0

/-- Half way between the greatest value of the format and the value that would come next. -/
def limit (f : Format) : ℚ := (2 ^ f.precision - 1 / 2) * 2 ^ f.maxExp

/-- A format with at least two bits and at least one exponent. -/
structure Proper (f : Format) : Prop where
  /-- two bits, so that a power of two has an even coefficient -/
  two_le : 2 ≤ f.precision
  /-- an exponent -/
  minExp_le : f.minExp ≤ f.maxExp

theorem single_proper : single.Proper := ⟨by decide, by decide⟩

theorem double_proper : double.Proper := ⟨by decide, by decide⟩

end Format

/-! ## Powers of two -/

theorem two_zpow_pos (e : ℤ) : (0 : ℚ) < 2 ^ e := zpow_pos (by norm_num) e

theorem two_zpow_le {d e : ℤ} (h : d ≤ e) : (2 : ℚ) ^ d ≤ 2 ^ e :=
  zpow_le_zpow_right₀ (by norm_num) h

theorem two_zpow_succ (e : ℤ) : (2 : ℚ) ^ (e + 1) = 2 * 2 ^ e := by
  rw [zpow_add_one₀ (by norm_num), mul_comm]

theorem two_pow_pred {p : ℕ} (h : 2 ≤ p) : 2 ^ p = 2 * 2 ^ (p - 1) := by
  obtain ⟨n, rfl⟩ : ∃ n, p = n + 1 := ⟨p - 1, by omega⟩
  rw [pow_succ, mul_comm, Nat.add_sub_cancel]

/-- One place less in the coefficient is one more in the exponent. -/
theorem two_pow_mul_zpow {p : ℕ} (h : 2 ≤ p) (e : ℤ) :
    (2 : ℚ) ^ p * 2 ^ e = 2 ^ (p - 1) * 2 ^ (e + 1) := by
  have hp : (2 : ℚ) ^ p = 2 * 2 ^ (p - 1) := by exact_mod_cast two_pow_pred h
  rw [two_zpow_succ, hp]
  ring

/-! ## Quotients -/

/-- The integer nearest to `q`, a half going to the even one. -/
structure HalfEven (q : ℚ) (m : ℕ) : Prop where
  /-- it is at most one half away -/
  near : |q - m| ≤ 1 / 2
  /-- if it is exactly one half away, it is even -/
  even : |q - m| = 1 / 2 → m % 2 = 0

theorem halfEven_roundHalfEven (num : ℕ) {den : ℕ} (hden : 0 < den) :
    HalfEven (num / den) (roundHalfEven num den) := by
  have hden' : (0 : ℚ) < den := by exact_mod_cast hden
  have hr : num % den < den := Nat.mod_lt num hden
  have hsplit : (num : ℚ) / den = (num / den : ℕ) + (num % den : ℕ) / den := by
    have h : (num : ℚ) = den * (num / den : ℕ) + (num % den : ℕ) := by
      exact_mod_cast (Nat.div_add_mod num den).symm
    field_simp
    linarith
  rw [hsplit, roundHalfEven]
  generalize num / den = q, num % den = r at hr
  -- from here on only the part after the point matters
  have hpos : (0 : ℚ) ≤ r / den := by positivity
  split
  · rename_i h
    have hlt : (r : ℚ) / den < 1 / 2 := by
      rw [div_lt_div_iff₀ hden' two_pos]
      exact_mod_cast (by omega : r * 2 < 1 * den)
    have habs : |(q : ℚ) + r / den - q| = r / den := by
      rw [add_sub_cancel_left, abs_of_nonneg hpos]
    exact ⟨by rw [habs]; exact hlt.le, fun h => absurd (habs ▸ h) hlt.ne⟩
  split
  · rename_i h
    have hgt : 1 / 2 < (r : ℚ) / den := by
      rw [div_lt_div_iff₀ two_pos hden']
      exact_mod_cast (by omega : 1 * den < r * 2)
    have hlt : (r : ℚ) / den < 1 := by
      rw [div_lt_one hden']
      exact_mod_cast hr
    have habs : |(q : ℚ) + r / den - (q + 1 : ℕ)| = 1 - r / den := by
      rw [abs_of_nonpos (by push_cast; linarith)]
      push_cast
      ring
    constructor
    · rw [habs]
      linarith
    · intro h
      rw [habs] at h
      linarith
  · have hhalf : (r : ℚ) / den = 1 / 2 := by
      rw [div_eq_div_iff hden'.ne' two_ne_zero]
      exact_mod_cast (by omega : r * 2 = 1 * den)
    refine ⟨?_, fun _ => by omega⟩
    rcases Nat.mod_two_eq_zero_or_one q with h | h <;> rw [hhalf, h, abs_le] <;> push_cast <;>
      constructor <;> linarith

namespace HalfEven

variable {q : ℚ} {m : ℕ}

/-- Two integers are at least one apart. -/
theorem half_le_of_ne (h : HalfEven q m) {c : ℕ} (hc : c ≠ m) : 1 / 2 ≤ |q - c| := by
  have hne : (c : ℤ) - m ≠ 0 := by omega
  have hint : (1 : ℚ) ≤ |(c : ℚ) - m| := by exact_mod_cast Int.one_le_abs hne
  have htri : |(c : ℚ) - m| ≤ |(c : ℚ) - q| + |q - m| := by
    have := abs_add_le ((c : ℚ) - q) (q - m)
    rwa [sub_add_sub_cancel] at this
  rw [abs_sub_comm (c : ℚ) q] at htri
  linarith [h.near]

theorem closest (h : HalfEven q m) (c : ℕ) : |q - m| ≤ |q - c| := by
  by_cases hc : c = m
  · rw [hc]
  · exact h.near.trans (h.half_le_of_ne hc)

theorem even_of_tie (h : HalfEven q m) {c : ℕ} (hc : c ≠ m) (htie : |q - c| = |q - m|) :
    m % 2 = 0 :=
  h.even (le_antisymm h.near (htie ▸ h.half_le_of_ne hc))

end HalfEven

/-! ## The exponent -/

namespace Format

/-- The numerator and the denominator make the quotient by a power of two. -/
theorem scaled_div (num den : ℕ) (e : ℤ) :
    ((scaled num den e).1 : ℚ) / (scaled num den e).2 = num / den / 2 ^ e := by
  rw [scaled]
  rcases le_total 0 e with h | h
  · obtain ⟨n, rfl⟩ := Int.eq_ofNat_of_zero_le h
    have hneg : (-(n : ℤ)).toNat = 0 := by omega
    rw [hneg, Int.toNat_natCast, zpow_natCast]
    simp [div_div]
  · obtain ⟨n, hn⟩ := Int.eq_ofNat_of_zero_le (Int.neg_nonneg_of_nonpos h)
    obtain rfl : e = -(n : ℤ) := by omega
    have hneg : (-(n : ℤ)).toNat = 0 := by omega
    rw [hneg, neg_neg, Int.toNat_natCast, zpow_neg, zpow_natCast, div_inv_eq_mul]
    simp [mul_div_right_comm]

theorem scaled_snd_pos {den : ℕ} (hden : 0 < den) (num : ℕ) (e : ℤ) :
    0 < (scaled num den e).2 :=
  Nat.mul_pos hden (Nat.two_pow_pos _)

/-- The exponent of the grid on which `v` is rounded: `v` has at most as many bits before the point
as the format, and just as many unless the exponent is the least. -/
structure Placed (f : Format) (v : ℚ) (e : ℤ) : Prop where
  /-- the exponent is one of the format, or too great -/
  minExp_le : f.minExp ≤ e
  /-- no bit too many -/
  lt : v / 2 ^ e < 2 ^ f.precision
  /-- no bit too few -/
  le : f.minExp < e → 2 ^ (f.precision - 1) ≤ v / 2 ^ e

/-- A ratio lies between the powers of two that the lengths of its parts give. -/
theorem log2_bounds {num den : ℕ} (hnum : num ≠ 0) (hden : 0 < den) :
    (2 : ℚ) ^ ((num.log2 : ℤ) - den.log2 - 1) < num / den ∧
      (num : ℚ) / den < 2 ^ ((num.log2 : ℤ) - den.log2 + 1) := by
  have hden' : (0 : ℚ) < den := by exact_mod_cast hden
  have hnumlo : (2 : ℚ) ^ num.log2 ≤ num := by exact_mod_cast Nat.log2_self_le hnum
  have hnumhi : (num : ℚ) < 2 ^ (num.log2 + 1) := by exact_mod_cast Nat.lt_log2_self
  have hdenlo : (2 : ℚ) ^ den.log2 ≤ den := by exact_mod_cast Nat.log2_self_le hden.ne'
  have hdenhi : (den : ℚ) < 2 ^ (den.log2 + 1) := by exact_mod_cast Nat.lt_log2_self
  have htwo : (2 : ℚ) ≠ 0 := two_ne_zero
  have hpos : (0 : ℚ) < 2 ^ ((num.log2 : ℤ) - den.log2) := two_zpow_pos _
  have hcancel : (2 : ℚ) ^ ((num.log2 : ℤ) - den.log2) * 2 ^ den.log2 = 2 ^ num.log2 := by
    rw [zpow_sub₀ htwo, zpow_natCast, zpow_natCast, div_mul_cancel₀]
    positivity
  constructor
  · rw [lt_div_iff₀ hden', zpow_sub_one₀ htwo]
    rw [pow_succ] at hdenhi
    nlinarith
  · rw [div_lt_iff₀ hden', zpow_add_one₀ htwo]
    rw [pow_succ] at hnumhi
    nlinarith

theorem placed_exponentOf (f : Format) (hf : f.Proper) {num den : ℕ} (hnum : num ≠ 0)
    (hden : 0 < den) : f.Placed (num / den) (f.exponentOf num den) := by
  obtain ⟨hlo, hhi⟩ := log2_bounds hnum hden
  rw [exponentOf]
  generalize hguess : max f.minExp ((num.log2 : ℤ) - den.log2 - f.precision) = guess
  have hdiv : (scaled num den guess).1 / (scaled num den guess).2 < Nat.pow 2 f.precision ↔
      (num : ℚ) / den / 2 ^ guess < 2 ^ f.precision := by
    have hpos := scaled_snd_pos hden num guess
    have hpos' : (0 : ℚ) < (scaled num den guess).2 := by exact_mod_cast hpos
    rw [← scaled_div, div_lt_iff₀ hpos', Nat.div_lt_iff_lt_mul hpos]
    exact_mod_cast Iff.rfl
  have hmin : f.minExp ≤ guess := by omega
  have hu := two_zpow_pos guess
  dsimp only
  split
  · rename_i h
    refine ⟨hmin, hdiv.1 h, ?_⟩
    -- above the least exponent the guess comes from the lengths
    intro hlt
    have hexp : (num.log2 : ℤ) - den.log2 - 1 = (f.precision - 1 : ℕ) + guess := by
      have := hf.two_le
      omega
    rw [hexp, zpow_add₀ two_ne_zero, zpow_natCast] at hlo
    rw [le_div_iff₀ hu]
    exact hlo.le
  · rename_i h
    have hge := not_lt.1 (mt hdiv.2 h)
    have hp := two_pow_mul_zpow hf.two_le guess
    have hu' := two_zpow_pos (guess + 1)
    refine ⟨by omega, ?_, ?_⟩
    · have hexp : (num.log2 : ℤ) - den.log2 + 1 ≤ f.precision + (guess + 1) := by omega
      rw [div_lt_iff₀ hu', ← zpow_natCast, ← zpow_add₀ two_ne_zero]
      exact hhi.trans_le (two_zpow_le hexp)
    · intro _
      rw [le_div_iff₀ hu, hp] at hge
      rwa [le_div_iff₀ hu']

/-! ## The value -/

section Grid

variable {f : Format} {v : ℚ} {e : ℤ} {m : ℕ}

/-- The distance on the grid of an exponent, in steps of the grid. -/
theorem abs_sub_grid (v : ℚ) (e : ℤ) (c : ℕ) :
    |v - c * 2 ^ e| = |v / 2 ^ e - c| * 2 ^ e := by
  have hu := two_zpow_pos e
  rw [← abs_of_pos hu, ← abs_mul, sub_mul, abs_of_pos hu, div_mul_cancel₀ v hu.ne']

/-- A value with no smaller exponent is on the grid. -/
theorem exists_grid {y : Binary} (h : e ≤ y.exponent) : ∃ c : ℕ, y.toRat = c * 2 ^ e := by
  obtain ⟨n, hn⟩ := Int.eq_ofNat_of_zero_le (Int.sub_nonneg_of_le h)
  have hexp : y.exponent = n + e := by omega
  refine ⟨y.coeff * 2 ^ n, ?_⟩
  rw [Binary.toRat, hexp, zpow_add₀ two_ne_zero, zpow_natCast]
  push_cast
  ring

/-- A value with a smaller exponent lies below the numbers that are rounded on the grid. -/
theorem Has.toRat_lt (hf : f.Proper) {y : Binary} (hy : f.Has y) (h : y.exponent < e) :
    y.toRat < 2 ^ (f.precision - 1) * 2 ^ e := by
  have hcoeff : (y.coeff : ℚ) < 2 ^ f.precision := by exact_mod_cast hy.coeff_lt
  calc y.toRat < 2 ^ f.precision * 2 ^ y.exponent := by
        exact mul_lt_mul_of_pos_right hcoeff (two_zpow_pos _)
    _ = 2 ^ (f.precision - 1) * 2 ^ (y.exponent + 1) := two_pow_mul_zpow hf.two_le _
    _ ≤ 2 ^ (f.precision - 1) * 2 ^ e := by
        exact mul_le_mul_of_nonneg_left (two_zpow_le h) (by positivity)

/-- The nearest point of the grid is nearest among all values of the format. -/
theorem Placed.closest (hf : f.Proper) (h : f.Placed v e) (hm : HalfEven (v / 2 ^ e) m)
    {y : Binary} (hy : f.Has y) :
    |v - m * 2 ^ e| ≤ |v - y.toRat| ∧
      (y.toRat ≠ m * 2 ^ e → |v - y.toRat| = |v - m * 2 ^ e| → m % 2 = 0) := by
  have hu := two_zpow_pos e
  rcases le_or_gt e y.exponent with hexp | hexp
  · obtain ⟨c, hc⟩ := exists_grid hexp
    rw [hc, abs_sub_grid, abs_sub_grid]
    refine ⟨mul_le_mul_of_nonneg_right (hm.closest c) hu.le, ?_⟩
    intro hne htie
    apply hm.even_of_tie (c := c) _ (mul_right_cancel₀ hu.ne' htie)
    rintro rfl
    exact hne rfl
  · -- the first point of the grid lies between the value and the number
    have hlow := h.le (hy.minExp_le.trans_lt hexp)
    have hbelow := hy.toRat_lt hf hexp
    have hfirst := hm.closest (2 ^ (f.precision - 1))
    push_cast at hfirst
    rw [abs_of_nonneg (sub_nonneg.2 hlow)] at hfirst
    rw [le_div_iff₀ hu] at hlow
    have hlt : |v - m * 2 ^ e| < |v - y.toRat| := by
      rw [abs_sub_grid, abs_of_pos (by linarith : 0 < v - y.toRat)]
      calc |v / 2 ^ e - m| * 2 ^ e
          ≤ (v / 2 ^ e - 2 ^ (f.precision - 1)) * 2 ^ e :=
            mul_le_mul_of_nonneg_right hfirst hu.le
        _ = v - 2 ^ (f.precision - 1) * 2 ^ e := by rw [sub_mul, div_mul_cancel₀ v hu.ne']
        _ < v - y.toRat := by linarith
    exact ⟨hlt.le, fun _ htie => absurd htie hlt.ne'⟩

/-- The point of the grid as a value: a coefficient that has become too long is halved. -/
def carry (f : Format) (e : ℤ) (m : ℕ) : Binary :=
  if m = 2 ^ f.precision then ⟨m / 2, e + 1⟩ else ⟨m, e⟩

theorem ofRatio?_of_ne {num : ℕ} (h : num ≠ 0) (den : ℕ) :
    let e := f.exponentOf num den
    let x := f.carry e (roundHalfEven (scaled num den e).1 (scaled num den e).2)
    f.ofRatio? num den = if x.exponent ≤ f.maxExp then some x else none := by
  rw [ofRatio?, if_neg h]
  rfl

theorem toRat_carry (hf : f.Proper) (e : ℤ) (m : ℕ) : (f.carry e m).toRat = m * 2 ^ e := by
  rw [carry]
  split
  · rename_i h
    have hhalf : m / 2 = 2 ^ (f.precision - 1) := by
      rw [h, two_pow_pred hf.two_le]
      omega
    have hm : (m : ℚ) = 2 ^ f.precision := by exact_mod_cast h
    rw [Binary.toRat, hhalf, hm, two_pow_mul_zpow hf.two_le]
    push_cast
    rfl
  · rfl

/-- The bounds of the number are those of the nearest integer. -/
theorem Placed.coeff_bounds (h : f.Placed v e) (hm : HalfEven (v / 2 ^ e) m) :
    m ≤ 2 ^ f.precision ∧ (f.minExp < e → 2 ^ (f.precision - 1) ≤ m) := by
  obtain ⟨hlo, hhi⟩ := abs_le.1 hm.near
  constructor
  · have hlt : (m : ℚ) < (2 ^ f.precision : ℕ) + 1 := by
      push_cast
      linarith [h.lt]
    exact Nat.lt_succ_iff.1 (by exact_mod_cast hlt)
  · intro he
    have hlt : ((2 ^ (f.precision - 1) : ℕ) : ℚ) < m + 1 := by
      push_cast
      linarith [h.le he]
    exact Nat.lt_succ_iff.1 (by exact_mod_cast hlt)

/-- The coefficient that is carried over is a power of two, hence even. -/
theorem even_carry (hf : f.Proper) (h : m % 2 = 0) : (f.carry e m).coeff % 2 = 0 := by
  rw [carry]
  split
  · rename_i hm
    obtain ⟨n, hn⟩ : ∃ n, f.precision = n + 2 := ⟨f.precision - 2, by have := hf.two_le; omega⟩
    rw [hm, hn, pow_succ, pow_succ]
    dsimp only
    omega
  · exact h

theorem Placed.has_carry (hf : f.Proper) (h : f.Placed v e) (hm : HalfEven (v / 2 ^ e) m)
    (hexp : (f.carry e m).exponent ≤ f.maxExp) : f.Has (f.carry e m) := by
  obtain ⟨hle, hge⟩ := h.coeff_bounds hm
  have hp := two_pow_pred hf.two_le
  have hpos : 0 < 2 ^ (f.precision - 1) := Nat.two_pow_pos _
  have hmin := h.minExp_le
  rw [carry] at hexp ⊢
  split at hexp
  · rename_i heq
    rw [if_pos heq]
    refine ⟨?_, ?_, hexp, fun _ => ?_⟩ <;> dsimp only <;> omega
  · rename_i hne
    rw [if_neg hne]
    exact ⟨lt_of_le_of_ne hle hne, hmin, hexp, hge⟩

/-- The nearest integer has one bit too many if and only if the number comes within one half of
it: one half below is a tie, and the integer below is odd. -/
theorem Placed.coeff_eq_iff (hf : f.Proper) (h : f.Placed v e) (hm : HalfEven (v / 2 ^ e) m) :
    m = 2 ^ f.precision ↔ 2 ^ f.precision - 1 / 2 ≤ v / 2 ^ e := by
  obtain ⟨hlo, hhi⟩ := abs_le.1 hm.near
  constructor
  · rintro rfl
    push_cast at hlo
    linarith
  · intro hge
    by_contra hne
    have hlt := lt_of_le_of_ne (h.coeff_bounds hm).1 hne
    have hle : (m : ℚ) + 1 ≤ 2 ^ f.precision := by exact_mod_cast hlt
    have htie : |v / 2 ^ e - m| = 1 / 2 := le_antisymm hm.near (le_abs.2 (.inl (by linarith)))
    have heven := hm.even htie
    have hm' : (m : ℚ) + 1 = 2 ^ f.precision := by linarith
    have hodd : m + 1 = 2 ^ f.precision := by exact_mod_cast hm'
    rw [two_pow_pred hf.two_le] at hodd
    omega

/-- The limit lies between the least and the greatest coefficient of full length. -/
theorem limit_bounds (hf : f.Proper) :
    2 ^ (f.precision - 1) * 2 ^ f.maxExp < f.limit ∧
      f.limit < 2 ^ (f.precision - 1) * 2 ^ (f.maxExp + 1) := by
  have hu := two_zpow_pos f.maxExp
  have hone : (1 : ℚ) ≤ 2 ^ (f.precision - 1) := one_le_pow₀ (by norm_num)
  have hp : (2 : ℚ) ^ f.precision = 2 * 2 ^ (f.precision - 1) := by
    exact_mod_cast two_pow_pred hf.two_le
  rw [← two_pow_mul_zpow hf.two_le, limit]
  constructor
  · exact mul_lt_mul_of_pos_right (by linarith) hu
  · exact mul_lt_mul_of_pos_right (by linarith) hu

/-- A number is too great for the format if and only if it reaches the limit. -/
theorem Placed.exponent_carry_le_iff (hf : f.Proper) (h : f.Placed v e)
    (hm : HalfEven (v / 2 ^ e) m) : (f.carry e m).exponent ≤ f.maxExp ↔ v < f.limit := by
  obtain ⟨hbelow, habove⟩ := limit_bounds hf
  have hu := two_zpow_pos e
  have hcoeff := h.coeff_eq_iff hf hm
  have hpos : (0 : ℚ) ≤ 2 ^ (f.precision - 1) := by positivity
  rcases lt_trichotomy e f.maxExp with he | rfl | he
  · -- there is room for one more place
    refine iff_of_true (by rw [carry]; split <;> dsimp only <;> omega) ?_
    have hlt := (div_lt_iff₀ hu).1 h.lt
    rw [two_pow_mul_zpow hf.two_le] at hlt
    exact (hlt.trans_le (mul_le_mul_of_nonneg_left (two_zpow_le he) hpos)).trans hbelow
  · rw [limit, ← div_lt_iff₀ hu, ← not_le, ← hcoeff, carry]
    split
    · rename_i heq
      exact iff_of_false (by dsimp only; omega) (not_not.2 heq)
    · rename_i hne
      exact iff_of_true le_rfl hne
  · refine iff_of_false (by rw [carry]; split <;> dsimp only <;> omega) (not_lt.2 ?_)
    have hge := (le_div_iff₀ hu).1 (h.le (hf.minExp_le.trans_lt he))
    exact (habove.le.trans (mul_le_mul_of_nonneg_left (two_zpow_le he) hpos)).trans hge

/-- The value that is carried over is the nearest one. -/
theorem Placed.nearest_carry (hf : f.Proper) (h : f.Placed v e) (hm : HalfEven (v / 2 ^ e) m)
    (hexp : (f.carry e m).exponent ≤ f.maxExp) : f.Nearest v (f.carry e m) := by
  refine ⟨h.has_carry hf hm hexp, ?_, ?_⟩
  · intro y hy
    rw [toRat_carry hf]
    exact (h.closest hf hm hy).1
  · intro y hy hne htie
    rw [toRat_carry hf] at hne htie
    exact even_carry hf ((h.closest hf hm hy).2 hne htie)

end Grid

/-! ## Ratios -/

/-- The nearest value to zero is zero. -/
theorem nearest_zero {f : Format} (hf : f.Proper) : f.Nearest 0 ⟨0, f.minExp⟩ := by
  refine ⟨⟨Nat.two_pow_pos _, le_rfl, hf.minExp_le, fun h => absurd h (lt_irrefl _)⟩, ?_, ?_⟩
  · intro y _
    rw [Binary.toRat, Nat.cast_zero, zero_mul, sub_zero, abs_zero]
    exact abs_nonneg _
  · intro y _ _ _
    rfl

theorem limit_pos {f : Format} (hf : f.Proper) : 0 < f.limit :=
  lt_of_le_of_lt (by positivity) (limit_bounds hf).1

/-- The quotient that is rounded to make the coefficient. -/
theorem halfEven_scaled (num : ℕ) {den : ℕ} (hden : 0 < den) (e : ℤ) :
    HalfEven (num / den / 2 ^ e) (roundHalfEven (scaled num den e).1 (scaled num den e).2) := by
  rw [← scaled_div]
  exact halfEven_roundHalfEven _ (scaled_snd_pos hden num e)

/-- **What is refused**: a ratio is beyond a format if and only if it reaches the limit. -/
theorem ofRatio?_eq_none_iff {f : Format} (hf : f.Proper) (num : ℕ) {den : ℕ} (hden : 0 < den) :
    f.ofRatio? num den = none ↔ f.limit ≤ num / den := by
  by_cases hnum : num = 0
  · subst hnum
    simpa [ofRatio?] using limit_pos hf
  · have hplaced := placed_exponentOf f hf hnum hden
    have hiff := hplaced.exponent_carry_le_iff hf (halfEven_scaled num hden _)
    rw [ofRatio?_of_ne hnum]
    split
    · rename_i hexp
      exact iff_of_false (by simp) (not_le.2 (hiff.1 hexp))
    · rename_i hexp
      exact iff_of_true rfl (not_lt.1 (mt hiff.2 hexp))

/-- **What comes out**: any other ratio becomes the value of the format nearest to it. -/
theorem nearest_of_ofRatio? {f : Format} (hf : f.Proper) {num den : ℕ} (hden : 0 < den)
    {x : Binary} (h : f.ofRatio? num den = some x) : f.Nearest (num / den) x := by
  by_cases hnum : num = 0
  · subst hnum
    obtain rfl : ⟨0, f.minExp⟩ = x := by simpa [ofRatio?] using h
    simpa using nearest_zero hf
  · rw [ofRatio?_of_ne hnum] at h
    split at h
    · rename_i hexp
      obtain rfl := Option.some.inj h
      exact (placed_exponentOf f hf hnum hden).nearest_carry hf (halfEven_scaled num hden _) hexp
    · cases h

end Format

end Reckon
