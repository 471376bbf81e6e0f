import Mathlib.Algebra.Order.Field.Power
import Mathlib.Data.Rat.Cast.Order
import Mathlib.Tactic.GCongr
import Mathlib.Tactic.Linarith
import Mathlib.Tactic.Positivity
import Mathlib.Tactic.Ring
import TaskSync.Number.Binary64

/-!
# Sizes of double-precision numbers

What a number is worth, its sign aside, as a rational number. Rounding never goes below a power of
two that the exact value reaches, so a result that is computed in several steps is still known not
to be small.
-/

namespace TaskSync.Binary64

/-- The worth of a number, its sign aside. -/
def size (x : Binary64) : ℚ := x.mantissa * (2 : ℚ) ^ x.exponent

/-! ### Bits -/

theorem magnitude_ofMagnitude (negative : Bool) {m : Nat} (small : m < signBit) :
    (ofMagnitude negative m).magnitude = m := by
  have word : m + (if negative then signBit else 0) < 2 ^ 64 := by
    unfold signBit at *
    split <;> omega
  have bits : (UInt64.ofNat (m + if negative then signBit else 0)).toNat =
      m + if negative then signBit else 0 := by
    rw [UInt64.toNat_ofNat', Nat.mod_eq_of_lt word]
  rw [ofMagnitude, magnitude, bits]
  unfold signBit at *
  split <;> omega

theorem magnitude_lt (x : Binary64) : x.magnitude < signBit := Nat.mod_lt _ (by decide)

theorem size_congr {x y : Binary64} (same : x.magnitude = y.magnitude) : x.size = y.size := by
  simp only [size, mantissa, exponent, same]

theorem size_nonneg (x : Binary64) : 0 ≤ x.size := by
  unfold size
  positivity

theorem size_withSign (negative : Bool) (x : Binary64) : (withSign negative x).size = x.size :=
  size_congr (magnitude_ofMagnitude negative x.magnitude_lt)

/-- A number of full precision, by the two parts of its bits. -/
theorem size_of_magnitude {x : Binary64} {biased fraction : Nat} (normal : 0 < biased)
    (small : fraction < 2 ^ 52) (bits : x.magnitude = biased * 2 ^ 52 + fraction) :
    x.size = ((2 ^ 52 + fraction : Nat) : ℚ) * (2 : ℚ) ^ ((biased : Int) - 1075) := by
  have high : x.magnitude / 2 ^ 52 = biased := by omega
  have low : x.magnitude % 2 ^ 52 = fraction := by omega
  have notZero : biased ≠ 0 := by omega
  simp only [size, mantissa, exponent, high, low, if_neg notZero]
  rw [Nat.add_comm]

/-- Bits from those of a power of two on are worth this power at least. -/
theorem two_pow_le_size {x : Binary64} {k : Int} (normal : -1022 ≤ k)
    (bits : (k + 1023).toNat * 2 ^ 52 ≤ x.magnitude) : (2 : ℚ) ^ k ≤ x.size := by
  have split : x.magnitude = x.magnitude / 2 ^ 52 * 2 ^ 52 + x.magnitude % 2 ^ 52 := by omega
  have biased : (k + 1023).toNat ≤ x.magnitude / 2 ^ 52 := by omega
  rw [size_of_magnitude (by omega) (Nat.mod_lt _ (by decide)) split]
  have exponent : k - 52 ≤ ((x.magnitude / 2 ^ 52 : Nat) : Int) - 1075 := by omega
  have full : ((2 : ℚ) ^ (52 : Int)) ≤ ((2 ^ 52 + x.magnitude % 2 ^ 52 : Nat) : ℚ) := by
    have whole : (2 ^ 52 : Nat) ≤ 2 ^ 52 + x.magnitude % 2 ^ 52 := Nat.le_add_right _ _
    calc (2 : ℚ) ^ (52 : Int) = ((2 ^ 52 : Nat) : ℚ) := by norm_num
      _ ≤ _ := by exact_mod_cast whole
  calc (2 : ℚ) ^ k = 2 ^ (52 : Int) * 2 ^ (k - 52) := by
        rw [← zpow_add₀ (by norm_num)]
        congr 1
        omega
    _ ≤ _ := by
        gcongr
        norm_num

/-! ### Rounding -/

/-- The quotient of two numbers, moved by a power of two. -/
theorem scaled_value (num den : Nat) (e : Int) :
    ((scaled num den e).1 : ℚ) / (scaled num den e).2 = num / den * (2 : ℚ) ^ e := by
  by_cases up : 0 ≤ e
  · obtain ⟨n, rfl⟩ := Int.eq_ofNat_of_zero_le up
    simp only [scaled, if_pos up, Int.toNat_natCast, zpow_natCast]
    push_cast
    ring
  · obtain ⟨n, rfl⟩ : ∃ n : Nat, e = -(n : Int) := ⟨(-e).toNat, by omega⟩
    simp only [scaled, if_neg up, Int.neg_neg, Int.toNat_natCast, zpow_neg, zpow_natCast]
    push_cast
    rw [div_mul_eq_div_div, div_eq_mul_inv _ ((2 : ℚ) ^ n)]

theorem scaled_pos (num : Nat) {den : Nat} (pos : 0 < den) (e : Int) :
    0 < (scaled num den e).2 := by
  unfold scaled
  split
  · exact pos
  · exact Nat.mul_pos pos (Nat.two_pow_pos _)

theorem le_roundDiv (num den : Nat) : num / den ≤ roundDiv num den := by
  simp only [roundDiv]
  split
  · exact Nat.le_refl _
  · split
    · exact Nat.le_succ _
    · split
      · exact Nat.le_refl _
      · exact Nat.le_succ _

/-- A quotient is less than two to the power of one more than the difference of the logarithms. -/
theorem div_lt_two_pow (num : Nat) {den : Nat} (pos : 0 < den) :
    (num : ℚ) / den < (2 : ℚ) ^ ((num.log2 : Int) - den.log2 + 1) := by
  have above : (num : ℚ) < 2 ^ ((num.log2 : Int) + 1) := by
    have h : num < 2 ^ (num.log2 + 1) := Nat.lt_log2_self
    exact_mod_cast h
  have below : (2 : ℚ) ^ (den.log2 : Int) ≤ den := by
    have h : 2 ^ den.log2 ≤ den := Nat.log2_self_le (by omega)
    exact_mod_cast h
  have posDen : (0 : ℚ) < den := by exact_mod_cast pos
  rw [div_lt_iff₀ posDen]
  calc (num : ℚ) < 2 ^ ((num.log2 : Int) + 1) := above
    _ = 2 ^ ((num.log2 : Int) - den.log2 + 1) * 2 ^ (den.log2 : Int) := by
        rw [← zpow_add₀ (by norm_num)]
        congr 1
        omega
    _ ≤ 2 ^ ((num.log2 : Int) - den.log2 + 1) * den := by gcongr

/-- A quotient has no more than 53 bits at the exponent at which it is rounded. -/
theorem div_lt_roundingExponent (num : Nat) {den : Nat} (pos : 0 < den) :
    (num : ℚ) / den < (2 : ℚ) ^ (roundingExponent num den + 53) := by
  rw [roundingExponent]
  generalize low_eq : (num.log2 : Int) - (den.log2 : Int) - 53 = low
  split
  · rename_i short
    have posScaled : (0 : ℚ) < (scaled num den (-low)).2 := by
      exact_mod_cast scaled_pos num pos (-low)
    have moved : (num : ℚ) / den * (2 : ℚ) ^ (-low) < 2 ^ 53 := by
      rw [← scaled_value, div_lt_iff₀ posScaled, mul_comm]
      exact_mod_cast short
    calc (num : ℚ) / den = num / den * (2 : ℚ) ^ (-low) * 2 ^ low := by
          rw [mul_assoc, ← zpow_add₀ (by norm_num), neg_add_cancel, zpow_zero, mul_one]
      _ < 2 ^ 53 * 2 ^ low := by gcongr
      _ = 2 ^ (low + 53) := by
          rw [← zpow_natCast, ← zpow_add₀ (by norm_num), add_comm]
          rfl
  · have above := div_lt_two_pow num pos
    have same : (num.log2 : Int) - den.log2 + 1 = low + 1 + 53 := by omega
    rwa [same] at above

/-- Where a quotient reaches a power of two, its bits reach those of the power, at every exponent
that leaves it a bit of precision. -/
theorem le_roundedBits {num den : Nat} {k e : Int} (pos : 0 < den) (normal : -1022 ≤ k)
    (near : k ≤ e + 52) (reached : (2 : ℚ) ^ k ≤ num / den) :
    (k + 1023).toNat * 2 ^ 52 ≤ roundedBits num den e := by
  unfold roundedBits
  rcases Int.lt_or_eq_of_le near with below | same
  · omega
  · have posScaled : 0 < (scaled num den (-e)).2 := scaled_pos num pos (-e)
    have posCast : (0 : ℚ) < (scaled num den (-e)).2 := by exact_mod_cast posScaled
    have full : 2 ^ 52 ≤ (scaled num den (-e)).1 / (scaled num den (-e)).2 := by
      have value : (2 : ℚ) ^ 52 ≤ (scaled num den (-e)).1 / (scaled num den (-e)).2 := by
        rw [scaled_value]
        calc (2 : ℚ) ^ 52 = 2 ^ k * 2 ^ (-e) := by
              rw [← zpow_natCast, ← zpow_add₀ (by norm_num)]
              congr 1
              omega
          _ ≤ num / den * 2 ^ (-e) := by gcongr
      rw [le_div_iff₀ posCast] at value
      rw [Nat.le_div_iff_mul_le posScaled]
      exact_mod_cast value
    have rounded := Nat.le_trans full (le_roundDiv _ _)
    omega

/-- The number nearest to a quotient is not below a power of two that the quotient reaches. -/
theorem two_pow_le_ofRatio {num den : Nat} {k : Int} (pos : 0 < den) (normal : -1022 ≤ k)
    (finite : k ≤ 1023) (reached : (2 : ℚ) ^ k ≤ num / den) :
    (2 : ℚ) ^ k ≤ (ofRatio num den).size := by
  have notZero : num ≠ 0 := by
    rintro rfl
    have positive : (0 : ℚ) < 2 ^ k := by positivity
    simp only [Nat.cast_zero, zero_div] at reached
    linarith
  have near : k < roundingExponent num den + 53 := by
    have between := lt_of_le_of_lt reached (div_lt_roundingExponent num pos)
    exact (zpow_lt_zpow_iff_right₀ (by norm_num)).mp between
  have bits := le_roundedBits (e := Max.max (roundingExponent num den) (-1074)) pos normal
    (by omega) reached
  apply two_pow_le_size normal
  rw [ofRatio, if_neg notZero, magnitude_ofMagnitude]
  · unfold infinityBits
    omega
  · unfold infinityBits signBit
    omega

/-! ### Arithmetic -/

/-- What a finite number is worth, as a quotient of natural numbers. -/
theorem ratio_value (x : Binary64) : (x.ratio.1 : ℚ) / x.ratio.2 = x.size := by
  rw [ratio, scaled_value, Nat.cast_one, div_one, size]

theorem ratio_pos (x : Binary64) : 0 < x.ratio.2 := scaled_pos _ Nat.one_pos _

section Arithmetic

variable {x y : Binary64} {k : Int}

theorem two_pow_le_mul (normal : -1022 ≤ k) (finite : k ≤ 1023)
    (reached : (2 : ℚ) ^ k ≤ x.size * y.size) : (2 : ℚ) ^ k ≤ (x.mul y).size := by
  rw [mul, size_withSign]
  apply two_pow_le_ofRatio (Nat.mul_pos x.ratio_pos y.ratio_pos) normal finite
  push_cast
  rwa [mul_div_mul_comm, ratio_value, ratio_value]

theorem two_pow_le_div (normal : -1022 ≤ k) (finite : k ≤ 1023) (positive : 0 < y.ratio.1)
    (reached : (2 : ℚ) ^ k ≤ x.size / y.size) : (2 : ℚ) ^ k ≤ (x.div y).size := by
  rw [div, size_withSign]
  apply two_pow_le_ofRatio (Nat.mul_pos x.ratio_pos positive) normal finite
  push_cast
  rwa [← div_div_div_eq, ratio_value, ratio_value]

theorem two_pow_le_plus (normal : -1022 ≤ k) (finite : k ≤ 1023)
    (reached : (2 : ℚ) ^ k ≤ x.size + y.size) : (2 : ℚ) ^ k ≤ (x.plus y).size := by
  have left : (x.ratio.2 : ℚ) ≠ 0 := by exact_mod_cast x.ratio_pos.ne'
  have right : (y.ratio.2 : ℚ) ≠ 0 := by exact_mod_cast y.ratio_pos.ne'
  have sum : x.plus y =
      ofRatio (x.ratio.1 * y.ratio.2 + y.ratio.1 * x.ratio.2) (x.ratio.2 * y.ratio.2) := rfl
  rw [sum]
  apply two_pow_le_ofRatio (Nat.mul_pos x.ratio_pos y.ratio_pos) normal finite
  push_cast
  rwa [mul_comm (y.ratio.1 : ℚ), ← div_add_div _ _ left right, ratio_value, ratio_value]

theorem two_pow_le_ofNat {n : Nat} (normal : -1022 ≤ k) (finite : k ≤ 1023)
    (reached : (2 : ℚ) ^ k ≤ n) : (2 : ℚ) ^ k ≤ (ofNat n).size := by
  apply two_pow_le_ofRatio Nat.one_pos normal finite
  rwa [Nat.cast_one, div_one]

end Arithmetic

end TaskSync.Binary64
