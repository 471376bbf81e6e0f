import TaskSync.Proofs.Number.Rounding
import TaskSync.Retry.Backoff

/-!
# Waits before retries

The factor of a wait is a power of two times a random number from one up to two, without any
rounding, so it lies in the range of its retry. The products are rounded, but a wait with a base
delay always takes time. The waits of a series take the words of the source one after the other.
-/

namespace TaskSync

/-! ### Words -/

namespace Random.Source

/-- The source after so many more words. -/
def skip (s : Source) (n : Nat) : Source := { s with taken := s.taken + n }

/-- The word behind so many others. -/
def word (s : Source) (n : Nat) : UInt64 := (s.skip n).next.1

theorem next_skip (s : Source) (n : Nat) : (s.skip n).next = (s.word n, s.skip (n + 1)) := rfl

end Random.Source

namespace Backoff

open Binary64

/-! ### Factors -/

/-- The upper bits of a word. -/
def fraction (word : UInt64) : Nat := word.toNat / 2 ^ 12

theorem fraction_lt (word : UInt64) : fraction word < 2 ^ 52 := by
  have small := word.toNat_lt
  unfold fraction
  omega

/-- A factor is a power of two times a number from one on, by steps of the same size. -/
theorem size_factor {e : Nat} (small : e ≤ maxExponent) (word : UInt64) :
    (factor e word).size = 2 ^ e * (1 + (fraction word : ℚ) / 2 ^ 52) := by
  have below := fraction_lt word
  have inside : (1023 + e) * 2 ^ 52 + fraction word < signBit := by
    unfold maxExponent at small
    unfold signBit
    omega
  have bits : (factor e word).magnitude = (1023 + e) * 2 ^ 52 + fraction word :=
    magnitude_ofMagnitude false inside
  rw [size_of_magnitude (by omega) below bits]
  have exponent : ((1023 + e : Nat) : Int) - 1075 = e - 52 := by omega
  rw [exponent, zpow_sub₀ (by norm_num), zpow_natCast]
  push_cast
  norm_num
  ring

/-- A factor lies in the range from its power of two up to the next one. -/
theorem factor_range {e : Nat} (small : e ≤ maxExponent) (word : UInt64) :
    (2 : ℚ) ^ e ≤ (factor e word).size ∧ (factor e word).size < 2 ^ (e + 1) := by
  have below : (fraction word : ℚ) / 2 ^ 52 < 1 := by
    rw [div_lt_one (by positivity)]
    exact_mod_cast fraction_lt word
  have positive : (0 : ℚ) ≤ (fraction word : ℚ) / 2 ^ 52 := by positivity
  have power : (0 : ℚ) < 2 ^ e := by positivity
  rw [size_factor small]
  constructor
  · exact le_mul_of_one_le_right power.le (by linarith)
  · rw [pow_succ (2 : ℚ) e]
    exact mul_lt_mul_of_pos_left (by linarith) power

/-! ### Products -/

theorem ratio_billion : (ofNat (10 ^ 9)).ratio = (10 ^ 9 * 2 ^ 23, 2 ^ 23) := by decide +kernel

theorem size_billion : (ofNat (10 ^ 9)).size = 10 ^ 9 := by
  rw [← ratio_value, ratio_billion]
  norm_num

/-- The shortest duration, a nanosecond, is more than `2 ^ -30` seconds. -/
theorem le_size_seconds {d : Duration} (positive : .zero < d) :
    (2 : ℚ) ^ (-30 : Int) ≤ (seconds d).size := by
  apply two_pow_le_plus (by decide) (by decide)
  have total : 0 < d.ns := positive
  rw [← d.secs_nanos] at total
  have secsNonneg := size_nonneg (ofNat d.secs)
  have nanosNonneg := size_nonneg ((ofNat d.nanos).div (ofNat (10 ^ 9)))
  by_cases whole : 1 ≤ d.secs
  · have secs : (2 : ℚ) ^ (-30 : Int) ≤ (ofNat d.secs).size := by
      apply two_pow_le_ofNat (by decide) (by decide)
      have one : (1 : ℚ) ≤ d.secs := by exact_mod_cast whole
      exact le_trans (by norm_num) one
    linarith
  · have some : 1 ≤ d.nanos := by omega
    have nanos : (2 : ℚ) ^ (0 : Int) ≤ (ofNat d.nanos).size := by
      apply two_pow_le_ofNat (by decide) (by decide)
      rw [zpow_zero]
      exact_mod_cast some
    have quotient : (2 : ℚ) ^ (-30 : Int) ≤ ((ofNat d.nanos).div (ofNat (10 ^ 9))).size := by
      apply two_pow_le_div (by decide) (by decide) (by rw [ratio_billion]; decide)
      rw [size_billion, le_div_iff₀ (by norm_num)]
      exact le_trans (by norm_num) nanos
    linarith

/-- From `2 ^ -29` seconds on, a number of seconds is not rounded to no time at all. -/
theorem zero_lt_ofSeconds? {x : Binary64} {d : Duration} (reached : (2 : ℚ) ^ (-29 : Int) ≤ x.size)
    (here : ofSeconds? x = some d) : .zero < d := by
  have nanos : 1 ≤ x.ratio.1 * 10 ^ 9 / x.ratio.2 := by
    rw [Nat.le_div_iff_mul_le x.ratio_pos, one_mul]
    have den : (0 : ℚ) < x.ratio.2 := by exact_mod_cast x.ratio_pos
    rw [← ratio_value, le_div_iff₀ den] at reached
    have enough : (x.ratio.2 : ℚ) ≤ x.ratio.1 * 10 ^ 9 := by
      norm_num at reached
      linarith
    exact_mod_cast enough
  have rounded := Nat.le_trans nanos (le_roundDiv _ _)
  unfold ofSeconds? at here
  split at here
  · simp only [Duration.ofNanos?] at here
    split at here
    · rw [← Option.some.inj here]
      exact rounded
    · cases here
  · cases here

/-- A wait with a base delay takes time. -/
theorem zero_lt_scaled {base : Duration} (positive : .zero < base) {e : Nat}
    (notZero : 1 ≤ e) (small : e ≤ maxExponent) (word : UInt64) :
    .zero < scaled base (factor e word) := by
  have doubled : (2 : ℚ) ≤ (factor e word).size :=
    calc (2 : ℚ) = 2 ^ 1 := by norm_num
      _ ≤ 2 ^ e := by gcongr; norm_num
      _ ≤ _ := (factor_range small word).1
  have product : (2 : ℚ) ^ (-29 : Int) ≤ ((seconds base).mul (factor e word)).size := by
    apply two_pow_le_mul (by decide) (by decide)
    calc (2 : ℚ) ^ (-29 : Int) = 2 ^ (-30 : Int) * 2 := by norm_num
      _ ≤ _ := mul_le_mul (le_size_seconds positive) doubled (by norm_num) (size_nonneg _)
  unfold scaled
  cases here : ofSeconds? ((seconds base).mul (factor e word)) with
  | none => decide
  | some d => exact zero_lt_ofSeconds? product here

/-! ### Series of waits -/

/-- The wait before a retry is the base delay times the factor that a word gives in the range of
the retry. The range of the sixteenth retry is that of all later ones. -/
structure IsWait (base : Duration) (retry : Nat) (word : UInt64) (w : Duration) : Prop where
  product : w = scaled base (factor (min retry 16) word)
  low : (2 : ℚ) ^ min retry 16 ≤ (factor (min retry 16) word).size
  high : (factor (min retry 16) word).size < 2 ^ (min retry 16 + 1)

theorem IsWait.zero_lt {base w : Duration} {retry : Nat} {word : UInt64}
    (h : IsWait base retry word w) (positive : .zero < base) (first : 1 ≤ retry) : .zero < w := by
  rw [h.product]
  exact zero_lt_scaled positive (by omega) (Nat.min_le_right retry 16) word

/-- A retry, and the wait before it in a series that starts with the source. -/
def waitBefore (base : Duration) (source : Random.Source) (retry : Nat) : UInt32 × Duration :=
  (UInt32.ofNat retry, (wait base (UInt32.ofNat retry) (source.skip (retry - 1))).1)

/-- The waits before the first retries, the last one first. -/
def waits (base : Duration) (source : Random.Source) (retries : Nat) : List (UInt32 × Duration) :=
  ((List.range' 1 retries).map (waitBefore base source)).reverse

variable {base : Duration} {source : Random.Source}

theorem waits_succ (base : Duration) (source : Random.Source) (n : Nat) :
    waits base source (n + 1) = waitBefore base source (n + 1) :: waits base source n := by
  rw [waits, List.range'_1_concat, List.map_append, List.reverse_append, Nat.add_comm 1 n]
  rfl

@[simp] theorem length_waits (n : Nat) : (waits base source n).length = n := by
  simp [waits]

theorem mem_waits {n : Nat} {w : UInt32 × Duration} :
    w ∈ waits base source n ↔ ∃ k, 1 ≤ k ∧ k ≤ n ∧ waitBefore base source k = w := by
  simp only [waits, List.mem_reverse, List.mem_map, List.mem_range'_1, Nat.lt_add_one_iff,
    Nat.add_comm 1 n, and_assoc]

theorem toNat_waitBefore {k : Nat} (small : k < 2 ^ 32) :
    (waitBefore base source k).1.toNat = k :=
  UInt32.toNat_ofNat_of_lt' small

theorem isWait_waitBefore {k : Nat} (small : k < 2 ^ 32) :
    IsWait base k (source.word (k - 1)) (waitBefore base source k).2 := by
  have exponent : Backoff.exponent (UInt32.ofNat k) = min k 16 := by
    rw [Backoff.exponent, UInt32.toNat_ofNat_of_lt' small]
    rfl
  obtain ⟨low, high⟩ := factor_range (Nat.min_le_right k 16) (source.word (k - 1))
  refine ⟨?_, low, high⟩
  rw [waitBefore, wait, Random.Source.next_skip, exponent]

theorem exists_mem_waits {n k : Nat} (small : n < 2 ^ 32) :
    (∃ w ∈ waits base source n, w.1.toNat = k) ↔ 1 ≤ k ∧ k ≤ n := by
  constructor
  · rintro ⟨w, here, rfl⟩
    obtain ⟨k, first, last, rfl⟩ := mem_waits.mp here
    rw [toNat_waitBefore (by omega)]
    exact ⟨first, last⟩
  · rintro ⟨first, last⟩
    exact ⟨_, mem_waits.mpr ⟨k, first, last, rfl⟩, toNat_waitBefore (by omega)⟩

/-- The waits are numbered from one on. -/
theorem numbers_waits {n : Nat} (small : n < 2 ^ 32) :
    (waits base source n).reverse.map (·.1.toNat) = List.range' 1 n := by
  rw [waits, List.reverse_reverse, List.map_map]
  conv_rhs => rw [← List.map_id (List.range' 1 n)]
  refine List.map_congr_left fun k here => ?_
  rw [List.mem_range'_1] at here
  exact toNat_waitBefore (by omega)

end Backoff

end TaskSync
