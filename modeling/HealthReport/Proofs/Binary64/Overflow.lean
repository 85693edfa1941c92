import HealthReport.Proofs.Binary64.Shortest

/-!
# Where numbers round to an infinity

The largest finite double is 2¹⁰²⁴ − 2⁹⁷¹. A magnitude rounds to it as long as it lies below the
middle between it and 2¹⁰²⁴, and to an infinity from there on, since the middle goes to the even
neighbour.

Results:
1. `nearestEven_lt_iff`: what rounds below an even number.
2. `roundUnits_lt_limit_iff`: what rounds to a finite double.
3. `isFinite_ofUnits_iff`, `isFinite_ofDecimal_iff`, `isFinite_toBinary64`: which results of
   operations, decimal numbers and numbers of documents are finite.
-/
namespace HealthReport

/-! ## Definitions -/

namespace Binary64

/-- The least magnitude that rounds to an infinity, in units: the middle between the largest finite
double and the limit. -/
def overflow : Nat := limit - 1 <<< (970 + scale)

/-- The least magnitude that rounds to an infinity. -/
def rangeEnd : ℚ := 2 ^ 1024 - 2 ^ 970

end Binary64

/-! ## 1. Below an even number -/

/-- A half goes to the even neighbour, so it is not rounded below an even number. -/
theorem nearestEven_lt_iff {num den k : Nat} (den_pos : 0 < den) (even : k % 2 = 0) :
    nearestEven num den < k ↔ 2 * num + den < 2 * (k * den) := by
  have division := Nat.div_add_mod' num den
  have remainder := Nat.mod_lt num den_pos
  unfold nearestEven
  generalize num / den = quotient at *
  generalize num % den = rest at *
  obtain below | rfl | above : quotient + 2 ≤ k ∨ k = quotient + 1 ∨ k ≤ quotient := by omega
  · have far := Nat.mul_le_mul_right den below
    rw [Nat.add_mul] at far
    grind
  · rw [Nat.add_mul]
    grind
  · have far := Nat.mul_le_mul_right den above
    grind

namespace Binary64

/-! ## 2. Magnitudes -/

theorem limit_eq : limit = 2 ^ (1024 + scale) := by
  rw [limit, Nat.one_shiftLeft]

/-- The limit is a multiple of the distance between the largest doubles. -/
theorem limit_eq_mul : limit = 2 ^ 53 * 2 ^ (971 + scale) := by
  rw [limit_eq, ← Nat.pow_add]
  congr 1

theorem two_mul_overflow : 2 * overflow + 2 ^ (971 + scale) = 2 * limit := by
  have half : 2 * 1 <<< (970 + scale) = 2 ^ (971 + scale) := by
    rw [Nat.one_shiftLeft, ← Nat.pow_succ']
    congr 1
  have below : 2 ^ (971 + scale) ≤ limit := by
    rw [limit_eq_mul]
    exact Nat.le_mul_of_pos_left _ (Nat.two_pow_pos _)
  unfold overflow
  omega

theorem overflow_lt_limit : overflow < limit := by
  have middle := two_mul_overflow
  have positive : 0 < 2 ^ (971 + scale) := Nat.two_pow_pos _
  omega

/-- A power of two is a double as far as its digits go. -/
theorem fits_two_pow (k : Nat) : 1 <<< ((2 ^ k).log2 - 52) ∣ 2 ^ k := by
  rw [Nat.one_shiftLeft, Nat.log2_two_pow]
  exact Nat.pow_dvd_pow 2 (Nat.sub_le k 52)

theorem half_limit_le_overflow : 2 ^ (1023 + scale) ≤ overflow := by
  have middle := two_mul_overflow
  have halves : limit = 2 * 2 ^ (1023 + scale) := by
    rw [limit_eq, ← Nat.pow_succ']
    congr 1
  have grid : 2 ^ (971 + scale) ≤ 2 ^ (1023 + scale) := Nat.pow_le_pow_right (by decide) (by omega)
  omega

/-- A magnitude with the leading bit of the largest doubles is rounded to their grid. -/
theorem roundUnits_lt_limit_iff_of_leading {num den : Nat} (den_pos : 0 < den)
    (leading : (num / den).log2 = 1023 + scale) :
    roundUnits num den < limit ↔ num < overflow * den := by
  have drop : (num / den).log2 - 52 = 971 + scale := by
    rw [leading, Nat.add_comm, Nat.add_sub_assoc (by decide), Nat.add_comm]
  have middle := two_mul_overflow
  rw [roundUnits_eq, drop]
  rw [limit_eq_mul] at middle ⊢
  have positive : 0 < 2 ^ (971 + scale) := Nat.two_pow_pos _
  generalize 2 ^ (971 + scale) = grid at middle positive ⊢
  have even : 2 ^ 53 % 2 = 0 := by norm_num
  generalize 2 ^ 53 = most at middle even ⊢
  have scaled : 2 * (overflow * den) + den * grid = 2 * (most * (den * grid)) := by
    calc
      2 * (overflow * den) + den * grid = (2 * overflow + grid) * den := by ring
      _ = 2 * (most * (den * grid)) := by
        rw [middle]
        ring
  rw [Nat.mul_lt_mul_right positive, nearestEven_lt_iff (Nat.mul_pos den_pos positive) even,
    ← scaled]
  omega

/-- A magnitude rounds to a finite double if and only if it lies below the middle between the
largest one and the limit. -/
theorem roundUnits_lt_limit_iff {num den : Nat} (den_pos : 0 < den) :
    roundUnits num den < limit ↔ num < overflow * den := by
  rcases Nat.lt_or_ge (num / den) (2 ^ (1023 + scale)) with small | large
  · have below : num < 2 ^ (1023 + scale) * den := (Nat.div_lt_iff_lt_mul den_pos).1 small
    have rounded := roundUnits_le den_pos (fits_two_pow _) below.le
    have half := half_limit_le_overflow
    exact iff_of_true (rounded.trans_lt (half.trans_lt overflow_lt_limit))
      (below.trans_le (Nat.mul_le_mul_right den half))
  rcases Nat.lt_or_ge (num / den) limit with near | past
  · refine roundUnits_lt_limit_iff_of_leading den_pos ?_
    rw [limit_eq, show 1024 + scale = 1023 + scale + 1 from rfl] at near
    exact (Nat.log2_eq_iff (Nat.ne_of_gt ((Nat.two_pow_pos _).trans_le large))).2 ⟨large, near⟩
  · have above : limit * den ≤ num := (Nat.le_div_iff_mul_le den_pos).1 past
    have rounded : limit ≤ roundUnits num den := by
      rw [limit_eq] at above ⊢
      exact le_roundUnits den_pos (fits_two_pow _) above
    exact iff_of_false (Nat.not_lt.2 rounded)
      (Nat.not_lt.2 ((Nat.mul_le_mul_right den overflow_lt_limit.le).trans above))

/-! ## 3. Finite results -/

theorem isFinite_ofUnits_iff {neg : Bool} {num den : Nat} (den_pos : 0 < den) :
    (ofUnits neg num den).isFinite = true ↔ num < overflow * den := by
  rw [← roundUnits_lt_limit_iff den_pos, ofUnits]
  split
  case isTrue below => exact iff_of_true rfl below
  case isFalse past => exact iff_of_false Bool.false_ne_true past

theorem one_le_rangeEnd : 1 ≤ rangeEnd := by
  have top : (2 : ℚ) ^ 1024 = 2 ^ 54 * 2 ^ 970 := pow_add 2 54 970
  have half : (1 : ℚ) ≤ 2 ^ 970 := one_le_pow₀ one_le_two
  rw [rangeEnd, top]
  generalize (2 : ℚ) ^ 970 = unit at half ⊢
  linarith

theorem rangeEnd_le : rangeEnd ≤ 10 ^ 400 := by
  have sixteen : (2 : ℚ) ^ 16 ≤ 10 ^ 5 := by norm_num
  have half : (0 : ℚ) ≤ 2 ^ 970 := by positivity
  calc
    rangeEnd ≤ 2 ^ 1024 := sub_le_self _ half
    _ = (2 ^ 16) ^ 64 := pow_mul 2 16 64
    _ ≤ (10 ^ 5) ^ 64 := pow_le_pow_left₀ (by norm_num) sixteen 64
    _ = 10 ^ 320 := (pow_mul 10 5 64).symm
    _ ≤ 10 ^ 400 := pow_le_pow_right₀ (by norm_num) (by norm_num)

/-- The middle past the largest finite double, in units. -/
theorem overflow_eq : (overflow : ℚ) = rangeEnd * one := by
  have middle : (2 : ℚ) * overflow + 2 ^ (971 + scale) = 2 * 2 ^ (1024 + scale) := by
    have whole := two_mul_overflow
    rw [limit_eq] at whole
    exact_mod_cast whole
  have units : (one : ℚ) = 2 ^ scale := by
    rw [one, Nat.one_shiftLeft]
    exact Nat.cast_pow 2 scale
  have double : (2 : ℚ) ^ 971 = 2 * 2 ^ 970 := pow_succ' 2 970
  rw [pow_add, pow_add, double] at middle
  rw [rangeEnd, units]
  generalize (2 : ℚ) ^ scale = unit at middle ⊢
  generalize (2 : ℚ) ^ 1024 = top at middle ⊢
  generalize (2 : ℚ) ^ 970 = half at middle ⊢
  linarith

end Binary64

namespace Decimal

/-- A decimal number lies below the power of ten above its leading digit. -/
theorem value_lt (d : Decimal) : d.value < 10 ^ d.top := by
  have digits : d.digits < 10 ^ (digitChars d.digits).length :=
    (Nat.length_toDigits_le_iff (by decide) Nat.length_toDigits_pos).1 le_rfl
  rw [top, zpow_add₀ (by norm_num), zpow_natCast]
  exact mul_lt_mul_of_pos_right (by exact_mod_cast digits) (zpow_pos (by norm_num) _)

/-- A positive decimal number does not lie below the power of ten of its leading digit. -/
theorem le_value {d : Decimal} (positive : 0 < d.digits) : 10 ^ (d.top - 1) ≤ d.value := by
  have digits : 10 ^ ((digitChars d.digits).length - 1) ≤ d.digits := by
    rcases Nat.eq_zero_or_pos ((digitChars d.digits).length - 1) with single | several
    · rw [single, Nat.pow_zero]
      exact positive
    · by_contra fewer
      have short := (Nat.length_toDigits_le_iff (by decide) several).2 (Nat.not_le.1 fewer)
      rw [← digitChars] at short
      omega
  have some_digit : 0 < (digitChars d.digits).length := Nat.length_toDigits_pos
  have place : d.top - 1 = ((digitChars d.digits).length - 1 : Nat) + d.exponent := by
    unfold top
    omega
  rw [place, zpow_add₀ (by norm_num), zpow_natCast]
  exact mul_le_mul_of_nonneg_right (by exact_mod_cast digits) (zpow_pos (by norm_num) _).le

end Decimal

namespace Binary64

/-- A decimal number is read as a finite double if and only if it lies in the range. -/
theorem isFinite_ofDecimal_iff {neg : Bool} {d : Decimal} :
    (ofDecimal neg d).isFinite = true ↔ d.value < rangeEnd := by
  unfold ofDecimal
  split
  case isTrue small =>
    refine iff_of_true rfl ?_
    rw [Bool.or_eq_true, decide_eq_true_eq, decide_eq_true_eq] at small
    rcases small with zero | low
    · rw [Decimal.value, zero, Nat.cast_zero, zero_mul]
      exact zero_lt_one.trans_le one_le_rangeEnd
    · calc
        d.value < 10 ^ d.top := d.value_lt
        _ ≤ 1 := zpow_le_one_of_nonpos₀ (by norm_num) (by omega)
        _ ≤ rangeEnd := one_le_rangeEnd
  case isFalse not_small =>
    rw [Bool.or_eq_true, decide_eq_true_eq, decide_eq_true_eq, not_or] at not_small
    split
    case isTrue high =>
      refine iff_of_false Bool.false_ne_true (not_lt.2 ?_)
      calc
        rangeEnd ≤ 10 ^ 400 := rangeEnd_le
        _ = 10 ^ (400 : Int) := (zpow_natCast 10 400).symm
        _ ≤ 10 ^ (d.top - 1) := zpow_le_zpow_right₀ (by norm_num) (by omega)
        _ ≤ d.value := Decimal.le_value (Nat.pos_of_ne_zero not_small.1)
    case isFalse =>
      have unit : (0 : ℚ) < one := by exact_mod_cast one_pos
      have den : (0 : ℚ) < d.fraction.2 := by exact_mod_cast d.fraction_pos
      rw [isFinite_ofUnits_iff d.fraction_pos, ← mul_lt_mul_iff_left₀ unit, ← d.fraction_eq,
        ← overflow_eq, div_lt_iff₀ den]
      exact_mod_cast Iff.rfl

/-- Whole numbers of 64 bits are in the range. -/
theorem mul_one_lt_overflow {n : Nat} (small : n ≤ 2 ^ 64) : n * one < overflow := by
  calc
    n * one ≤ 2 ^ 64 * one := Nat.mul_le_mul_right one small
    _ = 2 ^ (64 + scale) := by rw [one, Nat.one_shiftLeft, ← Nat.pow_add]
    _ < 2 ^ (1023 + scale) := Nat.pow_lt_pow_right (by decide) (by omega)
    _ ≤ overflow := half_limit_le_overflow

theorem isFinite_ofInt {n : Int} (small : n.natAbs ≤ 2 ^ 64) : (ofInt n).isFinite = true := by
  rw [ofInt, isFinite_ofUnits_iff Nat.one_pos, Nat.mul_one]
  exact mul_one_lt_overflow small

end Binary64

/-- A finite double does not round to an infinity. -/
theorem Finite64.units_lt_overflow (x : Finite64) : x.units < Binary64.overflow := by
  have rounded : Binary64.roundUnits x.units 1 < Binary64.limit := by
    rw [Binary64.roundUnits_of_fits x.fits.2]
    exact x.fits.1
  have below := (Binary64.roundUnits_lt_limit_iff Nat.one_pos).1 rounded
  rwa [Nat.mul_one] at below

/-- Each number that reading a document can give is a finite double. -/
theorem Number.isFinite_toBinary64 {n : Number} (readable : n.isReadable = true) :
    n.toBinary64.isFinite = true := by
  cases n with
  | integer k =>
    simp only [isReadable, Bool.and_eq_true, decide_eq_true_eq] at readable
    exact Binary64.isFinite_ofInt (by omega)
  | double x => rfl

end HealthReport
