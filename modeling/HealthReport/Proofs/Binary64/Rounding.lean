import HealthReport.Json.Number
import Mathlib.Algebra.Order.Field.Rat
import Mathlib.Data.Int.Cast.Lemmas
import Mathlib.Tactic.Linarith
import Mathlib.Tactic.NormNum
import Mathlib.Tactic.Ring

/-!
# Rounding keeps order

Rounding to 53 bits never carries a number past one that is a double already, so comparing a number
of a document with a small whole number gives the same answer before and after rounding.

Results:
1. `le_roundUnits`, `roundUnits_le`: rounding stays on its side of every double.
2. `toBinary64_less_ofInt`, `ofInt_less_toBinary64`, `toBinary64_equal_ofInt`: the comparisons of
   doubles with small whole numbers are those of exact values.
-/
namespace HealthReport

/-- The exact value of a number of a document. -/
def Number.value : Number → ℚ
  | .integer n => n
  | .double x => x.signed / (Binary64.one : ℤ)

/-! ## 1. Rounding -/

theorem le_nearestEven {k num den : Nat} (den_pos : 0 < den) (h : k * den ≤ num) :
    k ≤ nearestEven num den := by
  have below : k ≤ num / den := (Nat.le_div_iff_mul_le den_pos).2 h
  unfold nearestEven
  grind

theorem nearestEven_le_of_le {k num den : Nat} (den_pos : 0 < den) (h : num ≤ k * den) :
    nearestEven num den ≤ k := by
  rcases Nat.eq_zero_or_pos (num % den) with whole | fraction
  · have quotient : num / den ≤ k := Nat.div_le_of_le_mul (by rwa [Nat.mul_comm])
    unfold nearestEven
    simp only [whole, Nat.mul_zero, den_pos, if_true]
    exact quotient
  · have split := Nat.div_add_mod num den
    have below : den * (num / den) < den * k := by
      rw [Nat.mul_comm den k]
      omega
    have quotient : num / den < k := Nat.lt_of_mul_lt_mul_left below
    exact (nearestEven_le num den).trans quotient

namespace Binary64

theorem one_pos : 0 < one := by
  rw [one, Nat.one_shiftLeft]
  exact Nat.two_pow_pos _

theorem mul_one_eq (n : Nat) : n * one = n <<< scale := by
  rw [one, Nat.one_shiftLeft, Nat.shiftLeft_eq]

theorem roundUnits_eq (num den : Nat) :
    roundUnits num den = nearestEven num (den * 2 ^ ((num / den).log2 - 52)) *
      2 ^ ((num / den).log2 - 52) := by
  rw [roundUnits, Nat.shiftLeft_eq, Nat.shiftLeft_eq]

/-- Rounding to a grid does not go below a point of the grid that lies below. -/
theorem le_nearestEven_mul {point num den drop : Nat} (den_pos : 0 < den)
    (onGrid : 2 ^ drop ∣ point) (h : point * den ≤ num) :
    point ≤ nearestEven num (den * 2 ^ drop) * 2 ^ drop := by
  obtain ⟨k, rfl⟩ := onGrid
  rw [Nat.mul_comm (2 ^ drop) k] at h ⊢
  refine Nat.mul_le_mul_right _ (le_nearestEven (Nat.mul_pos den_pos (Nat.two_pow_pos drop)) ?_)
  calc
    k * (den * 2 ^ drop) = k * 2 ^ drop * den := by ring
    _ ≤ num := h

theorem nearestEven_mul_le {point num den drop : Nat} (den_pos : 0 < den)
    (onGrid : 2 ^ drop ∣ point) (h : num ≤ point * den) :
    nearestEven num (den * 2 ^ drop) * 2 ^ drop ≤ point := by
  obtain ⟨k, rfl⟩ := onGrid
  rw [Nat.mul_comm (2 ^ drop) k] at h ⊢
  refine Nat.mul_le_mul_right _
    (nearestEven_le_of_le (Nat.mul_pos den_pos (Nat.two_pow_pos drop)) ?_)
  calc
    num ≤ k * 2 ^ drop * den := h
    _ = k * (den * 2 ^ drop) := by ring

/-- A number that is a double or lies above one does not round below it. -/
theorem le_roundUnits {units num den : Nat} (den_pos : 0 < den)
    (fits : 1 <<< (units.log2 - 52) ∣ units) (h : units * den ≤ num) :
    units ≤ roundUnits num den := by
  have below : units ≤ num / den := (Nat.le_div_iff_mul_le den_pos).2 h
  rw [Nat.one_shiftLeft] at fits
  rw [roundUnits_eq]
  by_cases sameGrid : (num / den).log2 - 52 ≤ units.log2 - 52
  · exact le_nearestEven_mul den_pos ((Nat.pow_dvd_pow 2 sameGrid).trans fits) h
  · -- The double has a smaller leading bit, so that bit of the quotient stands between them.
    have quotient_ne : num / den ≠ 0 := by
      intro zero
      simp [zero] at sameGrid
    have leading : 2 ^ (num / den).log2 ≤ num / den := Nat.log2_self_le quotient_ne
    have smaller : units ≤ 2 ^ (num / den).log2 :=
      (Nat.lt_log2_self (n := units)).le.trans (Nat.pow_le_pow_right (by decide) (by omega))
    refine smaller.trans (le_nearestEven_mul den_pos (Nat.pow_dvd_pow 2 (by omega)) ?_)
    exact (Nat.le_div_iff_mul_le den_pos).1 leading

/-- A number that is a double or lies below one does not round above it. -/
theorem roundUnits_le {units num den : Nat} (den_pos : 0 < den)
    (fits : 1 <<< (units.log2 - 52) ∣ units) (h : num ≤ units * den) :
    roundUnits num den ≤ units := by
  have above : num / den ≤ units := Nat.div_le_of_le_mul (by rwa [Nat.mul_comm])
  have grid : (num / den).log2 - 52 ≤ units.log2 - 52 := by
    refine Nat.sub_le_sub_right ?_ 52
    rcases Nat.eq_zero_or_pos (num / den) with zero | quotient_pos
    · simp [zero]
    · rw [Nat.le_log2 (by omega)]
      exact (Nat.log2_self_le quotient_pos.ne').trans above
  rw [Nat.one_shiftLeft] at fits
  rw [roundUnits_eq]
  exact nearestEven_mul_le den_pos ((Nat.pow_dvd_pow 2 grid).trans fits) h

/-- A magnitude that is a double already stays as it is. -/
theorem roundUnits_of_fits {units : Nat} (fits : 1 <<< (units.log2 - 52) ∣ units) :
    roundUnits units 1 = units :=
  Nat.le_antisymm (roundUnits_le Nat.one_pos fits (by rw [Nat.mul_one]))
    (le_roundUnits Nat.one_pos fits (by rw [Nat.mul_one]))

/-! ## 2. Whole numbers as doubles -/

theorem less_finite {x y : Finite64} :
    (Binary64.finite x).less (.finite y) = true ↔ x.signed < y.signed := by
  simp [less]

theorem equal_finite {x y : Finite64} :
    (Binary64.finite x).equal (.finite y) = true ↔ x.signed = y.signed := by
  simp [equal]

/-- Whole numbers up to here are doubles. -/
def wholeLimit : Nat := 2 ^ 53

theorem fits_mul_one {n : Nat} (small : n ≤ wholeLimit) :
    1 <<< ((n * one).log2 - 52) ∣ n * one := by
  rw [mul_one_eq]
  exact shiftLeft_dvd_shiftLeft (by rwa [Nat.one_shiftLeft])

/-- A small whole number is a double as it stands. -/
theorem ofInt_of_small {n : Int} (small : n.natAbs ≤ wholeLimit) :
    ∃ x : Finite64, ofInt n = .finite x ∧ x.signed = n * one := by
  have fits := fits_mul_one small
  have exact := roundUnits_of_fits fits
  have bounded : n.natAbs * one < limit := by
    calc
      n.natAbs * one ≤ 2 ^ 53 * one := Nat.mul_le_mul_right _ small
      _ < limit := by
        rw [one, limit, Nat.one_shiftLeft, Nat.one_shiftLeft, ← Nat.pow_add]
        exact Nat.pow_lt_pow_right (by decide) (by decide)
  refine ⟨⟨n < 0, n.natAbs * one, bounded, fits⟩, ?_, ?_⟩
  · simp [ofInt, ofUnits, exact, bounded]
  · simp only [Finite64.signed, decide_eq_true_eq, Nat.cast_mul]
    split
    · rw [← Int.neg_mul]
      congr 1
      omega
    · congr 1
      omega

/-- What lies above a small whole number lies above every smaller one. -/
theorem ofInt_less_of_le {m n : Int} (small_m : m.natAbs ≤ wholeLimit)
    (small_n : n.natAbs ≤ wholeLimit) (at_most : m ≤ n) {x : Binary64}
    (above : (ofInt n).less x = true) : (ofInt m).less x = true := by
  obtain ⟨low, exact_low, signed_low⟩ := ofInt_of_small small_m
  obtain ⟨high, exact_high, signed_high⟩ := ofInt_of_small small_n
  rw [exact_high] at above
  rw [exact_low]
  cases x with
  | finite y =>
    rw [less_finite] at above ⊢
    have ordered : low.signed ≤ high.signed := by
      rw [signed_low, signed_high]
      exact Int.mul_le_mul_of_nonneg_right at_most (Int.natCast_nonneg one)
    exact lt_of_le_of_lt ordered above
  | infinite _ => exact above
  | nan => cases above

theorem ofInt_zero : ofInt 0 = .finite (Finite64.zero false) := by
  have rounded : roundUnits 0 1 = 0 := by decide
  have bounded : roundUnits 0 1 < limit := by
    rw [rounded, limit, Nat.one_shiftLeft]
    exact Nat.two_pow_pos _
  rw [ofInt, ofUnits, Int.natAbs_zero, Nat.zero_mul, dif_pos bounded]
  simp only [rounded]
  rfl

/-- A large whole number stays large as a double. -/
theorem ofInt_of_large {n : Int} (large : wholeLimit ≤ n.natAbs) :
    ofInt n = .infinite (n < 0) ∨
      ∃ x : Finite64, ofInt n = .finite x ∧ x.neg = decide (n < 0) ∧
        wholeLimit * one ≤ x.units := by
  have far : wholeLimit * one ≤ roundUnits (n.natAbs * one) 1 :=
    le_roundUnits Nat.one_pos (fits_mul_one (Nat.le_refl _))
      (by rw [Nat.mul_one]; exact Nat.mul_le_mul_right _ large)
  by_cases bounded : roundUnits (n.natAbs * one) 1 < limit
  · exact .inr ⟨⟨n < 0, roundUnits (n.natAbs * one) 1, bounded, shiftLeft_dvd_roundUnits _ 1⟩,
      by simp [ofInt, ofUnits, bounded], rfl, far⟩
  · exact .inl (by simp [ofInt, ofUnits, bounded])

/-- Against a small number, only the sign of a large whole number counts. -/
theorem compare_ofInt_of_large {n : Int} (large : wholeLimit ≤ n.natAbs) {y : Finite64}
    (small : y.signed.natAbs < wholeLimit * one) :
    ((ofInt n).less (.finite y) = true ↔ n < 0) ∧
      ((Binary64.finite y).less (ofInt n) = true ↔ 0 < n) ∧
      (ofInt n).equal (.finite y) = false := by
  have nonzero : n ≠ 0 := by
    rintro rfl
    exact absurd large (by decide)
  rcases ofInt_of_large large with infinite | ⟨x, finite, sign, far⟩
  · rw [infinite]
    refine ⟨by simp [less], ?_, rfl⟩
    simp only [less, Bool.not_eq_true', decide_eq_false_iff_not]
    omega
  · rw [finite]
    have signed : x.signed = if n < 0 then -(x.units : Int) else x.units := by
      simp [Finite64.signed, sign]
    simp only [less, equal, decide_eq_true_eq, beq_eq_false_iff_ne, signed]
    generalize wholeLimit * one = bound at small far
    split <;> omega

end Binary64

namespace Number

theorem integer_value (n : Int) : (integer n).value = n := rfl

theorem double_value_lt_iff {x : Finite64} {n : Int} :
    (double x).value < n ↔ x.signed < n * Binary64.one := by
  have pos : (0 : ℚ) < (Binary64.one : ℤ) := by exact_mod_cast Binary64.one_pos
  rw [value, div_lt_iff₀ pos]
  exact_mod_cast Iff.rfl

theorem lt_double_value_iff {x : Finite64} {n : Int} :
    n < (double x).value ↔ n * Binary64.one < x.signed := by
  have pos : (0 : ℚ) < (Binary64.one : ℤ) := by exact_mod_cast Binary64.one_pos
  rw [value, lt_div_iff₀ pos]
  exact_mod_cast Iff.rfl

theorem double_value_eq_iff {x : Finite64} {n : Int} :
    (double x).value = n ↔ x.signed = n * Binary64.one := by
  have pos : (0 : ℚ) < (Binary64.one : ℤ) := by exact_mod_cast Binary64.one_pos
  rw [value, div_eq_iff pos.ne']
  exact_mod_cast Iff.rfl

/-- The distance of a whole number from zero, in units. -/
theorem natAbs_mul_one_lt {n : Int} (small : n.natAbs < Binary64.wholeLimit) :
    (n * (Binary64.one : Int)).natAbs < Binary64.wholeLimit * Binary64.one := by
  rw [Int.natAbs_mul, Int.natAbs_natCast]
  exact Nat.mul_lt_mul_of_pos_right small Binary64.one_pos

theorem mul_one_lt_mul_one {m n : Int} : m * Binary64.one < n * Binary64.one ↔ m < n :=
  Int.mul_lt_mul_right (by exact_mod_cast Binary64.one_pos)

theorem mul_one_inj {m n : Int} : m * Binary64.one = n * Binary64.one ↔ m = n :=
  Int.mul_eq_mul_right_iff (by exact_mod_cast Binary64.one_pos.ne')

/-- A large whole number lies on the same side of all small ones. -/
theorem sides_of_large {bound : Nat} {k n : Int} (small : n.natAbs < bound)
    (large : bound ≤ k.natAbs) : (k < 0 ↔ k < n) ∧ (0 < k ↔ n < k) ∧ k ≠ n := by
  omega

/-- Whether a number lies below a small whole number can be asked of its double. -/
theorem toBinary64_less_ofInt {m : Number} {n : Int} (small : n.natAbs < Binary64.wholeLimit) :
    m.toBinary64.less (Binary64.ofInt n) = true ↔ m.value < n := by
  obtain ⟨y, exact_y, signed_y⟩ := Binary64.ofInt_of_small small.le
  rw [exact_y]
  cases m with
  | double x => rw [toBinary64, Binary64.less_finite, signed_y, double_value_lt_iff]
  | integer k =>
    rw [toBinary64, integer_value, Int.cast_lt]
    rcases Nat.le_total k.natAbs Binary64.wholeLimit with near | large
    · obtain ⟨x, exact_x, signed_x⟩ := Binary64.ofInt_of_small near
      rw [exact_x, Binary64.less_finite, signed_x, signed_y, mul_one_lt_mul_one]
    · have sides := Binary64.compare_ofInt_of_large large
        (by rw [signed_y]; exact natAbs_mul_one_lt small)
      rw [sides.1]
      exact (sides_of_large small large).1

/-- Whether a number lies above a small whole number can be asked of its double. -/
theorem ofInt_less_toBinary64 {m : Number} {n : Int} (small : n.natAbs < Binary64.wholeLimit) :
    (Binary64.ofInt n).less m.toBinary64 = true ↔ n < m.value := by
  obtain ⟨y, exact_y, signed_y⟩ := Binary64.ofInt_of_small small.le
  rw [exact_y]
  cases m with
  | double x => rw [toBinary64, Binary64.less_finite, signed_y, lt_double_value_iff]
  | integer k =>
    rw [toBinary64, integer_value, Int.cast_lt]
    rcases Nat.le_total k.natAbs Binary64.wholeLimit with near | large
    · obtain ⟨x, exact_x, signed_x⟩ := Binary64.ofInt_of_small near
      rw [exact_x, Binary64.less_finite, signed_x, signed_y, mul_one_lt_mul_one]
    · have sides := Binary64.compare_ofInt_of_large large
        (by rw [signed_y]; exact natAbs_mul_one_lt small)
      rw [sides.2.1]
      exact (sides_of_large small large).2.1

/-- Whether a number equals a small whole number can be asked of its double. -/
theorem toBinary64_equal_ofInt {m : Number} {n : Int} (small : n.natAbs < Binary64.wholeLimit) :
    m.toBinary64.equal (Binary64.ofInt n) = true ↔ m.value = n := by
  obtain ⟨y, exact_y, signed_y⟩ := Binary64.ofInt_of_small small.le
  rw [exact_y]
  cases m with
  | double x => rw [toBinary64, Binary64.equal_finite, signed_y, double_value_eq_iff]
  | integer k =>
    rw [toBinary64, integer_value, Int.cast_inj]
    rcases Nat.le_total k.natAbs Binary64.wholeLimit with near | large
    · obtain ⟨x, exact_x, signed_x⟩ := Binary64.ofInt_of_small near
      rw [exact_x, Binary64.equal_finite, signed_x, signed_y, mul_one_inj]
    · have sides := Binary64.compare_ofInt_of_large large
        (by rw [signed_y]; exact natAbs_mul_one_lt small)
      rw [sides.2.2]
      exact iff_of_false Bool.false_ne_true (sides_of_large small large).2.2

end Number

end HealthReport
