import HealthReport.Proofs.Binary64.Rounding
import Mathlib.Tactic.FieldSimp

/-!
# Decimal numbers and the doubles they round to

What a decimal number rounds to hangs on its value alone, not on how its digits and its exponent
share it. The shortest digits of a double always round to that double, so they tell it.

Results:
1. `roundUnits_congr`: equal fractions round alike.
2. `units_eq_of_value_eq`: equal decimal numbers round alike.
3. `units_shortest`: the shortest digits of a double read back as the double.
-/
namespace HealthReport

/-- The exact value of a decimal number. -/
def Decimal.value (d : Decimal) : ℚ := d.digits * 10 ^ d.exponent

/-! ## 1. Fractions -/

theorem nearestEven_mul_mul {num den k : Nat} (positive : 0 < k) :
    nearestEven (num * k) (den * k) = nearestEven num den := by
  unfold nearestEven
  simp only [Nat.mul_div_mul_right num den positive, Nat.mul_mod_mul_right, ← Nat.mul_assoc,
    Nat.mul_lt_mul_right positive]

namespace Binary64

theorem roundUnits_mul_mul {num den k : Nat} (positive : 0 < k) :
    roundUnits (num * k) (den * k) = roundUnits num den := by
  rw [roundUnits_eq, roundUnits_eq, Nat.mul_div_mul_right num den positive,
    Nat.mul_right_comm den k, nearestEven_mul_mul positive]

/-- Equal fractions round alike. -/
theorem roundUnits_congr {num den num' den' : Nat} (den_pos : 0 < den) (den_pos' : 0 < den')
    (same : num * den' = num' * den) : roundUnits num den = roundUnits num' den' := by
  calc
    roundUnits num den = roundUnits (num * den') (den * den') := (roundUnits_mul_mul den_pos').symm
    _ = roundUnits (num' * den) (den' * den) := by rw [same, Nat.mul_comm den den']
    _ = roundUnits num' den' := roundUnits_mul_mul den_pos

end Binary64

/-! ## 2. Decimal numbers -/

namespace Decimal

theorem fraction_pos (d : Decimal) : 0 < d.fraction.2 := by
  unfold fraction
  split
  · exact Nat.one_pos
  · exact Nat.pow_pos (by decide)

/-- The fraction of a decimal number is its value in units. -/
theorem fraction_eq (d : Decimal) :
    (d.fraction.1 : ℚ) / d.fraction.2 = d.value * Binary64.one := by
  obtain ⟨digits, exponent⟩ := d
  unfold fraction value
  by_cases whole : 0 ≤ exponent
  · obtain ⟨n, rfl⟩ := Int.eq_ofNat_of_zero_le whole
    simp [Nat.pow_eq]
  · obtain ⟨n, rfl⟩ : ∃ n : Nat, exponent = -n := ⟨(-exponent).toNat, by omega⟩
    simp only [whole, if_false, Int.neg_neg, Int.toNat_natCast, Nat.pow_eq, zpow_neg, zpow_natCast]
    push_cast
    ring

/-- Equal decimal numbers round alike. -/
theorem units_eq_of_value_eq {d e : Decimal} (same : d.value = e.value) : d.units = e.units := by
  have fractions : (d.fraction.1 : ℚ) / d.fraction.2 = e.fraction.1 / e.fraction.2 := by
    rw [fraction_eq, fraction_eq, same]
  rw [div_eq_div_iff (by exact_mod_cast d.fraction_pos.ne') (by exact_mod_cast e.fraction_pos.ne')]
    at fractions
  exact Binary64.roundUnits_congr d.fraction_pos e.fraction_pos (by exact_mod_cast fractions)

theorem units_zero : (⟨0, 0⟩ : Decimal).units = 0 := by
  simp [units, fraction, Binary64.roundUnits, nearestEven]

theorem digits_pos_of_units {d : Decimal} (nonzero : d.units ≠ 0) : 0 < d.digits := by
  rw [Nat.pos_iff_ne_zero]
  intro zero
  apply nonzero
  have value : d.value = (⟨0, 0⟩ : Decimal).value := by simp [Decimal.value, zero]
  rw [units_eq_of_value_eq value]
  exact units_zero

end Decimal

/-! ## 3. The shortest digits -/

namespace Finite64

theorem units_of_onGrid? {tie : Tie} {units : Nat} {exponent : Int} {d : Decimal}
    (hit : onGrid? tie units exponent = some d) : d.units = units := by
  unfold onGrid? at hit
  have reads := List.find?_some hit
  exact beq_iff_eq.1 reads

/-- With all its digits a magnitude is exact. -/
theorem value_exactly (units : Nat) : (exactly units).value * Binary64.one = units := by
  unfold Decimal.value exactly
  rw [Binary64.one, Nat.one_shiftLeft, Nat.pow_eq]
  -- The power of five and that of two make the power of ten, whatever the scale is.
  generalize Binary64.scale = k
  have tens : (5 : ℚ) ^ k * 2 ^ k = 10 ^ k := by
    rw [← mul_pow]
    norm_num
  rw [zpow_neg, zpow_natCast, ← tens]
  push_cast
  field_simp

theorem units_exactly (x : Finite64) : (exactly x.units).units = x.units := by
  have den_pos := (exactly x.units).fraction_pos
  have fraction := (exactly x.units).fraction_eq
  rw [value_exactly, div_eq_iff (by exact_mod_cast den_pos.ne')] at fraction
  calc
    (exactly x.units).units = Binary64.roundUnits x.units 1 :=
      Binary64.roundUnits_congr den_pos Nat.one_pos (by rw [Nat.mul_one]; exact_mod_cast fraction)
    _ = x.units := Binary64.roundUnits_of_fits x.fits.2

/-- The shortest digits of a double read back as the double. -/
theorem units_shortest (x : Finite64) (tie : Tie) : (x.shortest tie).units = x.units := by
  unfold shortest
  split
  case isTrue zero =>
    rw [zero]
    exact Decimal.units_zero
  case isFalse =>
    simp only
    cases found : (List.range 17).findSome? fun (n : Nat) =>
        onGrid? tie x.units (leadingPlace x.units - n) with
    | none => exact x.units_exactly
    | some d =>
      obtain ⟨_, n, _, _, hit, _⟩ := List.findSome?_eq_some_iff.1 found
      exact units_of_onGrid? hit

/-- The shortest digits are those of zero, or they do not stand for zero. -/
theorem shortest_digits (x : Finite64) (tie : Tie) :
    x.shortest tie = ⟨0, 0⟩ ∨ 0 < (x.shortest tie).digits := by
  by_cases zero : x.units = 0
  · exact .inl (by rw [shortest, if_pos zero])
  · exact .inr (Decimal.digits_pos_of_units (by rwa [units_shortest]))

end Finite64

end HealthReport
