/-!
Double precision numbers, exactly. A finite double is a sign and a whole number of the least
positive double, 2⁻¹⁰⁷⁴, so comparison is comparison of integers and every operation is one exact
integer computation followed by one rounding to nearest, a half going to the even neighbour.
-/
namespace HealthReport

/-- The nearest whole number to `num / den`, a half going to the even neighbour. -/
def nearestEven (num den : Nat) : Nat :=
  let quotient := num / den
  let twice := 2 * (num % den)
  if twice < den then quotient
  else if den < twice then quotient + 1
  else quotient + quotient % 2

theorem nearestEven_le (num den : Nat) : nearestEven num den ≤ num / den + 1 := by
  unfold nearestEven
  have := Nat.mod_lt (num / den) (by decide : 0 < 2)
  grind

namespace Binary64

/-- The least positive double is 2 to the power of minus `scale`. -/
def scale : Nat := 1074

/-- How many of the least positive double make one. -/
def one : Nat := 1 <<< scale

/-- Where the finite doubles end: 2¹⁰²⁴, in units. -/
def limit : Nat := 1 <<< (1024 + scale)

/-- `units` has at most 53 significant bits and lies below the limit. -/
def Fits (units : Nat) : Prop :=
  units < limit ∧ 1 <<< (units.log2 - 52) ∣ units

instance (units : Nat) : Decidable (Fits units) := inferInstanceAs (Decidable (_ ∧ _))

/-- `num / den` rounded to 53 significant bits. -/
def roundUnits (num den : Nat) : Nat :=
  let drop := (num / den).log2 - 52
  nearestEven num (den <<< drop) <<< drop

theorem shiftLeft_dvd_shiftLeft {r k : Nat} (h : r ≤ 1 <<< 53) :
    1 <<< ((r <<< k).log2 - 52) ∣ r <<< k := by
  rw [Nat.one_shiftLeft] at h ⊢
  rw [Nat.shiftLeft_eq]
  by_cases zero : r = 0
  · simp [zero]
  by_cases full : r = 2 ^ 53
  · subst full
    rw [← Nat.pow_add, Nat.log2_two_pow]
    exact Nat.pow_dvd_pow 2 (by omega)
  · have positive : r * 2 ^ k ≠ 0 :=
      Nat.ne_of_gt (Nat.mul_pos (Nat.pos_of_ne_zero zero) (Nat.two_pow_pos k))
    have small : r * 2 ^ k < 2 ^ (53 + k) := by
      rw [Nat.pow_add]
      exact Nat.mul_lt_mul_of_pos_right (by omega) (Nat.two_pow_pos k)
    have bound : (r * 2 ^ k).log2 < 53 + k := (Nat.log2_lt positive).2 small
    exact Nat.dvd_trans (Nat.pow_dvd_pow 2 (by omega)) (Nat.dvd_mul_left _ r)

theorem shiftLeft_dvd_roundUnits (num den : Nat) :
    1 <<< ((roundUnits num den).log2 - 52) ∣ roundUnits num den := by
  apply shiftLeft_dvd_shiftLeft
  refine Nat.le_trans (nearestEven_le _ _) ?_
  rw [Nat.one_shiftLeft, Nat.shiftLeft_eq, ← Nat.div_div_eq_div_mul]
  have below : num / den < 2 ^ ((num / den).log2 - 52) * 2 ^ 53 := by
    rw [← Nat.pow_add]
    exact Nat.lt_of_lt_of_le Nat.lt_log2_self (Nat.pow_le_pow_right (by decide) (by omega))
  exact Nat.div_lt_of_lt_mul below

end Binary64

/-- A finite double: a sign, which zero has too, and a magnitude in units of 2⁻¹⁰⁷⁴. -/
structure Finite64 where
  neg : Bool
  units : Nat
  fits : Binary64.Fits units
deriving DecidableEq

/-- The value in units of 2⁻¹⁰⁷⁴; both zeros are 0. -/
def Finite64.signed (x : Finite64) : Int :=
  if x.neg then -x.units else x.units

theorem Binary64.fits_zero : Binary64.Fits 0 := by
  refine ⟨?_, Nat.dvd_zero _⟩
  rw [limit, Nat.one_shiftLeft]
  exact Nat.two_pow_pos _

def Finite64.zero (neg : Bool) : Finite64 := ⟨neg, 0, Binary64.fits_zero⟩

/-- A double: finite, an infinity or no number. -/
inductive Binary64 where
  | finite (x : Finite64)
  | infinite (neg : Bool)
  | nan
deriving DecidableEq

namespace Binary64

/-- The double nearest to `num / den` units, an infinity where that lies past the finite ones. -/
def ofUnits (neg : Bool) (num den : Nat) : Binary64 :=
  if h : roundUnits num den < limit then
    .finite ⟨neg, roundUnits num den, h, shiftLeft_dvd_roundUnits num den⟩
  else .infinite neg

/-- The double nearest to a whole number. -/
def ofInt (n : Int) : Binary64 :=
  ofUnits (n < 0) (n.natAbs * one) 1

def isFinite : Binary64 → Bool
  | .finite _ => true
  | _ => false

/-- Numeric equality: the two zeros are equal, and `nan` equals nothing. -/
def equal : Binary64 → Binary64 → Bool
  | .finite x, .finite y => x.signed == y.signed
  | .infinite a, .infinite b => a == b
  | _, _ => false

/-- Numeric order; nothing compares with `nan`. -/
def less : Binary64 → Binary64 → Bool
  | .finite x, .finite y => x.signed < y.signed
  | .finite _, .infinite neg => !neg
  | .infinite neg, .finite _ => neg
  | .infinite a, .infinite b => a && !b
  | _, _ => false

/-- A difference of zero is negative only for negative zero less positive zero. -/
def sub : Binary64 → Binary64 → Binary64
  | .finite x, .finite y =>
    let difference := x.signed - y.signed
    let neg := if difference = 0 then x.neg && !y.neg else difference < 0
    ofUnits neg difference.natAbs 1
  | .finite _, .infinite neg => .infinite (!neg)
  | .infinite neg, .finite _ => .infinite neg
  | .infinite a, .infinite b => if a = b then .nan else .infinite a
  | _, _ => .nan

/-- Zero times an infinity is no number. -/
def mul : Binary64 → Binary64 → Binary64
  | .finite x, .finite y => ofUnits (x.neg != y.neg) (x.units * y.units) one
  | .finite x, .infinite neg => if x.units = 0 then .nan else .infinite (x.neg != neg)
  | .infinite neg, .finite y => if y.units = 0 then .nan else .infinite (neg != y.neg)
  | .infinite a, .infinite b => .infinite (a != b)
  | _, _ => .nan

/-- Division of a nonzero number by zero is infinite; zero by zero and infinity by infinity are no
numbers. -/
def div : Binary64 → Binary64 → Binary64
  | .finite x, .finite y =>
    if y.units = 0 then (if x.units = 0 then .nan else .infinite (x.neg != y.neg))
    else ofUnits (x.neg != y.neg) (x.units * one) y.units
  | .finite x, .infinite neg => .finite (Finite64.zero (x.neg != neg))
  | .infinite neg, .finite y => .infinite (neg != y.neg)
  | _, _ => .nan

end Binary64

end HealthReport
