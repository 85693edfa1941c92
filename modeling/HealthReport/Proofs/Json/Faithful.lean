import HealthReport.Proofs.Binary64.Shortest
import HealthReport.Proofs.Json.RoundTrip

/-!
# The text of a value tells the value

Two values have one text only if they are equal, doubles with their signs included. Equality of
documents is a little coarser: it takes the two zeros for one number, and that is the only
difference.

Results:
1. `value_decimal_ofDecimal`: the literal of a double has the value of its shortest digits.
2. `literal_injective`: a number is told by its literal.
3. `text_injective`: a value is told by its text.
4. `same_iff`: documents are the same if they are equal once all their zeros are unsigned.
-/
namespace HealthReport

/-! ## Definitions -/

namespace Literal

/-- The exponent as written; none stands for zero. -/
def exponent (l : Literal) : Int :=
  match l.power with
  | none => 0
  | some (down, digits) =>
    let n : Int := Nat.ofDigitChars 10 digits 0
    if down then -n else n

/-- The magnitude that a literal spells. -/
def decimal (l : Literal) : Decimal :=
  ⟨Nat.ofDigitChars 10 (l.whole ++ l.places) 0, l.exponent - l.places.length⟩

end Literal

def Number.unsignZeros : Number → Number
  | .integer n => .integer n
  | .double x => .double (if x.units = 0 then Finite64.zero false else x)

namespace Json

mutual
/-- The value with no sign on any zero within. -/
def unsignZeros : Json → Json
  | .null => .null
  | .bool b => .bool b
  | .number n => .number n.unsignZeros
  | .string s => .string s
  | .array items => .array (allUnsignZeros items)
  | .object members => .object (membersUnsignZeros members)

def allUnsignZeros : List Json → List Json
  | [] => []
  | item :: rest => unsignZeros item :: allUnsignZeros rest

def membersUnsignZeros : List (String × Json) → List (String × Json)
  | [] => []
  | (name, value) :: rest => (name, unsignZeros value) :: membersUnsignZeros rest
end

end Json

/-! ## 1. The literals of doubles -/

namespace Decimal

theorem ofDigitChars_digitChars (n : Nat) : Nat.ofDigitChars 10 (digitChars n) 0 = n :=
  Nat.ofDigitChars_ten_toDigits

theorem ofDigitChars_zeros_append (count : Nat) (chars : List Char) :
    Nat.ofDigitChars 10 (List.replicate count '0' ++ chars) 0 = Nat.ofDigitChars 10 chars 0 := by
  rw [Nat.ofDigitChars_append, Nat.ofDigitChars_replicate_zero, Nat.mul_zero]

theorem ofDigitChars_append_zeros (count : Nat) (chars : List Char) :
    Nat.ofDigitChars 10 (chars ++ List.replicate count '0') 0 =
      10 ^ count * Nat.ofDigitChars 10 chars 0 := by
  rw [Nat.ofDigitChars_append, Nat.ofDigitChars_replicate_zero]

/-- Zeros at the end of the digits are made up for by the exponent. -/
theorem value_padded (d : Decimal) (count : Nat) :
    value ⟨10 ^ count * d.digits, d.exponent - count⟩ = d.value := by
  have ten : (10 : ℚ) ≠ 0 := by norm_num
  unfold value
  rw [zpow_sub₀ ten, zpow_natCast]
  push_cast
  field_simp

end Decimal

namespace Literal

theorem neg_ofDecimal (neg : Bool) (d : Decimal) : (ofDecimal neg d).neg = neg := by
  unfold ofDecimal
  simp only
  repeat' split
  all_goals rfl

/-- The literal of a double has a point or an exponent. -/
theorem fractional_ofDecimal (neg : Bool) (d : Decimal) :
    (ofDecimal neg d).places ≠ [] ∨ (ofDecimal neg d).power ≠ none := by
  have nonempty := Decimal.digitChars_ne_nil d.digits
  unfold ofDecimal
  simp only
  split
  · left
    split
    · simp
    · split
      · rw [ne_eq, List.drop_eq_nil_iff]
        omega
      · simp [nonempty]
  · right
    simp

/-- The literal of a double has the value of its shortest digits. -/
theorem value_decimal_ofDecimal (neg : Bool) (d : Decimal) :
    (ofDecimal neg d).decimal.value = d.value := by
  have digits := Decimal.ofDigitChars_digitChars d.digits
  have some_digit : 0 < (Decimal.digitChars d.digits).length :=
    List.length_pos_of_ne_nil (Decimal.digitChars_ne_nil d.digits)
  unfold ofDecimal
  simp only
  split
  · split
    case isTrue whole =>
      -- A whole number: the zeros before the point and the one after it pad its digits.
      have zeros : ∀ count : Nat, List.replicate count '0' ++ ['0'] =
          List.replicate (count + 1) '0' := by
        intro count
        rw [List.replicate_succ']
      rw [← d.value_padded (d.exponent.toNat + 1)]
      simp only [decimal, exponent, List.append_assoc, zeros, Decimal.ofDigitChars_append_zeros,
        digits, List.length_singleton]
      congr 2
      omega
    case isFalse fraction =>
      split
      case isTrue inside =>
        simp only [decimal, exponent, List.take_append_drop, digits, List.length_drop]
        congr 2
        omega
      case isFalse beyond =>
        simp only [decimal, exponent, List.length_append, List.length_replicate]
        rw [show ['0'] = List.replicate 1 '0' from rfl, Decimal.ofDigitChars_zeros_append,
          Decimal.ofDigitChars_zeros_append, digits]
        congr 2
        omega
  · simp only [decimal, exponent, List.take_append_drop, digits, List.length_drop,
      Decimal.ofDigitChars_digitChars, decide_eq_true_eq]
    have place : (if d.top - 1 < 0 then -((d.top - 1).natAbs : Int) else (d.top - 1).natAbs) =
        d.top - 1 := by
      split <;> omega
    rw [place]
    congr 2
    unfold Decimal.top
    omega

end Literal

/-! ## 2. Numbers -/

namespace Number

/-- A number is told by its literal. -/
theorem literal_injective : Function.Injective Number.literal := by
  intro m n same
  cases m with
  | integer k =>
    cases n with
    | integer l =>
      rw [literal, literal, Literal.mk.injEq] at same
      obtain ⟨sign, digits, -, -⟩ := same
      have magnitude : k.natAbs = l.natAbs := by
        rw [← Decimal.ofDigitChars_digitChars k.natAbs, digits, Decimal.ofDigitChars_digitChars]
      rw [decide_eq_decide] at sign
      congr 1
      omega
    | double y =>
      rcases Literal.fractional_ofDecimal y.neg (y.shortest .even) with places | power
      · exact absurd (congrArg Literal.places same).symm places
      · exact absurd (congrArg Literal.power same).symm power
  | double x =>
    cases n with
    | integer l =>
      rcases Literal.fractional_ofDecimal x.neg (x.shortest .even) with places | power
      · exact absurd (congrArg Literal.places same) places
      · exact absurd (congrArg Literal.power same) power
    | double y =>
      rw [literal, literal] at same
      have sign : x.neg = y.neg := by
        rw [← Literal.neg_ofDecimal x.neg (x.shortest .even), same, Literal.neg_ofDecimal]
      have value : (x.shortest .even).value = (y.shortest .even).value := by
        rw [← Literal.value_decimal_ofDecimal x.neg, same, Literal.value_decimal_ofDecimal]
      have units : x.units = y.units := by
        rw [← x.units_shortest .even, Decimal.units_eq_of_value_eq value, y.units_shortest]
      obtain ⟨_, _, _⟩ := x
      obtain ⟨_, _, _⟩ := y
      obtain rfl := sign
      obtain rfl := units
      rfl

end Number

/-! ## 3. Values -/

namespace Written

mutual
theorem ofJson_inj : ∀ {a b : Json}, ofJson a = ofJson b → a = b
  | .null, b, same => by
    cases b with
    | null => rfl
    | bool _ | number _ | string _ | array _ | object _ => cases same
  | .bool _, b, same => by
    cases b with
    | bool _ =>
      cases same
      rfl
    | null | number _ | string _ | array _ | object _ => cases same
  | .number m, b, same => by
    cases b with
    | number n =>
      rw [ofJson, ofJson, Written.number.injEq] at same
      rw [Number.literal_injective same]
    | null | bool _ | string _ | array _ | object _ => cases same
  | .string _, b, same => by
    cases b with
    | string _ =>
      cases same
      rfl
    | null | bool _ | number _ | array _ | object _ => cases same
  | .array as, b, same => by
    cases b with
    | array bs =>
      rw [ofJson, ofJson, Written.array.injEq] at same
      rw [ofItems_inj same]
    | null | bool _ | number _ | string _ | object _ => cases same
  | .object as, b, same => by
    cases b with
    | object bs =>
      rw [ofJson, ofJson, Written.object.injEq] at same
      rw [ofMembers_inj same]
    | null | bool _ | number _ | string _ | array _ => cases same

theorem ofItems_inj : ∀ {as bs : List Json}, ofItems as = ofItems bs → as = bs
  | [], bs, same => by
    cases bs with
    | nil => rfl
    | cons _ _ => cases same
  | a :: as, bs, same => by
    cases bs with
    | nil => cases same
    | cons b bs =>
      rw [ofItems, ofItems, List.cons.injEq] at same
      rw [ofJson_inj same.1, ofItems_inj same.2]

theorem ofMembers_inj : ∀ {as bs : List (String × Json)}, ofMembers as = ofMembers bs → as = bs
  | [], bs, same => by
    cases bs with
    | nil => rfl
    | cons head _ => cases same
  | (name, a) :: as, bs, same => by
    cases bs with
    | nil => cases same
    | cons head bs =>
      obtain ⟨other, b⟩ := head
      rw [ofMembers, ofMembers, List.cons.injEq, Prod.mk.injEq, Option.some.injEq] at same
      rw [same.1.1, ofJson_inj same.1.2, ofMembers_inj same.2]
end

end Written

namespace Json

/-- A value is told by its text. -/
theorem text_injective : Function.Injective text := by
  intro a b same
  have read := Reader.document_text_unchecked a
  rw [same, Reader.document_text_unchecked b] at read
  exact Written.ofJson_inj (Except.ok.inj read).symm

/-! ## 4. Documents that are the same -/

end Json

theorem Finite64.signed_eq_iff {x y : Finite64} :
    x.signed = y.signed ↔ x.units = 0 ∧ y.units = 0 ∨ x = y := by
  obtain ⟨neg, units, fits⟩ := x
  obtain ⟨neg', units', fits'⟩ := y
  rw [Finite64.mk.injEq, signed, signed]
  cases neg <;> cases neg' <;> simp <;> omega

/-- Numbers are the same if they are equal, or doubles that are both zero. -/
theorem Number.same_iff {m n : Number} : m.same n = true ↔ m.unsignZeros = n.unsignZeros := by
  cases m with
  | integer k => cases n <;> simp [same, unsignZeros]
  | double x =>
    cases n with
    | integer _ => simp [same, unsignZeros]
    | double y =>
      rw [same, beq_iff_eq, Finite64.signed_eq_iff, unsignZeros, unsignZeros, Number.double.injEq]
      constructor
      · rintro (⟨zero, zero'⟩ | rfl)
        · rw [if_pos zero, if_pos zero']
        · rfl
      · intro unsigned
        by_cases zero : x.units = 0 <;> by_cases zero' : y.units = 0
        · exact .inl ⟨zero, zero'⟩
        · rw [if_pos zero, if_neg zero'] at unsigned
          exact absurd (congrArg Finite64.units unsigned).symm zero'
        · rw [if_neg zero, if_pos zero'] at unsigned
          exact absurd (congrArg Finite64.units unsigned) zero
        · rw [if_neg zero, if_neg zero'] at unsigned
          exact .inr unsigned

namespace Json

mutual
theorem same_iff : ∀ {a b : Json}, a.same b = true ↔ a.unsignZeros = b.unsignZeros
  | .null, b => by cases b <;> simp [same, unsignZeros]
  | .bool _, b => by cases b <;> simp [same, unsignZeros]
  | .number _, b => by cases b <;> simp [same, unsignZeros, Number.same_iff]
  | .string _, b => by cases b <;> simp [same, unsignZeros]
  | .array as, b => by cases b <;> simp [same, unsignZeros, @allSame_iff as]
  | .object as, b => by cases b <;> simp [same, unsignZeros, @membersSame_iff as]

theorem allSame_iff : ∀ {as bs : List Json},
    allSame as bs = true ↔ allUnsignZeros as = allUnsignZeros bs
  | [], bs => by cases bs <;> simp [allSame, allUnsignZeros]
  | a :: as, bs => by
    cases bs with
    | nil => simp [allSame, allUnsignZeros]
    | cons b bs => simp [allSame, allUnsignZeros, @same_iff a, @allSame_iff as]

theorem membersSame_iff : ∀ {as bs : List (String × Json)},
    membersSame as bs = true ↔ membersUnsignZeros as = membersUnsignZeros bs
  | [], bs => by cases bs <;> simp [membersSame, membersUnsignZeros]
  | (_, a) :: as, bs => by
    cases bs with
    | nil => simp [membersSame, membersUnsignZeros]
    | cons head bs =>
      simp [membersSame, membersUnsignZeros, @same_iff a, @membersSame_iff as, and_assoc]
end

end Json

end HealthReport
