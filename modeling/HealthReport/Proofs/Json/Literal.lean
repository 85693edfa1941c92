import HealthReport.Json.Reader
import HealthReport.Proofs.Binary64.Shortest

/-!
# Number literals

Every number of a document is written as a literal of the grammar of JSON, and reading that literal
stops where it ends.

Results:
1. `literal_chars`: a well-formed literal is read back, whatever follows that cannot continue it.
2. `isWellFormed_literal`, `chars_literal`: numbers are written as well-formed literals.
3. `number_literal`: the literal of a 64-bit integer stands for that integer.
-/
namespace HealthReport

/-! ## Definitions -/

namespace Literal

/-- The point with the digits after it, if there are any. -/
def placesChars : List Char → List Char
  | [] => []
  | digit :: rest => '.' :: digit :: rest

/-- The exponent with its sign, if there is one. -/
def powerChars : Option (Bool × List Char) → List Char
  | none => []
  | some (down, digits) => 'e' :: (if down then '-' else '+') :: digits

/-- The literal as text. -/
def chars (l : Literal) : List Char :=
  Finite64.signChars l.neg ++ (l.whole ++ (placesChars l.places ++ powerChars l.power))

structure IsWellFormed (l : Literal) : Prop where
  leading : l.whole = ['0'] ∨ ∃ c rest, l.whole = c :: rest ∧ c ≠ '0'
  whole : ∀ c ∈ l.whole, c.isDigit
  places : ∀ c ∈ l.places, c.isDigit
  power : ∀ down digits, l.power = some (down, digits) → digits ≠ [] ∧ ∀ c ∈ digits, c.isDigit

end Literal

/-- No digit comes next. -/
def EndsDigits (rest : List Char) : Prop :=
  ∀ c ∈ rest.head?, ¬ c.isDigit

/-- Nothing comes next that could continue a number. -/
def EndsNumber (rest : List Char) : Prop :=
  ∀ c ∈ rest.head?, ¬ c.isDigit ∧ c ≠ '.' ∧ c ≠ 'e' ∧ c ≠ 'E'

/-- The literal for a double with these shortest digits. -/
def Literal.ofDecimal (neg : Bool) (d : Decimal) : Literal :=
  let chars := Decimal.digitChars d.digits
  let place := d.top - 1
  if -5 ≤ place ∧ place ≤ 15 then
    if 0 ≤ d.exponent then ⟨neg, chars ++ List.replicate d.exponent.toNat '0', ['0'], none⟩
    else
      let places := (-d.exponent).toNat
      if places < chars.length then
        ⟨neg, chars.take (chars.length - places), chars.drop (chars.length - places), none⟩
      else ⟨neg, ['0'], List.replicate (places - chars.length) '0' ++ chars, none⟩
  else ⟨neg, chars.take 1, chars.drop 1, some (place < 0, Decimal.digitChars place.natAbs)⟩

/-- The literal that a number is written as. -/
def Number.literal : Number → Literal
  | .integer n => ⟨n < 0, Decimal.digitChars n.natAbs, [], none⟩
  | .double x => .ofDecimal x.neg (x.shortest .even)

/-! ## 1. Reading a literal -/

namespace Reader

theorem takeWhile_digits {digits rest : List Char} (all : ∀ c ∈ digits, c.isDigit)
    (ends : EndsDigits rest) : (digits ++ rest).takeWhile Char.isDigit = digits := by
  rw [List.takeWhile_append_of_pos all]
  cases rest with
  | nil => rw [List.takeWhile_nil, List.append_nil]
  | cons c others =>
    have stop : ¬ c.isDigit := ends c rfl
    rw [List.takeWhile_cons_of_neg stop, List.append_nil]

theorem dropWhile_digits {digits rest : List Char} (all : ∀ c ∈ digits, c.isDigit)
    (ends : EndsDigits rest) : (digits ++ rest).dropWhile Char.isDigit = rest := by
  rw [List.dropWhile_append_of_pos all]
  cases rest with
  | nil => rfl
  | cons c others =>
    have stop : ¬ c.isDigit := ends c rfl
    rw [List.dropWhile_cons_of_neg stop]

theorem wholeDigits_append {whole rest : List Char}
    (leading : whole = ['0'] ∨ ∃ c others, whole = c :: others ∧ c ≠ '0')
    (all : ∀ c ∈ whole, c.isDigit) (ends : EndsDigits rest) :
    wholeDigits (whole ++ rest) = .ok (whole, rest) := by
  rcases leading with rfl | ⟨c, others, rfl, notZero⟩
  · cases rest with
    | nil => rfl
    | cons d others =>
      have stop : ¬ d.isDigit := ends d rfl
      simp [wholeDigits, stop]
  · have digit : c.isDigit := all c List.mem_cons_self
    have more : ∀ d ∈ others, d.isDigit := fun d member => all d (List.mem_cons_of_mem _ member)
    unfold wholeDigits
    simp only [List.cons_append]
    rw [if_neg notZero, if_pos digit, takeWhile_digits more ends, dropWhile_digits more ends]

theorem placeDigits_append {places rest : List Char} (all : ∀ c ∈ places, c.isDigit)
    (ends : EndsDigits rest) (noPoint : ∀ c ∈ rest.head?, c ≠ '.') :
    placeDigits (Literal.placesChars places ++ rest) = .ok (places, rest) := by
  cases places with
  | nil =>
    cases rest with
    | nil => rfl
    | cons c others =>
      have other : c ≠ '.' := noPoint c rfl
      rw [Literal.placesChars, List.nil_append, placeDigits]
      intro _ same
      exact other (List.cons.inj same).1
  | cons c others =>
    have digit : c.isDigit := all c List.mem_cons_self
    show (if c.isDigit then
        Except.ok ((c :: others ++ rest).takeWhile Char.isDigit,
          (c :: others ++ rest).dropWhile Char.isDigit)
      else fail .invalidNumber (c :: others ++ rest) 1) = _
    rw [if_pos digit, takeWhile_digits all ends, dropWhile_digits all ends]

theorem power_append {power? : Option (Bool × List Char)} {rest : List Char}
    (all : ∀ down digits, power? = some (down, digits) → digits ≠ [] ∧ ∀ c ∈ digits, c.isDigit)
    (ends : EndsNumber rest) :
    power (Literal.powerChars power? ++ rest) = .ok (power?, rest) := by
  cases power? with
  | none =>
    cases rest with
    | nil => rfl
    | cons c others =>
      obtain ⟨-, -, lower, upper⟩ := ends c rfl
      simp [Literal.powerChars, power, lower, upper]
  | some held =>
    obtain ⟨down, digits⟩ := held
    obtain ⟨nonempty, digit⟩ := all down digits rfl
    have stop : EndsDigits rest := fun c next => (ends c next).1
    have read := takeWhile_digits digit stop
    have left := dropWhile_digits digit stop
    cases digits with
    | nil => exact absurd rfl nonempty
    | cons c others =>
      have first : c.isDigit := digit c List.mem_cons_self
      rw [List.cons_append] at read left
      cases down <;> simp [Literal.powerChars, power, first, read, left]

/-- Reads a literal after its sign. -/
def unsigned (neg : Bool) (chars : List Char) : Except Fault (Found Literal) := do
  let (whole, rest) ← wholeDigits chars
  let (places, rest) ← placeDigits rest
  let (exponent, rest) ← power rest
  return (⟨neg, whole, places, exponent⟩, rest)

theorem literal_minus (rest : List Char) : literal ('-' :: rest) = unsigned true rest := rfl

theorem literal_of_head {chars : List Char} (plain : chars.head? ≠ some '-') :
    literal chars = unsigned false chars := by
  unfold literal
  split
  rename_i neg digits same
  split at same
  · exact absurd rfl plain
  · cases same
    rfl

/-- A well-formed literal is read back, whatever follows that cannot continue it. -/
theorem literal_chars {l : Literal} (wellFormed : l.IsWellFormed) {rest : List Char}
    (ends : EndsNumber rest) : literal (l.chars ++ rest) = .ok (l, rest) := by
  obtain ⟨neg, whole, places, power?⟩ := l
  obtain ⟨leading, digits, placeDigit, powerDigit⟩ := wellFormed
  -- What follows each part ends it: neither the point nor the letter of an exponent is a digit.
  have afterPlaces : ∀ c ∈ (Literal.powerChars power? ++ rest).head?, ¬ c.isDigit ∧ c ≠ '.' := by
    cases power? with
    | none => exact fun c next => ⟨(ends c next).1, (ends c next).2.1⟩
    | some held =>
      intro c next
      obtain rfl : 'e' = c := Option.some.inj next
      decide
  have afterWhole : EndsDigits
      (Literal.placesChars places ++ (Literal.powerChars power? ++ rest)) := by
    cases places with
    | nil => exact fun c next => (afterPlaces c next).1
    | cons d others =>
      intro c next
      obtain rfl : '.' = c := Option.some.inj next
      decide
  have before := wholeDigits_append leading digits afterWhole
  have fraction := placeDigits_append placeDigit (fun c next => (afterPlaces c next).1)
    fun c next => (afterPlaces c next).2
  have exponent := power_append powerDigit ends
  have parts : Literal.chars ⟨neg, whole, places, power?⟩ ++ rest = Finite64.signChars neg ++
      (whole ++ (Literal.placesChars places ++ (Literal.powerChars power? ++ rest))) := by
    simp [Literal.chars]
  have read : unsigned neg (whole ++ (Literal.placesChars places ++
      (Literal.powerChars power? ++ rest))) = .ok (⟨neg, whole, places, power?⟩, rest) := by
    rw [unsigned, before]
    simp only [bind, Except.bind, fraction, exponent]
    rfl
  rw [parts]
  cases neg with
  | true => exact (literal_minus _).trans read
  | false =>
    refine (literal_of_head ?_).trans read
    rcases leading with same | ⟨c, others, same, -⟩
    · simp only at same
      subst same
      simp [Finite64.signChars]
    · simp only at same
      subst same
      intro minus
      obtain rfl : c = '-' := Option.some.inj minus
      exact absurd (digits '-' List.mem_cons_self) (by decide)

end Reader

/-! ## 2. The literals of numbers -/

namespace Decimal

theorem isDigit_of_mem_digitChars {n : Nat} {c : Char} (member : c ∈ digitChars n) : c.isDigit :=
  Nat.isDigit_of_mem_toDigits (by decide) (by decide) member

theorem digitChars_ne_nil (n : Nat) : digitChars n ≠ [] := Nat.toDigits_ne_nil

theorem digitChar_ne_zero : ∀ n < 10, 0 < n → n.digitChar ≠ '0' := by decide

/-- The digits of a positive number do not begin with a zero. -/
theorem leading_digitChars {n : Nat} (positive : 0 < n) :
    ∃ c rest, digitChars n = c :: rest ∧ c ≠ '0' := by
  induction n using Nat.strongRecOn with
  | ind n ih =>
    by_cases small : n < 10
    · refine ⟨n.digitChar, [], Nat.toDigits_of_lt_base small, ?_⟩
      exact digitChar_ne_zero n small positive
    · -- All digits but the last are those of `n / 10`.
      obtain ⟨c, rest, digits, notZero⟩ := ih (n / 10) (by omega) (by omega)
      refine ⟨c, rest ++ [(n % 10).digitChar], ?_, notZero⟩
      unfold digitChars at digits ⊢
      rw [Nat.toDigits_of_base_le (by decide) (by omega), digits, List.cons_append]

theorem digitChars_leading (n : Nat) :
    digitChars n = ['0'] ∨ ∃ c rest, digitChars n = c :: rest ∧ c ≠ '0' := by
  rcases Nat.eq_zero_or_pos n with rfl | positive
  · exact .inl rfl
  · exact .inr (leading_digitChars positive)

theorem isDigit_of_mem_padded {n count : Nat} {c : Char}
    (member : c ∈ List.replicate count '0' ++ digitChars n) : c.isDigit := by
  rcases List.mem_append.1 member with zero | digit
  · rw [List.eq_of_mem_replicate zero]
    rfl
  · exact isDigit_of_mem_digitChars digit

end Decimal

namespace Literal

theorem isWellFormed_ofDecimal {neg : Bool} {d : Decimal} (shape : d = ⟨0, 0⟩ ∨ 0 < d.digits) :
    (ofDecimal neg d).IsWellFormed := by
  have digit : ∀ c ∈ Decimal.digitChars d.digits, c.isDigit :=
    fun c => Decimal.isDigit_of_mem_digitChars
  have noPower : ∀ down digits, (none : Option (Bool × List Char)) = some (down, digits) →
      digits ≠ [] ∧ ∀ c ∈ digits, c.isDigit := by
    intro down digits held
    cases held
  unfold ofDecimal
  simp only
  split
  · split
    · -- A whole number: its digits and the zeros after them stand before the point.
      refine ⟨?_, ?_, by simp, noPower⟩
      · rcases shape with rfl | positive
        · exact .inl rfl
        · obtain ⟨c, rest, same, notZero⟩ := Decimal.leading_digitChars positive
          exact .inr ⟨c, _, by rw [same, List.cons_append], notZero⟩
      · intro c member
        rcases List.mem_append.1 member with first | zero
        · exact digit c first
        · rw [List.eq_of_mem_replicate zero]
          rfl
    · rename_i fraction
      split
      · rename_i inside
        refine ⟨?_, fun c member => digit c (List.mem_of_mem_take member),
          fun c member => digit c (List.mem_of_mem_drop member), noPower⟩
        rcases shape with rfl | positive
        · exact absurd (Int.le_refl 0) fraction
        · obtain ⟨c, rest, same, notZero⟩ := Decimal.leading_digitChars positive
          obtain ⟨k, some_left⟩ := Nat.exists_eq_succ_of_ne_zero (Nat.sub_ne_zero_of_lt inside)
          exact .inr ⟨c, rest.take k, by rw [some_left, same, List.take_succ_cons], notZero⟩
      · exact ⟨.inl rfl, by simp, fun c => Decimal.isDigit_of_mem_padded, noPower⟩
  · refine ⟨?_, fun c member => digit c (List.mem_of_mem_take member),
      fun c member => digit c (List.mem_of_mem_drop member), ?_⟩
    · rcases Decimal.digitChars_leading d.digits with zero | ⟨c, rest, same, notZero⟩
      · exact .inl (by rw [zero]; rfl)
      · exact .inr ⟨c, [], by rw [same]; rfl, notZero⟩
    · intro down digits held
      cases held
      exact ⟨Decimal.digitChars_ne_nil _, fun c => Decimal.isDigit_of_mem_digitChars⟩

theorem placesChars_of_ne_nil {places : List Char} (nonempty : places ≠ []) :
    placesChars places = '.' :: places := by
  cases places with
  | nil => exact absurd rfl nonempty
  | cons digit rest => rfl

end Literal

namespace Number

theorem isWellFormed_literal (n : Number) : n.literal.IsWellFormed := by
  cases n with
  | integer k =>
    refine ⟨Decimal.digitChars_leading _, fun c => Decimal.isDigit_of_mem_digitChars, ?_, ?_⟩
    · intro c member
      cases member
    · intro down digits held
      cases held
  | double x => exact Literal.isWellFormed_ofDecimal (x.shortest_digits .even)

theorem chars_literal (n : Number) : n.literal.chars = n.chars := by
  cases n with
  | integer k => simp [literal, Literal.chars, chars, Literal.placesChars, Literal.powerChars]
  | double x =>
    unfold literal chars doubleChars Decimal.positional Literal.ofDecimal
    simp only [Bool.and_eq_true, decide_eq_true_eq]
    generalize x.shortest .even = d
    have nonempty := Decimal.digitChars_ne_nil d.digits
    by_cases range : -5 ≤ d.top - 1 ∧ d.top - 1 ≤ 15
    · rw [if_pos range, if_pos range]
      by_cases whole : 0 ≤ d.exponent
      · simp [Literal.chars, Literal.placesChars, Literal.powerChars, whole]
      · simp only [whole, if_false, List.append_nil]
        by_cases inside : (-d.exponent).toNat < (Decimal.digitChars d.digits).length
        · have left : (Decimal.digitChars d.digits).drop
              ((Decimal.digitChars d.digits).length - (-d.exponent).toNat) ≠ [] := by
            rw [ne_eq, List.drop_eq_nil_iff]
            omega
          simp only [inside, if_true, Literal.chars, Literal.placesChars_of_ne_nil left,
            Literal.powerChars, List.append_nil]
        · have left : List.replicate
              ((-d.exponent).toNat - (Decimal.digitChars d.digits).length) '0' ++
              Decimal.digitChars d.digits ≠ [] := by
            simp [nonempty]
          simp only [inside, if_false, Literal.chars, Literal.placesChars_of_ne_nil left,
            Literal.powerChars, List.append_nil]
          rfl
    · rw [if_neg range, if_neg range]
      cases digits : Decimal.digitChars d.digits with
      | nil => exact absurd digits nonempty
      | cons lead others =>
        cases others <;>
          simp [Literal.chars, Literal.placesChars, Literal.powerChars]

end Number

/-! ## 3. The values of literals -/

namespace Literal

theorem le_ofDigitChars (digits : List Char) (n : Nat) : n ≤ Nat.ofDigitChars 10 digits n := by
  induction digits generalizing n with
  | nil => exact Nat.le_refl n
  | cons c rest ih =>
    rw [Nat.ofDigitChars_cons]
    exact Nat.le_trans (by omega) (ih _)

/-- All digits are taken if the number stays below the bound. -/
theorem takeDigits_of_lt {bound : Nat} {digits : List Char} {n : Nat}
    (below : Nat.ofDigitChars 10 digits n < bound) :
    takeDigits bound n digits = (Nat.ofDigitChars 10 digits n, []) := by
  induction digits generalizing n with
  | nil => rfl
  | cons c rest ih =>
    rw [Nat.ofDigitChars_cons] at below ⊢
    have next : n * 10 + (c.toNat - '0'.toNat) < bound := by
      rw [Nat.mul_comm]
      exact Nat.lt_of_le_of_lt (le_ofDigitChars rest _) below
    rw [takeDigits]
    simp only [next, if_true]
    rw [Nat.mul_comm n 10]
    exact ih below

theorem takeDigits_digitChars {bound n : Nat} (below : n < bound) :
    takeDigits bound 0 (Decimal.digitChars n) = (n, []) := by
  have value : Nat.ofDigitChars 10 (Decimal.digitChars n) 0 = n := Nat.ofDigitChars_ten_toDigits
  have all := @takeDigits_of_lt bound (Decimal.digitChars n) 0 (by rw [value]; exact below)
  rw [all, value]

/-- An integer of 64 bits keeps its value when it is written and read back. -/
theorem number_literal {n : Int} (readable : (Number.integer n).isReadable) :
    (Number.integer n).literal.number? = some (.integer n) := by
  simp only [Number.isReadable, Bool.and_eq_true, decide_eq_true_eq] at readable
  have digits := @takeDigits_digitChars 0x10000000000000000 n.natAbs (by omega)
  have value : integer? (decide (n < 0)) n.natAbs = some (.integer n) := by
    unfold integer?
    by_cases neg : n < 0
    · have range : (decide (0 < n.natAbs) && decide (n.natAbs ≤ 0x8000000000000000)) = true := by
        rw [Bool.and_eq_true, decide_eq_true_eq, decide_eq_true_eq]
        omega
      have same : -(n.natAbs : Int) = n := by omega
      rw [if_pos (decide_eq_true neg), if_pos range, same]
    · have same : (n.natAbs : Int) = n := by omega
      rw [if_neg (by simpa using neg), if_pos (show n.natAbs < 0x10000000000000000 by omega), same]
  simp only [Number.literal, number?, significand, isInteger, digits, takeDigits, List.isEmpty_nil,
    Option.isNone_none, Bool.and_self, if_true]
  exact value

end Literal

end HealthReport
