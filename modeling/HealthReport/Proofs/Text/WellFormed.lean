import HealthReport.Proofs.Text.AsciiCase
import HealthReport.Text.Utf8
import Mathlib.Tactic.SplitIfs

/-!
# Bytes that are text

Bytes that read as a text are the bytes of this text and of no other: overlong forms, surrogates and
numbers past the last character are ill formed. So a text that was read from bytes stands for them.

Results:
1. `second_of_range`: what is known of a lead byte and the byte after it.
2. `encodeChar_twoBytes` and its companions: a character is written with the bytes it was read from.
3. `decode?_eq_some_iff`: bytes read as a text just when they are the bytes of this text.
-/
namespace HealthReport.Utf8

/-! ## 1. Lead bytes -/

/-- What is known of a lead byte that begins a character of several bytes, and of the byte after it:
after four of the lead bytes its range is narrow, for the number to be that of a character of this
length. -/
structure SecondOf (a b : UInt8) : Prop where
  lead_low : 0xC2 ≤ a.toNat
  lead_high : a.toNat < 0xF5
  low : 0x80 ≤ b.toNat
  high : b.toNat ≤ 0xBF
  not_twoBytes : a.toNat = 0xE0 → 0xA0 ≤ b.toNat
  not_surrogate : a.toNat = 0xED → b.toNat ≤ 0x9F
  not_threeBytes : a.toNat = 0xF0 → 0x90 ≤ b.toNat
  not_past_last : a.toNat = 0xF4 → b.toNat ≤ 0x8F

theorem second_of_range {a b low high : UInt8} (range : secondRange a = some (low, high))
    (within : (low ≤ b && b ≤ high) = true) : SecondOf a b := by
  rw [Bool.and_eq_true, decide_eq_true_eq, decide_eq_true_eq, UInt8.le_iff_toNat_le,
    UInt8.le_iff_toNat_le] at within
  simp only [secondRange, UInt8.lt_iff_toNat_lt, ← UInt8.toNat_inj, UInt8.reduceToNat] at range
  -- One case for each kind of lead byte, each with its own range for the byte after it.
  split_ifs at range <;> simp only [Option.some.injEq, Prod.mk.injEq] at range <;>
    obtain ⟨rfl, rfl⟩ := range <;> simp only [UInt8.reduceToNat] at within <;>
    constructor <;> omega

theorem isTail_iff {b : UInt8} : isTail b = true ↔ 0x80 ≤ b.toNat ∧ b.toNat ≤ 0xBF := by
  simp only [isTail, Bool.and_eq_true, decide_eq_true_eq, UInt8.le_iff_toNat_le, UInt8.reduceToNat]

/-! ## 2. Characters -/

section

variable {a b c d : UInt8}

theorem encodeChar_oneByte (small : a.toNat < 0x80) : encodeChar (Char.ofNat a.toNat) = [a] := by
  have valid : a.toNat.isValidChar := .inl (by omega)
  rw [encodeChar, Case.toNat_ofNat_of_valid valid]
  simp only [small, if_true, UInt8.ofNat_toNat]

/-- A byte is told by its number. -/
theorem ofNat_eq_of_toNat {n : Nat} (same : n = a.toNat) : UInt8.ofNat n = a := by
  rw [same, UInt8.ofNat_toNat]

theorem encodeChar_twoBytes (second : SecondOf a b) (short : a.toNat < 0xE0) :
    encodeChar (twoBytes a b) = [a, b] := by
  obtain ⟨low, -, low_b, high_b, -, -, -, -⟩ := second
  rw [twoBytes]
  generalize number : a.toNat % 0x20 * 0x40 + b.toNat % 0x40 = n
  have valid : n.isValidChar := .inl (by omega)
  have several : ¬ n < 0x80 := by omega
  have two : n < 0x800 := by omega
  rw [encodeChar, Case.toNat_ofNat_of_valid valid]
  simp only [several, two, if_true, if_false]
  rw [ofNat_eq_of_toNat (a := a) (by omega), ofNat_eq_of_toNat (a := b) (by omega)]

theorem encodeChar_threeBytes (second : SecondOf a b) (long : 0xE0 ≤ a.toNat)
    (short : a.toNat < 0xF0) (tail : 0x80 ≤ c.toNat ∧ c.toNat ≤ 0xBF) :
    encodeChar (threeBytes a b c) = [a, b, c] := by
  obtain ⟨-, -, low_b, high_b, not_twoBytes, not_surrogate, -, -⟩ := second
  rw [threeBytes]
  generalize number : (a.toNat % 0x10 * 0x40 + b.toNat % 0x40) * 0x40 + c.toNat % 0x40 = n
  have several : ¬ n < 0x800 := by omega
  have three : n < 0x10000 := by omega
  have valid : n.isValidChar := by
    unfold Nat.isValidChar
    omega
  have two : ¬ n < 0x80 := by omega
  rw [encodeChar, Case.toNat_ofNat_of_valid valid]
  simp only [several, two, three, if_true, if_false]
  rw [ofNat_eq_of_toNat (a := a) (by omega), ofNat_eq_of_toNat (a := b) (by omega),
    ofNat_eq_of_toNat (a := c) (by omega)]

theorem encodeChar_fourBytes (second : SecondOf a b) (long : 0xF0 ≤ a.toNat)
    (third : 0x80 ≤ c.toNat ∧ c.toNat ≤ 0xBF) (tail : 0x80 ≤ d.toNat ∧ d.toNat ≤ 0xBF) :
    encodeChar (fourBytes a b c d) = [a, b, c, d] := by
  obtain ⟨-, high, low_b, high_b, -, -, not_threeBytes, not_past_last⟩ := second
  rw [fourBytes]
  generalize number : ((a.toNat % 0x08 * 0x40 + b.toNat % 0x40) * 0x40 + c.toNat % 0x40) * 0x40 +
    d.toNat % 0x40 = n
  have several : ¬ n < 0x10000 := by omega
  have valid : n.isValidChar := .inr (by omega)
  have two : ¬ n < 0x80 := by omega
  have three : ¬ n < 0x800 := by omega
  rw [encodeChar, Case.toNat_ofNat_of_valid valid]
  simp only [several, two, three, if_false]
  rw [ofNat_eq_of_toNat (a := a) (by omega), ofNat_eq_of_toNat (a := b) (by omega),
    ofNat_eq_of_toNat (a := c) (by omega), ofNat_eq_of_toNat (a := d) (by omega)]

end

/-! ## 3. Texts -/

theorem mapM_id_eq_some_iff {α : Type} {parts : List (Option α)} {found : List α} :
    parts.mapM id = some found ↔ parts = found.map some := by
  induction parts generalizing found with
  | nil => cases found <;> simp
  | cons first rest ih =>
    cases found <;> cases first <;> simp [Option.bind_eq_some_iff, ih, and_comm]

theorem none_cons_ne_map_some {parts : List (Option Char)} {chars : List Char} :
    none :: parts ≠ chars.map some := by
  intro whole
  cases chars <;> cases whole

/-- The first character has the bytes that it was read from, and those of the others follow. -/
theorem flatMap_encodeChar_of_cons {c : Char} {parts : List (Option Char)} {used rest : Bytes}
    {chars : List Char} (written : encodeChar c = used)
    (later : ∀ {others : List Char}, parts = others.map some → others.flatMap encodeChar = rest)
    (whole : some c :: parts = chars.map some) : chars.flatMap encodeChar = used ++ rest := by
  cases chars with
  | nil => cases whole
  | cons first others =>
    obtain ⟨same, tail⟩ := List.cons.inj whole
    rw [List.flatMap_cons, ← Option.some.inj same, written, later tail]

/-- A cut without ill-formed parts has the bytes of its characters. -/
theorem flatMap_encodeChar_of_scan {bytes : Bytes} {chars : List Char}
    (cut : scan bytes = chars.map some) : chars.flatMap encodeChar = bytes := by
  fun_induction scan bytes generalizing chars with
  | case1 => rw [List.map_eq_nil_iff.1 cut.symm, List.flatMap_nil]
  | case2 a rest small ih => exact flatMap_encodeChar_of_cons (encodeChar_oneByte small) ih cut
  | case5 a several low high range b rest within short ih =>
    have written := encodeChar_twoBytes (second_of_range range within) short
    exact flatMap_encodeChar_of_cons written ih cut
  | case7 a several low high range b within long c rest tail short ih =>
    have written := encodeChar_threeBytes (second_of_range range within) (Nat.le_of_not_lt long)
      short (isTail_iff.1 tail)
    exact flatMap_encodeChar_of_cons written ih cut
  | case9 a several low high range b within long c third longer d rest tail ih =>
    have written := encodeChar_fourBytes (second_of_range range within) (Nat.le_of_not_lt longer)
      (isTail_iff.1 third) (isTail_iff.1 tail)
    exact flatMap_encodeChar_of_cons written ih cut
  | case3 | case4 | case6 | case8 | case10 | case11 | case12 =>
    exact absurd cut none_cons_ne_map_some

/-- Bytes read as a text just when they are the bytes of this text. -/
theorem decode?_eq_some_iff {bytes : Bytes} {text : String} :
    decode? bytes = some text ↔ bytes = encode text := by
  constructor
  · intro read
    obtain ⟨chars, cut, rfl⟩ := Option.map_eq_some_iff.1 read
    rw [encode, String.toList_ofList, flatMap_encodeChar_of_scan (mapM_id_eq_some_iff.1 cut)]
  · rintro rfl
    exact decode?_encode text

end HealthReport.Utf8
