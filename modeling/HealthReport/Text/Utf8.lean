/-!
Text as bytes. `Utf8.scan` cuts a byte sequence into the characters it spells and the ill-formed
parts between them; reading strictly and reading with replacement are two views of that one cut.
An ill-formed part is the longest run that could still begin a character, or a single byte.
-/
namespace HealthReport

/-- Bytes as they come from a file, an argument or an environment variable. -/
abbrev Bytes := List UInt8

namespace Utf8

/-- A byte that continues a character begun earlier. -/
def isTail (b : UInt8) : Bool := 0x80 ≤ b && b ≤ 0xBF

/-- The bytes that may follow `lead` at once, or `none` where `lead` begins no character of several
bytes. The narrow ranges exclude overlong forms, surrogates and numbers past the last character. -/
def secondRange (lead : UInt8) : Option (UInt8 × UInt8) :=
  if lead < 0xC2 then none
  else if lead = 0xE0 then some (0xA0, 0xBF)
  else if lead = 0xED then some (0x80, 0x9F)
  else if lead < 0xF0 then some (0x80, 0xBF)
  else if lead = 0xF0 then some (0x90, 0xBF)
  else if lead < 0xF4 then some (0x80, 0xBF)
  else if lead = 0xF4 then some (0x80, 0x8F)
  else none

def twoBytes (a b : UInt8) : Char :=
  Char.ofNat ((a.toNat % 0x20) * 0x40 + b.toNat % 0x40)

def threeBytes (a b c : UInt8) : Char :=
  Char.ofNat (((a.toNat % 0x10) * 0x40 + b.toNat % 0x40) * 0x40 + c.toNat % 0x40)

def fourBytes (a b c d : UInt8) : Char :=
  Char.ofNat ((((a.toNat % 0x08) * 0x40 + b.toNat % 0x40) * 0x40 + c.toNat % 0x40) * 0x40
    + d.toNat % 0x40)

/-- The characters of a byte sequence in order, with `none` for each ill-formed part. -/
def scan : Bytes → List (Option Char)
  | [] => []
  | a :: afterA =>
    if a < 0x80 then some (Char.ofNat a.toNat) :: scan afterA
    else match secondRange a with
      | none => none :: scan afterA
      | some (low, high) =>
        match afterA with
        | [] => [none]
        | b :: afterB =>
          if low ≤ b && b ≤ high then
            if a < 0xE0 then some (twoBytes a b) :: scan afterB
            else match afterB with
              | [] => [none]
              | c :: afterC =>
                if isTail c then
                  if a < 0xF0 then some (threeBytes a b c) :: scan afterC
                  else match afterC with
                    | [] => [none]
                    | d :: afterD =>
                      if isTail d then some (fourBytes a b c d) :: scan afterD
                      else none :: scan (d :: afterD)
                else none :: scan (c :: afterC)
          else none :: scan (b :: afterB)

/-- The text of a byte sequence, if every part of it is well formed. -/
def decode? (bytes : Bytes) : Option String :=
  (scan bytes).mapM id |>.map String.ofList

/-- The text of a byte sequence with U+FFFD in place of each ill-formed part. -/
def decodeLossy (bytes : Bytes) : String :=
  String.ofList ((scan bytes).map (·.getD '\uFFFD'))

/-- The bytes of one character. -/
def encodeChar (c : Char) : Bytes :=
  let n := c.toNat
  if n < 0x80 then [UInt8.ofNat n]
  else if n < 0x800 then [UInt8.ofNat (0xC0 + n / 0x40), UInt8.ofNat (0x80 + n % 0x40)]
  else if n < 0x10000 then
    [UInt8.ofNat (0xE0 + n / 0x1000), UInt8.ofNat (0x80 + n / 0x40 % 0x40),
      UInt8.ofNat (0x80 + n % 0x40)]
  else
    [UInt8.ofNat (0xF0 + n / 0x40000), UInt8.ofNat (0x80 + n / 0x1000 % 0x40),
      UInt8.ofNat (0x80 + n / 0x40 % 0x40), UInt8.ofNat (0x80 + n % 0x40)]

/-- The bytes of a text. -/
def encode (text : String) : Bytes := text.toList.flatMap encodeChar

theorem toNat_ofNat_of_lt {n : Nat} (h : n < 256) : (UInt8.ofNat n).toNat = n := by
  simp [UInt8.toNat_ofNat', Nat.mod_eq_of_lt h]

theorem scan_one {a : UInt8} (h : a.toNat < 0x80) (rest : Bytes) :
    scan (a :: rest) = some (Char.ofNat a.toNat) :: scan rest := by
  have low : a < 0x80 := h
  rw [scan]
  simp [low]

theorem scan_two {a b : UInt8} (low : 0xC2 ≤ a.toNat) (high : a.toNat < 0xE0)
    (tail : 0x80 ≤ b.toNat ∧ b.toNat ≤ 0xBF) (rest : Bytes) :
    scan (a :: b :: rest) = some (twoBytes a b) :: scan rest := by
  have range : secondRange a = some (0x80, 0xBF) := by
    simp only [secondRange, UInt8.lt_iff_toNat_lt, ← UInt8.toNat_inj, UInt8.reduceToNat]
    grind
  have several : ¬ a < 0x80 := by
    simp only [UInt8.lt_iff_toNat_lt, UInt8.reduceToNat]
    omega
  have within : (0x80 : UInt8) ≤ b && b ≤ 0xBF := by
    simpa only [Bool.and_eq_true, decide_eq_true_eq, UInt8.le_iff_toNat_le, UInt8.reduceToNat]
      using tail
  have short : a < 0xE0 := high
  rw [scan]
  simp only [several, if_false, range, within, if_true, short]

theorem scan_three {a b c : UInt8} (low : 0xE0 ≤ a.toNat) (high : a.toNat < 0xF0)
    (second : (a.toNat = 0xE0 → 0xA0 ≤ b.toNat) ∧ (a.toNat = 0xED → b.toNat ≤ 0x9F) ∧
      0x80 ≤ b.toNat ∧ b.toNat ≤ 0xBF)
    (tail : 0x80 ≤ c.toNat ∧ c.toNat ≤ 0xBF) (rest : Bytes) :
    scan (a :: b :: c :: rest) = some (threeBytes a b c) :: scan rest := by
  have several : ¬ a < 0x80 := by
    simp only [UInt8.lt_iff_toNat_lt, UInt8.reduceToNat]
    omega
  have long : ¬ a < 0xE0 := by
    simp only [UInt8.lt_iff_toNat_lt, UInt8.reduceToNat]
    omega
  have short : a < 0xF0 := high
  have isTailC : isTail c := by
    simpa only [isTail, Bool.and_eq_true, decide_eq_true_eq, UInt8.le_iff_toNat_le,
      UInt8.reduceToNat] using tail
  obtain ⟨first, last, range, within⟩ : ∃ first last, secondRange a = some (first, last) ∧
      (first ≤ b && b ≤ last) = true := by
    simp only [secondRange, UInt8.lt_iff_toNat_lt, UInt8.le_iff_toNat_le, ← UInt8.toNat_inj,
      UInt8.reduceToNat, Bool.and_eq_true, decide_eq_true_eq]
    by_cases narrowLow : a.toNat = 0xE0
    · exact ⟨0xA0, 0xBF, by grind, second.1 narrowLow, second.2.2.2⟩
    by_cases narrowHigh : a.toNat = 0xED
    · exact ⟨0x80, 0x9F, by grind, second.2.2.1, second.2.1 narrowHigh⟩
    · exact ⟨0x80, 0xBF, by grind, second.2.2.1, second.2.2.2⟩
  rw [scan]
  simp only [several, if_false, range, within, if_true, long, isTailC, short]

theorem scan_four {a b c d : UInt8} (low : 0xF0 ≤ a.toNat) (high : a.toNat < 0xF5)
    (second : (a.toNat = 0xF0 → 0x90 ≤ b.toNat) ∧ (a.toNat = 0xF4 → b.toNat ≤ 0x8F) ∧
      0x80 ≤ b.toNat ∧ b.toNat ≤ 0xBF)
    (third : 0x80 ≤ c.toNat ∧ c.toNat ≤ 0xBF) (tail : 0x80 ≤ d.toNat ∧ d.toNat ≤ 0xBF)
    (rest : Bytes) :
    scan (a :: b :: c :: d :: rest) = some (fourBytes a b c d) :: scan rest := by
  have several : ¬ a < 0x80 := by
    simp only [UInt8.lt_iff_toNat_lt, UInt8.reduceToNat]
    omega
  have long : ¬ a < 0xE0 := by
    simp only [UInt8.lt_iff_toNat_lt, UInt8.reduceToNat]
    omega
  have longer : ¬ a < 0xF0 := by
    simp only [UInt8.lt_iff_toNat_lt, UInt8.reduceToNat]
    omega
  have isTailC : isTail c := by
    simpa only [isTail, Bool.and_eq_true, decide_eq_true_eq, UInt8.le_iff_toNat_le,
      UInt8.reduceToNat] using third
  have isTailD : isTail d := by
    simpa only [isTail, Bool.and_eq_true, decide_eq_true_eq, UInt8.le_iff_toNat_le,
      UInt8.reduceToNat] using tail
  obtain ⟨first, last, range, within⟩ : ∃ first last, secondRange a = some (first, last) ∧
      (first ≤ b && b ≤ last) = true := by
    simp only [secondRange, UInt8.lt_iff_toNat_lt, UInt8.le_iff_toNat_le, ← UInt8.toNat_inj,
      UInt8.reduceToNat, Bool.and_eq_true, decide_eq_true_eq]
    by_cases narrowLow : a.toNat = 0xF0
    · exact ⟨0x90, 0xBF, by grind, second.1 narrowLow, second.2.2.2⟩
    by_cases narrowHigh : a.toNat = 0xF4
    · exact ⟨0x80, 0x8F, by grind, second.2.2.1, second.2.1 narrowHigh⟩
    · exact ⟨0x80, 0xBF, by grind, second.2.2.1, second.2.2.2⟩
  rw [scan]
  simp only [several, if_false, range, within, if_true, long, longer, isTailC, isTailD]

/-- Reading gives back the character that was written. -/
theorem scan_encodeChar_append (c : Char) (rest : Bytes) :
    scan (encodeChar c ++ rest) = some c :: scan rest := by
  have valid : c.toNat < 0xD800 ∨ (0xDFFF < c.toNat ∧ c.toNat < 0x110000) := c.valid
  have back : Char.ofNat c.toNat = c := Char.ofNat_toNat c
  unfold encodeChar
  generalize c.toNat = n at valid back
  have byte : ∀ {k : Nat}, k < 256 → (UInt8.ofNat k).toNat = k := toNat_ofNat_of_lt
  simp only
  split
  · rw [List.singleton_append, scan_one (by rw [byte (by omega)]; omega), byte (by omega), back]
  split
  · rw [List.cons_append, List.singleton_append,
      scan_two (by rw [byte (by omega)]; omega) (by rw [byte (by omega)]; omega)
        (by rw [byte (by omega)]; omega), twoBytes, byte (by omega), byte (by omega)]
    have value : (0xC0 + n / 0x40) % 0x20 * 0x40 + (0x80 + n % 0x40) % 0x40 = n := by omega
    rw [value, back]
  split
  · rw [List.cons_append, List.cons_append, List.singleton_append,
      scan_three (by rw [byte (by omega)]; omega) (by rw [byte (by omega)]; omega)
        (by rw [byte (by omega), byte (by omega)]; omega) (by rw [byte (by omega)]; omega),
      threeBytes, byte (by omega), byte (by omega), byte (by omega)]
    have value : ((0xE0 + n / 0x1000) % 0x10 * 0x40 + (0x80 + n / 0x40 % 0x40) % 0x40) * 0x40
        + (0x80 + n % 0x40) % 0x40 = n := by omega
    rw [value, back]
  · rw [List.cons_append, List.cons_append, List.cons_append, List.singleton_append,
      scan_four (by rw [byte (by omega)]; omega) (by rw [byte (by omega)]; omega)
        (by rw [byte (by omega), byte (by omega)]; omega) (by rw [byte (by omega)]; omega)
        (by rw [byte (by omega)]; omega),
      fourBytes, byte (by omega), byte (by omega), byte (by omega), byte (by omega)]
    have value : (((0xF0 + n / 0x40000) % 0x08 * 0x40 + (0x80 + n / 0x1000 % 0x40) % 0x40) * 0x40
        + (0x80 + n / 0x40 % 0x40) % 0x40) * 0x40 + (0x80 + n % 0x40) % 0x40 = n := by omega
    rw [value, back]

theorem scan_encode (chars : List Char) : scan (chars.flatMap encodeChar) = chars.map some := by
  induction chars with
  | nil => rfl
  | cons c rest ih => rw [List.flatMap_cons, scan_encodeChar_append, ih, List.map_cons]

/-- Every text reads back from its bytes. -/
theorem decode?_encode (text : String) : decode? (encode text) = some text := by
  have all : ∀ chars : List Char, (chars.map some).mapM id = some chars := by
    intro chars
    induction chars with
    | nil => rfl
    | cons c rest ih => simp [ih]
  rw [decode?, encode, scan_encode, all]
  simp

end Utf8

end HealthReport
