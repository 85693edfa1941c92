import HealthReport.Binary64.Decimal

/-!
The numbers of a JSON document. A literal is a number as written; `Literal.number?` gives its value.
An integer that fits a 64-bit word keeps every digit, and everything else becomes a double by one
multiplication or division with a power of ten, which is quick but does not always give the nearest
double. `Number.chars` writes a number with the fewest digits that read back.
-/
namespace HealthReport

/-- A number of a JSON document. An integer and a double are never the same number. -/
inductive Number where
  | integer (n : Int)
  | double (x : Finite64)
deriving DecidableEq

namespace Number

/-- Whether reading a document can give the number: an integer has to fit 64 bits, with a sign or
without. -/
def isReadable : Number → Bool
  | .integer n => -0x8000000000000000 ≤ n && n < 0x10000000000000000
  | .double _ => true

/-- The value as a double. -/
def toBinary64 : Number → Binary64
  | .integer n => Binary64.ofInt n
  | .double x => .finite x

/-- The value as an unsigned 64-bit integer; a double is none, even a whole one. -/
def unsigned? : Number → Option Nat
  | .integer n => if 0 ≤ n && n < 0x10000000000000000 then some n.toNat else none
  | .double _ => none

/-- The value as a signed 64-bit integer; a double is none, even a whole one. -/
def signed? : Number → Option Int
  | .integer n => if -0x8000000000000000 ≤ n && n < 0x8000000000000000 then some n else none
  | .double _ => none

/-- Equality of documents' numbers: integers by value, doubles as numbers, so the two zeros agree.
-/
def same : Number → Number → Bool
  | .integer a, .integer b => a == b
  | .double x, .double y => x.signed == y.signed
  | _, _ => false

/-- A double in a document: the fewest digits that read back, a half going to the even digit;
positional while the leading digit stands between the fifth place after the point and the sixteenth
before it, with `.0` after a whole number; otherwise with an exponent that always has a sign. -/
def doubleChars (x : Finite64) : List Char :=
  let d := x.shortest .even
  let place := d.top - 1
  let body :=
    if -5 ≤ place && place ≤ 15 then
      d.positional ++ (if 0 ≤ d.exponent then ['.', '0'] else [])
    else
      match Decimal.digitChars d.digits with
      | [] => []
      | lead :: others =>
        lead :: (if others.isEmpty then [] else '.' :: others) ++
          'e' :: (if place < 0 then '-' else '+') :: Decimal.digitChars place.natAbs
  Finite64.signChars x.neg ++ body

def chars : Number → List Char
  | .integer n => Finite64.signChars (n < 0) ++ Decimal.digitChars n.natAbs
  | .double x => doubleChars x

end Number

/-- A number as written: the digits before and after the point, and the sign and the digits of the
exponent. A literal without a point has no digits after it. -/
structure Literal where
  neg : Bool
  whole : List Char
  places : List Char
  power : Option (Bool × List Char)
deriving DecidableEq

namespace Literal

/-- Appends digits to a number while the result stays below the bound; the digits left over come
back. -/
def takeDigits (bound value : Nat) : List Char → Nat × List Char
  | [] => (value, [])
  | c :: rest =>
    let next := value * 10 + (c.toNat - '0'.toNat)
    if next < bound then takeDigits bound next rest else (value, c :: rest)

/-- The double nearest to a power of ten. -/
def powerOfTen (n : Nat) : Binary64 :=
  Binary64.ofDecimal false ⟨1, n⟩

def finite? : Binary64 → Option Finite64
  | .finite x => some x
  | _ => none

/-- `x · 10 ^ exponent` by one operation with a power of ten, after enough divisions by 10³⁰⁸ to
bring the exponent into range. Nothing if the result is infinite. -/
def scaleBy (x : Binary64) (exponent : Int) : Nat → Option Finite64
  | 0 => finite? x
  | steps + 1 =>
    if exponent.natAbs ≤ 308 then
      if 0 ≤ exponent then finite? (x.mul (powerOfTen exponent.toNat))
      else finite? (x.div (powerOfTen (-exponent).toNat))
    else if x.equal (.finite (Finite64.zero false)) then finite? x
    else if 0 ≤ exponent then none
    else scaleBy (x.div (powerOfTen 308)) (exponent + 308) steps

/-- The double `± significand · 10 ^ exponent`, or nothing past the range. -/
def double? (neg : Bool) (significand : Nat) (exponent : Int) : Option Number :=
  (scaleBy (Binary64.ofInt significand) exponent (exponent.natAbs / 308 + 1)).map fun x =>
    .double { x with neg := neg }

/-- An integer literal: an integer if it fits 64 bits, else a double; minus zero is a double. -/
def integer? (neg : Bool) (n : Nat) : Option Number :=
  if neg then
    if 0 < n && n ≤ 0x8000000000000000 then some (.integer (-n)) else double? true n 0
  else if n < 0x10000000000000000 then some (.integer n)
  else double? false n 0

/-- The significand of a literal: its digits as far as they fit a 64-bit word. Digits before the
point that do not fit raise the exponent, digits after it that do lower it. -/
def significand (l : Literal) : Nat × Int :=
  let (whole, leftWhole) := takeDigits 0x10000000000000000 0 l.whole
  let (all, leftPlaces) := takeDigits 0x10000000000000000 whole l.places
  (all, leftWhole.length - (l.places.length - leftPlaces.length : Nat))

def isInteger (l : Literal) : Bool :=
  l.places.isEmpty && l.power.isNone && (takeDigits 0x10000000000000000 0 l.whole).2.isEmpty

/-- The value of a literal, or nothing if it is past the range of doubles. An exponent that does not
fit 31 bits is not looked at further: it gives zero or is past the range. -/
def number? (l : Literal) : Option Number :=
  let (digits, exponent) := l.significand
  match l.power with
  | none => if l.isInteger then integer? l.neg digits else double? l.neg digits exponent
  | some (down, power) =>
    match takeDigits 0x80000000 0 power with
    | (n, []) => double? l.neg digits (if down then exponent - n else exponent + n)
    | (_, _ :: _) =>
      if digits = 0 || down then some (.double (Finite64.zero l.neg)) else none

/-- How many characters of a literal past the range are not looked at: the digits after the one with
which the exponent no longer fits. -/
def unread (l : Literal) : List Char :=
  match l.power with
  | none => []
  | some (_, power) => (takeDigits 0x80000000 0 power).2.drop 1

/-- The value of a literal within the range. -/
def number (l : Literal) : Number :=
  l.number?.getD (.double (Finite64.zero l.neg))

theorem isReadable_double? {neg : Bool} {digits : Nat} {exponent : Int} {n : Number}
    (h : double? neg digits exponent = some n) : n.isReadable := by
  obtain ⟨x, _, rfl⟩ := Option.map_eq_some_iff.1 h
  rfl

theorem isReadable_integer? {neg : Bool} {digits : Nat} {n : Number}
    (h : integer? neg digits = some n) : n.isReadable := by
  unfold integer? at h
  split at h
  · split at h
    · rename_i small
      simp only [Bool.and_eq_true, decide_eq_true_eq] at small
      cases h
      simp only [Number.isReadable, Bool.and_eq_true, decide_eq_true_eq]
      omega
    · exact isReadable_double? h
  · split at h
    · cases h
      simp only [Number.isReadable, Bool.and_eq_true, decide_eq_true_eq]
      omega
    · exact isReadable_double? h

theorem isReadable_number? {l : Literal} {n : Number} (h : l.number? = some n) : n.isReadable := by
  unfold number? at h
  split at h
  split at h
  · split at h
    · exact isReadable_integer? h
    · exact isReadable_double? h
  · split at h
    · exact isReadable_double? h
    · split at h
      · cases h
        rfl
      · cases h

theorem isReadable_number (l : Literal) : l.number.isReadable := by
  unfold number
  cases h : l.number? with
  | none => rfl
  | some n => exact isReadable_number? h

end Literal

end HealthReport
