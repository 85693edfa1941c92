import HealthReport.Binary64.Basic

/-!
Doubles and decimal numbers. `Binary64.ofDecimal` is the double nearest to a decimal number;
`Finite64.shortest` is a decimal number of fewest digits that reads back as the double, the nearest
one where several have as few. Laying digits out as text is left to each format, apart from the
positional form, which two formats share.
-/
namespace HealthReport

/-- The number `digits · 10 ^ exponent`. -/
structure Decimal where
  digits : Nat
  exponent : Int
deriving DecidableEq

namespace Decimal

/-- The decimal digits of a whole number, leading digit first. -/
def digitChars (n : Nat) : List Char := Nat.toDigits 10 n

/-- The number as a fraction, in units of the least positive double. -/
def fraction (d : Decimal) : Nat × Nat :=
  if 0 ≤ d.exponent then (d.digits * Nat.pow 10 d.exponent.toNat * Binary64.one, 1)
  else (d.digits * Binary64.one, Nat.pow 10 (-d.exponent).toNat)

/-- The magnitude that the number rounds to. -/
def units (d : Decimal) : Nat :=
  Binary64.roundUnits d.fraction.1 d.fraction.2

/-- The same number with no zero at the end of its digits. -/
def trim (d : Decimal) : Decimal :=
  let zeros := ((digitChars d.digits).reverse.takeWhile (· == '0')).length
  ⟨d.digits / Nat.pow 10 zeros, d.exponent + zeros⟩

/-- One more than the power of ten of the leading digit. -/
def top (d : Decimal) : Int := (digitChars d.digits).length + d.exponent

/-- The number written out without an exponent; a whole number has no point. -/
def positional (d : Decimal) : List Char :=
  let chars := digitChars d.digits
  if 0 ≤ d.exponent then chars ++ List.replicate d.exponent.toNat '0'
  else
    let places := (-d.exponent).toNat
    if places < chars.length then
      chars.take (chars.length - places) ++ '.' :: chars.drop (chars.length - places)
    else '0' :: '.' :: List.replicate (places - chars.length) '0' ++ chars

end Decimal

/-- What to do when the two nearest decimal numbers of a length are equally near. -/
inductive Tie where
  | even
  | up
deriving DecidableEq

namespace Finite64

/-- The power of ten of the leading digit of a positive magnitude. -/
def leadingPlace (units : Nat) : Int :=
  if Binary64.one ≤ units then (Decimal.digitChars (units / Binary64.one)).length - 1
  else -(((List.range 330).find? fun k => Binary64.one ≤ units * Nat.pow 10 k).getD 0 : Nat)

/-- Of the two multiples of `10 ^ exponent` around the magnitude, the nearer one that reads back. -/
def onGrid? (tie : Tie) (units : Nat) (exponent : Int) : Option Decimal :=
  let (num, den) :=
    if 0 ≤ exponent then (units, Binary64.one * Nat.pow 10 exponent.toNat)
    else (units * Nat.pow 10 (-exponent).toNat, Binary64.one)
  let below : Decimal := Decimal.trim ⟨num / den, exponent⟩
  let above : Decimal := Decimal.trim ⟨num / den + 1, exponent⟩
  let twice := 2 * (num % den)
  let preferAbove : Bool :=
    if twice = den then
      match tie with
      | .even => num / den % 2 == 1
      | .up => true
    else den < twice
  let order := if preferAbove then [above, below] else [below, above]
  order.find? fun d => d.units == units

/-- The decimal number equal to the magnitude. -/
def exactly (units : Nat) : Decimal :=
  ⟨units * Nat.pow 5 Binary64.scale, -Binary64.scale⟩

/-- The fewest digits that read back as the double; 17 always suffice. -/
def shortest (tie : Tie) (x : Finite64) : Decimal :=
  if x.units = 0 then ⟨0, 0⟩
  else
    let place := leadingPlace x.units
    let hit := (List.range 17).findSome? fun (n : Nat) => onGrid? tie x.units (place - n)
    hit.getD (exactly x.units)

def signChars (neg : Bool) : List Char := if neg then ['-'] else []

end Finite64

namespace Binary64

/-- The double nearest to a decimal number. Numbers far outside the range are settled by their
leading place alone. -/
def ofDecimal (neg : Bool) (d : Decimal) : Binary64 :=
  if d.digits = 0 || d.top < -400 then .finite (Finite64.zero neg)
  else if 400 < d.top then .infinite neg
  else ofUnits neg d.fraction.1 d.fraction.2

/-- An unsigned decimal numeral: digits with at most one point, at least one digit, and an optional
exponent. -/
def numeral? (chars : List Char) : Option Decimal :=
  let whole := chars.takeWhile Char.isDigit
  let afterWhole := chars.dropWhile Char.isDigit
  let (places, rest) : List Char × List Char :=
    match afterWhole with
    | '.' :: tail => (tail.takeWhile Char.isDigit, tail.dropWhile Char.isDigit)
    | _ => ([], afterWhole)
  let digits := Nat.ofDigitChars 10 (whole ++ places) 0
  let scaled (exponent : Int) : Decimal := ⟨digits, exponent - places.length⟩
  if whole.isEmpty && places.isEmpty then none
  else match rest with
    | [] => some (scaled 0)
    | mark :: tail =>
      if mark = 'e' || mark = 'E' then
        let (neg, power) : Bool × List Char :=
          match tail with
          | '-' :: power => (true, power)
          | '+' :: power => (false, power)
          | power => (false, power)
        if power.isEmpty || !power.all Char.isDigit then none
        else
          let n : Int := Nat.ofDigitChars 10 power 0
          some (scaled (if neg then -n else n))
      else none

/-- The number a text spells: a signed numeral, or the name of an infinity or of no number in any
case of ASCII letters. -/
def ofText? (chars : List Char) : Option Binary64 :=
  let (neg, body) : Bool × List Char :=
    match chars with
    | '-' :: body => (true, body)
    | '+' :: body => (false, body)
    | body => (false, body)
  match numeral? body with
  | some d => some (ofDecimal neg d)
  | none =>
    let name := String.ofList (body.map Char.toLower)
    if name = "inf" || name = "infinity" then some (.infinite neg)
    else if name = "nan" then some .nan
    else none

/-- The plain form: the fewest digits that read back, a half going up, written without an
exponent, and no point in a whole number. -/
def plain : Binary64 → String
  | .finite x => String.ofList (Finite64.signChars x.neg ++ (x.shortest .up).positional)
  | .infinite neg => if neg then "-inf" else "inf"
  | .nan => "NaN"

/-- The form with one place after the point, rounded from the exact value, a half going to the even
digit. -/
def onePlace : Binary64 → String
  | .finite x =>
    let tenths := nearestEven (x.units * 10) one
    String.ofList (Finite64.signChars x.neg ++ Decimal.digitChars (tenths / 10) ++
      '.' :: Decimal.digitChars (tenths % 10))
  | .infinite neg => if neg then "-inf" else "inf"
  | .nan => "NaN"

end Binary64

end HealthReport
