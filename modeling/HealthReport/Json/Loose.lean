import HealthReport.Json.Printer
import HealthReport.Text.Blank

/-!
Loose readings of a JSON value: whether it counts as true, which number it stands for, and how it is
shown in a line of text. A member that is absent is read like a null.
-/
namespace HealthReport

namespace Json

/-- Null, false, zero and whatever is empty count as false. -/
def isTruthy : Json → Bool
  | .null => false
  | .bool b => b
  | .number n => !n.toBinary64.equal (.finite (Finite64.zero false))
  | .string s => !s.isEmpty
  | .array items => !items.isEmpty
  | .object members => !members.isEmpty

/-- The number of a numeric value, or of a text that spells one between blanks. -/
def coerced? : Json → Option Binary64
  | .number n => some n.toBinary64
  | .string s => Binary64.ofText? (trimBlanks s.toList)
  | _ => none

/-- The value in a line of text: a string as it is, `none` for a null or an absent value, any
other as JSON text. -/
def shown : Option Json → String
  | none => "none"
  | some .null => "none"
  | some (.string s) => s
  | some other => other.text

/-- The value as JSON text, `none` if it is absent. -/
def described : Option Json → String
  | none => "none"
  | some value => value.text

end Json

end HealthReport
