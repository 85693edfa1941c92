import HealthReport.Catalog
import HealthReport.Detection.Checks
import HealthReport.Wire.Record

/-!
Checks and catalog entries as documents of their own, with the fields in a fixed order.
-/
namespace HealthReport

namespace ErrorCategory

def ofWritten? (w : Written) : Option ErrorCategory := w.labelled? all label

end ErrorCategory

namespace Check

def wire (c : Check) : Json :=
  .object [("name", .string c.name), ("passed", .bool c.passed), ("detail", .string c.detail)]

def ofWritten? (w : Written) : Option Check :=
  match w.fields? ["name", "passed", "detail"] with
  | some [name, passed, detail] => do
    return ⟨← name.text?, ← passed.flag?, ← detail.text?⟩
  | _ => none

end Check

namespace ErrorEntry

def wire (e : ErrorEntry) : Json :=
  .object [("code", .string e.code), ("category", .string e.category.label),
    ("message", .string e.message), ("remediation", Json.ofStrings e.remediation)]

def ofWritten? (w : Written) : Option ErrorEntry :=
  match w.fields? ["code", "category", "message", "remediation"] with
  | some [code, category, message, remediation] => do
    return ⟨← code.text?, ← ErrorCategory.ofWritten? category, ← message.text?,
      ← remediation.texts?⟩
  | _ => none

end ErrorEntry

end HealthReport
