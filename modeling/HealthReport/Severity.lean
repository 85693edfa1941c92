/-!
The severities of an anomaly, in ascending order. An `error` means that a collector failed, and it
ranks above `critical`.
-/
namespace HealthReport

inductive Severity where
  | info
  | warning
  | critical
  | error
deriving DecidableEq

namespace Severity

def all : List Severity := [info, warning, critical, error]

def rank : Severity → Nat
  | info => 0
  | warning => 1
  | critical => 2
  | error => 3

def label : Severity → String
  | info => "info"
  | warning => "warning"
  | critical => "critical"
  | error => "error"

/-- The severity with exactly this label. -/
def ofLabel? (label : String) : Option Severity := all.find? (·.label == label)

/-- The rank of a label as a report gives it; an unknown label ranks lowest. -/
def rankOf (label : String) : Nat := ((ofLabel? label).map rank).getD 0

/-- Whether a label reaches a severity. Every label does if none is asked for. -/
def meets (label : String) (least : Option Severity) : Bool :=
  (least.map rank).getD 0 ≤ rankOf label

theorem ofLabel?_label (s : Severity) : ofLabel? s.label = some s := by
  cases s <;> rfl

theorem rankOf_label (s : Severity) : rankOf s.label = s.rank := by
  cases s <;> rfl

end Severity

end HealthReport
