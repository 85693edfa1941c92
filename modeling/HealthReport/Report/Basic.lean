import HealthReport.Json.Loose
import HealthReport.Json.Reader

/-!
A health report and the views of its parts. The document is kept as it was read, since a check has
to see its raw shape. The views only add access with defaults: a list that is missing reads as
empty, a text that is missing as the empty text.
-/
namespace HealthReport

/-- A health report: a JSON document as reading gives it. -/
structure Report where
  root : Json
  regular : root.isRegular

/-- The `metadata` of a report. -/
structure Metadata where
  raw : Option Json

/-- The `observer_overhead` within the metadata. -/
structure Overhead where
  raw : Json

/-- What one collector measured. -/
structure CollectorResult where
  members : Members

/-- The `summary` of a report, without members unless it is an object. -/
structure Summary where
  members : Members

/-- A deviation that the summary lists. -/
structure Anomaly where
  members : Members

/-- A piece of advice that the summary lists. -/
structure Recommendation where
  members : Members

/-- The name of the tool whose reports are read. -/
def toolName : String := "melisai"

/-- A member that is there and not null. -/
def Members.present? (members : Members) (name : String) : Option Json :=
  (members.get? name).filter fun value => !value.isNull

/-- A member that is a string, else the empty text. -/
def Members.textOf (members : Members) (name : String) : String :=
  ((members.get? name).bind Json.string?).getD ""

namespace Metadata

def members (m : Metadata) : Members := (m.raw.bind Json.members?).getD []

/-- Whether there is no metadata, or only a value that counts as false. -/
def isEmpty (m : Metadata) : Bool := !(m.raw.map Json.isTruthy).getD false

def names (m : Metadata) : List String := m.members.names

def tool? (m : Metadata) : Option Json := m.members.present? "tool"

/-- A member that is a string. -/
def text? (m : Metadata) (name : String) : Option String :=
  (m.members.present? name).bind Json.string?

def overhead? (m : Metadata) : Option Overhead :=
  (m.members.present? "observer_overhead").map Overhead.mk

end Metadata

namespace Overhead

def selfPid? (o : Overhead) : Option Json := o.raw.get? "self_pid"

/-- The process number, if it is a positive integer. -/
def validSelfPid? (o : Overhead) : Option Nat :=
  ((o.selfPid?.bind Json.number?).bind Number.unsigned?).filter (0 < ·)

end Overhead

namespace CollectorResult

def has (r : CollectorResult) (name : String) : Bool := r.members.has name

def collector? (r : CollectorResult) : Option Json := r.members.get? "collector"

def tier? (r : CollectorResult) : Option Json := r.members.get? "tier"

/-- The measured data, if they are an object. -/
def data? (r : CollectorResult) : Option Members := (r.members.get? "data").bind Json.members?

def dataField? (r : CollectorResult) (name : String) : Option Json :=
  r.data?.bind (·.get? name)

/-- Whether there are data at all: neither absent nor null nor an empty object. -/
def hasData (r : CollectorResult) : Bool :=
  match r.members.get? "data" with
  | none => false
  | some .null => false
  | some (.object members) => !members.isEmpty
  | some _ => true

def hasTruthy (r : CollectorResult) (name : String) : Bool :=
  ((r.members.get? name).map Json.isTruthy).getD false

/-- Whether the collector gave errors, and neither data nor histograms nor events nor stacks. -/
def isErrorOnly (r : CollectorResult) : Bool :=
  r.hasTruthy "errors" &&
    !(r.hasData || r.hasTruthy "histograms" || r.hasTruthy "events" || r.hasTruthy "stacks")

end CollectorResult

namespace Summary

def healthScore? (s : Summary) : Option Json := s.members.present? "health_score"

/-- The health score, if it is a number. -/
def healthNumber? (s : Summary) : Option Binary64 :=
  (s.healthScore?.bind Json.number?).map Number.toBinary64

/-- The objects of a member that is an array. -/
def objects (s : Summary) (name : String) : List Members :=
  (((s.members.get? name).bind Json.items?).getD []).filterMap Json.members?

def anomalies (s : Summary) : List Anomaly := (s.objects "anomalies").map Anomaly.mk

def recommendations (s : Summary) : List Recommendation :=
  (s.objects "recommendations").map Recommendation.mk

def resources? (s : Summary) : Option Members := (s.members.get? "resources").bind Json.members?

end Summary

namespace Anomaly

def metric? (a : Anomaly) : Option String := (a.members.get? "metric").bind Json.string?

/-- The category, unless it is absent or null. -/
def category? (a : Anomaly) : Option Json := a.members.present? "category"

def severity (a : Anomaly) : String := a.members.textOf "severity"

def value? (a : Anomaly) : Option Json := a.members.get? "value"

/-- The number that the value stands for. -/
def number? (a : Anomaly) : Option Binary64 := a.value?.bind Json.coerced?

def threshold? (a : Anomaly) : Option Json := a.members.get? "threshold"

def message (a : Anomaly) : String := a.members.textOf "message"

end Anomaly

namespace Recommendation

def title (r : Recommendation) : String := r.members.textOf "title"

def evidence (r : Recommendation) : String := r.members.textOf "evidence"

def expectedImpact (r : Recommendation) : String := r.members.textOf "expected_impact"

def priority? (r : Recommendation) : Option Json := r.members.get? "priority"

end Recommendation

namespace Report

/-- Reads a report from JSON text. -/
def read (text : String) : Except ReadError Report :=
  match h : Json.read text with
  | .ok root => .ok ⟨root, Json.isRegular_of_read h⟩
  | .error error => .error error

def get? (r : Report) (name : String) : Option Json := r.root.get? name

def has (r : Report) (name : String) : Bool := (r.get? name).isSome

/-- The members that every report has. -/
def topLevelNames : List String := ["metadata", "categories", "summary"]

def missingTopLevel (r : Report) : List String := topLevelNames.filter fun name => !r.has name

def metadata (r : Report) : Metadata := ⟨r.get? "metadata"⟩

/-- The categories, if they are an object. -/
def categories? (r : Report) : Option Members := (r.get? "categories").bind Json.members?

/-- The results of one category in their order; entries that are no objects are passed over. -/
def results (r : Report) (category : String) : List CollectorResult :=
  let entries := ((r.categories?.bind (·.get? category)).bind Json.items?).getD []
  (entries.filterMap Json.members?).map CollectorResult.mk

def summary (r : Report) : Summary := ⟨((r.get? "summary").bind Json.members?).getD []⟩

end Report

end HealthReport
