import HealthReport.Report.Basic
import HealthReport.Severity
import HealthReport.Text.Case
import HealthReport.Text.Search

/-!
Questions about a report: which anomalies it lists, what it recommends, what its collectors
measured. Whether an anomaly exists is asked of all of them, but the value of a metric is that of
its first anomaly, and measured data are those of the last result that has them.
-/
namespace HealthReport

namespace Report

def anomalies (r : Report) : List Anomaly := r.summary.anomalies

def recommendations (r : Report) : List Recommendation := r.summary.recommendations

/-- Whether some anomaly of the metric reaches the severity. -/
def hasAnomaly (r : Report) (metric : String) (least : Option Severity) : Bool :=
  r.anomalies.any fun a => a.metric? == some metric && Severity.meets a.severity least

/-- The number of the first anomaly of the metric; later ones are not asked. -/
def anomalyValue? (r : Report) (metric : String) : Option Binary64 :=
  (r.anomalies.find? fun a => a.metric? == some metric).bind Anomaly.number?

/-- Whether the title or the evidence of some recommendation contains the text, case apart. -/
def hasRecommendation (r : Report) (needle : String) : Bool :=
  let wanted := (lowercase needle).toList
  r.recommendations.any fun rec =>
    occursIn wanted (lowercase rec.title).toList || occursIn wanted (lowercase rec.evidence).toList

def hasAnomalyCategory (r : Report) (category : String) : Bool :=
  r.anomalies.any fun a => a.category?.bind Json.string? == some category

/-- The labels of the distinct anomaly categories, sorted. Categories are told apart by their JSON
text, and being absent is a category of its own, with the label `none`. -/
def anomalyCategories (r : Report) : List String :=
  let distinct := (r.anomalies.map Anomaly.category?).eraseDupsBy fun a b =>
    a.map Json.text == b.map Json.text
  (distinct.map Json.shown).mergeSort fun a b => decide (a ≤ b)

def healthScore? (r : Report) : Option Binary64 := r.summary.healthNumber?

/-- Whether the health score is a number below the limit. -/
def healthBelow (r : Report) (limit : Binary64) : Bool :=
  (r.healthScore?.map (·.less limit)).getD false

/-- The number in one field of the last result of a category that has the field. If it is no number
there, nothing is. -/
def lastDataNumber? (r : Report) (category name : String) : Option Binary64 :=
  ((r.results category).filterMap (·.dataField? name)).getLast?.bind fun value =>
    value.number?.map Number.toBinary64

/-- The number that a field stands for, zero if there is none. -/
def numberOrZero (value : Option Json) : Binary64 :=
  (value.bind Json.coerced?).getD (.finite (Finite64.zero false))

/-- The part of memory in use by one result, in percent, if it has a positive total. -/
def memoryPercent? (result : CollectorResult) : Option Binary64 :=
  let total := numberOrZero (result.dataField? "total_bytes")
  let available := numberOrZero (result.dataField? "available_bytes")
  if (Binary64.finite (Finite64.zero false)).less total then
    some (((total.sub available).div total).mul (Binary64.ofInt 100))
  else none

/-- The part of memory in use, in percent, by the last result that has a positive total. -/
def memoryUsedPercent? (r : Report) : Option Binary64 :=
  ((r.results "memory").filterMap memoryPercent?).getLast?

end Report

end HealthReport
