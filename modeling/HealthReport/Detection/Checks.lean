import HealthReport.Detection.Scenario
import HealthReport.Json.Loose
import HealthReport.Report.Query

/-!
The checks of each scenario. All checks of a scenario are made, in a fixed order, and each says
what it looked at, so that a failing run shows every signal at once.
-/
namespace HealthReport

/-- The outcome of one check. -/
structure Check where
  name : String
  passed : Bool
  detail : String
deriving DecidableEq

namespace Check

/-- A number in a detail. -/
def shownNumber (x : Option Binary64) : String := (x.map Binary64.plain).getD "none"

/-- The detail of a check on one metric. -/
def valueDetail (x : Option Binary64) : String :=
  match x with
  | some v => "value=" ++ v.plain
  | none => "anomaly not found"

def healthDetail (r : Report) : String := "health=" ++ Json.shown r.summary.healthScore?

/-- Whether a number is known and above a limit. -/
def exceeds (x : Option Binary64) (limit : Int) : Bool :=
  (x.map (Binary64.ofInt limit).less).getD false

/-- Whether some anomaly of the metric is a warning at least. -/
def warned (r : Report) (metric : String) : Bool := r.hasAnomaly metric (some .warning)

/-- Whether some anomaly of the metric is critical at least. -/
def critical (r : Report) (metric : String) : Bool := r.hasAnomaly metric (some .critical)

def healthBelow (r : Report) (limit : Nat) : Check where
  name := "health_score < " ++ toString limit
  passed := r.healthBelow (Binary64.ofInt limit)
  detail := healthDetail r

/-- A check that a metric has an anomaly of warning or above. -/
def metricWarned (r : Report) (metric : String) : Check where
  name := metric ++ " WARNING+"
  passed := warned r metric
  detail := valueDetail (r.anomalyValue? metric)

def loadDetail (r : Report) : String :=
  "load=" ++ shownNumber (r.anomalyValue? "load_average") ++
    ", psi=" ++ shownNumber (r.anomalyValue? "cpu_psi_pressure")

/-- A processor kept busy. The load average lags on short runs, so stalls count as the same
signal. -/
def cpuBurn (r : Report) : List Check :=
  let count := r.recommendations.length
  [metricWarned r "cpu_utilization",
    { name := "load_average OR cpu_psi_pressure WARNING+"
      passed := warned r "load_average" || warned r "cpu_psi_pressure"
      detail := loadDetail r },
    healthBelow r 70,
    { name := "has recommendations", passed := 0 < count, detail := "count=" ++ toString count }]

/-- Many short processes. -/
def forkStorm (r : Report) : List Check :=
  let switches := r.lastDataNumber? "cpu" "context_switches_per_sec"
  let processes := r.lastDataNumber? "process" "total_processes"
  let running := r.lastDataNumber? "process" "running"
  [metricWarned r "cpu_utilization",
    { name := "context_switches > 50k/s"
      passed := exceeds switches 50000
      detail := "ctx_switches=" ++ shownNumber switches },
    { name := "total_processes > 500 OR procs_running > 100 OR cpu anomaly"
      passed := exceeds processes 500 || exceeds running 100 || warned r "cpu_utilization"
      detail := "total_procs=" ++ shownNumber processes ++ ", running=" ++ shownNumber running }]

/-- More runnable tasks than processors. The latency of the run queue is measured by a tool that
may be missing, so its check shows the value and always passes. -/
def runqSaturation (r : Report) : List Check :=
  [{ name := "load_average CRITICAL OR cpu_psi_pressure CRITICAL"
     passed := critical r "load_average" || critical r "cpu_psi_pressure"
     detail := loadDetail r },
    metricWarned r "cpu_psi_pressure",
    healthBelow r 50,
    { name := "runqlat_p99 WARNING+ (if available)"
      passed := true
      detail := "value=" ++ shownNumber (r.anomalyValue? "runqlat_p99") ++
        ", detected=" ++ toString (warned r "runqlat_p99") ++ " (bonus check)" }]

/-- A percentage after a label, where there is one. -/
def percentPart (label : String) (percent : Option Binary64) : String :=
  match percent with
  | some p => ", " ++ label ++ "=" ++ p.onePlace ++ "%"
  | none => ""

/-- Memory running out. The measured memory backs up the anomalies. -/
def memoryPressure (r : Report) : List Check :=
  let percent := r.memoryUsedPercent?
  let used := warned r "memory_utilization"
  let swap := r.hasAnomaly "swap_usage" none
  let stalls := r.hasAnomaly "memory_psi_pressure" none
  [{ name := "memory_utilization WARNING+ OR raw > 80%"
     passed := used || exceeds percent 80
     detail := "anomaly_value=" ++ shownNumber (r.anomalyValue? "memory_utilization") ++
       percentPart "raw_pct" percent },
    { name := "memory anomaly OR raw_pct > 85%"
      passed := used || swap || stalls || exceeds percent 85
      detail := "util=" ++ toString used ++ ", swap=" ++ toString swap ++
        ", psi=" ++ toString stalls ++ percentPart "raw" percent },
    healthBelow r 80]

/-- A disk that cannot keep up. -/
def diskFlood (r : Report) : List Check :=
  let busy := warned r "disk_utilization"
  let stalls := warned r "io_psi_pressure"
  let waits := warned r "cpu_iowait"
  let slow := warned r "disk_avg_latency"
  [{ name := "disk_utilization WARNING+ OR io_psi OR iowait OR disk_latency"
     passed := busy || stalls || waits || slow
     detail := "disk_util=" ++ toString busy ++ ", io_psi=" ++ toString stalls ++
       ", iowait=" ++ toString waits ++ ", disk_lat=" ++ toString slow },
    healthBelow r 90]

/-- Lost packets that have to be sent again. -/
def tcpRetrans (r : Report) : List Check :=
  let advised := r.hasRecommendation "retrans" || r.hasRecommendation "tcp"
  [metricWarned r "tcp_retransmits",
    { name := "retransmission recommendation"
      passed := advised
      detail := if advised then "found" else "no retransmission recommendation" }]

/-- Trouble in several places at once. -/
def combined (r : Report) : List Check :=
  let categories := r.anomalyCategories
  let count := r.anomalies.length
  [{ name := ">=2 anomaly categories"
     passed := 2 ≤ categories.length
     detail := "categories=" ++ toString categories.length ++
       ": [" ++ ", ".intercalate categories ++ "]" },
    healthBelow r 80,
    { name := ">=3 total anomalies"
      passed := 3 ≤ count
      detail := "anomaly_count=" ++ toString count }]

/-- The observer sees itself: the report describes how it was made. -/
def observerEffect (r : Report) : List Check :=
  let metadata := r.metadata
  [{ name := "report has metadata"
     passed := !metadata.isEmpty
     detail :=
       if metadata.isEmpty then "no metadata"
       else "keys=[" ++ ", ".intercalate metadata.names ++ "]" },
    { name := "health_score present"
      passed := r.summary.healthScore?.isSome
      detail := healthDetail r }]

end Check

/-- The checks of a scenario. -/
def Scenario.checks : Scenario → Report → List Check
  | cpuBurn => Check.cpuBurn
  | memoryPressure => Check.memoryPressure
  | diskFlood => Check.diskFlood
  | forkStorm => Check.forkStorm
  | runqSaturation => Check.runqSaturation
  | tcpRetrans => Check.tcpRetrans
  | combined => Check.combined
  | observerEffect => Check.observerEffect

end HealthReport
