import HealthReport.Detection.Verdict
import HealthReport.Proofs.Report.Labels
import HealthReport.Proofs.Report.Query

/-!
# What a scenario reads

A scenario reads few signals of a report. All scenarios read the health score and, of each anomaly
and each recommendation that is an object, a few members. Three of them read more: some measured
fields of a category, or the metadata.

Results:
1. `sameAnswers_of_signals`: the signals in the summary settle all questions about it.
2. `lastDataNumber?_of_measurements`, `memoryUsedPercent?_of_measurements`: the measured fields
   settle the questions about measurements.
3. `checks_congr`: the answers to its questions settle the checks of a scenario.
4. `run_of_signals`: so do the signals that it reads.
-/
namespace HealthReport

/-! ## Definitions -/

/-- What is read of an anomaly. A metric that is no string, a severity that is none and a category
that is null count as absent. -/
structure AnomalySignal where
  metric : Option String
  severity : String
  value : Option Json
  category : Option Json

def AnomalySignal.ofMembers (anomaly : Members) : AnomalySignal where
  metric := (anomaly.get? "metric").bind Json.string?
  severity := anomaly.textOf "severity"
  value := anomaly.get? "value"
  category := anomaly.present? "category"

/-- What is read of a recommendation, the empty text where it is no string. -/
structure AdviceSignal where
  title : String
  evidence : String

def AdviceSignal.ofMembers (advice : Members) : AdviceSignal :=
  ⟨advice.textOf "title", advice.textOf "evidence"⟩

/-- What every scenario may read of a summary. -/
structure Signals where
  health : Option Json
  anomalies : List AnomalySignal
  recommendations : List AdviceSignal

namespace Report

def signals (r : Report) : Signals where
  health := r.root.stated? ["summary", "health_score"]
  anomalies := (r.root.objectsAt ["summary", "anomalies"]).map .ofMembers
  recommendations := (r.root.objectsAt ["summary", "recommendations"]).map .ofMembers

/-- Some measured fields of each object in a category. -/
def measurements (r : Report) (category : String) (names : List String) :
    List (List (Option Json)) :=
  (r.root.objectsAt ["categories", category]).map fun result =>
    names.map fun name => (Json.object result).at? ["data", name]

/-- Both reports answer all questions about the summary alike. -/
structure SameAnswers (r other : Report) : Prop where
  hasAnomaly : r.hasAnomaly = other.hasAnomaly
  anomalyValue : r.anomalyValue? = other.anomalyValue?
  anomalyCategories : r.anomalyCategories = other.anomalyCategories
  anomalyCount : r.anomalies.length = other.anomalies.length
  hasRecommendation : r.hasRecommendation = other.hasRecommendation
  recommendationCount : r.recommendations.length = other.recommendations.length
  health : r.summary.healthScore? = other.summary.healthScore?

end Report

namespace Scenario

/-- What a scenario reads besides the summary is the same in both reports. -/
def SameMeasurements (r other : Report) : Scenario → Prop
  | forkStorm =>
    r.measurements "cpu" ["context_switches_per_sec"] =
        other.measurements "cpu" ["context_switches_per_sec"] ∧
      r.measurements "process" ["total_processes", "running"] =
        other.measurements "process" ["total_processes", "running"]
  | memoryPressure =>
    r.measurements "memory" ["total_bytes", "available_bytes"] =
      other.measurements "memory" ["total_bytes", "available_bytes"]
  | observerEffect => r.root.get? "metadata" = other.root.get? "metadata"
  | cpuBurn | diskFlood | runqSaturation | tcpRetrans | combined => True

/-- What a scenario asks besides the summary is answered alike by both reports. -/
def SameReadings (r other : Report) : Scenario → Prop
  | forkStorm =>
    ∀ asked ∈ [("cpu", "context_switches_per_sec"), ("process", "total_processes"),
      ("process", "running")],
      r.lastDataNumber? asked.1 asked.2 = other.lastDataNumber? asked.1 asked.2
  | memoryPressure => r.memoryUsedPercent? = other.memoryUsedPercent?
  | observerEffect => r.metadata = other.metadata
  | cpuBurn | diskFlood | runqSaturation | tcpRetrans | combined => True

end Scenario

namespace Report

/-! ## 1. Questions about the summary -/

section

variable {r other : Report}

theorem hasAnomaly_eq (r : Report) (metric : String) (least : Option Severity) :
    r.hasAnomaly metric least = r.signals.anomalies.any fun a =>
      a.metric == some metric && Severity.meets a.severity least := by
  rw [hasAnomaly, anomalies_eq, List.any_map, signals, List.any_map]
  rfl

theorem anomalyValue?_eq (r : Report) (metric : String) :
    r.anomalyValue? metric =
      (r.signals.anomalies.find? (·.metric == some metric)).bind (·.value.bind Json.coerced?) := by
  rw [anomalyValue?, anomalies_eq, List.find?_map, signals, List.find?_map, Option.bind_map,
    Option.bind_map]
  rfl

theorem map_category?_eq (r : Report) :
    r.anomalies.map Anomaly.category? = r.signals.anomalies.map (·.category) := by
  rw [anomalies_eq, List.map_map, signals, List.map_map]
  rfl

theorem hasRecommendation_eq (r : Report) (word : String) :
    r.hasRecommendation word = r.signals.recommendations.any fun advice =>
      occursIn (lowercase word).toList (lowercase advice.title).toList ||
        occursIn (lowercase word).toList (lowercase advice.evidence).toList := by
  rw [hasRecommendation, recommendations_eq, List.any_map, signals, List.any_map]
  rfl

theorem sameAnswers_of_signals (same : r.signals = other.signals) : r.SameAnswers other where
  hasAnomaly := by
    funext metric least
    rw [hasAnomaly_eq, hasAnomaly_eq, same]
  anomalyValue := by
    funext metric
    rw [anomalyValue?_eq, anomalyValue?_eq, same]
  anomalyCategories := by
    rw [anomalyCategories, anomalyCategories, map_category?_eq, map_category?_eq, same]
  anomalyCount := by
    simpa only [signals, List.length_map, length_anomalies] using
      congrArg (fun signals => signals.anomalies.length) same
  hasRecommendation := by
    funext word
    rw [hasRecommendation_eq, hasRecommendation_eq, same]
  recommendationCount := by
    simpa only [signals, List.length_map, length_recommendations] using
      congrArg (fun signals => signals.recommendations.length) same
  health := by
    rw [Summary.healthScore?, Summary.healthScore?, present?_summary, present?_summary]
    exact congrArg Signals.health same

/-! ## 2. Questions about measurements -/

variable {category : String} {names : List String}

/-- What depends on the measured fields alone is the same for objects that agree in these. -/
theorem filterMap_of_measurements {α : Type} {f : CollectorResult → Option α}
    (determined : ∀ a b : Members,
      (∀ name ∈ names, (Json.object a).at? ["data", name] = (Json.object b).at? ["data", name]) →
        f ⟨a⟩ = f ⟨b⟩)
    (same : r.measurements category names = other.measurements category names) :
    (r.results category).filterMap f = (other.results category).filterMap f := by
  have images := map_eq_of_map_eq (g := fun result => f ⟨result⟩)
    (fun a b rows => determined a b (List.map_inj_left.1 rows)) same
  have kept := congrArg (List.filterMap id) images
  rw [List.filterMap_map, List.filterMap_map] at kept
  rw [results_eq, results_eq, List.filterMap_map, List.filterMap_map]
  exact kept

theorem lastDataNumber?_of_measurements {name : String} (known : name ∈ names)
    (same : r.measurements category names = other.measurements category names) :
    r.lastDataNumber? category name = other.lastDataNumber? category name := by
  rw [lastDataNumber?, lastDataNumber?,
    filterMap_of_measurements (fun a b agree => ?_) same]
  rw [dataField?_eq, dataField?_eq, agree name known]

theorem memoryUsedPercent?_of_measurements
    (same : r.measurements "memory" ["total_bytes", "available_bytes"] =
      other.measurements "memory" ["total_bytes", "available_bytes"]) :
    r.memoryUsedPercent? = other.memoryUsedPercent? := by
  rw [memoryUsedPercent?, memoryUsedPercent?,
    filterMap_of_measurements (fun a b agree => ?_) same]
  rw [memoryPercent?, memoryPercent?, dataField?_eq, dataField?_eq, dataField?_eq, dataField?_eq,
    agree "total_bytes" (by simp), agree "available_bytes" (by simp)]

end

end Report

/-! ## 3. The checks of a scenario -/

namespace Scenario

section

variable {r other : Report}

theorem checks_congr (s : Scenario) (same : r.SameAnswers other)
    (readings : s.SameReadings r other) : s.checks r = s.checks other := by
  have metric : Check.metricWarned r = Check.metricWarned other := by
    funext metric
    rw [Check.metricWarned, Check.warned, same.hasAnomaly, same.anomalyValue]
    rfl
  have health : Check.healthBelow r = Check.healthBelow other := by
    funext limit
    rw [Check.healthBelow, Report.healthBelow, Report.healthScore?, Summary.healthNumber?,
      Check.healthDetail, same.health]
    rfl
  have load : Check.loadDetail r = Check.loadDetail other := by
    rw [Check.loadDetail, Check.loadDetail, same.anomalyValue]
  cases s with
  | cpuBurn =>
    simp only [checks, Check.cpuBurn, metric, health, load, Check.warned, same.hasAnomaly,
      same.recommendationCount]
  | memoryPressure =>
    have percent : r.memoryUsedPercent? = other.memoryUsedPercent? := readings
    simp only [checks, Check.memoryPressure, percent, health, Check.warned, same.hasAnomaly,
      same.anomalyValue]
  | diskFlood => simp only [checks, Check.diskFlood, health, Check.warned, same.hasAnomaly]
  | forkStorm =>
    have switches := readings ("cpu", "context_switches_per_sec") (by simp)
    have processes := readings ("process", "total_processes") (by simp)
    have running := readings ("process", "running") (by simp)
    simp only [checks, Check.forkStorm, metric, switches, processes, running, Check.warned,
      same.hasAnomaly]
  | runqSaturation =>
    simp only [checks, Check.runqSaturation, metric, health, load, Check.warned, Check.critical,
      same.hasAnomaly, same.anomalyValue]
  | tcpRetrans => simp only [checks, Check.tcpRetrans, metric, same.hasRecommendation]
  | combined =>
    simp only [checks, Check.combined, health, same.anomalyCategories, same.anomalyCount]
  | observerEffect =>
    have metadata : r.metadata = other.metadata := readings
    simp only [checks, Check.observerEffect, metadata, Check.healthDetail, same.health]

/-! ## 4. The signals of a scenario -/

theorem sameReadings_of_measurements (s : Scenario)
    (measured : s.SameMeasurements r other) : s.SameReadings r other := by
  cases s with
  | forkStorm =>
    obtain ⟨cpu, process⟩ := measured
    simp only [SameReadings, List.forall_mem_cons]
    exact ⟨Report.lastDataNumber?_of_measurements (by simp) cpu,
      Report.lastDataNumber?_of_measurements (by simp) process,
      Report.lastDataNumber?_of_measurements (by simp) process, List.forall_mem_nil _⟩
  | memoryPressure => exact Report.memoryUsedPercent?_of_measurements measured
  | observerEffect => exact congrArg Metadata.mk measured
  | cpuBurn | diskFlood | runqSaturation | tcpRetrans | combined => trivial

/-- A scenario comes to the same verdict on reports that agree in the signals that it reads. To
agree is to be equal, and `0.0` is not equal to `-0.0`. -/
theorem run_of_signals (s : Scenario) (summary : r.signals = other.signals)
    (measured : s.SameMeasurements r other) : s.run r = s.run other := by
  have checks := s.checks_congr (Report.sameAnswers_of_signals summary)
    (s.sameReadings_of_measurements measured)
  rw [run, run, checks]

end

end Scenario

/-- A report with the signs of many short processes. -/
def stormy : Report :=
  ⟨.object [("categories", .object [
        ("cpu", .array [.object [
          ("data", .object [("context_switches_per_sec", .number (.integer 60000))])]]),
        ("process", .array [.object [
          ("data", .object [("running", .number (.integer 3)),
            ("total_processes", .number (.integer 700))])]])]),
      ("summary", .object [
        ("anomalies", .array [.object [("metric", .string "cpu_utilization"),
          ("severity", .string "warning"), ("value", .number (.integer 97))]]),
        ("health_score", .number (.integer 40))])], by decide⟩

/-- The same signs among much else, some of it broken. -/
def stormyAmongOthers : Report :=
  ⟨.object [("categories", .object [
        ("cpu", .array [.null, .object [("collector", .bool false),
          ("data", .object [("context_switches_per_sec", .number (.integer 60000)),
            ("load", .string "high")])]]),
        ("disk", .string "none"),
        ("process", .array [.object [
          ("data", .object [("running", .number (.integer 3)),
            ("total_processes", .number (.integer 700))]),
          ("errors", .array [.null])], .string "lost"])]),
      ("metadata", .array []),
      ("summary", .object [
        ("anomalies", .array [.string "lost", .object [("category", .null),
          ("message", .string "busy"), ("metric", .string "cpu_utilization"),
          ("severity", .string "warning"), ("value", .number (.integer 97))]]),
        ("health_score", .number (.integer 40)), ("recommendations", .array [.bool true])])],
    by decide⟩

theorem Scenario.run_of_signals_of_stormy :
    (stormy.signals = stormyAmongOthers.signals ∧
      forkStorm.SameMeasurements stormy stormyAmongOthers) ∧
    forkStorm.run stormy = forkStorm.run stormyAmongOthers ∧
    (forkStorm.run stormyAmongOthers).allPassed = true := by
  have summary : stormy.signals = stormyAmongOthers.signals := rfl
  have measured : forkStorm.SameMeasurements stormy stormyAmongOthers := ⟨rfl, rfl⟩
  have same := run_of_signals forkStorm summary measured
  refine ⟨⟨summary, measured⟩, same, ?_⟩
  rw [← same]
  decide +kernel

end HealthReport
