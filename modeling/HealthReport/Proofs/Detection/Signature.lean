import HealthReport.Detection.Verdict
import HealthReport.Proofs.Report.Query

/-!
# The signatures of the scenarios

A run of a scenario ends well if all its checks pass. For each scenario this module says what the
report has to show for that.

Results:
1. `exitStatus_run`: the status tells whether all checks pass.
2. `exitStatus_run_iff`: all checks of a scenario pass exactly if the report shows its signature.
-/
namespace HealthReport

/-! ## Definitions -/

/-- What a report has to show for a scenario. -/
def Scenario.Signature (r : Report) : Scenario → Prop
  | cpuBurn =>
    r.Shows "cpu_utilization" 1 ∧ (r.Shows "load_average" 1 ∨ r.Shows "cpu_psi_pressure" 1) ∧
      r.HealthUnder 70 ∧ r.root.objectsAt ["summary", "recommendations"] ≠ []
  | memoryPressure =>
    (r.Shows "memory_utilization" 1 ∨ r.MemoryOver 80) ∧
      (r.Shows "memory_utilization" 1 ∨ r.Shows "swap_usage" 0 ∨ r.Shows "memory_psi_pressure" 0 ∨
        r.MemoryOver 85) ∧
      r.HealthUnder 80
  | diskFlood =>
    (r.Shows "disk_utilization" 1 ∨ r.Shows "io_psi_pressure" 1 ∨ r.Shows "cpu_iowait" 1 ∨
      r.Shows "disk_avg_latency" 1) ∧ r.HealthUnder 90
  -- The number of processes does not count: the busy processor is a way to pass that check.
  | forkStorm =>
    r.Shows "cpu_utilization" 1 ∧ r.MeasuresOver "cpu" "context_switches_per_sec" 50000
  | runqSaturation =>
    (r.Shows "load_average" 2 ∨ r.Shows "cpu_psi_pressure" 2) ∧ r.Shows "cpu_psi_pressure" 1 ∧
      r.HealthUnder 50
  | tcpRetrans =>
    r.Shows "tcp_retransmits" 1 ∧ (r.Recommends "retrans" ∨ r.Recommends "tcp")
  | combined =>
    2 ≤ r.anomalyCategories.length ∧ r.HealthUnder 80 ∧
      3 ≤ (r.root.objectsAt ["summary", "anomalies"]).length
  | observerEffect =>
    (∃ metadata, r.root.at? ["metadata"] = some metadata ∧ Truthy metadata) ∧
      ∃ score, r.root.at? ["summary", "health_score"] = some score ∧ score ≠ .null

/-! ## 1. Checks and their verdict -/

theorem exitStatus_run {s : Scenario} {r : Report} :
    (s.run r).exitStatus = 0 ↔ ∀ c ∈ s.checks r, c.passed = true := by
  unfold Verdict.exitStatus Verdict.allPassed Scenario.run
  rw [← List.all_eq_true]
  constructor
  · intro ended
    by_contra failed
    rw [if_neg failed] at ended
    cases ended
  · intro passed
    rw [if_pos passed]

namespace Check

theorem warned_iff {r : Report} {metric : String} :
    warned r metric = true ↔ r.Shows metric 1 :=
  Report.hasAnomaly_iff

theorem critical_iff {r : Report} {metric : String} :
    critical r metric = true ↔ r.Shows metric 2 :=
  Report.hasAnomaly_iff

theorem anyAnomaly_iff {r : Report} {metric : String} :
    r.hasAnomaly metric none = true ↔ r.Shows metric 0 :=
  Report.hasAnomaly_iff

theorem exceeds_iff {x : Option Binary64} {limit : Int} :
    exceeds x limit = true ↔ ∃ y, x = some y ∧ (Binary64.ofInt limit).less y = true :=
  Report.getD_map_iff

theorem exceeds_measured_iff {r : Report} {category name : String} {limit : Int}
    (small : limit.natAbs < Binary64.wholeLimit) :
    exceeds (r.lastDataNumber? category name) limit = true ↔ r.MeasuresOver category name limit :=
  exceeds_iff.trans (Report.lastDataNumber?_exceeds_iff small)

theorem exceeds_memory_iff {r : Report} {limit : Int} :
    exceeds r.memoryUsedPercent? limit = true ↔ r.MemoryOver limit :=
  exceeds_iff.trans Report.memoryUsedPercent?_exceeds_iff

theorem healthBelow_passed_iff {r : Report} {limit : Nat} (small : limit < Binary64.wholeLimit) :
    (healthBelow r limit).passed = true ↔ r.HealthUnder limit :=
  Report.healthBelow_iff small

theorem metricWarned_passed_iff {r : Report} {metric : String} :
    (metricWarned r metric).passed = true ↔ r.Shows metric 1 :=
  warned_iff

/-! ## 2. The checks of each scenario -/

theorem cpuBurn_passed_iff {r : Report} :
    (∀ c ∈ cpuBurn r, c.passed = true) ↔ Scenario.cpuBurn.Signature r := by
  have advised : 0 < r.recommendations.length ↔
      r.root.objectsAt ["summary", "recommendations"] ≠ [] := by
    rw [Report.length_recommendations, List.length_pos_iff]
  simp only [cpuBurn, List.forall_mem_cons, metricWarned_passed_iff, Bool.or_eq_true, warned_iff,
    healthBelow_passed_iff (show 70 < Binary64.wholeLimit by decide), decide_eq_true_eq, advised,
    List.not_mem_nil, false_imp_iff, implies_true, and_true, Scenario.Signature]
  rfl

theorem memoryPressure_passed_iff {r : Report} :
    (∀ c ∈ memoryPressure r, c.passed = true) ↔ Scenario.memoryPressure.Signature r := by
  simp only [memoryPressure, List.forall_mem_cons, Bool.or_eq_true, warned_iff, anyAnomaly_iff,
    exceeds_memory_iff, healthBelow_passed_iff (show 80 < Binary64.wholeLimit by decide),
    List.not_mem_nil, false_imp_iff, implies_true, and_true, Scenario.Signature, or_assoc]
  rfl

theorem diskFlood_passed_iff {r : Report} :
    (∀ c ∈ diskFlood r, c.passed = true) ↔ Scenario.diskFlood.Signature r := by
  simp only [diskFlood, List.forall_mem_cons, Bool.or_eq_true, warned_iff,
    healthBelow_passed_iff (show 90 < Binary64.wholeLimit by decide), List.not_mem_nil,
    false_imp_iff, implies_true, and_true, Scenario.Signature, or_assoc]
  rfl

theorem forkStorm_passed_iff {r : Report} :
    (∀ c ∈ forkStorm r, c.passed = true) ↔ Scenario.forkStorm.Signature r := by
  simp only [forkStorm, List.forall_mem_cons, Bool.or_eq_true, warned_iff, metricWarned_passed_iff,
    exceeds_measured_iff (show Int.natAbs 50000 < Binary64.wholeLimit by decide),
    List.not_mem_nil, false_imp_iff, implies_true, and_true, Scenario.Signature]
  constructor
  · intro passed
    obtain ⟨busy, switches, -⟩ := passed
    exact ⟨busy, switches⟩
  · intro shown
    obtain ⟨busy, switches⟩ := shown
    exact ⟨busy, switches, .inr busy⟩

/-- The latency of the run queue never counts. -/
theorem runqSaturation_passed_iff {r : Report} :
    (∀ c ∈ runqSaturation r, c.passed = true) ↔ Scenario.runqSaturation.Signature r := by
  simp only [runqSaturation, List.forall_mem_cons, Bool.or_eq_true, critical_iff,
    metricWarned_passed_iff, healthBelow_passed_iff (show 50 < Binary64.wholeLimit by decide),
    List.not_mem_nil, false_imp_iff, implies_true, and_true, Scenario.Signature]
  rfl

theorem tcpRetrans_passed_iff {r : Report} :
    (∀ c ∈ tcpRetrans r, c.passed = true) ↔ Scenario.tcpRetrans.Signature r := by
  have retrans : r.hasRecommendation "retrans" = true ↔ r.Recommends "retrans" :=
    Report.hasRecommendation_iff (by decide) (by decide)
  have tcp : r.hasRecommendation "tcp" = true ↔ r.Recommends "tcp" :=
    Report.hasRecommendation_iff (by decide) (by decide)
  simp only [tcpRetrans, List.forall_mem_cons, Bool.or_eq_true, metricWarned_passed_iff, retrans,
    tcp, List.not_mem_nil, false_imp_iff, implies_true, and_true, Scenario.Signature]

theorem combined_passed_iff {r : Report} :
    (∀ c ∈ combined r, c.passed = true) ↔ Scenario.combined.Signature r := by
  simp only [combined, List.forall_mem_cons, decide_eq_true_eq, Report.length_anomalies,
    healthBelow_passed_iff (show 80 < Binary64.wholeLimit by decide), List.not_mem_nil,
    false_imp_iff, implies_true, and_true, Scenario.Signature]
  rfl

theorem metadata_isEmpty_iff {r : Report} : (!r.metadata.isEmpty) = true ↔
    ∃ metadata, r.root.at? ["metadata"] = some metadata ∧ Truthy metadata := by
  rw [Metadata.isEmpty, Bool.not_not, Report.getD_map_iff]
  simp only [Report.isTruthy_iff, Report.metadata, Report.get?, Report.at?_single]

theorem observerEffect_passed_iff {r : Report} :
    (∀ c ∈ observerEffect r, c.passed = true) ↔ Scenario.observerEffect.Signature r := by
  have score : r.summary.healthScore?.isSome = true ↔
      ∃ score, r.root.at? ["summary", "health_score"] = some score ∧ score ≠ .null := by
    rw [Option.isSome_iff_exists, Summary.healthScore?]
    simp only [Members.present?_eq_some_iff, Report.get?_summary]
  simp only [observerEffect, List.forall_mem_cons, metadata_isEmpty_iff, score, List.not_mem_nil,
    false_imp_iff, implies_true, and_true, Scenario.Signature]

end Check

/-! ## 3. The exit status -/

/-- A scenario ends with status 0 exactly if the report shows its signature. -/
theorem Scenario.exitStatus_run_iff (s : Scenario) (r : Report) :
    (s.run r).exitStatus = 0 ↔ s.Signature r := by
  rw [exitStatus_run]
  cases s with
  | cpuBurn => exact Check.cpuBurn_passed_iff
  | memoryPressure => exact Check.memoryPressure_passed_iff
  | diskFlood => exact Check.diskFlood_passed_iff
  | forkStorm => exact Check.forkStorm_passed_iff
  | runqSaturation => exact Check.runqSaturation_passed_iff
  | tcpRetrans => exact Check.tcpRetrans_passed_iff
  | combined => exact Check.combined_passed_iff
  | observerEffect => exact Check.observerEffect_passed_iff

end HealthReport
