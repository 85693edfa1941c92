import HealthReport.Proofs.Detection.Signature
import Mathlib.Order.Lattice.Nat

/-!
# Nested signatures

Scenarios ask for the same signals with different limits. What reaches a higher limit reaches every
lower one, so some checks of one scenario pass whenever those of another do.

Results:
1. `Shows.mono`, `HealthUnder.mono`, `MemoryOver.mono`: a signal that reaches one limit reaches the
   easier ones.
2. `hasAnomaly_iff_isGreatest`: the severities that the anomalies of a metric reach are those up to
   the highest among them.
3. `Scenario.signatures_nested`: which checks pass if others do.
-/
namespace HealthReport

/-! ## Definitions -/

/-- The check of a scenario at this place, counted from 0, passes. -/
def Scenario.Passes (s : Scenario) (r : Report) (place : Nat) : Prop :=
  ∃ c, (s.checks r)[place]? = some c ∧ c.passed = true

/-- The ranks of all anomalies of a metric. -/
def Report.ranks (r : Report) (metric : String) : Set Nat :=
  {rank | ∃ anomaly ∈ r.root.objectsAt ["summary", "anomalies"],
    anomaly.get? "metric" = some (.string metric) ∧ severityRank anomaly = rank}

/-! ## 1. Limits -/

namespace Report

variable {r : Report} {metric : String}

theorem Shows.mono {low high : Nat} (shown : r.Shows metric high) (at_most : low ≤ high) :
    r.Shows metric low := by
  obtain ⟨anomaly, listed, named, severe⟩ := shown
  exact ⟨anomaly, listed, named, Nat.le_trans at_most severe⟩

theorem HealthUnder.mono {low high : Int} (under : r.HealthUnder low) (at_most : low ≤ high) :
    r.HealthUnder high := by
  obtain ⟨n, score, below⟩ := under
  exact ⟨n, score, lt_of_lt_of_le below (Int.cast_le.2 at_most)⟩

theorem MemoryOver.mono {low high : Int} (past : r.MemoryOver high)
    (small_low : low.natAbs ≤ Binary64.wholeLimit) (small_high : high.natAbs ≤ Binary64.wholeLimit)
    (at_most : low ≤ high) : r.MemoryOver low := by
  obtain ⟨before, result, after, split, has, later, above⟩ := past
  exact ⟨before, result, after, split, has, later,
    Binary64.ofInt_less_of_le small_low small_high at_most above⟩

/-! ## 2. The highest severity -/

theorem severityRank_le (anomaly : Members) : severityRank anomaly ≤ 3 := by
  unfold severityRank
  split
  · split
    · decide
    split
    · decide
    split <;> decide
  · decide

theorem shows_iff_isGreatest {rank : Nat} :
    r.Shows metric rank ↔ ∃ top, IsGreatest (r.ranks metric) top ∧ rank ≤ top := by
  constructor
  · rintro ⟨anomaly, listed, named, severe⟩
    have bounded : BddAbove (r.ranks metric) := by
      refine ⟨3, ?_⟩
      rintro _ ⟨other, -, -, rfl⟩
      exact severityRank_le other
    have among : severityRank anomaly ∈ r.ranks metric := ⟨anomaly, listed, named, rfl⟩
    exact ⟨_, ⟨Nat.sSup_mem ⟨_, among⟩ bounded, fun _ other => le_csSup bounded other⟩,
      Nat.le_trans severe (le_csSup bounded among)⟩
  · rintro ⟨_, ⟨⟨anomaly, listed, named, rfl⟩, -⟩, severe⟩
    exact ⟨anomaly, listed, named, severe⟩

/-- The anomalies of a metric reach the severities up to the highest among them, and no other. -/
theorem hasAnomaly_iff_isGreatest {least : Option Severity} :
    r.hasAnomaly metric least = true ↔
      ∃ top, IsGreatest (r.ranks metric) top ∧ (least.map Severity.rank).getD 0 ≤ top :=
  hasAnomaly_iff.trans shows_iff_isGreatest

end Report

/-! ## 3. Checks that imply others -/

namespace Scenario

variable {r : Report}

theorem passes_of_healthUnder {s : Scenario} {place limit : Nat} {low : Int}
    (checked : (s.checks r)[place]? = some (Check.healthBelow r limit))
    (small : limit < Binary64.wholeLimit) (under : r.HealthUnder low) (at_most : low ≤ limit) :
    s.Passes r place :=
  ⟨_, checked, (Check.healthBelow_passed_iff small).2 (under.mono at_most)⟩

theorem passes_of_runqSaturation (passed : ∀ c ∈ runqSaturation.checks r, c.passed = true) :
    cpuBurn.Passes r 1 ∧ cpuBurn.Passes r 2 ∧ memoryPressure.Passes r 2 ∧ diskFlood.Passes r 1 ∧
      combined.Passes r 1 := by
  obtain ⟨-, stalled, under⟩ := Check.runqSaturation_passed_iff.1 passed
  refine ⟨⟨_, rfl, ?_⟩, passes_of_healthUnder rfl (by decide) under (by decide),
    passes_of_healthUnder rfl (by decide) under (by decide),
    passes_of_healthUnder rfl (by decide) under (by decide),
    passes_of_healthUnder rfl (by decide) under (by decide)⟩
  exact Bool.or_eq_true_iff.2 (.inr (Check.warned_iff.2 stalled))

theorem passes_of_cpuBurn (passed : cpuBurn.Passes r 0) :
    forkStorm.Passes r 0 ∧ forkStorm.Passes r 2 := by
  obtain ⟨_, ⟨⟩, busy⟩ := passed
  exact ⟨⟨_, rfl, busy⟩, _, rfl, Bool.or_eq_true_iff.2 (.inr busy)⟩

theorem passes_of_stalls (stalled : r.Shows "cpu_psi_pressure" 2) :
    runqSaturation.Passes r 0 ∧ runqSaturation.Passes r 1 := by
  refine ⟨⟨_, rfl, ?_⟩, _, rfl, ?_⟩
  · exact Bool.or_eq_true_iff.2 (.inr (Check.critical_iff.2 stalled))
  · exact Check.metricWarned_passed_iff.2 (stalled.mono (by decide))

theorem passes_of_memory (full : r.Shows "memory_utilization" 1 ∨ r.MemoryOver 85) :
    memoryPressure.Passes r 0 ∧ memoryPressure.Passes r 1 := by
  refine ⟨⟨_, rfl, ?_⟩, _, rfl, ?_⟩
  · rw [Bool.or_eq_true, Check.warned_iff, Check.exceeds_memory_iff]
    exact full.imp_right fun past => past.mono (by decide) (by decide) (by decide)
  · simp only [Bool.or_eq_true, Check.warned_iff, Check.exceeds_memory_iff]
    rcases full with used | past
    · exact .inl (.inl (.inl used))
    · exact .inr past

/-- Some checks of one scenario pass whenever those of another do, since they ask for no more of the
same signal, and a signal past the higher of two limits passes the checks for both. The severities
that the anomalies of a metric reach are those up to the highest among them, and to ask for none is
to ask for the lowest. -/
theorem signatures_nested (r : Report) :
    ((∀ c ∈ runqSaturation.checks r, c.passed = true) →
      cpuBurn.Passes r 1 ∧ cpuBurn.Passes r 2 ∧ memoryPressure.Passes r 2 ∧ diskFlood.Passes r 1 ∧
        combined.Passes r 1) ∧
    (cpuBurn.Passes r 0 → forkStorm.Passes r 0 ∧ forkStorm.Passes r 2) ∧
    (r.Shows "cpu_psi_pressure" 2 → runqSaturation.Passes r 0 ∧ runqSaturation.Passes r 1) ∧
    (r.Shows "memory_utilization" 1 ∨ r.MemoryOver 85 →
      memoryPressure.Passes r 0 ∧ memoryPressure.Passes r 1) ∧
    ∀ metric, r.hasAnomaly metric none = r.hasAnomaly metric (some .info) ∧
      ∀ least, r.hasAnomaly metric least = true ↔
        ∃ top, IsGreatest (r.ranks metric) top ∧ (least.map Severity.rank).getD 0 ≤ top :=
  ⟨passes_of_runqSaturation, passes_of_cpuBurn, passes_of_stalls, passes_of_memory,
    fun _ => ⟨rfl, fun _ => Report.hasAnomaly_iff_isGreatest⟩⟩

/-- A report with every signal of these scenarios. -/
def exhausted : Report :=
  ⟨.object [("summary", .object [
    ("anomalies", .array [
      .object [("metric", .string "cpu_utilization"), ("severity", .string "warning")],
      .object [("metric", .string "cpu_psi_pressure"), ("severity", .string "error")],
      .object [("metric", .string "memory_utilization"), ("severity", .string "critical")]]),
    ("health_score", .number (.integer 12))])], by decide⟩

theorem signatures_nested_of_exhausted :
    ((∀ c ∈ runqSaturation.checks exhausted, c.passed = true) ∧ cpuBurn.Passes exhausted 0 ∧
      exhausted.Shows "cpu_psi_pressure" 2 ∧
      (exhausted.Shows "memory_utilization" 1 ∨ exhausted.MemoryOver 85)) ∧
    (cpuBurn.Passes exhausted 2 ∧ combined.Passes exhausted 1) ∧ forkStorm.Passes exhausted 2 ∧
      runqSaturation.Passes exhausted 1 ∧ memoryPressure.Passes exhausted 1 := by
  have all_passed : ∀ c ∈ runqSaturation.checks exhausted, c.passed = true := by decide +kernel
  have busy : cpuBurn.Passes exhausted 0 := ⟨_, rfl, by decide +kernel⟩
  have stalled : exhausted.Shows "cpu_psi_pressure" 2 := ⟨_, .tail _ (.head _), rfl, by decide⟩
  have used : exhausted.Shows "memory_utilization" 1 :=
    ⟨_, .tail _ (.tail _ (.head _)), rfl, by decide⟩
  obtain ⟨saturated, burnt, pressed, full, -⟩ := signatures_nested exhausted
  obtain ⟨-, health, -, -, combined_health⟩ := saturated all_passed
  exact ⟨⟨all_passed, busy, stalled, .inl used⟩, ⟨health, combined_health⟩, (burnt busy).2,
    (pressed stalled).2, (full (.inl used)).2⟩

end Scenario

end HealthReport
