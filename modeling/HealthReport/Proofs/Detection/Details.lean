import HealthReport.Proofs.Detection.Signature
import HealthReport.Proofs.Report.Selection
import HealthReport.Proofs.Text.ByteOrder

/-!
# What the details of the checks tell

The outcome of a check and its detail are found in different ways. A check on a metric passes if any
anomaly of the metric is severe, and shows the value of the first one. The check of the metadata
passes if these count as true, and shows the names of their members. So a detail can say less than
the outcome: an anomaly without a number is said not to be found, and metadata that are no object
show no names.

Results:
1. `anomalyValue?_eq_none_iff`, `eq_metricWarned_of_detail`: when a metric has no value, and which
   checks show one.
2. `notFound_iff`: when a check says that an anomaly is not found.
3. `observerEffect_metadata`: what the check of the metadata shows.
-/
namespace HealthReport

/-! ## Definitions -/

/-- The metric whose value is the detail of a check, if a scenario has such a check. -/
def Scenario.valuedMetric? : Scenario → Option String
  | cpuBurn | forkStorm => some "cpu_utilization"
  | runqSaturation => some "cpu_psi_pressure"
  | tcpRetrans => some "tcp_retransmits"
  | memoryPressure | diskFlood | combined | observerEffect => none

namespace Report

/-- The first anomaly of the metric has no value that stands for a number. -/
def FirstUnread (r : Report) (metric : String) : Prop :=
  ∃ anomaly, r.FirstAnomaly metric anomaly ∧ (anomaly.get? "value").bind Json.coerced? = none

/-- The metadata count as true, but are no object. -/
def StrayMetadata (r : Report) : Prop :=
  ∃ metadata, r.root.get? "metadata" = some metadata ∧ Truthy metadata ∧
    ∀ members, metadata ≠ .object members

/-- The names of all members of the metadata, in the order of their bytes. -/
structure MetadataNames (r : Report) (names : List String) : Prop where
  complete : ∀ name, name ∈ names ↔ ∃ value, r.root.at? ["metadata", name] = some value
  ordered : names.Pairwise fun a b => Utf8.encode a < Utf8.encode b

/-! ## 1. Values that are not found -/

variable {r : Report} {metric : String}

/-- A metric has no value if no anomaly has the metric, or if the first one that does has no number;
the numbers of others do not count. -/
theorem anomalyValue?_eq_none_iff :
    r.anomalyValue? metric = none ↔ ¬ r.Lists metric ∨ r.FirstUnread metric := by
  constructor
  · intro unread
    rw [lists_iff_exists_first]
    by_cases listed : ∃ anomaly, r.FirstAnomaly metric anomaly
    · obtain ⟨anomaly, first⟩ := listed
      rw [first.anomalyValue?_eq] at unread
      exact .inr ⟨anomaly, first, unread⟩
    · exact .inl listed
  · rintro (unlisted | ⟨anomaly, first, unread⟩)
    · rw [lists_iff, Option.not_isSome_iff_eq_none] at unlisted
      rw [anomalyValue?, unlisted]
      rfl
    · rw [first.anomalyValue?_eq, unread]

theorem Shows.lists {rank : Nat} (shown : r.Shows metric rank) : r.Lists metric := by
  obtain ⟨anomaly, listed, named, -⟩ := shown
  exact ⟨anomaly, listed, named⟩

end Report

/-- A text differs from those that do not begin as it does. -/
theorem append_ne_of_not_isPrefix {start rest text : String}
    (apart : ¬ start.toList <+: text.toList) : start ++ rest ≠ text := by
  rintro rfl
  rw [String.toList_append] at apart
  exact apart (List.prefix_append _ _)

namespace Check

theorem valueDetail_eq_iff {x : Option Binary64} :
    valueDetail x = "anomaly not found" ↔ x = none := by
  cases x with
  | none => exact iff_of_true rfl rfl
  | some v => exact iff_of_false (append_ne_of_not_isPrefix (by decide)) (by simp)

theorem metricWarned_detail_iff {r : Report} {metric : String} :
    (metricWarned r metric).detail = "anomaly not found" ↔
      ¬ r.Lists metric ∨ r.FirstUnread metric :=
  valueDetail_eq_iff.trans Report.anomalyValue?_eq_none_iff

end Check

namespace Scenario

/-- Only the check on the metric of a scenario says that an anomaly is not found. -/
theorem eq_metricWarned_of_detail (s : Scenario) (r : Report) : ∀ c ∈ s.checks r,
    c.detail = "anomaly not found" →
      ∃ metric, s.valuedMetric? = some metric ∧ c = Check.metricWarned r metric := by
  -- Every other detail is fixed, or begins with fixed letters that tell it apart.
  cases s <;>
    simp (disch := decide) only [checks, Check.cpuBurn, Check.memoryPressure, Check.diskFlood,
      Check.forkStorm, Check.runqSaturation, Check.tcpRetrans, Check.combined,
      Check.observerEffect, Check.healthBelow, Check.healthDetail, Check.loadDetail,
      List.forall_mem_cons, List.not_mem_nil, String.append_assoc, ite_eq_iff,
      append_ne_of_not_isPrefix, String.reduceEq, and_false, or_false, false_imp_iff, implies_true,
      and_true, valuedMetric?, Option.some.injEq, exists_eq_left']

theorem filter_valuedName {s : Scenario} {metric : String} (valued : s.valuedMetric? = some metric)
    (r : Report) : (s.checks r).filter (·.name == metric ++ " WARNING+") =
      [Check.metricWarned r metric] := by
  cases s <;> cases valued <;> rfl

theorem eq_metricWarned_of_name {s : Scenario} {metric : String}
    (valued : s.valuedMetric? = some metric) {r : Report} {c : Check} (listed : c ∈ s.checks r)
    (named : c.name = metric ++ " WARNING+") : c = Check.metricWarned r metric := by
  have found : c ∈ (s.checks r).filter (·.name == metric ++ " WARNING+") :=
    List.mem_filter.2 ⟨listed, beq_iff_eq.2 named⟩
  rw [filter_valuedName valued r] at found
  exact List.mem_singleton.1 found

theorem metricWarned_mem {s : Scenario} {metric : String} (valued : s.valuedMetric? = some metric)
    (r : Report) : Check.metricWarned r metric ∈ s.checks r := by
  refine List.mem_of_mem_filter (p := (·.name == metric ++ " WARNING+")) ?_
  rw [filter_valuedName valued r]
  exact List.mem_singleton_self _

/-- A check says that an anomaly is not found if and only if it is the one on the metric of the
scenario, and no anomaly has the metric or the first that does has no number. If it passes, some
anomaly has the metric, so it says so for want of a number. -/
theorem notFound_iff (s : Scenario) (r : Report) :
    (∀ c ∈ s.checks r, c.detail = "anomaly not found" ↔
      ∃ metric, s.valuedMetric? = some metric ∧ c.name = metric ++ " WARNING+" ∧
        (¬ r.Lists metric ∨ r.FirstUnread metric)) ∧
    ∀ metric, s.valuedMetric? = some metric →
      ∃ c ∈ s.checks r, c.name = metric ++ " WARNING+" ∧ (c.passed = true ↔ r.Shows metric 1) ∧
        (c.passed = true → (c.detail = "anomaly not found" ↔ r.FirstUnread metric)) := by
  refine ⟨fun c listed => ⟨fun said => ?_, ?_⟩, fun metric valued => ?_⟩
  · obtain ⟨metric, valued, rfl⟩ := s.eq_metricWarned_of_detail r c listed said
    exact ⟨metric, valued, rfl, Check.metricWarned_detail_iff.1 said⟩
  · rintro ⟨metric, valued, named, unread⟩
    rw [eq_metricWarned_of_name valued listed named]
    exact Check.metricWarned_detail_iff.2 unread
  · refine ⟨_, metricWarned_mem valued r, rfl, Check.metricWarned_passed_iff, fun passed => ?_⟩
    have shown := Check.metricWarned_passed_iff.1 passed
    rw [Check.metricWarned_detail_iff, or_iff_right (not_not.2 shown.lists)]

end Scenario

namespace Report

/-- Anomalies of two metrics, the first of each without a number. -/
def unreadValues : Report :=
  ⟨.object [("summary", .object [("anomalies", .array [
    .object [("metric", .string "cpu_psi_pressure"), ("severity", .string "info"),
      ("value", .null)],
    .object [("metric", .string "cpu_psi_pressure"), ("severity", .string "critical"),
      ("value", .number (.integer 60))],
    .object [("metric", .string "cpu_utilization"), ("severity", .string "critical"),
      ("value", .string "n/a")]])])], by decide⟩

theorem notFound_of_unreadValues :
    ∃ c ∈ Scenario.runqSaturation.checks unreadValues,
      c.name = "cpu_psi_pressure WARNING+" ∧ c.passed = true ∧ c.detail = "anomaly not found" := by
  obtain ⟨c, listed, named, passed, said⟩ :=
    (Scenario.runqSaturation.notFound_iff unreadValues).2 "cpu_psi_pressure" rfl
  have shown : unreadValues.Shows "cpu_psi_pressure" 1 := ⟨_, .tail _ (.head _), rfl, by decide⟩
  refine ⟨c, listed, named, passed.2 shown, (said (passed.2 shown)).2 ?_⟩
  exact ⟨_, ⟨[], _, rfl, rfl, nofun⟩, rfl⟩

/-- A check that passes for an anomaly can say that there is none. -/
theorem unreadValues_passes_notFound :
    unreadValues.Lists "cpu_utilization" ∧
      ∃ c ∈ Scenario.cpuBurn.checks unreadValues,
        c.passed = true ∧ c.name = "cpu_utilization WARNING+" ∧ c.detail = "anomaly not found" :=
  ⟨⟨_, .tail _ (.tail _ (.head _)), rfl⟩, _, .head _, by decide +kernel, rfl, by decide +kernel⟩

/-! ## 2. The names in the metadata -/

variable {r : Report}

theorem isAscending_metadata (r : Report) : r.metadata.members.isAscending := by
  unfold Metadata.members
  cases held : r.metadata.raw.bind Json.members? with
  | none => rfl
  | some members =>
    obtain ⟨metadata, found, is_object⟩ := Option.bind_eq_some_iff.1 held
    obtain rfl := Json.members?_eq_some_iff.1 is_object
    exact Json.isAscending_of_isRegular (Json.isRegular_get? r.regular found)

theorem metadataNames (r : Report) : r.MetadataNames r.metadata.names where
  complete name := by
    rw [Metadata.names, ← Members.has_iff_mem_names, Members.has, get?_metadata,
      Option.isSome_iff_exists]
  ordered := by
    simp only [Utf8.encode_lt_encode_iff]
    exact of_decide_eq_true (isAscending_metadata r)

/-- Metadata that count as true are an object with members, or no object at all. -/
theorem truthy_metadata_iff :
    (∃ metadata, r.root.at? ["metadata"] = some metadata ∧ Truthy metadata) ↔
      (∃ members, r.root.get? "metadata" = some (.object members) ∧ members ≠ []) ∨
        r.StrayMetadata := by
  rw [at?_single, StrayMetadata]
  cases r.root.get? "metadata" with
  | none => simp
  | some metadata => cases metadata <;> simp [Truthy]

theorem strayMetadata_iff :
    r.StrayMetadata ↔
      (∃ metadata, r.root.at? ["metadata"] = some metadata ∧ Truthy metadata) ∧
        r.metadata.names = [] := by
  rw [at?_single, StrayMetadata]
  unfold Metadata.names Metadata.members Members.names
  rw [metadata, get?]
  cases r.root.get? "metadata" with
  | none => simp
  | some metadata => cases metadata <;> simp [Truthy, Json.members?]

/-- The check of the metadata passes for an object with members, but also for any other value that
counts as true. It shows the names of the members, so it passes with no name to show exactly for
such a value. -/
theorem observerEffect_metadata (r : Report) :
    ∃ c ∈ Scenario.observerEffect.checks r, c.name = "report has metadata" ∧
      ∃ names, r.MetadataNames names ∧
        (c.passed = true ↔
          (∃ members, r.root.get? "metadata" = some (.object members) ∧ members ≠ []) ∨
            r.StrayMetadata) ∧
        (c.passed = true → c.detail = "keys=[" ++ ", ".intercalate names ++ "]") ∧
        (c.passed = false → c.detail = "no metadata") ∧
        (c.passed = true ∧ names = [] ↔ r.StrayMetadata) := by
  refine ⟨_, .head _, rfl, _, r.metadataNames, ?_, ?_, ?_, ?_⟩
  · exact Check.metadata_isEmpty_iff.trans truthy_metadata_iff
  · intro passed
    rw [Bool.not_eq_true'] at passed
    exact if_neg (Bool.eq_false_iff.1 passed)
  · intro failed
    rw [Bool.not_eq_false'] at failed
    exact if_pos failed
  · rw [Check.metadata_isEmpty_iff]
    exact strayMetadata_iff.symm

/-- A report whose metadata are a list. -/
def listedMetadata : Report := ⟨.object [("metadata", .array [.null])], by decide⟩

/-- The check passes without any member to name. -/
theorem listedMetadata_passes :
    (∀ members, listedMetadata.root.get? "metadata" ≠ some (.object members)) ∧
      ∃ c ∈ Scenario.observerEffect.checks listedMetadata,
        c.name = "report has metadata" ∧ c.passed = true ∧ c.detail = "keys=[]" :=
  ⟨nofun, _, .head _, rfl, rfl, rfl⟩

end Report

end HealthReport
