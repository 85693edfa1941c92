import HealthReport.Proofs.Detection.Signature
import HealthReport.Proofs.Report.Labels
import Mathlib.Data.Fintype.Card
import Mathlib.Data.List.Forall2

/-!
# More evidence detects no less

A report may hold all the evidence of another one: anomalies at least as severe, the same
recommendations and a health that is no better, with more of it around and in any order. Then it
passes every check that the other one passes.

Results:
1. `Matched.exists_of_mem`, `Matched.length_le`, `Matched.of_perm`: what a matching gives, and that
   a rearranged list is matched.
2. `EvidenceIn.covers`: what the checks ask for is kept when evidence is added.
3. `checks_carry`: each check of a scenario is kept.
4. `checks_of_evidenceIn`: scenarios are monotone in the evidence and blind to its order.
-/
namespace HealthReport

/-! ## Definitions -/

/-- Each item has a partner of its own among the others, wherever that stands. -/
def Matched {α : Type} (relates : α → α → Prop) (items others : List α) : Prop :=
  ∃ partner : Fin items.length → Fin others.length, Function.Injective partner ∧
    ∀ i, relates (items.get i) (others.get (partner i))

/-- The second anomaly has the metric and the category of the first, and it is at least as severe. A
category that is null counts as absent, and so does a metric that is no string. -/
structure Escalates (a b : Members) : Prop where
  metric : (a.get? "metric").bind Json.string? = (b.get? "metric").bind Json.string?
  category : a.present? "category" = b.present? "category"
  severity : severityRank a ≤ severityRank b

/-- The second health score is the first one, or both are numbers and the second is not larger. -/
inductive NoHealthier : Option Json → Option Json → Prop
  | same (score : Option Json) : NoHealthier score score
  | number {n m : Number} (lower : m.value ≤ n.value) :
      NoHealthier (some (.number n)) (some (.number m))

namespace Report

/-- All the evidence in the first report is in the second one too, and nothing else counts
differently in it. -/
structure EvidenceIn (r other : Report) : Prop where
  metadata : r.root.get? "metadata" = other.root.get? "metadata"
  categories : r.root.get? "categories" = other.root.get? "categories"
  anomalies : Matched Escalates (r.root.objectsAt ["summary", "anomalies"])
    (other.root.objectsAt ["summary", "anomalies"])
  recommendations : Matched Eq (r.root.objectsAt ["summary", "recommendations"])
    (other.root.objectsAt ["summary", "recommendations"])
  health : NoHealthier (r.root.stated? ["summary", "health_score"])
    (other.root.stated? ["summary", "health_score"])

/-- The reports hold the same evidence, in whatever order. -/
structure Rearranged (r other : Report) : Prop where
  metadata : r.root.get? "metadata" = other.root.get? "metadata"
  categories : r.root.get? "categories" = other.root.get? "categories"
  anomalies : (r.root.objectsAt ["summary", "anomalies"]).Perm
    (other.root.objectsAt ["summary", "anomalies"])
  recommendations : (r.root.objectsAt ["summary", "recommendations"]).Perm
    (other.root.objectsAt ["summary", "recommendations"])
  health : r.root.stated? ["summary", "health_score"] =
    other.root.stated? ["summary", "health_score"]

/-- Each answer that counts for a check is kept from the first report to the second one. -/
structure Covers (other r : Report) : Prop where
  shows : ∀ metric rank, r.Shows metric rank → other.Shows metric rank
  healthUnder : ∀ limit, r.HealthUnder limit → other.HealthUnder limit
  scored : r.summary.healthScore?.isSome → other.summary.healthScore?.isSome
  recommends : ∀ word, r.Recommends word → other.Recommends word
  recommendations : r.recommendations.length ≤ other.recommendations.length
  anomalies : r.anomalies.length ≤ other.anomalies.length
  labels : 2 ≤ r.anomalyCategories.length → 2 ≤ other.anomalyCategories.length
  metadata : r.metadata = other.metadata
  results : r.results = other.results

end Report

/-- The second check is the same one, and it passes if the first one does. -/
structure Check.Carries (before after : Check) : Prop where
  name : before.name = after.name
  passed : before.passed = true → after.passed = true

/-! ## 1. Matchings -/

namespace Matched

variable {α : Type} {relates : α → α → Prop} {items others : List α}

theorem exists_of_mem (matched : Matched relates items others) {item : α} (member : item ∈ items) :
    ∃ other ∈ others, relates item other := by
  obtain ⟨partner, -, related⟩ := matched
  obtain ⟨i, rfl⟩ := List.mem_iff_get.1 member
  exact ⟨_, List.get_mem others (partner i), related i⟩

theorem length_le (matched : Matched relates items others) : items.length ≤ others.length := by
  obtain ⟨partner, injective, -⟩ := matched
  simpa using Fintype.card_le_of_injective partner injective

open Classical in
/-- A list is matched by every list with the same items. -/
theorem of_perm (same : items.Perm others) (reflexive : ∀ item, relates item item) :
    Matched relates items others := by
  refine ⟨same.subperm.idxInj, same.subperm.idxInj_injective, fun i => ?_⟩
  have found : others.get (same.subperm.idxInj i) = items.get i :=
    List.Subperm.getElem_idxInj_eq_getElem same.subperm
  rw [found]
  exact reflexive _

end Matched

theorem Escalates.refl (anomaly : Members) : Escalates anomaly anomaly :=
  ⟨rfl, rfl, Nat.le_refl _⟩

namespace Report

theorem Rearranged.symm {r other : Report} (same : r.Rearranged other) : other.Rearranged r :=
  ⟨same.metadata.symm, same.categories.symm, same.anomalies.symm, same.recommendations.symm,
    same.health.symm⟩

theorem Rearranged.evidenceIn {r other : Report} (same : r.Rearranged other) :
    r.EvidenceIn other where
  metadata := same.metadata
  categories := same.categories
  anomalies := .of_perm same.anomalies Escalates.refl
  recommendations := .of_perm same.recommendations fun _ => rfl
  health := same.health ▸ .same _

end Report

/-! ## 2. What the checks ask for -/

theorem NoHealthier.exists_number {a b : Option Json} (health : NoHealthier a b) {n : Number}
    (number : a = some (.number n)) : ∃ m : Number, b = some (.number m) ∧ m.value ≤ n.value := by
  cases health with
  | same => exact ⟨n, number, Rat.le_refl⟩
  | number lower =>
    cases number
    exact ⟨_, rfl, lower⟩

theorem NoHealthier.isSome {a b : Option Json} (health : NoHealthier a b) (known : a.isSome) :
    b.isSome := by
  cases health with
  | same => exact known
  | number _ => rfl

namespace Report

theorem stated?_eq_number_iff {root : Json} {path : List String} {n : Number} :
    root.stated? path = some (.number n) ↔ root.at? path = some (.number n) := by
  simp [Json.stated?, Option.filter_eq_some_iff, Json.isNull]

namespace EvidenceIn

variable {r other : Report} (evidence : r.EvidenceIn other)

include evidence

theorem shows {metric : String} {rank : Nat} (shown : r.Shows metric rank) :
    other.Shows metric rank := by
  obtain ⟨anomaly, inside, named, severe⟩ := shown
  obtain ⟨escalated, inside', escalates⟩ := evidence.anomalies.exists_of_mem inside
  have same : (escalated.get? "metric").bind Json.string? = some metric := by
    rw [← escalates.metric, named]
    rfl
  refine ⟨escalated, inside', ?_, Nat.le_trans severe escalates.severity⟩
  simpa [Option.bind_eq_some_iff] using same

theorem healthUnder {limit : Int} (under : r.HealthUnder limit) : other.HealthUnder limit := by
  obtain ⟨n, score, below⟩ := under
  obtain ⟨m, score', lower⟩ := evidence.health.exists_number (stated?_eq_number_iff.2 score)
  exact ⟨m, stated?_eq_number_iff.1 score', lt_of_le_of_lt lower below⟩

theorem recommends {word : String} (advised : r.Recommends word) : other.Recommends word := by
  obtain ⟨recommendation, inside, found⟩ := advised
  obtain ⟨_, inside', rfl⟩ := evidence.recommendations.exists_of_mem inside
  exact ⟨recommendation, inside', found⟩

/-- Two anomalies of different categories have partners of these categories. -/
theorem two_le_length_anomalyCategories (several : 2 ≤ r.anomalyCategories.length) :
    2 ≤ other.anomalyCategories.length := by
  rw [two_le_length_anomalyCategories_iff] at several ⊢
  obtain ⟨a, inside_a, b, inside_b, differ⟩ := several
  obtain ⟨a', inside_a', escalates_a⟩ := evidence.anomalies.exists_of_mem inside_a
  obtain ⟨b', inside_b', escalates_b⟩ := evidence.anomalies.exists_of_mem inside_b
  refine ⟨a', inside_a', b', inside_b', ?_⟩
  rw [← escalates_a.category, ← escalates_b.category]
  exact differ

theorem results : r.results = other.results := by
  have same : r.categories? = other.categories? := by
    rw [categories?, get?, evidence.categories]
    rfl
  funext category
  rw [Report.results, same]
  rfl

/-- Whatever counts for a check is kept when evidence is added. -/
theorem covers : Covers other r where
  shows _ _ := evidence.shows
  healthUnder _ := evidence.healthUnder
  scored known := by
    rw [Summary.healthScore?, present?_summary] at known ⊢
    exact evidence.health.isSome known
  recommends _ := evidence.recommends
  recommendations := by
    rw [length_recommendations, length_recommendations]
    exact evidence.recommendations.length_le
  anomalies := by
    rw [length_anomalies, length_anomalies]
    exact evidence.anomalies.length_le
  labels := evidence.two_le_length_anomalyCategories
  metadata := congrArg Metadata.mk evidence.metadata
  results := evidence.results

end EvidenceIn

theorem map_category?_anomalies (r : Report) :
    r.anomalies.map Anomaly.category? =
      (r.root.objectsAt ["summary", "anomalies"]).map (·.present? "category") := by
  rw [anomalies_eq, List.map_map]
  rfl

theorem Rearranged.anomalyCategories {r other : Report} (same : r.Rearranged other) :
    r.anomalyCategories = other.anomalyCategories := by
  refine anomalyCategories_eq_of_texts fun text => ?_
  rw [map_category?_anomalies, map_category?_anomalies]
  exact ((same.anomalies.map _).map _).mem_iff

end Report

/-! ## 3. The checks -/

namespace Check

theorem passed_of_carries {before after : List Check} (carried : List.Forall₂ Carries before after)
    (all : ∀ c ∈ before, c.passed = true) : ∀ c ∈ after, c.passed = true := by
  induction carried with
  | nil => exact all
  | cons first _ ih =>
    rw [List.forall_mem_cons] at all ⊢
    exact ⟨first.passed all.1, ih all.2⟩

theorem map_passed_of_carries {before after : List Check}
    (forth : List.Forall₂ Carries before after) (back : List.Forall₂ Carries after before) :
    before.map (·.passed) = after.map (·.passed) := by
  induction forth with
  | nil => rfl
  | cons first _ ih =>
    cases back with
    | cons first' rest' =>
      rw [List.map_cons, List.map_cons, ih rest', Bool.eq_iff_iff.2 ⟨first.passed, first'.passed⟩]

variable {r other : Report} (covers : Report.Covers other r)

include covers

theorem metricWarned_carries (metric : String) :
    Carries (metricWarned r metric) (metricWarned other metric) :=
  ⟨rfl, fun passed =>
    metricWarned_passed_iff.2 (covers.shows metric 1 (metricWarned_passed_iff.1 passed))⟩

theorem healthBelow_carries {limit : Nat} (small : limit < Binary64.wholeLimit) :
    Carries (healthBelow r limit) (healthBelow other limit) :=
  ⟨rfl, fun passed => (healthBelow_passed_iff small).2
    (covers.healthUnder limit ((healthBelow_passed_iff small).1 passed))⟩

theorem warned_of_covers {metric : String} (shown : warned r metric = true) :
    warned other metric = true :=
  warned_iff.2 (covers.shows metric 1 (warned_iff.1 shown))

theorem critical_of_covers {metric : String} (shown : critical r metric = true) :
    critical other metric = true :=
  critical_iff.2 (covers.shows metric 2 (critical_iff.1 shown))

theorem hasAnomaly_of_covers {metric : String} (shown : r.hasAnomaly metric none = true) :
    other.hasAnomaly metric none = true :=
  anyAnomaly_iff.2 (covers.shows metric 0 (anyAnomaly_iff.1 shown))

theorem lastDataNumber?_of_covers (category name : String) :
    r.lastDataNumber? category name = other.lastDataNumber? category name := by
  rw [Report.lastDataNumber?, covers.results]
  rfl

theorem memoryUsedPercent?_of_covers : r.memoryUsedPercent? = other.memoryUsedPercent? := by
  rw [Report.memoryUsedPercent?, covers.results]
  rfl

theorem cpuBurn_carries : List.Forall₂ Carries (cpuBurn r) (cpuBurn other) := by
  refine .cons (metricWarned_carries covers _) (.cons ⟨rfl, ?_⟩
    (.cons (healthBelow_carries covers (by decide)) (.cons ⟨rfl, ?_⟩ .nil)))
  · simp only [Bool.or_eq_true]
    exact Or.imp (warned_of_covers covers) (warned_of_covers covers)
  · simp only [decide_eq_true_eq]
    intro advised
    exact Nat.lt_of_lt_of_le advised covers.recommendations

theorem memoryPressure_carries :
    List.Forall₂ Carries (memoryPressure r) (memoryPressure other) := by
  rw [memoryPressure, memoryPressure, memoryUsedPercent?_of_covers covers]
  refine .cons ⟨rfl, ?_⟩ (.cons ⟨rfl, ?_⟩
    (.cons (healthBelow_carries covers (by decide)) .nil))
  · simp only [Bool.or_eq_true]
    exact Or.imp_left (warned_of_covers covers)
  · simp only [Bool.or_eq_true]
    exact Or.imp_left (Or.imp (Or.imp (warned_of_covers covers) (hasAnomaly_of_covers covers))
      (hasAnomaly_of_covers covers))

theorem diskFlood_carries : List.Forall₂ Carries (diskFlood r) (diskFlood other) := by
  refine .cons ⟨rfl, ?_⟩ (.cons (healthBelow_carries covers (by decide)) .nil)
  simp only [Bool.or_eq_true]
  exact Or.imp (Or.imp (Or.imp (warned_of_covers covers) (warned_of_covers covers))
    (warned_of_covers covers)) (warned_of_covers covers)

theorem forkStorm_carries : List.Forall₂ Carries (forkStorm r) (forkStorm other) := by
  simp only [forkStorm, lastDataNumber?_of_covers covers]
  refine .cons (metricWarned_carries covers _) (.cons ⟨rfl, id⟩ (.cons ⟨rfl, ?_⟩ .nil))
  simp only [Bool.or_eq_true]
  exact Or.imp_right (warned_of_covers covers)

/-- The latency of the run queue may be another one: its check passes anyway. -/
theorem runqSaturation_carries :
    List.Forall₂ Carries (runqSaturation r) (runqSaturation other) := by
  refine .cons ⟨rfl, ?_⟩ (.cons (metricWarned_carries covers _)
    (.cons (healthBelow_carries covers (by decide)) (.cons ⟨rfl, fun _ => rfl⟩ .nil)))
  simp only [Bool.or_eq_true]
  exact Or.imp (critical_of_covers covers) (critical_of_covers covers)

theorem tcpRetrans_carries : List.Forall₂ Carries (tcpRetrans r) (tcpRetrans other) := by
  have kept : ∀ word, word ≠ "" → lowercase word = word →
      r.hasRecommendation word = true → other.hasRecommendation word = true := by
    intro word some_letter lower advised
    rw [Report.hasRecommendation_iff some_letter lower] at advised ⊢
    exact covers.recommends word advised
  refine .cons (metricWarned_carries covers _) (.cons ⟨rfl, ?_⟩ .nil)
  simp only [Bool.or_eq_true]
  exact Or.imp (kept "retrans" (by decide) (by decide)) (kept "tcp" (by decide) (by decide))

theorem combined_carries : List.Forall₂ Carries (combined r) (combined other) := by
  refine .cons ⟨rfl, ?_⟩ (.cons (healthBelow_carries covers (by decide)) (.cons ⟨rfl, ?_⟩ .nil))
  · simp only [decide_eq_true_eq]
    exact covers.labels
  · simp only [decide_eq_true_eq]
    intro many
    exact Nat.le_trans many covers.anomalies

theorem observerEffect_carries :
    List.Forall₂ Carries (observerEffect r) (observerEffect other) := by
  rw [observerEffect, observerEffect, covers.metadata]
  exact .cons ⟨rfl, id⟩ (.cons ⟨rfl, covers.scored⟩ .nil)

/-- In each scenario every check is kept. -/
theorem checks_carry (s : Scenario) : List.Forall₂ Carries (s.checks r) (s.checks other) := by
  cases s with
  | cpuBurn => exact cpuBurn_carries covers
  | memoryPressure => exact memoryPressure_carries covers
  | diskFlood => exact diskFlood_carries covers
  | forkStorm => exact forkStorm_carries covers
  | runqSaturation => exact runqSaturation_carries covers
  | tcpRetrans => exact tcpRetrans_carries covers
  | combined => exact combined_carries covers
  | observerEffect => exact observerEffect_carries covers

end Check

/-! ## 4. Runs -/

namespace Scenario

/-- Every check that passes passes with more evidence too, so a scenario that is detected stays
detected; and the order of the evidence changes neither a check nor the labels of the categories.
The parts of the reports are compared by equality, for which `0.0` and `-0.0` are two values. -/
theorem checks_of_evidenceIn (s : Scenario) (r other : Report) :
    (r.EvidenceIn other → List.Forall₂ Check.Carries (s.checks r) (s.checks other) ∧
      ((s.run r).exitStatus = 0 → (s.run other).exitStatus = 0)) ∧
    (r.Rearranged other → (s.checks r).map (·.passed) = (s.checks other).map (·.passed) ∧
      r.anomalyCategories = other.anomalyCategories) := by
  constructor
  · intro evidence
    have carried := Check.checks_carry evidence.covers s
    refine ⟨carried, ?_⟩
    rw [exitStatus_run, exitStatus_run]
    exact Check.passed_of_carries carried
  · intro same
    have forth := Check.checks_carry same.evidenceIn.covers s
    have back := Check.checks_carry same.symm.evidenceIn.covers s
    exact ⟨Check.map_passed_of_carries forth back, same.anomalyCategories⟩

end Scenario

namespace Report

/-- A processor that is kept busy, told by two anomalies. -/
def busy : Report :=
  ⟨.object [("categories", .null), ("metadata", .null), ("summary", .object [
    ("anomalies", .array [
      .object [("category", .string "cpu"), ("metric", .string "cpu_utilization"),
        ("severity", .string "warning")],
      .object [("metric", .string "load_average"), ("severity", .string "warning")]]),
    ("health_score", Json.ofNat 65),
    ("recommendations", .array [.object [("title", .string "Reduce load")]])])], by decide⟩

/-- The same anomalies the other way round. -/
def busyReversed : Report :=
  ⟨.object [("categories", .null), ("metadata", .null), ("summary", .object [
    ("anomalies", .array [
      .object [("metric", .string "load_average"), ("severity", .string "warning")],
      .object [("category", .string "cpu"), ("metric", .string "cpu_utilization"),
        ("severity", .string "warning")]]),
    ("health_score", Json.ofNat 65),
    ("recommendations", .array [.object [("title", .string "Reduce load")]])])], by decide⟩

/-- A report with more anomalies, of which the first two stand the other way round and one is more
severe, and with a worse health. -/
def busier : Report :=
  ⟨.object [("categories", .null), ("metadata", .null), ("summary", .object [
    ("anomalies", .array [
      .object [("category", .null), ("metric", .string "load_average"),
        ("severity", .string "critical")],
      .object [("metric", .string "swap_usage")],
      .object [("category", .string "cpu"), ("metric", .string "cpu_utilization"),
        ("severity", .string "warning")]]),
    ("health_score", Json.ofNat 40),
    ("recommendations", .array [.object [("title", .string "Reduce load")]])])], by decide⟩

theorem evidenceIn_busier : busy.EvidenceIn busier where
  metadata := rfl
  categories := rfl
  anomalies := by
    -- The first anomaly is found in the last place and the second one in the first.
    refine ⟨fun i : Fin 2 => (⟨2 - 2 * i, by omega⟩ : Fin 3), fun i j same => ?_, fun i => ?_⟩
    · have places : 2 - 2 * i.val = 2 - 2 * j.val := Fin.mk.inj same
      have small : i.val < 2 ∧ j.val < 2 := ⟨i.isLt, j.isLt⟩
      exact Fin.ext (by omega)
    · match i with
      | ⟨0, _⟩ => exact ⟨rfl, rfl, (by decide : 1 ≤ 1)⟩
      | ⟨1, _⟩ => exact ⟨rfl, rfl, (by decide : 1 ≤ 2)⟩
  recommendations := .of_perm (.refl _) fun _ => rfl
  health := .number (by norm_num [Number.value])

end Report

open Report Scenario in
theorem Scenario.checks_of_evidenceIn_of_busier :
    busy.EvidenceIn busier ∧ busy.Rearranged busyReversed ∧
      List.Forall₂ Check.Carries (cpuBurn.checks busy) (cpuBurn.checks busier) ∧
      (cpuBurn.run busier).exitStatus = 0 ∧
      (cpuBurn.checks busy).map (·.passed) = (cpuBurn.checks busyReversed).map (·.passed) ∧
      busy.anomalyCategories = busyReversed.anomalyCategories := by
  have reversed : busy.Rearranged busyReversed := ⟨rfl, rfl, .swap _ _ _, .refl _, rfl⟩
  have more := (checks_of_evidenceIn cpuBurn busy busier).1 evidenceIn_busier
  have same := (checks_of_evidenceIn cpuBurn busy busyReversed).2 reversed
  exact ⟨evidenceIn_busier, reversed, more.1, more.2 (by decide +kernel), same⟩

end HealthReport
