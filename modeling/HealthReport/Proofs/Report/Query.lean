import HealthReport.Proofs.Binary64.Rounding
import HealthReport.Proofs.Json.Members
import HealthReport.Report.Query

/-!
# What the questions about a report ask

Each question about a report is answered by the views of its parts. This module says what the
answers mean for the document itself.

Results:
1. `hasAnomaly_iff`, `healthBelow_iff`, `hasRecommendation_iff`: when each question is answered
   with yes.
2. `lastDataNumber?_exceeds_iff`, `memoryUsedPercent?_exceeds_iff`: when the last measurement is
   above a limit.
3. `two_le_length_anomalyCategories_iff`: when there are several categories of anomalies.
-/
namespace HealthReport

/-! ## Definitions -/

/-- How severe an anomaly is: the rank of its label, 0 if that is unknown or missing. -/
def severityRank (anomaly : Members) : Nat :=
  match anomaly.get? "severity" with
  | some (.string label) =>
    if label = "warning" then 1 else if label = "critical" then 2 else if label = "error" then 3
    else 0
  | _ => 0

/-- The value counts as true: it is neither null nor false nor zero nor empty. -/
def Truthy : Json → Prop
  | .null => False
  | .bool b => b = true
  | .number n => n.value ≠ 0
  | .string s => s ≠ ""
  | .array items => items ≠ []
  | .object members => members ≠ []

namespace Report

/-- Some anomaly has exactly this metric and at least this rank of severity. -/
def Shows (r : Report) (metric : String) (rank : Nat) : Prop :=
  ∃ anomaly ∈ r.root.objectsAt ["summary", "anomalies"],
    anomaly.get? "metric" = some (.string metric) ∧ rank ≤ severityRank anomaly

/-- The health score is a number below a limit. -/
def HealthUnder (r : Report) (limit : Int) : Prop :=
  ∃ n : Number, r.root.at? ["summary", "health_score"] = some (.number n) ∧ n.value < limit

/-- The text is the title or the evidence of some recommendation, empty where there is none. -/
def Advises (r : Report) (text : String) : Prop :=
  ∃ advice ∈ r.root.objectsAt ["summary", "recommendations"],
    ∃ name ∈ ["title", "evidence"], advice.textOf name = text

/-- The title or the evidence of some recommendation, in lower case, contains the word. -/
def Recommends (r : Report) (word : String) : Prop :=
  ∃ recommendation ∈ r.root.objectsAt ["summary", "recommendations"],
    ∃ name ∈ ["title", "evidence"], ∃ text, recommendation.get? name = some (.string text) ∧
      word.toList <:+: (lowercase text).toList

/-- The value is the field's in the last result of a category whose data have the field. -/
def LastField (r : Report) (category name : String) (value : Json) : Prop :=
  ∃ before result after, r.root.objectsAt ["categories", category] = before ++ result :: after ∧
    (Json.object result).at? ["data", name] = some value ∧
    ∀ later ∈ after, (Json.object later).at? ["data", name] = none

/-- The last result of a category that has the field gives a number above a limit for it. -/
def MeasuresOver (r : Report) (category name : String) (limit : Int) : Prop :=
  ∃ n : Number, r.LastField category name (.number n) ∧ limit < n.value

/-- A measured field of a result as a number, zero if it stands for none. -/
def measured (result : Members) (name : String) : Binary64 :=
  (((Json.object result).at? ["data", name]).bind Json.coerced?).getD
    (.finite (Finite64.zero false))

/-- The total memory of a result is positive. -/
def HasMemory (result : Members) : Prop :=
  (Binary64.ofInt 0).less (measured result "total_bytes") = true

/-- The memory in use in percent of the total, in double precision. -/
def usedPercent (result : Members) : Binary64 :=
  let total := measured result "total_bytes"
  ((total.sub (measured result "available_bytes")).div total).mul (Binary64.ofInt 100)

/-- The result is the last one on memory with a positive total. -/
def LastMemory (r : Report) (result : Members) : Prop :=
  ∃ before after, r.root.objectsAt ["categories", "memory"] = before ++ result :: after ∧
    HasMemory result ∧ ∀ later ∈ after, ¬ HasMemory later

/-- The last result on memory with a positive total has more of it in use than a limit. -/
def MemoryOver (r : Report) (limit : Int) : Prop :=
  ∃ before result after, r.root.objectsAt ["categories", "memory"] = before ++ result :: after ∧
    HasMemory result ∧ (∀ later ∈ after, ¬ HasMemory later) ∧
    (Binary64.ofInt limit).less (usedPercent result) = true

/-! ## 1. Anomalies, health and recommendations -/

theorem anomalies_eq (r : Report) :
    r.anomalies = (r.root.objectsAt ["summary", "anomalies"]).map Anomaly.mk := by
  rw [anomalies, Summary.anomalies, objects_summary]

theorem recommendations_eq (r : Report) :
    r.recommendations =
      (r.root.objectsAt ["summary", "recommendations"]).map Recommendation.mk := by
  rw [recommendations, Summary.recommendations, objects_summary]

theorem mem_anomalies_iff {r : Report} {a : Anomaly} :
    a ∈ r.anomalies ↔ a.members ∈ r.root.objectsAt ["summary", "anomalies"] := by
  rw [anomalies_eq, List.mem_map]
  constructor
  · rintro ⟨members, inside, rfl⟩
    exact inside
  · intro inside
    exact ⟨a.members, inside, rfl⟩

theorem length_anomalies (r : Report) :
    r.anomalies.length = (r.root.objectsAt ["summary", "anomalies"]).length := by
  rw [anomalies_eq, List.length_map]

theorem length_recommendations (r : Report) :
    r.recommendations.length = (r.root.objectsAt ["summary", "recommendations"]).length := by
  rw [recommendations_eq, List.length_map]

theorem rankOf_eq (label : String) :
    Severity.rankOf label =
      if label = "warning" then 1 else if label = "critical" then 2 else if label = "error" then 3
      else 0 := by
  unfold Severity.rankOf
  cases found : Severity.ofLabel? label with
  | none =>
    -- An unknown label is none of those that have a rank above 0.
    have other : ∀ s : Severity, label ≠ s.label := by
      rintro s rfl
      rw [Severity.ofLabel?_label] at found
      cases found
    rw [if_neg (show label ≠ "warning" from other .warning),
      if_neg (show label ≠ "critical" from other .critical),
      if_neg (show label ≠ "error" from other .error)]
    rfl
  | some s =>
    unfold Severity.ofLabel? at found
    have same := List.find?_some found
    rw [beq_iff_eq] at same
    subst same
    cases s <;> rfl

theorem rankOf_severity (a : Anomaly) : Severity.rankOf a.severity = severityRank a.members := by
  rw [Anomaly.severity, Members.textOf, severityRank]
  cases found : a.members.get? "severity" with
  | none => rfl
  | some held =>
    cases held with
    | string label => exact rankOf_eq label
    | null | bool _ | number _ | array _ | object _ => rfl

theorem hasAnomaly_iff {r : Report} {metric : String} {least : Option Severity} :
    r.hasAnomaly metric least = true ↔ r.Shows metric ((least.map Severity.rank).getD 0) := by
  simp only [hasAnomaly, List.any_eq_true, Bool.and_eq_true, beq_iff_eq, mem_anomalies_iff,
    Severity.meets, decide_eq_true_eq, rankOf_severity, Anomaly.metric?, Option.bind_eq_some_iff,
    Json.string?_eq_some_iff, exists_eq_right]
  constructor
  · intro answered
    obtain ⟨a, inside, named, reached⟩ := answered
    exact ⟨a.members, inside, named, reached⟩
  · intro shown
    obtain ⟨members, inside, named, reached⟩ := shown
    exact ⟨⟨members⟩, inside, named, reached⟩

theorem getD_map_iff {α : Type} {o : Option α} {p : α → Bool} :
    (o.map p).getD false = true ↔ ∃ x, o = some x ∧ p x = true := by
  cases o <;> simp

theorem healthBelow_iff {r : Report} {limit : Int} (small : limit.natAbs < Binary64.wholeLimit) :
    r.healthBelow (Binary64.ofInt limit) = true ↔ r.HealthUnder limit := by
  have score : ∀ n : Number, r.summary.healthScore? = some (.number n) ↔
      r.root.at? ["summary", "health_score"] = some (.number n) := by
    intro n
    rw [Summary.healthScore?, Members.present?_eq_some_iff, get?_summary]
    exact and_iff_left (by simp)
  simp only [healthBelow, getD_map_iff, healthScore?, Summary.healthNumber?, Option.map_eq_some_iff,
    Option.bind_eq_some_iff, Json.number?_eq_some_iff, exists_eq_right, score]
  constructor
  · intro answered
    obtain ⟨_, ⟨n, held, rfl⟩, below⟩ := answered
    exact ⟨n, held, (Number.toBinary64_less_ofInt small).1 below⟩
  · intro under
    obtain ⟨n, held, below⟩ := under
    exact ⟨_, ⟨n, held, rfl⟩, (Number.toBinary64_less_ofInt small).2 below⟩

theorem mem_recommendations_iff {r : Report} {recommendation : Recommendation} :
    recommendation ∈ r.recommendations ↔
      recommendation.members ∈ r.root.objectsAt ["summary", "recommendations"] := by
  rw [recommendations_eq, List.mem_map]
  constructor
  · rintro ⟨members, inside, rfl⟩
    exact inside
  · intro inside
    exact ⟨recommendation.members, inside, rfl⟩

/-- A member that is no text is read as the empty text, in which no word occurs. -/
theorem infix_textOf_iff {members : Members} {name word : String} (some_letter : word ≠ "") :
    word.toList <:+: (lowercase (members.textOf name)).toList ↔
      ∃ text, members.get? name = some (.string text) ∧
        word.toList <:+: (lowercase text).toList := by
  have nowhere : ¬ word.toList <:+: (lowercase "").toList := by
    intro inside
    refine some_letter (String.toList_inj.1 ?_)
    exact List.infix_nil.1 inside
  unfold Members.textOf
  cases found : (members.get? name).bind Json.string? with
  | none =>
    rw [Option.getD_none, iff_false_left nowhere]
    rintro ⟨text, held, -⟩
    simp [held, Json.string?] at found
  | some text =>
    simp only [Option.bind_eq_some_iff, Json.string?_eq_some_iff, exists_eq_right] at found
    simp [found]

theorem hasRecommendation_iff_lowercase {r : Report} {needle : String} :
    r.hasRecommendation needle = true ↔
      ∃ text, r.Advises text ∧ (lowercase needle).toList <:+: (lowercase text).toList := by
  simp only [hasRecommendation, List.any_eq_true, Bool.or_eq_true, occursIn_iff,
    mem_recommendations_iff, Recommendation.title, Recommendation.evidence]
  constructor
  · rintro ⟨advice, listed, found | found⟩
    · exact ⟨_, ⟨_, listed, "title", by simp, rfl⟩, found⟩
    · exact ⟨_, ⟨_, listed, "evidence", by simp, rfl⟩, found⟩
  · rintro ⟨_, ⟨advice, listed, name, among, rfl⟩, found⟩
    refine ⟨⟨advice⟩, listed, ?_⟩
    simp only [List.mem_cons, List.not_mem_nil, or_false] at among
    rcases among with rfl | rfl
    · exact .inl found
    · exact .inr found

theorem hasRecommendation_iff {r : Report} {word : String} (some_letter : word ≠ "")
    (lower : lowercase word = word) : r.hasRecommendation word = true ↔ r.Recommends word := by
  rw [hasRecommendation_iff_lowercase, lower]
  constructor
  · rintro ⟨_, ⟨advice, listed, name, among, rfl⟩, found⟩
    exact ⟨advice, listed, name, among, (infix_textOf_iff some_letter).1 found⟩
  · rintro ⟨advice, listed, name, among, found⟩
    exact ⟨_, ⟨advice, listed, name, among, rfl⟩, (infix_textOf_iff some_letter).2 found⟩

/-! ## 2. The last measurement -/

/-- The last result of a search, with the place where it was found. -/
theorem getLast?_filterMap_eq_some_iff {α β : Type} {items : List α} {f : α → Option β} {b : β} :
    (items.filterMap f).getLast? = some b ↔ ∃ before item after,
      items = before ++ item :: after ∧ f item = some b ∧ ∀ later ∈ after, f later = none := by
  -- The last hit is the first one from the end, so before and after change places.
  rw [List.getLast?_filterMap, List.findSome?_eq_some_iff]
  constructor
  · rintro ⟨after, item, before, split, found, none_later⟩
    refine ⟨before.reverse, item, after.reverse, ?_, found, ?_⟩
    · have reversed := congrArg List.reverse split
      simpa using reversed
    · intro later member
      exact none_later later (List.mem_reverse.1 member)
  · rintro ⟨before, item, after, rfl, found, none_later⟩
    refine ⟨after.reverse, item, before.reverse, by simp, found, ?_⟩
    intro later member
    exact none_later later (List.mem_reverse.1 member)

theorem dataField?_eq (members : Members) (name : String) :
    CollectorResult.dataField? ⟨members⟩ name = (Json.object members).at? ["data", name] := by
  rw [at?_pair]
  rfl

theorem getLast?_dataField?_iff {r : Report} {category name : String} {value : Json} :
    ((r.results category).filterMap (·.dataField? name)).getLast? = some value ↔
      r.LastField category name value := by
  rw [results_eq, List.filterMap_map, getLast?_filterMap_eq_some_iff]
  simp only [Function.comp_apply, dataField?_eq]
  rfl

theorem lastDataNumber?_exceeds_iff {r : Report} {category name : String} {limit : Int}
    (small : limit.natAbs < Binary64.wholeLimit) :
    (∃ x, r.lastDataNumber? category name = some x ∧ (Binary64.ofInt limit).less x = true) ↔
      r.MeasuresOver category name limit := by
  simp only [lastDataNumber?, Option.bind_eq_some_iff, getLast?_dataField?_iff,
    Option.map_eq_some_iff, Json.number?_eq_some_iff]
  constructor
  · intro answered
    obtain ⟨_, ⟨_, last, n, rfl, rfl⟩, above⟩ := answered
    exact ⟨n, last, (Number.ofInt_less_toBinary64 small).1 above⟩
  · intro exceeded
    obtain ⟨n, last, above⟩ := exceeded
    exact ⟨_, ⟨_, last, n, rfl, rfl⟩, (Number.ofInt_less_toBinary64 small).2 above⟩

theorem numberOrZero_dataField? (members : Members) (name : String) :
    numberOrZero (CollectorResult.dataField? ⟨members⟩ name) = measured members name := by
  rw [numberOrZero, dataField?_eq, measured]

theorem memoryPercent?_eq_some_iff {members : Members} {percent : Binary64} :
    memoryPercent? ⟨members⟩ = some percent ↔
      HasMemory members ∧ usedPercent members = percent := by
  simp only [memoryPercent?, numberOrZero_dataField?, HasMemory, usedPercent, Binary64.ofInt_zero,
    Option.ite_none_right_eq_some, Option.some.injEq]

theorem memoryUsedPercent?_eq_some_iff {r : Report} {percent : Binary64} :
    r.memoryUsedPercent? = some percent ↔
      ∃ result, r.LastMemory result ∧ usedPercent result = percent := by
  have none_iff : ∀ members : Members, memoryPercent? ⟨members⟩ = none ↔ ¬ HasMemory members := by
    intro members
    rw [← not_iff_not, not_not, ← ne_eq, Option.ne_none_iff_exists']
    simp only [memoryPercent?_eq_some_iff, exists_and_left, exists_eq', and_true]
  rw [memoryUsedPercent?, results_eq, List.filterMap_map]
  simp only [getLast?_filterMap_eq_some_iff, Function.comp_apply, memoryPercent?_eq_some_iff,
    none_iff]
  constructor
  · rintro ⟨before, result, after, split, ⟨has, value⟩, later⟩
    exact ⟨result, ⟨before, after, split, has, later⟩, value⟩
  · rintro ⟨result, ⟨before, after, split, has, later⟩, value⟩
    exact ⟨before, result, after, split, ⟨has, value⟩, later⟩

theorem memoryUsedPercent?_exceeds_iff {r : Report} {limit : Int} :
    (∃ x, r.memoryUsedPercent? = some x ∧ (Binary64.ofInt limit).less x = true) ↔
      r.MemoryOver limit := by
  simp only [memoryUsedPercent?_eq_some_iff]
  constructor
  · rintro ⟨_, ⟨result, ⟨before, after, split, has, later⟩, rfl⟩, above⟩
    exact ⟨before, result, after, split, has, later, above⟩
  · rintro ⟨before, result, after, split, has, later, above⟩
    exact ⟨_, ⟨result, ⟨before, after, split, has, later⟩, rfl⟩, above⟩

/-! ## 3. Categories of anomalies -/

/-- Several values are left without repetition if two of them differ. -/
theorem two_le_length_eraseDupsBy_iff {α β : Type} [BEq β] [LawfulBEq β] {items : List α}
    {f : α → β} :
    2 ≤ (items.eraseDupsBy fun a b => f a == f b).length ↔ ∃ a ∈ items, ∃ b ∈ items, f a ≠ f b := by
  cases items with
  | nil => simp
  | cons head rest =>
    have others : 2 ≤ ((head :: rest).eraseDupsBy fun a b => f a == f b).length ↔
        ∃ b ∈ rest, f b ≠ f head := by
      rw [List.eraseDupsBy_cons, List.length_cons]
      have member : ∀ b, b ∈ (rest.filter fun b => (f b == f head) = false) ↔
          b ∈ rest ∧ f b ≠ f head := by
        intro b
        simp
      cases left : rest.filter fun b => (f b == f head) = false with
      | nil =>
        refine iff_of_false (by simp) ?_
        rintro ⟨b, inside, differs⟩
        have kept := (member b).2 ⟨inside, differs⟩
        rw [left] at kept
        cases kept
      | cons first others =>
        rw [List.eraseDupsBy_cons, List.length_cons]
        refine iff_of_true (by omega) ⟨first, (member first).1 ?_⟩
        rw [left]
        exact List.mem_cons_self
    rw [others]
    constructor
    · intro differ
      obtain ⟨b, member, differs⟩ := differ
      exact ⟨b, List.mem_cons_of_mem _ member, head, List.mem_cons_self, differs⟩
    · intro differ
      obtain ⟨a, member_a, b, member_b, differs⟩ := differ
      -- One of the two differs from the first item.
      by_cases same : f a = f head
      · have other : f b ≠ f head := fun both => differs (same.trans both.symm)
        refine ⟨b, ?_, other⟩
        exact (List.mem_cons.1 member_b).resolve_left fun first => other (first ▸ rfl)
      · refine ⟨a, ?_, same⟩
        exact (List.mem_cons.1 member_a).resolve_left fun first => same (first ▸ rfl)

/-- There are two labels of categories if two anomalies differ in the JSON text of their category,
where a category that is absent or null has none. -/
theorem two_le_length_anomalyCategories_iff {r : Report} :
    2 ≤ r.anomalyCategories.length ↔
      ∃ a ∈ r.root.objectsAt ["summary", "anomalies"],
        ∃ b ∈ r.root.objectsAt ["summary", "anomalies"],
          (a.present? "category").map Json.text ≠ (b.present? "category").map Json.text := by
  rw [anomalyCategories, List.length_mergeSort, List.length_map, two_le_length_eraseDupsBy_iff]
  simp only [List.mem_map, mem_anomalies_iff, Anomaly.category?]
  constructor
  · intro differ
    obtain ⟨_, ⟨a, inside, rfl⟩, _, ⟨b, inside', rfl⟩, differs⟩ := differ
    exact ⟨_, inside, _, inside', differs⟩
  · intro differ
    obtain ⟨a, inside, b, inside', differs⟩ := differ
    exact ⟨_, ⟨⟨a⟩, inside, rfl⟩, _, ⟨⟨b⟩, inside', rfl⟩, differs⟩

/-! ## 4. Values that count as true -/

theorem isTruthy_iff {value : Json} : value.isTruthy = true ↔ Truthy value := by
  cases value with
  | number n =>
    have zero := Number.toBinary64_equal_ofInt (m := n) (n := 0) (by decide)
    rw [Binary64.ofInt_zero] at zero
    rw [Json.isTruthy, Truthy, Bool.not_eq_true', ← Bool.not_eq_true, zero, Int.cast_zero]
  | null | bool _ => simp [Json.isTruthy, Truthy]
  | string s => simp [Json.isTruthy, Truthy]
  | array items => simp [Json.isTruthy, Truthy]
  | object members => simp [Json.isTruthy, Truthy]

end Report

end HealthReport
