import HealthReport.Proofs.Detection.Signals
import HealthReport.Proofs.Validation.Footprint

/-!
# Collectors that gave errors only

A collector that gave errors and nothing else has no measured fields, so no scenario asks it
anything. A report without some of these collectors is checked with the same outcome.

Results:
1. `dataField?_of_isErrorOnly`, `memoryPercent?_of_isErrorOnly`: such a collector measured nothing.
2. `filterMap_results_withoutErrorOnly`: what is measured does not change without it.
3. `checks_withoutErrorOnly`: neither do the checks, and no such collector is left if all are left
   out.
-/
namespace HealthReport

/-! ## Definitions -/

/-- The entry is a result with errors and nothing else. -/
def Json.isErrorOnly (entry : Json) : Bool :=
  (entry.members?.map fun members => CollectorResult.isErrorOnly ⟨members⟩).getD false

/-- Leaves out those results with errors only that are chosen, by category and place. -/
def Report.withoutErrorOnly (chosen : String → Nat → Bool) (r : Report) : Report :=
  r.onCategories
    (fun category value =>
      value.withoutItems fun index entry => chosen category index && entry.isErrorOnly)
    fun _ _ regular => Json.isRegular_withoutItems regular

/-! ## 1. What such a collector measured -/

section

variable {result : CollectorResult} (failed : result.isErrorOnly = true)

include failed

theorem CollectorResult.dataField?_of_isErrorOnly (name : String) :
    result.dataField? name = none := by
  have none_measured : result.hasData = false := by
    simp only [isErrorOnly, Bool.and_eq_true, Bool.not_eq_true', Bool.or_eq_false_iff] at failed
    exact failed.2.1.1.1
  unfold hasData at none_measured
  unfold dataField? data?
  cases held : result.members.get? "data" with
  | none => rfl
  | some value =>
    rw [held] at none_measured
    cases value with
    | object members =>
      obtain rfl : members = [] := by simpa using none_measured
      rfl
    | null => rfl
    | bool _ | number _ | string _ | array _ => cases none_measured

theorem Report.memoryPercent?_of_isErrorOnly : memoryPercent? result = none := by
  rw [memoryPercent?, CollectorResult.dataField?_of_isErrorOnly failed,
    CollectorResult.dataField?_of_isErrorOnly failed]
  rfl

end

/-! ## 2. Reports without such collectors -/

/-- Items that give nothing may as well be left out. -/
theorem Json.filterMap_remaining {α : Type} {f : Json → Option α} {left : Nat → Json → Bool}
    (idle : ∀ index item, left index item = true → f item = none) (items : List Json) :
    (remaining left items).filterMap f = items.filterMap f := by
  have gives : ∀ place ∈ items.zipIdx,
      (if (!left place.2 place.1) = true then f place.1 else none) = f place.1 := by
    rintro ⟨item, index⟩ -
    cases leaves : left index item with
    | false => rfl
    | true => exact (idle index item leaves).symm
  calc (remaining left items).filterMap f
      = items.zipIdx.filterMap fun place =>
          if (!left place.2 place.1) = true then f place.1 else none := by
        rw [remaining, List.filterMap_map, List.filterMap_filter]
        rfl
    _ = items.zipIdx.filterMap fun place => f place.1 := List.filterMap_congr gives
    _ = (items.zipIdx.map (·.1)).filterMap f := List.filterMap_map.symm
    _ = items.filterMap f := by rw [List.zipIdx_map_fst]

namespace Report

variable {chosen : String → Nat → Bool} {r : Report}

/-- What such a result gives nothing to is the same without it. -/
theorem filterMap_results_withoutErrorOnly {α : Type} {f : CollectorResult → Option α}
    (idle : ∀ result, result.isErrorOnly = true → f result = none) (category : String) :
    ((r.withoutErrorOnly chosen).results category).filterMap f =
      (r.results category).filterMap f := by
  -- Entry by entry, since only the entries say which of them are left out.
  let entryWise : Json → Option α := fun entry => entry.members?.bind fun members => f ⟨members⟩
  have idle' : ∀ index entry, (chosen category index && entry.isErrorOnly) = true →
      entryWise entry = none := by
    intro index entry leaves
    rw [Bool.and_eq_true] at leaves
    cases entry with
    | object members => exact idle ⟨members⟩ leaves.2
    | null | bool _ | number _ | string _ | array _ => rfl
  have results : ∀ s : Report, (s.results category).filterMap f =
      (((s.root.at? ["categories", category]).bind Json.items?).getD []).filterMap entryWise := by
    intro s
    rw [results_eq, Json.objectsAt, List.filterMap_map, List.filterMap_filterMap]
    rfl
  rw [results, results, withoutErrorOnly, at?_onCategories]
  cases r.root.at? ["categories", category] with
  | none => rfl
  | some value =>
    cases value with
    | array entries => exact Json.filterMap_remaining idle' entries
    | null | bool _ | number _ | string _ | object _ => rfl

theorem signals_withoutErrorOnly (chosen : String → Nat → Bool) (r : Report) :
    (r.withoutErrorOnly chosen).signals = r.signals := by
  have summary : (r.withoutErrorOnly chosen).root.get? "summary" = r.root.get? "summary" :=
    get?_onCategories r (by decide)
  simp only [signals, Json.stated?, Json.objectsAt, Json.at?, summary]

theorem sameReadings_withoutErrorOnly (chosen : String → Nat → Bool) (r : Report) (s : Scenario) :
    s.SameReadings (r.withoutErrorOnly chosen) r := by
  have number : ∀ category name, (r.withoutErrorOnly chosen).lastDataNumber? category name =
      r.lastDataNumber? category name := by
    intro category name
    rw [lastDataNumber?, lastDataNumber?, filterMap_results_withoutErrorOnly fun result failed =>
      CollectorResult.dataField?_of_isErrorOnly failed name]
  cases s with
  | forkStorm => exact fun asked _ => number asked.1 asked.2
  | memoryPressure =>
    show (r.withoutErrorOnly chosen).memoryUsedPercent? = r.memoryUsedPercent?
    rw [memoryUsedPercent?, memoryUsedPercent?, filterMap_results_withoutErrorOnly fun _ failed =>
      memoryPercent?_of_isErrorOnly failed]
  | observerEffect => exact congrArg Metadata.mk (get?_onCategories r (by decide))
  | cpuBurn | diskFlood | runqSaturation | tcpRetrans | combined => trivial

/-- Nothing is left to advise of if all such results are left out. -/
theorem advisory_withoutErrorOnly (r : Report) :
    (r.withoutErrorOnly fun _ _ => true).assess.advisory = none := by
  refine advisory_eq_none fun category entries found entry among members object => ?_
  rw [withoutErrorOnly, at?_onCategories, Option.map_eq_some_iff] at found
  obtain ⟨value, -, changed⟩ := found
  cases value with
  | array others =>
    obtain rfl := Json.array.inj changed
    obtain ⟨index, -, stays⟩ := Json.getElem?_of_mem_remaining among
    subst object
    exact stays
  | null | bool _ | number _ | string _ | object _ => cases changed

/-- No check of any scenario notices whether collectors that gave errors only are in the report,
since they measured nothing. -/
theorem checks_withoutErrorOnly (r : Report) :
    (∀ (chosen : String → Nat → Bool) (s : Scenario),
      s.checks (r.withoutErrorOnly chosen) = s.checks r) ∧
    (∀ result : CollectorResult, result.isErrorOnly = true →
      ∀ name, result.dataField? name = none) ∧
    (r.withoutErrorOnly fun _ _ => true).assess.advisory = none := by
  refine ⟨fun chosen s => ?_, fun result failed => ?_, advisory_withoutErrorOnly r⟩
  · exact s.checks_congr (sameAnswers_of_signals (signals_withoutErrorOnly chosen r))
      (sameReadings_withoutErrorOnly chosen r s)
  · exact CollectorResult.dataField?_of_isErrorOnly failed

end Report

/-- A collector that failed. Its data are there and empty. -/
def failedCollector : Members :=
  [("collector", .string "numa"), ("data", .object []), ("errors", .array [.string "no access"])]

/-- A report with measured memory and a collector that failed after it. -/
def halfMeasured : Report :=
  ⟨.object [("categories", .object [("memory", .array [
        .object [("data", .object [("available_bytes", .number (.integer 10)),
          ("total_bytes", .number (.integer 100))])],
        .object failedCollector])]),
      ("metadata", .null), ("summary", .null)], by decide⟩

theorem Report.checks_withoutErrorOnly_of_halfMeasured :
    (CollectorResult.isErrorOnly ⟨failedCollector⟩ = true ∧
      CollectorResult.dataField? ⟨failedCollector⟩ "total_bytes" = none) ∧
    ((halfMeasured.withoutErrorOnly fun _ index => index = 1).results "memory").length = 1 ∧
    Scenario.memoryPressure.checks (halfMeasured.withoutErrorOnly fun _ index => index = 1) =
      Scenario.memoryPressure.checks halfMeasured ∧
    halfMeasured.assess.advisory = some ⟨["numa"]⟩ ∧
    (halfMeasured.withoutErrorOnly fun _ _ => true).assess.advisory = none := by
  have failed : CollectorResult.isErrorOnly ⟨failedCollector⟩ = true := by decide
  obtain ⟨checks, unmeasured, quiet⟩ := checks_withoutErrorOnly halfMeasured
  exact ⟨⟨failed, unmeasured ⟨failedCollector⟩ failed "total_bytes"⟩, by decide,
    checks _ .memoryPressure, by decide +kernel, quiet⟩

end HealthReport
