import HealthReport.Proofs.Validation.FailFast
import HealthReport.Proofs.Validation.FailedCollectors

/-!
# What validation logs

The log of a validation tells what it found: first each collector with errors and nothing else, as
the search comes across it, then the advisory, the defects and the totals of the outcome. Where the
search ends early it comes across no collector, and then there is no advisory either.

Results:
1. `records_eq`: what is logged of an outcome.
2. `assessmentLog_of_scanned`, `assessmentLog_of_early`: what is logged of the search.
3. `isTranscript_assessmentLog`: the log as a whole.
-/
namespace HealthReport

/-! ## Definitions -/

/-- The part of the program that validation logs for. -/
def validationTarget : String := "melisai_verify::validate"

/-- The record about an entry with errors and nothing else. -/
inductive PlacedEntry.NotedAs (entry : PlacedEntry) : Log.Record → Prop
  | label {label : String} (named : CollectorLabel entry.members entry.index label) :
      NotedAs entry ⟨.debug, validationTarget, "error-only collector",
        [("category", .text entry.category), ("collector", .text label)]⟩

def Advisory.record (a : Advisory) : Log.Record :=
  ⟨.warn, validationTarget, a.message, [("count", .count a.collectors.length)]⟩

def Defect.record (d : Defect) : Log.Record :=
  ⟨.debug, validationTarget, d.message, [("code", .text d.code.code)]⟩

/-- The record with the totals. -/
def Assessment.total (a : Assessment) : Log.Record :=
  ⟨.info, validationTarget, "report validated",
    [("valid", .flag a.isValid), ("errors", .count a.defects.length),
      ("categories", .count a.categoryCount), ("results", .count a.resultCount)]⟩

namespace Report

/-- The search looks at every entry of the report: no member of the root is absent, and the
categories are an object. -/
structure Scanned (r : Report) : Prop where
  complete : r.Lacks []
  categories : ∃ categories, r.root.get? "categories" = some (.object categories)

/-- What the log tells of the report and of the outcome of its validation. -/
structure Told (r : Report) (notes warnings defects : List Log.Record) (total : Log.Record) :
    Prop where
  inOrder : ∃ entries : List PlacedEntry, entries.Pairwise PlacedEntry.Before ∧
    (∀ entry, entry ∈ entries ↔ r.Scanned ∧ r.FailedAt entry) ∧
    List.Forall₂ PlacedEntry.NotedAs entries notes
  /-- The advisory names the collectors that have been noted. -/
  advised : ∀ a, r.assess.advisory = some a →
    List.Forall₂ (fun label note => ("collector", .text label) ∈ note.fields) a.collectors notes
  unadvised : r.assess.advisory = none ↔ notes = []
  warned : warnings = r.assess.advisory.toList.map Advisory.record
  listed : defects = r.assess.defects.map Defect.record
  counted : total = r.assess.total

/-- The log is one that tells everything, part after part. -/
def IsTranscript (r : Report) (log : List Log.Record) : Prop :=
  ∃ notes warnings defects total, log = notes ++ warnings ++ defects ++ [total] ∧
    r.Told notes warnings defects total

end Report

/-! ## 1. The outcome -/

theorem Assessment.records_eq (a : Assessment) :
    a.records = a.advisory.toList.map Advisory.record ++ a.defects.map Defect.record ++ [a.total] :=
  rfl

namespace Report

variable {r : Report} {categories : Members}

/-! ## 2. The search -/

/-- The record about an entry, as the search writes it. -/
def noteOf (entry : PlacedEntry) : Log.Record :=
  ⟨.debug, validationTarget, "error-only collector",
    [("category", .text entry.category),
      ("collector", .text (collectorLabel ⟨entry.members⟩ entry.index))]⟩

theorem notedAs_noteOf (entry : PlacedEntry) : entry.NotedAs (noteOf entry) :=
  .label (collectorLabel_iff.2 rfl)

/-- A search to the end notes the entries with errors and nothing else. -/
theorem assessmentLog_of_scanned (complete : r.Lacks [])
    (found : r.root.get? "categories" = some (.object categories)) :
    r.assessmentLog = (failed categories).map noteOf ++ r.assess.records := by
  simp only [assessmentLog, missingTopLevel_eq_iff.2 complete, categories?_eq_some_iff.2 found]
  rw [errorOnly_eq, List.map_map]
  rfl

theorem advisory_assess_of_scanned (complete : r.Lacks [])
    (found : r.root.get? "categories" = some (.object categories)) :
    r.assess.advisory = advisory? categories := by
  simp only [assess, missingTopLevel_eq_iff.2 complete, categories?_eq_some_iff.2 found]

/-- Nothing is noted in a search that ends early, and there is no advisory. -/
theorem assessmentLog_of_early (early : ¬ r.Scanned) :
    r.assessmentLog = r.assess.records ∧ r.assess.advisory = none := by
  cases missing : r.missingTopLevel with
  | cons name names => simp [assessmentLog, assess, missing]
  | nil =>
    cases found : r.categories? with
    | none => simp [assessmentLog, assess, missing, found]
    | some categories =>
      exact absurd ⟨missingTopLevel_eq_iff.1 missing, categories, categories?_eq_some_iff.1 found⟩
        early

/-- Validation logs for itself, and nothing at the least level. -/
theorem target_level_assessmentLog (r : Report) :
    ∀ record ∈ r.assessmentLog, record.target = validationTarget ∧ record.level ≠ .trace := by
  intro record logged
  rw [assessmentLog, Assessment.records_eq, List.mem_append, List.mem_append, List.mem_append,
    List.mem_singleton] at logged
  obtain noted | (warned | listed) | rfl := logged
  · obtain ⟨_, -, rfl⟩ := List.mem_map.1 noted
    exact ⟨rfl, nofun⟩
  · obtain ⟨_, -, rfl⟩ := List.mem_map.1 warned
    exact ⟨rfl, nofun⟩
  · obtain ⟨_, -, rfl⟩ := List.mem_map.1 listed
    exact ⟨rfl, nofun⟩
  · exact ⟨rfl, nofun⟩

/-! ## 3. The log -/

theorem told_of_scanned (complete : r.Lacks [])
    (found : r.root.get? "categories" = some (.object categories)) :
    r.Told ((failed categories).map noteOf) (r.assess.advisory.toList.map Advisory.record)
      (r.assess.defects.map Defect.record) r.assess.total where
  inOrder := by
    refine ⟨failed categories, pairwise_failed found, fun entry => ?_, ?_⟩
    · rw [mem_failed_iff found, and_iff_right ⟨complete, categories, found⟩]
    · rw [List.forall₂_map_right_iff, List.forall₂_same]
      exact fun entry _ => notedAs_noteOf entry
  advised a given := by
    rw [advisory_assess_of_scanned complete found] at given
    rw [(advisory?_eq_some_iff.1 given).2, List.forall₂_map_left_iff, List.forall₂_map_right_iff,
      List.forall₂_same]
    exact fun entry _ => List.mem_cons_of_mem _ List.mem_cons_self
  unadvised := by
    rw [advisory_assess_of_scanned complete found, List.map_eq_nil_iff, advisory?, errorOnly_eq]
    cases failed categories <;> simp
  warned := rfl
  listed := rfl
  counted := rfl

theorem told_of_early (early : ¬ r.Scanned) :
    r.Told [] (r.assess.advisory.toList.map Advisory.record)
      (r.assess.defects.map Defect.record) r.assess.total where
  inOrder := ⟨[], .nil, fun entry => iff_of_false List.not_mem_nil fun both => early both.1, .nil⟩
  advised a given := by
    rw [(assessmentLog_of_early early).2] at given
    cases given
  unadvised := iff_of_true (assessmentLog_of_early early).2 rfl
  warned := rfl
  listed := rfl
  counted := rfl

/-- Whatever the report, its log tells the search and the outcome. -/
theorem isTranscript_assessmentLog (r : Report) : r.IsTranscript r.assessmentLog := by
  by_cases scanned : r.Scanned
  · obtain ⟨complete, categories, found⟩ := scanned
    refine ⟨_, _, _, _, ?_, told_of_scanned complete found⟩
    rw [assessmentLog_of_scanned complete found, Assessment.records_eq]
    simp only [List.append_assoc]
  · refine ⟨_, _, _, _, ?_, told_of_early scanned⟩
    rw [(assessmentLog_of_early scanned).1, Assessment.records_eq, List.nil_append]

end Report

end HealthReport
