import HealthReport.CommandLine.Conclusion
import HealthReport.Proofs.Json.RoundTrip
import HealthReport.Proofs.Validation.Completeness
import Mathlib.Algebra.Order.BigOperators.Group.List

/-!
# The documents about a validation

What `verify` writes in JSON: the document of an assessment, or the one about a fault of the file.
Both say whether the report is valid and describe each error by its entry in the catalog.

Results:
1. `catalogued_defectJson`, `catalogued_advisoryJson`, `catalogued_faultItem`: every item comes
   from the catalog.
2. `index_lt_resultCount`: the indices in defects are those of entries.
3. `read_toJson`, `read_faultJson`: the documents are read back with all checks.
-/
namespace HealthReport

/-- The item is an object with a message, and with the code, the category and the remediation of
one entry of the catalog. -/
def Catalogued (item : Json) : Prop :=
  ∃ (code : ErrorCode) (message : String),
    item.get? "code" = some (.string code.entry.code) ∧
    item.get? "category" = some (.string code.entry.category.label) ∧
    item.get? "message" = some (.string message) ∧
    item.get? "remediation" = some (Json.ofStrings code.entry.remediation) ∧
    code.entry.remediation ≠ []

/-! ## 1. The items of a document -/

theorem ErrorCode.remediation_ne_nil (code : ErrorCode) : code.remediation ≠ [] := by
  cases code <;> decide

theorem Assessment.catalogued_defectJson (d : Defect) : Catalogued (Assessment.defectJson d) :=
  ⟨d.code, d.message, rfl, rfl, rfl, rfl, d.code.remediation_ne_nil⟩

theorem Assessment.catalogued_advisoryJson (a : Advisory) :
    Catalogued (Assessment.advisoryJson a) :=
  ⟨.errorOnlyCollectors, a.message, rfl, rfl, rfl, rfl, by decide⟩

/-- The only error in the document about a fault. -/
def CommandLine.faultItem (fault : LoadFault) : Json :=
  .object [("category", .string fault.code.category.label), ("code", .string fault.code.code),
    ("message", .string fault.message), ("remediation", Json.ofStrings fault.code.remediation)]

theorem CommandLine.faultJson_eq (fault : LoadFault) :
    CommandLine.faultJson fault = .object [("errors", .array [CommandLine.faultItem fault]),
      ("valid", .bool false), ("warnings", .array [])] := rfl

theorem CommandLine.catalogued_faultItem (fault : LoadFault) :
    Catalogued (CommandLine.faultItem fault) :=
  ⟨fault.code, fault.message, rfl, rfl, rfl, rfl, fault.code.remediation_ne_nil⟩

/-! ## 2. Indices and counts -/

/-- The index of the entry that a defect is about, if it says one. -/
def Defect.index? : Defect → Option Nat
  | .resultNotObject _ index => some index
  | .missingCollector _ index => some index
  | _ => none

namespace Report

theorem length_le_entryCount {categories : Members} {name : String} {entries : List Json}
    (member : (name, Json.array entries) ∈ categories) :
    entries.length ≤ entryCount categories := by
  rw [entryCount, ← List.sum_eq_foldr]
  apply List.le_sum_of_mem
  exact List.mem_map.2 ⟨_, member, rfl⟩

theorem index_lt_length_of_flaw {root : Json} {site : Site} {d : Defect} {index : Nat}
    (flaw : Flaw root site d) (indexed : d.index? = some index) :
    ∃ category entries, root.at? ["categories", category] = some (.array entries) ∧
      index < entries.length := by
  cases flaw with
  | entry found place flaw =>
    have inside := (List.getElem?_eq_some_iff.1 place).1
    cases flaw with
    | notObject _ | noCollector _ =>
      cases indexed
      exact ⟨_, _, found, inside⟩
    | noCategory _ _ | noTier _ _ | badTier _ _ _ => cases indexed
  | tool _ | selfPid _ _ | mandatory _ _ | array _ _ | results _ | health _ => cases indexed

/-- The indices in defects are those of entries. -/
theorem index_lt_resultCount {r : Report} {d : Defect} (member : d ∈ r.assess.defects) {index : Nat}
    (indexed : d.index? = some index) : index < r.assess.resultCount := by
  unfold assess at member ⊢
  cases missing : r.missingTopLevel with
  | cons name names =>
    simp only [missing] at member
    obtain rfl := List.mem_singleton.1 member
    cases indexed
  | nil =>
    cases held : r.categories? with
    | none =>
      simp only [missing, held] at member
      -- Without an object of categories there is no entry, so no defect says an index.
      have nowhere : ∀ category, r.root.at? ["categories", category] = none := by
        intro category
        rw [at?_pair]
        show r.categories?.bind _ = none
        rw [held, Option.bind_none]
      have flaw : ∃ site, Flaw r.root site d := by
        rw [metadataDefects, List.mem_append, List.mem_append] at member
        rcases member with (tool | overhead) | last
        · exact (listed_toolDefects r).flaw_of_mem tool
        · exact (listed_overheadDefects r).flaw_of_mem overhead
        · obtain rfl := List.mem_singleton.1 last
          cases indexed
      obtain ⟨site, flaw⟩ := flaw
      obtain ⟨category, entries, found, -⟩ := index_lt_length_of_flaw flaw indexed
      rw [nowhere] at found
      cases found
    | some categories =>
      simp only [missing, held] at member ⊢
      obtain ⟨site, flaw⟩ := (listed_defectsWithin held).flaw_of_mem member
      obtain ⟨category, entries, found, inside⟩ := index_lt_length_of_flaw flaw indexed
      rw [at?_category (categories?_eq_some_iff.1 held)] at found
      exact Nat.lt_of_lt_of_le inside (length_le_entryCount (Members.mem_of_get? found))

end Report

/-! ## 3. Reading the documents -/

theorem Defect.isOrdinary_detail {d : Defect} {depth : Nat}
    (small : ∀ index, d.index? = some index → index < 2 ^ 64) :
    d.detail.IsOrdinary (depth + 2) := by
  have text := fun s => Json.isOrdinary_string s (depth + 1)
  have texts := fun names => Json.isOrdinary_ofStrings names depth
  cases d with
  | resultNotObject category index | missingCollector category index =>
    have count := @Json.isOrdinary_ofNat index (small index rfl)
    exact Json.isOrdinary_object ["category", "index", "kind"] rfl (by decide)
      (by simp [text, count])
  | missingTopLevel names =>
    exact Json.isOrdinary_object ["keys", "kind"] rfl (by decide) (by simp [text, texts])
  | missingCategories names =>
    exact Json.isOrdinary_object ["kind", "missing"] rfl (by decide) (by simp [text, texts])
  | categoriesNotObject | noResults =>
    exact Json.isOrdinary_object ["kind"] rfl (by decide) (by simp [text])
  | wrongTool _ | invalidSelfPid _ | invalidHealthScore _ =>
    exact Json.isOrdinary_object ["found", "kind"] rfl (by decide) (by simp [text])
  | categoryNotArray _ =>
    exact Json.isOrdinary_object ["category", "kind"] rfl (by decide) (by simp [text])
  | missingResultKey _ _ =>
    exact Json.isOrdinary_object ["collector", "key", "kind"] rfl (by decide) (by simp [text])
  | invalidTier _ _ =>
    exact Json.isOrdinary_object ["collector", "kind", "tier"] rfl (by decide) (by simp [text])

/-- The document of an assessment is read back with all checks if its counts are 64-bit integers. -/
theorem Report.read_toJson {r : Report} (categories : r.assess.categoryCount < 2 ^ 64)
    (results : r.assess.resultCount < 2 ^ 64) :
    Json.read r.assess.toJson.text = .ok r.assess.toJson := by
  apply Json.read_text
  -- Of the 127 levels allowed, the document and its lists take two, so an item may have 125.
  have text := fun s depth => Json.isOrdinary_string s depth
  have texts := fun names depth => Json.isOrdinary_ofStrings names depth
  have errors : ∀ d ∈ r.assess.defects, (Assessment.defectJson d).IsOrdinary 125 := by
    intro d member
    have small : ∀ index, d.index? = some index → index < 2 ^ 64 := fun index indexed =>
      Nat.lt_trans (index_lt_resultCount member indexed) results
    exact Json.isOrdinary_object ["category", "code", "detail", "message", "remediation"] rfl
      (by decide) (by simp [text, texts _ 123, @Defect.isOrdinary_detail d 122 small])
  have warnings : ∀ a ∈ r.assess.advisory.toList, (Assessment.advisoryJson a).IsOrdinary 125 := by
    intro a member
    exact Json.isOrdinary_object ["category", "code", "collectors", "message", "remediation"] rfl
      (by decide) (by simp [text, texts _ 123])
  have lists := fun items all => @Json.isOrdinary_array items 125 all
  refine Json.isOrdinary_object ["category_count", "errors", "result_count", "valid", "warnings"]
    rfl (by decide) ?_
  simp only [List.forall_mem_cons]
  exact ⟨Json.isOrdinary_ofNat categories _, lists _ (List.forall_mem_map.2 errors),
    Json.isOrdinary_ofNat results _, Json.isOrdinary_bool _ _,
    lists _ (List.forall_mem_map.2 warnings), List.forall_mem_nil _⟩

/-- The document about a fault is read back with all checks. -/
theorem CommandLine.read_faultJson (fault : LoadFault) :
    Json.read (CommandLine.faultJson fault).text = .ok (CommandLine.faultJson fault) := by
  rw [CommandLine.faultJson_eq]
  apply Json.read_text
  have item : (CommandLine.faultItem fault).IsOrdinary 125 :=
    Json.isOrdinary_object ["category", "code", "message", "remediation"] rfl (by decide)
      (by simp [Json.isOrdinary_string _ 124, Json.isOrdinary_ofStrings _ 123])
  refine Json.isOrdinary_object ["errors", "valid", "warnings"] rfl (by decide) ?_
  simp only [List.forall_mem_cons]
  exact ⟨@Json.isOrdinary_array _ 125 (by simp [item]), Json.isOrdinary_bool _ _,
    @Json.isOrdinary_array _ 125 (List.forall_mem_nil _), List.forall_mem_nil _⟩

end HealthReport
