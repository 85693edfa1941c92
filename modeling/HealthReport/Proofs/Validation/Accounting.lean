import HealthReport.Proofs.Validation.Completeness

/-!
# What the counts count

Validation counts the entries of all arrays while it looks for defects, and the questions about a
report pass over those entries that are no objects. The two agree: each entry is either a result
that can be asked for, or it has a defect of its own, and each category is either an array or has
a defect.

Results:
1. `entry_accounted`, `entries_accounted`, `category_accounted`: one entry, one array and one
   category.
2. `entryCount_accounted`, `length_categories_accounted`: all categories of a report.
3. `counts_assess_accounted`: the counts of an assessment, and that nothing is passed over in a
   report that is valid.
-/
namespace HealthReport

/-! ## Definitions -/

namespace Defect

/-- The defect is that an entry is no object. -/
def isStrayEntry : Defect → Bool
  | resultNotObject _ _ => true
  | _ => false

/-- The defect is that a category is no array. -/
def isStrayCategory : Defect → Bool
  | categoryNotArray _ => true
  | _ => false

end Defect

namespace Report

/-- The number of results in all categories, as the questions about a report see them. -/
def seenCount (r : Report) (categories : Members) : Nat :=
  (categories.names.map fun name => (r.results name).length).sum

/-- The counts of an assessment, held against the categories and what is seen of them. -/
structure Accounted (r : Report) (categories : Members) : Prop where
  results : r.assess.resultCount =
    r.seenCount categories + r.assess.defects.countP Defect.isStrayEntry
  names : r.assess.categoryCount = categories.names.length
  distinct : categories.names.Nodup
  arrays : r.assess.categoryCount = categories.countP (·.2.items?.isSome) +
    r.assess.defects.countP Defect.isStrayCategory
  empty : .noResults ∈ r.assess.defects ↔ r.assess.resultCount = 0

/-- The results that are seen are all entries that have been counted, and there are some. -/
structure AllSeen (r : Report) (categories : Members) : Prop where
  some_entry : 1 ≤ r.assess.resultCount
  counted : r.assess.resultCount = r.seenCount categories
  entries : ∀ name value, categories.get? name = some value →
    value = .array ((r.results name).map fun result => .object result.members)
  nowhere_else : ∀ name, categories.get? name = none → r.results name = []

/-! ## 1. Entries and categories -/

section

variable {category : String} {index : Nat} {entry value : Json} {d : Defect}

theorem not_isStrayEntry_of_result {members : Members}
    (member : d ∈ resultDefects category ⟨members⟩ index) : d.isStrayEntry = false := by
  obtain ⟨site, flaw⟩ := listed_resultDefects.flaw_of_mem member
  cases flaw with
  | notObject other => exact absurd rfl (other members)
  | noCollector _ | noCategory _ _ | noTier _ _ | badTier _ _ _ => rfl

theorem not_isStrayCategory_of_entry (member : d ∈ entryDefects category entry index) :
    d.isStrayCategory = false := by
  obtain ⟨site, flaw⟩ := listed_entryDefects.flaw_of_mem member
  cases flaw <;> rfl

theorem countP_eq_zero_of_false {p : Defect → Bool} {defects : List Defect}
    (silent : ∀ d ∈ defects, p d = false) : defects.countP p = 0 :=
  List.countP_eq_zero.2 fun d member => Bool.not_eq_true _ ▸ silent d member

/-- An entry is a result, or it is stray. -/
theorem entry_accounted :
    1 = entry.members?.toList.length +
      (entryDefects category entry index).countP Defect.isStrayEntry := by
  unfold entryDefects
  cases entry.members? with
  | none => rfl
  | some members =>
    rw [countP_eq_zero_of_false fun d member => not_isStrayEntry_of_result member]
    rfl

theorem entries_accounted (category : String) (entries : List Json) (start : Nat) :
    entries.length = (entries.filterMap Json.members?).length +
      ((entries.zipIdx start).flatMap fun place =>
        entryDefects category place.1 place.2).countP Defect.isStrayEntry := by
  induction entries generalizing start with
  | nil => rfl
  | cons entry rest ih =>
    have head := @entry_accounted category start entry
    have tail := ih (start + 1)
    have seen : ((entry :: rest).filterMap Json.members?).length =
        entry.members?.toList.length + (rest.filterMap Json.members?).length := by
      rw [List.filterMap_cons]
      cases entry.members? <;> simp [Nat.add_comm]
    simp only [List.zipIdx_cons, List.flatMap_cons, List.countP_append, seen, List.length_cons]
    omega

/-- The results that can be asked for in a value, if it is that of a category. -/
theorem length_items_accounted :
    (value.items?.getD []).length = ((value.items?.getD []).filterMap Json.members?).length +
      (categoryDefects category value).countP Defect.isStrayEntry := by
  unfold categoryDefects
  cases value.items? with
  | none => rfl
  | some entries => exact entries_accounted category entries 0

/-- A category is an array, or it is stray. -/
theorem category_accounted :
    1 = (if value.items?.isSome then 1 else 0) +
      (categoryDefects category value).countP Defect.isStrayCategory := by
  unfold categoryDefects
  cases value.items? with
  | none => rfl
  | some entries =>
    have silent : ∀ d ∈ entries.zipIdx.flatMap fun place =>
        entryDefects category place.1 place.2, d.isStrayCategory = false := by
      intro d member
      obtain ⟨place, -, inside⟩ := List.mem_flatMap.1 member
      exact not_isStrayCategory_of_entry inside
    rw [countP_eq_zero_of_false silent]
    rfl

end

/-! ## 2. All categories -/

theorem results_of_get? {r : Report} {categories : Members} {name : String}
    (found : r.root.get? "categories" = some (.object categories)) :
    r.results name =
      ((((categories.get? name).bind Json.items?).getD []).filterMap Json.members?).map
        CollectorResult.mk := by
  rw [results_eq, Json.objectsAt, at?_category found]

/-- Looking up the categories by their names gives them in turn. -/
theorem seenCount_eq {r : Report} {categories : Members}
    (found : r.root.get? "categories" = some (.object categories)) :
    r.seenCount categories = (categories.map fun member =>
      ((member.2.items?.getD []).filterMap Json.members?).length).sum := by
  have ascending := isAscending_categories (categories?_eq_some_iff.2 found)
  rw [seenCount, Members.names, List.map_map]
  refine congrArg List.sum (List.map_congr_left ?_)
  rintro ⟨name, value⟩ member
  show (r.results name).length = _
  rw [results_of_get? found, Members.get?_of_mem ascending member, List.length_map]
  rfl

theorem entryCount_accounted (categories : Members) :
    entryCount categories =
      (categories.map fun member =>
        ((member.2.items?.getD []).filterMap Json.members?).length).sum +
      (categories.flatMap fun member => categoryDefects member.1 member.2).countP
        Defect.isStrayEntry := by
  induction categories with
  | nil => rfl
  | cons member rest ih =>
    obtain ⟨category, value⟩ := member
    have head := @length_items_accounted category value
    have whole : entryCount ((category, value) :: rest) =
        (value.items?.getD []).length + entryCount rest := rfl
    simp only [whole, List.map_cons, List.sum_cons, List.flatMap_cons, List.countP_append]
    omega

theorem length_categories_accounted (categories : Members) :
    categories.length = categories.countP (·.2.items?.isSome) +
      (categories.flatMap fun member => categoryDefects member.1 member.2).countP
        Defect.isStrayCategory := by
  induction categories with
  | nil => rfl
  | cons member rest ih =>
    obtain ⟨category, value⟩ := member
    have head := @category_accounted category value
    simp only [List.countP_cons, List.flatMap_cons, List.countP_append, List.length_cons]
    omega

/-! ## 3. The whole report -/

/-- Outside the categories no defect is about an entry or a category. -/
theorem countP_eq_zero_of_listed {root : Json} {region : Site → Prop} {defects : List Defect}
    {p : Defect → Bool}
    (narrow : ∀ d, p d = true → d.isStrayEntry = true ∨ d.isStrayCategory = true)
    (listed : Listed (Flaw root) region defects)
    (outside : ∀ site, region site → site.category? = none) : defects.countP p = 0 := by
  refine List.countP_eq_zero.2 fun d member counted => ?_
  obtain ⟨site, inside, flaw⟩ := listed.place_of_mem member
  have nowhere := outside site inside
  have stray := narrow d counted
  cases flaw with
  | array _ _ | entry _ _ _ => cases nowhere
  | tool _ | selfPid _ _ | mandatory _ _ | results _ | health _ => simp [Defect.isStrayEntry,
      Defect.isStrayCategory] at stray

theorem countP_defectsWithin {r : Report} {categories : Members} {p : Defect → Bool}
    (found : r.root.get? "categories" = some (.object categories))
    (narrow : ∀ d, p d = true → d.isStrayEntry = true ∨ d.isStrayCategory = true) :
    (defectsWithin r categories).countP p =
      (categories.flatMap fun member => categoryDefects member.1 member.2).countP p := by
  have held := categories?_eq_some_iff.2 found
  have tool := countP_eq_zero_of_listed narrow (listed_toolDefects r) (by rintro _ rfl; rfl)
  have overhead := countP_eq_zero_of_listed narrow (listed_overheadDefects r)
    (by rintro _ rfl; rfl)
  have absent := countP_eq_zero_of_listed narrow (listed_absentDefects found)
    (by rintro _ rfl; rfl)
  have results := countP_eq_zero_of_listed narrow (listed_noResults held) (by rintro _ rfl; rfl)
  have health := countP_eq_zero_of_listed narrow (listed_healthDefects r) (by rintro _ rfl; rfl)
  rw [defectsWithin, metadataDefects]
  simp only [List.countP_append, tool, overhead, absent, results, health]
  omega

theorem noResults_mem_iff {r : Report} {categories : Members}
    (found : r.root.get? "categories" = some (.object categories)) :
    .noResults ∈ defectsWithin r categories ↔ entryCount categories = 0 := by
  constructor
  · intro member
    obtain ⟨site, flaw⟩ :=
      (listed_defectsWithin (categories?_eq_some_iff.2 found)).flaw_of_mem member
    cases flaw with
    | entry _ _ flaw => cases flaw
    | results empty =>
      by_contra some_entry
      obtain ⟨category, entries, member, full⟩ := entryCount_ne_zero_iff.1 some_entry
      exact full (empty category entries ((mem_categories_iff found).1 member))
  · intro empty
    simp [defectsWithin, empty]

theorem accounted_assess {r : Report} {categories : Members}
    (metadata : (r.root.get? "metadata").isSome)
    (found : r.root.get? "categories" = some (.object categories))
    (summary : (r.root.get? "summary").isSome) : r.Accounted categories := by
  have whole := assess_whole metadata found summary
  have names := Members.pairwise_of_isAscending
    (isAscending_categories (categories?_eq_some_iff.2 found))
  constructor
  · rw [whole, countP_defectsWithin found fun _ => Or.inl, seenCount_eq found]
    exact entryCount_accounted categories
  · rw [whole, Members.names, List.length_map]
  · refine List.pairwise_map.2 (names.imp fun before same => ?_)
    rw [same] at before
    exact String.lt_irrefl _ before
  · rw [whole, countP_defectsWithin found fun _ => Or.inr]
    exact length_categories_accounted categories
  · rw [whole]
    exact noResults_mem_iff found

/-- An array of objects is what is seen of it. -/
theorem map_object_filterMap {entries : List Json}
    (objects : ∀ entry ∈ entries, ∃ members, entry = .object members) :
    (entries.filterMap Json.members?).map Json.object = entries := by
  induction entries with
  | nil => rfl
  | cons entry rest ih =>
    obtain ⟨⟨members, rfl⟩, later⟩ := List.forall_mem_cons.1 objects
    simp only [List.filterMap_cons, Json.members?, List.map_cons, ih later]

theorem allSeen_of_isValid {r : Report} (valid : r.assess.isValid = true) :
    ∃ categories, r.root.get? "categories" = some (.object categories) ∧ r.AllSeen categories := by
  obtain ⟨⟨metadata, has_metadata, -⟩, ⟨categories, found, sound⟩, score, has_score, -⟩ :=
    isValid_iff_sound_parts.1 valid
  have summary : (r.root.get? "summary").isSome := by
    obtain ⟨summary, held, -⟩ := Option.bind_eq_some_iff.1 has_score
    exact Option.isSome_of_eq_some held
  have none_found : r.assess.defects = [] := List.isEmpty_iff.1 valid
  have accounted := accounted_assess (Option.isSome_of_eq_some has_metadata) found summary
  refine ⟨categories, found, ?_, ?_, ?_, ?_⟩
  · have inhabited := mt accounted.empty.2 (by simp [none_found])
    exact Nat.one_le_iff_ne_zero.2 inhabited
  · simpa [none_found] using accounted.results
  · intro name value held
    obtain ⟨entries, rfl, each⟩ := sound.arrays name value (Members.mem_of_get? held)
    rw [results_of_get? found, held, List.map_map]
    refine congrArg Json.array (map_object_filterMap fun entry member => ?_).symm
    obtain ⟨members, object, -⟩ := each entry member
    exact ⟨members, object⟩
  · intro name absent
    rw [results_of_get? found, absent]
    rfl

/-- The counts agree with what is seen of the categories: each entry that has been counted is seen
or has a defect of its own, each category is an array or has a defect, and it is a defect if there
is no entry. So in a valid report all entries are seen, and there are some. -/
theorem counts_assess_accounted (r : Report) :
    (∀ categories, (r.root.get? "metadata").isSome →
      r.root.get? "categories" = some (.object categories) →
      (r.root.get? "summary").isSome → r.Accounted categories) ∧
    (r.assess.isValid = true → ∃ categories,
      r.root.get? "categories" = some (.object categories) ∧ r.AllSeen categories) :=
  ⟨fun _ metadata found summary => accounted_assess metadata found summary, allSeen_of_isValid⟩

/-- Categories of all kinds: an array with stray entries, one without entries, and no array. -/
def mixedCategories : Members :=
  [("cpu", .array [.null, .object [], .number (.integer 5), .object []]), ("disk", .bool true),
    ("memory", .array [])]

def mixedEntries : Report :=
  ⟨.object [("categories", .object mixedCategories), ("metadata", .null), ("summary", .null)],
    by decide⟩

/-- A sound result. -/
def soundResult : Json :=
  .object [("category", .null), ("collector", .string "top"), ("tier", .number (.integer 1))]

/-- A valid report with two results. -/
def twoResults : Report :=
  ⟨.object [("categories", .object [("cpu", .array [soundResult]), ("memory", .array []),
        ("process", .array [soundResult])]),
      ("metadata", .object [("tool", .string "melisai")]),
      ("summary", .object [("health_score", .number (.integer 100))])], by decide⟩

theorem counts_assess_accounted_of_mixed :
    mixedEntries.Accounted mixedCategories ∧
      mixedEntries.assess.resultCount = 4 ∧ mixedEntries.seenCount mixedCategories = 2 ∧
      twoResults.assess.isValid = true ∧
      ∃ categories, twoResults.root.get? "categories" = some (.object categories) ∧
        twoResults.AllSeen categories := by
  have valid : twoResults.assess.isValid = true := by decide +kernel
  exact ⟨(counts_assess_accounted mixedEntries).1 mixedCategories (by decide) rfl (by decide),
    by decide, by decide, valid, (counts_assess_accounted twoResults).2 valid⟩

end Report

end HealthReport
