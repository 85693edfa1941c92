import HealthReport.Proofs.Validation.Completeness

/-!
# Where validation ends early

Two defects of structure end the search at once. What is found then depends on nothing that was not
looked at: on the missing members alone, or on the metadata alone.

Results:
1. `assess_of_lacks`: a root without one of its members has this one defect.
2. `assess_of_noCategories`: without an object of categories the defects are those of the metadata
   and a last one of structure.
3. `defects_split`: in every report only the last defect can be one of structure.
4. `assess_ends_early`: all of it together, for two reports.
-/
namespace HealthReport

namespace Report

/-! ## Definitions -/

/-- The root has none of these members and all others that every report has. -/
def Lacks (r : Report) (names : List String) : Prop :=
  names = ["metadata", "categories", "summary"].filter fun name => (r.root.get? name).isNone

/-- The root has its three members, and its categories are no object. -/
structure NoCategories (r : Report) : Prop where
  complete : r.Lacks []
  other : ∀ categories, r.root.get? "categories" ≠ some (.object categories)

/-! ## 1. Missing members -/

theorem missingTopLevel_eq_iff {r : Report} {names : List String} :
    r.missingTopLevel = names ↔ r.Lacks names := by
  have absent : (fun name => !r.has name) = fun name => (r.root.get? name).isNone := by
    funext name
    rw [has, get?, Option.not_isSome]
  rw [missingTopLevel, topLevelNames, absent, Lacks, eq_comm]

theorem lacks_of_not_object {r : Report} (other : ∀ members, r.root ≠ .object members) :
    r.Lacks ["metadata", "categories", "summary"] := by
  have absent : ∀ name, r.root.get? name = none := by
    intro name
    by_contra found
    obtain ⟨held, found⟩ := Option.ne_none_iff_exists'.1 found
    obtain ⟨members, same, -⟩ := Json.get?_eq_some_iff.1 found
    exact other members same
  simp [Lacks, absent]

theorem assess_of_lacks {r : Report} {names : List String} (some_missing : names ≠ [])
    (lacks : r.Lacks names) : r.assess = ⟨[.missingTopLevel names], none, 0, 0⟩ := by
  have missing := missingTopLevel_eq_iff.2 lacks
  cases names with
  | nil => exact absurd rfl some_missing
  | cons name names => simp only [assess, missing]

/-! ## 2. Categories that are no object -/

theorem assess_of_noCategories {r : Report} (early : r.NoCategories) :
    r.assess = ⟨metadataDefects r.metadata ++ [.categoriesNotObject], none, 0, 0⟩ := by
  have complete := missingTopLevel_eq_iff.2 early.complete
  have absent : r.categories? = none := by
    by_contra found
    obtain ⟨categories, found⟩ := Option.ne_none_iff_exists'.1 found
    exact early.other categories (categories?_eq_some_iff.1 found)
  simp only [assess, complete, absent]

theorem listed_metadataDefects (r : Report) :
    Listed (Flaw r.root) (fun site => site = .tool ∨ site = .selfPid)
      (metadataDefects r.metadata) := by
  refine listed_append ?_ (listed_toolDefects r) (listed_overheadDefects r)
  rintro _ _ rfl rfl
  exact .rank (by decide)

/-! ## 3. Defects of structure -/

/-- What is wrong with a document in one place is a matter of one field. -/
theorem category_of_flaw {root : Json} {site : Site} {d : Defect} (flaw : Flaw root site d) :
    d.code.category = .field := by
  cases flaw with
  | entry _ _ flaw => cases flaw <;> rfl
  | tool _ | selfPid _ _ | mandatory _ _ | array _ _ | results _ | health _ => rfl

theorem category_of_listed {root : Json} {region : Site → Prop} {defects : List Defect}
    (listed : Listed (Flaw root) region defects) : ∀ d ∈ defects, d.code.category = .field := by
  intro d member
  obtain ⟨site, flaw⟩ := listed.flaw_of_mem member
  exact category_of_flaw flaw

/-- The three ways in which validation can end: at once, after the metadata, or after all of it. -/
theorem defects_cases (r : Report) :
    (∃ names, r.Lacks names ∧ r.assess.defects = [.missingTopLevel names]) ∨
    (∃ errors region, Listed (Flaw r.root) region errors ∧
      r.assess.defects = errors ++ [.categoriesNotObject]) ∨
    ∃ region, Listed (Flaw r.root) region r.assess.defects := by
  cases missing : r.missingTopLevel with
  | cons name names =>
    refine .inl ⟨name :: names, missingTopLevel_eq_iff.1 missing, ?_⟩
    simp only [assess, missing]
  | nil =>
    cases held : r.categories? with
    | none =>
      refine .inr (.inl ⟨metadataDefects r.metadata, _, listed_metadataDefects r, ?_⟩)
      simp only [assess, missing, held]
    | some categories =>
      have whole : r.assess.defects = defectsWithin r categories := by
        simp only [assess, missing, held]
      exact .inr (.inr ⟨_, whole ▸ listed_defectsWithin held⟩)

/-- Only the last defect can be one of structure. -/
theorem defects_split (r : Report) :
    ∃ errors last, r.assess.defects = errors ++ last ∧
      (∀ d ∈ errors, d.code.category = .field) ∧
      (last = [] ∨ ∃ d, last = [d] ∧ d.code.category = .structural) := by
  obtain ⟨names, -, ended⟩ | ⟨errors, region, listed, ended⟩ | ⟨region, listed⟩ := defects_cases r
  · exact ⟨[], _, ended, List.forall_mem_nil _, .inr ⟨_, rfl, rfl⟩⟩
  · exact ⟨errors, _, ended, category_of_listed listed, .inr ⟨_, rfl, rfl⟩⟩
  · exact ⟨_, [], (List.append_nil _).symm, category_of_listed listed, .inl rfl⟩

/-! ## 4. Two reports -/

/-- Where validation ends early it looks at nothing further. Reports that lack the same members are
told apart by nothing, nor are reports with the same metadata whose categories are no object; and
in every report only the last defect can be one of structure, while all others are about fields.
Metadata are the same if they are equal, and `0.0` is not equal to `-0.0`. -/
theorem assess_ends_early (r other : Report) :
    (∀ names, names ≠ [] → r.Lacks names → other.Lacks names →
      r.assess = other.assess ∧ r.assess = ⟨[.missingTopLevel names], none, 0, 0⟩) ∧
    ((∀ members, r.root ≠ .object members) → r.Lacks ["metadata", "categories", "summary"]) ∧
    (r.NoCategories → other.NoCategories → r.root.get? "metadata" = other.root.get? "metadata" →
      r.assess = other.assess ∧
        ∃ errors, Listed (Flaw r.root) (fun site => site = .tool ∨ site = .selfPid) errors ∧
          r.assess = ⟨errors ++ [.categoriesNotObject], none, 0, 0⟩) ∧
    ∃ errors last, r.assess.defects = errors ++ last ∧
      (∀ d ∈ errors, d.code.category = .field) ∧
      (last = [] ∨ ∃ d, last = [d] ∧ d.code.category = .structural) := by
  refine ⟨?_, lacks_of_not_object, ?_, defects_split r⟩
  · intro names some_missing lacks lacks'
    have ended := assess_of_lacks some_missing lacks
    exact ⟨ended.trans (assess_of_lacks some_missing lacks').symm, ended⟩
  · intro early early' metadata
    have ended := assess_of_noCategories early
    have same : r.metadata = other.metadata := congrArg Metadata.mk metadata
    refine ⟨?_, metadataDefects r.metadata, listed_metadataDefects r, ended⟩
    rw [ended, assess_of_noCategories early', same]

/-- A root with categories only, of which none is right. -/
def categoriesAlone : Report := ⟨.object [("categories", .object [("cpu", .null)])], by decide⟩

/-- Another root with categories only, which are no object. -/
def flagAlone : Report := ⟨.object [("categories", .bool true), ("notes", .null)], by decide⟩

def listRoot : Report := ⟨.array [.null], by decide⟩

/-- A report of another tool whose categories are a list. -/
def listedCategories : Report :=
  ⟨.object [("categories", .array []), ("metadata", .object [("tool", .string "other")]),
    ("summary", .object [("health_score", .bool true)])], by decide⟩

/-- A report of the same tool whose categories are null and whose summary is empty. -/
def nullCategories : Report :=
  ⟨.object [("categories", .null), ("metadata", .object [("tool", .string "other")]),
    ("summary", .object [])], by decide⟩

theorem assess_ends_early_of_broken :
    categoriesAlone.assess = flagAlone.assess ∧
      categoriesAlone.assess = ⟨[.missingTopLevel ["metadata", "summary"]], none, 0, 0⟩ ∧
      listRoot.Lacks ["metadata", "categories", "summary"] ∧
      listedCategories.assess = nullCategories.assess ∧
      listedCategories.assess.defects = [.wrongTool "\"other\"", .categoriesNotObject] := by
  have missing := (assess_ends_early categoriesAlone flagAlone).1 ["metadata", "summary"]
    (by decide) rfl rfl
  have root := (assess_ends_early listRoot listRoot).2.1 (by rintro members ⟨⟩)
  have listed : listedCategories.NoCategories := ⟨rfl, by rintro categories ⟨⟩⟩
  have null : nullCategories.NoCategories := ⟨rfl, by rintro categories ⟨⟩⟩
  have early := (assess_ends_early listedCategories nullCategories).2.2.1 listed null rfl
  exact ⟨missing.1, missing.2, root, early.1, by decide⟩

end Report

end HealthReport
