import HealthReport.Proofs.Binary64.Rounding
import HealthReport.Proofs.Json.Members
import HealthReport.Validation.Assessment

/-!
# Which reports are valid

A report is valid if validation finds no defect. This module says what that means for the document
itself, part by part, and for the whole document.

Results:
1. `toolDefects_eq_nil_iff`, `overheadDefects_eq_nil_iff`, `absentDefects_eq_nil_iff`,
   `entryDefects_eq_nil_iff`, `categoryDefects_eq_nil_iff`, `healthDefects_eq_nil_iff`: when each
   part of a report has no defect.
2. `isValid_assess_iff`: when a report has none at all.
-/
namespace HealthReport

/-! ## Definitions -/

/-- The value is a number equal to 1, 2 or 3, be it an integer or a double. -/
def SoundTier (tier : Json) : Prop :=
  ∃ n : Number, tier = .number n ∧ (n.value = 1 ∨ n.value = 2 ∨ n.value = 3)

/-- The value is an integer, and no double, from 0 to 100. -/
def SoundScore (score : Json) : Prop :=
  ∃ n : Int, score = .number (.integer n) ∧ 0 ≤ n ∧ n ≤ 100

/-- The value is an object with a positive 64-bit integer as its process number. -/
def SoundOverhead (overhead : Json) : Prop :=
  ∃ (members : Members) (pid : Int), overhead = .object members ∧
    members.get? "self_pid" = some (.number (.integer pid)) ∧ 1 ≤ pid ∧ pid ≤ 2 ^ 64 - 1

/-- The entry of a category is an object that names its collector and its category, by any value,
and has a tier. -/
def SoundEntry (entry : Json) : Prop :=
  ∃ members : Members, entry = .object members ∧ members.has "collector" ∧
    members.has "category" ∧ ∃ tier, members.get? "tier" = some tier ∧ SoundTier tier

structure SoundMetadata (metadata : Members) : Prop where
  tool : metadata.get? "tool" = some (.string "melisai")
  overhead : ∀ held, metadata.get? "observer_overhead" = some held →
    held = .null ∨ SoundOverhead held

structure SoundCategories (categories : Members) : Prop where
  mandatory : ∀ name ∈ ["cpu", "memory", "process"], categories.has name
  arrays : ∀ name value, (name, value) ∈ categories →
    ∃ entries, value = .array entries ∧ ∀ entry ∈ entries, SoundEntry entry
  inhabited : ∃ name entries, (name, Json.array entries) ∈ categories ∧ entries ≠ []

/-- The root has its three members, and each of them is as it has to be. -/
def SoundReport (root : Json) : Prop :=
  ∃ top metadata categories summary : Members, root = .object top ∧
    top.get? "metadata" = some (.object metadata) ∧ SoundMetadata metadata ∧
    top.get? "categories" = some (.object categories) ∧ SoundCategories categories ∧
    top.get? "summary" = some (.object summary) ∧
    ∃ score, summary.get? "health_score" = some score ∧ SoundScore score

namespace Report

/-! ## 1. The parts of a report -/

/-- A defect that is given unless a condition holds is missing just if it holds. -/
theorem unless_eq_nil_iff {condition : Prop} [Decidable condition] {d : Defect} :
    (if condition then [] else [d]) = [] ↔ condition := by
  split <;> simp [*]

theorem isTier_iff {tier : Json} : isTier tier = true ↔ SoundTier tier := by
  -- Tiers are compared as doubles, which decides as exact values do: they are small.
  have equal : ∀ (n : Number) (t : Int), t ∈ tiers →
      (n.toBinary64.equal (Binary64.ofInt t) = true ↔ n.value = t) := by
    intro n t member
    apply Number.toBinary64_equal_ofInt
    simp only [tiers, List.mem_cons, List.not_mem_nil, or_false] at member
    rcases member with rfl | rfl | rfl <;> decide
  cases tier with
  | number n =>
    simp only [isTier, Json.number?, Option.map_some, Option.getD_some, List.any_eq_true]
    constructor
    · intro matched
      obtain ⟨t, member, same⟩ := matched
      refine ⟨n, rfl, ?_⟩
      have value := (equal n t member).1 same
      simp only [tiers, List.mem_cons, List.not_mem_nil, or_false] at member
      rcases member with rfl | rfl | rfl
      · exact .inl (by simpa using value)
      · exact .inr (.inl (by simpa using value))
      · exact .inr (.inr (by simpa using value))
    · rintro ⟨m, same, value⟩
      cases same
      rcases value with value | value | value
      · exact ⟨1, by decide, (equal n 1 (by decide)).2 (by simpa using value)⟩
      · exact ⟨2, by decide, (equal n 2 (by decide)).2 (by simpa using value)⟩
      · exact ⟨3, by decide, (equal n 3 (by decide)).2 (by simpa using value)⟩
  | null | bool _ | string _ | array _ | object _ =>
    simp [isTier, Json.number?, SoundTier]

theorem signed?_eq_some_iff {n : Number} {k : Int} :
    n.signed? = some k ↔ n = .integer k ∧ -2 ^ 63 ≤ k ∧ k < 2 ^ 63 := by
  cases n with
  | integer m =>
    simp only [Number.signed?, Bool.and_eq_true, decide_eq_true_eq, Option.ite_none_right_eq_some,
      Option.some.injEq, Number.integer.injEq]
    constructor
    · rintro ⟨range, rfl⟩
      exact ⟨rfl, range⟩
    · rintro ⟨rfl, range⟩
      exact ⟨range, rfl⟩
  | double x => simp [Number.signed?]

theorem isHealthScore_iff {score : Json} : isHealthScore score = true ↔ SoundScore score := by
  cases score with
  | number n =>
    simp only [isHealthScore, Json.number?, Option.bind_some, SoundScore, Json.number.injEq]
    constructor
    · intro valid
      cases found : n.signed? with
      | none => simp [found] at valid
      | some k =>
        simp only [found, Option.map_some, Option.getD_some, decide_eq_true_eq] at valid
        exact ⟨k, (signed?_eq_some_iff.1 found).1, valid⟩
    · rintro ⟨k, rfl, low, high⟩
      have found : (Number.integer k).signed? = some k :=
        signed?_eq_some_iff.2 ⟨rfl, by omega, by omega⟩
      simp [found, low, high]
  | null | bool _ | string _ | array _ | object _ =>
    simp [isHealthScore, Json.number?, SoundScore]

theorem validSelfPid?_isSome_iff {o : Overhead} :
    o.validSelfPid?.isSome = true ↔ SoundOverhead o.raw := by
  simp only [Overhead.validSelfPid?, Option.isSome_iff_exists, Option.filter_eq_some_iff,
    Option.bind_eq_some_iff, Json.number?_eq_some_iff, decide_eq_true_eq, Overhead.selfPid?]
  constructor
  · intro valid
    obtain ⟨pid, ⟨n, ⟨held, found, rfl⟩, unsigned⟩, positive⟩ := valid
    obtain ⟨members, same, inside⟩ := Json.get?_eq_some_iff.1 found
    cases n with
    | double x => cases unsigned
    | integer k =>
      simp only [Number.unsigned?, Bool.and_eq_true, decide_eq_true_eq,
        Option.ite_none_right_eq_some, Option.some.injEq] at unsigned
      exact ⟨members, k, same, inside, by omega, by omega⟩
  · intro sound
    obtain ⟨members, pid, same, inside, low, high⟩ := sound
    have found := Json.get?_eq_some_iff.2 ⟨members, same, inside⟩
    refine ⟨pid.toNat, ⟨.integer pid, ⟨_, found, rfl⟩, ?_⟩, by omega⟩
    have range : (decide (0 ≤ pid) && decide (pid < 0x10000000000000000)) = true := by
      rw [Bool.and_eq_true, decide_eq_true_eq, decide_eq_true_eq]
      omega
    rw [Number.unsigned?, if_pos range]

theorem members_metadata_eq {m : Metadata} {metadata : Members}
    (found : m.raw = some (.object metadata)) : m.members = metadata := by
  simp [Metadata.members, found, Json.members?]

theorem toolDefects_eq_nil_iff {m : Metadata} :
    toolDefects m = [] ↔ ∃ metadata : Members, m.raw = some (.object metadata) ∧
      metadata.get? "tool" = some (.string "melisai") := by
  have tool : toolDefects m = [] ↔ m.members.get? "tool" = some (.string "melisai") := by
    rw [toolDefects, unless_eq_nil_iff]
    simp [Metadata.tool?, Option.bind_eq_some_iff, Members.present?_eq_some_iff, toolName]
  rw [tool]
  constructor
  · intro found
    cases held : m.raw.bind Json.members? with
    | none => simp [Metadata.members, held, Members.get?] at found
    | some metadata =>
      obtain ⟨raw, same, object⟩ := Option.bind_eq_some_iff.1 held
      rw [Json.members?_eq_some_iff] at object
      subst object
      rw [members_metadata_eq same] at found
      exact ⟨metadata, same, found⟩
  · intro stated
    obtain ⟨metadata, same, found⟩ := stated
    rwa [members_metadata_eq same]

theorem overheadDefects_eq_nil_iff {m : Metadata} :
    overheadDefects m = [] ↔ ∀ held, m.members.get? "observer_overhead" = some held →
      held = .null ∨ SoundOverhead held := by
  unfold overheadDefects Metadata.overhead?
  cases present : m.members.present? "observer_overhead" with
  | none =>
    -- The member may still be there, as a null.
    simp only [Option.map_none, true_iff]
    intro held found
    by_contra other
    rw [not_or] at other
    have : m.members.present? "observer_overhead" = some held :=
      Members.present?_eq_some_iff.2 ⟨found, other.1⟩
    simp [this] at present
  | some held =>
    obtain ⟨found, notNull⟩ := Members.present?_eq_some_iff.1 present
    simp [found, notNull, validSelfPid?_isSome_iff]

theorem absentDefects_eq_nil_iff {categories : Members} :
    absentDefects categories = [] ↔ ∀ name ∈ ["cpu", "memory", "process"], categories.has name := by
  unfold absentDefects mandatoryCategories
  split
  · rename_i none_absent
    simpa using none_absent
  · rename_i absent
    simp only [reduceCtorEq, false_iff]
    intro all
    apply absent
    simpa using all

theorem tierDefects_eq_nil_iff {label : String} {tier : Option Json} :
    tierDefects label tier = [] ↔ ∃ held, tier = some held ∧ SoundTier held := by
  cases tier with
  | none => simp [tierDefects]
  | some held => simp [tierDefects, isTier_iff]

theorem entryDefects_eq_nil_iff {category : String} {entry : Json} {index : Nat} :
    entryDefects category entry index = [] ↔ SoundEntry entry := by
  cases entry with
  | object members =>
    simp only [entryDefects, Json.members?, resultDefects, List.append_eq_nil_iff,
      unless_eq_nil_iff, tierDefects_eq_nil_iff]
    simp [SoundEntry, CollectorResult.has, CollectorResult.tier?, and_assoc]
  | null | bool _ | number _ | string _ | array _ =>
    simp [entryDefects, Json.members?, SoundEntry]

theorem categoryDefects_eq_nil_iff {category : String} {value : Json} :
    categoryDefects category value = [] ↔
      ∃ entries, value = .array entries ∧ ∀ entry ∈ entries, SoundEntry entry := by
  cases value with
  | array entries =>
    simp only [categoryDefects, Json.items?, List.flatMap_eq_nil_iff, Prod.forall,
      entryDefects_eq_nil_iff, Json.array.injEq, exists_eq_left']
    constructor
    · intro all entry member
      obtain ⟨index, place⟩ := List.getElem?_of_mem member
      exact all entry index (List.mem_zipIdx_iff_getElem?.2 place)
    · intro all entry index member
      exact all entry (List.mem_of_getElem? (List.mem_zipIdx_iff_getElem?.1 member))
  | null | bool _ | number _ | string _ | object _ =>
    simp [categoryDefects, Json.items?]

theorem entryCount_ne_zero_iff {categories : Members} :
    entryCount categories ≠ 0 ↔
      ∃ name entries, (name, Json.array entries) ∈ categories ∧ entries ≠ [] := by
  have empty : entryCount categories = 0 ↔
      ∀ name value, (name, value) ∈ categories → (value.items?.getD []) = [] := by
    rw [entryCount, ← List.sum_eq_foldr, List.sum_eq_zero_iff_forall_eq_nat]
    simp only [List.forall_mem_map, Prod.forall, List.length_eq_zero_iff]
  rw [ne_eq, empty]
  constructor
  · intro some_entry
    by_contra none_found
    apply some_entry
    intro name value member
    cases value with
    | array entries =>
      by_contra full
      exact none_found ⟨name, entries, member, full⟩
    | null | bool _ | number _ | string _ | object _ => rfl
  · intro some_entry all
    obtain ⟨name, entries, member, full⟩ := some_entry
    exact full (all name (.array entries) member)

theorem healthDefects_eq_nil_iff {s : Summary} :
    healthDefects s = [] ↔
      ∃ score, s.members.get? "health_score" = some score ∧ SoundScore score := by
  unfold healthDefects Summary.healthScore?
  cases present : s.members.present? "health_score" with
  | none =>
    simp only [reduceCtorEq, false_iff]
    rintro ⟨score, found, n, rfl, -⟩
    have : s.members.present? "health_score" = some (.number (.integer n)) :=
      Members.present?_eq_some_iff.2 ⟨found, by simp⟩
    simp [this] at present
  | some score =>
    obtain ⟨found, -⟩ := Members.present?_eq_some_iff.1 present
    simp [found, isHealthScore_iff]

/-! ## 2. The whole report -/

theorem get?_root {r : Report} {top : Members} (root : r.root = .object top) (name : String) :
    r.root.get? name = top.get? name := by
  simp [root, Json.get?, Json.members?]

theorem missingTopLevel_eq_nil_iff {r : Report} :
    r.missingTopLevel = [] ↔ ∃ (top : Members) (metadata categories summary : Json),
      r.root = .object top ∧ top.get? "metadata" = some metadata ∧
      top.get? "categories" = some categories ∧ top.get? "summary" = some summary := by
  have all : r.missingTopLevel = [] ↔ (r.root.get? "metadata").isSome ∧
      (r.root.get? "categories").isSome ∧ (r.root.get? "summary").isSome := by
    simp [missingTopLevel, topLevelNames, has, get?, Option.isSome_iff_ne_none]
  rw [all]
  constructor
  · intro complete
    obtain ⟨metadata, categories, summary⟩ := complete
    obtain ⟨held, found⟩ := Option.isSome_iff_exists.1 metadata
    obtain ⟨top, same, inside⟩ := Json.get?_eq_some_iff.1 found
    simp only [same, Json.get?, Json.members?, Option.bind_some] at categories summary
    obtain ⟨held', found'⟩ := Option.isSome_iff_exists.1 categories
    obtain ⟨held'', found''⟩ := Option.isSome_iff_exists.1 summary
    exact ⟨top, held, held', held'', same, inside, found', found''⟩
  · intro complete
    obtain ⟨top, metadata, categories, summary, same, found, found', found''⟩ := complete
    simp [same, Json.get?, Json.members?, found, found', found'']

theorem defectsWithin_eq_nil_iff {r : Report} {categories : Members} :
    defectsWithin r categories = [] ↔
      (∃ metadata : Members, r.get? "metadata" = some (.object metadata) ∧
        SoundMetadata metadata) ∧
      SoundCategories categories ∧
      ∃ score, r.summary.members.get? "health_score" = some score ∧ SoundScore score := by
  have metadata : metadataDefects r.metadata = [] ↔ ∃ metadata : Members,
      r.get? "metadata" = some (.object metadata) ∧ SoundMetadata metadata := by
    rw [metadataDefects, List.append_eq_nil_iff, toolDefects_eq_nil_iff,
      overheadDefects_eq_nil_iff]
    constructor
    · intro sound
      obtain ⟨⟨metadata, same, tool⟩, overhead⟩ := sound
      rw [members_metadata_eq same] at overhead
      exact ⟨metadata, same, tool, overhead⟩
    · intro sound
      obtain ⟨metadata, same, sound⟩ := sound
      refine ⟨⟨metadata, same, sound.tool⟩, ?_⟩
      rw [members_metadata_eq (m := r.metadata) same]
      exact sound.overhead
  have results : (if entryCount categories = 0 then [Defect.noResults] else []) = [] ↔
      ∃ name entries, (name, Json.array entries) ∈ categories ∧ entries ≠ [] := by
    rw [← entryCount_ne_zero_iff]
    split <;> simp [*]
  simp only [defectsWithin, List.append_eq_nil_iff, metadata, absentDefects_eq_nil_iff,
    List.flatMap_eq_nil_iff, Prod.forall, categoryDefects_eq_nil_iff, results,
    healthDefects_eq_nil_iff]
  constructor
  · intro sound
    obtain ⟨⟨⟨⟨metadata, mandatory⟩, arrays⟩, inhabited⟩, health⟩ := sound
    exact ⟨metadata, ⟨mandatory, arrays, inhabited⟩, health⟩
  · intro sound
    obtain ⟨metadata, ⟨mandatory, arrays, inhabited⟩, health⟩ := sound
    exact ⟨⟨⟨⟨metadata, mandatory⟩, arrays⟩, inhabited⟩, health⟩

/-- A report is valid if each of its three parts is sound. -/
theorem isValid_iff_sound_parts {r : Report} : r.assess.isValid = true ↔
    (∃ metadata : Members, r.root.get? "metadata" = some (.object metadata) ∧
      SoundMetadata metadata) ∧
    (∃ categories : Members, r.root.get? "categories" = some (.object categories) ∧
      SoundCategories categories) ∧
    ∃ score, r.root.at? ["summary", "health_score"] = some score ∧ SoundScore score := by
  constructor
  · intro valid
    unfold assess at valid
    cases missing : r.missingTopLevel with
    | cons name names => simp [missing, Assessment.isValid] at valid
    | nil =>
      cases held : r.categories? with
      | none => simp [missing, held, Assessment.isValid] at valid
      | some categories =>
        simp only [missing, held, Assessment.isValid, List.isEmpty_iff,
          defectsWithin_eq_nil_iff] at valid
        obtain ⟨metadata, sound, score, found, fine⟩ := valid
        rw [get?_summary] at found
        exact ⟨metadata, ⟨categories, categories?_eq_some_iff.1 held, sound⟩, score, found, fine⟩
  · intro sound
    obtain ⟨⟨metadata, has_metadata, sound_metadata⟩,
      ⟨categories, has_categories, sound_categories⟩, score, has_score, sound_score⟩ := sound
    have held := categories?_eq_some_iff.2 has_categories
    have missing : r.missingTopLevel = [] := by
      obtain ⟨top, root, in_metadata⟩ := Json.get?_eq_some_iff.1 has_metadata
      rw [Json.at?] at has_score
      obtain ⟨summary, in_summary, -⟩ := Option.bind_eq_some_iff.1 has_score
      rw [get?_root root] at has_categories in_summary
      exact missingTopLevel_eq_nil_iff.2
        ⟨top, _, _, summary, root, in_metadata, has_categories, in_summary⟩
    have none_found : defectsWithin r categories = [] :=
      defectsWithin_eq_nil_iff.2 ⟨⟨metadata, has_metadata, sound_metadata⟩, sound_categories,
        score, (get?_summary r _).trans has_score, sound_score⟩
    simp only [assess, missing, held, Assessment.isValid, none_found, List.isEmpty_nil]

/-- A report is valid exactly if its document is a sound report, whatever else the document
holds. -/
theorem isValid_assess_iff (r : Report) : r.assess.isValid = true ↔ SoundReport r.root := by
  have valid : r.assess.isValid = true ↔ r.missingTopLevel = [] ∧
      ∃ categories, r.categories? = some categories ∧ defectsWithin r categories = [] := by
    unfold assess
    cases missing : r.missingTopLevel with
    | cons name names => simp [Assessment.isValid]
    | nil =>
      cases held : r.categories? with
      | none => simp [Assessment.isValid]
      | some categories => simp [Assessment.isValid]
  rw [valid, missingTopLevel_eq_nil_iff]
  constructor
  · intro valid
    obtain ⟨⟨top, _, _, summary, root, _, _, has_summary⟩, categories, held, none_found⟩ := valid
    obtain ⟨⟨metadata, held_metadata, sound_metadata⟩, sound_categories, score, has_score,
      sound_score⟩ := defectsWithin_eq_nil_iff.1 none_found
    rw [categories?_eq_some_iff, get?_root root] at held
    rw [get?, get?_root root] at held_metadata
    -- The summary holds a score, so it is an object.
    cases summary with
    | object members =>
      refine ⟨top, metadata, categories, members, root, held_metadata, sound_metadata, held,
        sound_categories, has_summary, score, ?_, sound_score⟩
      simpa [Report.summary, get?, get?_root root, has_summary, Json.members?] using has_score
    | null | bool _ | number _ | string _ | array _ =>
      simp [Report.summary, get?, get?_root root, has_summary, Json.members?] at has_score
  · intro sound
    obtain ⟨top, metadata, categories, summary, root, has_metadata, sound_metadata, has_categories,
      sound_categories, has_summary, score, has_score, sound_score⟩ := sound
    refine ⟨⟨top, _, _, _, root, has_metadata, has_categories, has_summary⟩, categories, ?_, ?_⟩
    · rw [categories?_eq_some_iff, get?_root root, has_categories]
    · refine defectsWithin_eq_nil_iff.2
        ⟨⟨metadata, ?_, sound_metadata⟩, sound_categories, score, ?_, sound_score⟩
      · rw [get?, get?_root root, has_metadata]
      · simp [Report.summary, get?, get?_root root, has_summary, Json.members?, has_score]

end Report

end HealthReport
