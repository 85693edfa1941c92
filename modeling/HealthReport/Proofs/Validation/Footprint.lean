import HealthReport.Proofs.Json.Rewriting
import HealthReport.Proofs.Validation.Validity

/-!
# What validation looks at

Validation looks at a small part of a report, its footprint: which of the three members are there,
the tool, the process number of the observer, of each category whether it is an array and of which
entries, and the health score. Reports with one footprint have the same defects.

Results:
1. `assess_of_footprint_eq`: the footprint settles the defects and the counts.
2. `footprint_withoutErrors`, `advisory_withoutErrors`: collectors without their errors leave no
   advisory and the same footprint.
3. `isValid_of_alike`, `isValid_insert`: a valid report stays valid while the values that are looked
   at keep their outlines, as they do when a member is added that validation does not know.
4. `assess_footprint`: what validation depends on.
-/
namespace HealthReport

/-! ## Definitions -/

/-- What validation looks at in an entry that is an object. Of its category only the presence
counts. -/
structure EntryFootprint where
  collector : Option Json
  tier : Option Json
  category : Bool

/-- What validation looks at in a report. A null counts as absent. -/
@[ext]
structure Footprint where
  /-- Which of the members that every report has are there. -/
  present : List String
  tool : Option Json
  /-- The process number of the observer, if an overhead is stated at all. -/
  selfPid : Option (Option Json)
  /-- The categories, if they are an object, by name, with the entries of those that are arrays. -/
  categories : Option (List (String × Option (List (Option EntryFootprint))))
  health : Option Json

namespace Footprint

def ofEntry (entry : Json) : Option EntryFootprint :=
  entry.members?.map fun members =>
    ⟨members.get? "collector", members.get? "tier", members.has "category"⟩

def ofCategory (value : Json) : Option (List (Option EntryFootprint)) :=
  value.items?.map fun entries => entries.map ofEntry

def ofCategories (categories : Members) : List (String × Option (List (Option EntryFootprint))) :=
  categories.map fun member => (member.1, ofCategory member.2)

end Footprint

/-- The paths that validation follows to their end. -/
inductive Followed : List Step → Prop
  | tool : Followed [.member "metadata", .member "tool"]
  | selfPid : Followed [.member "metadata", .member "observer_overhead", .member "self_pid"]
  | entry (category : String) (index : Nat) {name : String}
      (known : name ∈ ["collector", "category", "tier"]) :
      Followed [.member "categories", .member category, .item index, .member name]
  | health : Followed [.member "summary", .member "health_score"]

/-- No path that validation follows leads through the member of this name, below the path to its
object. -/
def Unknown (path : List Step) (name : String) : Prop :=
  ∀ route, Followed route → ¬ path ++ [.member name] <+: route

namespace Report

def footprint (r : Report) : Footprint where
  present := ["metadata", "categories", "summary"].filter fun name => (r.root.get? name).isSome
  tool := r.root.stated? ["metadata", "tool"]
  selfPid := (r.root.stated? ["metadata", "observer_overhead"]).map (·.get? "self_pid")
  categories := ((r.root.get? "categories").bind Json.members?).map Footprint.ofCategories
  health := r.root.stated? ["summary", "health_score"]

/-- The report without the errors of its collectors. -/
def withoutErrors (r : Report) : Report :=
  r.onCategories (fun _ value => value.onItems (·.without "errors"))
    fun _ _ regular => Json.isRegular_onItems (fun _ => Json.isRegular_without) regular

/-! ## 1. Reports with one footprint -/

theorem missingTopLevel_of_present {r other : Report}
    (same : r.footprint.present = other.footprint.present) :
    r.missingTopLevel = other.missingTopLevel := by
  have present : ∀ s : Report, ∀ name ∈ topLevelNames,
      (s.has name = true ↔ name ∈ s.footprint.present) := by
    intro s name known
    rw [footprint, List.mem_filter]
    exact (and_iff_right known).symm
  refine List.filter_congr fun name known => ?_
  have has : r.has name = other.has name := by
    rw [Bool.eq_iff_iff, present r name known, present other name known, same]
  rw [has]

theorem toolDefects_of_tool {r other : Report} (same : r.footprint.tool = other.footprint.tool) :
    toolDefects r.metadata = toolDefects other.metadata := by
  have tool : r.metadata.tool? = other.metadata.tool? := by
    rw [Metadata.tool?, Metadata.tool?, present?_metadata, present?_metadata]
    exact same
  rw [toolDefects, toolDefects, tool]

theorem overheadDefects_of_selfPid {r other : Report}
    (same : r.footprint.selfPid = other.footprint.selfPid) :
    overheadDefects r.metadata = overheadDefects other.metadata := by
  have pid : r.metadata.overhead?.map Overhead.selfPid? =
      other.metadata.overhead?.map Overhead.selfPid? := by
    rw [Metadata.overhead?, Metadata.overhead?, present?_metadata, present?_metadata,
      Option.map_map, Option.map_map]
    exact same
  unfold overheadDefects Overhead.validSelfPid?
  rcases map_eq_map_cases pid with ⟨held, held'⟩ | ⟨overhead, overhead', held, held', pid⟩
  · rw [held, held']
  · simp only [held, held', pid]

theorem healthDefects_of_health {r other : Report}
    (same : r.footprint.health = other.footprint.health) :
    healthDefects r.summary = healthDefects other.summary := by
  have score : r.summary.healthScore? = other.summary.healthScore? := by
    rw [Summary.healthScore?, Summary.healthScore?, present?_summary, present?_summary]
    exact same
  rw [healthDefects, healthDefects, score]

theorem resultDefects_of_members {category : String} {a b : Members} {index : Nat}
    (collector : a.get? "collector" = b.get? "collector") (tier : a.get? "tier" = b.get? "tier")
    (named : a.has "category" = b.has "category") :
    resultDefects category ⟨a⟩ index = resultDefects category ⟨b⟩ index := by
  have has : CollectorResult.has ⟨a⟩ "collector" = CollectorResult.has ⟨b⟩ "collector" :=
    congrArg Option.isSome collector
  have has' : CollectorResult.has ⟨a⟩ "category" = CollectorResult.has ⟨b⟩ "category" := named
  have label : collectorLabel ⟨a⟩ index = collectorLabel ⟨b⟩ index := by
    rw [collectorLabel, collectorLabel, CollectorResult.collector?, CollectorResult.collector?,
      collector]
  have tier' : CollectorResult.tier? ⟨a⟩ = CollectorResult.tier? ⟨b⟩ := tier
  rw [resultDefects, resultDefects, has, has', label, tier']

theorem entryDefects_of_ofEntry {category : String} {entry other : Json} {index : Nat}
    (same : Footprint.ofEntry entry = Footprint.ofEntry other) :
    entryDefects category entry index = entryDefects category other index := by
  unfold entryDefects
  rcases map_eq_map_cases same with ⟨held, held'⟩ | ⟨members, members', held, held', same⟩
  · rw [held, held']
  · injection same with collector tier named
    rw [held, held']
    exact resultDefects_of_members collector tier named

theorem categoryDefects_of_ofCategory {category : String} {value other : Json}
    (same : Footprint.ofCategory value = Footprint.ofCategory other) :
    categoryDefects category value = categoryDefects category other := by
  unfold categoryDefects
  rcases map_eq_map_cases same with ⟨held, held'⟩ | ⟨entries, entries', held, held', same⟩
  · rw [held, held']
  · have numbered := congrArg List.zipIdx same
    rw [List.zipIdx_map, List.zipIdx_map] at numbered
    simp only [held, held', List.flatMap_def]
    refine congrArg List.flatten (map_eq_of_map_eq ?_ numbered)
    rintro ⟨entry, index⟩ ⟨entry', index'⟩ alike
    obtain ⟨entries, indices⟩ := Prod.mk.inj alike
    obtain rfl : index = index' := indices
    exact entryDefects_of_ofEntry entries

section

variable {categories others : Members}

theorem names_of_ofCategories
    (same : Footprint.ofCategories categories = Footprint.ofCategories others) :
    categories.names = others.names :=
  map_eq_of_map_eq (g := Prod.fst) (fun _ _ alike => (Prod.mk.inj alike).1) same

theorem absentDefects_of_ofCategories
    (same : Footprint.ofCategories categories = Footprint.ofCategories others) :
    absentDefects categories = absentDefects others := by
  have has : ∀ name, categories.has name = others.has name := by
    intro name
    rw [Bool.eq_iff_iff, Members.has_iff_mem_names, Members.has_iff_mem_names,
      names_of_ofCategories same]
  simp only [absentDefects, has]

theorem entryCount_of_ofCategories
    (same : Footprint.ofCategories categories = Footprint.ofCategories others) :
    entryCount categories = entryCount others := by
  have length : ∀ value : Json, (value.items?.getD []).length =
      ((Footprint.ofCategory value).getD []).length := by
    intro value
    rw [Footprint.ofCategory]
    cases value.items? with
    | none => rfl
    | some entries => exact (List.length_map _).symm
  unfold entryCount
  refine congrArg (List.foldr (· + ·) 0) (map_eq_of_map_eq ?_ same)
  intro member member' alike
  simp only [length, (Prod.mk.inj alike).2]

theorem flatMap_of_ofCategories
    (same : Footprint.ofCategories categories = Footprint.ofCategories others) :
    (categories.flatMap fun (category, value) => categoryDefects category value) =
      others.flatMap fun (category, value) => categoryDefects category value := by
  rw [List.flatMap_def, List.flatMap_def]
  refine congrArg List.flatten (map_eq_of_map_eq ?_ same)
  rintro ⟨name, value⟩ ⟨name', value'⟩ alike
  obtain ⟨rfl, alike⟩ := Prod.mk.inj alike
  exact categoryDefects_of_ofCategory alike

end

theorem defectsWithin_of_footprint {r other : Report} {categories others : Members}
    (tool : r.footprint.tool = other.footprint.tool)
    (selfPid : r.footprint.selfPid = other.footprint.selfPid)
    (health : r.footprint.health = other.footprint.health)
    (same : Footprint.ofCategories categories = Footprint.ofCategories others) :
    defectsWithin r categories = defectsWithin other others := by
  rw [defectsWithin, defectsWithin, metadataDefects, metadataDefects, toolDefects_of_tool tool,
    overheadDefects_of_selfPid selfPid, absentDefects_of_ofCategories same,
    flatMap_of_ofCategories same, entryCount_of_ofCategories same, healthDefects_of_health health]

/-- Reports with one footprint have the same defects and the same counts. -/
theorem assess_of_footprint_eq {r other : Report} (same : r.footprint = other.footprint) :
    r.assess.defects = other.assess.defects ∧
      r.assess.categoryCount = other.assess.categoryCount ∧
      r.assess.resultCount = other.assess.resultCount := by
  have missing := missingTopLevel_of_present (congrArg Footprint.present same)
  have tool := congrArg Footprint.tool same
  have selfPid := congrArg Footprint.selfPid same
  have health := congrArg Footprint.health same
  have categories : r.categories?.map Footprint.ofCategories =
      other.categories?.map Footprint.ofCategories := congrArg Footprint.categories same
  unfold assess
  rw [← missing]
  cases r.missingTopLevel with
  | cons name names => exact ⟨rfl, rfl, rfl⟩
  | nil =>
    rcases map_eq_map_cases categories with
      ⟨held, held'⟩ | ⟨members, others, held, held', alike⟩
    · rw [held, held', metadataDefects, metadataDefects, toolDefects_of_tool tool,
        overheadDefects_of_selfPid selfPid]
      exact ⟨rfl, rfl, rfl⟩
    · rw [held, held']
      have length : members.length = others.length := by
        simpa only [Footprint.ofCategories, List.length_map] using congrArg List.length alike
      exact ⟨defectsWithin_of_footprint tool selfPid health alike, length,
        entryCount_of_ofCategories alike⟩

/-! ## 2. Collectors without their errors -/

theorem errorOnlyLabel?_eq_none {entry : Json} {index : Nat}
    (quiet : ∀ members, entry = .object members → CollectorResult.isErrorOnly ⟨members⟩ = false) :
    errorOnlyLabel? entry index = none := by
  unfold errorOnlyLabel?
  cases held : entry.members? with
  | none => rfl
  | some members =>
    rw [Json.members?_eq_some_iff] at held
    simp only [quiet members held, Bool.false_eq_true, if_false]

/-- Nothing is advised if no entry holds errors and nothing else. -/
theorem advisory_eq_none {r : Report}
    (quiet : ∀ category entries, r.root.at? ["categories", category] = some (.array entries) →
      ∀ entry ∈ entries, ∀ members, entry = .object members →
        CollectorResult.isErrorOnly ⟨members⟩ = false) :
    r.assess.advisory = none := by
  unfold assess
  cases r.missingTopLevel with
  | cons name names => rfl
  | nil =>
    cases held : r.categories? with
    | none => rfl
    | some categories =>
      have nobody : errorOnly categories = [] := by
        rw [errorOnly, List.flatMap_eq_nil_iff]
        rintro ⟨category, value⟩ inside
        have found := (mem_categories_iff (categories?_eq_some_iff.1 held)).1 inside
        cases value with
        | array entries =>
          rw [List.filterMap_eq_nil_iff]
          rintro ⟨entry, index⟩ place
          have among : entry ∈ entries :=
            List.mem_of_getElem? (List.mem_zipIdx_iff_getElem?.1 place)
          exact Option.map_eq_none_iff.2
            (errorOnlyLabel?_eq_none (quiet category entries found entry among))
        | null | bool _ | number _ | string _ | object _ => rfl
      simp only [advisory?, nobody]

/-- The categories count for what they leave of a footprint. -/
theorem footprint_onCategories {change : String → Json → Json}
    {keeps : ∀ name value, value.isRegular = true → (change name value).isRegular = true}
    (same : ∀ name value, Footprint.ofCategory (change name value) = Footprint.ofCategory value)
    (r : Report) : (r.onCategories change keeps).footprint = r.footprint := by
  have metadata : (r.onCategories change keeps).root.get? "metadata" = r.root.get? "metadata" :=
    get?_onCategories r (by decide)
  have summary : (r.onCategories change keeps).root.get? "summary" = r.root.get? "summary" :=
    get?_onCategories r (by decide)
  have categories : (r.onCategories change keeps).root.get? "categories" =
      (r.root.get? "categories").map (·.onMembers change) := categories_onCategories r
  refine Footprint.ext ?present ?tool ?selfPid ?categories ?health
  case present =>
    simp only [footprint, List.filter_cons, List.filter_nil, metadata, summary, categories,
      Option.isSome_map]
  case tool => simp only [footprint, Json.stated?, Json.at?, metadata]
  case selfPid => simp only [footprint, Json.stated?, Json.at?, metadata]
  case categories =>
    simp only [footprint, categories]
    cases r.root.get? "categories" with
    | none => rfl
    | some held =>
      cases held with
      | object members =>
        refine congrArg some ((List.map_map ..).trans (List.map_congr_left fun member _ => ?_))
        exact congrArg (Prod.mk member.1) (same member.1 member.2)
      | null | bool _ | number _ | string _ | array _ => rfl
  case health => simp only [footprint, Json.stated?, Json.at?, summary]

theorem ofEntry_without_errors (entry : Json) :
    Footprint.ofEntry (entry.without "errors") = Footprint.ofEntry entry := by
  cases entry with
  | object members =>
    simp only [Footprint.ofEntry, Json.without, Json.members?, Option.map_some, Members.has,
      Members.get?_without]
    rfl
  | null | bool _ | number _ | string _ | array _ => rfl

theorem ofCategory_without_errors (value : Json) :
    Footprint.ofCategory (value.onItems (·.without "errors")) = Footprint.ofCategory value := by
  cases value with
  | array entries =>
    simp only [Footprint.ofCategory, Json.onItems, Json.items?, Option.map_some, List.map_map]
    exact congrArg some (List.map_congr_left fun entry _ => ofEntry_without_errors entry)
  | null | bool _ | number _ | string _ | object _ => rfl

theorem footprint_withoutErrors (r : Report) : r.withoutErrors.footprint = r.footprint :=
  footprint_onCategories (fun _ value => ofCategory_without_errors value) r

theorem advisory_withoutErrors (r : Report) : r.withoutErrors.assess.advisory = none := by
  refine advisory_eq_none fun category entries found entry among members object => ?_
  rw [withoutErrors, at?_onCategories, Option.map_eq_some_iff] at found
  obtain ⟨value, -, changed⟩ := found
  cases value with
  | array others =>
    obtain rfl := Json.array.inj changed
    obtain ⟨other, -, stripped⟩ := List.mem_map.1 among
    cases other with
    | object held =>
      obtain rfl := Json.object.inj (stripped.trans object)
      have none_left : Members.get? (Members.without "errors" held) "errors" = none := by
        rw [Members.get?_without, if_pos rfl]
      simp only [CollectorResult.isErrorOnly, CollectorResult.hasTruthy, none_left, Option.map_none,
        Option.getD_none, Bool.false_and]
    | null | bool _ | number _ | string _ | array _ => cases stripped.trans object
  | null | bool _ | number _ | string _ | object _ => cases changed

theorem assess_withoutErrors (r : Report) :
    r.withoutErrors.assess = { r.assess with advisory := none } := by
  obtain ⟨defects, categories, results⟩ := assess_of_footprint_eq (footprint_withoutErrors r)
  dsimp only
  rw [← defects, ← advisory_withoutErrors r, ← categories, ← results]

/-! ## 3. Values that are alike where validation looks -/

end Report

/-- Two values lead to the same outline along each of these paths. -/
def AlikeOn (routes : List Step → Prop) (a b : Json) : Prop :=
  ∀ route, routes route → (a.reach? route).map Json.outline = (b.reach? route).map Json.outline

section

variable {routes : List Step → Prop} {a b : Json}

theorem AlikeOn.symm (alike : AlikeOn routes a b) : AlikeOn routes b a :=
  fun route known => (alike route known).symm

theorem AlikeOn.outline (alike : AlikeOn routes a b) (known : routes []) :
    b.outline = a.outline :=
  (Option.some.inj (alike [] known)).symm

/-- Where a step leads somewhere in one value it does in the other, to a value that is alike. -/
theorem AlikeOn.step (alike : AlikeOn routes a b) {step : Step} (known : routes [step])
    {held : Json} (found : step.reach? a = some held) :
    ∃ held', step.reach? b = some held' ∧
      AlikeOn (fun route => routes (step :: route)) held held' := by
  have same := alike [step] known
  simp only [Json.reach?, found, Option.bind_some, Option.map_some] at same
  obtain ⟨_, reached, -⟩ := Option.map_eq_some_iff.1 same.symm
  obtain ⟨held', found', -⟩ := Option.bind_eq_some_iff.1 reached
  refine ⟨held', found', fun route further => ?_⟩
  have outlines := alike (step :: route) further
  simpa only [Json.reach?, found, found', Option.bind_some] using outlines

theorem SoundTier.of_alike (sound : SoundTier a) (alike : AlikeOn routes a b)
    (here : routes []) : SoundTier b := by
  obtain ⟨n, rfl, fine⟩ := sound
  exact ⟨n, Json.outline_eq_number_iff.1 (alike.outline here), fine⟩

theorem SoundScore.of_alike (sound : SoundScore a) (alike : AlikeOn routes a b)
    (here : routes []) : SoundScore b := by
  obtain ⟨n, rfl, fine⟩ := sound
  exact ⟨n, Json.outline_eq_number_iff.1 (alike.outline here), fine⟩

theorem SoundOverhead.of_alike (sound : SoundOverhead a) (alike : AlikeOn routes a b)
    (here : routes []) (selfPid : routes [.member "self_pid"]) : SoundOverhead b := by
  obtain ⟨members, pid, rfl, found, range⟩ := sound
  obtain ⟨others, rfl⟩ := Json.outline_eq_object_iff.1 (alike.outline here)
  obtain ⟨held, found', inside⟩ := alike.step selfPid found
  obtain rfl := Json.outline_eq_number_iff.1 (inside.outline selfPid)
  exact ⟨others, pid, rfl, found', range⟩

theorem SoundEntry.of_alike (sound : SoundEntry a) (alike : AlikeOn routes a b)
    (here : routes [])
    (known : ∀ name ∈ ["collector", "category", "tier"], routes [.member name]) :
    SoundEntry b := by
  obtain ⟨members, rfl, collector, category, tier, found, fine⟩ := sound
  obtain ⟨others, rfl⟩ := Json.outline_eq_object_iff.1 (alike.outline here)
  have has : ∀ name ∈ ["collector", "category", "tier"], members.has name → others.has name := by
    intro name among there
    obtain ⟨held, found⟩ := Option.isSome_iff_exists.1 there
    obtain ⟨held', found', -⟩ := alike.step (known name among) found
    exact Option.isSome_iff_exists.2 ⟨held', found'⟩
  obtain ⟨tier', found', inside⟩ := alike.step (known "tier" (by simp)) found
  exact ⟨others, rfl, has _ (by simp) collector, has _ (by simp) category, tier', found',
    fine.of_alike inside (known "tier" (by simp))⟩

theorem SoundMetadata.of_alike {metadata others : Members} (sound : SoundMetadata metadata)
    (alike : AlikeOn routes (.object metadata) (.object others))
    (tool : routes [.member "tool"]) (overhead : routes [.member "observer_overhead"])
    (selfPid : routes [.member "observer_overhead", .member "self_pid"]) :
    SoundMetadata others := by
  refine ⟨?tool, fun held found => ?overhead⟩
  case tool =>
    obtain ⟨held, found, inside⟩ := alike.step tool sound.tool
    rwa [← Json.outline_eq_string_iff.1 (inside.outline tool)]
  case overhead =>
    obtain ⟨held', found', inside⟩ := alike.symm.step overhead found
    rcases sound.overhead held' found' with rfl | fine
    · exact .inl (Json.outline_eq_null_iff.1 (inside.symm.outline overhead))
    · exact .inr (fine.of_alike inside.symm overhead selfPid)

theorem SoundCategories.of_alike {categories others : Members} (sound : SoundCategories categories)
    (ascending : categories.isAscending) (ascending' : others.isAscending)
    (alike : AlikeOn routes (.object categories) (.object others))
    (category : ∀ name, routes [.member name])
    (entry : ∀ name index, routes [.member name, .item index])
    (known : ∀ name index, ∀ field ∈ ["collector", "category", "tier"],
      routes [.member name, .item index, .member field]) :
    SoundCategories others := by
  -- What stands in the other categories stands in these too, alike.
  have back : ∀ name value, (name, value) ∈ others → ∃ held, (name, held) ∈ categories ∧
      AlikeOn (fun route => routes (.member name :: route)) held value := by
    intro name value inside
    obtain ⟨held, found, inner⟩ := alike.symm.step (category name)
      (Members.get?_of_mem ascending' inside)
    exact ⟨held, Members.mem_of_get? found, inner.symm⟩
  refine ⟨?mandatory, ?arrays, ?inhabited⟩
  case mandatory =>
    intro name among
    obtain ⟨held, found⟩ := Option.isSome_iff_exists.1 (sound.mandatory name among)
    obtain ⟨held', found', -⟩ := alike.step (category name) found
    exact Option.isSome_iff_exists.2 ⟨held', found'⟩
  case arrays =>
    intro name value inside
    obtain ⟨held, before, inner⟩ := back name value inside
    obtain ⟨entries, rfl, fine⟩ := sound.arrays name held before
    obtain ⟨entries', rfl⟩ := Json.outline_eq_array_iff.1 (inner.outline (category name))
    refine ⟨entries', rfl, fun entry' among => ?_⟩
    obtain ⟨index, place⟩ := List.getElem?_of_mem among
    obtain ⟨held, place', innermost⟩ := inner.symm.step (entry name index) place
    exact (fine held (List.mem_of_getElem? place')).of_alike innermost.symm (entry name index)
      (known name index)
  case inhabited =>
    obtain ⟨name, entries, inside, full⟩ := sound.inhabited
    obtain ⟨value, found, inner⟩ := alike.step (category name)
      (Members.get?_of_mem ascending inside)
    obtain ⟨entries', rfl⟩ := Json.outline_eq_array_iff.1 (inner.outline (category name))
    obtain ⟨first, rest, rfl⟩ := List.exists_cons_of_ne_nil full
    have head : (Step.item 0).reach? (.array (first :: rest)) = some first := rfl
    obtain ⟨first', place, -⟩ := inner.step (entry name 0) head
    refine ⟨name, entries', Members.mem_of_get? found, ?_⟩
    rintro rfl
    cases place

end

namespace Report

/-- Validation follows the path, to its end or further. -/
def Watched (route : List Step) : Prop := ∃ followed, Followed followed ∧ route <+: followed

theorem isValid_of_alike {r other : Report} (alike : AlikeOn Watched r.root other.root)
    (valid : r.assess.isValid = true) : other.assess.isValid = true := by
  obtain ⟨⟨metadata, has_metadata, sound_metadata⟩,
    ⟨categories, has_categories, sound_categories⟩, score, has_score, sound_score⟩ :=
    isValid_iff_sound_parts.1 valid
  refine isValid_iff_sound_parts.2 ⟨?metadata, ?categories, ?summary⟩
  case metadata =>
    have here : Watched [.member "metadata"] := ⟨_, .tool, by decide⟩
    obtain ⟨value, found, inside⟩ := alike.step here has_metadata
    obtain ⟨others, rfl⟩ := Json.outline_eq_object_iff.1 (inside.outline here)
    exact ⟨others, found, sound_metadata.of_alike inside ⟨_, .tool, by decide⟩
      ⟨_, .selfPid, by decide⟩ ⟨_, .selfPid, by decide⟩⟩
  case categories =>
    have entry : ∀ name index, ∀ field ∈ ["collector", "category", "tier"],
        Followed [.member "categories", .member name, .item index, .member field] :=
      fun name index field known => .entry name index known
    have here : Watched [.member "categories"] :=
      ⟨_, entry "cpu" 0 "collector" (by simp), by decide⟩
    obtain ⟨value, found, inside⟩ := alike.step here has_categories
    obtain ⟨others, rfl⟩ := Json.outline_eq_object_iff.1 (inside.outline here)
    refine ⟨others, found, sound_categories.of_alike
      (isAscending_categories (categories?_eq_some_iff.2 has_categories))
      (isAscending_categories (categories?_eq_some_iff.2 found)) inside ?_ ?_ ?_⟩
    · exact fun name => ⟨_, entry name 0 "collector" (by simp), by simp⟩
    · exact fun name index => ⟨_, entry name index "collector" (by simp), by simp⟩
    · exact fun name index field known => ⟨_, entry name index field known, List.prefix_rfl⟩
  case summary =>
    have here : Watched [.member "summary"] := ⟨_, .health, by decide⟩
    have there : Watched [.member "summary", .member "health_score"] := ⟨_, .health, by decide⟩
    obtain ⟨summary, has_summary, within⟩ := Option.bind_eq_some_iff.1 has_score
    obtain ⟨value, found, inside⟩ := alike.step here has_summary
    rw [at?_single] at within
    obtain ⟨score', found', inner⟩ := inside.step there within
    refine ⟨score', ?_, sound_score.of_alike inner there⟩
    exact Option.bind_eq_some_iff.2 ⟨value, found, (at?_single value _).trans found'⟩

theorem alikeOn_insert (r : Report) {name : String} {path : List Step}
    (unknown : Unknown path name) (value : Json) (regular : value.isRegular = true) :
    AlikeOn Watched (r.insert name value regular path).root r.root := by
  intro route watched
  obtain ⟨followed, known, within⟩ := watched
  exact Json.reach?_insert route path r.root fun through =>
    unknown followed known (through.trans within)

theorem isValid_insert (r : Report) {name : String} {path : List Step}
    (unknown : Unknown path name) (value : Json) (regular : value.isRegular = true) :
    (r.insert name value regular path).assess.isValid = r.assess.isValid := by
  have alike := alikeOn_insert r unknown value regular
  rw [Bool.eq_iff_iff]
  exact ⟨isValid_of_alike alike, isValid_of_alike alike.symm⟩

/-! ## 4. What validation depends on -/

/-- Validation depends on the footprint. The errors of collectors only lead to an advisory, and a
member that validation does not know changes no verdict, wherever it is added. Footprints are
compared by equality, for which `0.0` and `-0.0` are two values. -/
theorem assess_footprint (r : Report) :
    (∀ other : Report, r.footprint = other.footprint →
      r.assess.defects = other.assess.defects ∧
        r.assess.categoryCount = other.assess.categoryCount ∧
        r.assess.resultCount = other.assess.resultCount) ∧
    r.withoutErrors.assess = { r.assess with advisory := none } ∧
    ∀ name value regular path, Unknown path name →
      (r.insert name value regular path).assess.isValid = r.assess.isValid := by
  refine ⟨fun other same => assess_of_footprint_eq same, assess_withoutErrors r, ?_⟩
  intro name value regular path unknown
  exact isValid_insert r unknown value regular

/-- A report in which one collector failed. -/
def oneFailed : Report :=
  ⟨.object [("categories", .object [
        ("cpu", .array [.object [("category", .string "cpu"), ("collector", .string "runqlat"),
          ("errors", .array [.string "no access"]), ("tier", .number (.integer 2))]]),
        ("memory", .array []), ("process", .array [])]),
      ("metadata", .object [("observer_overhead", .object [("self_pid", .number (.integer 7))]),
        ("tool", .string "melisai")]),
      ("summary", .object [("health_score", .number (.integer 90))])], by decide⟩

/-- The same report after the collector measured something, with the host's name. -/
def oneMeasured : Report :=
  ⟨.object [("categories", .object [
        ("cpu", .array [.object [("category", .null), ("collector", .string "runqlat"),
          ("data", .object [("p99", .number (.integer 5))]), ("tier", .number (.integer 2))]]),
        ("memory", .array []), ("process", .array [])]),
      ("metadata", .object [("hostname", .string "db1"),
        ("observer_overhead", .object [("cpu", .null), ("self_pid", .number (.integer 7))]),
        ("tool", .string "melisai")]),
      ("summary", .object [("anomalies", .array []), ("health_score", .number (.integer 90))])],
    by decide⟩

theorem assess_footprint_of_oneFailed :
    (oneFailed.footprint = oneMeasured.footprint ∧
      oneFailed.assess.defects = oneMeasured.assess.defects) ∧
    (oneFailed.assess.advisory = some ⟨["runqlat"]⟩ ∧
      oneFailed.withoutErrors.assess.advisory = none) ∧
    Unknown [.member "categories", .member "cpu", .item 0] "data" ∧
      (oneFailed.insert "data" (.object []) (by decide)
        [.member "categories", .member "cpu", .item 0]).assess.isValid = true := by
  have same : oneFailed.footprint = oneMeasured.footprint := rfl
  have unknown : Unknown [.member "categories", .member "cpu", .item 0] "data" := by
    intro route followed
    cases followed with
    | tool | selfPid | health => decide
    | entry category index known =>
      rintro ⟨rest, through⟩
      simp only [List.cons_append, List.nil_append, List.cons.injEq, Step.member.injEq] at through
      obtain ⟨-, -, -, rfl, -⟩ := through
      exact absurd known (by decide)
  obtain ⟨agree, without, insertion⟩ := assess_footprint oneFailed
  refine ⟨⟨same, (agree oneMeasured same).1⟩, ⟨by decide +kernel, ?_⟩, unknown, ?_⟩
  · rw [without]
  · rw [insertion _ _ _ _ unknown]
    decide +kernel

end Report

end HealthReport
