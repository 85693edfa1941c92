import HealthReport.Proofs.Text.ByteOrder
import HealthReport.Proofs.Validation.Validity
import Mathlib.Data.List.Nodup

/-!
# Which defects are found, and in which order

`Flaw` says of a document, place by place, what is wrong with it; it mentions no list and no order.
`Site.Before` is the order of the places. Validation then gives exactly the flaws of the document,
each once, in that order.

Results:
1. `Site.Before.asymm`, `ListedBy.unique`: the order of places leaves one complete list.
2. `listed_append`, `listed_flatMap`: complete lists of consecutive regions join to one.
3. `defects_assess_complete`: the defects of a report are the complete list of its flaws.
-/
namespace HealthReport

/-! ## Definitions -/

/-- What an entry of a category may lack, in the order in which it is looked for. -/
inductive EntryPart where
  | whole
  | collector
  | category
  | tier
deriving DecidableEq

/-- A place in a report where something can be wrong. -/
inductive Site where
  | tool
  | selfPid
  | mandatory
  /-- The value of a category, which has to be an array. -/
  | array (category : String)
  | entry (category : String) (index : Nat) (part : EntryPart)
  /-- All entries together. -/
  | results
  | health
deriving DecidableEq

namespace EntryPart

def rank : EntryPart → Nat
  | whole => 0
  | collector => 1
  | category => 2
  | tier => 3

end EntryPart

namespace Site

def rank : Site → Nat
  | tool => 0
  | selfPid => 1
  | mandatory => 2
  | array _ => 3
  | entry _ _ _ => 3
  | results => 4
  | health => 5

/-- The category that a place lies in. -/
def category? : Site → Option String
  | array category => some category
  | entry category _ _ => some category
  | _ => none

/-- The order of places: categories by the bytes of their names, entries by their index. -/
inductive Before : Site → Site → Prop
  | rank {a b : Site} (lower : a.rank < b.rank) : Before a b
  | category {a b : Site} {c d : String} (first : a.category? = some c)
      (second : b.category? = some d) (bytes : Utf8.encode c < Utf8.encode d) : Before a b
  | index {category : String} {i j : Nat} (p q : EntryPart) (lower : i < j) :
      Before (entry category i p) (entry category j q)
  | part (category : String) (i : Nat) {p q : EntryPart} (lower : p.rank < q.rank) :
      Before (entry category i p) (entry category i q)

end Site

/-- How the entry at an index names its collector: by its string, by the JSON text of any other
value, by the index if there is no value. -/
inductive CollectorLabel (members : Members) (index : Nat) : String → Prop
  | string {name : String} (found : members.get? "collector" = some (.string name)) :
      CollectorLabel members index name
  | text {value : Json} (found : members.get? "collector" = some value)
      (other : ∀ name, value ≠ .string name) : CollectorLabel members index value.text
  | index (absent : members.get? "collector" = none) :
      CollectorLabel members index ("unknown[" ++ toString index ++ "]")

/-- What is wrong with one entry. Nothing but the entry, its category and its index counts. -/
inductive EntryFlaw (category : String) (index : Nat) : Json → Site → Defect → Prop
  | notObject {entry : Json} (other : ∀ members, entry ≠ .object members) :
      EntryFlaw category index entry (.entry category index .whole)
        (.resultNotObject category index)
  | noCollector {members : Members} (absent : members.get? "collector" = none) :
      EntryFlaw category index (.object members) (.entry category index .collector)
        (.missingCollector category index)
  | noCategory {members : Members} {label : String} (absent : members.get? "category" = none)
      (named : CollectorLabel members index label) :
      EntryFlaw category index (.object members) (.entry category index .category)
        (.missingResultKey label "category")
  | noTier {members : Members} {label : String} (absent : members.get? "tier" = none)
      (named : CollectorLabel members index label) :
      EntryFlaw category index (.object members) (.entry category index .tier)
        (.missingResultKey label "tier")
  | badTier {members : Members} {label : String} {tier : Json}
      (found : members.get? "tier" = some tier) (unsound : ¬ SoundTier tier)
      (named : CollectorLabel members index label) :
      EntryFlaw category index (.object members) (.entry category index .tier)
        (.invalidTier label tier.text)

/-- What is wrong with a document, place by place. -/
inductive Flaw (root : Json) : Site → Defect → Prop
  | tool (other : root.at? ["metadata", "tool"] ≠ some (.string "melisai")) :
      Flaw root .tool (.wrongTool (Json.described (root.stated? ["metadata", "tool"])))
  | selfPid {overhead : Json}
      (found : root.stated? ["metadata", "observer_overhead"] = some overhead)
      (unsound : ¬ SoundOverhead overhead) :
      Flaw root .selfPid (.invalidSelfPid (Json.described (overhead.get? "self_pid")))
  | mandatory {absent : List String} (some_absent : absent ≠ [])
      (all : absent = ["cpu", "memory", "process"].filter
        fun name => (root.at? ["categories", name]).isNone) :
      Flaw root .mandatory (.missingCategories absent)
  | array {category : String} {value : Json}
      (found : root.at? ["categories", category] = some value)
      (other : ∀ entries, value ≠ .array entries) :
      Flaw root (.array category) (.categoryNotArray category)
  | entry {category : String} {entries : List Json} {index : Nat} {entry : Json} {part : EntryPart}
      {d : Defect} (found : root.at? ["categories", category] = some (.array entries))
      (place : entries[index]? = some entry)
      (flaw : EntryFlaw category index entry (.entry category index part) d) :
      Flaw root (.entry category index part) d
  | results (empty : ∀ category entries,
        root.at? ["categories", category] = some (.array entries) → entries = []) :
      Flaw root .results .noResults
  | health (unsound : ¬ ∃ score, root.stated? ["summary", "health_score"] = some score ∧
        SoundScore score) :
      Flaw root .health
        (.invalidHealthScore (Json.described (root.stated? ["summary", "health_score"])))

/-- The defects are those of the flaws in a region, each once and in order: `found` pairs each of
them with its place. -/
structure ListedBy (flaw : Site → Defect → Prop) (region : Site → Prop)
    (found : List (Site × Defect)) (defects : List Defect) : Prop where
  ordered : found.Pairwise fun a b => Site.Before a.1 b.1
  exact : ∀ site d, (site, d) ∈ found ↔ region site ∧ flaw site d
  defects : found.map (·.2) = defects

def Listed (flaw : Site → Defect → Prop) (region : Site → Prop) (defects : List Defect) : Prop :=
  ∃ found, ListedBy flaw region found defects

/-! ## 1. The order of the places -/

namespace Site

theorem rank_of_category? {a : Site} {category : String} (lies : a.category? = some category) :
    a.rank = 3 := by
  cases a <;> first | rfl | cases lies

/-- Within one category the bytes of its name decide nothing. -/
theorem not_bytes_lt {a b : Site} {c d : String} (same : a.category? = b.category?)
    (first : a.category? = some c) (second : b.category? = some d) :
    ¬ Utf8.encode c < Utf8.encode d := by
  rw [same, second] at first
  cases first
  exact List.lt_irrefl _

theorem Before.asymm {a b : Site} (forth : Before a b) : ¬ Before b a := by
  intro back
  -- Two places differ first in one respect only, so both reasons are of the same kind.
  cases forth with
  | rank lower =>
    cases back with
    | rank other => exact absurd lower (Nat.lt_asymm other)
    | category first second bytes =>
      rw [rank_of_category? first, rank_of_category? second] at lower
      exact absurd lower (Nat.lt_irrefl _)
    | index p q other => exact absurd lower (Nat.lt_irrefl _)
    | part category i other => exact absurd lower (Nat.lt_irrefl _)
  | category first second bytes =>
    cases back with
    | rank other =>
      rw [rank_of_category? first, rank_of_category? second] at other
      exact absurd other (Nat.lt_irrefl _)
    | category first' second' bytes' =>
      rw [first] at second'
      rw [second] at first'
      cases first'
      cases second'
      exact absurd bytes (List.lt_asymm bytes')
    | index p q other => exact absurd bytes (not_bytes_lt rfl first second)
    | part category i other => exact absurd bytes (not_bytes_lt rfl first second)
  | index p q lower =>
    cases back with
    | rank other => exact absurd other (Nat.lt_irrefl _)
    | category first second bytes => exact absurd bytes (not_bytes_lt rfl first second)
    | index p q other => exact absurd lower (Nat.lt_asymm other)
    | part category i other => exact absurd lower (Nat.lt_irrefl _)
  | part category i lower =>
    cases back with
    | rank other => exact absurd other (Nat.lt_irrefl _)
    | category first second bytes => exact absurd bytes (not_bytes_lt rfl first second)
    | index p q other => exact absurd other (Nat.lt_irrefl _)
    | part category i other => exact absurd lower (Nat.lt_asymm other)

end Site

/-! ## 2. Complete lists -/

section

variable {flaw : Site → Defect → Prop} {region others : Site → Prop} {defects more : List Defect}

theorem ListedBy.nodup_sites {found : List (Site × Defect)}
    (listed : ListedBy flaw region found defects) : (found.map (·.1)).Nodup := by
  rw [List.Nodup, List.pairwise_map]
  refine listed.ordered.imp fun {a b} before same => ?_
  rw [same] at before
  exact before.asymm before

/-- A complete list is determined by its flaws. -/
theorem ListedBy.unique {found found' : List (Site × Defect)}
    (listed : ListedBy flaw region found defects) (listed' : ListedBy flaw region found' more) :
    found = found' := by
  have same : found.Perm found' := by
    rw [List.perm_ext_iff_of_nodup (List.Nodup.of_map _ listed.nodup_sites)
      (List.Nodup.of_map _ listed'.nodup_sites)]
    rintro ⟨site, d⟩
    rw [listed.exact, listed'.exact]
  refine same.eq_of_pairwise ?_ listed.ordered listed'.ordered
  intro a b _ _ forth back
  exact absurd back forth.asymm

theorem listed_none (sound : ∀ site d, region site → ¬ flaw site d) : Listed flaw region [] := by
  refine ⟨[], List.Pairwise.nil, fun site d => ?_, rfl⟩
  simp only [List.not_mem_nil, false_iff, not_and]
  exact sound site d

theorem listed_single {site : Site} {d : Defect} (only : ∀ other, flaw site other ↔ other = d) :
    Listed flaw (· = site) [d] := by
  refine ⟨[(site, d)], List.pairwise_singleton _ _, fun site' d' => ?_, rfl⟩
  rw [List.mem_singleton, Prod.mk.injEq]
  constructor
  · rintro ⟨rfl, rfl⟩
    exact ⟨rfl, (only _).2 rfl⟩
  · rintro ⟨rfl, held⟩
    exact ⟨rfl, (only _).1 held⟩

theorem listed_append (before : ∀ a b, region a → others b → Site.Before a b)
    (first : Listed flaw region defects) (second : Listed flaw others more) :
    Listed flaw (fun site => region site ∨ others site) (defects ++ more) := by
  obtain ⟨found, ordered, exact, rfl⟩ := first
  obtain ⟨found', ordered', exact', rfl⟩ := second
  refine ⟨found ++ found', ?_, fun site d => ?_, List.map_append⟩
  · refine List.pairwise_append.2 ⟨ordered, ordered', fun a member b member' => ?_⟩
    exact before _ _ ((exact _ _).1 member).1 ((exact' _ _).1 member').1
  · rw [List.mem_append, exact, exact', or_and_right]

theorem listed_flatMap {α : Type} {items : List α} {lower : α → α → Prop} {region : α → Site → Prop}
    {list : α → List Defect} (ascending : items.Pairwise lower)
    (before : ∀ x y, lower x y → ∀ a b, region x a → region y b → Site.Before a b)
    (each : ∀ item ∈ items, Listed flaw (region item) (list item)) :
    Listed flaw (fun site => ∃ item ∈ items, region item site) (items.flatMap list) := by
  induction items with
  | nil => exact listed_none (by simp)
  | cons head rest ih =>
    rw [List.pairwise_cons] at ascending
    -- The region of the first item lies before those of all items that follow.
    have tail := ih ascending.2 fun item member => each item (List.mem_cons_of_mem _ member)
    have joined := listed_append (fun a b here ⟨item, member, there⟩ =>
      before head item (ascending.1 item member) a b here there) (each head List.mem_cons_self) tail
    simpa only [List.mem_cons, exists_eq_or_imp, List.flatMap_cons] using joined

theorem Listed.transfer {flaw' : Site → Defect → Prop} (listed : Listed flaw region defects)
    (same : ∀ site d, region site → (flaw site d ↔ flaw' site d)) :
    Listed flaw' region defects := by
  obtain ⟨found, ordered, exact, all⟩ := listed
  refine ⟨found, ordered, fun site d => ?_, all⟩
  rw [exact]
  exact and_congr_right fun inside => same site d inside

theorem Listed.place_of_mem (listed : Listed flaw region defects) {d : Defect}
    (member : d ∈ defects) : ∃ site, region site ∧ flaw site d := by
  obtain ⟨found, -, exact, rfl⟩ := listed
  obtain ⟨⟨site, _⟩, inside, rfl⟩ := List.mem_map.1 member
  exact ⟨site, (exact _ _).1 inside⟩

theorem Listed.flaw_of_mem (listed : Listed flaw region defects) {d : Defect}
    (member : d ∈ defects) : ∃ site, flaw site d :=
  (listed.place_of_mem member).imp fun _ => And.right

/-- The region may grow by places without a flaw. -/
theorem Listed.widen (listed : Listed flaw region defects)
    (wider : ∀ site, region site → others site)
    (sound : ∀ site d, others site → flaw site d → region site) : Listed flaw others defects := by
  obtain ⟨found, ordered, exact, all⟩ := listed
  refine ⟨found, ordered, fun site d => ?_, all⟩
  rw [exact]
  constructor
  · intro listed
    obtain ⟨inside, held⟩ := listed
    exact ⟨wider site inside, held⟩
  · intro listed
    obtain ⟨inside, held⟩ := listed
    exact ⟨sound site d inside held, held⟩

end

namespace Report

/-! ## 3. The parts of a report -/

theorem listed_unless {flaw : Site → Defect → Prop} {site : Site} {d : Defect} {condition : Prop}
    [Decidable condition] (only : ∀ other, flaw site other ↔ ¬ condition ∧ other = d) :
    Listed flaw (· = site) (if condition then [] else [d]) := by
  split
  · rename_i holds
    refine listed_none fun other d' same held => ?_
    subst same
    exact ((only d').1 held).1 holds
  · rename_i fails
    exact listed_single fun other => by rw [only, and_iff_right fails]

theorem listed_toolDefects (r : Report) :
    Listed (Flaw r.root) (· = .tool) (toolDefects r.metadata) := by
  have right : r.metadata.tool?.bind Json.string? = some toolName ↔
      r.root.at? ["metadata", "tool"] = some (.string "melisai") := by
    simp [Metadata.tool?, Option.bind_eq_some_iff, Members.present?_eq_some_iff, toolName,
      get?_metadata]
  refine listed_unless fun d => ?_
  rw [right, Metadata.tool?, present?_metadata]
  constructor
  · intro flaw
    cases flaw with
    | tool other => exact ⟨other, rfl⟩
  · rintro ⟨other, rfl⟩
    exact .tool other

theorem listed_overheadDefects (r : Report) :
    Listed (Flaw r.root) (· = .selfPid) (overheadDefects r.metadata) := by
  rw [overheadDefects, Metadata.overhead?, present?_metadata]
  cases held : r.root.stated? ["metadata", "observer_overhead"] with
  | none =>
    refine listed_none ?_
    rintro site d rfl flaw
    cases flaw with
    | selfPid found unsound =>
      rw [held] at found
      cases found
  | some overhead =>
    refine listed_unless fun d => ?_
    rw [validSelfPid?_isSome_iff]
    constructor
    · intro flaw
      cases flaw with
      | selfPid found unsound =>
        rw [held] at found
        cases found
        exact ⟨unsound, rfl⟩
    · rintro ⟨unsound, rfl⟩
      exact .selfPid held unsound

theorem listed_absentDefects {r : Report} {categories : Members}
    (found : r.root.get? "categories" = some (.object categories)) :
    Listed (Flaw r.root) (· = .mandatory) (absentDefects categories) := by
  have absent : (mandatoryCategories.filter fun name => !categories.has name) =
      ["cpu", "memory", "process"].filter
        fun name => (r.root.at? ["categories", name]).isNone := by
    refine List.filter_congr fun name _ => ?_
    rw [at?_category found, Members.has]
    cases categories.get? name <;> rfl
  have only : ∀ d, Flaw r.root .mandatory d ↔ ∃ names, names ≠ [] ∧ d = .missingCategories names ∧
      names = mandatoryCategories.filter fun name => !categories.has name := by
    intro d
    rw [absent]
    constructor
    · intro flaw
      cases flaw with
      | mandatory some_absent all => exact ⟨_, some_absent, rfl, all⟩
    · rintro ⟨names, some_absent, rfl, all⟩
      exact .mandatory some_absent all
  unfold absentDefects
  split
  · rename_i none_absent
    refine listed_none ?_
    rintro site d rfl flaw
    obtain ⟨names, some_absent, -, all⟩ := (only d).1 flaw
    exact some_absent (all.trans none_absent)
  · rename_i some_absent
    refine listed_single fun d => ?_
    rw [only]
    constructor
    · rintro ⟨names, -, rfl, rfl⟩
      rfl
    · rintro rfl
      exact ⟨_, some_absent, rfl, rfl⟩

theorem listed_healthDefects (r : Report) :
    Listed (Flaw r.root) (· = .health) (healthDefects r.summary) := by
  rw [healthDefects, Summary.healthScore?, present?_summary]
  cases held : r.root.stated? ["summary", "health_score"] with
  | none =>
    refine listed_single fun d => ?_
    constructor
    · intro flaw
      cases flaw with
      | health unsound => rw [held]
    · rintro rfl
      rw [← held]
      exact .health (by simp [held])
  | some score =>
    refine listed_unless fun d => ?_
    rw [isHealthScore_iff]
    constructor
    · intro flaw
      cases flaw with
      | health unsound =>
        rw [held] at unsound ⊢
        exact ⟨fun sound => unsound ⟨score, rfl, sound⟩, rfl⟩
    · rintro ⟨unsound, rfl⟩
      have flaw : Flaw r.root .health _ := .health (by simpa [held] using unsound)
      rwa [held] at flaw

/-! ## 4. The entries of the categories -/

theorem collectorLabel_iff {members : Members} {index : Nat} {label : String} :
    CollectorLabel members index label ↔ label = collectorLabel ⟨members⟩ index := by
  unfold collectorLabel CollectorResult.collector?
  constructor
  · rintro (found | ⟨found, other⟩ | absent)
    · simp only [found]
    · rename_i value
      cases value with
      | string name => exact absurd rfl (other name)
      | null | bool _ | number _ | array _ | object _ => simp only [found]
    · simp only [absent]
  · rintro rfl
    cases found : members.get? "collector" with
    | none => exact .index found
    | some value =>
      cases value with
      | string name => exact .string found
      | null | bool _ | number _ | array _ | object _ => exact .text found (by simp)

section

variable {category : String} {index : Nat} {entry : Json} {members : Members}

theorem listed_notObject (other : ∀ members, entry ≠ .object members) :
    Listed (EntryFlaw category index entry) (fun site => ∃ part, site = .entry category index part)
      [.resultNotObject category index] := by
  have whole : Listed (EntryFlaw category index entry) (· = .entry category index .whole)
      [.resultNotObject category index] := by
    refine listed_single fun d => ?_
    constructor
    · intro flaw
      cases flaw with
      | notObject _ => rfl
    · rintro rfl
      exact .notObject other
  refine whole.widen (fun site same => ⟨.whole, same⟩) fun site d _ flaw => ?_
  cases flaw with
  | notObject _ => rfl
  | noCollector _ | noCategory _ _ | noTier _ _ | badTier _ _ _ => exact absurd rfl (other _)

theorem listed_missingCollector :
    Listed (EntryFlaw category index (.object members)) (· = .entry category index .collector)
      (if members.has "collector" then [] else [.missingCollector category index]) := by
  refine listed_unless fun d => ?_
  rw [Members.has, Option.not_isSome_iff_eq_none]
  constructor
  · intro flaw
    cases flaw with
    | noCollector absent => exact ⟨absent, rfl⟩
  · rintro ⟨absent, rfl⟩
    exact .noCollector absent

theorem listed_missingCategory :
    Listed (EntryFlaw category index (.object members)) (· = .entry category index .category)
      (if members.has "category" then []
        else [.missingResultKey (collectorLabel ⟨members⟩ index) "category"]) := by
  refine listed_unless fun d => ?_
  rw [Members.has, Option.not_isSome_iff_eq_none]
  constructor
  · intro flaw
    cases flaw with
    | noCategory absent named => exact ⟨absent, by rw [collectorLabel_iff.1 named]⟩
  · rintro ⟨absent, rfl⟩
    exact .noCategory absent (collectorLabel_iff.2 rfl)

theorem listed_tierDefects :
    Listed (EntryFlaw category index (.object members)) (· = .entry category index .tier)
      (tierDefects (collectorLabel ⟨members⟩ index) (members.get? "tier")) := by
  cases held : members.get? "tier" with
  | none =>
    refine listed_single fun d => ?_
    constructor
    · intro flaw
      cases flaw with
      | noTier absent named => rw [collectorLabel_iff.1 named]
      | badTier found unsound named =>
        rw [held] at found
        cases found
    · rintro rfl
      exact .noTier held (collectorLabel_iff.2 rfl)
  | some tier =>
    refine listed_unless fun d => ?_
    rw [isTier_iff]
    constructor
    · intro flaw
      cases flaw with
      | noTier absent named =>
        rw [held] at absent
        cases absent
      | badTier found unsound named =>
        rw [held] at found
        cases found
        exact ⟨unsound, by rw [collectorLabel_iff.1 named]⟩
    · rintro ⟨unsound, rfl⟩
      exact .badTier held unsound (collectorLabel_iff.2 rfl)

theorem listed_resultDefects :
    Listed (EntryFlaw category index (.object members))
      (fun site => ∃ part, site = .entry category index part)
      (resultDefects category ⟨members⟩ index) := by
  -- The three checks look at parts of one entry, in the order of their ranks.
  have keys := listed_append (by
    rintro a b rfl rfl
    exact .part category index (by decide)) (@listed_missingCollector category index members)
    listed_missingCategory
  have joined := listed_append (by
    rintro a b (rfl | rfl) rfl <;> exact .part category index (by decide)) keys
    listed_tierDefects
  refine joined.widen ?_ ?_
  · rintro site ((rfl | rfl) | rfl) <;> exact ⟨_, rfl⟩
  · intro site d _ flaw
    cases flaw with
    | notObject other => exact absurd rfl (other members)
    | noCollector _ => exact .inl (.inl rfl)
    | noCategory _ _ => exact .inl (.inr rfl)
    | noTier _ _ | badTier _ _ _ => exact .inr rfl

theorem listed_entryDefects :
    Listed (EntryFlaw category index entry) (fun site => ∃ part, site = .entry category index part)
      (entryDefects category entry index) := by
  unfold entryDefects
  cases object : entry.members? with
  | none =>
    refine listed_notObject ?_
    rintro members rfl
    cases object
  | some members =>
    obtain rfl : entry = .object members := Json.members?_eq_some_iff.1 object
    exact listed_resultDefects

end

theorem flaw_entry_iff {root : Json} {category : String} {entries : List Json} {index : Nat}
    {entry : Json} {part : EntryPart} {d : Defect}
    (found : root.at? ["categories", category] = some (.array entries))
    (place : entries[index]? = some entry) :
    Flaw root (.entry category index part) d ↔
      EntryFlaw category index entry (.entry category index part) d := by
  constructor
  · intro flaw
    cases flaw with
    | entry found' place' flaw =>
      rw [found] at found'
      cases found'
      rw [place] at place'
      cases place'
      exact flaw
  · exact .entry found place

theorem listed_categoryDefects {root : Json} {category : String} {value : Json}
    (found : root.at? ["categories", category] = some value) :
    Listed (Flaw root) (fun site => site.category? = some category)
      (categoryDefects category value) := by
  unfold categoryDefects
  cases array : value.items? with
  | none =>
    have other : ∀ entries, value ≠ .array entries := by
      rintro entries rfl
      cases array
    have only : Listed (Flaw root) (· = .array category) [.categoryNotArray category] := by
      refine listed_single fun d => ?_
      constructor
      · intro flaw
        cases flaw with
        | array _ _ => rfl
      · rintro rfl
        exact .array found other
    refine only.widen ?_ ?_
    · rintro site rfl
      rfl
    · intro site d lies flaw
      cases flaw with
      | array _ _ =>
        cases lies
        rfl
      | entry found' _ _ =>
        cases lies
        rw [found] at found'
        cases found'
        exact absurd rfl (other _)
      | tool _ | selfPid _ _ | mandatory _ _ | results _ | health _ => cases lies
  | some entries =>
    obtain rfl : value = .array entries := Json.items?_eq_some_iff.1 array
    have indices : entries.zipIdx.Pairwise fun x y => x.2 < y.2 := by
      rw [← List.pairwise_map, List.zipIdx_map_snd]
      exact List.pairwise_lt_range'
    have each : ∀ x ∈ entries.zipIdx,
        Listed (Flaw root) (fun site => ∃ part, site = .entry category x.2 part)
          (entryDefects category x.1 x.2) := by
      rintro ⟨entry, index⟩ member
      have place := List.mem_zipIdx_iff_getElem?.1 member
      refine listed_entryDefects.transfer ?_
      rintro site d ⟨part, rfl⟩
      exact (flaw_entry_iff found place).symm
    refine (listed_flatMap indices ?_ each).widen ?_ ?_
    · rintro x y lower a b ⟨p, rfl⟩ ⟨q, rfl⟩
      exact .index p q lower
    · rintro site ⟨x, -, part, rfl⟩
      rfl
    · intro site d lies flaw
      cases flaw with
      | array found' other =>
        cases lies
        rw [found] at found'
        cases found'
        exact absurd rfl (other _)
      | entry found' place flaw =>
        cases lies
        rw [found] at found'
        cases found'
        exact ⟨(_, _), List.mem_zipIdx_iff_getElem?.2 place, _, rfl⟩
      | tool _ | selfPid _ _ | mandatory _ _ | results _ | health _ => cases lies

theorem listed_categories {r : Report} {categories : Members}
    (found : r.categories? = some categories) :
    Listed (Flaw r.root) (fun site => site.rank = 3)
      (categories.flatMap fun (category, value) => categoryDefects category value) := by
  have held := categories?_eq_some_iff.1 found
  have names := Members.pairwise_of_isAscending (isAscending_categories found)
  have each : ∀ x ∈ categories, Listed (Flaw r.root) (fun site => site.category? = some x.1)
      (categoryDefects x.1 x.2) := by
    rintro ⟨category, value⟩ member
    exact listed_categoryDefects ((mem_categories_iff held).1 member)
  refine (listed_flatMap names ?_ each).widen ?_ ?_
  · intro x y lower a b here there
    exact .category here there (Utf8.encode_lt_encode_iff.2 lower)
  · rintro site ⟨x, -, lies⟩
    exact Site.rank_of_category? lies
  · intro site d rank flaw
    cases flaw with
    | array inside other => exact ⟨_, (mem_categories_iff held).2 inside, rfl⟩
    | entry inside place flaw => exact ⟨_, (mem_categories_iff held).2 inside, rfl⟩
    | tool _ | selfPid _ _ | mandatory _ _ | results _ | health _ => cases rank

theorem listed_noResults {r : Report} {categories : Members}
    (found : r.categories? = some categories) :
    Listed (Flaw r.root) (· = .results)
      (if entryCount categories = 0 then [.noResults] else []) := by
  have held := categories?_eq_some_iff.1 found
  -- Here the condition is the flaw itself, so it stands the other way round.
  rw [← ite_not]
  refine listed_unless fun d => ?_
  rw [← ne_eq, entryCount_ne_zero_iff]
  constructor
  · intro flaw
    cases flaw with
    | results empty =>
      refine ⟨?_, rfl⟩
      rintro ⟨category, entries, member, full⟩
      exact full (empty category entries ((mem_categories_iff held).1 member))
  · rintro ⟨none_full, rfl⟩
    refine .results fun category entries inside => ?_
    by_contra full
    exact none_full ⟨category, entries, (mem_categories_iff held).2 inside, full⟩

/-! ## 5. The whole report -/

theorem listed_next {flaw : Site → Defect → Prop} {k : Nat} {defects more : List Defect}
    {region : Site → Prop} (below : Listed flaw (fun site => site.rank < k) defects)
    (next : Listed flaw region more) (same : ∀ site, region site ↔ site.rank = k) :
    Listed flaw (fun site => site.rank < k + 1) (defects ++ more) := by
  have joined := listed_append (fun a b lower here => by
    rw [same] at here
    exact .rank (here ▸ lower)) below next
  refine joined.widen ?_ ?_
  · rintro site (lower | here)
    · exact Nat.lt_succ_of_lt lower
    · exact Nat.lt_succ_of_le (Nat.le_of_eq ((same site).1 here))
  · intro site d lower _
    rw [same]
    exact Nat.lt_succ_iff_lt_or_eq.1 lower

theorem assess_whole {r : Report} {categories : Members}
    (metadata : (r.root.get? "metadata").isSome)
    (found : r.root.get? "categories" = some (.object categories))
    (summary : (r.root.get? "summary").isSome) :
    r.assess = ⟨defectsWithin r categories, advisory? categories, categories.length,
      entryCount categories⟩ := by
  have none_missing : r.missingTopLevel = [] := by
    rw [Option.isSome_iff_ne_none] at metadata summary
    simp [missingTopLevel, topLevelNames, has, get?, metadata, found, summary]
  simp only [assess, none_missing, categories?_eq_some_iff.2 found]

theorem listed_defectsWithin {r : Report} {categories : Members}
    (found : r.categories? = some categories) :
    Listed (Flaw r.root) (fun _ => True) (defectsWithin r categories) := by
  -- Each part adds the places of the next rank; together they are all places.
  have nowhere : Listed (Flaw r.root) (fun site => site.rank < 0) [] :=
    listed_none fun _ _ below => absurd below (Nat.not_lt_zero _)
  have tool := listed_next nowhere (listed_toolDefects r)
    (by rintro (_ | _) <;> simp [Site.rank])
  have overhead := listed_next tool (listed_overheadDefects r)
    (by rintro (_ | _) <;> simp [Site.rank])
  have absent := listed_next overhead (listed_absentDefects (categories?_eq_some_iff.1 found))
    (by rintro (_ | _) <;> simp [Site.rank])
  have arrays := listed_next absent (listed_categories found) fun _ => Iff.rfl
  have results := listed_next arrays (listed_noResults found)
    (by rintro (_ | _) <;> simp [Site.rank])
  have health := listed_next results (listed_healthDefects r)
    (by rintro (_ | _) <;> simp [Site.rank])
  refine health.widen (fun _ _ => trivial) fun site _ _ _ => ?_
  cases site <;> simp [Site.rank]

/-- Reports with the same flaws have the same defects, in the same order. -/
theorem defects_eq_of_flaws {r r' : Report} {categories categories' : Members}
    (found : r.categories? = some categories) (found' : r'.categories? = some categories')
    (same : ∀ site d, Flaw r.root site d ↔ Flaw r'.root site d) :
    defectsWithin r categories = defectsWithin r' categories' := by
  obtain ⟨list, listed⟩ := listed_defectsWithin found
  obtain ⟨list', listed'⟩ :=
    (listed_defectsWithin found').transfer fun site d _ => (same site d).symm
  rw [← listed.defects, ← listed'.defects, listed.unique listed']

/-- In a report whose categories are an object every defect is found: the defects are those of all
flaws of the document, each flaw once, in the order of their places. -/
theorem defects_assess_complete (r : Report) {categories : Members}
    (metadata : (r.root.get? "metadata").isSome)
    (found : r.root.get? "categories" = some (.object categories))
    (summary : (r.root.get? "summary").isSome) :
    ∃ list : List (Site × Defect), r.assess.defects = list.map (·.2) ∧
      (∀ site d, (site, d) ∈ list ↔ Flaw r.root site d) ∧
      (list.Pairwise fun a b => Site.Before a.1 b.1) ∧ (list.map (·.1)).Nodup := by
  obtain ⟨list, listed⟩ := listed_defectsWithin (categories?_eq_some_iff.2 found)
  refine ⟨list, ?_, ?_, listed.ordered, listed.nodup_sites⟩
  · rw [assess_whole metadata found summary, listed.defects]
  · intro site d
    rw [listed.exact, true_and]

theorem defects_assess_complete_of_broken :
    ∃ r : Report, r.assess.defects = [.wrongTool "none", .missingCategories ["process"],
        .missingCollector "cpu" 0, .missingResultKey "unknown[0]" "category",
        .missingResultKey "unknown[0]" "tier", .categoryNotArray "disk",
        .invalidHealthScore "none"] ∧
      ∃ list : List (Site × Defect), r.assess.defects = list.map (·.2) ∧
        (∀ site d, (site, d) ∈ list ↔ Flaw r.root site d) ∧
        (list.Pairwise fun a b => Site.Before a.1 b.1) ∧ (list.map (·.1)).Nodup := by
  let categories : Members :=
    [("cpu", .array [.object []]), ("disk", .bool true), ("memory", .array [])]
  let r : Report := ⟨.object [("categories", .object categories), ("metadata", .object []),
    ("summary", .null)], by decide⟩
  exact ⟨r, by decide, defects_assess_complete r (by decide) rfl (by decide)⟩

end Report

end HealthReport
