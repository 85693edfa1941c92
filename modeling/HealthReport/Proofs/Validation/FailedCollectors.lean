import HealthReport.Proofs.Report.Query
import HealthReport.Proofs.Validation.Completeness

/-!
# Which collectors the advisory names

Validation notes the collectors that gave errors and nothing else. `OnlyErrors` says of the members
of an entry that it is one of these, and `PlacedEntry.Before` in which order they are named. Whether
the entry has defects does not matter.

Results:
1. `isErrorOnly_iff`: which entries gave errors and nothing else.
2. `mem_failed_iff`, `pairwise_failed`, `errorOnly_eq`: the entries that are noted, in their order.
3. `Advisory.says_message`: what the message tells of the names.
4. `advisory_assess_exact`: the advisory of a report.
-/
namespace HealthReport

/-! ## Definitions -/

/-- The members are those of a collector with errors and nothing else: neither data, of which an
empty object are none, nor anything of the other kinds. -/
structure OnlyErrors (members : Members) : Prop where
  errors : ∃ value, members.get? "errors" = some value ∧ Truthy value
  data : ∀ value, members.get? "data" = some value → value = .null ∨ value = .object []
  others : ∀ name ∈ ["histograms", "events", "stacks"], ∀ value,
    members.get? name = some value → ¬ Truthy value

/-- An entry that is an object, with its place. -/
structure PlacedEntry where
  category : String
  index : Nat
  members : Members

/-- The order of the entries: categories by the bytes of their names, then by the index. -/
def PlacedEntry.Before (a b : PlacedEntry) : Prop :=
  Utf8.encode a.category < Utf8.encode b.category ∨ a.category = b.category ∧ a.index < b.index

/-- The entry stands in the report at its place, and it has errors and nothing else. -/
structure Report.FailedAt (r : Report) (entry : PlacedEntry) : Prop where
  stands : ∃ entries, r.root.at? ["categories", entry.category] = some (.array entries) ∧
    entries[entry.index]? = some (.object entry.members)
  failed : OnlyErrors entry.members

/-- What the message of an advisory tells: how many names there are, the first of them, and by a
mark that there are more. -/
structure Advisory.Says (a : Advisory) (shown : List String) (mark : String) : Prop where
  first : shown <+: a.collectors
  length : shown.length = min a.collectors.length 5
  text : a.message = toString a.collectors.length ++ " error-only collectors: " ++
    ", ".intercalate shown ++ mark
  more : 5 < a.collectors.length → mark = "..."
  all : a.collectors.length ≤ 5 → mark = ""
  /-- Whatever the names are, the number can be read off the start. -/
  count : a.message.toList.takeWhile Char.isDigit = Nat.toDigits 10 a.collectors.length

namespace Report

/-- The entries of a category with errors and nothing else. -/
def failedIn (category : String) (value : Json) : List PlacedEntry :=
  (value.items?.getD []).zipIdx.filterMap fun (entry, index) =>
    (entry.members?.filter fun members => CollectorResult.isErrorOnly ⟨members⟩).map fun members =>
      ⟨category, index, members⟩

/-- The entries with errors and nothing else, in the order of the report. -/
def failed (categories : Members) : List PlacedEntry :=
  categories.flatMap fun (category, value) => failedIn category value

/-! ## 1. Errors and nothing else -/

theorem hasTruthy_iff {members : Members} {name : String} :
    CollectorResult.hasTruthy ⟨members⟩ name = true ↔
      ∃ value, members.get? name = some value ∧ Truthy value := by
  rw [CollectorResult.hasTruthy, getD_map_iff]
  simp only [isTruthy_iff]

theorem not_hasData_iff {members : Members} :
    CollectorResult.hasData ⟨members⟩ = false ↔
      ∀ value, members.get? "data" = some value → value = .null ∨ value = .object [] := by
  rw [CollectorResult.hasData]
  cases members.get? "data" with
  | none => simp
  | some value =>
    cases value with
    | object inner => simp
    | null | bool _ | number _ | string _ | array _ => simp

theorem isErrorOnly_iff {members : Members} :
    CollectorResult.isErrorOnly ⟨members⟩ = true ↔ OnlyErrors members := by
  have absent : ∀ name, CollectorResult.hasTruthy ⟨members⟩ name = false ↔
      ∀ value, members.get? name = some value → ¬ Truthy value := by
    intro name
    rw [← Bool.not_eq_true, hasTruthy_iff]
    exact not_exists.trans (forall_congr' fun value => not_and)
  simp only [CollectorResult.isErrorOnly, Bool.and_eq_true, Bool.not_eq_true', Bool.or_eq_false_iff,
    hasTruthy_iff, not_hasData_iff, absent]
  constructor
  · rintro ⟨errors, ⟨⟨data, histograms⟩, events⟩, stacked⟩
    refine ⟨errors, data, ?_⟩
    simp only [List.forall_mem_cons, List.not_mem_nil, false_imp_iff, implies_true, and_true]
    exact ⟨histograms, events, stacked⟩
  · rintro ⟨errors, data, others⟩
    exact ⟨errors, ⟨⟨data, others _ (by simp)⟩, others _ (by simp)⟩, others _ (by simp)⟩

/-! ## 2. The entries that are noted -/

theorem mem_failedIn_iff {category : String} {value : Json} {entry : PlacedEntry} :
    entry ∈ failedIn category value ↔ entry.category = category ∧ OnlyErrors entry.members ∧
      ∃ entries, value = .array entries ∧ entries[entry.index]? = some (.object entry.members) := by
  simp only [failedIn, List.mem_filterMap, Option.map_eq_some_iff, Option.filter_eq_some_iff,
    Json.members?_eq_some_iff, isErrorOnly_iff, Prod.exists, List.mem_zipIdx_iff_getElem?]
  constructor
  · rintro ⟨item, index, place, members, ⟨rfl, only⟩, rfl⟩
    cases value with
    | array entries => exact ⟨rfl, only, entries, rfl, place⟩
    | null | bool _ | number _ | string _ | object _ => cases place
  · rintro ⟨rfl, only, entries, rfl, place⟩
    exact ⟨.object entry.members, entry.index, place, entry.members, ⟨rfl, only⟩, rfl⟩

theorem mem_failed_iff {r : Report} {categories : Members}
    (found : r.root.get? "categories" = some (.object categories)) {entry : PlacedEntry} :
    entry ∈ failed categories ↔ r.FailedAt entry := by
  simp only [failed, List.mem_flatMap, Prod.exists, mem_failedIn_iff, mem_categories_iff found]
  constructor
  · rintro ⟨_, _, held, rfl, only, entries, rfl, place⟩
    exact ⟨⟨entries, held, place⟩, only⟩
  · rintro ⟨⟨entries, held, place⟩, only⟩
    exact ⟨_, _, held, rfl, only, entries, rfl, place⟩

theorem pairwise_failedIn (category : String) (value : Json) :
    (failedIn category value).Pairwise PlacedEntry.Before := by
  have indices : (value.items?.getD []).zipIdx.Pairwise fun x y => x.2 < y.2 := by
    rw [← List.pairwise_map, List.zipIdx_map_snd]
    exact List.pairwise_lt_range'
  rw [failedIn, List.pairwise_filterMap]
  refine indices.imp fun {p q} lower x made y made' => ?_
  obtain ⟨members, -, rfl⟩ := Option.map_eq_some_iff.1 made
  obtain ⟨members', -, rfl⟩ := Option.map_eq_some_iff.1 made'
  exact .inr ⟨rfl, lower⟩

theorem pairwise_failed {r : Report} {categories : Members}
    (found : r.root.get? "categories" = some (.object categories)) :
    (failed categories).Pairwise PlacedEntry.Before := by
  have names := Members.pairwise_of_isAscending
    (isAscending_categories (categories?_eq_some_iff.2 found))
  rw [failed, List.pairwise_flatMap]
  refine ⟨fun member _ => pairwise_failedIn _ _, ?_⟩
  refine names.imp fun {a b} before x inside y inside' => .inl ?_
  rw [(mem_failedIn_iff.1 inside).1, (mem_failedIn_iff.1 inside').1]
  exact Utf8.encode_lt_encode_iff.2 before

/-- The collectors that are noted are those of the entries. -/
theorem errorOnly_eq (categories : Members) :
    errorOnly categories = (failed categories).map fun entry =>
      (entry.category, collectorLabel ⟨entry.members⟩ entry.index) := by
  rw [errorOnly, failed, List.map_flatMap]
  refine congrArg (categories.flatMap ·) (funext fun (category, value) => ?_)
  simp only [failedIn, List.map_filterMap]
  refine congrArg (List.filterMap · _) (funext fun (entry, index) => ?_)
  simp only [errorOnlyLabel?, Option.map_map]
  cases entry.members? with
  | none => rfl
  | some members =>
    by_cases only : CollectorResult.isErrorOnly ⟨members⟩ = true
    · simp [only, Option.filter]
    · simp [only, Option.filter]

theorem advisory?_eq_some_iff {categories : Members} {a : Advisory} :
    advisory? categories = some a ↔ failed categories ≠ [] ∧ a.collectors =
      (failed categories).map fun entry => collectorLabel ⟨entry.members⟩ entry.index := by
  rw [advisory?, errorOnly_eq]
  cases failed categories with
  | nil => simp
  | cons first rest =>
    simp only [List.map_cons, Option.some.injEq, ne_eq, reduceCtorEq, not_false_eq_true, true_and,
      List.map_map]
    exact ⟨fun same => same ▸ rfl, fun same => congrArg Advisory.mk same.symm⟩

end Report

/-! ## 3. The message -/

/-- The number of names stands at the start of the message, before a blank. -/
theorem takeWhile_isDigit_count (count : Nat) (names : String) :
    (toString count ++ " error-only collectors: " ++ names).toList.takeWhile Char.isDigit =
      Nat.toDigits 10 count := by
  have digits : (toString count).toList = Nat.toDigits 10 count := String.toList_ofList
  have all : ∀ c ∈ Nat.toDigits 10 count, c.isDigit = true := fun c =>
    Nat.isDigit_of_mem_toDigits (by decide) (by decide)
  rw [String.append_assoc, String.toList_append, digits, List.takeWhile_append_of_pos all,
    String.toList_append]
  show _ ++ List.takeWhile _ (' ' :: _) = _
  rw [List.takeWhile_cons_of_neg (by decide), List.append_nil]

theorem Advisory.says_message (a : Advisory) :
    a.Says (a.collectors.take 5) (if 5 < a.collectors.length then "..." else "") where
  first := List.take_prefix 5 _
  length := by rw [List.length_take, Nat.min_comm]
  text := rfl
  more := fun more => if_pos more
  all := fun few => if_neg (Nat.not_lt.2 few)
  count := by
    show (_ ++ ", ".intercalate _ ++ _).toList.takeWhile Char.isDigit = _
    rw [String.append_assoc]
    exact takeWhile_isDigit_count _ _

/-! ## 4. The advisory of a report -/

namespace Report

/-- In a report whose categories are an object, an advisory is given if some entry has errors and
nothing else. It names the collectors of exactly these entries, each once for every entry and in
the order of the entries, whatever their defects. Its message says how many they are, names the
first five, and goes on with a mark after them if there are more. -/
theorem advisory_assess_exact (r : Report) {categories : Members}
    (metadata : (r.root.get? "metadata").isSome)
    (found : r.root.get? "categories" = some (.object categories))
    (summary : (r.root.get? "summary").isSome) :
    (r.assess.advisory.isSome = true ↔ ∃ entry, r.FailedAt entry) ∧
    (∀ a, r.assess.advisory = some a → ∃ entries : List PlacedEntry,
      entries.Pairwise PlacedEntry.Before ∧ (∀ entry, entry ∈ entries ↔ r.FailedAt entry) ∧
      List.Forall₂ (fun entry label => CollectorLabel entry.members entry.index label) entries
        a.collectors) ∧
    ∀ a : Advisory, ∃ shown mark, a.Says shown mark := by
  have noted : r.assess.advisory = advisory? categories := by
    rw [assess_whole metadata found summary]
  rw [noted]
  refine ⟨?_, fun a given => ?_, fun a => ⟨_, _, a.says_message⟩⟩
  · rw [Option.isSome_iff_exists]
    simp only [advisory?_eq_some_iff, ← mem_failed_iff found]
    constructor
    · rintro ⟨_, some_failed, -⟩
      exact List.exists_mem_of_ne_nil _ some_failed
    · rintro ⟨entry, member⟩
      exact ⟨⟨_⟩, List.ne_nil_of_mem member, rfl⟩
  · refine ⟨failed categories, pairwise_failed found, fun entry => mem_failed_iff found, ?_⟩
    rw [(advisory?_eq_some_iff.1 given).2, List.forall₂_map_right_iff, List.forall₂_same]
    exact fun entry _ => collectorLabel_iff.2 rfl

/-- A collector that gave an error, without a name or anything else. -/
def namelessFailure : Json := .object [("errors", .bool true)]

/-- Seven entries, of which five gave errors and nothing else. One of these has empty data, one has
a number for a name, and one of the others has a falsehood for data. -/
def failedEntries : Members :=
  [("cpu", .array [namelessFailure, .null, namelessFailure,
      .object [("data", .bool false), ("errors", .string "no access")]]),
    ("disk", .array [.object [("collector", .string "numa"), ("data", .object []),
      ("errors", .array [.null])], .object [("collector", .number (.integer 7)),
      ("errors", .number (.integer 1))], .object [("collector", .string "numa"),
      ("errors", .string "again"), ("events", .array [])]])]

def fiveFailures : Report :=
  ⟨.object [("categories", .object failedEntries), ("metadata", .null), ("summary", .null)],
    by decide⟩

theorem advisory_assess_exact_of_fiveFailures :
    fiveFailures.assess.advisory =
        some ⟨["unknown[0]", "unknown[2]", "numa", "7", "numa"]⟩ ∧
      (∃ entry, fiveFailures.FailedAt entry) ∧
      ∃ entries : List PlacedEntry, entries.Pairwise PlacedEntry.Before ∧
        (∀ entry, entry ∈ entries ↔ fiveFailures.FailedAt entry) ∧
        List.Forall₂ (fun entry label => CollectorLabel entry.members entry.index label) entries
          ["unknown[0]", "unknown[2]", "numa", "7", "numa"] := by
  have given : fiveFailures.assess.advisory =
      some ⟨["unknown[0]", "unknown[2]", "numa", "7", "numa"]⟩ := by decide +kernel
  obtain ⟨present, named, -⟩ := @advisory_assess_exact fiveFailures failedEntries (by decide) rfl
    (by decide)
  exact ⟨given, present.1 (by rw [given]; rfl), named _ given⟩

end Report

end HealthReport
