import HealthReport.Proofs.Report.FiniteNumbers

/-!
# Which entry counts

The value of a metric is that of its first anomaly, even if that stands for no number. A measured
field is that of the last result that has it, even if it is null there, and the memory in use that
of the last result with a positive total. So where a list is made of two parts, one part settles the
answer: the front if it has an anomaly of the metric, the back if it has a measurement.

Results:
1. `exists_joins`: every way to cut a list is that of two reports.
2. `FirstAnomaly.anomalyValue?_eq`, `LastField.lastDataNumber?_eq`: the entry that counts gives the
   answer.
3. `anomalyValue?_of_joins`, `lastDataNumber?_of_joins`, `memoryUsedPercent?_of_joins`: which part
   settles the answer.
4. `selections_of_joins`: all of it, for every report.
-/
namespace HealthReport

/-! ## Definitions -/

/-- The value at the end of a path, with nothing beside it. -/
def Json.under (value : Json) : List String → Json
  | [] => value
  | name :: path => .object [(name, value.under path)]

namespace Report

/-- Some anomaly has this metric. -/
def Lists (r : Report) (metric : String) : Prop :=
  ∃ anomaly ∈ r.root.objectsAt ["summary", "anomalies"],
    anomaly.get? "metric" = some (.string metric)

/-- Some result of the category has the field, whatever stands in it. -/
def HasField (r : Report) (category name : String) : Prop :=
  ∃ result ∈ r.root.objectsAt ["categories", category],
    ∃ value, (Json.object result).at? ["data", name] = some value

/-- Some result on memory has a positive total. -/
def KnowsMemory (r : Report) : Prop :=
  ∃ result ∈ r.root.objectsAt ["categories", "memory"], HasMemory result

/-- The objects at the end of a path are those in the front and then those in the back. -/
def Joins (r front back : Report) (path : List String) : Prop :=
  r.root.objectsAt path = front.root.objectsAt path ++ back.root.objectsAt path

end Report

/-! ## 1. Parts of a list -/

namespace Json

theorem at?_under (value : Json) (path : List String) :
    (value.under path).at? path = some value := by
  induction path with
  | nil => rfl
  | cons name path ih =>
    have held : (value.under (name :: path)).get? name = some (value.under path) := by
      simp [under, get?, members?, Members.get?]
    rw [at?, held]
    exact ih

theorem isRegular_under {value : Json} (regular : value.isRegular = true) (path : List String) :
    (value.under path).isRegular = true := by
  induction path with
  | nil => exact regular
  | cons name path ih =>
    rw [under, isRegular_object_iff, List.forall_mem_singleton]
    exact ⟨by simp [Members.isAscending, Members.names], ih⟩

theorem objectsAt_under (objects : List Members) (path : List String) :
    ((array (objects.map object)).under path).objectsAt path = objects := by
  rw [objectsAt, at?_under, Option.bind_some, items?, Option.getD_some, List.filterMap_map]
  exact List.filterMap_some

end Json

namespace Report

variable {r front back : Report}

/-- Some objects of a report can stand alone. -/
theorem exists_objectsAt {path : List String} {objects : List Members}
    (some_of : objects ⊆ r.root.objectsAt path) :
    ∃ part : Report, part.root.objectsAt path = objects := by
  have regular : (Json.array (objects.map .object)).isRegular = true := by
    rw [Json.isRegular, Json.allRegular_iff, List.forall_mem_map]
    exact fun members inside => Json.isRegular_of_mem_objectsAt r.regular (some_of inside)
  exact ⟨⟨_, Json.isRegular_under regular path⟩, Json.objectsAt_under objects path⟩

/-- Wherever a list is cut, both parts are the lists of some reports. -/
theorem exists_joins {path : List String} {xs ys : List Members}
    (split : r.root.objectsAt path = xs ++ ys) :
    ∃ front back, front.root.objectsAt path = xs ∧ back.root.objectsAt path = ys ∧
      r.Joins front back path := by
  obtain ⟨front, rfl⟩ := exists_objectsAt (split ▸ List.subset_append_left xs ys)
  obtain ⟨back, rfl⟩ := exists_objectsAt (split ▸ List.subset_append_right _ ys)
  exact ⟨front, back, rfl, rfl, split⟩

/-! ## 2. The entry that counts -/

variable {metric category name : String}

theorem lists_iff : r.Lists metric ↔
    (r.anomalies.find? fun a => a.metric? == some metric).isSome = true := by
  simp only [Lists, anomalies_eq, List.find?_map, Option.isSome_map, List.find?_isSome,
    Function.comp_apply, beq_iff_eq, Anomaly.metric?, Option.bind_eq_some_iff,
    Json.string?_eq_some_iff, exists_eq_right]

theorem lists_iff_exists_first :
    r.Lists metric ↔ ∃ anomaly, r.FirstAnomaly metric anomaly := by
  simp only [lists_iff, Option.isSome_iff_exists, firstAnomaly_iff]
  constructor
  · rintro ⟨⟨anomaly⟩, found⟩
    exact ⟨anomaly, found⟩
  · rintro ⟨anomaly, found⟩
    exact ⟨⟨anomaly⟩, found⟩

/-- The first anomaly of a metric gives its value, if that stands for a number. -/
theorem FirstAnomaly.anomalyValue?_eq {anomaly : Members} (first : r.FirstAnomaly metric anomaly) :
    r.anomalyValue? metric = (anomaly.get? "value").bind Json.coerced? := by
  rw [anomalyValue?, firstAnomaly_iff.1 first]
  rfl

/-- The last result with a field gives the number in it, if there is one. -/
theorem LastField.lastDataNumber?_eq {value : Json} (last : r.LastField category name value) :
    r.lastDataNumber? category name = value.number?.map Number.toBinary64 := by
  rw [lastDataNumber?, getLast?_dataField?_iff.2 last]
  rfl

theorem isSome_getLast?_filterMap_iff {α β : Type} {items : List α} {f : α → Option β} :
    (items.filterMap f).getLast?.isSome = true ↔ ∃ item ∈ items, ∃ b, f item = some b := by
  rw [List.getLast?_isSome, ne_eq, List.filterMap_eq_nil_iff]
  simp [Option.ne_none_iff_exists']

theorem hasField_iff : r.HasField category name ↔
    ((r.results category).filterMap (·.dataField? name)).getLast?.isSome = true := by
  rw [results_eq, List.filterMap_map, isSome_getLast?_filterMap_iff]
  simp only [Function.comp_apply, dataField?_eq]
  rfl

theorem knowsMemory_iff : r.KnowsMemory ↔
    ((r.results "memory").filterMap memoryPercent?).getLast?.isSome = true := by
  rw [results_eq, List.filterMap_map, isSome_getLast?_filterMap_iff]
  simp only [Function.comp_apply, memoryPercent?_eq_some_iff, exists_and_left, exists_eq',
    and_true]
  rfl

/-! ## 3. The part that counts -/

/-- Of two choices the first one counts if it is there. -/
theorem or_settled {α β : Type} (first second : Option α) (answer : Option α → β) :
    (first.isSome = true → answer (first.or second) = answer first) ∧
    (¬ first.isSome = true → answer (first.or second) = answer second) := by
  cases first <;> simp

theorem anomalyValue?_of_joins (joins : r.Joins front back ["summary", "anomalies"])
    (metric : String) :
    (front.Lists metric → r.anomalyValue? metric = front.anomalyValue? metric) ∧
    (¬ front.Lists metric → r.anomalyValue? metric = back.anomalyValue? metric) := by
  have parts : r.anomalies = front.anomalies ++ back.anomalies := by
    rw [anomalies_eq, anomalies_eq, anomalies_eq, joins, List.map_append]
  rw [lists_iff, anomalyValue?, parts, List.find?_append]
  exact or_settled _ _ (·.bind Anomaly.number?)

/-- What is picked last is picked in the back, unless there is nothing to pick. -/
theorem getLast?_of_joins {α : Type} (joins : r.Joins front back ["categories", category])
    (pick : CollectorResult → Option α) :
    ((r.results category).filterMap pick).getLast? =
      ((back.results category).filterMap pick).getLast?.or
        ((front.results category).filterMap pick).getLast? := by
  have parts : r.results category = front.results category ++ back.results category := by
    rw [results_eq, results_eq, results_eq, joins, List.map_append]
  rw [parts, List.filterMap_append, List.getLast?_append]

theorem lastDataNumber?_of_joins (joins : r.Joins front back ["categories", category])
    (name : String) :
    (back.HasField category name →
      r.lastDataNumber? category name = back.lastDataNumber? category name) ∧
    (¬ back.HasField category name →
      r.lastDataNumber? category name = front.lastDataNumber? category name) := by
  rw [hasField_iff, lastDataNumber?, getLast?_of_joins joins]
  exact or_settled _ _ fun field : Option Json =>
    field.bind fun value => value.number?.map Number.toBinary64

/-- A field that is no number where it stands last leaves no number. -/
theorem lastDataNumber?_of_joins_eq_none (joins : r.Joins front back ["categories", category])
    {value : Json} (last : back.LastField category name value) (no_number : value.number? = none) :
    r.lastDataNumber? category name = none := by
  have measured : back.HasField category name := by
    obtain ⟨before, result, after, split, held, -⟩ := last
    refine ⟨result, ?_, value, held⟩
    rw [split]
    exact List.mem_append_right before List.mem_cons_self
  rw [(lastDataNumber?_of_joins joins name).1 measured, last.lastDataNumber?_eq, no_number]
  rfl

theorem memoryUsedPercent?_of_joins (joins : r.Joins front back ["categories", "memory"]) :
    (back.KnowsMemory → r.memoryUsedPercent? = back.memoryUsedPercent?) ∧
    (¬ back.KnowsMemory → r.memoryUsedPercent? = front.memoryUsedPercent?) := by
  rw [knowsMemory_iff, memoryUsedPercent?, getLast?_of_joins joins]
  exact or_settled _ _ id

/-! ## 4. Every report -/

/-- Where the list of anomalies is cut in two, the front settles the value of every metric that it
lists, and the back that of the others. Where the results of a category are cut, the back settles
every field that it has, even one that is no number there, and the front the others; and it settles
the memory in use if it has a positive total. Every cut is that of two reports. -/
theorem selections_of_joins (r : Report) :
    (∀ front back, r.Joins front back ["summary", "anomalies"] → ∀ metric,
      (front.Lists metric → r.anomalyValue? metric = front.anomalyValue? metric) ∧
      (¬ front.Lists metric → r.anomalyValue? metric = back.anomalyValue? metric)) ∧
    (∀ category front back, r.Joins front back ["categories", category] → ∀ name,
      (back.HasField category name →
        r.lastDataNumber? category name = back.lastDataNumber? category name) ∧
      (∀ value, back.LastField category name value → value.number? = none →
        r.lastDataNumber? category name = none) ∧
      (¬ back.HasField category name →
        r.lastDataNumber? category name = front.lastDataNumber? category name)) ∧
    (∀ front back, r.Joins front back ["categories", "memory"] →
      (back.KnowsMemory → r.memoryUsedPercent? = back.memoryUsedPercent?) ∧
      (¬ back.KnowsMemory → r.memoryUsedPercent? = front.memoryUsedPercent?)) ∧
    ∀ path xs ys, r.root.objectsAt path = xs ++ ys →
      ∃ front back, front.root.objectsAt path = xs ∧ back.root.objectsAt path = ys ∧
        r.Joins front back path := by
  refine ⟨fun _ _ joins => anomalyValue?_of_joins joins, fun _ _ _ joins name => ?_,
    fun _ _ joins => memoryUsedPercent?_of_joins joins, fun _ _ _ split => exists_joins split⟩
  obtain ⟨measured, unmeasured⟩ := lastDataNumber?_of_joins joins name
  exact ⟨measured, fun _ last no_number => lastDataNumber?_of_joins_eq_none joins last no_number,
    unmeasured⟩

/-- A document with results on memory and with anomalies. -/
def withEntries (results anomalies : List Json) : Json :=
  .object [("categories", .object [("memory", .array results)]),
    ("summary", .object [("anomalies", .array anomalies)])]

def measuredMemory : Json :=
  .object [("data", .object [("available_bytes", .number (.integer 100)),
    ("swap", .number (.integer 7)), ("total_bytes", .number (.integer 1000))])]

/-- A result with a null and without memory. -/
def emptyMemory : Json :=
  .object [("data", .object [("swap", .null), ("total_bytes", .number (.integer 0))])]

def anomalyOf (metric : String) (value : Json) : Json :=
  .object [("metric", .string metric), ("value", value)]

def earlyEntries : Report :=
  ⟨withEntries [measuredMemory] [anomalyOf "load_average" (.string "high")], by decide⟩

def lateEntries : Report :=
  ⟨withEntries [emptyMemory] [anomalyOf "load_average" (.number (.integer 9)),
    anomalyOf "cpu_iowait" (.string " 35 ")], by decide⟩

/-- The early entries and then the late ones, with an entry between them that is no object. -/
def allEntries : Report :=
  ⟨withEntries [measuredMemory, .null, emptyMemory]
    [anomalyOf "load_average" (.string "high"), .null,
      anomalyOf "load_average" (.number (.integer 9)), anomalyOf "cpu_iowait" (.string " 35 ")],
    by decide⟩

theorem selections_of_joins_of_allEntries :
    allEntries.Joins earlyEntries lateEntries ["summary", "anomalies"] ∧
    allEntries.Joins earlyEntries lateEntries ["categories", "memory"] ∧
    allEntries.anomalyValue? "load_average" = none ∧
    allEntries.anomalyValue? "cpu_iowait" = some (Binary64.ofInt 35) ∧
    allEntries.lastDataNumber? "memory" "swap" = none ∧
    allEntries.memoryUsedPercent? = some (Binary64.ofInt 90) := by
  have anomalies : allEntries.Joins earlyEntries lateEntries ["summary", "anomalies"] := rfl
  have results : allEntries.Joins earlyEntries lateEntries ["categories", "memory"] := rfl
  obtain ⟨values, fields, memory, -⟩ := selections_of_joins allEntries
  refine ⟨anomalies, results, ?_, ?_, ?_, ?_⟩
  · rw [(values _ _ anomalies "load_average").1 ⟨_, .head _, rfl⟩]
    decide
  · rw [(values _ _ anomalies "cpu_iowait").2 ?_]
    · decide +kernel
    · exact fun listed => absurd (lists_iff.1 listed) (by decide)
  · exact (fields _ _ _ results "swap").2.1 .null ⟨[], _, [], rfl, rfl, nofun⟩ rfl
  · rw [(memory _ _ results).2 ?_]
    · decide +kernel
    · exact fun known => absurd (knowsMemory_iff.1 known) (by decide +kernel)

end Report

end HealthReport
