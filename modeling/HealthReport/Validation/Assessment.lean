import HealthReport.Json.Loose
import HealthReport.Log.Record
import HealthReport.Report.Basic
import HealthReport.Validation.Defect

/-!
Validation of a report. A root without one of its three members, or categories that are no object,
end the search at once; apart from these two every defect is found, each once, in the order of the
report.
-/
namespace HealthReport

/-- What validation finds: the defects, the advisory, and how many categories and results there
are. -/
structure Assessment where
  defects : List Defect
  advisory : Option Advisory
  categoryCount : Nat
  resultCount : Nat
deriving DecidableEq

namespace Assessment

def isValid (a : Assessment) : Bool := a.defects.isEmpty

def reasons (a : Assessment) : List String := a.defects.map Defect.message

def defectJson (d : Defect) : Json :=
  .object [("category", .string d.code.category.label), ("code", .string d.code.code),
    ("detail", d.detail), ("message", .string d.message),
    ("remediation", Json.ofStrings d.code.remediation)]

def advisoryJson (a : Advisory) : Json :=
  let code := ErrorCode.errorOnlyCollectors
  .object [("category", .string code.category.label), ("code", .string code.code),
    ("collectors", Json.ofStrings a.collectors), ("message", .string a.message),
    ("remediation", Json.ofStrings code.remediation)]

def toJson (a : Assessment) : Json :=
  .object [("category_count", Json.ofNat a.categoryCount),
    ("errors", .array (a.defects.map defectJson)),
    ("result_count", Json.ofNat a.resultCount),
    ("valid", .bool a.isValid),
    ("warnings", .array (a.advisory.toList.map advisoryJson))]

end Assessment

namespace Report

/-- The categories that every report has. -/
def mandatoryCategories : List String := ["cpu", "memory", "process"]

/-- The tiers that a collector may belong to. -/
def tiers : List Int := [1, 2, 3]

/-- Whether a value is a number equal to a tier; a double may be. -/
def isTier (tier : Json) : Bool :=
  (tier.number?.map fun n => tiers.any fun t => n.toBinary64.equal (Binary64.ofInt t)).getD false

/-- Whether a value is an integer from 0 to 100. -/
def isHealthScore (score : Json) : Bool :=
  ((score.number?.bind Number.signed?).map fun n => decide (0 ≤ n ∧ n ≤ 100)).getD false

/-- How defects name the collector of a result. -/
def collectorLabel (result : CollectorResult) (index : Nat) : String :=
  match result.collector? with
  | some (.string name) => name
  | some other => other.text
  | none => "unknown[" ++ toString index ++ "]"

def toolDefects (m : Metadata) : List Defect :=
  if m.tool?.bind Json.string? = some toolName then [] else [.wrongTool (Json.described m.tool?)]

def overheadDefects (m : Metadata) : List Defect :=
  match m.overhead? with
  | none => []
  | some overhead =>
    if overhead.validSelfPid?.isSome then []
    else [.invalidSelfPid (Json.described overhead.selfPid?)]

def metadataDefects (m : Metadata) : List Defect := toolDefects m ++ overheadDefects m

/-- The mandatory categories that are absent, if any are. -/
def absentDefects (categories : Members) : List Defect :=
  match mandatoryCategories.filter fun name => !categories.has name with
  | [] => []
  | absent => [.missingCategories absent]

def tierDefects (label : String) (tier : Option Json) : List Defect :=
  match tier with
  | none => [.missingResultKey label "tier"]
  | some tier => if isTier tier then [] else [.invalidTier label tier.text]

def resultDefects (category : String) (result : CollectorResult) (index : Nat) : List Defect :=
  let label := collectorLabel result index
  (if result.has "collector" then [] else [.missingCollector category index]) ++
    (if result.has "category" then [] else [.missingResultKey label "category"]) ++
    tierDefects label result.tier?

/-- The defects of one entry of a category's array. -/
def entryDefects (category : String) (entry : Json) (index : Nat) : List Defect :=
  match entry.members? with
  | none => [.resultNotObject category index]
  | some members => resultDefects category ⟨members⟩ index

def categoryDefects (category : String) (value : Json) : List Defect :=
  match value.items? with
  | none => [.categoryNotArray category]
  | some entries => entries.zipIdx.flatMap fun (entry, index) => entryDefects category entry index

/-- The label of the collector of an entry that holds errors and nothing else. -/
def errorOnlyLabel? (entry : Json) (index : Nat) : Option String :=
  match entry.members? with
  | none => none
  | some members =>
    let result : CollectorResult := ⟨members⟩
    if result.isErrorOnly then some (collectorLabel result index) else none

/-- The collectors with errors and nothing else, each with its category, in the order of the
report. -/
def errorOnly (categories : Members) : List (String × String) :=
  categories.flatMap fun (category, value) =>
    (value.items?.getD []).zipIdx.filterMap fun (entry, index) =>
      (errorOnlyLabel? entry index).map fun label => (category, label)

/-- The number of entries in all arrays. -/
def entryCount (categories : Members) : Nat :=
  (categories.map fun (_, value) => (value.items?.getD []).length).foldr (· + ·) 0

def healthDefects (s : Summary) : List Defect :=
  match s.healthScore? with
  | some score => if isHealthScore score then [] else [.invalidHealthScore score.text]
  | none => [.invalidHealthScore (Json.described none)]

def advisory? (categories : Members) : Option Advisory :=
  match errorOnly categories with
  | [] => none
  | found => some ⟨found.map (·.2)⟩

/-- The defects of a report whose categories are an object. -/
def defectsWithin (r : Report) (categories : Members) : List Defect :=
  metadataDefects r.metadata ++ absentDefects categories ++
    (categories.flatMap fun (category, value) => categoryDefects category value) ++
    (if entryCount categories = 0 then [.noResults] else []) ++
    healthDefects r.summary

/-- Validates a report. -/
def assess (r : Report) : Assessment :=
  match r.missingTopLevel, r.categories? with
  | name :: names, _ => ⟨[.missingTopLevel (name :: names)], none, 0, 0⟩
  | [], none => ⟨metadataDefects r.metadata ++ [.categoriesNotObject], none, 0, 0⟩
  | [], some categories =>
    ⟨defectsWithin r categories, advisory? categories, categories.length, entryCount categories⟩

end Report

/-- What is logged of an outcome: the advisory, each defect and the totals. -/
def Assessment.records (a : Assessment) : List Log.Record :=
  let target := "melisai_verify::validate"
  (a.advisory.toList.map fun advisory =>
    ⟨.warn, target, advisory.message, [("count", .count advisory.collectors.length)]⟩) ++
  (a.defects.map fun d => ⟨.debug, target, d.message, [("code", .text d.code.code)]⟩) ++
  [⟨.info, target, "report validated",
    [("valid", .flag a.isValid), ("errors", .count a.defects.length),
      ("categories", .count a.categoryCount), ("results", .count a.resultCount)]⟩]

/-- What is logged while a report is validated. Unless the search ends early, each collector with
errors only comes first. -/
def Report.assessmentLog (r : Report) : List Log.Record :=
  let scanned :=
    match r.missingTopLevel, r.categories? with
    | [], some categories => Report.errorOnly categories
    | _, _ => []
  (scanned.map fun (category, label) =>
    ⟨.debug, "melisai_verify::validate", "error-only collector",
      [("category", .text category), ("collector", .text label)]⟩) ++ r.assess.records

end HealthReport
