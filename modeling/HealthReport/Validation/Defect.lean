import HealthReport.Catalog
import HealthReport.Json.Basic

/-!
The defects of a report. Each has an error code, a message of its own and a document that says
exactly which defect it is.
-/
namespace HealthReport

/-- A reason why a report is not valid. -/
inductive Defect where
  /-- The root lacks some of the members that every report has. -/
  | missingTopLevel (names : List String)
  /-- The report names another tool, or none; `found` describes what stands there. -/
  | wrongTool (found : String)
  | invalidSelfPid (found : String)
  | categoriesNotObject
  | missingCategories (names : List String)
  | categoryNotArray (category : String)
  | resultNotObject (category : String) (index : Nat)
  | missingCollector (category : String) (index : Nat)
  /-- A result lacks a member other than the name of its collector. -/
  | missingResultKey (collector name : String)
  | invalidTier (collector tier : String)
  | noResults
  | invalidHealthScore (found : String)
deriving DecidableEq

namespace Defect

def code : Defect → ErrorCode
  | missingTopLevel _ => .missingTopLevel
  | wrongTool _ => .wrongTool
  | invalidSelfPid _ => .invalidSelfPid
  | categoriesNotObject => .categoriesNotObject
  | missingCategories _ => .missingCategories
  | categoryNotArray _ => .categoryNotArray
  | resultNotObject _ _ => .resultNotObject
  | missingCollector _ _ => .missingResultKey
  | missingResultKey _ _ => .missingResultKey
  | invalidTier _ _ => .invalidTier
  | noResults => .noResults
  | invalidHealthScore _ => .invalidHealthScore

/-- An entry of a category by its position. -/
def place (category : String) (index : Nat) : String :=
  "categories." ++ category ++ "[" ++ toString index ++ "]"

def message : Defect → String
  | missingTopLevel names => "missing top-level key: " ++ ", ".intercalate names
  | wrongTool found => "metadata.tool = " ++ found ++ ", expected 'melisai'"
  | invalidSelfPid found => "observer_overhead.self_pid invalid: " ++ found
  | categoriesNotObject => "categories is not an object"
  | missingCategories names => "missing categories: " ++ ", ".intercalate names
  | categoryNotArray category => "categories." ++ category ++ " is not an array"
  | resultNotObject category index => place category index ++ ": result is not an object"
  | missingCollector category index => place category index ++ ": missing 'collector'"
  | missingResultKey collector name => collector ++ ": missing '" ++ name ++ "'"
  | invalidTier collector tier => collector ++ ": tier=" ++ tier ++ ", expected 1/2/3"
  | noResults => "no results in any category"
  | invalidHealthScore found => "summary.health_score invalid: " ++ found

/-- The defect as a document: its kind and its parts. -/
def detail : Defect → Json
  | missingTopLevel names =>
    .object [("keys", Json.ofStrings names), ("kind", .string "missing_top_level")]
  | wrongTool found => .object [("found", .string found), ("kind", .string "wrong_tool")]
  | invalidSelfPid found => .object [("found", .string found), ("kind", .string "invalid_self_pid")]
  | categoriesNotObject => .object [("kind", .string "categories_not_object")]
  | missingCategories names =>
    .object [("kind", .string "missing_categories"), ("missing", Json.ofStrings names)]
  | categoryNotArray category =>
    .object [("category", .string category), ("kind", .string "category_not_array")]
  | resultNotObject category index =>
    .object [("category", .string category), ("index", Json.ofNat index),
      ("kind", .string "result_not_object")]
  | missingCollector category index =>
    .object [("category", .string category), ("index", Json.ofNat index),
      ("kind", .string "missing_collector")]
  | missingResultKey collector name =>
    .object [("collector", .string collector), ("key", .string name),
      ("kind", .string "missing_result_key")]
  | invalidTier collector tier =>
    .object [("collector", .string collector), ("kind", .string "invalid_tier"),
      ("tier", .string tier)]
  | noResults => .object [("kind", .string "no_results")]
  | invalidHealthScore found =>
    .object [("found", .string found), ("kind", .string "invalid_health_score")]

end Defect

/-- The note that some collectors gave errors and nothing else. It never makes a report invalid. -/
structure Advisory where
  collectors : List String
deriving DecidableEq

namespace Advisory

/-- How many collectors the message names. -/
def sample : Nat := 5

def message (a : Advisory) : String :=
  toString a.collectors.length ++ " error-only collectors: " ++
    ", ".intercalate (a.collectors.take sample) ++
    (if sample < a.collectors.length then "..." else "")

end Advisory

end HealthReport
