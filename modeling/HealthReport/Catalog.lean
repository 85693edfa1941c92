import HealthReport.Binary64.Decimal

/-!
The catalog of error codes. The number of a code fixes its category, and the category fixes the exit
status: a wrong invocation ends with 2, an advisory never fails, everything else ends with 1.
-/
namespace HealthReport

/-- A group of error codes. -/
inductive ErrorCategory where
  | usage
  | parse
  | structural
  | field
  | advisory
  | detection
deriving DecidableEq

namespace ErrorCategory

def all : List ErrorCategory := [usage, parse, structural, field, advisory, detection]

def name : ErrorCategory → String
  | usage => "Usage"
  | parse => "Parse"
  | structural => "Structural"
  | field => "Field"
  | advisory => "Advisory"
  | detection => "Detection"

/-- The name in documents. -/
def label : ErrorCategory → String
  | usage => "usage"
  | parse => "parse"
  | structural => "structural"
  | field => "field"
  | advisory => "advisory"
  | detection => "detection"

def exitStatus : ErrorCategory → Nat
  | usage => 2
  | advisory => 0
  | parse | structural | field | detection => 1

/-- The category that a code number belongs to. -/
def ofNumber (n : Nat) : ErrorCategory :=
  if 1 ≤ n ∧ n < 100 then usage
  else if 100 ≤ n ∧ n < 200 then parse
  else if 200 ≤ n ∧ n < 300 then structural
  else if 300 ≤ n ∧ n < 400 then field
  else if 400 ≤ n ∧ n < 500 then advisory
  else detection

end ErrorCategory

/-- A code for each condition that is reported. -/
inductive ErrorCode where
  /-- The command line lacks an argument. -/
  | badArguments
  | unknownScenario
  /-- The report to run a scenario on does not exist. -/
  | reportNotFound
  | invalidJson
  | readFailed
  /-- The report to read does not exist. -/
  | reportMissing
  | missingTopLevel
  | categoriesNotObject
  | wrongTool
  | invalidSelfPid
  | missingCategories
  | categoryNotArray
  | resultNotObject
  | missingResultKey
  | invalidTier
  | noResults
  | invalidHealthScore
  | errorOnlyCollectors
  | checkFailed
deriving DecidableEq

/-- A code with all that the catalog says about it. -/
structure ErrorEntry where
  code : String
  category : ErrorCategory
  message : String
  remediation : List String
deriving DecidableEq

namespace ErrorCode

/-- Every code, in the order of the numbers. -/
def all : List ErrorCode :=
  [badArguments, unknownScenario, reportNotFound,
    invalidJson, readFailed, reportMissing,
    missingTopLevel, categoriesNotObject,
    wrongTool, invalidSelfPid, missingCategories, categoryNotArray, resultNotObject,
    missingResultKey, invalidTier, noResults, invalidHealthScore,
    errorOnlyCollectors, checkFailed]

def number : ErrorCode → Nat
  | badArguments => 1
  | unknownScenario => 2
  | reportNotFound => 3
  | invalidJson => 100
  | readFailed => 101
  | reportMissing => 102
  | missingTopLevel => 200
  | categoriesNotObject => 201
  | wrongTool => 300
  | invalidSelfPid => 301
  | missingCategories => 302
  | categoryNotArray => 303
  | resultNotObject => 304
  | missingResultKey => 305
  | invalidTier => 306
  | noResults => 307
  | invalidHealthScore => 308
  | errorOnlyCollectors => 400
  | checkFailed => 500

/-- The name in documents. -/
def label : ErrorCode → String
  | badArguments => "USAGE_BAD_ARGUMENTS"
  | unknownScenario => "USAGE_UNKNOWN_SCENARIO"
  | reportNotFound => "USAGE_REPORT_NOT_FOUND"
  | invalidJson => "PARSE_INVALID_JSON"
  | readFailed => "PARSE_READ_FAILED"
  | reportMissing => "PARSE_REPORT_MISSING"
  | missingTopLevel => "STRUCTURAL_MISSING_TOP_LEVEL"
  | categoriesNotObject => "STRUCTURAL_CATEGORIES_NOT_OBJECT"
  | wrongTool => "FIELD_WRONG_TOOL"
  | invalidSelfPid => "FIELD_INVALID_SELF_PID"
  | missingCategories => "FIELD_MISSING_CATEGORIES"
  | categoryNotArray => "FIELD_CATEGORY_NOT_ARRAY"
  | resultNotObject => "FIELD_RESULT_NOT_OBJECT"
  | missingResultKey => "FIELD_MISSING_RESULT_KEY"
  | invalidTier => "FIELD_INVALID_TIER"
  | noResults => "FIELD_NO_RESULTS"
  | invalidHealthScore => "FIELD_INVALID_HEALTH_SCORE"
  | errorOnlyCollectors => "ADVISORY_ERROR_ONLY_COLLECTORS"
  | checkFailed => "DETECTION_CHECK_FAILED"

/-- The number in three digits after a tag. -/
def code (c : ErrorCode) : String :=
  "MLS-E" ++ String.ofList ((Decimal.digitChars c.number).leftpad 3 '0')

def category (c : ErrorCode) : ErrorCategory := ErrorCategory.ofNumber c.number

def exitStatus (c : ErrorCode) : Nat := c.category.exitStatus

def message : ErrorCode → String
  | badArguments => "Invalid command-line arguments"
  | unknownScenario => "Unknown detection scenario"
  | reportNotFound => "Report file not found"
  | invalidJson => "Report is not valid JSON"
  | readFailed => "Report could not be read"
  | reportMissing => "Report file not found"
  | missingTopLevel => "Report is missing a top-level key"
  | categoriesNotObject => "Report categories is not an object"
  | wrongTool => "Report was not produced by melisai"
  | invalidSelfPid => "Observer self_pid is not a positive integer"
  | missingCategories => "Mandatory categories are missing"
  | categoryNotArray => "Category value is not an array"
  | resultNotObject => "Collector result is not an object"
  | missingResultKey => "Collector result is missing a required key"
  | invalidTier => "Collector tier is not 1, 2 or 3"
  | noResults => "Report contains no collector results"
  | invalidHealthScore => "Health score is not an integer in 0-100"
  | errorOnlyCollectors => "Some collectors produced only errors"
  | checkFailed => "Report does not match the expected signature"

/-- What to do about it, step by step. -/
def remediation : ErrorCode → List String
  | badArguments => ["Run with --help to see the expected arguments"]
  | unknownScenario => ["Run check-detection --list to see valid scenarios"]
  | reportNotFound | reportMissing =>
    ["Check the report path", "Re-run melisai collect to produce a report"]
  | invalidJson =>
    ["Make sure the file is a complete melisai JSON report",
      "Truncated reports usually mean the collector was killed mid-write"]
  | readFailed => ["Check file permissions"]
  | missingTopLevel | categoriesNotObject =>
    ["Regenerate the report with a current melisai release"]
  | wrongTool => ["Only melisai reports can be validated"]
  | invalidSelfPid => ["Check the observer overhead tracker output"]
  | missingCategories =>
    ["Run a profile that includes the cpu, memory and process collectors"]
  | categoryNotArray | resultNotObject | missingResultKey | invalidTier =>
    ["Inspect the named collector's output"]
  | noResults => ["Check that at least one collector is enabled"]
  | invalidHealthScore => ["Check the health score computation"]
  | errorOnlyCollectors =>
    ["Tier 2/3 collectors need BCC or eBPF support; errors are expected without it"]
  | checkFailed =>
    ["Check that the stress workload ran long enough to be sampled",
      "Inspect the anomalies printed in the report summary"]

def entry (c : ErrorCode) : ErrorEntry := ⟨c.code, c.category, c.message, c.remediation⟩

/-- The code and the message in one line. -/
def line (c : ErrorCode) : String := c.code ++ ": " ++ c.message

end ErrorCode

namespace ErrorEntry

/-- The code in brackets and the message, in one line. -/
def brief (e : ErrorEntry) : String := "[" ++ e.code ++ "] " ++ e.message

/-- The brief line and a line for each step of remediation. -/
def full (e : ErrorEntry) : String :=
  e.brief ++ "\n" ++ String.join (e.remediation.map fun step => "  - " ++ step ++ "\n")

end ErrorEntry

end HealthReport
