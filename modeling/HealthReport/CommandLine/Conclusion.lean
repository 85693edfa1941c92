import HealthReport.CommandLine.Arguments
import HealthReport.Detection.Summary
import HealthReport.Detection.Verdict
import HealthReport.Report.Load
import HealthReport.Validation.Assessment

/-!
What the two programs conclude from what they find: an exit status, what they write to the
standard output stream, and the notices on the way, in their order. Whether a log record is shown
is decided elsewhere.
-/
namespace HealthReport

namespace CommandLine

/-- Something that a run says beside its result. -/
inductive Notice where
  | record (r : Log.Record)
  /-- Text for the standard error stream. -/
  | text (s : String)
deriving DecidableEq

structure Conclusion where
  status : Nat
  stdout : String
  notices : List Notice
deriving DecidableEq

/-- A fault of a report's file as the document that a validation would give. -/
def faultJson (fault : LoadFault) : Json :=
  let code := fault.code
  .object [("errors", .array [.object [("category", .string code.category.label),
      ("code", .string code.code), ("message", .string fault.message),
      ("remediation", Json.ofStrings code.remediation)]]),
    ("valid", .bool false), ("warnings", .array [])]

/-- The lines about an assessment that are no result: the reasons and the advisory. -/
def reasonLines (a : Assessment) : String :=
  String.join (a.reasons.map fun reason => "FAIL: " ++ reason ++ "\n") ++
    String.join (a.advisory.toList.map fun advisory => "WARNING: " ++ advisory.message ++ "\n")

/-- The line about a valid report. -/
def validLine (a : Assessment) : String :=
  if a.isValid then "OK: report valid (" ++ toString a.categoryCount ++ " categories)\n" else ""

/-- Validates the report in what reading its file gave. -/
def verify (format : OutputFormat) (path : Path) (content : Except FileFault Bytes) : Conclusion :=
  match Report.ofFile path content with
  | .error fault =>
    match format with
    | .json => ⟨fault.code.exitStatus, (faultJson fault).text ++ "\n", []⟩
    | .text =>
      ⟨fault.code.exitStatus, "",
        [.text ("FAIL: " ++ fault.message ++ "\n" ++ fault.code.entry.full)]⟩
  | .ok report =>
    let outcome := report.assess
    let records := (Report.loadedRecord path content :: report.assessmentLog).map Notice.record
    let status := if outcome.isValid then 0 else 1
    match format with
    | .json => ⟨status, outcome.toJson.text ++ "\n", records⟩
    | .text => ⟨status, validLine outcome, records ++ [.text (reasonLines outcome)]⟩

/-- Ends with the catalog entry of a wrong invocation. -/
def usageFailure (words : String) (code : ErrorCode) : Conclusion :=
  ⟨code.exitStatus, "", [.text (words ++ code.entry.full)]⟩

/-- The verdict of a scenario, written in a format. -/
def verdictText (format : OutputFormat) (report : Report) (v : Verdict) : String :=
  match format with
  | .json => (v.toJson report).text ++ "\n"
  | .text => report.summaryText v.scenario ++ "\n" ++ v.text

/-- The record about a signature that does not match. -/
def mismatchRecord (v : Verdict) : Log.Record :=
  ⟨.info, "check_detection", "scenario signature not matched",
    [("scenario", .text v.scenario.name), ("failed", .count v.failedCount)]⟩

/-- Runs a scenario on the report in what reading its file gave. -/
def detectIn (format : OutputFormat) (path : Path) (scenario : Scenario)
    (content : Except FileFault Bytes) : Conclusion :=
  match Report.ofFile path content with
  | .error fault => ⟨fault.code.exitStatus, "", [.text ("ERROR: " ++ fault.message ++ "\n")]⟩
  | .ok report =>
    let v := scenario.run report
    ⟨v.exitStatus, verdictText format report v,
      ((Report.loadedRecord path content :: v.records) ++
        if v.allPassed then [] else [mismatchRecord v]).map Notice.record⟩

def scenarioList : String := String.join (Scenario.sortedNames.map fun name => name ++ "\n")

/-- Checks a report for a scenario. The list of scenarios goes before everything else, and a
report that does not exist before a scenario that does not. -/
def detect (format : OutputFormat) (given : Given) (found : Bool)
    (content : Except FileFault Bytes) : Conclusion :=
  if given.list then ⟨0, scenarioList, []⟩
  else match given.report, given.scenario with
    | some path, some name =>
      if !found then
        usageFailure ("ERROR: " ++ Report.absentMessage path ++ "\n") .reportNotFound
      else match Scenario.ofName? name with
        | none => usageFailure ("ERROR: " ++ Scenario.unknownMessage name ++ "\n") .unknownScenario
        | some scenario => detectIn format path scenario content
    | _, _ =>
      usageFailure ("Usage: check-detection <report.json> <test_name>\nAvailable tests: " ++
        ", ".intercalate Scenario.sortedNames ++ "\n") .badArguments

/-- What a program concludes, given whether the report exists and what reading it gives. -/
def conclude (p : Program) (format : OutputFormat) (given : Given) (found : Bool)
    (content : Except FileFault Bytes) : Conclusion :=
  match p with
  | .verifyReport => verify format (given.report.getD []) content
  | .checkDetection => detect format given found content

/-- What is written about refused arguments. -/
def refusal (p : Program) (why : Rejection) : String :=
  "error: " ++ why.message p ++ (if why.showsUsage then "\n\n" ++ p.usage else "") ++
    "\n\nFor more information, try " ++ quotedPart "--help" ++ ".\n"

/-- What a program says instead of running. A refusal goes to the standard error stream without
control sequences, be they its own or those of the arguments. -/
def stopConclusion (p : Program) : Stop → Conclusion
  | .help => ⟨0, p.helpText, []⟩
  | .version => ⟨0, p.name ++ " " ++ Program.version ++ "\n", []⟩
  | .rejected why => ⟨2, "", [.text (withoutControls (refusal p why))]⟩

end CommandLine

end HealthReport
