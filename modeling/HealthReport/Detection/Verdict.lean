import HealthReport.Catalog
import HealthReport.Detection.Checks
import HealthReport.Log.Record

/-!
The verdict of a scenario: its checks with their tally, as text, as a document, as log records and
as an exit status.
-/
namespace HealthReport

/-- The outcomes of all checks of one scenario. -/
structure Verdict where
  scenario : Scenario
  checks : List Check
deriving DecidableEq

namespace Verdict

def passedCount (v : Verdict) : Nat := v.checks.countP (·.passed)

def failedCount (v : Verdict) : Nat := v.checks.length - v.passedCount

def allPassed (v : Verdict) : Bool := v.checks.all (·.passed)

def exitStatus (v : Verdict) : Nat := if v.allPassed then 0 else ErrorCode.checkFailed.exitStatus

/-- What to do about a failed check; nothing if all passed. -/
def remediation (v : Verdict) : List String :=
  if v.allPassed then [] else ErrorCode.checkFailed.remediation

def checkLine (c : Check) : String :=
  "  [" ++ (if c.passed then "+] PASS: " else "!] FAIL: ") ++ c.name ++ "  (" ++ c.detail ++ ")\n"

/-- A line for each check, an empty line and the tally. -/
def text (v : Verdict) : String :=
  String.join (v.checks.map checkLine) ++ "\n" ++
    "  Result: " ++ toString v.passedCount ++ "/" ++ toString v.checks.length ++ " checks passed\n"

def checkJson (c : Check) : Json :=
  .object [("detail", .string c.detail), ("name", .string c.name), ("passed", .bool c.passed)]

/-- The verdict with the figures of the report that it is about. -/
def toJson (v : Verdict) (r : Report) : Json :=
  .object [("anomaly_count", Json.ofNat r.anomalies.length),
    ("checks", .array (v.checks.map checkJson)),
    ("health_score", r.summary.healthScore?.getD .null),
    ("passed", .bool v.allPassed),
    ("passed_count", Json.ofNat v.passedCount),
    ("recommendation_count", Json.ofNat r.recommendations.length),
    ("remediation", Json.ofStrings v.remediation),
    ("scenario", .string v.scenario.name),
    ("total", Json.ofNat v.checks.length)]

/-- What is logged of a verdict: each check, then the tally. -/
def records (v : Verdict) : List Log.Record :=
  let target := "melisai_verify::runner"
  (v.checks.map fun c =>
    ⟨.debug, target, "check evaluated",
      [("scenario", .text v.scenario.name), ("check", .text c.name), ("passed", .flag c.passed),
        ("detail", .text c.detail)]⟩) ++
  [⟨.info, target, "scenario evaluated",
    [("scenario", .text v.scenario.name), ("passed", .count v.passedCount),
      ("total", .count v.checks.length)]⟩]

end Verdict

/-- Runs a scenario on a report. -/
def Scenario.run (s : Scenario) (r : Report) : Verdict := ⟨s, s.checks r⟩

end HealthReport
