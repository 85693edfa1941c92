import HealthReport.Detection.Scenario
import HealthReport.Report.Query

/-!
The summary of a report that stands before the checks of a scenario: the host, the health score, the
anomalies and the recommendations. What the report does not say is shown as a question mark.
-/
namespace HealthReport

namespace Report

/-- A text, a question mark if it is empty. -/
def orUnknown (text : String) : String := if text.isEmpty then "?" else text

/-- A value as shown in a line, a question mark if it is absent. -/
def shownOrUnknown (value : Option Json) : String :=
  match value with
  | some v => Json.shown (some v)
  | none => "?"

/-- Blanks after a text up to a number of characters. -/
def padEnd (width : Nat) (text : String) : String :=
  String.ofList (text.toList ++ List.replicate (width - text.toList.length) ' ')

/-- The line about the host, if its name is known. -/
def hostLine (m : Metadata) : String :=
  match m.text? "hostname" with
  | none => ""
  | some hostname =>
    "  Host: " ++ hostname ++ " (profile=" ++ (m.text? "profile").getD "?" ++
      ", melisai " ++ (m.text? "version").getD "?" ++ ")\n"

def anomalyLine (a : Anomaly) : String :=
  "    [" ++ padEnd 8 (uppercase (orUnknown a.severity)) ++ "] " ++ a.metric?.getD "?" ++
    ": " ++ a.message ++ " (value=" ++ shownOrUnknown a.value? ++ ")\n"

def recommendationLine (r : Recommendation) : String :=
  "    [" ++ shownOrUnknown r.priority? ++ "] " ++ orUnknown r.title ++ "\n"

def summaryText (r : Report) (s : Scenario) : String :=
  "--- Report summary for test '" ++ s.name ++ "' ---\n" ++
    hostLine r.metadata ++
    "  Health score: " ++ Json.shown r.summary.healthScore? ++ "\n" ++
    "  Anomalies (" ++ toString r.anomalies.length ++ "):\n" ++
    String.join (r.anomalies.map anomalyLine) ++
    "  Recommendations (" ++ toString r.recommendations.length ++ "):\n" ++
    String.join (r.recommendations.map recommendationLine)

end Report

end HealthReport
