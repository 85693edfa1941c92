/-!
The two programs and the arguments that they take.
-/
namespace HealthReport

namespace CommandLine

inductive Program where
  /-- Validates a report. -/
  | verifyReport
  /-- Checks a report for the signature of a scenario. -/
  | checkDetection
deriving DecidableEq

/-- An argument that a program takes. -/
inductive Slot where
  | report
  | scenario
  | list
  | format
  | logFile
  | verbose
  | help
  | version
deriving DecidableEq

namespace Slot

/-- Whether an option is followed by a value. -/
def takesValue : Slot → Bool
  | format | logFile => true
  | _ => false

end Slot

namespace Program

def name : Program → String
  | verifyReport => "verify-report"
  | checkDetection => "check-detection"

/-- The part of the program that log records name. -/
def target : Program → String
  | verifyReport => "verify_report"
  | checkDetection => "check_detection"

def version : String := "0.4.0"

/-- How a message names an argument. -/
def display (p : Program) : Slot → String
  | .report =>
    match p with
    | verifyReport => "<REPORT>"
    | checkDetection => "[REPORT]"
  | .scenario => "[SCENARIO]"
  | .list => "--list"
  | .format => "--format <FORMAT>"
  | .logFile => "--log-file <PATH>"
  | .verbose => "--verbose"
  | .help => "--help"
  | .version => "--version"

/-- The option with a long name. -/
def long? (p : Program) (name : String) : Option Slot :=
  match name with
  | "format" => some .format
  | "log-file" => some .logFile
  | "verbose" => some .verbose
  | "help" => some .help
  | "version" => some .version
  | "list" => if p = checkDetection then some .list else none
  | _ => none

/-- The option with a short name; none of these takes a value. -/
def short? (c : Char) : Option Slot :=
  if c = 'v' then some .verbose
  else if c = 'h' then some .help
  else if c = 'V' then some .version
  else none

/-- The arguments that are given by their position. -/
def positionals : Program → List Slot
  | verifyReport => [.report]
  | checkDetection => [.report, .scenario]

/-- The usage in one line. -/
def usage (p : Program) : String :=
  match p with
  | verifyReport => "Usage: verify-report [OPTIONS] <REPORT>"
  | checkDetection => "Usage: check-detection [OPTIONS] [REPORT] [SCENARIO]"

def about : Program → String
  | verifyReport => "Check that a melisai report is structurally valid"
  | checkDetection => "Check a melisai report against a stress-test scenario"

/-- The page that explains the arguments. -/
def helpText (p : Program) : String :=
  let positional :=
    match p with
    | verifyReport => "  <REPORT>  Path to the report JSON\n"
    | checkDetection =>
      "  [REPORT]    Path to the report JSON\n  [SCENARIO]  Scenario name (see --list)\n"
  let list :=
    match p with
    | verifyReport => ""
    | checkDetection => "      --list             List available scenarios and exit\n"
  p.about ++ "\n\n" ++ p.usage ++ "\n\nArguments:\n" ++ positional ++ "\nOptions:\n" ++ list ++
    "      --format <FORMAT>  Output format (text or json); overrides MELISAI_OUTPUT_FORMAT\n" ++
    "      --log-file <PATH>  Also write JSON logs to this file; overrides MELISAI_LOG_FILE\n" ++
    "  -v, --verbose          Enable verbose logging\n" ++
    "  -h, --help             Print help\n" ++
    "  -V, --version          Print version\n"

end Program

end CommandLine

end HealthReport
