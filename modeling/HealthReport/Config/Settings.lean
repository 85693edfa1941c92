import HealthReport.Config.Reading
import HealthReport.Log.Layout

/-!
The settings of a run: the environment gives them, and a flag for the output format wins over it.
-/
namespace HealthReport

/-- How a verdict is written. -/
inductive OutputFormat where
  | text
  /-- One document on one line. -/
  | json
deriving DecidableEq

namespace OutputFormat

def all : List OutputFormat := [text, json]

def label : OutputFormat → String
  | text => "text"
  | json => "json"

/-- The format with exactly this label. -/
def ofLabel? (label : String) : Option OutputFormat := all.find? (·.label == label)

/-- The format that a text names, in any case. -/
def ofText? (given : String) : Option OutputFormat := ofLabel? (lowercase given)

/-- The format that is used unless another is asked for. -/
def standard : OutputFormat := text

/-- What is said about a text that names no format. -/
def unknownMessage (given : String) : String :=
  "unknown output format '" ++ lowercase given ++ "' (expected text or json)"

end OutputFormat

structure Settings where
  logLevel : Sourced String
  logLayout : Sourced Log.Layout
  logFile : Sourced (Option Bytes)
  outputFormat : Sourced OutputFormat

namespace Settings

/-- The log level unless another is asked for. -/
def standardLevel : String := "warn"

/-- The settings that an environment gives, and the faults of its variables in the order in which
they are read. -/
def ofEnvironment (e : Environment) : Settings × List ConfigFault :=
  let level := e.logLevel "LOG_LEVEL" standardLevel
  let layout := e.choice "LOG_FORMAT" Log.Layout.standard.label ["pretty", "compact", "json"]
  let format := e.choice "OUTPUT_FORMAT" OutputFormat.standard.label ["text", "json"]
  ({ logLevel := level.setting
     logLayout := layout.setting.map fun word => (Log.Layout.ofText? word).getD .standard
     logFile := e.path "LOG_FILE"
     outputFormat := format.setting.map fun word => (OutputFormat.ofText? word).getD .standard },
    level.fault.toList ++ layout.fault.toList ++ format.fault.toList)

/-- The settings with the output format of a flag, if one is given. -/
def withOutput (s : Settings) (format : Option OutputFormat) : Settings :=
  match format with
  | some f => { s with outputFormat := .ofCommandLine f }
  | none => s

end Settings

/-- What logging needs to know: a level directive, the layout, whether records go to the standard
error stream, and the path of a log file. -/
structure LogConfig where
  level : String
  layout : Log.Layout
  stderr : Bool
  file : Option Bytes
deriving DecidableEq

namespace LogConfig

/-- The log settings; nothing goes to the standard error stream yet. -/
def ofSettings (s : Settings) : LogConfig :=
  ⟨s.logLevel.value, s.logLayout.value, false, s.logFile.value⟩

def withStderr (c : LogConfig) : LogConfig := { c with stderr := true }

def withLevel (c : LogConfig) (level : String) : LogConfig := { c with level := level }

def withFile (c : LogConfig) (path : Bytes) : LogConfig := { c with file := some path }

end LogConfig

end HealthReport
