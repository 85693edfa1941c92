import HealthReport.Config.Environment
import HealthReport.Config.Sourced
import HealthReport.Text.Blank
import HealthReport.Text.Case

/-!
Reading settings out of the environment. A variable whose value cannot be used gives the default
and a fault; all faults of a session are kept until they are taken. A rejected variable is still
recorded as the source of the setting.
-/
namespace HealthReport

/-- Why the value of a variable cannot be used. -/
inductive ConfigFault where
  /-- The value is none of those expected. -/
  | invalidValue (variableName expected value : String)
  | invalidLevel (variableName value : String)
deriving DecidableEq

def ConfigFault.message : ConfigFault → String
  | invalidValue name expected value =>
    "Invalid value for " ++ name ++ ": expected " ++ expected ++ ", got '" ++ value ++ "'"
  | invalidLevel name value => "Invalid log level for " ++ name ++ ": " ++ value

/-- A setting read from a variable, with the fault that the variable has, if any. -/
structure Reading (α : Type) where
  setting : Sourced α
  fault : Option ConfigFault
deriving DecidableEq

namespace Environment

/-- The variable that holds a setting. -/
def variableName (name : String) : String := "MELISAI_" ++ name

/-- The words for a log level. -/
def levelWords : List String := ["trace", "debug", "info", "warn", "error", "off"]

/-- Reads a setting from a variable: a text that is accepted gives its setting, a text that is not
gives the default and a fault. -/
def read {α : Type} (e : Environment) (name : String) (fallback : α)
    (accept : String → Option α) (fault : String → String → ConfigFault) : Reading α :=
  let full := variableName name
  match e.text? full with
  | none => ⟨.ofDefault fallback, none⟩
  | some text =>
    match accept text with
    | some value => ⟨.ofVariable value full, none⟩
    | none => ⟨.ofVariable fallback full, some (fault full text)⟩

/-- A text in lower case, if that is one of the words. -/
def wordOf? (words : List String) (text : String) : Option String :=
  let word := lowercase text
  if word ∈ words then some word else none

/-- A setting that is one of a list of words, in any case; the setting is the lower case. -/
def choice (e : Environment) (name fallback : String) (words : List String) : Reading String :=
  e.read name fallback (wordOf? words) fun full text =>
    .invalidValue full ("/".intercalate words) text

def logLevel (e : Environment) (name fallback : String) : Reading String :=
  e.read name fallback (wordOf? levelWords) .invalidLevel

/-- A path, or nothing if the variable is blank. -/
def path (e : Environment) (name : String) : Sourced (Option Bytes) :=
  let full := variableName name
  match e.text? full with
  | none => .ofDefault none
  | some text =>
    if (trimBlanks text.toList).isEmpty then .ofVariable none full
    else .ofVariable (some (Utf8.encode text)) full

end Environment

/-- A step of a session: a change of the environment or a reading. -/
inductive ConfigStep where
  | set (variableName : String) (value : Bytes)
  | unset (variableName : String)
  | choice (name fallback : String) (words : List String)
  | logLevel (name fallback : String)
  | path (name : String)
  /-- Takes the faults found so far. -/
  | take

/-- What a step of a session answers. -/
inductive ConfigAnswer where
  | done
  | text (setting : Sourced String)
  | path (setting : Sourced (Option Bytes))
  | faults (faults : List ConfigFault)

/-- A session of readings: the environment as it is now, and the faults that nobody has taken yet.
-/
structure ConfigSession where
  environment : Environment
  faults : List ConfigFault

namespace ConfigSession

def note (s : ConfigSession) (r : Reading String) : ConfigSession × ConfigAnswer :=
  (⟨s.environment, s.faults ++ r.fault.toList⟩, .text r.setting)

def step (s : ConfigSession) : ConfigStep → ConfigSession × ConfigAnswer
  | .set name value => (⟨s.environment.set name value, s.faults⟩, .done)
  | .unset name => (⟨s.environment.unset name, s.faults⟩, .done)
  | .choice name fallback words => s.note (s.environment.choice name fallback words)
  | .logLevel name fallback => s.note (s.environment.logLevel name fallback)
  | .path name => (s, .path (s.environment.path name))
  | .take => (⟨s.environment, []⟩, .faults s.faults)

/-- Runs steps in turn; the answers come with the session as it is afterwards. -/
def run (s : ConfigSession) : List ConfigStep → ConfigSession × List ConfigAnswer
  | [] => (s, [])
  | head :: rest =>
    let (next, answer) := s.step head
    let (final, answers) := next.run rest
    (final, answer :: answers)

end ConfigSession

end HealthReport
