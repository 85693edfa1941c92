/-!
Configuration values that remember where they come from.
-/
namespace HealthReport

/-- Where a configuration value comes from. -/
inductive ConfigSource where
  /-- The value that is built in. -/
  | default
  | environment
  | commandLine
deriving DecidableEq

namespace ConfigSource

def all : List ConfigSource := [default, environment, commandLine]

/-- The name in documents. -/
def label : ConfigSource → String
  | default => "default"
  | environment => "environment"
  | commandLine => "command_line"

/-- The name in prose. -/
def name : ConfigSource → String
  | default => "default"
  | environment => "environment"
  | commandLine => "command line"

end ConfigSource

/-- A value with its source, and with the variable's name where it has been set by one. -/
structure Sourced (α : Type) where
  value : α
  source : ConfigSource
  variableName : Option String
deriving DecidableEq

namespace Sourced

def ofDefault {α : Type} (value : α) : Sourced α := ⟨value, .default, none⟩

def ofVariable {α : Type} (value : α) (name : String) : Sourced α :=
  ⟨value, .environment, some name⟩

def ofCommandLine {α : Type} (value : α) : Sourced α := ⟨value, .commandLine, none⟩

def map {α β : Type} (f : α → β) (s : Sourced α) : Sourced β :=
  ⟨f s.value, s.source, s.variableName⟩

end Sourced

end HealthReport
