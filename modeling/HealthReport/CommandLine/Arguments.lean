import HealthReport.CommandLine.Program
import HealthReport.Config.Settings
import HealthReport.Files.Path
import HealthReport.Text.Controls

/-!
Reading the arguments of a program, one after the other. An option or a positional argument is
settled, and its value looked at, only when the next one comes or the arguments end; an argument
that the program does not know is reported before that.
-/
namespace HealthReport

namespace CommandLine

/-- The arguments that a run was given. -/
structure Given where
  report : Option Path
  scenario : Option String
  list : Bool
  format : Option OutputFormat
  logFile : Option Path
  verbose : Bool
deriving DecidableEq

def Given.none : Given := ⟨.none, .none, false, .none, .none, false⟩

/-- Why arguments are refused. Texts are as given, with a replacement for what is no text. -/
inductive Rejection where
  | missingReport
  | unexpectedArgument (given : String)
  | invalidFormat (given : String)
  | valueRequired (slot : Slot)
  | repeated (slot : Slot)
  | unexpectedValue (value : String) (slot : Slot)
  | notText
deriving DecidableEq

/-- A name or a value between quotes, in bold face. -/
def quotedPart (text : String) : String := "'" ++ emphasized text ++ "'"

/-- What is said about a refusal. -/
def Rejection.message (p : Program) : Rejection → String
  | .missingReport =>
    "the following required arguments were not provided:\n  " ++ emphasized (p.display .report)
  | .unexpectedArgument given => "unexpected argument " ++ quotedPart given ++ " found"
  | .invalidFormat given =>
    "invalid value " ++ quotedPart given ++ " for " ++ quotedPart (p.display .format) ++ ": " ++
      OutputFormat.unknownMessage given
  | .valueRequired slot =>
    "a value is required for " ++ quotedPart (p.display slot) ++ " but none was supplied"
  | .repeated slot =>
    "the argument " ++ quotedPart (p.display slot) ++ " cannot be used multiple times"
  | .unexpectedValue value slot =>
    "unexpected value " ++ quotedPart value ++ " for " ++ quotedPart (p.display slot) ++
      " found; no more were expected"
  | .notText => "invalid UTF-8 was detected in one or more arguments"

/-- Whether the usage of the program follows what is said: not where only a value is wrong. -/
def Rejection.showsUsage : Rejection → Bool
  | .invalidFormat _ => false
  | _ => true

/-- What ends the reading of arguments before a run. -/
inductive Stop where
  | help
  | version
  | rejected (why : Rejection)
deriving DecidableEq

def reject {α : Type} (why : Rejection) : Except Stop α := .error (.rejected why)

/-- A path that is not empty. -/
def pathValue (slot : Slot) (value : Bytes) : Except Stop Path :=
  if value = [] then reject (.valueRequired slot) else .ok value

def textValue (value : Bytes) : Except Stop String :=
  match Utf8.decode? value with
  | some text => .ok text
  | none => reject .notText

def formatValue (value : Bytes) : Except Stop OutputFormat :=
  match textValue value with
  | .error stop => .error stop
  | .ok text =>
    match OutputFormat.ofText? text with
    | some format => .ok format
    | none => reject (.invalidFormat text)

namespace Given

/-- Whether an argument has been given. -/
def has (g : Given) : Slot → Bool
  | .report => g.report.isSome
  | .scenario => g.scenario.isSome
  | .list => g.list
  | .format => g.format.isSome
  | .logFile => g.logFile.isSome
  | .verbose => g.verbose
  | .help | .version => false

/-- Takes the value of an argument. -/
def assign (g : Given) (slot : Slot) (value : Bytes) : Except Stop Given :=
  match slot with
  | .report => (pathValue slot value).map fun path => { g with report := some path }
  | .scenario => (textValue value).map fun name => { g with scenario := some name }
  | .format => (formatValue value).map fun format => { g with format := some format }
  | .logFile => (pathValue slot value).map fun path => { g with logFile := some path }
  | .list => .ok { g with list := true }
  | .verbose => .ok { g with verbose := true }
  | .help => .error .help
  | .version => .error .version

/-- Settles an argument that takes a value, of which none or one was found. -/
def settle (g : Given) (slot : Slot) (found : Option Bytes) : Except Stop Given :=
  match found with
  | .none => reject (.valueRequired slot)
  | some value => if g.has slot then reject (.repeated slot) else g.assign slot value

/-- Sets a flag. -/
def raise (g : Given) (slot : Slot) : Except Stop Given :=
  if g.has slot then reject (.repeated slot) else g.assign slot []

end Given

/-- How far the reading has come: the arguments settled so far, the one that is not settled yet
with its value, whether it still waits for that value, whether only positional arguments may
follow, and the positional arguments still open. -/
structure Scan where
  given : Given
  pending : Option (Slot × Option Bytes)
  awaiting : Bool
  trailing : Bool
  positionals : List Slot

namespace Scan

def start (p : Program) : Scan := ⟨.none, none, false, false, p.positionals⟩

/-- Settles the pending argument. -/
def settle (s : Scan) : Except Stop Scan :=
  match s.pending with
  | none => .ok s
  | some (slot, found) =>
    (s.given.settle slot found).map fun given =>
      { s with given := given, pending := none, awaiting := false }

/-- Takes a positional argument. -/
def positional (s : Scan) (argument : Bytes) : Except Stop Scan :=
  match s.positionals with
  | [] => reject (.unexpectedArgument (Utf8.decodeLossy argument))
  | slot :: rest =>
    s.settle.map fun settled =>
      { settled with pending := some (slot, some argument), awaiting := false, positionals := rest }

/-- Sets a flag after settling what is pending. -/
def flag (s : Scan) (slot : Slot) : Except Stop Scan :=
  match s.settle with
  | .error stop => .error stop
  | .ok settled =>
    (settled.given.raise slot).map fun given => { settled with given := given, awaiting := false }

/-- Takes an option by its long name, with the value after an equals sign if there is one. -/
def long (p : Program) (s : Scan) (name : Bytes) (value : Option Bytes) : Except Stop Scan :=
  match (Utf8.decode? name).bind p.long? with
  | none => reject (.unexpectedArgument ("--" ++ Utf8.decodeLossy name))
  | some slot =>
    if slot.takesValue then
      match s.settle with
      | .error stop => .error stop
      | .ok settled =>
        match value with
        | none => .ok { settled with pending := some (slot, none), awaiting := true }
        | some v =>
          (settled.given.settle slot (some v)).map fun given =>
            { settled with given := given, awaiting := false }
    else
      match value with
      | some v => reject (.unexpectedValue (Utf8.decodeLossy v) slot)
      | none => s.flag slot

/-- Takes a run of short options; `none` stands for bytes that are no text. -/
def short (s : Scan) : List (Option Char) → Except Stop Scan
  | [] => .ok s
  | none :: rest =>
    reject (.unexpectedArgument (String.ofList ('-' :: (none :: rest).map (·.getD '\uFFFD'))))
  | some c :: rest =>
    match Program.short? c with
    | none => reject (.unexpectedArgument (String.ofList ['-', c]))
    | some slot =>
      match s.flag slot with
      | .error stop => .error stop
      | .ok next => next.short rest

/-- Takes an argument that is no option: the value that is waited for, or a positional argument. -/
def operand (s : Scan) (argument : Bytes) : Except Stop Scan :=
  match s.awaiting, s.pending with
  | true, some (slot, _) => .ok { s with pending := some (slot, some argument), awaiting := false }
  | _, _ => s.positional argument

def dash : UInt8 := 0x2D

def equalsSign : UInt8 := 0x3D

/-- Takes the next argument. Two dashes end the options, and a dash alone is a positional
argument. -/
def step (p : Program) (s : Scan) (argument : Bytes) : Except Stop Scan :=
  if s.trailing then s.positional argument
  else match argument with
    | [first, second] =>
      if first = dash && second = dash then .ok { s with trailing := true }
      else if first = dash then s.short (Utf8.scan [second])
      else s.operand argument
    | first :: second :: rest =>
      if first = dash && second = dash then
        let name := rest.takeWhile (· != equalsSign)
        s.long p name (rest.drop name.length).tail?
      else if first = dash then s.short (Utf8.scan (second :: rest))
      else s.operand argument
    | _ => s.operand argument

def steps (p : Program) (s : Scan) : List Bytes → Except Stop Scan
  | [] => .ok s
  | argument :: rest =>
    match s.step p argument with
    | .ok next => next.steps p rest
    | .error stop => .error stop

end Scan

/-- Reads the arguments of a program. Validating a report needs one. -/
def arguments (p : Program) (given : List Bytes) : Except Stop Given :=
  match (Scan.start p).steps p given with
  | .error stop => .error stop
  | .ok s =>
    match s.settle with
    | .error stop => .error stop
    | .ok settled =>
      if p = .verifyReport && settled.given.report.isNone then reject .missingReport
      else .ok settled.given

end CommandLine

end HealthReport
