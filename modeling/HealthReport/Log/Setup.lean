import HealthReport.Config.Settings
import HealthReport.Log.File
import HealthReport.Log.Filter

/-!
The logging of a process. A process installs at most one subscriber, for good; a later attempt
fails, but only after its directive has been read and its log file opened. A log file that cannot
be opened does not fail the attempt.
-/
namespace HealthReport

namespace Log

/-- Where records go: those that the filter admits, to the standard error stream, to a file, or
both. -/
structure Subscriber where
  filter : Filter
  layout : Layout
  stderr : Bool
  file : Option Location
deriving DecidableEq

/-- The subscriber of a configuration, given how the opening of its log file went. -/
def Subscriber.ofConfig (c : LogConfig) (filter : Filter)
    (opened : Option (Except FileProblem Location)) : Subscriber :=
  let file :=
    match opened with
    | some (.ok place) => some place
    | _ => none
  ⟨filter, c.layout, c.stderr, file⟩

/-- The files with more text at the end of the log, if there is a log file. -/
def writeLog (subscriber : Option Subscriber) (t : FileTree) (text : Bytes) : FileTree :=
  match subscriber.bind (·.file) with
  | none => t
  | some place => t.append place text

/-- Why logging is not set up. -/
inductive SetupFault where
  | invalidDirective (text : String)
  | alreadyInstalled
deriving DecidableEq

def SetupFault.message : SetupFault → String
  | .invalidDirective text => "invalid log level directive '" ++ text ++ "'"
  | .alreadyInstalled => "failed to install tracing subscriber"

/-- The record about a log file that cannot be used. -/
def disabledRecord (problem : FileProblem) : Record :=
  ⟨.warn, "melisai_common::logging", "file logging disabled: " ++ problem.message, []⟩

/-- The logging of a process: its files, the subscriber if there is one, and the records that were
emitted since then. -/
structure Setup where
  tree : FileTree
  subscriber : Option Subscriber
  emitted : List Record

namespace Setup

def start (t : FileTree) : Setup := ⟨t, none, []⟩

/-- Opens the log file of a configuration, if it has one. -/
def openLog (t : FileTree) (c : LogConfig) : FileTree × Option (Except FileProblem Location) :=
  match c.file with
  | none => (t, none)
  | some path => ((openFile t path).1, some (openFile t path).2)

/-- The records about the log file. -/
def openingRecords (opened : Option (Except FileProblem Location)) : List Record :=
  match opened with
  | some (.error problem) => [disabledRecord problem]
  | _ => []

/-- Sets logging up. -/
def install (p : Setup) (c : LogConfig) : Setup × Except SetupFault Unit :=
  match Filter.ofText? c.level with
  | none => (p, .error (.invalidDirective c.level))
  | some filter =>
    let (tree, opened) := openLog p.tree c
    match p.subscriber with
    | some _ => ({ p with tree := tree }, .error .alreadyInstalled)
    | none => (⟨tree, some (.ofConfig c filter opened), openingRecords opened⟩, .ok ())

/-- Sets logging up several times in turn. -/
def installAll (p : Setup) : List LogConfig → Setup × List (Except SetupFault Unit)
  | [] => (p, [])
  | c :: rest =>
    let (next, answer) := p.install c
    let (final, answers) := next.installAll rest
    (final, answer :: answers)

/-- The emitted records that go to the standard error stream, with their layout. -/
def shown (p : Setup) : List (Layout × Record) :=
  match p.subscriber with
  | none => []
  | some s => if s.stderr then (p.emitted.filter s.filter.admits).map fun r => (s.layout, r) else []

end Setup

end Log

end HealthReport
