import HealthReport.CommandLine.Conclusion
import HealthReport.Log.Printer
import HealthReport.Log.Setup

/-!
A run of a program: settings come from the environment and the arguments, logging is set up, then
the report is looked at.

The log file is opened before the report is read, and its lines are written beside the run. So when
the report is read, the lines logged till then may be in the file or still on their way (`MayEnd`).
They are about faults of the environment, and it matters where they are only if the report is the
log file. The usual run (`run`) has them on their way: all lines are written when it ends.
-/
namespace HealthReport

namespace CommandLine

/-- The settings of a run and the faults of its environment. -/
def settings (e : Environment) (given : Given) : Settings × List ConfigFault :=
  let (found, faults) := Settings.ofEnvironment e
  (found.withOutput given.format, faults)

/-- How a run logs. -/
def logConfig (s : Settings) (given : Given) : LogConfig :=
  let config := (LogConfig.ofSettings s).withStderr
  let leveled := if given.verbose then config.withLevel "debug" else config
  match given.logFile with
  | some path => leveled.withFile path
  | none => leveled

/-- The record about a variable that cannot be used. -/
def faultRecord (p : Program) (fault : ConfigFault) : Log.Record :=
  ⟨.warn, p.target, fault.message ++ "; using default", []⟩

/-- What is said when logging could not be set up. -/
def setupNotices (answer : Except Log.SetupFault Unit) : List Notice :=
  match answer with
  | .ok _ => []
  | .error fault => [.text ("WARNING: logging disabled: " ++ fault.message ++ "\n")]

/-- Whether a notice gets through the logging of a process. -/
def passes (subscriber : Option Log.Subscriber) : Notice → Bool
  | .text _ => true
  | .record r =>
    match subscriber with
    | none => false
    | some s => s.filter.admits r

def Notice.record? : Notice → Option Log.Record
  | .record r => some r
  | .text _ => none

/-- What a run leaves behind: its conclusion with the notices that got through, the subscriber,
and the files with the log as far as it had been opened. -/
structure Outcome where
  conclusion : Conclusion
  subscriber : Option Log.Subscriber
  tree : FileTree

/-- The set-up of logging in a run. -/
def started (e : Environment) (given : Given) (t : FileTree) :
    Log.Setup × Except Log.SetupFault Unit :=
  (Log.Setup.start t).install (logConfig (settings e given).1 given)

/-- The notices of a run up to the report, before any is dropped. -/
def openingNotices (p : Program) (answer : Except Log.SetupFault Unit) (opening : List Log.Record)
    (faults : List ConfigFault) : List Notice :=
  setupNotices answer ++ opening.map Notice.record ++
    faults.map (fun fault => Notice.record (faultRecord p fault))

/-- The notices of a whole run, before any is dropped. -/
def allNotices (p : Program) (answer : Except Log.SetupFault Unit) (opening : List Log.Record)
    (faults : List ConfigFault) (c : Conclusion) : List Notice :=
  openingNotices p answer opening faults ++ c.notices

/-- Runs a program, given how the files look when the report is read. -/
def runLooking (look : Log.Setup → FileTree) (p : Program) (e : Environment) (given : List Bytes)
    (t : FileTree) : Outcome :=
  match arguments p given with
  | .error stop => ⟨stopConclusion p stop, none, t⟩
  | .ok given =>
    let (s, faults) := settings e given
    let (setup, answer) := started e given t
    let files := look setup
    let path := given.report.getD []
    let c := conclude p s.outputFormat.value given (files.exists? path) (files.read path)
    let notices := allNotices p answer setup.emitted faults c
    ⟨{ c with notices := notices.filter (passes setup.subscriber) }, setup.subscriber, setup.tree⟩

/-- Runs a program. The files are as they were when logging had been set up. -/
def run (p : Program) (e : Environment) (given : List Bytes) (t : FileTree) : Outcome :=
  runLooking Log.Setup.tree p e given t

/-- Runs a program. Some text is in the log file when the report is read. -/
def runAmid (early : Bytes) (p : Program) (e : Environment) (given : List Bytes) (t : FileTree) :
    Outcome :=
  runLooking (fun setup => Log.writeLog setup.subscriber setup.tree early) p e given t

/-- The records for the log up to the report. -/
def earlyRecords (p : Program) (e : Environment) (given : Given) (t : FileTree) :
    List Log.Record :=
  let (setup, answer) := started e given t
  ((openingNotices p answer setup.emitted (settings e given).2).filter
    (passes setup.subscriber)).filterMap Notice.record?

/-- The text is a beginning of the lines about some records, each with a stamp of its own. It may
end within a line. -/
def Begins (text : Bytes) (records : List Log.Record) : Prop :=
  ∃ stamps : Nat → Log.Stamp, text <+:
    Utf8.encode (String.join (records.mapIdx fun place r => r.line (stamps place)))

/-- A run can end so: when the report is read, some of the lines logged till then are in the log
file, from the first one on. -/
def MayEnd (p : Program) (e : Environment) (args : List Bytes) (t : FileTree) (o : Outcome) :
    Prop :=
  ∃ early, (∀ given, arguments p args = .ok given → Begins early (earlyRecords p e given t)) ∧
    o = runAmid early p e args t

namespace Outcome

/-- A notice on the standard error stream. -/
def noticeText (o : Outcome) (stamp : Log.Stamp) : Notice → String
  | .text s => s
  | .record r =>
    match o.subscriber with
    | none => ""
    | some s => if s.stderr then r.written stamp s.layout else ""

/-- All that goes to the standard error stream, with one time for every record. -/
def stderr (o : Outcome) (stamp : Log.Stamp) : String :=
  String.join (o.conclusion.notices.map (o.noticeText stamp))

/-- The lines for the log file. -/
def logText (o : Outcome) (stamp : Log.Stamp) : String :=
  String.join ((o.conclusion.notices.filterMap Notice.record?).map (Log.Record.line stamp))

/-- The files after the run. -/
def finalTree (o : Outcome) (stamp : Log.Stamp) : FileTree :=
  Log.writeLog o.subscriber o.tree (Utf8.encode (o.logText stamp))

end Outcome

end CommandLine

end HealthReport
