import HealthReport.CommandLine.Run

/-!
The steps of a program, one after the other. What a step asks of the system goes through a host, so
the same steps can be taken on a real system and on a model of one.
-/
namespace HealthReport

namespace CommandLine

/-- What a program asks of the system that it runs on. -/
structure Host (m : Type → Type) where
  environment : m Environment
  /-- Sets logging up, with the records about the log file. -/
  install : LogConfig → m (Except Log.SetupFault Unit × List Log.Record)
  exists? : Path → m Bool
  read : Path → m (Except FileFault Bytes)
  /-- Passes a notice on if it gets through the logging. -/
  say : Notice → m Unit
  print : String → m Unit

section

variable {m : Type → Type} [Monad m]

/-- Tells a conclusion, and gives its exit status. -/
def Host.tell (host : Host m) (c : Conclusion) : m Nat := do
  c.notices.forM host.say
  host.print c.stdout
  return c.status

/-- Takes the steps of a program up to its exit status. -/
def execute (host : Host m) (p : Program) (given : List Bytes) : m Nat := do
  match arguments p given with
  | .error stop => host.tell (stopConclusion p stop)
  | .ok given =>
    let (s, faults) := settings (← host.environment) given
    let (answer, opening) ← host.install (logConfig s given)
    (openingNotices p answer opening faults).forM host.say
    let path := given.report.getD []
    let found ← host.exists? path
    let content ← host.read path
    host.tell (conclude p s.outputFormat.value given found content)

end

end CommandLine

end HealthReport
