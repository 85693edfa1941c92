import HealthReport.CommandLine.Execution
import HealthReport.Proofs.CommandLine.LogFile

/-!
# The steps of a program and its runs

A modelled host keeps the files, the subscriber and what has been written in a state. Taking the
steps of a program on it gives the run of the program: the same exit status, output, notices and
files, wherever the lines of the log are when the report is read.

Results:
1. `forM_say`, `tell_host`: what telling notices and a conclusion does.
2. `execute_host`, `execute_host_nil`: the steps of a program are its run.
-/
namespace HealthReport.CommandLine

/-! ## Definitions -/

/-- The state of a modelled host. -/
structure World where
  tree : FileTree
  subscriber : Option Log.Subscriber
  notices : List Notice
  stdout : String

namespace World

def start (t : FileTree) : World := ⟨t, none, [], ""⟩

/-- What a run leaves behind, but for the exit status. -/
def ofOutcome (o : Outcome) : World :=
  ⟨o.tree, o.subscriber, o.conclusion.notices, o.conclusion.stdout⟩

/-- The files as they are read. -/
def seen (w : World) (early : Bytes) : FileTree := Log.writeLog w.subscriber w.tree early

def hear (w : World) (notice : Notice) : World :=
  if passes w.subscriber notice then { w with notices := w.notices ++ [notice] } else w

/-- A host with the variables of an environment, where some text is in the log file when the report
is read. -/
def host (e : Environment) (early : Bytes) : Host (StateM World) where
  environment := pure e
  install c := do
    let w ← get
    let (setup, answer) := (Log.Setup.start w.tree).install c
    set { w with tree := setup.tree, subscriber := setup.subscriber }
    return (answer, setup.emitted)
  exists? path := return ((← get).seen early).exists? path
  read path := return ((← get).seen early).read path
  say notice := modify fun w => w.hear notice
  print text := modify fun w => { w with stdout := w.stdout ++ text }

end World

variable {e : Environment} {early : Bytes}

/-! ## 1. Several notices -/

theorem forM_say (notices : List Notice) (w : World) :
    (notices.forM (World.host e early).say).run w =
      ((), { w with notices := w.notices ++ notices.filter (passes w.subscriber) }) := by
  induction notices generalizing w with
  | nil =>
    rw [List.filter_nil, List.append_nil]
    rfl
  | cons notice rest ih =>
    have step : ((notice :: rest).forM (World.host e early).say).run w =
        (rest.forM (World.host e early).say).run (w.hear notice) := rfl
    rw [step, ih, World.hear, List.filter_cons]
    split
    · rw [List.append_assoc]
      rfl
    · rfl

theorem tell_host (c : Conclusion) (w : World) :
    ((World.host e early).tell c).run w = (c.status, { w with
      notices := w.notices ++ c.notices.filter (passes w.subscriber)
      stdout := w.stdout ++ c.stdout }) := by
  rw [Host.tell, StateT.run_bind, forM_say]
  rfl

/-! ## 2. A whole run -/

theorem filter_stopConclusion (p : Program) (stop : Stop) (subscriber : Option Log.Subscriber) :
    (stopConclusion p stop).notices.filter (passes subscriber) =
      (stopConclusion p stop).notices := by
  cases stop <;> rfl

/-- The steps of a program on a modelled host are its run. -/
theorem execute_host (e : Environment) (early : Bytes) (p : Program) (args : List Bytes)
    (t : FileTree) :
    let o := runAmid early p e args t
    (execute (World.host e early) p args).run (.start t) = (o.conclusion.status, .ofOutcome o) := by
  intro o
  cases parsed : arguments p args with
  | error stop =>
    have ended : o = ⟨stopConclusion p stop, none, t⟩ := by
      simp only [o, runAmid, runLooking, parsed]
    simp only [execute, parsed, tell_host, ended, World.ofOutcome, World.start]
    rw [filter_stopConclusion]
    simp
  | ok given =>
    let host := World.host e early
    let setup := (started e given t).1
    let opening := openingNotices p (started e given t).2 setup.emitted (settings e given).2
    let w : World := ⟨setup.tree, setup.subscriber, [], ""⟩
    let c := concluded p e given (w.seen early)
    have begun : (execute host p args).run (.start t) = (do
        opening.forM host.say
        let found ← host.exists? (given.report.getD [])
        let content ← host.read (given.report.getD [])
        host.tell (conclude p (settings e given).1.outputFormat.value given found content)).run w := by
      simp only [execute, parsed]
      rfl
    -- What is said before the report is read changes neither the files nor the subscriber.
    have told : (execute host p args).run (.start t) = (host.tell c).run
        { w with notices := w.notices ++ opening.filter (passes w.subscriber) } := by
      rw [begun, StateT.run_bind, forM_say]
      rfl
    have ended : o = ⟨{ c with notices := (opening ++ c.notices).filter (passes setup.subscriber) },
        setup.subscriber, setup.tree⟩ := by
      simp only [o, runAmid, runLooking, parsed]
      rfl
    rw [told, tell_host, ended, List.filter_append, World.ofOutcome]
    simp [w]

/-- If nothing is written to the log before the report is read, they are the usual run. -/
theorem execute_host_nil (e : Environment) (p : Program) (args : List Bytes) (t : FileTree) :
    let o := run p e args t
    (execute (World.host e []) p args).run (.start t) = (o.conclusion.status, .ofOutcome o) := by
  rw [← runAmid_nil]
  exact execute_host e [] p args t

end HealthReport.CommandLine
