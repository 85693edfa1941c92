import HealthReport.Proofs.Config.Dependence
import HealthReport.Proofs.Json.RoundTrip

/-!
# The stages of a run

A run that its arguments allow sets logging up and then concludes from the files as logging has
left them. What it concludes does not depend on logging in any other way, and what it says about
it comes after all that logging says.

Results:
1. `tree_run`, `conclusion_run`: a run is its set-up and then its conclusion.
2. `tree_run_of_withoutLogFile`, `tree_run_congr`: the files depend on the log file alone.
3. `stderr_run_of_text`: a text at the end of the conclusion ends the standard error stream.
4. `concluded_congr`, `run_of_same_start`: when two runs conclude the same, and say the same.
5. `loadReport_of_text`: a file with the text of a report holds that report.
-/
namespace HealthReport

namespace CommandLine

/-! ## Definitions -/

/-- The arguments ask for the same; they may log in different ways. -/
structure SameQuestion (given given' : Given) : Prop where
  report : given.report = given'.report
  scenario : given.scenario = given'.scenario
  list : given.list = given'.list
  format : given.format = given'.format

/-- What a run concludes from the files as they are when it looks at the report. -/
def concluded (p : Program) (e : Environment) (given : Given) (t : FileTree) : Conclusion :=
  conclude p (settings e given).1.outputFormat.value given (t.exists? (given.report.getD []))
    (t.read (given.report.getD []))

theorem exitStatus_loadFault (fault : LoadFault) : fault.code.exitStatus = 1 := by
  cases fault <;> rfl

variable {p : Program} {e e' : Environment} {args args' : List Bytes} {given given' : Given}
  {t : FileTree}

/-! ## 1. Set-up and conclusion -/

theorem tree_run (accepted : arguments p args = .ok given) :
    (run p e args t).tree = (started e given t).1.tree := by
  simp only [run, runLooking, accepted]

theorem subscriber_run (accepted : arguments p args = .ok given) :
    (run p e args t).subscriber = (started e given t).1.subscriber := by
  simp only [run, runLooking, accepted]

/-- A run concludes from the files as they look when it reads the report. The notices of the set-up
go first. -/
theorem conclusion_runLooking (look : Log.Setup → FileTree)
    (accepted : arguments p args = .ok given) :
    (runLooking look p e args t).conclusion =
      { concluded p e given (look (started e given t).1) with
        notices := (allNotices p (started e given t).2 (started e given t).1.emitted
          (settings e given).2 (concluded p e given (look (started e given t).1))).filter
            (passes (started e given t).1.subscriber) } := by
  simp only [runLooking, accepted, concluded]

/-- The conclusion of a run, with those of its notices that get through: the ones of the set-up
first. -/
theorem conclusion_run (accepted : arguments p args = .ok given) :
    (run p e args t).conclusion =
      { concluded p e given (run p e args t).tree with
        notices := (allNotices p (started e given t).2 (started e given t).1.emitted
          (settings e given).2 (concluded p e given (run p e args t).tree)).filter
            (passes (started e given t).1.subscriber) } := by
  rw [tree_run accepted]
  exact conclusion_runLooking _ accepted

theorem status_run (accepted : arguments p args = .ok given) :
    (run p e args t).conclusion.status =
      (concluded p e given (run p e args t).tree).status := by
  rw [conclusion_run accepted]

theorem stdout_run (accepted : arguments p args = .ok given) :
    (run p e args t).conclusion.stdout =
      (concluded p e given (run p e args t).tree).stdout := by
  rw [conclusion_run accepted]

/-! ## 2. The files -/

/-- Of a configuration only the path of the log file matters to how it is opened. -/
theorem openLog_congr {c c' : LogConfig} (same : c.file = c'.file) (t : FileTree) :
    Log.Setup.openLog t c = Log.Setup.openLog t c' := by
  rw [Log.Setup.openLog, Log.Setup.openLog, same]

theorem tree_run_eq_openLog (accepted : arguments p args = .ok given) :
    (run p e args t).tree =
      (Log.Setup.openLog t (logConfig (settings e given).1 given)).1 := by
  obtain ⟨filter, -, start⟩ := started_eq e given t
  rw [tree_run accepted, start]

/-- A run without a log file leaves the files as they are. -/
theorem tree_run_of_withoutLogFile (accepted : arguments p args = .ok given)
    (unlogged : WithoutLogFile e given.logFile) : (run p e args t).tree = t := by
  have none := (logFile_eq_none_iff e given).2 unlogged
  rw [tree_run_eq_openLog accepted, Log.Setup.openLog, none]

/-- Two runs with the same log file leave the same files. -/
theorem tree_run_congr (accepted : arguments p args = .ok given)
    (accepted' : arguments p args' = .ok given')
    (flag : given.logFile = given'.logFile)
    (same : e.bytes? "MELISAI_LOG_FILE" = e'.bytes? "MELISAI_LOG_FILE") :
    (run p e args t).tree = (run p e' args' t).tree := by
  rw [tree_run_eq_openLog accepted, tree_run_eq_openLog accepted']
  exact congrArg Prod.fst (openLog_congr (logFile_congr flag same) t)

/-! ## 3. The standard error stream -/

/-- A text always gets through, and nothing is said after the conclusion. -/
theorem stderr_run_of_text (accepted : arguments p args = .ok given) (others : List Notice)
    {words : String}
    (said : (concluded p e given (run p e args t).tree).notices = others ++ [.text words])
    (stamp : Log.Stamp) : ∃ before, (run p e args t).stderr stamp = before ++ words := by
  have last : ∃ kept, (run p e args t).conclusion.notices = kept ++ [.text words] := by
    rw [conclusion_run accepted, allNotices, said, ← List.append_assoc, List.filter_append]
    exact ⟨_, rfl⟩
  obtain ⟨kept, last⟩ := last
  refine ⟨String.join (kept.map ((run p e args t).noticeText stamp)), ?_⟩
  rw [Outcome.stderr, last, List.map_append, String.join_append]
  rfl

/-! ## 4. Two runs -/

theorem conclude_congr (same : SameQuestion given given') (format : OutputFormat) (found : Bool)
    (content : Except FileFault Bytes) :
    conclude p format given found content = conclude p format given' found content := by
  cases p with
  | verifyReport => rw [conclude, conclude, same.report]
  | checkDetection =>
    rw [conclude, conclude, detect, detect, same.report, same.scenario, same.list]

/-- The conclusion depends on what is asked for, on the format and on the files. -/
theorem concluded_congr (same : SameQuestion given given')
    (format : (settings e given).1.outputFormat.value = (settings e' given').1.outputFormat.value) :
    concluded p e given t = concluded p e' given' t := by
  rw [concluded, concluded, format, same.report, conclude_congr same]

/-- Two runs that are set up alike and conclude the same say the same. -/
theorem run_of_same_start {u : FileTree} (accepted : arguments p args = .ok given)
    (subscriber : (started e given t).1.subscriber = (started e given u).1.subscriber)
    (emitted : (started e given t).1.emitted = (started e given u).1.emitted)
    (answer : (started e given t).2 = (started e given u).2)
    (same : concluded p e given (run p e args t).tree =
      concluded p e given (run p e args u).tree) :
    (run p e args t).conclusion = (run p e args u).conclusion ∧
      ∀ stamp, (run p e args t).stderr stamp = (run p e args u).stderr stamp := by
  have conclusion : (run p e args t).conclusion = (run p e args u).conclusion := by
    rw [conclusion_run accepted, conclusion_run accepted, subscriber, emitted, answer, same]
  have listener : (run p e args t).subscriber = (run p e args u).subscriber := by
    rw [subscriber_run accepted, subscriber_run accepted, subscriber]
  refine ⟨conclusion, fun stamp => ?_⟩
  have text : (run p e args t).noticeText stamp = (run p e args u).noticeText stamp := by
    funext notice
    cases notice with
    | text s => rfl
    | record r => rw [Outcome.noticeText, Outcome.noticeText, listener]
  rw [Outcome.stderr, Outcome.stderr, conclusion, text]

end CommandLine

/-! ## 5. Reports in files -/

theorem Report.read_text {r : Report} (ordinary : r.root.IsOrdinary Reader.depthLimit) :
    read r.root.text = .ok r := by
  have parsed : Json.read r.root.text = .ok r.root := Json.read_text ordinary
  unfold read
  split
  · rename_i root h
    rw [parsed] at h
    cases h
    rfl
  · rename_i error h
    rw [parsed] at h
    cases h

namespace FileTree

theorem loadReport_of_text {t : FileTree} {path : Path} {r : Report}
    (held : t.read path = .ok (Utf8.encode r.root.text))
    (ordinary : r.root.IsOrdinary Reader.depthLimit) : t.loadReport path = .ok r := by
  rw [loadReport, held]
  simp only [Report.ofFile, Utf8.decode?_encode, Report.read_text ordinary]

/-- The file system with the report alone, in the file `r`. -/
def ofReport (r : Report) : FileTree := ⟨[([[0x72]], .file (Utf8.encode r.root.text))], []⟩

theorem loadReport_ofReport {r : Report} (ordinary : r.root.IsOrdinary Reader.depthLimit) :
    (ofReport r).loadReport [0x72] = .ok r :=
  loadReport_of_text rfl ordinary

end FileTree

end HealthReport
