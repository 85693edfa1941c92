import HealthReport.Proofs.CommandLine.LoadFault
import HealthReport.Proofs.Files.Growth

/-!
# The log file and the report

The log file is made before the report is looked for, and so are the directories above it, even
where the file itself cannot be opened then. And lines about faults of the environment may be in the
log before the report is read. The result of a run stays the same unless something new stands where
the path of the report looks, or the path leads to the log file and there are such lines.

Results:
1. `concluded_of_find`: the result hangs on what the path of the report leads to.
2. `records_run`, `runAmid_nil`, `find_lookedAt`: which lines may be in the log before the report is
   read, and what they do to a path.
3. `LeavesAlone.of_leads`: a report that is there is left alone if no variable is faulty.
4. `run_of_logFile`: a log file that leaves the report alone does not change the result.
5. `run_disturbed_by_logFile`, `run_disturbed_by_line`: a log file that cannot be opened changes the
   exit status, and so does a line in the log.
-/
namespace HealthReport

namespace FileTree

/-! ## Definitions -/

/-- Where the path looks and found nothing before, there is nothing now. -/
def Undisturbed (t u : FileTree) (path : Path) : Prop :=
  ∀ place, t.LooksAt path place → t.node? place = none → u.node? place = none

variable {t u : FileTree} {path : Path}

/-- A path that leads to something is never disturbed. -/
theorem Leads.undisturbed (present : t.Leads path) : t.Undisturbed u path := by
  intro place looks free
  obtain ⟨node, found⟩ := present
  exact absurd free (occupied_of_find found looks)

theorem exists?_congr (same : u.find path = t.find path) : u.exists? path = t.exists? path := by
  rw [exists?, exists?, same]

theorem read_congr (same : u.find path = t.find path) : u.read path = t.read path := by
  rw [read, read, same]

/-- A file system with nothing but a file or an empty directory. -/
theorem isTree_alone (name : Bytes) (node : Node) : IsTree ⟨[([name], node)], []⟩ where
  workingDirectory := rfl
  above := by
    intro other place held
    rw [node?, List.lookup_cons] at held
    cases same : (other :: place == [name]) with
    | true =>
      cases eq_of_beq same
      rfl
    | false => simp [same] at held

end FileTree

namespace CommandLine

/-- The files of a run when it reads the report, with some text in the log. -/
def lookedAt (e : Environment) (given : Given) (t : FileTree) (early : Bytes) : FileTree :=
  Log.writeLog (started e given t).1.subscriber (started e given t).1.tree early

/-- Logging leaves alone what the path leads to: where the path looks it makes nothing, and if the
path leads to the log file, nothing is logged before the report is read. -/
structure LeavesAlone (p : Program) (e : Environment) (given : Given) (t : FileTree) (path : Path) :
    Prop where
  undisturbed : t.Undisturbed (started e given t).1.tree path
  unwritten : ∀ place, (started e given t).1.subscriber.bind (·.file) = some place →
    (started e given t).1.tree.locate path = .ok place → earlyRecords p e given t = []

variable {p : Program} {e e' : Environment} {args args' : List Bytes} {given given' : Given}
  {t u : FileTree} {path : Path} {early : Bytes} {o o' : Outcome}

/-! ## 1. The result and the report -/

/-- A scenario that does not exist is refused, and the report only decides with which words. -/
theorem concluded_of_no_scenario {name : String} (unasked : given.list = false)
    (report : given.report = some path) (scenario : given.scenario = some name)
    (unknown : ∀ s : Scenario, s.name ≠ name) :
    (concluded .checkDetection e given t).status = 2 ∧
      (concluded .checkDetection e given t).stdout = "" := by
  by_cases present : t.Leads path
  · rw [concluded_of_unknown unasked report scenario present unknown]
    exact ⟨rfl, rfl⟩
  · rw [concluded_of_absent unasked report scenario present]
    exact ⟨rfl, rfl⟩

/-- The result hangs on what the path of the report leads to, if it hangs on the files at all. -/
theorem concluded_of_find (reported : p = .verifyReport → given.report ≠ none)
    (same : ∀ path, Consults given p path → u.find path = t.find path) :
    (concluded p e given u).status = (concluded p e given t).status ∧
      (concluded p e given u).stdout = (concluded p e given t).stdout := by
  cases p with
  | verifyReport =>
    obtain ⟨path, report⟩ := Option.ne_none_iff_exists'.1 (reported rfl)
    rw [concluded_verifyReport report, concluded_verifyReport report,
      FileTree.read_congr (same path (.verifyReport report))]
    exact ⟨rfl, rfl⟩
  | checkDetection =>
    cases asked : given.list with
    | true =>
      rw [concluded_of_listed asked, concluded_of_listed asked]
      exact ⟨rfl, rfl⟩
    | false =>
      by_cases lacking : given.report = none ∨ given.scenario = none
      · rw [concluded_of_lacking asked lacking, concluded_of_lacking asked lacking]
        exact ⟨rfl, rfl⟩
      rw [not_or] at lacking
      obtain ⟨path, report⟩ := Option.ne_none_iff_exists'.1 lacking.1
      obtain ⟨name, scenario⟩ := Option.ne_none_iff_exists'.1 lacking.2
      by_cases known : ∃ s : Scenario, s.name = name
      · obtain ⟨s, rfl⟩ := known
        have found := same path (.checkDetection s asked report scenario)
        rw [concluded, concluded, report, Option.getD_some,
          FileTree.exists?_congr found, FileTree.read_congr found]
        exact ⟨rfl, rfl⟩
      · have unknown : ∀ s : Scenario, s.name ≠ name := fun s named => known ⟨s, named⟩
        obtain ⟨status, stdout⟩ := @concluded_of_no_scenario e given t path name asked report
          scenario unknown
        obtain ⟨status', stdout'⟩ := @concluded_of_no_scenario e given u path name asked report
          scenario unknown
        exact ⟨status'.trans status.symm, stdout'.trans stdout.symm⟩

/-! ## 2. Lines that are in the log -/

theorem find_writeLog {subscriber : Option Log.Subscriber}
    (idle : ∀ place, subscriber.bind (·.file) = some place → t.locate path = .ok place →
      early = []) :
    (Log.writeLog subscriber t early).find path = t.find path := by
  rw [Log.writeLog]
  cases opened : subscriber.bind (·.file) with
  | none => rfl
  | some place => exact FileTree.find_append (idle place opened)

/-- A run concludes from the files with the text in the log. -/
theorem runAmid_of_arguments (accepted : arguments p args = .ok given) :
    (runAmid early p e args t).conclusion.status =
        (concluded p e given (lookedAt e given t early)).status ∧
      (runAmid early p e args t).conclusion.stdout =
        (concluded p e given (lookedAt e given t early)).stdout := by
  rw [runAmid, conclusion_runLooking _ accepted]
  exact ⟨rfl, rfl⟩

/-- What is logged before the report is read begins the log of the whole run. -/
theorem records_run (accepted : arguments p args = .ok given) :
    ∃ later, (run p e args t).conclusion.notices.filterMap Notice.record? =
      earlyRecords p e given t ++ later := by
  rw [conclusion_run accepted, allNotices, List.filter_append, List.filterMap_append]
  exact ⟨_, rfl⟩

/-- If nothing has been written to the log, the run is the usual one. -/
theorem runAmid_nil (p : Program) (e : Environment) (args : List Bytes) (t : FileTree) :
    runAmid [] p e args t = run p e args t := by
  have same : ∀ setup : Log.Setup, ∀ path,
      (Log.writeLog setup.subscriber setup.tree []).find path = setup.tree.find path :=
    fun setup path => find_writeLog fun _ _ _ => rfl
  rw [runAmid, run, runLooking, runLooking]
  cases arguments p args with
  | error stop => rfl
  | ok given =>
    simp only [FileTree.exists?_congr (same _ _), FileTree.read_congr (same _ _)]

/-- The usual run is one way to end. -/
theorem mayEnd_run (p : Program) (e : Environment) (args : List Bytes) (t : FileTree) :
    MayEnd p e args t (run p e args t) :=
  ⟨[], fun _ _ => ⟨fun _ => .ofTime "", List.nil_prefix⟩, (runAmid_nil p e args t).symm⟩

theorem eq_nil_of_begins (begins : Begins early []) : early = [] := by
  obtain ⟨_, some_lines⟩ := begins
  exact List.prefix_nil.1 some_lines

/-- Without a log file there is nothing to write to. -/
theorem lookedAt_of_withoutLogFile (unlogged : WithoutLogFile e given.logFile) :
    lookedAt e given t early = t := by
  have none := (logFile_eq_none_iff e given).2 unlogged
  obtain ⟨filter, -, start⟩ := started_eq e given t
  rw [lookedAt, start, Log.Setup.openLog, none]
  rfl

/-- What is left alone is found as it was. -/
theorem find_lookedAt (tree : t.IsTree) (alone : LeavesAlone p e given t path)
    (begins : Begins early (earlyRecords p e given t)) :
    (lookedAt e given t early).find path = t.find path := by
  have grown : FileTree.Grown t (started e given t).1.tree := FileTree.grown_install tree _
  rw [lookedAt, find_writeLog, grown.find_eq alone.undisturbed]
  intro place opened led
  rw [alone.unwritten place opened led] at begins
  exact eq_nil_of_begins begins

/-! ## 3. When nothing is logged -/

/-- A log file that has been opened needs no record about it. -/
theorem openingRecords_of_opened {c : LogConfig} {filter : Log.Filter}
    {went : Option (Except Log.FileProblem Location)} {place : Location}
    (opened : (Log.Subscriber.ofConfig c filter went).file = some place) :
    Log.Setup.openingRecords went = [] := by
  match went with
  | none => rfl
  | some (.ok _) => rfl
  | some (.error _) => cases opened

/-- A report that is there is left alone if no variable is faulty. -/
theorem LeavesAlone.of_leads (present : t.Leads path) (clean : (settings e given).2 = []) :
    LeavesAlone p e given t path where
  undisturbed := present.undisturbed
  unwritten := by
    intro place opened _
    obtain ⟨filter, -, start⟩ := started_eq e given t
    rw [start] at opened
    simp only [earlyRecords, start, clean, openingNotices, openingRecords_of_opened opened]
    rfl

/-! ## 4. Runs with and without a log file -/

/-- With a log file, be it named by a flag or by the variable, a run ends as without one if logging
leaves the report alone. Wherever the lines of the log are when the report is read, the result is
the same. The file system has directories and regular files alone; a log file that is a device can
be the standard output stream itself. -/
theorem run_of_logFile (tree : t.IsTree) (accepted : arguments p args = .ok given)
    (accepted' : arguments p args' = .ok given') (unlogged : WithoutLogFile e given.logFile)
    (flags : given' = { given with logFile := given'.logFile })
    (agree : e.AgreeExcept ["MELISAI_LOG_FILE"] e')
    (alone : ∀ path, Consults given p path → LeavesAlone p e' given' t path)
    (ends : MayEnd p e args t o) (ends' : MayEnd p e' args' t o') :
    o'.conclusion.status = o.conclusion.status ∧ o'.conclusion.stdout = o.conclusion.stdout := by
  obtain ⟨early, -, rfl⟩ := ends
  obtain ⟨early', begins, rfl⟩ := ends'
  have same : SameQuestion given given' := by
    rw [flags]
    exact ⟨rfl, rfl, rfl, rfl⟩
  have alike : ∀ u, concluded p e' given' u = concluded p e given u := fun u =>
    (concluded_congr same (outputFormat_congr same.format (agree _ (by decide)))).symm
  have reported : p = .verifyReport → given.report ≠ none := by
    rintro rfl
    obtain ⟨path, report⟩ := report_of_arguments accepted
    rw [report]
    nofun
  obtain ⟨status, stdout⟩ := @runAmid_of_arguments p e args given t early accepted
  obtain ⟨status', stdout'⟩ := @runAmid_of_arguments p e' args' given' t early' accepted'
  rw [status, stdout, status', stdout', alike, lookedAt_of_withoutLogFile unlogged]
  exact concluded_of_find reported fun path consults =>
    find_lookedAt tree (alone path consults) (begins given' accepted')

/-- The file system has one report alone, which has what a scenario asks for. -/
def observedAlone : FileTree := .ofReport observed

/-- The environment asks for a format that does not exist, which is logged. -/
def askFormat : Environment := Environment.empty.set "MELISAI_OUTPUT_FORMAT" (Utf8.encode "xml")

/-- Every line begins with a brace, so the brace may be in the log alone. -/
theorem begins_brace {records : List Log.Record} (logged : records ≠ []) :
    Begins [0x7B] records := by
  obtain ⟨r, rest, rfl⟩ := List.exists_cons_of_ne_nil logged
  obtain ⟨others, line⟩ : ∃ others, (r.line (.ofTime "")).toList = '\x7b' :: others := by
    rw [Log.Record.line, String.toList_append, Json.text, String.toList_ofList]
    exact ⟨_, rfl⟩
  refine ⟨fun _ => .ofTime "", ?_⟩
  rw [List.mapIdx_cons, String.join_cons, Utf8.encode, String.toList_append, line]
  exact ⟨_, rfl⟩

/-- A report gives the same result with the beginning of a line about the format in a log file
beside it, and, if nothing is faulty, with the log in the report itself. -/
theorem run_of_logFile_of_report :
    let given := { Given.none with report := some [0x72] }
    let beside := { given with logFile := some [0x6C] }
    let within := { given with logFile := some [0x72] }
    let args := [[0x72]]
    let argsBeside := [Utf8.encode "--log-file=l", [0x72]]
    let argsWithin := [Utf8.encode "--log-file=r", [0x72]]
    let o e args := run .verifyReport e args observedAlone
    let o' := runAmid [0x7B] .verifyReport askFormat argsBeside observedAlone
    observedAlone.IsTree ∧ arguments .verifyReport args = .ok given ∧
      arguments .verifyReport argsBeside = .ok beside ∧
      arguments .verifyReport argsWithin = .ok within ∧
      earlyRecords .verifyReport askFormat beside observedAlone ≠ [] ∧
      MayEnd .verifyReport askFormat argsBeside observedAlone o' ∧
      (o'.conclusion.status = (o askFormat args).conclusion.status ∧
        o'.conclusion.stdout = (o askFormat args).conclusion.stdout) ∧
      (o .empty argsWithin).conclusion.status = (o .empty args).conclusion.status ∧
        (o .empty argsWithin).conclusion.stdout = (o .empty args).conclusion.stdout := by
  intro given beside within args argsBeside argsWithin o o'
  have tree : observedAlone.IsTree := FileTree.isTree_alone _ _
  have accepted : arguments .verifyReport args = .ok given := rfl
  have besides : arguments .verifyReport argsBeside = .ok beside := by decide +kernel
  have withins : arguments .verifyReport argsWithin = .ok within := by decide +kernel
  have unlogged : ∀ value, WithoutLogFile (Environment.empty.set "MELISAI_OUTPUT_FORMAT" value)
      given.logFile := fun value => ⟨rfl, fun _ _ set => nomatch set⟩
  have unlogged' : WithoutLogFile .empty given.logFile := ⟨rfl, fun _ _ set => nomatch set⟩
  have present : observedAlone.Leads [0x72] := ⟨_, rfl⟩
  have logged : earlyRecords .verifyReport askFormat beside observedAlone ≠ [] := by
    decide +kernel
  have ends : MayEnd .verifyReport askFormat argsBeside observedAlone o' := by
    refine ⟨[0x7B], fun other accepted' => ?_, rfl⟩
    rw [besides] at accepted'
    cases accepted'
    exact begins_brace logged
  have apart : ∀ path, Consults given .verifyReport path →
      LeavesAlone .verifyReport askFormat beside observedAlone path := by
    rintro path ⟨report⟩
    cases report
    refine ⟨present.undisturbed, fun place opened led => ?_⟩
    -- The log is in the file `l`, and the path still leads to the file `r`.
    let setup := (started askFormat beside observedAlone).1
    have log : setup.subscriber.bind (·.file) = some [[0x6C]] := by decide +kernel
    have report : setup.tree.locate [0x72] = .ok [[0x72]] := by decide +kernel
    cases log.symm.trans opened
    cases report.symm.trans led
  have clean : ∀ path, Consults given .verifyReport path →
      LeavesAlone .verifyReport .empty within observedAlone path := by
    rintro path ⟨report⟩
    cases report
    exact .of_leads present rfl
  refine ⟨tree, accepted, besides, withins, logged, ends, ?_, ?_⟩
  · exact run_of_logFile tree accepted besides (unlogged _) rfl (fun _ _ => rfl) apart
      (mayEnd_run _ _ _ _) ends
  · exact run_of_logFile tree accepted withins unlogged' rfl (fun _ _ => rfl) clean
      (mayEnd_run _ _ _ _) (mayEnd_run _ _ _ _)

/-! ## 5. A report that is disturbed -/

/-- The arguments ask for a report that does not exist. -/
def askAbsent : List Bytes := [Utf8.encode "new", Utf8.encode Scenario.cpuBurn.name]

/-- The path of a log file that cannot be opened, since it leads to a directory. On the way there
the directory `new` is made. -/
def throughNew : Path := Utf8.encode "new/../d"

/-- Without a log file the report is not found. With one that cannot be opened it is, as the
directory that has been made for the log file. -/
theorem run_disturbed_by_logFile :
    let given := { Given.none with
      report := some (Utf8.encode "new"), scenario := some Scenario.cpuBurn.name }
    let args' := (Utf8.encode "--log-file=" ++ throughNew) :: askAbsent
    directoryAlone.IsTree ∧ arguments .checkDetection askAbsent = .ok given ∧
      arguments .checkDetection args' = .ok { given with logFile := some throughNew } ∧
      WithoutLogFile .empty given.logFile ∧
      (Log.openFile directoryAlone throughNew).2 = .error (.file throughNew .isDirectory) ∧
      (run .checkDetection .empty askAbsent directoryAlone).conclusion.status = 2 ∧
      (run .checkDetection .empty args' directoryAlone).conclusion.status = 1 := by
  refine ⟨FileTree.isTree_alone _ _, ?_, ?_, ⟨rfl, fun value text set => nomatch set⟩, ?_, ?_, ?_⟩
  · decide +kernel
  · decide +kernel
  · decide +kernel
  · decide +kernel
  · decide +kernel

/-- The report is the log file, and the format is faulty. The usual run finds the scenario; with the
beginning of the line about the format behind the report there is nothing to be read. -/
theorem run_disturbed_by_line :
    let name := Scenario.observerEffect.name
    let given := { Given.none with
      report := some [0x72], scenario := some name, logFile := some [0x72] }
    let args := [Utf8.encode "--log-file=r", [0x72], Utf8.encode name]
    arguments .checkDetection args = .ok given ∧
      Begins [0x7B] (earlyRecords .checkDetection askFormat given observedAlone) ∧
      (run .checkDetection askFormat args observedAlone).conclusion.status = 0 ∧
      (runAmid [0x7B] .checkDetection askFormat args observedAlone).conclusion.status = 1 := by
  refine ⟨?_, begins_brace ?_, ?_, ?_⟩
  · decide +kernel
  · decide +kernel
  · decide +kernel
  · decide +kernel

end CommandLine

end HealthReport
