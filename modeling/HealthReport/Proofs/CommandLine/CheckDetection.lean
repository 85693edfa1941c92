import HealthReport.Proofs.CommandLine.Stages
import HealthReport.Proofs.Detection.Signature
import HealthReport.Proofs.Files.Shape

/-!
# A run of `check-detection`

What a caller can rely on: which of several causes decides how the run ends, and that a wrong
invocation is told without a look into any file.

Results:
1. `concluded_of_listed` to `concluded_of_scenario`: what is concluded, cause by cause, and
   `concludes`: that these are all causes.
2. `ending_run`: the first cause that applies decides how a run ends.
3. `of_refusal`: a wrong invocation does not hang on the content of any file.
4. `run_checkDetection`: both for a whole run.
-/
namespace HealthReport

/-! ## Definitions -/

/-- The names of all scenarios, each once, in ascending order. -/
structure Scenario.IsListing (names : List String) : Prop where
  ascending : names.Pairwise (· < ·)
  complete : ∀ name, name ∈ names ↔ ∃ s : Scenario, s.name = name

/-- The path leads to a file or a directory. -/
def FileTree.Leads (t : FileTree) (path : Path) : Prop := ∃ node, t.find path = .ok node

namespace CommandLine

/-- The run refuses its arguments: nothing is written but some words and the catalog entry of a
code, at the end of the standard error stream. -/
structure Refuses (o : Outcome) (code : ErrorCode) (words : String) : Prop where
  status : o.conclusion.status = 2
  stdout : o.conclusion.stdout = ""
  stderr : ∀ stamp, ∃ before, o.stderr stamp = before ++ (words ++ code.entry.full)

/-- What is concluded from the files as they are in the tree. -/
inductive Concludes (e : Environment) (given : Given) (t : FileTree) : Conclusion → Prop
  | listed (asked : given.list = true) : Concludes e given t ⟨0, scenarioList, []⟩
  | lacking (unasked : given.list = false)
      (lacking : given.report = none ∨ given.scenario = none) :
      Concludes e given t
        (usageFailure ("Usage: check-detection <report.json> <test_name>\nAvailable tests: " ++
          ", ".intercalate Scenario.sortedNames ++ "\n") .badArguments)
  | absent {path : Path} {name : String} (unasked : given.list = false)
      (report : given.report = some path) (scenario : given.scenario = some name)
      (absent : ¬ t.Leads path) :
      Concludes e given t
        (usageFailure ("ERROR: " ++ Report.absentMessage path ++ "\n") .reportNotFound)
  | unknown {path : Path} {name : String} (unasked : given.list = false)
      (report : given.report = some path) (scenario : given.scenario = some name)
      (present : t.Leads path) (unknown : ∀ s : Scenario, s.name ≠ name) :
      Concludes e given t
        (usageFailure ("ERROR: " ++ Scenario.unknownMessage name ++ "\n") .unknownScenario)
  | unread {path : Path} {s : Scenario} {fault : LoadFault} (unasked : given.list = false)
      (report : given.report = some path) (scenario : given.scenario = some s.name)
      (present : t.Leads path) (failed : t.loadReport path = .error fault) :
      Concludes e given t
        ⟨fault.code.exitStatus, "", [.text ("ERROR: " ++ fault.message ++ "\n")]⟩
  | ran {path : Path} {s : Scenario} {loaded : Report} (unasked : given.list = false)
      (report : given.report = some path) (scenario : given.scenario = some s.name)
      (present : t.Leads path) (read : t.loadReport path = .ok loaded) (stdout : String)
      (records : List Log.Record) :
      Concludes e given t ⟨(s.run loaded).exitStatus, stdout, records.map Notice.record⟩

/-- How a run ends that finds the files as they are in the tree: each cause comes with the denial
of those that go before it. -/
inductive Ending (t : FileTree) (given : Given) (o : Outcome) : Prop
  | listed (names : List String) (asked : given.list = true)
      (listing : Scenario.IsListing names) (status : o.conclusion.status = 0)
      (stdout : o.conclusion.stdout = String.join (names.map (· ++ "\n")))
  | lacking (unasked : given.list = false)
      (lacking : given.report = none ∨ given.scenario = none) (words : String)
      (refuses : Refuses o .badArguments words)
  | absent (path : Path) (name : String) (unasked : given.list = false)
      (report : given.report = some path) (scenario : given.scenario = some name)
      (absent : ¬ t.Leads path)
      (refuses : Refuses o .reportNotFound ("ERROR: report not found: " ++ path.shown ++ "\n"))
  | unknown (path : Path) (name words : String) (unasked : given.list = false)
      (report : given.report = some path) (scenario : given.scenario = some name)
      (present : t.Leads path) (unknown : ∀ s : Scenario, s.name ≠ name)
      (refuses : Refuses o .unknownScenario words)
  | unread (path : Path) (s : Scenario) (fault : LoadFault) (unasked : given.list = false)
      (report : given.report = some path) (scenario : given.scenario = some s.name)
      (present : t.Leads path) (failed : t.loadReport path = .error fault)
      (status : o.conclusion.status = 1)
  | matched (path : Path) (s : Scenario) (loaded : Report) (unasked : given.list = false)
      (report : given.report = some path) (scenario : given.scenario = some s.name)
      (present : t.Leads path) (read : t.loadReport path = .ok loaded)
      (passed : ∀ c ∈ s.checks loaded, c.passed = true) (status : o.conclusion.status = 0)
  | unmatched (path : Path) (s : Scenario) (loaded : Report) (unasked : given.list = false)
      (report : given.report = some path) (scenario : given.scenario = some s.name)
      (present : t.Leads path) (read : t.loadReport path = .ok loaded)
      (failed : ∃ c ∈ s.checks loaded, c.passed = false) (status : o.conclusion.status = 1)

end CommandLine

/-! ## 1. Scenarios and paths -/

theorem FileTree.exists?_iff {t : FileTree} {path : Path} :
    t.exists? path = true ↔ t.Leads path := by
  rw [exists?, Leads]
  cases t.find path with
  | ok node => exact iff_of_true rfl ⟨node, rfl⟩
  | error fault =>
    refine iff_of_false Bool.false_ne_true ?_
    rintro ⟨node, found⟩
    cases found

namespace Scenario

theorem mem_all (s : Scenario) : s ∈ all := by
  cases s <;> decide

theorem ofName?_eq_some_iff {name : String} {s : Scenario} :
    ofName? name = some s ↔ s.name = name := by
  constructor
  · intro found
    have same := List.find?_some found
    exact eq_of_beq same
  · rintro rfl
    exact ofName?_name s

theorem ofName?_eq_none_iff {name : String} :
    ofName? name = none ↔ ∀ s : Scenario, s.name ≠ name := by
  rw [Option.eq_none_iff_forall_ne_some]
  exact forall_congr' fun s => not_congr ofName?_eq_some_iff

theorem isListing_sortedNames : IsListing sortedNames where
  ascending := by
    have sorted : sortedNames.Pairwise fun a b => decide (a ≤ b) = true := by
      refine List.pairwise_mergeSort (fun a b c first second => ?_) (fun a b => ?_) _
      · rw [decide_eq_true_eq] at first second ⊢
        exact String.le_trans first second
      · rw [Bool.or_eq_true, decide_eq_true_eq, decide_eq_true_eq]
        exact String.le_total a b
    have apart : sortedNames.Nodup := (List.mergeSort_perm _ _).nodup_iff.2 (by decide)
    refine (sorted.and apart).imp fun {a b} both => ?_
    obtain ⟨le, ne⟩ := both
    by_contra notLess
    exact ne (String.le_antisymm (of_decide_eq_true le) (String.not_lt.1 notLess))
  complete name := by
    rw [sortedNames, List.mem_mergeSort, List.mem_map]
    exact exists_congr fun s => and_iff_right (mem_all s)

/-- A scenario that does not end with status 0 ends with 1, and some check has failed. -/
theorem exitStatus_run_of_failed {s : Scenario} {r : Report}
    (failed : ¬ ∀ c ∈ s.checks r, c.passed = true) :
    (s.run r).exitStatus = 1 ∧ ∃ c ∈ s.checks r, c.passed = false := by
  constructor
  · rw [← exitStatus_run] at failed
    unfold Verdict.exitStatus at failed ⊢
    split at failed
    · exact absurd rfl failed
    · rename_i unmatched
      rw [if_neg unmatched]
      rfl
  · simpa using failed

end Scenario

namespace CommandLine

variable {e : Environment} {given : Given} {t : FileTree} {path : Path}

/-! ## 2. What is concluded -/

theorem concluded_of_listed (asked : given.list = true) :
    concluded .checkDetection e given t = ⟨0, scenarioList, []⟩ := by
  rw [concluded, conclude, detect, asked, if_pos rfl]

theorem concluded_of_lacking (unasked : given.list = false)
    (lacking : given.report = none ∨ given.scenario = none) :
    concluded .checkDetection e given t =
      usageFailure ("Usage: check-detection <report.json> <test_name>\nAvailable tests: " ++
        ", ".intercalate Scenario.sortedNames ++ "\n") .badArguments := by
  rw [concluded, conclude, detect, unasked, if_neg Bool.false_ne_true]
  obtain report | scenario := lacking
  · rw [report]
  · rw [scenario]
    cases given.report <;> rfl

theorem concluded_of_absent {name : String} (unasked : given.list = false)
    (report : given.report = some path) (scenario : given.scenario = some name)
    (absent : ¬ t.Leads path) :
    concluded .checkDetection e given t =
      usageFailure ("ERROR: " ++ Report.absentMessage path ++ "\n") .reportNotFound := by
  have missing : t.exists? path = false := by
    rw [← Bool.not_eq_true, FileTree.exists?_iff]
    exact absent
  rw [concluded, conclude, detect, unasked, if_neg Bool.false_ne_true, report, scenario,
    Option.getD_some, missing]
  rfl

theorem concluded_of_unknown {name : String} (unasked : given.list = false)
    (report : given.report = some path) (scenario : given.scenario = some name)
    (present : t.Leads path) (unknown : ∀ s : Scenario, s.name ≠ name) :
    concluded .checkDetection e given t =
      usageFailure ("ERROR: " ++ Scenario.unknownMessage name ++ "\n") .unknownScenario := by
  rw [concluded, conclude, detect, unasked, if_neg Bool.false_ne_true, report, scenario,
    Option.getD_some, FileTree.exists?_iff.2 present]
  simp only [Scenario.ofName?_eq_none_iff.2 unknown]
  rfl

theorem concluded_of_scenario {s : Scenario} (unasked : given.list = false)
    (report : given.report = some path) (scenario : given.scenario = some s.name)
    (present : t.Leads path) :
    concluded .checkDetection e given t =
      detectIn (settings e given).1.outputFormat.value path s (t.read path) := by
  rw [concluded, conclude, detect, unasked, if_neg Bool.false_ne_true, report, scenario,
    Option.getD_some, FileTree.exists?_iff.2 present]
  simp only [Scenario.ofName?_name]
  rfl

theorem detectIn_of_fault {format : OutputFormat} {s : Scenario} {fault : LoadFault}
    (failed : t.loadReport path = .error fault) :
    detectIn format path s (t.read path) =
      ⟨fault.code.exitStatus, "", [.text ("ERROR: " ++ fault.message ++ "\n")]⟩ := by
  rw [FileTree.loadReport] at failed
  rw [detectIn, failed]

theorem detectIn_of_report {format : OutputFormat} {s : Scenario} {report : Report}
    (loaded : t.loadReport path = .ok report) :
    detectIn format path s (t.read path) =
      ⟨(s.run report).exitStatus, verdictText format report (s.run report),
        ((Report.loadedRecord path (t.read path) :: (s.run report).records) ++
          if (s.run report).allPassed then [] else [mismatchRecord (s.run report)]).map
            Notice.record⟩ := by
  rw [FileTree.loadReport] at loaded
  rw [detectIn, loaded]

/-- Every conclusion has one of these causes. -/
theorem concludes (e : Environment) (given : Given) (t : FileTree) :
    Concludes e given t (concluded .checkDetection e given t) := by
  cases asked : given.list with
  | true =>
    rw [concluded_of_listed asked]
    exact .listed asked
  | false =>
    by_cases lacking : given.report = none ∨ given.scenario = none
    · rw [concluded_of_lacking asked lacking]
      exact .lacking asked lacking
    rw [not_or] at lacking
    obtain ⟨path, report⟩ := Option.ne_none_iff_exists'.1 lacking.1
    obtain ⟨name, scenario⟩ := Option.ne_none_iff_exists'.1 lacking.2
    by_cases present : t.Leads path
    · by_cases known : ∃ s : Scenario, s.name = name
      · obtain ⟨s, rfl⟩ := known
        rw [concluded_of_scenario asked report scenario present]
        cases read : t.loadReport path with
        | error fault =>
          rw [detectIn_of_fault read]
          exact .unread asked report scenario present read
        | ok loaded =>
          rw [detectIn_of_report read]
          exact .ran asked report scenario present read _ _
      · have unknown : ∀ s : Scenario, s.name ≠ name := fun s same => known ⟨s, same⟩
        rw [concluded_of_unknown asked report scenario present unknown]
        exact .unknown asked report scenario present unknown
    · rw [concluded_of_absent asked report scenario present]
      exact .absent asked report scenario present

/-! ## 3. A whole run -/

theorem refuses_of_concluded {args : List Bytes} {code : ErrorCode} {words : String}
    (accepted : arguments .checkDetection args = .ok given) (usage : code.exitStatus = 2)
    (refusal : concluded .checkDetection e given (run .checkDetection e args t).tree =
      usageFailure words code) :
    Refuses (run .checkDetection e args t) code words where
  status := by rw [status_run accepted, refusal, usageFailure, usage]
  stdout := by rw [stdout_run accepted, refusal, usageFailure]
  stderr := stderr_run_of_text accepted [] (by rw [refusal]; rfl)

theorem ending_run {args : List Bytes} (accepted : arguments .checkDetection args = .ok given) :
    Ending (run .checkDetection e args t).tree given (run .checkDetection e args t) := by
  have status := status_run (e := e) (t := t) accepted
  have stdout := stdout_run (e := e) (t := t) accepted
  have refuses := @refuses_of_concluded e given t args
  have cause := concludes e given (run .checkDetection e args t).tree
  generalize run .checkDetection e args t = o at status stdout refuses cause
  generalize concluded .checkDetection e given o.tree = c at status stdout refuses cause
  cases cause with
  | listed asked => exact .listed _ asked Scenario.isListing_sortedNames status stdout
  | lacking unasked lacking => exact .lacking unasked lacking _ (refuses accepted rfl rfl)
  | absent unasked report scenario absent =>
    exact .absent _ _ unasked report scenario absent (refuses accepted rfl rfl)
  | unknown unasked report scenario present unknown =>
    exact .unknown _ _ _ unasked report scenario present unknown (refuses accepted rfl rfl)
  | unread unasked report scenario present failed =>
    exact .unread _ _ _ unasked report scenario present failed
      (status.trans (exitStatus_loadFault _))
  | @ran path s loaded unasked report scenario present read _ _ =>
    by_cases passed : ∀ c ∈ s.checks loaded, c.passed = true
    · exact .matched path s loaded unasked report scenario present read passed
        (status.trans (exitStatus_run.2 passed))
    · obtain ⟨one, failed⟩ := Scenario.exitStatus_run_of_failed passed
      exact .unmatched path s loaded unasked report scenario present read failed
        (status.trans one)

/-- A wrong invocation is told from the arguments and from whether the report exists, and nothing
is written to the standard output stream. -/
theorem of_refusal {o : Outcome} (ending : Ending t given o) (refused : o.conclusion.status = 2) :
    o.conclusion.stdout = "" ∧ ∀ u, t.SameShape u →
      concluded .checkDetection e given t = concluded .checkDetection e given u := by
  have leads : ∀ {u}, t.SameShape u → ∀ path, t.Leads path ↔ u.Leads path := fun shape path => by
    rw [← FileTree.exists?_iff, ← FileTree.exists?_iff, shape.exists?]
  cases ending with
  | lacking unasked lacking words refuses =>
    refine ⟨refuses.stdout, fun u shape => ?_⟩
    rw [concluded_of_lacking unasked lacking, concluded_of_lacking unasked lacking]
  | absent path name unasked report scenario absent refuses =>
    refine ⟨refuses.stdout, fun u shape => ?_⟩
    rw [concluded_of_absent unasked report scenario absent,
      concluded_of_absent unasked report scenario (absent ∘ (leads shape path).2)]
  | unknown path name words unasked report scenario present unknown refuses =>
    refine ⟨refuses.stdout, fun u shape => ?_⟩
    rw [concluded_of_unknown unasked report scenario present unknown,
      concluded_of_unknown unasked report scenario ((leads shape path).1 present) unknown]
  -- The other causes end with status 0 or 1.
  | listed _ _ _ status _ | matched _ _ _ _ _ _ _ _ _ status =>
    rw [refused] at status
    cases status
  | unread _ _ _ _ _ _ _ _ status | unmatched _ _ _ _ _ _ _ _ _ status =>
    rw [refused] at status
    cases status

/-- The first cause that applies decides how a run ends that its arguments allow. A run that ends
with status 2 writes nothing to the standard output stream, and would say the same whatever the
files contained. -/
theorem run_checkDetection (e : Environment) (t : FileTree) {args : List Bytes} {given : Given}
    (accepted : arguments .checkDetection args = .ok given) :
    let o := run .checkDetection e args t
    Ending o.tree given o ∧
      (o.conclusion.status = 2 → o.conclusion.stdout = "" ∧ ∀ u, t.SameShape u →
        let o' := run .checkDetection e args u
        o'.conclusion.status = o.conclusion.status ∧ o'.conclusion.stdout = o.conclusion.stdout ∧
          ∀ stamp, o'.stderr stamp = o.stderr stamp) := by
  intro o
  have ending : Ending o.tree given o := ending_run accepted
  refine ⟨ending, fun refused => ?_⟩
  obtain ⟨stdout, contents⟩ := of_refusal (e := e) ending refused
  refine ⟨stdout, fun u shape => ?_⟩
  obtain ⟨trees, subscriber, emitted, answer⟩ :=
    shape.install (logConfig (settings e given).1 given)
  have after : o.tree.SameShape (run .checkDetection e args u).tree := by
    rw [tree_run accepted, tree_run accepted]
    exact trees
  obtain ⟨conclusion, stderr⟩ := run_of_same_start accepted subscriber emitted answer
    (contents _ after)
  exact ⟨by rw [← conclusion], by rw [← conclusion], fun stamp => (stderr stamp).symm⟩

/-- A report with metadata and a health score. -/
def observed : Report :=
  ⟨.object [("metadata", .object [("tool", .null)]),
    ("summary", .object [("health_score", .number (.integer 1))])], by decide⟩

/-- A run on an empty file system, with a scenario that does not exist, and one on a report that has
what its scenario asks for. -/
theorem run_checkDetection_of_observed :
    let given := { Given.none with report := some [0x72], scenario := some "n" }
    let o := run .checkDetection .empty [[0x72], [0x6E]] ⟨[], []⟩
    let name := Scenario.observerEffect.name
    let found := run .checkDetection .empty [[0x72], Utf8.encode name] (.ofReport observed)
    (arguments .checkDetection [[0x72], [0x6E]] = .ok given ∧ Ending o.tree given o ∧
      o.conclusion.status = 2 ∧ o.conclusion.stdout = "" ∧
      ∀ u, FileTree.SameShape ⟨[], []⟩ u →
        let o' := run .checkDetection .empty [[0x72], [0x6E]] u
        o'.conclusion.status = o.conclusion.status ∧ o'.conclusion.stdout = o.conclusion.stdout ∧
          ∀ stamp, o'.stderr stamp = o.stderr stamp) ∧
      arguments .checkDetection [[0x72], Utf8.encode name] =
        .ok { given with scenario := some name } ∧
      Ending found.tree { given with scenario := some name } found ∧
      found.tree.loadReport [0x72] = .ok observed ∧ found.conclusion.status = 0 := by
  intro given o name found
  have accepted : arguments .checkDetection [[0x72], [0x6E]] = .ok given := rfl
  have accepted' : arguments .checkDetection [[0x72], Utf8.encode name] =
      .ok { given with scenario := some name } := by
    decide +kernel
  have status : o.conclusion.status = 2 := by decide +kernel
  have status' : found.conclusion.status = 0 := by decide +kernel
  obtain ⟨ending, refused⟩ := run_checkDetection .empty ⟨[], []⟩ accepted
  obtain ⟨stdout, contents⟩ := refused status
  obtain ⟨ending', -⟩ := run_checkDetection .empty (.ofReport observed) accepted'
  have tree : found.tree = .ofReport observed :=
    tree_run_of_withoutLogFile accepted' ⟨rfl, fun value text set => nomatch set⟩
  have loaded : found.tree.loadReport [0x72] = .ok observed := by
    rw [tree]
    exact FileTree.loadReport_ofReport ⟨by decide, by decide⟩
  exact ⟨⟨accepted, ending, status, stdout, contents⟩, accepted', ending', loaded, status'⟩

end CommandLine

end HealthReport
