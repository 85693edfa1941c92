import HealthReport.Proofs.CommandLine.LoadFault
import HealthReport.Proofs.CommandLine.VerboseFlag
import HealthReport.Proofs.Validation.Transcript

/-!
# What the verbose flag adds

The verbose flag sets the level of the log to `debug`, whatever the environment says. Everything
that the programs log is at that level or above it, so with the flag everything is shown, and
without it a part of that in the same order.

Results:
1. `admits_ofLevel`: what the filter of a level admits.
2. `untraced_voiced`: the levels of what the programs log.
3. `shown_of_verbose`, `shown_sublist`: what is shown with the flag, and without it.
4. `shown_validation`: the records of a validation among all that is shown.
5. `verbose_adds_records`: two runs, without the flag and with it.
-/
namespace HealthReport

/-! ## Definitions -/

namespace CommandLine

/-- The records of a run that go to the standard error stream, in their order. -/
def Outcome.shown (o : Outcome) : List Log.Record :=
  match o.subscriber with
  | none => []
  | some s => if s.stderr then o.conclusion.notices.filterMap Notice.record? else []

/-- All that a run has to say, be it shown or not. -/
def voiced (p : Program) (e : Environment) (given : Given) (t : FileTree) : List Notice :=
  let opened := Log.Setup.openLog t (logConfig (settings e given).1 given)
  allNotices p (.ok ()) (Log.Setup.openingRecords opened.2) (settings e given).2
    (concluded p e given opened.1)

/-- The notice is no record of the least level. -/
def Notice.Untraced : Notice → Prop
  | .text _ => True
  | .record r => r.level ≠ .trace

end CommandLine

/-! ## 1. The filter of a level -/

theorem Log.Filter.admits_ofLevel (level : Level) (r : Record) :
    (ofLevel level).admits r = decide (level.rank ≤ r.level.rank) := by
  have decisive : (ofLevel level).decisive? r = some ⟨.least level, none, none, []⟩ := rfl
  rw [admits, decisive]
  rfl

theorem Log.Filter.ofText?_debug : ofText? "debug" = some (ofLevel .debug) := by
  decide +kernel

namespace CommandLine

variable {p : Program} {e : Environment} {args args' : List Bytes} {given : Given}
  {t : FileTree} {path : Path}

/-- With the filter of `debug` all other records pass. -/
theorem passes_of_untraced {s : Log.Subscriber} (debug : s.filter = .ofLevel .debug)
    {notice : Notice} (untraced : notice.Untraced) : passes (some s) notice = true := by
  cases notice with
  | text words => rfl
  | record r =>
    rw [passes, debug, Log.Filter.admits_ofLevel, decide_eq_true_eq]
    cases level : r.level with
    | trace => exact absurd level untraced
    | debug | info | warn | error => decide

/-! ## 2. The levels of records -/

theorem untraced_map {records : List Log.Record} (levels : ∀ r ∈ records, r.level ≠ .trace) :
    ∀ notice ∈ records.map Notice.record, notice.Untraced := by
  intro notice listed
  obtain ⟨r, logged, rfl⟩ := List.mem_map.1 listed
  exact levels r logged

@[simp]
theorem level_loadedRecord (path : Path) (content : Except FileFault Bytes) :
    (Report.loadedRecord path content).level = .debug := rfl

@[simp]
theorem level_mismatchRecord (v : Verdict) : (mismatchRecord v).level = .info := rfl

@[simp]
theorem level_disabledRecord (problem : Log.FileProblem) :
    (Log.disabledRecord problem).level = .warn := rfl

@[simp]
theorem level_faultRecord (p : Program) (fault : ConfigFault) :
    (faultRecord p fault).level = .warn := rfl

theorem level_verdict (v : Verdict) : ∀ record ∈ v.records, record.level ≠ .trace := by
  intro record logged
  rw [Verdict.records, List.mem_append, List.mem_singleton] at logged
  obtain checked | rfl := logged
  · obtain ⟨_, -, rfl⟩ := List.mem_map.1 checked
    simp
  · simp

theorem untraced_verify (format : OutputFormat) (path : Path) (content : Except FileFault Bytes) :
    ∀ notice ∈ (verify format path content).notices, notice.Untraced := by
  rw [verify]
  cases Report.ofFile path content with
  | error fault => cases format <;> simp [Notice.Untraced]
  | ok report =>
    have records : ∀ notice ∈ (Report.loadedRecord path content :: report.assessmentLog).map
        Notice.record, notice.Untraced := by
      refine untraced_map (List.forall_mem_cons.2 ⟨by simp, fun record logged => ?_⟩)
      exact (report.target_level_assessmentLog record logged).2
    cases format with
    | json => exact records
    | text => exact List.forall_mem_append.2 ⟨records, List.forall_mem_singleton.2 trivial⟩

theorem untraced_detectIn (format : OutputFormat) (path : Path) (scenario : Scenario)
    (content : Except FileFault Bytes) :
    ∀ notice ∈ (detectIn format path scenario content).notices, notice.Untraced := by
  rw [detectIn]
  cases Report.ofFile path content with
  | error fault => exact List.forall_mem_singleton.2 trivial
  | ok report =>
    refine untraced_map (List.forall_mem_append.2
      ⟨List.forall_mem_cons.2 ⟨by simp, level_verdict _⟩, ?_⟩)
    split
    · exact List.forall_mem_nil _
    · exact List.forall_mem_singleton.2 (by simp)

theorem untraced_detect (format : OutputFormat) (given : Given) (found : Bool)
    (content : Except FileFault Bytes) :
    ∀ notice ∈ (detect format given found content).notices, notice.Untraced := by
  have usage : ∀ words code, ∀ notice ∈ (usageFailure words code).notices, notice.Untraced :=
    fun words code => List.forall_mem_singleton.2 trivial
  unfold detect
  split
  · exact List.forall_mem_nil _
  · split
    · split
      · exact usage _ _
      · split
        · exact usage _ _
        · exact untraced_detectIn _ _ _ _
    · exact usage _ _

theorem untraced_concluded :
    ∀ notice ∈ (concluded p e given t).notices, notice.Untraced := by
  cases p with
  | verifyReport => exact untraced_verify _ _ _
  | checkDetection => exact untraced_detect _ _ _ _

/-- Nothing in a run is of the least level. -/
theorem untraced_voiced : ∀ notice ∈ voiced p e given t, notice.Untraced := by
  rw [voiced, allNotices, openingNotices, setupNotices, List.nil_append]
  refine List.forall_mem_append.2 ⟨List.forall_mem_append.2 ⟨untraced_map ?_, ?_⟩,
    untraced_concluded⟩
  · intro record logged
    unfold Log.Setup.openingRecords at logged
    split at logged
    · rw [List.mem_singleton.1 logged]
      simp
    · cases logged
  · intro notice listed
    obtain ⟨fault, -, rfl⟩ := List.mem_map.1 listed
    simp [Notice.Untraced]

/-! ## 3. What is shown -/

theorem stderr_logConfig (s : Settings) (given : Given) : (logConfig s given).stderr = true := by
  rw [logConfig]
  cases given.logFile <;> cases given.verbose <;> rfl

theorem level_logConfig_of_verbose (s : Settings) (verbose : given.verbose = true) :
    (logConfig s given).level = "debug" := by
  rw [logConfig, verbose]
  cases given.logFile <;> rfl

theorem subscriber_eq (e : Environment) (given : Given) (t : FileTree) :
    ∃ s, (started e given t).1.subscriber = some s ∧ s.stderr = true ∧
      Log.Filter.ofText? (logConfig (settings e given).1 given).level = some s.filter := by
  obtain ⟨filter, made, start⟩ := started_eq e given t
  rw [start]
  exact ⟨_, rfl, stderr_logConfig _ given, made⟩

theorem notices_run (accepted : arguments p args = .ok given) :
    (run p e args t).conclusion.notices =
      (voiced p e given t).filter (passes (started e given t).1.subscriber) := by
  obtain ⟨filter, -, start⟩ := started_eq e given t
  rw [conclusion_run accepted, tree_run accepted, start, voiced]

/-- Of all that a run has to say, those records are shown that the filter lets pass. -/
theorem shown_run (accepted : arguments p args = .ok given) :
    ∃ s, Log.Filter.ofText? (logConfig (settings e given).1 given).level = some s.filter ∧
      (run p e args t).shown =
        ((voiced p e given t).filter (passes (some s))).filterMap Notice.record? := by
  obtain ⟨s, subscriber, stderr, made⟩ := subscriber_eq e given t
  refine ⟨s, made, ?_⟩
  rw [Outcome.shown, notices_run accepted, subscriber_run accepted, subscriber]
  exact if_pos stderr

/-- With the flag everything is shown. -/
theorem shown_of_verbose (accepted : arguments p args = .ok given)
    (verbose : given.verbose = true) :
    (run p e args t).shown = (voiced p e given t).filterMap Notice.record? := by
  obtain ⟨s, made, shown⟩ := shown_run (e := e) (t := t) accepted
  rw [level_logConfig_of_verbose _ verbose, Log.Filter.ofText?_debug] at made
  have all : (voiced p e given t).filter (passes (some s)) = voiced p e given t :=
    List.filter_eq_self.2 fun notice listed =>
      passes_of_untraced (Option.some.inj made).symm (untraced_voiced notice listed)
  rw [shown, all]

/-- In every run a part of it is shown, in the same order. -/
theorem shown_sublist (accepted : arguments p args = .ok given) :
    (run p e args t).shown.Sublist ((voiced p e given t).filterMap Notice.record?) := by
  obtain ⟨s, -, shown⟩ := shown_run (e := e) (t := t) accepted
  rw [shown]
  exact List.filter_sublist.filterMap _

/-- The flag does not change what a run has to say. -/
theorem voiced_raised (p : Program) (e : Environment) (given : Given) (t : FileTree) :
    voiced p e given.raised t = voiced p e given t := by
  have file : (logConfig (settings e given.raised).1 given.raised).file =
      (logConfig (settings e given).1 given).file := logFile_congr rfl rfl
  have conclusion : ∀ u, concluded p e given.raised u = concluded p e given u := fun u =>
    concluded_congr ⟨rfl, rfl, rfl, rfl⟩ rfl
  rw [voiced, voiced, openLog_congr file, conclusion]
  rfl

/-! ## 4. The records of a validation -/

theorem filterMap_record (records : List Log.Record) :
    (records.map Notice.record).filterMap Notice.record? = records := by
  rw [List.filterMap_map]
  exact List.filterMap_some

theorem records_voiced (p : Program) (e : Environment) (given : Given) (t : FileTree) :
    let opened := Log.Setup.openLog t (logConfig (settings e given).1 given)
    (voiced p e given t).filterMap Notice.record? =
      Log.Setup.openingRecords opened.2 ++ (settings e given).2.map (faultRecord p) ++
        (concluded p e given opened.1).notices.filterMap Notice.record? := by
  intro opened
  rw [voiced, allNotices, openingNotices, setupNotices, List.nil_append, List.filterMap_append,
    List.filterMap_append, filterMap_record, ← filterMap_record ((settings e given).2.map _),
    List.map_map]
  rfl

theorem records_verify {format : OutputFormat} {content : Except FileFault Bytes} {r : Report}
    (loaded : Report.ofFile path content = .ok r) :
    (verify format path content).notices.filterMap Notice.record? =
      Report.loadedRecord path content :: r.assessmentLog := by
  rw [verify, loaded]
  cases format with
  | json => exact filterMap_record _
  | text =>
    show (_ ++ [Notice.text _]).filterMap Notice.record? = _
    rw [List.filterMap_append, filterMap_record]
    exact List.append_nil _

/-- Among all that is shown the records of a validation can be told by the part of the program
that logs them. -/
theorem shown_validation (accepted : arguments .verifyReport args = .ok given)
    (verbose : given.verbose = true) (report : given.report = some path) {r : Report}
    (loaded : (run .verifyReport e args t).tree.loadReport path = .ok r) :
    (run .verifyReport e args t).shown.filter (·.target == validationTarget) =
      r.assessmentLog := by
  rw [tree_run_eq_openLog accepted, FileTree.loadReport] at loaded
  have opening : ∀ opened, (Log.Setup.openingRecords opened).filter
      (·.target == validationTarget) = [] := by
    intro opened
    unfold Log.Setup.openingRecords
    split <;> rfl
  have faults : ((settings e given).2.map (faultRecord .verifyReport)).filter
      (·.target == validationTarget) = [] := by
    rw [List.filter_eq_nil_iff]
    intro record listed
    obtain ⟨fault, -, rfl⟩ := List.mem_map.1 listed
    simp [faultRecord, Program.target, validationTarget]
  have validation : r.assessmentLog.filter (·.target == validationTarget) = r.assessmentLog :=
    List.filter_eq_self.2 fun record logged =>
      beq_iff_eq.2 (r.target_level_assessmentLog record logged).1
  rw [shown_of_verbose accepted verbose, records_voiced, concluded_verifyReport report,
    records_verify loaded, List.filter_append, List.filter_append, opening, faults,
    List.nil_append, List.nil_append, List.filter_cons_of_neg, validation]
  simp [Report.loadedRecord, validationTarget]

/-! ## 5. Two runs -/

/-- The verbose flag can be put before all arguments that are allowed without it. Wherever it is
put, all that is shown without it is shown with it, in the same order, and what is shown of a
validation with it tells everything.

In runs with a log file this is about a log that is written when the run ends. A report that is the
log file may be read with the first lines of the log in it. -/
theorem verbose_adds_records (e : Environment) (t : FileTree)
    (accepted : arguments p args = .ok given) (quiet : given.verbose = false) :
    arguments p (Utf8.encode "--verbose" :: args) = .ok given.raised ∧
    (∀ args', arguments p args' = .ok given.raised →
      (run p e args t).shown.Sublist (run p e args' t).shown ∧
      (p = .verifyReport → ∀ path r, given.report = some path →
        (run p e args' t).tree.loadReport path = .ok r →
          r.IsTranscript ((run p e args' t).shown.filter (·.target == validationTarget)))) ∧
    ∀ r : Report, r.IsTranscript r.assessmentLog := by
  refine ⟨arguments_verbose accepted quiet, fun args' accepted' => ⟨?_, ?_⟩,
    Report.isTranscript_assessmentLog⟩
  · rw [shown_of_verbose accepted' rfl, voiced_raised]
    exact shown_sublist accepted
  · rintro rfl path r report loaded
    rw [shown_validation accepted' rfl report loaded]
    exact r.isTranscript_assessmentLog

/-- A file system with one report, an empty object, and a run with the least level. -/
theorem verbose_adds_records_of_trace :
    let t : FileTree := ⟨[([[0x72]], .file [0x7B, 0x7D])], []⟩
    let e := Environment.empty.set "MELISAI_LOG_LEVEL" (Utf8.encode "trace")
    let given := { Given.none with report := some [0x72] }
    let args' := [Utf8.encode "--verbose", [0x72]]
    arguments .verifyReport [[0x72]] = .ok given ∧
      arguments .verifyReport args' = .ok given.raised ∧
      (run .verifyReport e [[0x72]] t).shown.Sublist (run .verifyReport e args' t).shown ∧
      ∃ r, (run .verifyReport e args' t).tree.loadReport [0x72] = .ok r ∧
        r.IsTranscript
          ((run .verifyReport e args' t).shown.filter (·.target == validationTarget)) := by
  intro t e given args'
  have accepted : arguments .verifyReport [[0x72]] = .ok given := rfl
  obtain ⟨accepted', adds, -⟩ := verbose_adds_records e t accepted rfl
  obtain ⟨sublist, told⟩ := adds args' accepted'
  have tree : (run .verifyReport e args' t).tree = t :=
    tree_run_of_withoutLogFile accepted' ⟨rfl, fun value text set => nomatch set⟩
  have loaded : (run .verifyReport e args' t).tree.loadReport [0x72] = .ok ⟨.object [], rfl⟩ := by
    rw [tree]
    rfl
  exact ⟨accepted, accepted', sublist, _, loaded, told rfl _ _ rfl loaded⟩

end CommandLine

end HealthReport
