import HealthReport.Proofs.CommandLine.Stages

/-!
# How much is logged, and what a run ends with

How much is logged and in which layout does not show in the exit status or on the standard output
stream. The variable for the output format does not show in the exit status either, and on the
standard output stream only where there is no flag for the format.

Results:
1. `status_concluded_congr`: the exit status does not depend on the format.
2. `run_of_verbosity`: two runs that differ in how much is logged end alike.
-/
namespace HealthReport.CommandLine

/-! ## Definitions -/

/-- The variables that say how much is logged, and in which layout. -/
def verbosityVariables : List String := ["MELISAI_LOG_LEVEL", "MELISAI_LOG_FORMAT"]

variable {p : Program} {e e' : Environment} {args args' : List Bytes} {given given' : Given}
  {t : FileTree}

/-! ## 1. The exit status and the format -/

theorem status_verify_congr (format format' : OutputFormat) (path : Path)
    (content : Except FileFault Bytes) :
    (verify format path content).status = (verify format' path content).status := by
  rw [verify, verify]
  cases Report.ofFile path content <;> cases format <;> cases format' <;> rfl

theorem status_detect_congr (format format' : OutputFormat) (given : Given) (found : Bool)
    (content : Except FileFault Bytes) :
    (detect format given found content).status = (detect format' given found content).status := by
  have verdict : ∀ path scenario, (detectIn format path scenario content).status =
      (detectIn format' path scenario content).status := by
    intro path scenario
    rw [detectIn, detectIn]
    cases Report.ofFile path content <;> rfl
  rw [detect, detect]
  cases given.list with
  | true => rfl
  | false =>
    cases given.report with
    | none => rfl
    | some path =>
      cases given.scenario with
      | none => rfl
      | some name =>
        cases found with
        | false => rfl
        | true =>
          simp only [Bool.not_true, Bool.false_eq_true, if_false]
          cases Scenario.ofName? name with
          | none => rfl
          | some scenario => exact verdict path scenario

theorem status_concluded_congr (same : SameQuestion given given') :
    (concluded p e given t).status = (concluded p e' given' t).status := by
  rw [concluded, concluded, same.report, conclude_congr same]
  cases p with
  | verifyReport => exact status_verify_congr _ _ _ _
  | checkDetection => exact status_detect_congr _ _ _ _ _

/-! ## 2. Two runs -/

/-- Two runs with the same files, whose arguments differ at most in the verbose flag, end alike.
Of the environment the level and the layout of the log do not matter. The output format does not
matter to the exit status, nor to the standard output stream if there is a flag for it.

In runs with a log file this is about a log that is written when the run ends. Where lines about
faults of the environment get into the log before the report is read, and the report is the log
file, the level decides which lines those are, and so what is read. -/
theorem run_of_verbosity (t : FileTree) (accepted : arguments p args = .ok given)
    (accepted' : arguments p args' = .ok given')
    (flags : given' = { given with verbose := given'.verbose }) :
    let o := run p e args t
    let o' := run p e' args' t
    (e.AgreeExcept verbosityVariables e' →
      o.conclusion.status = o'.conclusion.status ∧ o.conclusion.stdout = o'.conclusion.stdout) ∧
    (e.AgreeExcept ("MELISAI_OUTPUT_FORMAT" :: verbosityVariables) e' →
      o.conclusion.status = o'.conclusion.status ∧
        (given.format ≠ none → o.conclusion.stdout = o'.conclusion.stdout)) := by
  intro o o'
  have same : SameQuestion given given' := by
    rw [flags]
    exact ⟨rfl, rfl, rfl, rfl⟩
  have logFile : given.logFile = given'.logFile := by rw [flags]
  -- The log file is the same, so both runs conclude from the same files.
  have status (file : e.bytes? "MELISAI_LOG_FILE" = e'.bytes? "MELISAI_LOG_FILE") :
      o.conclusion.status = o'.conclusion.status := by
    rw [status_run accepted, status_run accepted', tree_run_congr accepted accepted' logFile file]
    exact status_concluded_congr same
  have stdout (file : e.bytes? "MELISAI_LOG_FILE" = e'.bytes? "MELISAI_LOG_FILE")
      (format : (settings e given).1.outputFormat.value =
        (settings e' given').1.outputFormat.value) :
      o.conclusion.stdout = o'.conclusion.stdout := by
    rw [stdout_run accepted, stdout_run accepted', tree_run_congr accepted accepted' logFile file,
      concluded_congr same format]
  constructor
  · intro agree
    have file := agree "MELISAI_LOG_FILE" (by decide)
    have setting := agree "MELISAI_OUTPUT_FORMAT" (by decide)
    exact ⟨status file, stdout file (outputFormat_congr same.format setting)⟩
  · intro agree
    have file := agree "MELISAI_LOG_FILE" (by decide)
    refine ⟨status file, fun flagged => ?_⟩
    obtain ⟨format, flag⟩ := Option.ne_none_iff_exists'.1 flagged
    refine stdout file ?_
    rw [outputFormat_of_flag flag, outputFormat_of_flag (same.format.symm.trans flag)]

/-- A verbose run says the same as one that is not, although its variable for the level holds no
text, or its variable for the output format asks for another format than the flag. -/
theorem run_of_verbosity_of_empty :
    let args := [Utf8.encode "--format=text", [0x72]]
    let args' := [Utf8.encode "-v", Utf8.encode "--format=text", [0x72]]
    let given := { Given.none with report := some [0x72], format := some .text }
    let unreadable := Environment.empty.set "MELISAI_LOG_LEVEL" [0xFF]
    let other := Environment.empty.set "MELISAI_OUTPUT_FORMAT" (Utf8.encode "json")
    let said e args := (run .verifyReport e args ⟨[], []⟩).conclusion
    arguments .verifyReport args = .ok given ∧
      arguments .verifyReport args' = .ok { given with verbose := true } ∧
      ((said .empty args).status = (said unreadable args').status ∧
        (said .empty args).stdout = (said unreadable args').stdout) ∧
      (said .empty args).status = (said other args').status ∧
        (said .empty args).stdout = (said other args').stdout := by
  intro args args' given unreadable other said
  have accepted : arguments .verifyReport args = .ok given := by decide +kernel
  have accepted' : arguments .verifyReport args' = .ok { given with verbose := true } := by
    decide +kernel
  have level : Environment.empty.AgreeExcept verbosityVariables unreadable :=
    Environment.empty.agreeExcept_set (by decide) _
  have format : Environment.empty.AgreeExcept ("MELISAI_OUTPUT_FORMAT" :: verbosityVariables)
      other :=
    Environment.empty.agreeExcept_set (by decide) _
  refine ⟨accepted, accepted', ?_, ?_⟩
  · exact (run_of_verbosity ⟨[], []⟩ accepted accepted' rfl).1 level
  · obtain ⟨status, stdout⟩ := (run_of_verbosity ⟨[], []⟩ accepted accepted' rfl).2 format
    exact ⟨status, stdout nofun⟩

end HealthReport.CommandLine
