import HealthReport.Proofs.CommandLine.CheckDetection
import HealthReport.Proofs.CommandLine.VerifyReport

/-!
# What is said about a report that cannot be loaded

Both programs end with the exit status of the fault's code. `verify-report` tells the fault with
its catalog entry, in either format. `check-detection` tells the message alone, and that on the
standard error stream in either format.

Results:
1. `full_entry`: a catalog entry, line by line.
2. `run_verifyReport_of_fault`: how `verify-report` tells a fault.
3. `run_of_loadFault`: what either program says about a fault.
4. `run_checkDetection_tells_too_little`: `check-detection` does not tell a fault in either format.
-/
namespace HealthReport

/-! ## Definitions -/

/-- The catalog entry of a code, line by line: the code with its message, then the steps of the
remediation. -/
def ErrorCode.entryLines (code : ErrorCode) : List String :=
  ("[" ++ code.code ++ "] " ++ code.message) :: code.remediation.map ("  - " ++ ·)

namespace CommandLine

/-- The result of a run hangs on the report at the path, as far as the arguments say. -/
inductive Consults (given : Given) : Program → Path → Prop
  | verifyReport {path : Path} (report : given.report = some path) :
      Consults given .verifyReport path
  | checkDetection {path : Path} (s : Scenario) (unasked : given.list = false)
      (report : given.report = some path) (scenario : given.scenario = some s.name) :
      Consults given .checkDetection path

/-- The report at the path is read in the run: a scenario needs one that exists. -/
structure Reads (t : FileTree) (given : Given) (p : Program) (path : Path) : Prop where
  consults : Consults given p path
  present : p = .checkDetection → t.Leads path

/-- The fault is told in text: its message, and after it the catalog entry of its code. -/
def ToldInText (fault : LoadFault) (o : Outcome) : Prop :=
  ∀ stamp, ∃ before, o.stderr stamp = before ++ (fault.message ++ "\n" ++
    String.join (fault.code.entryLines.map (· ++ "\n")))

/-- The fault is told in one document on one line, with an error object that carries the message
and the catalog entry of its code. -/
def ToldInJson (fault : LoadFault) (o : Outcome) : Prop :=
  ∃ doc item, o.conclusion.stdout = doc.text ++ "\n" ∧ '\n' ∉ doc.text.toList ∧
    Json.read doc.text = .ok doc ∧ doc.get? "errors" = some (.array [item]) ∧
    item.get? "code" = some (.string fault.code.code) ∧
    item.get? "category" = some (.string fault.code.category.label) ∧
    item.get? "message" = some (.string fault.message) ∧
    item.get? "remediation" = some (Json.ofStrings fault.code.remediation)

/-- The fault is told in the format. -/
def ToldIn (format : OutputFormat) (fault : LoadFault) (o : Outcome) : Prop :=
  match format with
  | .text => ToldInText fault o
  | .json => ToldInJson fault o

/-- A file system with one directory, `d`. -/
def directoryAlone : FileTree := ⟨[([[0x64]], .directory)], []⟩

end CommandLine

/-! ## 1. Catalog entries -/

theorem ErrorCode.full_entry (code : ErrorCode) :
    code.entry.full = String.join (code.entryLines.map (· ++ "\n")) := by
  rw [ErrorEntry.full, ErrorEntry.brief, entryLines, List.map_cons, String.join_cons, List.map_map]
  rfl

namespace CommandLine

variable {p : Program} {e : Environment} {t : FileTree} {args : List Bytes} {given : Given}
  {path : Path} {fault : LoadFault}

/-! ## 2. `verify-report` -/

theorem concluded_verifyReport (report : given.report = some path) :
    concluded .verifyReport e given t =
      verify (settings e given).1.outputFormat.value path (t.read path) := by
  rw [concluded, conclude, report, Option.getD_some]

theorem verify_text_of_fault (failed : t.loadReport path = .error fault) :
    verify .text path (t.read path) = ⟨fault.code.exitStatus, "",
      [.text ("FAIL: " ++ fault.message ++ "\n" ++ fault.code.entry.full)]⟩ := by
  rw [FileTree.loadReport] at failed
  rw [verify, failed]

theorem toldInText_verify (accepted : arguments .verifyReport args = .ok given)
    (said : concluded .verifyReport e given (run .verifyReport e args t).tree =
      ⟨fault.code.exitStatus, "",
        [.text ("FAIL: " ++ fault.message ++ "\n" ++ fault.code.entry.full)]⟩) :
    ToldInText fault (run .verifyReport e args t) := by
  intro stamp
  obtain ⟨before, stderr⟩ := stderr_run_of_text accepted [] (by rw [said]; rfl) stamp
  refine ⟨before ++ "FAIL: ", ?_⟩
  rw [stderr, ErrorCode.full_entry]
  simp only [String.append_assoc]

theorem toldInJson_verify {o : Outcome}
    (said : o.conclusion.stdout = (faultJson fault).text ++ "\n") :
    ToldInJson fault o :=
  ⟨faultJson fault, faultItem fault, said, Json.newline_not_mem_text _, read_faultJson fault, rfl,
    rfl, rfl, rfl, rfl⟩

theorem run_verifyReport_of_fault (accepted : arguments .verifyReport args = .ok given)
    (report : given.report = some path)
    (failed : (run .verifyReport e args t).tree.loadReport path = .error fault) :
    let o := run .verifyReport e args t
    o.conclusion.status = fault.code.exitStatus ∧
      ∃ format, EffectiveFormat e given.format format ∧
        (format = .text → o.conclusion.stdout = "" ∧ ToldInText fault o) ∧
        (format = .json → ToldInJson fault o) := by
  intro o
  have status := status_run (e := e) (t := t) accepted
  have stdout := stdout_run (e := e) (t := t) accepted
  have concludes := @concluded_verifyReport e o.tree given path report
  have effective := effectiveFormat_settings e given
  -- Where the format comes from does not matter any more.
  generalize (settings e given).1.outputFormat.value = format at concludes effective
  cases format with
  | text =>
    rw [verify_text_of_fault failed] at concludes
    rw [concludes] at status stdout
    refine ⟨status, .text, effective, fun _ => ⟨stdout, ?_⟩, nofun⟩
    exact toldInText_verify accepted concludes
  | json =>
    have code := @status_verify_of_fault .json o.tree path fault failed
    have document := stdout_json_of_fault failed
    rw [concludes] at status stdout
    refine ⟨?_, .json, effective, nofun, fun _ => ?_⟩
    · rw [status, code, exitStatus_loadFault]
    · exact toldInJson_verify (stdout.trans document)

/-! ## 3. Either program -/

theorem run_checkDetection_of_fault {s : Scenario}
    (accepted : arguments .checkDetection args = .ok given) (unasked : given.list = false)
    (report : given.report = some path) (scenario : given.scenario = some s.name)
    (present : (run .checkDetection e args t).tree.Leads path)
    (failed : (run .checkDetection e args t).tree.loadReport path = .error fault) :
    let o := run .checkDetection e args t
    o.conclusion.status = fault.code.exitStatus ∧ o.conclusion.stdout = "" ∧
      ∀ stamp, ∃ before, o.stderr stamp = before ++ ("ERROR: " ++ fault.message ++ "\n") := by
  intro o
  have status := status_run (e := e) (t := t) accepted
  have stdout := stdout_run (e := e) (t := t) accepted
  have concludes := @concluded_of_scenario e given o.tree path s unasked report scenario present
  rw [detectIn_of_fault failed] at concludes
  rw [concludes] at status stdout
  exact ⟨status, stdout, stderr_run_of_text accepted [] (by rw [concludes]; rfl)⟩

/-- Either program ends with the status of the fault's code. `verify-report` tells the fault in
the format asked for. `check-detection` tells its message alone, whatever the format. -/
theorem run_of_loadFault (accepted : arguments p args = .ok given)
    (reads : Reads (run p e args t).tree given p path)
    (failed : (run p e args t).tree.loadReport path = .error fault) :
    let o := run p e args t
    o.conclusion.status = fault.code.exitStatus ∧
      (p = .verifyReport → ∃ format, EffectiveFormat e given.format format ∧
        (format = .text → o.conclusion.stdout = "" ∧ ToldInText fault o) ∧
        (format = .json → ToldInJson fault o)) ∧
      (p = .checkDetection → o.conclusion.stdout = "" ∧
        ∀ stamp, ∃ before, o.stderr stamp = before ++ ("ERROR: " ++ fault.message ++ "\n")) := by
  intro o
  obtain ⟨consults, present⟩ := reads
  cases consults with
  | verifyReport report =>
    obtain ⟨status, told⟩ := run_verifyReport_of_fault accepted report failed
    exact ⟨status, fun _ => told, nofun⟩
  | checkDetection s unasked report scenario =>
    obtain ⟨status, said⟩ :=
      run_checkDetection_of_fault accepted unasked report scenario (present rfl) failed
    exact ⟨status, nofun, fun _ => said⟩

theorem loadReport_directoryAlone :
    directoryAlone.loadReport [0x64] = .error (.unreadable [0x64] .isDirectory) := by
  rfl

/-- `verify-report` says so of a report that is a directory. -/
theorem run_of_loadFault_of_directory :
    let given := { Given.none with report := some [0x64] }
    let fault := LoadFault.unreadable [0x64] .isDirectory
    let o := run .verifyReport .empty [[0x64]] directoryAlone
    arguments .verifyReport [[0x64]] = .ok given ∧ Reads o.tree given .verifyReport [0x64] ∧
      o.tree.loadReport [0x64] = .error fault ∧ o.conclusion.status = fault.code.exitStatus ∧
      ∃ format, EffectiveFormat .empty given.format format ∧
        (format = .text → o.conclusion.stdout = "" ∧ ToldInText fault o) ∧
        (format = .json → ToldInJson fault o) := by
  intro given fault o
  have accepted : arguments .verifyReport [[0x64]] = .ok given := rfl
  have tree : o.tree = directoryAlone :=
    tree_run_of_withoutLogFile accepted ⟨rfl, fun value text set => nomatch set⟩
  have reads : Reads o.tree given .verifyReport [0x64] := ⟨.verifyReport rfl, nofun⟩
  have failed : o.tree.loadReport [0x64] = .error fault := by
    rw [tree]
    exact loadReport_directoryAlone
  obtain ⟨status, told, -⟩ := run_of_loadFault accepted reads failed
  exact ⟨accepted, reads, failed, status, told rfl⟩

/-! ## 4. `check-detection` -/

/-- Whoever writes nothing to the standard output stream, and to the standard error stream less
than the catalog entry, does not tell the fault in either format. -/
theorem not_toldIn_of_short {o : Outcome} (format : OutputFormat)
    (silent : o.conclusion.stdout = "")
    (short : (o.stderr "").length < fault.code.entry.full.length) : ¬ ToldIn format fault o := by
  cases format with
  | text =>
    intro told
    obtain ⟨before, said⟩ := told ""
    rw [said, ← ErrorCode.full_entry, String.length_append, String.length_append] at short
    omega
  | json =>
    rintro ⟨doc, item, said, -⟩
    have length := congrArg String.length (silent.symm.trans said)
    rw [String.length_append] at length
    cases length

/-- The arguments that ask for a scenario in the directory, in a format. -/
def askDirectory (format : OutputFormat) : List Bytes :=
  [Utf8.encode ("--format=" ++ format.label), [0x64], Utf8.encode Scenario.combined.name]

/-- The run with these arguments fails to load the report, and does not tell why in the format. -/
def TellsTooLittle (format : OutputFormat) : Prop :=
  ∃ given fault, arguments .checkDetection (askDirectory format) = .ok given ∧
    EffectiveFormat .empty given.format format ∧
    let o := run .checkDetection .empty (askDirectory format) directoryAlone
    Reads o.tree given .checkDetection [0x64] ∧ o.tree.loadReport [0x64] = .error fault ∧
      ¬ ToldIn format fault o

theorem tellsTooLittle (format : OutputFormat) : TellsTooLittle format := by
  have accepted : arguments .checkDetection (askDirectory format) =
      .ok { Given.none with
        report := some [0x64], scenario := some Scenario.combined.name
        format := some format } := by
    cases format <;> decide +kernel
  have tree : (run .checkDetection .empty (askDirectory format) directoryAlone).tree =
      directoryAlone :=
    tree_run_of_withoutLogFile accepted ⟨rfl, fun value text set => nomatch set⟩
  refine ⟨_, .unreadable [0x64] .isDirectory, accepted, .ofFlag rfl, ?_, ?_,
    not_toldIn_of_short format ?_ ?_⟩
  · rw [tree]
    exact ⟨.checkDetection .combined rfl rfl rfl, fun _ => ⟨.directory, rfl⟩⟩
  · rw [tree]
    exact loadReport_directoryAlone
  · cases format <;> decide +kernel
  · cases format <;> decide +kernel

/-- `check-detection` does not tell the fault of a directory, be it asked for text or for JSON. -/
theorem run_checkDetection_tells_too_little : TellsTooLittle .text ∧ TellsTooLittle .json :=
  ⟨tellsTooLittle .text, tellsTooLittle .json⟩

end CommandLine

end HealthReport
