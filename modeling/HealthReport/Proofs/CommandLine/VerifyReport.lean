import HealthReport.Proofs.CommandLine.Stages
import HealthReport.Proofs.Config.EffectiveFormat
import HealthReport.Proofs.Validation.Document

/-!
# A run of `verify-report`

What a caller can rely on: the exit status tells whether the file holds a valid report, and the
standard output stream says the same in the format that was asked for.

Results:
1. `status_verify`: the status is 0 for a valid report and 1 for anything else.
2. `writesLine_verify`, `writesDocument_verify`: what each format writes.
3. `run_verifyReport`: the same for a whole run, from its arguments, environment and files.
-/
namespace HealthReport.CommandLine

/-! ## Definitions -/

/-- The tree has a valid report at the path. -/
def HoldsValid (t : FileTree) (path : Path) : Prop :=
  ∃ report, t.loadReport path = .ok report ∧ report.assess.isValid = true

/-- The output is one line with the number of categories if the status is 0, else nothing. -/
structure WritesLine (t : FileTree) (path : Path) (status : Nat) (stdout : String) : Prop where
  valid : status = 0 → ∃ report categories, t.loadReport path = .ok report ∧
    report.root.get? "categories" = some (.object categories) ∧
    stdout = "OK: report valid (" ++ toString categories.length ++ " categories)\n"
  invalid : status = 1 → stdout = ""

/-- The document says whether the status is 0, and each of its items comes from the catalog. -/
structure Describes (doc : Json) (status : Nat) : Prop where
  valid : doc.get? "valid" = some (.bool (decide (status = 0)))
  errors : ∃ errors, doc.get? "errors" = some (.array errors) ∧ (errors = [] ↔ status = 0) ∧
    ∀ item ∈ errors, Catalogued item
  warnings : ∃ warnings, doc.get? "warnings" = some (.array warnings) ∧
    ∀ item ∈ warnings, Catalogued item

/-- The counts of a report that can be loaded from the path are 64-bit integers. -/
def CountsFit (t : FileTree) (path : Path) : Prop :=
  ∀ report, t.loadReport path = .ok report →
    report.assess.categoryCount < 2 ^ 64 ∧ report.assess.resultCount < 2 ^ 64

/-- The output is one line that holds one document about the status. -/
structure WritesDocument (t : FileTree) (path : Path) (status : Nat) (stdout : String)
    (doc : Json) : Prop where
  line : stdout = doc.text ++ "\n"
  single : '\n' ∉ doc.text.toList
  document : Reader.document none doc.text.toList = .ok (.ofJson doc)
  checked : CountsFit t path → Json.read doc.text = .ok doc
  describes : Describes doc status

/-! ## 1. The conclusion of a validation -/

variable {format : OutputFormat} {t : FileTree} {path : Path}

theorem status_verify_of_fault {fault : LoadFault} (failed : t.loadReport path = .error fault) :
    (verify format path (t.read path)).status = 1 := by
  rw [FileTree.loadReport] at failed
  rw [verify, failed]
  cases format <;> exact exitStatus_loadFault fault

theorem status_verify_of_report {report : Report} (loaded : t.loadReport path = .ok report) :
    (verify format path (t.read path)).status = if report.assess.isValid then 0 else 1 := by
  rw [FileTree.loadReport] at loaded
  rw [verify, loaded]
  cases format <;> rfl

theorem stdout_text_of_fault {fault : LoadFault} (failed : t.loadReport path = .error fault) :
    (verify .text path (t.read path)).stdout = "" := by
  rw [FileTree.loadReport] at failed
  rw [verify, failed]

theorem stdout_text_of_report {report : Report} (loaded : t.loadReport path = .ok report) :
    (verify .text path (t.read path)).stdout = validLine report.assess := by
  rw [FileTree.loadReport] at loaded
  rw [verify, loaded]

theorem stdout_json_of_fault {fault : LoadFault} (failed : t.loadReport path = .error fault) :
    (verify .json path (t.read path)).stdout = (faultJson fault).text ++ "\n" := by
  rw [FileTree.loadReport] at failed
  rw [verify, failed]

theorem stdout_json_of_report {report : Report} (loaded : t.loadReport path = .ok report) :
    (verify .json path (t.read path)).stdout = report.assess.toJson.text ++ "\n" := by
  rw [FileTree.loadReport] at loaded
  rw [verify, loaded]

theorem status_verify :
    ((verify format path (t.read path)).status = 0 ↔ HoldsValid t path) ∧
      ((verify format path (t.read path)).status = 1 ↔ ¬ HoldsValid t path) := by
  cases held : t.loadReport path with
  | error fault =>
    have nothing : ¬ HoldsValid t path := by
      rintro ⟨report, loaded, -⟩
      rw [held] at loaded
      cases loaded
    rw [status_verify_of_fault held]
    exact ⟨iff_of_false (by decide) nothing, iff_of_true rfl nothing⟩
  | ok report =>
    have valid : HoldsValid t path ↔ report.assess.isValid = true := by
      constructor
      · intro holds
        obtain ⟨other, loaded, valid⟩ := holds
        rw [held] at loaded
        cases loaded
        exact valid
      · intro valid
        exact ⟨report, held, valid⟩
    rw [status_verify_of_report held, valid]
    cases report.assess.isValid <;> simp

/-- The counted categories of a valid report are the members of its categories. -/
theorem categoryCount_of_valid {report : Report} (valid : report.assess.isValid = true) :
    ∃ categories, report.root.get? "categories" = some (.object categories) ∧
      report.assess.categoryCount = categories.length := by
  unfold Report.assess at valid ⊢
  cases missing : report.missingTopLevel with
  | cons name names => simp [missing, Assessment.isValid] at valid
  | nil =>
    cases found : report.categories? with
    | none => simp [missing, found, Assessment.isValid] at valid
    | some categories => exact ⟨categories, Report.categories?_eq_some_iff.1 found, rfl⟩

theorem writesLine_verify : WritesLine t path (verify .text path (t.read path)).status
    (verify .text path (t.read path)).stdout := by
  cases held : t.loadReport path with
  | error fault =>
    have status := @status_verify_of_fault .text t path fault held
    refine ⟨fun zero => ?_, fun _ => stdout_text_of_fault held⟩
    rw [status] at zero
    cases zero
  | ok report =>
    have status := @status_verify_of_report .text t path report held
    have line := stdout_text_of_report held
    rw [validLine] at line
    refine ⟨fun zero => ?_, fun one => ?_⟩
    · cases valid : report.assess.isValid with
      | false => simp [status, valid] at zero
      | true =>
        obtain ⟨categories, found, count⟩ := categoryCount_of_valid valid
        rw [valid, if_pos rfl, count] at line
        exact ⟨report, categories, held, found, line⟩
    · cases valid : report.assess.isValid with
      | false => rw [line, valid, if_neg (by decide)]
      | true => simp [status, valid] at one

theorem describes_faultJson (fault : LoadFault) : Describes (faultJson fault) 1 := by
  refine ⟨rfl, ⟨[faultItem fault], rfl, by simp, ?_⟩, [], rfl, List.forall_mem_nil _⟩
  intro item member
  obtain rfl := List.mem_singleton.1 member
  exact catalogued_faultItem fault

theorem describes_toJson (a : Assessment) : Describes a.toJson (if a.isValid then 0 else 1) := by
  have valid : a.isValid = true ↔ a.defects = [] := by
    rw [Assessment.isValid, List.isEmpty_iff]
  refine ⟨?_, ⟨a.defects.map Assessment.defectJson, rfl, ?_, ?_⟩,
    a.advisory.toList.map Assessment.advisoryJson, rfl, ?_⟩
  · show some (Json.bool a.isValid) = _
    cases a.isValid <;> rfl
  · rw [List.map_eq_nil_iff, ← valid]
    cases a.isValid <;> simp
  · intro item member
    obtain ⟨d, -, rfl⟩ := List.mem_map.1 member
    exact Assessment.catalogued_defectJson d
  · intro item member
    obtain ⟨advisory, -, rfl⟩ := List.mem_map.1 member
    exact Assessment.catalogued_advisoryJson advisory

theorem writesDocument_verify : ∃ doc, WritesDocument t path
    (verify .json path (t.read path)).status (verify .json path (t.read path)).stdout doc := by
  cases held : t.loadReport path with
  | error fault =>
    refine ⟨faultJson fault, stdout_json_of_fault held, Json.newline_not_mem_text _,
      Reader.document_text_unchecked _, fun _ => read_faultJson fault, ?_⟩
    rw [status_verify_of_fault held]
    exact describes_faultJson fault
  | ok report =>
    refine ⟨report.assess.toJson, stdout_json_of_report held, Json.newline_not_mem_text _,
      Reader.document_text_unchecked _, fun fit => ?_, ?_⟩
    · obtain ⟨categories, results⟩ := fit report held
      exact Report.read_toJson categories results
    · rw [status_verify_of_report held]
      exact describes_toJson report.assess

/-! ## 2. A whole run -/

/-- Validating a report is not begun without a path. -/
theorem report_of_arguments {args : List Bytes} {given : Given}
    (accepted : arguments .verifyReport args = .ok given) : ∃ path, given.report = some path := by
  unfold arguments at accepted
  split at accepted
  · cases accepted
  · split at accepted
    · cases accepted
    · rename_i settled _
      split at accepted
      · cases accepted
      · rename_i complete
        cases accepted
        cases held : settled.given.report with
        | none => simp [held] at complete
        | some path => exact ⟨path, rfl⟩

/-- A run concludes from the files as logging has left them. -/
theorem run_of_arguments {e : Environment} {args : List Bytes} {given : Given}
    (accepted : arguments .verifyReport args = .ok given) (reported : given.report = some path) :
    let o := run .verifyReport e args t
    let c := verify (settings e given).1.outputFormat.value path (o.tree.read path)
    o.conclusion.status = c.status ∧ o.conclusion.stdout = c.stdout := by
  have chosen : given.report.getD [] = path := by rw [reported, Option.getD_some]
  simp only [run, runLooking, accepted, started, conclude, chosen, and_self]

/-- A run that its arguments allow ends with status 0 if the file at the path holds a valid report
when it is read, and with status 1 if not; what it writes says the same in the format asked for. -/
theorem run_verifyReport (e : Environment) (t : FileTree) {args : List Bytes} {given : Given}
    (accepted : arguments .verifyReport args = .ok given) :
    let o := run .verifyReport e args t
    ∃ path format, given.report = some path ∧ EffectiveFormat e given.format format ∧
      (o.conclusion.status = 0 ↔ HoldsValid o.tree path) ∧
      (o.conclusion.status = 1 ↔ ¬ HoldsValid o.tree path) ∧
      (format = .text → WritesLine o.tree path o.conclusion.status o.conclusion.stdout) ∧
      (format = .json →
        ∃ doc, WritesDocument o.tree path o.conclusion.status o.conclusion.stdout doc) := by
  intro o
  obtain ⟨path, reported⟩ := report_of_arguments accepted
  obtain ⟨status, stdout⟩ := @run_of_arguments t path e args given accepted reported
  have effective := effectiveFormat_settings e given
  -- Where the format comes from does not matter any more.
  generalize (settings e given).1.outputFormat.value = format at status stdout effective
  refine ⟨path, format, reported, effective, ?_⟩
  rw [status, stdout]
  refine ⟨status_verify.1, status_verify.2, ?_, ?_⟩
  · rintro rfl
    exact writesLine_verify
  · rintro rfl
    exact writesDocument_verify

/-- A valid report with one result. -/
def oneResult : Report :=
  ⟨.object [("categories", .object [
        ("cpu", .array [.object [("category", .null), ("collector", .null),
          ("tier", .number (.integer 1))]]),
        ("memory", .array []), ("process", .array [])]),
      ("metadata", .object [("tool", .string "melisai")]),
      ("summary", .object [("health_score", .number (.integer 100))])], by decide⟩

/-- The arguments that ask for the report `r` in a format. -/
def askReport (format : OutputFormat) : List Bytes :=
  [Utf8.encode ("--format=" ++ format.label), [0x72]]

/-- A run on a valid report says so in either format; without a file it ends with status 1. -/
theorem run_verifyReport_of_oneResult :
    let t := FileTree.ofReport oneResult
    let text := run .verifyReport .empty (askReport .text) t
    let json := run .verifyReport .empty (askReport .json) t
    let missing := run .verifyReport .empty (askReport .text) ⟨[], []⟩
    (∀ format, arguments .verifyReport (askReport format) =
        .ok { Given.none with report := some [0x72], format := some format }) ∧
      HoldsValid t [0x72] ∧
      text.conclusion.status = 0 ∧ WritesLine t [0x72] 0 text.conclusion.stdout ∧
      json.conclusion.status = 0 ∧ (∃ doc, WritesDocument t [0x72] 0 json.conclusion.stdout doc) ∧
      missing.conclusion.status = 1 ∧ WritesLine ⟨[], []⟩ [0x72] 1 missing.conclusion.stdout := by
  intro t text json missing
  have accepted : ∀ format, arguments .verifyReport (askReport format) =
      .ok { Given.none with report := some [0x72], format := some format } := by
    intro format
    cases format <;> decide +kernel
  have told : ∀ format u o, o = run .verifyReport .empty (askReport format) u →
      (o.conclusion.status = 0 ↔ HoldsValid u [0x72]) ∧
        (o.conclusion.status = 1 ↔ ¬ HoldsValid u [0x72]) ∧
        (format = .text → WritesLine u [0x72] o.conclusion.status o.conclusion.stdout) ∧
        (format = .json →
          ∃ doc, WritesDocument u [0x72] o.conclusion.status o.conclusion.stdout doc) := by
    rintro format u o rfl
    have tree : (run .verifyReport .empty (askReport format) u).tree = u :=
      tree_run_of_withoutLogFile (accepted format) ⟨rfl, fun value text set => nomatch set⟩
    obtain ⟨path, chosen, report, effective, told⟩ := run_verifyReport .empty u (accepted format)
    rw [tree] at told
    cases report
    cases effective with
    | ofFlag flag =>
      cases flag
      exact told
    | ofVariable absent => cases absent
    | standard absent => cases absent
  have holds : HoldsValid t [0x72] :=
    ⟨oneResult, FileTree.loadReport_ofReport ⟨by decide, by decide⟩, by decide +kernel⟩
  have lacks : ¬ HoldsValid ⟨[], []⟩ [0x72] := by
    rintro ⟨r, loaded, -⟩
    cases loaded
  obtain ⟨zero, -, line, -⟩ := told .text t text rfl
  obtain ⟨zero', -, -, document⟩ := told .json t json rfl
  obtain ⟨-, one, nothing, -⟩ := told .text ⟨[], []⟩ missing rfl
  rw [zero.2 holds] at line
  rw [zero'.2 holds] at document
  rw [one.2 lacks] at nothing
  exact ⟨accepted, holds, zero.2 holds, line rfl, zero'.2 holds, document rfl, one.2 lacks,
    nothing rfl⟩

end HealthReport.CommandLine
