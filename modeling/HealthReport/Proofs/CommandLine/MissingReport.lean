import HealthReport.Proofs.CommandLine.LogFile

/-!
# A report that is missing

Whether a report exists is asked before it is loaded, and the two are different questions: what
cannot be reached does not exist, for whatever reason, but only a path that leads to nothing is not
found when it is loaded. The answers go together all the same, so in a run of `check-detection` a
report that is missing is always a wrong invocation, and never a fault of loading.

Results:
1. `meets`: both answers, by what the path leads to.
2. `agrees`: what each answer says about the other.
3. `text_mem_notices_iff`: the texts that a run writes are those of its conclusion.
4. `missing_report_refused`: how a run of `check-detection` ends without a report.
-/
namespace HealthReport

namespace FileTree

/-! ## Definitions -/

/-- What a path is met with: whether it leads to something, and what loading a report gives. -/
inductive Meets (t : FileTree) (path : Path) : Bool → Except LoadFault Report → Prop
  | nothing (absent : t.find path = .error .notFound) : Meets t path false (.error (.notFound path))
  | unreachable {fault : FileFault} (stopped : t.find path = .error fault)
      (other : fault ≠ .notFound) : Meets t path false (.error (.unreadable path fault))
  | directory (found : t.find path = .ok .directory) :
      Meets t path true (.error (.unreadable path .isDirectory))
  | noText {content : Bytes} (found : t.find path = .ok (.file content))
      (strange : Utf8.decode? content = none) :
      Meets t path true (.error (.unreadable path .notText))
  | malformed {content : Bytes} {text : String} {error : ReadError}
      (found : t.find path = .ok (.file content)) (decoded : Utf8.decode? content = some text)
      (refused : Report.read text = .error error) : Meets t path true (.error (.malformed error))
  | report {content : Bytes} {text : String} {report : Report}
      (found : t.find path = .ok (.file content)) (decoded : Utf8.decode? content = some text)
      (read : Report.read text = .ok report) : Meets t path true (.ok report)

/-- Whether a path leads to something, and what loading a report gives, go together. -/
structure Agrees (t : FileTree) (path : Path) : Prop where
  of_exists : t.exists? path = true → ∀ missing, t.loadReport path ≠ .error (.notFound missing)
  of_loaded : ∀ report, t.loadReport path = .ok report → t.exists? path = true
  of_malformed : ∀ error, t.loadReport path = .error (.malformed error) → t.exists? path = true

/-! ## 1. Both answers -/

variable {t : FileTree} {path : Path}

theorem meets (t : FileTree) (path : Path) : t.Meets path (t.exists? path) (t.loadReport path) := by
  rw [exists?, loadReport, read]
  cases found : t.find path with
  | error fault =>
    by_cases absent : fault = .notFound
    · subst absent
      exact .nothing found
    · have kept : Report.ofFile path (.error fault) = .error (.unreadable path fault) := by
        cases fault <;> first | rfl | exact absurd rfl absent
      simp only [kept]
      exact .unreachable found absent
  | ok node =>
    cases node with
    | directory => exact .directory found
    | file content =>
      simp only [Report.ofFile]
      cases decoded : Utf8.decode? content with
      | none => exact .noText found decoded
      | some text =>
        simp only
        cases read : Report.read text with
        | error error => exact .malformed found decoded read
        | ok report => exact .report found decoded read

/-- A fault that a path is met with although it leads to something. -/
theorem Meets.fault_of_present {fault : LoadFault} (h : t.Meets path true (.error fault)) :
    (∃ cause, fault = .unreadable path cause) ∨ ∃ error, fault = .malformed error := by
  cases h with
  | directory _ => exact .inl ⟨_, rfl⟩
  | noText _ _ => exact .inl ⟨_, rfl⟩
  | malformed _ _ _ => exact .inr ⟨_, rfl⟩

theorem fault_of_exists {fault : LoadFault} (present : t.exists? path = true)
    (failed : t.loadReport path = .error fault) :
    (∃ cause, fault = .unreadable path cause) ∨ ∃ error, fault = .malformed error := by
  have both := t.meets path
  rw [present, failed] at both
  exact both.fault_of_present

/-! ## 2. What each answer says about the other -/

theorem agrees (t : FileTree) (path : Path) : t.Agrees path where
  of_exists present missing failed := by
    obtain ⟨cause, same⟩ | ⟨error, same⟩ := fault_of_exists present failed
    · cases same
    · cases same
  of_loaded report loaded := by
    have both := t.meets path
    rw [loaded] at both
    generalize t.exists? path = present at both
    cases both
    rfl
  of_malformed error failed := by
    have both := t.meets path
    rw [failed] at both
    generalize t.exists? path = present at both
    cases both
    rfl

end FileTree

namespace CommandLine

variable {p : Program} {e : Environment} {t : FileTree} {args : List Bytes} {given : Given}
  {path : Path} {fault : LoadFault}

/-! ## 3. The texts of a run -/

/-- The run tells the fault, as it does where loading the report ends it. -/
def Tells (o : Outcome) (fault : LoadFault) : Prop :=
  Notice.text ("ERROR: " ++ fault.message ++ "\n") ∈ o.conclusion.notices

/-- Setting logging up succeeds, so whatever is written beside records comes from the conclusion. -/
theorem text_mem_notices_iff {words : String} (accepted : arguments p args = .ok given) :
    Notice.text words ∈ (run p e args t).conclusion.notices ↔
      Notice.text words ∈ (concluded p e given (run p e args t).tree).notices := by
  obtain ⟨filter, -, start⟩ := started_eq e given t
  rw [conclusion_run accepted, allNotices, start]
  simp [openingNotices, setupNotices, passes]

theorem initial_append {start : String} {c : Char} (initial : start.toList[0]? = some c)
    (rest : String) : (start ++ rest).toList[0]? = some c := by
  rw [String.toList_append, List.getElem?_append_left, initial]
  exact List.getElem?_eq_some_iff.1 initial |>.1

/-- The initial of what is told stands after `ERROR: ` in a line. It is enough to tell a report that
is not found when it is loaded from everything else. -/
theorem eighth_of_error {message : String} {c : Char} (initial : message.toList[0]? = some c)
    (rest : String) : ("ERROR: " ++ message ++ rest).toList[7]? = some c := by
  rw [String.append_assoc, String.toList_append, List.getElem?_append_right (by decide)]
  exact initial_append initial rest

theorem initial_notFound (missing : Path) :
    (LoadFault.notFound missing).message.toList[0]? = some 'f' :=
  initial_append (by decide) _

theorem initial_unreadable (path : Path) (cause : FileFault) :
    (LoadFault.unreadable path cause).message.toList[0]? = some 'c' :=
  initial_append (initial_append (initial_append (by decide) _) _) _

theorem initial_malformed (error : ReadError) :
    (LoadFault.malformed error).message.toList[0]? = some 'i' :=
  initial_append (by decide) _

theorem initial_absentMessage (path : Path) :
    (Report.absentMessage path).toList[0]? = some 'r' :=
  initial_append (by decide) _

theorem initial_unknownMessage (name : String) :
    (Scenario.unknownMessage name).toList[0]? = some 'u' :=
  initial_append (initial_append (initial_append (by decide) _) _) _

/-- Every text of a conclusion begins in another way. -/
theorem eighth_of_concluded {words : String}
    (told : Notice.text words ∈ (concluded .checkDetection e given t).notices) :
    words.toList[7]? ≠ some 'f' := by
  have cause := concludes e given t
  generalize concluded .checkDetection e given t = c at told cause
  cases cause with
  | listed _ => cases told
  | lacking _ _ =>
    rw [Notice.text.inj (List.mem_singleton.1 told)]
    simp only [String.append_assoc]
    rw [String.toList_append, List.getElem?_append_left (by decide)]
    decide
  | absent _ _ _ _ =>
    rw [Notice.text.inj (List.mem_singleton.1 told), String.append_assoc,
      eighth_of_error (initial_absentMessage _)]
    decide
  | unknown _ _ _ _ _ =>
    rw [Notice.text.inj (List.mem_singleton.1 told), String.append_assoc,
      eighth_of_error (initial_unknownMessage _)]
    decide
  | unread _ _ _ present failed =>
    rw [Notice.text.inj (List.mem_singleton.1 told)]
    obtain ⟨cause, rfl⟩ | ⟨error, rfl⟩ :=
      FileTree.fault_of_exists (FileTree.exists?_iff.2 present) failed
    · rw [eighth_of_error (initial_unreadable _ _)]
      decide
    · rw [eighth_of_error (initial_malformed _)]
      decide
  | ran _ _ _ _ _ _ _ =>
    -- A run with a verdict writes nothing but records.
    obtain ⟨record, -, same⟩ := List.mem_map.1 told
    cases same

/-! ## 4. A run without a report -/

/-- A run of `check-detection` that its arguments allow ends in one of two ways without a report.
If the path of the report leads to nothing, this is told as a wrong invocation, with status 2. If
it leads to something that gives no report, the fault is told with status 1, and it is one of
reading or of the text. That the report is missing is never told as a fault of loading. -/
theorem missing_report_refused (e : Environment) (t : FileTree) {args : List Bytes} {given : Given}
    (accepted : arguments .checkDetection args = .ok given) :
    (∀ u path, FileTree.Agrees u path) ∧
    let o := run .checkDetection e args t
    (∀ missing, ¬ Tells o (.notFound missing)) ∧
    (given.list = false → ∀ path name, given.report = some path → given.scenario = some name →
      o.tree.exists? path = false →
        Refuses o .reportNotFound ("ERROR: report not found: " ++ path.shown ++ "\n")) ∧
    ∀ path fault, Reads o.tree given .checkDetection path →
      o.tree.loadReport path = .error fault →
        Tells o fault ∧ o.conclusion.status = 1 ∧
          ((∃ cause, fault = .unreadable path cause) ∨ ∃ error, fault = .malformed error) := by
  refine ⟨FileTree.agrees, fun missing told => ?_, fun asked path name report scenario absent => ?_,
    fun path fault reads failed => ?_⟩
  · exact eighth_of_concluded ((text_mem_notices_iff accepted).1 told)
      (eighth_of_error (initial_notFound missing) _)
  · have nowhere : ¬ (run .checkDetection e args t).tree.Leads path := by
      rw [← FileTree.exists?_iff, absent]
      exact Bool.false_ne_true
    exact refuses_of_concluded accepted rfl (concluded_of_absent asked report scenario nowhere)
  · obtain ⟨consults, present⟩ := reads
    cases consults with | checkDetection s asked report scenario
    have leads := present rfl
    have said := concluded_of_scenario (e := e) asked report scenario leads
    rw [detectIn_of_fault failed] at said
    refine ⟨?_, ?_, FileTree.fault_of_exists (FileTree.exists?_iff.2 leads) failed⟩
    · rw [Tells, text_mem_notices_iff accepted, said]
      exact List.mem_singleton_self _
    · rw [status_run accepted, said]
      exact exitStatus_loadFault fault

/-- Nothing is called `new` beside the directory, and so it is refused. -/
theorem missing_report_refused_of_new :
    let path := Utf8.encode "new"
    let given := { Given.none with report := some path, scenario := some Scenario.cpuBurn.name }
    let o := run .checkDetection .empty askAbsent directoryAlone
    arguments .checkDetection askAbsent = .ok given ∧ o.tree.exists? path = false ∧
      (∀ missing, ¬ Tells o (.notFound missing)) ∧
      Refuses o .reportNotFound ("ERROR: report not found: " ++ Path.shown path ++ "\n") := by
  intro path given o
  have accepted : arguments .checkDetection askAbsent = .ok given := by decide +kernel
  have tree : o.tree = directoryAlone :=
    tree_run_of_withoutLogFile accepted ⟨rfl, fun value text set => nomatch set⟩
  have absent : o.tree.exists? path = false := by
    rw [tree]
    decide +kernel
  obtain ⟨-, untold, refused, -⟩ := missing_report_refused .empty directoryAlone accepted
  exact ⟨accepted, absent, untold, refused rfl path _ rfl rfl absent⟩

end CommandLine

end HealthReport
