import HealthReport.Proofs.Config.Dependence
import HealthReport.Proofs.Text.AsciiCase
import Mathlib.Data.List.Forall2

/-!
# Faults in a session of readings

A session keeps the fault of each reading until somebody takes it. However changes of the
environment, readings and takings are mixed, no fault is lost and none is told twice: those taken,
one taking after the other, and then those left are the faults due, in the order of the readings.
A reading itself answers by its variable alone, whatever has been read or taken before it.

Results:
1. `noted_eq_some_iff`: the fault of a reading is the one due for it.
2. `taken_step`, `fits_step`, `answer_step_congr`: what one step takes, leaves and answers.
3. `due_run`, `environment_run`, `answer_run`: the same for a whole session.
4. `run_faults_complete`: the two results together.
-/
namespace HealthReport

open Environment

/-! ## Definitions -/

/-- The variable holds bytes that are this text. -/
def Environment.Holds (e : Environment) (variableName text : String) : Prop :=
  ∃ value, e.bytes? variableName = some value ∧ Utf8.decode? value = some text

namespace ConfigStep

/-- The environment after a step. -/
def after (e : Environment) : ConfigStep → Environment
  | .set name value => e.set name value
  | .unset name => e.unset name
  | .choice _ _ _ => e
  | .logLevel _ _ => e
  | .path _ => e
  | .take => e

/-- The step reads the setting of this name. -/
inductive Reads (name : String) : ConfigStep → Prop
  | choice {fallback : String} {words : List String} : Reads name (.choice name fallback words)
  | logLevel {fallback : String} : Reads name (.logLevel name fallback)
  | path : Reads name (.path name)

/-- The step reads a variable whose value it cannot use, with the fault due for it. A level may be
written in capitals, and a choice in any way that has one of the words as its lower case. -/
inductive Rejects (e : Environment) : ConfigStep → ConfigFault → Prop
  | choice {name fallback text : String} {words : List String}
      (held : e.Holds (variableName name) text) (strange : lowercase text ∉ words) :
      Rejects e (.choice name fallback words)
        (.invalidValue (variableName name) ("/".intercalate words) text)
  | logLevel {name fallback text : String} (held : e.Holds (variableName name) text)
      (strange : ∀ word ∈ levelWords, ¬ Case.Spells text.toList word) :
      Rejects e (.logLevel name fallback) (.invalidLevel (variableName name) text)

/-- The faults due in a session that begins in an environment: one for each step that rejects the
value its variable has by then, and none for any other step. -/
inductive Due : Environment → List ConfigStep → List ConfigFault → Prop
  | nil {e : Environment} : Due e [] []
  | rejected {e : Environment} {step : ConfigStep} {fault : ConfigFault}
      {rest : List ConfigStep} {faults : List ConfigFault} (rejects : Rejects e step fault)
      (later : Due (after e step) rest faults) : Due e (step :: rest) (fault :: faults)
  | accepted {e : Environment} {step : ConfigStep} {rest : List ConfigStep}
      {faults : List ConfigFault} (accepts : ∀ fault, ¬ Rejects e step fault)
      (later : Due (after e step) rest faults) : Due e (step :: rest) faults

/-- The answer is of the kind that the step asks for. -/
inductive Fits : ConfigStep → ConfigAnswer → Prop
  | set {name : String} {value : Bytes} : Fits (.set name value) .done
  | unset {name : String} : Fits (.unset name) .done
  | choice {name fallback : String} {words : List String} {setting : Sourced String} :
      Fits (.choice name fallback words) (.text setting)
  | logLevel {name fallback : String} {setting : Sourced String} :
      Fits (.logLevel name fallback) (.text setting)
  | path {name : String} {setting : Sourced (Option Bytes)} : Fits (.path name) (.path setting)
  | take {faults : List ConfigFault} : Fits .take (.faults faults)

/-- The fault that a session notes at a step. -/
def noted (e : Environment) : ConfigStep → Option ConfigFault
  | .choice name fallback words => (e.choice name fallback words).fault
  | .logLevel name fallback => (e.logLevel name fallback).fault
  | _ => none

end ConfigStep

/-- The faults that an answer hands over. -/
def ConfigAnswer.taken : ConfigAnswer → List ConfigFault
  | .faults found => found
  | _ => []

/-! ## 1. The fault of a reading -/

namespace Environment

variable {e : Environment} {name : String}

theorem text?_eq_some_iff {text : String} : e.text? name = some text ↔ e.Holds name text :=
  Option.bind_eq_some_iff

theorem fault_read_eq_some_iff {α : Type} {fallback : α} {accept : String → Option α}
    {mk : String → String → ConfigFault} {fault : ConfigFault} :
    (e.read name fallback accept mk).fault = some fault ↔
      ∃ text, e.Holds (variableName name) text ∧ accept text = none ∧
        mk (variableName name) text = fault := by
  rw [read]
  constructor
  · intro noted
    split at noted
    · cases noted
    · rename_i text held
      split at noted
      · cases noted
      · rename_i refused
        exact ⟨text, text?_eq_some_iff.1 held, refused, Option.some.inj noted⟩
  · rintro ⟨text, held, refused, rfl⟩
    simp only [text?_eq_some_iff.2 held, refused]

theorem wordOf?_eq_none_iff {words : List String} {text : String} :
    wordOf? words text = none ↔ lowercase text ∉ words := by
  simp only [wordOf?, ite_eq_right_iff, reduceCtorEq, imp_false]

/-- A level is found just where it is written out, in small letters or capitals. -/
theorem lowercase_notMem_levelWords_iff {text : String} :
    lowercase text ∉ levelWords ↔ ∀ word ∈ levelWords, ¬ Case.Spells text.toList word := by
  have ascii : ∀ word ∈ levelWords, Case.IsAsciiWord word := by decide
  constructor
  · intro strange word listed spells
    exact strange ((Case.lowercase_eq_iff (ascii word listed)).2 spells ▸ listed)
  · intro strange listed
    exact strange _ listed ((Case.lowercase_eq_iff (ascii _ listed)).1 rfl)

end Environment

namespace ConfigStep

variable {e : Environment} {step : ConfigStep} {fault : ConfigFault}

theorem noted_eq_some_iff : noted e step = some fault ↔ Rejects e step fault := by
  constructor
  · intro found
    cases step with
    | choice name fallback words =>
      obtain ⟨text, held, refused, rfl⟩ := fault_read_eq_some_iff.1 found
      exact .choice held (wordOf?_eq_none_iff.1 refused)
    | logLevel name fallback =>
      obtain ⟨text, held, refused, rfl⟩ := fault_read_eq_some_iff.1 found
      exact .logLevel held (lowercase_notMem_levelWords_iff.1 (wordOf?_eq_none_iff.1 refused))
    | set | unset | path | take => cases found
  · rintro (⟨held, strange⟩ | ⟨held, strange⟩)
    · exact fault_read_eq_some_iff.2 ⟨_, held, wordOf?_eq_none_iff.2 strange, rfl⟩
    · refine fault_read_eq_some_iff.2 ⟨_, held, wordOf?_eq_none_iff.2 ?_, rfl⟩
      exact lowercase_notMem_levelWords_iff.2 strange

theorem Rejects.unique {fault' : ConfigFault} (h : Rejects e step fault)
    (h' : Rejects e step fault') : fault = fault' :=
  Option.some.inj ((noted_eq_some_iff.2 h).symm.trans (noted_eq_some_iff.2 h'))

theorem Due.cons {rest : List ConfigStep} {faults : List ConfigFault}
    (later : Due (after e step) rest faults) :
    Due e (step :: rest) ((noted e step).toList ++ faults) := by
  cases found : noted e step with
  | none =>
    refine .accepted (fun fault rejects => ?_) later
    rw [noted_eq_some_iff.2 rejects] at found
    cases found
  | some fault => exact .rejected (noted_eq_some_iff.1 found) later

/-- A session has only one list of faults due. -/
theorem Due.unique {steps : List ConfigStep} {faults faults' : List ConfigFault}
    (h : Due e steps faults) (h' : Due e steps faults') : faults = faults' := by
  induction h generalizing faults' with
  | nil =>
    cases h'
    rfl
  | rejected rejects _ ih =>
    cases h' with
    | rejected rejects' later' => rw [rejects.unique rejects', ih later']
    | accepted accepts _ => exact absurd rejects (accepts _)
  | accepted accepts _ ih =>
    cases h' with
    | rejected rejects' _ => exact absurd rejects' (accepts _)
    | accepted _ later' => exact ih later'

end ConfigStep

/-! ## 2. One step -/

namespace ConfigSession

open ConfigStep ConfigAnswer

variable {s s' : ConfigSession}

theorem environment_step (s : ConfigSession) (step : ConfigStep) :
    (s.step step).1.environment = after s.environment step := by
  cases step <;> rfl

theorem fits_step (s : ConfigSession) (step : ConfigStep) : Fits step (s.step step).2 := by
  cases step <;> constructor

/-- What a step hands over and what it leaves are the faults from before, and its own after them. -/
theorem taken_step (s : ConfigSession) (step : ConfigStep) :
    (s.step step).2.taken ++ (s.step step).1.faults =
      s.faults ++ (noted s.environment step).toList := by
  cases step with
  | choice | logLevel => rfl
  | set | unset | path | take =>
    simp [ConfigSession.step, taken, noted]

theorem answer_step_congr {name : String} {step : ConfigStep} (reads : Reads name step)
    (same : s.environment.bytes? (variableName name) =
      s'.environment.bytes? (variableName name)) :
    (s.step step).2 = (s'.step step).2 := by
  cases reads with
  | choice | logLevel => exact congrArg (fun r => ConfigAnswer.text r.setting) (read_congr same)
  | path => exact congrArg ConfigAnswer.path (path_congr same)

/-! ## 3. A whole session -/

theorem environment_run (s : ConfigSession) (steps : List ConfigStep) :
    (s.run steps).1.environment = steps.foldl after s.environment := by
  induction steps generalizing s with
  | nil => rfl
  | cons step rest ih => rw [List.foldl_cons, ← environment_step]; exact ih (s.step step).1

theorem fits_run (s : ConfigSession) (steps : List ConfigStep) :
    List.Forall₂ Fits steps (s.run steps).2 := by
  induction steps generalizing s with
  | nil => exact .nil
  | cons step rest ih => exact .cons (fits_step s step) (ih (s.step step).1)

/-- The answer to a step of a session is the one it gives in the session up to there. -/
theorem answer_run (s : ConfigSession) (earlier : List ConfigStep) (step : ConfigStep)
    (later : List ConfigStep) :
    (s.run (earlier ++ step :: later)).2[earlier.length]? =
      some ((s.run earlier).1.step step).2 := by
  induction earlier generalizing s with
  | nil => rfl
  | cons head rest ih => exact ih (s.step head).1

theorem due_run (s : ConfigSession) (steps : List ConfigStep) :
    ∃ due, Due s.environment steps due ∧
      (s.run steps).2.flatMap taken ++ (s.run steps).1.faults = s.faults ++ due := by
  induction steps generalizing s with
  | nil => exact ⟨[], .nil, (List.append_nil _).symm⟩
  | cons step rest ih =>
    obtain ⟨due, later, kept⟩ := ih (s.step step).1
    rw [environment_step] at later
    refine ⟨(noted s.environment step).toList ++ due, .cons later, ?_⟩
    calc (s.run (step :: rest)).2.flatMap taken ++ (s.run (step :: rest)).1.faults
        = (s.step step).2.taken ++ (((s.step step).1.run rest).2.flatMap taken ++
            ((s.step step).1.run rest).1.faults) := List.append_assoc ..
      _ = (s.step step).2.taken ++ ((s.step step).1.faults ++ due) := by rw [kept]
      _ = s.faults ++ ((noted s.environment step).toList ++ due) := by
        rw [← List.append_assoc, taken_step, List.append_assoc]

/-! ## 4. Faults and settings -/

/-- In every session each step is answered in its kind, and the faults taken, then those left, are
the faults due. In any two sessions, readings of one setting on the same value answer the same. -/
theorem run_faults_complete :
    (∀ (e : Environment) (steps : List ConfigStep),
      let (final, answers) := (⟨e, []⟩ : ConfigSession).run steps
      List.Forall₂ Fits steps answers ∧
      ∀ faults, Due e steps faults ↔ answers.flatMap taken ++ final.faults = faults) ∧
    ∀ (e e' : Environment) (earlier later earlier' later' : List ConfigStep) (step : ConfigStep)
      (name : String), Reads name step →
      (earlier.foldl after e).bytes? (variableName name) =
        (earlier'.foldl after e').bytes? (variableName name) →
      ∃ answer,
        ((⟨e, []⟩ : ConfigSession).run (earlier ++ step :: later)).2[earlier.length]? =
          some answer ∧
        ((⟨e', []⟩ : ConfigSession).run (earlier' ++ step :: later')).2[earlier'.length]? =
          some answer := by
  constructor
  · intro e steps
    obtain ⟨due, isDue, kept⟩ := due_run ⟨e, []⟩ steps
    refine ⟨fits_run ⟨e, []⟩ steps, fun faults => ?_⟩
    rw [kept]
    exact ⟨fun h => isDue.unique h, fun same => same ▸ isDue⟩
  · intro e e' earlier later earlier' later' step name reads same
    refine ⟨_, answer_run ⟨e, []⟩ earlier step later, ?_⟩
    rw [answer_run]
    refine congrArg some (answer_step_congr reads ?_).symm
    rw [environment_run, environment_run]
    exact same

/-- A format that is no choice, read again when it has been taken and unset, a level that is none,
and a level that is no text. -/
def mixedSteps : List ConfigStep :=
  [.set "MELISAI_FORMAT" (Utf8.encode "Xml"), .choice "FORMAT" "text" ["text", "json"], .take,
    .unset "MELISAI_FORMAT", .choice "FORMAT" "text" ["text", "json"],
    .set "MELISAI_LEVEL" (Utf8.encode "loud"), .path "LEVEL", .logLevel "LEVEL" "info",
    .set "MELISAI_LEVEL" [0xFF], .logLevel "LEVEL" "info"]

theorem run_faults_complete_of_mixed :
    Due .empty mixedSteps [.invalidValue "MELISAI_FORMAT" "text/json" "Xml",
        .invalidLevel "MELISAI_LEVEL" "loud"] ∧
      ∃ answer,
        ((⟨.empty, []⟩ : ConfigSession).run mixedSteps).2[1]? = some answer ∧
        ((⟨⟨[("MELISAI_FORMAT", Utf8.encode "Xml")]⟩, []⟩ : ConfigSession).run
          [.take, .choice "FORMAT" "text" ["text", "json"]]).2[1]? = some answer := by
  refine ⟨((run_faults_complete.1 .empty mixedSteps).2 _).2 (by decide +kernel), ?_⟩
  exact run_faults_complete.2 .empty ⟨[("MELISAI_FORMAT", Utf8.encode "Xml")]⟩
    [.set "MELISAI_FORMAT" (Utf8.encode "Xml")] _ [.take] [] (.choice "FORMAT" "text" _) "FORMAT"
    .choice (by decide +kernel)

end ConfigSession

end HealthReport
