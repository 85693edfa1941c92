import HealthReport.CommandLine.Run
import HealthReport.Proofs.Log.Installation
import Mathlib.Data.List.DropRight

/-!
# What the settings of a run depend on

Each setting is read from a variable of its own, and a flag goes before the variable. Whatever the
variables hold, the level is one that a filter can be made of, so logging is always set up.

Results:
1. `read_congr`, `path_congr`, `logLevel_mem_levelWords`: what reading a variable gives.
2. `logFile_eq_none_iff`: when a run has no log file.
3. `outputFormat_congr`, `logFile_congr`: which variable and which flag a setting depends on.
4. `started_eq`: setting logging up succeeds, and its files depend on the log file alone.
-/
namespace HealthReport

/-! ## Definitions -/

/-- The environments hold the same, the variables with some names apart. -/
def Environment.AgreeExcept (names : List String) (e e' : Environment) : Prop :=
  ∀ name, name ∉ names → e.bytes? name = e'.bytes? name

/-- Nothing names a log file: there is no flag for one, and the variable is unset, or its value is
no text or a blank one. -/
structure WithoutLogFile (e : Environment) (flag : Option Path) : Prop where
  flag : flag = none
  variableBlank : ∀ value text, e.bytes? "MELISAI_LOG_FILE" = some value →
    Utf8.decode? value = some text → ∀ c ∈ text.toList, isBlank c = true

/-! ## 1. Reading a variable -/

theorem trimBlanks_eq_nil_iff (chars : List Char) :
    trimBlanks chars = [] ↔ ∀ c ∈ chars, isBlank c = true := by
  have ends : trimBlanks chars = (chars.dropWhile isBlank).rdropWhile isBlank := rfl
  rw [ends, List.rdropWhile_eq_nil_iff]
  constructor
  · intro blank c member
    rw [← List.takeWhile_append_dropWhile (p := isBlank) (l := chars), List.mem_append] at member
    rcases member with first | later
    · exact List.mem_takeWhile_imp first
    · exact blank c later
  · intro blank c later
    exact blank c ((List.dropWhile_sublist isBlank).subset later)

namespace Environment

variable {e e' : Environment} {name : String}

theorem agreeExcept_set (e : Environment) {names : List String} (member : name ∈ names)
    (value : Bytes) : e.AgreeExcept names (e.set name value) := by
  intro other apart
  have different : other ≠ name := fun same => apart (same ▸ member)
  rw [bytes?_set_of_ne e value different]

theorem read_congr {α : Type} {fallback : α} {accept : String → Option α}
    {fault : String → String → ConfigFault}
    (same : e.bytes? (variableName name) = e'.bytes? (variableName name)) :
    e.read name fallback accept fault = e'.read name fallback accept fault := by
  rw [read, read, text?, text?, same]

theorem path_congr (same : e.bytes? (variableName name) = e'.bytes? (variableName name)) :
    e.path name = e'.path name := by
  rw [path, path, text?, text?, same]

theorem path_value_eq_none_iff (e : Environment) (name : String) :
    (e.path name).value = none ↔ ∀ value text, e.bytes? (variableName name) = some value →
      Utf8.decode? value = some text → ∀ c ∈ text.toList, isBlank c = true := by
  rw [path]
  cases held : e.text? (variableName name) with
  | none =>
    refine iff_of_true rfl fun value text set decoded => ?_
    rw [text?, set, Option.bind_some, decoded] at held
    cases held
  | some text =>
    obtain ⟨value, set, decoded⟩ := Option.bind_eq_some_iff.1 held
    -- The value and its text are the only ones, so the blanks are those of this text.
    have only : (∀ value' text', e.bytes? (variableName name) = some value' →
        Utf8.decode? value' = some text' → ∀ c ∈ text'.toList, isBlank c = true) ↔
        ∀ c ∈ text.toList, isBlank c = true := by
      constructor
      · intro every
        exact every value text set decoded
      · intro blank value' text' set' decoded'
        cases set.symm.trans set'
        cases decoded.symm.trans decoded'
        exact blank
    rw [only, ← trimBlanks_eq_nil_iff, ← List.isEmpty_iff]
    by_cases blank : (trimBlanks text.toList).isEmpty = true
    · simp only [blank, if_true, Sourced.ofVariable]
    · simp [blank, Sourced.ofVariable]

/-- What is read for a word is one of the words, if the fallback is. -/
theorem value_read_mem (e : Environment) (name : String) {fallback : String} {words : List String}
    {mk : String → String → ConfigFault} (known : fallback ∈ words) :
    (e.read name fallback (wordOf? words) mk).setting.value ∈ words := by
  rw [read]
  cases e.text? (variableName name) with
  | none => exact known
  | some text =>
    simp only [wordOf?]
    by_cases word : lowercase text ∈ words
    · simp only [word, if_true, Sourced.ofVariable]
    · simp only [word, if_false, Sourced.ofVariable, known]

theorem logLevel_mem_levelWords (e : Environment) (name : String) {fallback : String}
    (known : fallback ∈ levelWords) : (e.logLevel name fallback).setting.value ∈ levelWords :=
  e.value_read_mem name known

end Environment

namespace CommandLine

variable {e e' : Environment} {given given' : Given}

/-! ## 2. The log file -/

theorem logFile_settings (e : Environment) (given : Given) :
    (settings e given).1.logFile = e.path "LOG_FILE" := by
  show ((Settings.ofEnvironment e).1.withOutput given.format).logFile = e.path "LOG_FILE"
  cases given.format <;> rfl

theorem file_logConfig (e : Environment) (given : Given) :
    (logConfig (settings e given).1 given).file =
      given.logFile.orElse fun _ => (e.path "LOG_FILE").value := by
  rw [logConfig, ← logFile_settings e given]
  cases given.logFile with
  | some path => rfl
  | none => cases given.verbose <;> rfl

theorem logFile_eq_none_iff (e : Environment) (given : Given) :
    (logConfig (settings e given).1 given).file = none ↔ WithoutLogFile e given.logFile := by
  rw [file_logConfig]
  cases given.logFile with
  | some path => exact iff_of_false nofun fun h => nomatch h.flag
  | none =>
    refine (e.path_value_eq_none_iff "LOG_FILE").trans ⟨fun blank => ⟨rfl, blank⟩, ?_⟩
    exact fun h => h.variableBlank

/-! ## 3. Variables and flags -/

/-- A flag for the output format goes before the environment. -/
theorem outputFormat_of_flag {format : OutputFormat} (flag : given.format = some format) :
    (settings e given).1.outputFormat.value = format := by
  show ((Settings.ofEnvironment e).1.withOutput given.format).outputFormat.value = format
  rw [flag]
  rfl

theorem outputFormat_congr (flag : given.format = given'.format)
    (same : e.bytes? "MELISAI_OUTPUT_FORMAT" = e'.bytes? "MELISAI_OUTPUT_FORMAT") :
    (settings e given).1.outputFormat.value = (settings e' given').1.outputFormat.value := by
  show ((Settings.ofEnvironment e).1.withOutput given.format).outputFormat.value =
    ((Settings.ofEnvironment e').1.withOutput given'.format).outputFormat.value
  rw [← flag]
  cases given.format with
  | some format => rfl
  | none =>
    have reading : e.choice "OUTPUT_FORMAT" OutputFormat.standard.label ["text", "json"] =
        e'.choice "OUTPUT_FORMAT" OutputFormat.standard.label ["text", "json"] :=
      Environment.read_congr same
    simp only [Settings.withOutput, Settings.ofEnvironment, reading]

theorem logFile_congr (flag : given.logFile = given'.logFile)
    (same : e.bytes? "MELISAI_LOG_FILE" = e'.bytes? "MELISAI_LOG_FILE") :
    (logConfig (settings e given).1 given).file =
      (logConfig (settings e' given').1 given').file := by
  have reading : e.path "LOG_FILE" = e'.path "LOG_FILE" := Environment.path_congr same
  rw [file_logConfig, file_logConfig, flag, reading]

/-! ## 4. Setting logging up -/

/-- A filter can be made of every word for a level. -/
theorem isSome_filter_of_level {word : String}
    (known : word ∈ Environment.levelWords) : (Log.Filter.ofText? word).isSome := by
  have every : ∀ word ∈ Environment.levelWords, (Log.Filter.ofText? word).isSome := by
    decide +kernel
  exact every word known

theorem level_logConfig (e : Environment) (given : Given) :
    (logConfig (settings e given).1 given).level ∈ Environment.levelWords := by
  have debug : "debug" ∈ Environment.levelWords := by decide
  have standard : Settings.standardLevel ∈ Environment.levelWords := by decide
  have level : (settings e given).1.logLevel.value ∈ Environment.levelWords := by
    show ((Settings.ofEnvironment e).1.withOutput given.format).logLevel.value ∈ _
    cases given.format <;> exact e.logLevel_mem_levelWords "LOG_LEVEL" standard
  rw [logConfig]
  cases given.logFile <;> cases given.verbose
  · exact level
  · exact debug
  · exact level
  · exact debug

/-- Logging is always set up in a run, with the filter of the level. -/
theorem started_eq (e : Environment) (given : Given) (t : FileTree) :
    let config := logConfig (settings e given).1 given
    let opened := Log.Setup.openLog t config
    ∃ filter, Log.Filter.ofText? config.level = some filter ∧
      started e given t = (⟨opened.1, some (.ofConfig config filter opened.2),
        Log.Setup.openingRecords opened.2⟩, .ok ()) := by
  intro config opened
  obtain ⟨filter, made⟩ := Option.isSome_iff_exists.1
    (isSome_filter_of_level (level_logConfig e given))
  exact ⟨filter, made, Log.Setup.install_of_first made rfl⟩

end CommandLine

end HealthReport
