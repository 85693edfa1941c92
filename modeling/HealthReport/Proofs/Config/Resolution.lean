import HealthReport.Proofs.Config.Words
import HealthReport.Proofs.Text.WellFormed

/-!
# What becomes of a configured value

A variable that is set denotes a value of its setting, or it denotes none. One that holds text is
never dropped: its setting is the value that it denotes, or a fault names the variable. Bytes that
are no text count as an unset variable, also where they denote a path, so they are dropped without a
word. There is no other way to lose a value.

Results:
1. `Denotes.unique`: a value denotes one setting at most.
2. `resolution_cases`: all that reading a setting can come to.
3. `kept_iff_isText`: a value is kept or told about just when it is text.
4. `strayBytes_dropped`: a path that is no text is dropped.
-/
namespace HealthReport

open Environment

/-! ## Definitions -/

/-- The settings of a run by name. -/
inductive SettingName where
  | logLevel
  | logLayout
  | logFile
  | outputFormat
deriving DecidableEq

namespace SettingName

/-- The variable that the setting is read from. -/
def variableName : SettingName → String
  | logLevel => "MELISAI_LOG_LEVEL"
  | logLayout => "MELISAI_LOG_FORMAT"
  | logFile => "MELISAI_LOG_FILE"
  | outputFormat => "MELISAI_OUTPUT_FORMAT"

/-- What the setting can be. -/
def Value : SettingName → Type
  | logLevel => String
  | logLayout => Log.Layout
  | logFile => Option Bytes
  | outputFormat => OutputFormat

/-- The value that is built in. -/
def standard : (x : SettingName) → x.Value
  | logLevel => Settings.standardLevel
  | logLayout => Log.Layout.standard
  | logFile => none
  | outputFormat => OutputFormat.standard

end SettingName

/-- The setting of this name. -/
def Settings.get (s : Settings) : (x : SettingName) → Sourced x.Value
  | .logLevel => s.logLevel
  | .logLayout => s.logLayout
  | .logFile => s.logFile
  | .outputFormat => s.outputFormat

namespace Utf8

/-- The bytes are text. -/
def IsText (value : Bytes) : Prop := ∃ text, decode? value = some text

/-- The bytes are text without anything but blanks. -/
def IsBlank (value : Bytes) : Prop :=
  ∃ text, decode? value = some text ∧ ∀ c ∈ text.toList, isBlank c = true

/-- The bytes are text that spells the word, in small letters or capitals. -/
def Spells (value : Bytes) (word : String) : Prop :=
  ∃ text, decode? value = some text ∧ Case.Spells text.toList word

end Utf8

namespace SettingName

/-- The bytes of a variable denote a value of the setting: a word denotes what it names, and bytes
denote the path that they are, but blanks denote that there is no path. -/
def Denotes : (x : SettingName) → Bytes → x.Value → Prop
  | .logLevel, value, word => word ∈ levelWords ∧ Utf8.Spells value word
  | .logLayout, value, layout => Utf8.Spells value layout.label
  | .logFile, value, path =>
    (¬ Utf8.IsBlank value ∧ path = some value) ∨ (Utf8.IsBlank value ∧ path = none)
  | .outputFormat, value, format => Utf8.Spells value format.label

end SettingName

/-- All that reading a setting can come to: its variable holds no text, or a text that denotes a
value, or one that denotes none. -/
inductive Resolves (e : Environment) (x : SettingName) : Sourced x.Value → Prop
  | unread (unheld : ∀ text, ¬ e.Holds x.variableName text)
      (accepted : e.Accepts x.variableName) : Resolves e x (.ofDefault x.standard)
  | taken {value : Bytes} {found : x.Value} (set : e.bytes? x.variableName = some value)
      (text : Utf8.IsText value) (denoted : x.Denotes value found)
      (accepted : e.Accepts x.variableName) : Resolves e x (.ofVariable found x.variableName)
  | refused {value : Bytes} (set : e.bytes? x.variableName = some value)
      (text : Utf8.IsText value) (strange : ∀ found, ¬ x.Denotes value found)
      (told : ∃ fault ∈ (Settings.ofEnvironment e).2, fault.variableName = x.variableName) :
      Resolves e x (.ofVariable x.standard x.variableName)

/-! ## 1. What a value denotes -/

theorem Utf8.Spells.isText {value : Bytes} {word : String} (h : Utf8.Spells value word) :
    Utf8.IsText value := by
  obtain ⟨text, decoded, -⟩ := h
  exact ⟨text, decoded⟩

/-- Bytes spell one word at most. -/
theorem Utf8.Spells.unique {value : Bytes} {word word' : String} (h : Utf8.Spells value word)
    (h' : Utf8.Spells value word') : word = word' := by
  obtain ⟨text, decoded, spells⟩ := h
  obtain ⟨text', decoded', spells'⟩ := h'
  cases decoded.symm.trans decoded'
  exact String.toList_inj.1 (spells.symm.trans spells')

theorem Utf8.spells_iff {value : Bytes} {text word : String}
    (decoded : Utf8.decode? value = some text) :
    Utf8.Spells value word ↔ Case.Spells text.toList word := by
  constructor
  · rintro ⟨text', decoded', spells⟩
    cases decoded.symm.trans decoded'
    exact spells
  · exact fun spells => ⟨text, decoded, spells⟩

theorem Utf8.isBlank_iff {value : Bytes} {text : String}
    (decoded : Utf8.decode? value = some text) :
    Utf8.IsBlank value ↔ (trimBlanks text.toList).isEmpty = true := by
  rw [List.isEmpty_iff, trimBlanks_eq_nil_iff]
  constructor
  · rintro ⟨text', decoded', blank⟩
    cases decoded.symm.trans decoded'
    exact blank
  · exact fun blank => ⟨text, decoded, blank⟩

namespace SettingName

variable {value : Bytes}

theorem Denotes.unique {x : SettingName} {found found' : x.Value} (h : x.Denotes value found)
    (h' : x.Denotes value found') : found = found' := by
  cases x with
  | logLevel => exact h.2.unique h'.2
  | logLayout => exact Log.Layout.labels.label_injective (Utf8.Spells.unique h h')
  | logFile =>
    rcases h with ⟨filled, rfl⟩ | ⟨blank, rfl⟩ <;> rcases h' with ⟨filled', rfl⟩ | ⟨blank', rfl⟩
    · rfl
    · exact absurd blank' filled
    · exact absurd blank filled'
    · rfl
  | outputFormat => exact OutputFormat.labels.label_injective (Utf8.Spells.unique h h')

/-- Bytes that are no text denote nothing but a path, which is not what is built in. -/
theorem isText_of_denotes_standard {x : SettingName} (h : x.Denotes value x.standard) :
    Utf8.IsText value := by
  cases x with
  | logLevel => exact h.2.isText
  | logLayout | outputFormat => exact Utf8.Spells.isText h
  | logFile =>
    rcases h with ⟨-, none⟩ | ⟨⟨text, decoded, -⟩, -⟩
    · cases none
    · exact ⟨text, decoded⟩

end SettingName

theorem Labels.getD_ofText?_label {α : Type} {words : List String} {label : α → String}
    {ofText? : String → Option α} (l : Labels words label ofText?) (a other : α) :
    (ofText? (label a)).getD other = a := by
  rw [l.ofText?_label, Option.getD_some]

/-- The bytes spell the label of a value just when they spell a word that is read as this value. -/
theorem Labels.spells_label_iff {α : Type} {words : List String} {label : α → String}
    {ofText? : String → Option α} (l : Labels words label ofText?) {value : Bytes} {a : α}
    (standard : α) : Utf8.Spells value (label a) ↔
      ∃ word ∈ words, Utf8.Spells value word ∧ (ofText? word).getD standard = a := by
  constructor
  · exact fun spells => ⟨label a, l.label_mem a, spells, l.getD_ofText?_label a standard⟩
  · rintro ⟨word, listed, spells, rfl⟩
    obtain ⟨b, rfl⟩ := (l.mem_words_iff word).1 listed
    rwa [l.getD_ofText?_label]

/-! ## 2. Reading a setting -/

namespace Settings

variable {e : Environment} {x : SettingName} {value : Bytes}

theorem not_accepts_iff {name : String} :
    ¬ e.Accepts name ↔ ∃ fault ∈ (ofEnvironment e).2, fault.variableName = name := by
  simp [Environment.Accepts]

/-- What reading a setting comes to, where its variable holds a word that is then parsed. -/
theorem resolves_of_word {name fallback : String} {words : List String}
    {mk : String → String → ConfigFault} {parse : String → x.Value}
    (ascii : ∀ word ∈ words, Case.IsAsciiWord word)
    (read : x.variableName = Environment.variableName name)
    (setting : (ofEnvironment e).1.get x =
      (e.read name fallback (wordOf? words) mk).setting.map parse)
    (standard : parse fallback = x.standard)
    (accepts : e.Accepts x.variableName ↔ (e.read name fallback (wordOf? words) mk).fault = none)
    (denotes : ∀ value found, x.Denotes value found ↔
      ∃ word ∈ words, Utf8.Spells value word ∧ parse word = found) :
    Resolves e x ((ofEnvironment e).1.get x) := by
  rw [setting]
  rcases e.read_word_cases name fallback mk ascii with
    ⟨unheld, reading⟩ | ⟨text, ⟨value, set, decoded⟩, found⟩
  · rw [reading] at accepts ⊢
    rw [← read] at unheld
    have unread : Resolves e x (.ofDefault x.standard) := .unread unheld (accepts.2 rfl)
    rwa [← standard] at unread
  rw [← read] at set
  rcases found with ⟨word, listed, spells, reading⟩ | ⟨strange, reading⟩
  · rw [reading] at accepts ⊢
    have denoted : x.Denotes value (parse word) :=
      (denotes value _).2 ⟨word, listed, ⟨text, decoded, spells⟩, rfl⟩
    have taken : Resolves e x (.ofVariable (parse word) x.variableName) :=
      .taken set ⟨text, decoded⟩ denoted (accepts.2 rfl)
    rwa [read] at taken
  · rw [reading] at accepts ⊢
    have denotesNone : ∀ found, ¬ x.Denotes value found := by
      intro found denoted
      obtain ⟨word, listed, spells, -⟩ := (denotes value found).1 denoted
      exact strange word listed ((Utf8.spells_iff decoded).1 spells)
    have told := not_accepts_iff.1 fun accepted => nomatch accepts.1 accepted
    have refused : Resolves e x (.ofVariable x.standard x.variableName) :=
      .refused set ⟨text, decoded⟩ denotesNone told
    rwa [read, ← standard] at refused

theorem resolves_logFile (e : Environment) :
    Resolves e .logFile (e.path "LOG_FILE") := by
  have read : SettingName.logFile.variableName = Environment.variableName "LOG_FILE" := rfl
  rw [path, ← read]
  cases held : e.text? SettingName.logFile.variableName with
  | none =>
    refine .unread (fun text holds => ?_) accepts_logFile
    rw [text?_eq_some_iff.2 holds] at held
    cases held
  | some text =>
    obtain ⟨value, set, decoded⟩ := text?_eq_some_iff.1 held
    by_cases blank : (trimBlanks text.toList).isEmpty = true
    · simp only [blank, if_true]
      exact .taken set ⟨text, decoded⟩ (.inr ⟨(Utf8.isBlank_iff decoded).2 blank, rfl⟩)
        accepts_logFile
    · simp only [blank, Bool.false_eq_true, if_false]
      have same : Utf8.encode text = value := (Utf8.decode?_eq_some_iff.1 decoded).symm
      have filled : ¬ Utf8.IsBlank value := fun h => blank ((Utf8.isBlank_iff decoded).1 h)
      rw [same]
      exact .taken set ⟨text, decoded⟩ (.inl ⟨filled, rfl⟩) accepts_logFile

theorem resolves (e : Environment) (x : SettingName) :
    Resolves e x ((ofEnvironment e).1.get x) := by
  cases x with
  | logLevel =>
    have setting : (ofEnvironment e).1.get .logLevel = (levelReading e).setting.map id := rfl
    refine resolves_of_word ascii_levelWords rfl setting rfl accepts_logLevel_iff ?_
    intro value word
    constructor
    · rintro ⟨listed, spells⟩
      exact ⟨word, listed, spells, rfl⟩
    · rintro ⟨word, listed, spells, rfl⟩
      exact ⟨listed, spells⟩
  | logLayout =>
    have standard := Log.Layout.labels.getD_ofText?_label .standard .standard
    exact resolves_of_word Log.Layout.labels.ascii rfl rfl standard accepts_logLayout_iff
      fun value layout => Log.Layout.labels.spells_label_iff .standard
  | logFile => exact resolves_logFile e
  | outputFormat =>
    have standard := OutputFormat.labels.getD_ofText?_label .standard .standard
    exact resolves_of_word OutputFormat.labels.ascii rfl rfl standard accepts_outputFormat_iff
      fun value format => OutputFormat.labels.spells_label_iff .standard

/-! ## 3. Values that are kept -/

/-- A value that is set is kept, so that the setting is what it denotes, or told about in a fault,
just when it is text, and never both. A value that is no text counts as unset. -/
theorem kept_iff_isText (set : e.bytes? x.variableName = some value) :
    let setting := (ofEnvironment e).1.get x
    let kept := x.Denotes value setting.value
    let told := ∃ fault ∈ (ofEnvironment e).2, fault.variableName = x.variableName
    (kept ∨ told ↔ Utf8.IsText value) ∧ ¬ (kept ∧ told) ∧
      (¬ Utf8.IsText value → setting = .ofDefault x.standard ∧ ¬ told) := by
  intro setting kept told
  have resolved : Resolves e x setting := resolves e x
  have untold : e.Accepts x.variableName → ¬ told :=
    fun accepted found => not_accepts_iff.2 found accepted
  clear_value setting
  cases resolved with
  | unread unheld accepted =>
    have stray : ¬ Utf8.IsText value := fun ⟨text, decoded⟩ => unheld text ⟨value, set, decoded⟩
    have lost : ¬ kept := fun denoted => stray (SettingName.isText_of_denotes_standard denoted)
    exact ⟨iff_of_false (not_or_intro lost (untold accepted)) stray, fun both => lost both.1,
      fun _ => ⟨rfl, untold accepted⟩⟩
  | taken set' text denoted accepted =>
    cases set.symm.trans set'
    exact ⟨iff_of_true (.inl denoted) text, fun both => untold accepted both.2, absurd text⟩
  | refused set' text strange found =>
    cases set.symm.trans set'
    exact ⟨iff_of_true (.inr found) text, fun both => strange _ both.1, absurd text⟩

/-- A level in capitals, a path, and a format that is unknown. -/
def mixedValues : Environment :=
  ⟨[("MELISAI_LOG_LEVEL", Utf8.encode "Info"), ("MELISAI_LOG_FILE", Utf8.encode "run.log"),
    ("MELISAI_OUTPUT_FORMAT", Utf8.encode "yaml")]⟩

/-- The unknown format is told about, not dropped. -/
theorem kept_iff_isText_of_mixed :
    mixedValues.bytes? SettingName.outputFormat.variableName = some (Utf8.encode "yaml") ∧
      Utf8.IsText (Utf8.encode "yaml") ∧
      (SettingName.outputFormat.Denotes (Utf8.encode "yaml")
          ((ofEnvironment mixedValues).1.get .outputFormat).value ∨
        ∃ fault ∈ (ofEnvironment mixedValues).2,
          fault.variableName = SettingName.outputFormat.variableName) := by
  have set : mixedValues.bytes? SettingName.outputFormat.variableName =
    some (Utf8.encode "yaml") := by decide +kernel
  have text : Utf8.IsText (Utf8.encode "yaml") := ⟨"yaml", Utf8.decode?_encode "yaml"⟩
  exact ⟨set, text, (kept_iff_isText set).1.2 text⟩

/-! ## 4. Values that are dropped -/

/-- A path with a byte that is no text, and a level that is none. -/
def strayBytes : Environment :=
  ⟨[("MELISAI_LOG_FILE", [0x2F, 0xFF]), ("MELISAI_LOG_LEVEL", [0xFF])]⟩

/-- The path is not blank, but neither is it the path of the log file nor does a fault tell of it,
and neither is the level kept nor told about. -/
theorem strayBytes_dropped :
    strayBytes.bytes? SettingName.logFile.variableName = some [0x2F, 0xFF] ∧
      ¬ Utf8.IsBlank [0x2F, 0xFF] ∧
      ¬ (SettingName.logFile.Denotes [0x2F, 0xFF]
          ((ofEnvironment strayBytes).1.get .logFile).value ∨
        ∃ fault ∈ (ofEnvironment strayBytes).2,
          fault.variableName = SettingName.logFile.variableName) ∧
      strayBytes.bytes? SettingName.logLevel.variableName = some [0xFF] ∧
      ¬ (SettingName.logLevel.Denotes [0xFF]
          ((ofEnvironment strayBytes).1.get .logLevel).value ∨
        ∃ fault ∈ (ofEnvironment strayBytes).2,
          fault.variableName = SettingName.logLevel.variableName) := by
  have strayPath : Utf8.decode? [0x2F, 0xFF] = none := by decide +kernel
  have strayLevel : Utf8.decode? [0xFF] = none := by decide +kernel
  have faultless : (ofEnvironment strayBytes).2 = [] := rfl
  have filled : ¬ Utf8.IsBlank [0x2F, 0xFF] := by
    rintro ⟨text, decoded, -⟩
    cases strayPath.symm.trans decoded
  refine ⟨by decide +kernel, filled, ?_, by decide +kernel, ?_⟩
  · rintro (denoted | ⟨fault, listed, -⟩)
    · rcases denoted with ⟨-, dropped⟩ | ⟨blank, -⟩
      · cases dropped
      · exact filled blank
    · rw [faultless] at listed
      cases listed
  · rintro (⟨-, text, decoded, -⟩ | ⟨fault, listed, -⟩)
    · cases strayLevel.symm.trans decoded
    · rw [faultless] at listed
      cases listed

end Settings

end HealthReport
