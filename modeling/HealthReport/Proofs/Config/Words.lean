import HealthReport.Proofs.Config.EffectiveFormat
import HealthReport.Proofs.Config.Session

/-!
# The words for a setting

A level, a layout and an output format are named by words. Lower case is taken in all scripts before
a text is compared with the words, but no character beyond ASCII has a letter of these words in its
lower case, so the texts that name a word are those that spell it, in small letters or capitals. The
variable of a setting and the reading of its text know the same words: what the variable accepts can
always be read, so the value that is kept for a text that cannot be read is never needed.

Results:
1. `wordOf?_eq_some_iff`, `Labels.ofText?_iff_spells`: which texts name which word.
2. `read_of_spells`, `read_of_strange`, `read_of_not_holds`: all that reading a word can come to.
3. `accepts_iff_fault`: a variable is accepted if its own reading has no fault.
4. `words_agree`: variables, flags and words.
-/
namespace HealthReport

open Environment

/-! ## Definitions -/

/-- The variable that a fault is about. -/
def ConfigFault.variableName : ConfigFault → String
  | invalidValue name _ _ => name
  | invalidLevel name _ => name

/-- No fault is told about the variable when the settings are read. -/
def Environment.Accepts (e : Environment) (variableName : String) : Prop :=
  ∀ fault ∈ (Settings.ofEnvironment e).2, fault.variableName ≠ variableName

/-- The words are the labels of the values, and a text names a value by its label in any case. -/
structure Labels {α : Type} (words : List String) (label : α → String)
    (ofText? : String → Option α) : Prop where
  ascii : ∀ word ∈ words, Case.IsAsciiWord word
  lower : ∀ word ∈ words, lowercase word = word
  mem_words_iff : ∀ word, word ∈ words ↔ ∃ a, word = label a
  ofText?_eq_some_iff : ∀ text a, ofText? text = some a ↔ lowercase text = label a

namespace Settings

/-- The reading of the word for a layout. -/
def layoutReading (e : Environment) : Reading String :=
  e.choice "LOG_FORMAT" Log.Layout.standard.label ["pretty", "compact", "json"]

/-- The reading of the word for an output format. -/
def formatReading (e : Environment) : Reading String :=
  e.choice "OUTPUT_FORMAT" OutputFormat.standard.label ["text", "json"]

/-- The reading of the word for a level. -/
def levelReading (e : Environment) : Reading String := e.logLevel "LOG_LEVEL" standardLevel

end Settings

/-! ## 1. Words and texts -/

theorem Environment.ascii_levelWords : ∀ word ∈ levelWords, Case.IsAsciiWord word := by decide

theorem Environment.wordOf?_eq_some_iff {words : List String} {text word : String}
    (ascii : ∀ word ∈ words, Case.IsAsciiWord word) :
    wordOf? words text = some word ↔ word ∈ words ∧ Case.Spells text.toList word := by
  simp only [wordOf?, Option.ite_none_right_eq_some, Option.some.injEq]
  constructor
  · rintro ⟨listed, rfl⟩
    exact ⟨listed, (Case.lowercase_eq_iff (ascii _ listed)).1 rfl⟩
  · rintro ⟨listed, spells⟩
    have same := (Case.lowercase_eq_iff (ascii _ listed)).2 spells
    exact ⟨same ▸ listed, same⟩

theorem find?_label_eq_some_iff {α : Type} {all : List α} {label : α → String} {word : String}
    {a : α} (listed : ∀ a, all.find? (label · == label a) = some a) :
    all.find? (label · == word) = some a ↔ word = label a := by
  constructor
  · intro found
    have same := List.find?_some found
    exact (beq_iff_eq.1 same).symm
  · rintro rfl
    exact listed a

namespace Labels

variable {α : Type} {words : List String} {label : α → String} {ofText? : String → Option α}
  {text : String} {a : α}

theorem label_mem (l : Labels words label ofText?) (a : α) : label a ∈ words :=
  (l.mem_words_iff _).2 ⟨a, rfl⟩

theorem ofText?_iff_spells (l : Labels words label ofText?) :
    ofText? text = some a ↔ Case.Spells text.toList (label a) :=
  (l.ofText?_eq_some_iff text a).trans (Case.lowercase_eq_iff (l.ascii _ (l.label_mem a)))

theorem ofText?_label (l : Labels words label ofText?) (a : α) : ofText? (label a) = some a :=
  (l.ofText?_eq_some_iff _ a).2 (l.lower _ (l.label_mem a))

theorem label_injective (l : Labels words label ofText?) {b : α} (same : label a = label b) :
    a = b := by
  have read := l.ofText?_label a
  rw [same, l.ofText?_label] at read
  exact (Option.some.inj read).symm

theorem ofText?_eq_none_iff (l : Labels words label ofText?) :
    ofText? text = none ↔ ∀ word ∈ words, ¬ Case.Spells text.toList word := by
  simp only [Option.eq_none_iff_forall_ne_some, ne_eq, l.ofText?_iff_spells]
  constructor
  · intro unknown word listed
    obtain ⟨a, rfl⟩ := (l.mem_words_iff word).1 listed
    exact unknown a
  · exact fun strange a => strange _ (l.label_mem a)

end Labels

theorem OutputFormat.labels : Labels ["text", "json"] label ofText? where
  ascii := by decide
  lower := by decide
  mem_words_iff _ := mem_words_iff
  ofText?_eq_some_iff text format :=
    find?_label_eq_some_iff (by intro known; cases known <;> rfl)

theorem Log.Layout.labels : Labels ["pretty", "compact", "json"] label ofText? where
  ascii := by decide
  lower := by decide
  mem_words_iff word := by
    constructor
    · intro listed
      simp only [List.mem_cons, List.not_mem_nil, or_false] at listed
      rcases listed with rfl | rfl | rfl
      · exact ⟨.pretty, rfl⟩
      · exact ⟨.compact, rfl⟩
      · exact ⟨.json, rfl⟩
    · rintro ⟨layout, rfl⟩
      cases layout <;> decide
  ofText?_eq_some_iff text layout :=
    find?_label_eq_some_iff (by intro known; cases known <;> rfl)

/-! ## 2. Reading a word -/

namespace Environment

variable {e : Environment} {name text word fallback : String} {words : List String}
  {mk : String → String → ConfigFault}

theorem holds_set (e : Environment) (name text : String) :
    (e.set name (Utf8.encode text)).Holds name text :=
  ⟨Utf8.encode text, bytes?_set_self e name _, Utf8.decode?_encode text⟩

theorem read_of_not_holds {α : Type} {fallback : α} {accept : String → Option α}
    (unheld : ∀ text, ¬ e.Holds (variableName name) text) :
    e.read name fallback accept mk = ⟨.ofDefault fallback, none⟩ := by
  have absent : e.text? (variableName name) = none :=
    Option.eq_none_iff_forall_ne_some.2 fun text held => unheld text (text?_eq_some_iff.1 held)
  simp only [read, absent]

theorem read_of_spells (ascii : ∀ word ∈ words, Case.IsAsciiWord word)
    (held : e.Holds (variableName name) text) (listed : word ∈ words)
    (spells : Case.Spells text.toList word) :
    e.read name fallback (wordOf? words) mk = ⟨.ofVariable word (variableName name), none⟩ := by
  have accepted : wordOf? words text = some word :=
    (wordOf?_eq_some_iff ascii).2 ⟨listed, spells⟩
  simp only [read, text?_eq_some_iff.2 held, accepted]

theorem read_of_strange (ascii : ∀ word ∈ words, Case.IsAsciiWord word)
    (held : e.Holds (variableName name) text)
    (strange : ∀ word ∈ words, ¬ Case.Spells text.toList word) :
    e.read name fallback (wordOf? words) mk =
      ⟨.ofVariable fallback (variableName name), some (mk (variableName name) text)⟩ := by
  have refused : wordOf? words text = none := by
    refine Option.eq_none_iff_forall_ne_some.2 fun word found => ?_
    obtain ⟨listed, spells⟩ := (wordOf?_eq_some_iff ascii).1 found
    exact strange word listed spells
  simp only [read, text?_eq_some_iff.2 held, refused]

/-- All that reading a word can come to. -/
theorem read_word_cases (e : Environment) (name fallback : String)
    (mk : String → String → ConfigFault) (ascii : ∀ word ∈ words, Case.IsAsciiWord word) :
    let r := e.read name fallback (wordOf? words) mk
    (∀ text, ¬ e.Holds (variableName name) text) ∧ r = ⟨.ofDefault fallback, none⟩ ∨
    (∃ text, e.Holds (variableName name) text ∧
      ((∃ word ∈ words, Case.Spells text.toList word ∧
        r = ⟨.ofVariable word (variableName name), none⟩) ∨
      (∀ word ∈ words, ¬ Case.Spells text.toList word) ∧
        r = ⟨.ofVariable fallback (variableName name), some (mk (variableName name) text)⟩)) := by
  intro r
  by_cases held : ∃ text, e.Holds (variableName name) text
  · obtain ⟨text, held⟩ := held
    refine .inr ⟨text, held, ?_⟩
    by_cases known : ∃ word ∈ words, Case.Spells text.toList word
    · obtain ⟨word, listed, spells⟩ := known
      exact .inl ⟨word, listed, spells, read_of_spells ascii held listed spells⟩
    · have strange : ∀ word ∈ words, ¬ Case.Spells text.toList word :=
        fun word listed spells => known ⟨word, listed, spells⟩
      exact .inr ⟨strange, read_of_strange ascii held strange⟩
  · have unheld : ∀ text, ¬ e.Holds (variableName name) text :=
      fun text holds => held ⟨text, holds⟩
    exact .inl ⟨unheld, read_of_not_holds unheld⟩

/-- A word is read without a fault just when the text spells it. -/
theorem read_word_iff (ascii : ∀ word ∈ words, Case.IsAsciiWord word)
    (held : e.Holds (variableName name) text) :
    ((e.read name fallback (wordOf? words) mk).fault = none ∧
      (e.read name fallback (wordOf? words) mk).setting.value = word) ↔
      word ∈ words ∧ Case.Spells text.toList word := by
  rw [← wordOf?_eq_some_iff ascii]
  simp only [read, text?_eq_some_iff.2 held]
  cases wordOf? words text with
  | none => simp
  | some found => simp [Sourced.ofVariable]

end Environment

namespace Labels

variable {α : Type} {words : List String} {label : α → String} {ofText? : String → Option α}
  {e : Environment} {name fallback text : String} {a : α}

/-- The variable of a choice is accepted, and gives a value, just when its text names this value. -/
theorem choice_iff (l : Labels words label ofText?) (held : e.Holds (variableName name) text)
    (standard : α) :
    ((e.choice name fallback words).fault = none ∧
      (ofText? (e.choice name fallback words).setting.value).getD standard = a) ↔
      ofText? text = some a := by
  rw [choice]
  cases found : ofText? text with
  | none =>
    rw [read_of_strange l.ascii held (l.ofText?_eq_none_iff.1 found)]
    simp
  | some b =>
    rw [read_of_spells l.ascii held (l.label_mem b) (l.ofText?_iff_spells.1 found)]
    simp only [Sourced.ofVariable, l.ofText?_label, Option.getD_some, true_and, Option.some.injEq]

/-- What is read for a choice can be read as a value again. -/
theorem exists_ofText?_choice (l : Labels words label ofText?) (known : fallback ∈ words) :
    ∃ a, ofText? (e.choice name fallback words).setting.value = some a := by
  obtain ⟨a, same⟩ := (l.mem_words_iff _).1 (e.value_read_mem name known)
  exact ⟨a, by rw [choice, same, l.ofText?_label]⟩

end Labels

/-! ## 3. The faults of the settings -/

namespace Settings

variable {e : Environment} {fault : ConfigFault}

/-- The readings that may have faults, with their variables, in the order in which they are made. -/
def readings (e : Environment) : List (String × Reading String) :=
  [("MELISAI_LOG_LEVEL", levelReading e), ("MELISAI_LOG_FORMAT", layoutReading e),
    ("MELISAI_OUTPUT_FORMAT", formatReading e)]

theorem mem_faults_iff :
    fault ∈ (ofEnvironment e).2 ↔ ∃ entry ∈ readings e, entry.2.fault = some fault := by
  have faults : (ofEnvironment e).2 = (levelReading e).fault.toList ++
    (layoutReading e).fault.toList ++ (formatReading e).fault.toList := rfl
  simp [faults, readings]

theorem variableName_of_readings :
    ∀ entry ∈ readings e, entry.2.fault = some fault → fault.variableName = entry.1 := by
  simp only [readings, List.forall_mem_cons, List.not_mem_nil, false_imp_iff, implies_true,
    and_true]
  refine ⟨?_, ?_, ?_⟩
  all_goals
    intro found
    obtain ⟨text, held, refused, rfl⟩ := fault_read_eq_some_iff.1 found
    rfl

/-- A variable is accepted if its own reading, where it has one, has no fault. -/
theorem accepts_iff_fault {name : String} :
    e.Accepts name ↔ ∀ entry ∈ readings e, entry.1 = name → entry.2.fault = none := by
  constructor
  · intro accepts entry listed same
    refine Option.eq_none_iff_forall_ne_some.2 fun fault found => ?_
    refine accepts fault (mem_faults_iff.2 ⟨entry, listed, found⟩) ?_
    rw [variableName_of_readings entry listed found, same]
  · intro clean fault told same
    obtain ⟨entry, listed, found⟩ := mem_faults_iff.1 told
    have own : entry.1 = name := by rw [← variableName_of_readings entry listed found, same]
    rw [clean entry listed own] at found
    cases found

theorem accepts_logLevel_iff : e.Accepts "MELISAI_LOG_LEVEL" ↔ (levelReading e).fault = none := by
  simp [accepts_iff_fault, readings]

theorem accepts_logLayout_iff :
    e.Accepts "MELISAI_LOG_FORMAT" ↔ (layoutReading e).fault = none := by
  simp [accepts_iff_fault, readings]

theorem accepts_outputFormat_iff :
    e.Accepts "MELISAI_OUTPUT_FORMAT" ↔ (formatReading e).fault = none := by
  simp [accepts_iff_fault, readings]

theorem accepts_logFile : e.Accepts "MELISAI_LOG_FILE" := by
  simp [accepts_iff_fault, readings]

/-! ## 4. Variables, flags and words -/

/-- The value that is kept for a word that cannot be read is never needed: the word can be read. -/
theorem ofText?_formatReading (e : Environment) :
    OutputFormat.ofText? (formatReading e).setting.value =
      some (ofEnvironment e).1.outputFormat.value := by
  obtain ⟨format, found⟩ : ∃ format, OutputFormat.ofText? (formatReading e).setting.value =
    some format := OutputFormat.labels.exists_ofText?_choice (by decide)
  have setting : (ofEnvironment e).1.outputFormat.value =
    (OutputFormat.ofText? (formatReading e).setting.value).getD .standard := rfl
  rw [setting, found, Option.getD_some]

theorem ofText?_layoutReading (e : Environment) :
    Log.Layout.ofText? (layoutReading e).setting.value =
      some (ofEnvironment e).1.logLayout.value := by
  obtain ⟨layout, found⟩ : ∃ layout, Log.Layout.ofText? (layoutReading e).setting.value =
    some layout := Log.Layout.labels.exists_ofText?_choice (by decide)
  have setting : (ofEnvironment e).1.logLayout.value =
    (Log.Layout.ofText? (layoutReading e).setting.value).getD .standard := rfl
  rw [setting, found, Option.getD_some]

/-- The variable of the output format is accepted, and gives a format, just when its text can be
read as this format. -/
theorem outputFormat_iff {text : String} {format : OutputFormat}
    (held : e.Holds "MELISAI_OUTPUT_FORMAT" text) :
    e.Accepts "MELISAI_OUTPUT_FORMAT" ∧ (ofEnvironment e).1.outputFormat.value = format ↔
      OutputFormat.ofText? text = some format := by
  have variableName : variableName "OUTPUT_FORMAT" = "MELISAI_OUTPUT_FORMAT" := rfl
  rw [← variableName] at held
  rw [accepts_outputFormat_iff]
  exact OutputFormat.labels.choice_iff held .standard

theorem logLayout_iff {text : String} {layout : Log.Layout}
    (held : e.Holds "MELISAI_LOG_FORMAT" text) :
    e.Accepts "MELISAI_LOG_FORMAT" ∧ (ofEnvironment e).1.logLayout.value = layout ↔
      Log.Layout.ofText? text = some layout := by
  have variableName : variableName "LOG_FORMAT" = "MELISAI_LOG_FORMAT" := rfl
  rw [← variableName] at held
  rw [accepts_logLayout_iff]
  exact Log.Layout.labels.choice_iff held .standard

theorem logLevel_iff {text word : String} (held : e.Holds "MELISAI_LOG_LEVEL" text) :
    e.Accepts "MELISAI_LOG_LEVEL" ∧ (ofEnvironment e).1.logLevel.value = word ↔
      word ∈ levelWords ∧ Case.Spells text.toList word := by
  have variableName : variableName "LOG_LEVEL" = "MELISAI_LOG_LEVEL" := rfl
  rw [← variableName] at held
  rw [accepts_logLevel_iff]
  exact read_word_iff ascii_levelWords held

end Settings

theorem CommandLine.formatValue_encode {text : String} {format : OutputFormat} :
    formatValue (Utf8.encode text) = .ok format ↔ OutputFormat.ofText? text = some format := by
  simp only [formatValue, textValue, Utf8.decode?_encode]
  cases OutputFormat.ofText? text with
  | none => exact iff_of_false nofun nofun
  | some found => simp

/-- For every text, the variable of the output format, its flag and the reading of formats accept
the same and give the same, and the variable of the layout and the reading of layouts do so. They
and the variable of the level accept a text just when it spells one of the words. So what a variable
gives can be read in every environment, and the level is always one of the words. -/
theorem Settings.words_agree (e : Environment) (text : String) :
    let asFormat := e.set "MELISAI_OUTPUT_FORMAT" (Utf8.encode text)
    let asLayout := e.set "MELISAI_LOG_FORMAT" (Utf8.encode text)
    let asLevel := e.set "MELISAI_LOG_LEVEL" (Utf8.encode text)
    (∀ format, (asFormat.Accepts "MELISAI_OUTPUT_FORMAT" ∧
        (ofEnvironment asFormat).1.outputFormat.value = format ↔
          OutputFormat.ofText? text = some format) ∧
      (CommandLine.formatValue (Utf8.encode text) = .ok format ↔
        OutputFormat.ofText? text = some format) ∧
      (OutputFormat.ofText? text = some format ↔ Case.Spells text.toList format.label)) ∧
    (∀ layout, (asLayout.Accepts "MELISAI_LOG_FORMAT" ∧
        (ofEnvironment asLayout).1.logLayout.value = layout ↔
          Log.Layout.ofText? text = some layout) ∧
      (Log.Layout.ofText? text = some layout ↔ Case.Spells text.toList layout.label)) ∧
    (∀ word, asLevel.Accepts "MELISAI_LOG_LEVEL" ∧
        (ofEnvironment asLevel).1.logLevel.value = word ↔
      word ∈ levelWords ∧ Case.Spells text.toList word) ∧
    OutputFormat.ofText? (formatReading e).setting.value =
      some (ofEnvironment e).1.outputFormat.value ∧
    Log.Layout.ofText? (layoutReading e).setting.value =
      some (ofEnvironment e).1.logLayout.value ∧
    (ofEnvironment e).1.logLevel.value ∈ levelWords := by
  intro asFormat asLayout asLevel
  refine ⟨fun format => ⟨?_, CommandLine.formatValue_encode,
      OutputFormat.labels.ofText?_iff_spells⟩,
    fun layout => ⟨?_, Log.Layout.labels.ofText?_iff_spells⟩, fun word => ?_,
    ofText?_formatReading e, ofText?_layoutReading e, ?_⟩
  · exact outputFormat_iff (holds_set e _ text)
  · exact logLayout_iff (holds_set e _ text)
  · exact logLevel_iff (holds_set e _ text)
  · exact e.logLevel_mem_levelWords "LOG_LEVEL" (by decide)

end HealthReport
