import HealthReport.CommandLine.Run

/-!
# The output format of a run

The format comes from the flag, from the variable or from nowhere, in this order.

Results:
1. `effectiveFormat_ofEnvironment`: what the variable gives.
2. `effectiveFormat_settings`: the format in the settings of a run is the effective one.
-/
namespace HealthReport

/-- The bytes are a text that names the format, in any case. -/
def OutputFormat.NamedBy (format : OutputFormat) (value : Bytes) : Prop :=
  ∃ text, Utf8.decode? value = some text ∧ lowercase text = format.label

/-- The format of a run: that of the flag, else the one that the variable names, else text. -/
inductive EffectiveFormat (e : Environment) (flag : Option OutputFormat) : OutputFormat → Prop
  | ofFlag {format : OutputFormat} (given : flag = some format) : EffectiveFormat e flag format
  | ofVariable {format : OutputFormat} {value : Bytes} (absent : flag = none)
      (set : e.bytes? "MELISAI_OUTPUT_FORMAT" = some value) (named : format.NamedBy value) :
      EffectiveFormat e flag format
  | standard (absent : flag = none)
      (unnamed : ∀ value, e.bytes? "MELISAI_OUTPUT_FORMAT" = some value →
        ∀ format : OutputFormat, ¬ format.NamedBy value) :
      EffectiveFormat e flag .text

namespace OutputFormat

theorem lowercase_label (format : OutputFormat) : lowercase format.label = format.label := by
  cases format <;> decide

theorem ofText?_label (format : OutputFormat) : ofText? format.label = some format := by
  rw [ofText?, lowercase_label]
  cases format <;> rfl

theorem mem_words_iff {word : String} :
    word ∈ ["text", "json"] ↔ ∃ format : OutputFormat, word = format.label := by
  constructor
  · intro member
    simp only [List.mem_cons, List.not_mem_nil, or_false] at member
    rcases member with rfl | rfl
    · exact ⟨.text, rfl⟩
    · exact ⟨.json, rfl⟩
  · rintro ⟨format, rfl⟩
    cases format <;> decide

end OutputFormat

namespace Settings

/-- What the variable gives: the format that it names, else text. -/
theorem effectiveFormat_ofEnvironment (e : Environment) :
    EffectiveFormat e none (ofEnvironment e).1.outputFormat.value := by
  have variableName : Environment.variableName "OUTPUT_FORMAT" = "MELISAI_OUTPUT_FORMAT" := rfl
  show EffectiveFormat e none
    ((OutputFormat.ofText? (e.choice "OUTPUT_FORMAT" "text" ["text", "json"]).setting.value).getD
      .standard)
  rw [Environment.choice, Environment.read, variableName]
  cases held : e.text? "MELISAI_OUTPUT_FORMAT" with
  | none =>
    -- Bytes that are no text count as an unset variable.
    refine .standard rfl ?_
    rintro value set format ⟨text, decoded, -⟩
    rw [Environment.text?, set, Option.bind_some, decoded] at held
    cases held
  | some text =>
    obtain ⟨value, set, decoded⟩ := Option.bind_eq_some_iff.1 held
    by_cases known : ∃ format : OutputFormat, lowercase text = format.label
    · obtain ⟨format, same⟩ := known
      have accepted : Environment.wordOf? ["text", "json"] text = some format.label := by
        rw [Environment.wordOf?, same, if_pos (OutputFormat.mem_words_iff.2 ⟨format, rfl⟩)]
      simp only [accepted, Sourced.ofVariable, OutputFormat.ofText?_label, Option.getD_some]
      exact .ofVariable rfl set ⟨text, decoded, same⟩
    · have rejected : Environment.wordOf? ["text", "json"] text = none := by
        rw [Environment.wordOf?, if_neg fun member => known (OutputFormat.mem_words_iff.1 member)]
      simp only [rejected, Sourced.ofVariable]
      refine .standard rfl ?_
      rintro other set' format ⟨text', decoded', same⟩
      rw [set] at set'
      cases set'
      rw [decoded] at decoded'
      cases decoded'
      exact known ⟨format, same⟩

end Settings

/-- A run uses the effective format. -/
theorem CommandLine.effectiveFormat_settings (e : Environment) (given : CommandLine.Given) :
    EffectiveFormat e given.format (CommandLine.settings e given).1.outputFormat.value := by
  show EffectiveFormat e given.format
    ((Settings.ofEnvironment e).1.withOutput given.format).outputFormat.value
  cases flag : given.format with
  | none => exact Settings.effectiveFormat_ofEnvironment e
  | some format => exact .ofFlag rfl

end HealthReport
