import HealthReport.Proofs.Config.Resolution

/-!
# Where settings come from

A setting comes from the flag, from its variable, or from nowhere, in this order. Its tag says so,
with one exception: a setting whose variable is refused keeps the value that is built in, but the
tag names the variable. The flag for the output format touches no other setting.

Results:
1. `ComesFrom.unique`: a setting has one value and one origin.
2. `tagged_iff`: the tag of a setting is its origin unless its variable is refused.
3. `refusedFormat_mistagged`: a tag that names a variable which gave nothing.
-/
namespace HealthReport

open Environment

/-! ## Definitions -/

namespace SettingName

/-- The variable of the setting holds a text that denotes this value. -/
def Offers (e : Environment) (x : SettingName) (found : x.Value) : Prop :=
  ∃ value, e.bytes? x.variableName = some value ∧ Utf8.IsText value ∧ x.Denotes value found

/-- The variable of the setting holds a text that denotes nothing. -/
def Refused (e : Environment) (x : SettingName) : Prop :=
  ∃ value, e.bytes? x.variableName = some value ∧ Utf8.IsText value ∧
    ∀ found, ¬ x.Denotes value found

/-- There is a flag for the setting. -/
def Overridden (flag : Option OutputFormat) (x : SettingName) : Prop :=
  x = .outputFormat ∧ flag ≠ none

end SettingName

/-- Where the value of a setting comes from: the flag, else its variable, else it is built in. -/
inductive ComesFrom (e : Environment) (flag : Option OutputFormat) :
    (x : SettingName) → x.Value → ConfigSource → Prop
  | commandLine {format : OutputFormat} (given : flag = some format) :
      ComesFrom e flag .outputFormat format .commandLine
  | environment {x : SettingName} {found : x.Value} (free : ¬ x.Overridden flag)
      (offered : x.Offers e found) : ComesFrom e flag x found .environment
  | default {x : SettingName} (free : ¬ x.Overridden flag)
      (unoffered : ∀ found, ¬ x.Offers e found) : ComesFrom e flag x x.standard .default

/-- The tag of a setting says that it comes from there: the source, and the name of the variable
where that is the source. -/
def Sourced.Tagged {α : Type} (s : Sourced α) (origin : ConfigSource) (name : String) : Prop :=
  s.source = origin ∧ s.variableName = if origin = .environment then some name else none

/-! ## 1. Origins -/

section

variable {e : Environment} {flag : Option OutputFormat} {x : SettingName}

theorem SettingName.Offers.unique {found found' : x.Value} (h : x.Offers e found)
    (h' : x.Offers e found') : found = found' := by
  obtain ⟨value, set, -, denoted⟩ := h
  obtain ⟨value', set', -, denoted'⟩ := h'
  cases set.symm.trans set'
  exact denoted.unique denoted'

theorem SettingName.Refused.not_offers (h : x.Refused e) (found : x.Value) :
    ¬ x.Offers e found := by
  rintro ⟨value, set, -, denoted⟩
  obtain ⟨value', set', -, strange⟩ := h
  cases set.symm.trans set'
  exact strange found denoted

/-- A setting has one value and one origin. -/
theorem ComesFrom.unique {found found' : x.Value} {origin origin' : ConfigSource}
    (h : ComesFrom e flag x found origin) (h' : ComesFrom e flag x found' origin') :
    found = found' ∧ origin = origin' := by
  cases h with
  | commandLine given =>
    have overridden : SettingName.outputFormat.Overridden flag := ⟨rfl, by rw [given]; nofun⟩
    cases h' with
    | commandLine given' =>
      cases given.symm.trans given'
      exact ⟨rfl, rfl⟩
    | environment free _ => exact absurd overridden free
    | default free _ => exact absurd overridden free
  | environment free offered =>
    cases h' with
    | commandLine given => exact absurd ⟨rfl, by rw [given]; nofun⟩ free
    | environment _ offered' => exact ⟨offered.unique offered', rfl⟩
    | default _ unoffered => exact absurd offered (unoffered _)
  | default free unoffered =>
    cases h' with
    | commandLine given => exact absurd ⟨rfl, by rw [given]; nofun⟩ free
    | environment _ offered => exact absurd offered (unoffered _)
    | default _ _ => exact ⟨rfl, rfl⟩

/-! ## 2. Tags -/

/-- The origin of a setting without a flag, and what its tag says. -/
theorem Resolves.comesFrom {held : Sourced x.Value} (resolved : Resolves e x held)
    (free : ¬ x.Overridden flag) :
    ∃ origin, ComesFrom e flag x held.value origin ∧
      (held.Tagged origin x.variableName ↔ ¬ x.Refused e) ∧
      (x.Refused e → origin = .default ∧ held = .ofVariable x.standard x.variableName) := by
  cases resolved with
  | unread unheld _ =>
    have unoffered : ∀ found, ¬ x.Offers e found := by
      rintro found ⟨value, isSet, ⟨text, decoded⟩, -⟩
      exact unheld text ⟨value, isSet, decoded⟩
    have unrefused : ¬ x.Refused e := by
      rintro ⟨value, isSet, ⟨text, decoded⟩, -⟩
      exact unheld text ⟨value, isSet, decoded⟩
    exact ⟨.default, .default free unoffered, iff_of_true ⟨rfl, rfl⟩ unrefused,
      fun refused => absurd refused unrefused⟩
  | taken set text denoted _ =>
    have offered : x.Offers e _ := ⟨_, set, text, denoted⟩
    have unrefused : ¬ x.Refused e := fun refused => refused.not_offers _ offered
    exact ⟨.environment, .environment free offered, iff_of_true ⟨rfl, rfl⟩ unrefused,
      fun refused => absurd refused unrefused⟩
  | refused set text strange _ =>
    have refused : x.Refused e := ⟨_, set, text, strange⟩
    have mistagged : ¬ (Sourced.ofVariable x.standard x.variableName).Tagged .default
        x.variableName := fun tagged => nomatch tagged.1
    exact ⟨.default, .default free refused.not_offers, iff_of_false mistagged (absurd refused),
      fun _ => ⟨rfl, rfl⟩⟩

namespace Settings

theorem get_withOutput_of_free (s : Settings) (free : ¬ x.Overridden flag) :
    (s.withOutput flag).get x = s.get x := by
  cases flag with
  | none => rfl
  | some format =>
    cases x with
    | outputFormat => exact absurd ⟨rfl, nofun⟩ free
    | logLevel | logLayout | logFile => rfl

/-- Every setting has one origin. Its tag says so just if there is a flag for it or its variable is
not refused. A refused variable leaves the value that is built in, with a tag that names the
variable. A flag for the output format leaves all other settings as they are. -/
theorem tagged_iff (e : Environment) (flag : Option OutputFormat) (x : SettingName) :
    let held := ((ofEnvironment e).1.withOutput flag).get x
    ∃ origin, (∀ other, ComesFrom e flag x held.value other ↔ other = origin) ∧
      (held.Tagged origin x.variableName ↔ x.Overridden flag ∨ ¬ x.Refused e) ∧
      (¬ x.Overridden flag ∧ x.Refused e → origin = .default ∧
        held = .ofVariable x.standard x.variableName) ∧
      (x ≠ .outputFormat → held = (ofEnvironment e).1.get x) := by
  intro held
  have only : ∀ {origin}, ComesFrom e flag x held.value origin →
      ∀ other, ComesFrom e flag x held.value other ↔ other = origin :=
    fun comes other => ⟨fun h => (h.unique comes).2, fun same => same ▸ comes⟩
  have others : x ≠ .outputFormat → held = (ofEnvironment e).1.get x :=
    fun other => get_withOutput_of_free _ fun overridden => other overridden.1
  by_cases overridden : x.Overridden flag
  · obtain ⟨rfl, given⟩ := overridden
    obtain ⟨format, rfl⟩ := Option.ne_none_iff_exists'.1 given
    exact ⟨.commandLine, only (.commandLine rfl), iff_of_true ⟨rfl, rfl⟩ (.inl ⟨rfl, given⟩),
      fun free => absurd ⟨rfl, given⟩ free.1, others⟩
  · have same : held = (ofEnvironment e).1.get x := get_withOutput_of_free _ overridden
    obtain ⟨origin, comes, tagged, refused⟩ := (resolves e x).comesFrom overridden
    rw [← same] at comes tagged refused
    exact ⟨origin, only comes, tagged.trans (or_iff_right overridden).symm,
      fun h => refused h.2, others⟩

/-- The variable of the output format holds a word that names no format. -/
def refusedFormat : Environment := ⟨[("MELISAI_OUTPUT_FORMAT", Utf8.encode "yaml")]⟩

/-- The format is the one that is built in, since the variable denotes none, but its tag names the
variable as its source. -/
theorem refusedFormat_mistagged :
    let held := ((ofEnvironment refusedFormat).1.withOutput none).get .outputFormat
    SettingName.outputFormat.Refused refusedFormat ∧
      ComesFrom refusedFormat none .outputFormat held.value .default ∧
      held.source = .environment ∧ held.variableName = some "MELISAI_OUTPUT_FORMAT" := by
  have isSet : refusedFormat.bytes? "MELISAI_OUTPUT_FORMAT" = some (Utf8.encode "yaml") := rfl
  have decoded : Utf8.decode? (Utf8.encode "yaml") = some "yaml" := Utf8.decode?_encode "yaml"
  have strange : ∀ format, ¬ SettingName.outputFormat.Denotes (Utf8.encode "yaml") format := by
    intro format spells
    rw [SettingName.Denotes, Utf8.spells_iff decoded] at spells
    cases format <;> exact absurd spells (by decide)
  have refused : SettingName.outputFormat.Refused refusedFormat :=
    ⟨_, isSet, ⟨"yaml", decoded⟩, strange⟩
  exact ⟨refused, .default (fun overridden => overridden.2 rfl) refused.not_offers, rfl, rfl⟩

end Settings

end

end HealthReport
