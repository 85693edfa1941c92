import HealthReport.Proofs.Detection.Signature
import HealthReport.Proofs.Validation.Validity

/-!
# Detection on valid reports

In a valid report the health score is an integer from 0 to 100, and the metadata are there. So the
checks that ask for these do not fail for want of them, and the checks of the health compare
integers.

Results:
1. `observerEffect_of_isValid`: a valid report describes how it was made.
2. `filter_asksHealth`: a scenario checks the health at most once, against its own limit.
3. `passed_healthBelow_eq`: the outcome of that check.
4. `detection_of_isValid`: all of it for a valid report.
-/
namespace HealthReport

/-! ## Definitions -/

/-- The limit that the health score has to be below, if a scenario checks the health. -/
def Scenario.healthLimit? : Scenario → Option Nat
  | cpuBurn => some 70
  | memoryPressure => some 80
  | diskFlood => some 90
  | runqSaturation => some 50
  | combined => some 80
  | forkStorm | tcpRetrans | observerEffect => none

/-- The check compares the health score with a limit; its name says so. -/
def Check.asksHealth (c : Check) : Bool := "health_score < ".toList.isPrefixOf c.name.toList

/-! ## 1. How the report was made -/

theorem Check.observerEffect_of_isValid {r : Report} (valid : r.assess.isValid = true) :
    ∀ c ∈ observerEffect r, c.passed = true := by
  obtain ⟨⟨metadata, held, sound⟩, -, score, found, n, rfl, -⟩ :=
    Report.isValid_iff_sound_parts.1 valid
  refine observerEffect_passed_iff.2 ⟨⟨.object metadata, ?_, ?_⟩, _, found, by simp⟩
  · rw [Report.at?_single, held]
  · rintro rfl
    cases sound.tool

/-! ## 2. The checks of the health -/

theorem Check.asksHealth_mk {name : String} {passed : Bool} {detail : String} :
    asksHealth ⟨name, passed, detail⟩ = "health_score < ".toList.isPrefixOf name.toList := rfl

theorem Check.asksHealth_healthBelow (r : Report) (limit : Nat) :
    (healthBelow r limit).asksHealth = true := by
  rw [healthBelow, asksHealth_mk, String.toList_append, List.isPrefixOf_iff_prefix]
  exact List.prefix_append _ _

/-- The names of all other checks differ from those of the checks of the health. -/
theorem Scenario.filter_asksHealth (s : Scenario) (r : Report) :
    (s.checks r).filter Check.asksHealth = (s.healthLimit?.map (Check.healthBelow r)).toList := by
  cases s <;>
    simp +decide only [checks, Check.cpuBurn, Check.memoryPressure, Check.diskFlood,
      Check.forkStorm, Check.runqSaturation, Check.tcpRetrans, Check.combined,
      Check.observerEffect, Check.metricWarned, List.filter_cons, List.filter_nil,
      Check.asksHealth_mk, Check.asksHealth_healthBelow, if_true, if_false, healthLimit?,
      Option.map_some, Option.map_none, Option.toList_some, Option.toList_none]

theorem Scenario.healthLimit?_small {s : Scenario} {limit : Nat}
    (checked : s.healthLimit? = some limit) : limit < Binary64.wholeLimit := by
  have few : limit ≤ 100 := by
    cases s <;> cases checked <;> decide
  exact Nat.lt_of_le_of_lt few (by decide)

/-! ## 3. The health of a valid report -/

section

variable {r : Report} {n : Int}
  (score : r.root.at? ["summary", "health_score"] = some (.number (.integer n)))

include score

theorem Report.healthScore?_of_integer : r.healthScore? = some (Binary64.ofInt n) := by
  have stated : r.summary.healthScore? = some (.number (.integer n)) := by
    rw [Summary.healthScore?, Members.present?_eq_some_iff, get?_summary]
    exact ⟨score, by simp⟩
  rw [healthScore?, Summary.healthNumber?, stated]
  rfl

theorem Check.passed_healthBelow_eq {limit : Nat} (small : limit < Binary64.wholeLimit) :
    (healthBelow r limit).passed = decide (n < limit) := by
  rw [Bool.eq_iff_iff, healthBelow_passed_iff small, decide_eq_true_eq]
  constructor
  · rintro ⟨m, found, below⟩
    obtain rfl := Json.number.inj (Option.some.inj (score.symm.trans found))
    rw [Number.integer_value] at below
    exact_mod_cast below
  · intro below
    refine ⟨.integer n, score, ?_⟩
    rw [Number.integer_value]
    exact_mod_cast below

end

/-! ## 4. Valid reports -/

/-- On a valid report the observer effect is always detected, the health score is read as the
integer that it is, and every check of the health compares that integer with its limit. -/
theorem Report.detection_of_isValid {r : Report} (valid : r.assess.isValid = true) :
    (Scenario.observerEffect.checks r).map (·.passed) = [true, true] ∧
    ∃ n : Int, r.root.at? ["summary", "health_score"] = some (.number (.integer n)) ∧
      (0 ≤ n ∧ n ≤ 100) ∧
      (∃ x : Finite64, r.healthScore? = some (.finite x) ∧ (Number.double x).value = n) ∧
      ∀ s : Scenario, ((s.checks r).filter Check.asksHealth).map (fun c => (c.name, c.passed)) =
        s.healthLimit?.toList.map fun limit : Nat =>
          ("health_score < " ++ toString limit, decide (n < limit)) := by
  obtain ⟨-, -, score, found, n, rfl, low, high⟩ := Report.isValid_iff_sound_parts.1 valid
  refine ⟨List.map_congr_left (Check.observerEffect_of_isValid valid), n, found, ⟨low, high⟩, ?_,
    fun s => ?_⟩
  · obtain ⟨x, exact_x, signed_x⟩ := Binary64.ofInt_of_small (n := n) (by
      have : (100 : Nat) ≤ Binary64.wholeLimit := by decide
      omega)
    refine ⟨x, ?_, Number.double_value_eq_iff.2 signed_x⟩
    rw [Report.healthScore?_of_integer found, exact_x]
  · rw [s.filter_asksHealth r]
    cases checked : s.healthLimit? with
    | none => rfl
    | some limit =>
      have passed := Check.passed_healthBelow_eq found (Scenario.healthLimit?_small checked)
      simp only [Option.map_some, Option.toList_some, List.map_cons, List.map_nil, passed]
      rfl

/-- A valid report whose health score is just at the limit of two scenarios. -/
def atTheLimit : Report :=
  ⟨.object [("categories", .object [
        ("cpu", .array [.object [("category", .null), ("collector", .null),
          ("tier", .number (.integer 3))]]),
        ("memory", .array []), ("process", .array [])]),
      ("metadata", .object [("tool", .string "melisai")]),
      ("summary", .object [("health_score", .number (.integer 80))])], by decide⟩

theorem Report.detection_of_isValid_of_atTheLimit :
    atTheLimit.assess.isValid = true ∧
    (Scenario.observerEffect.checks atTheLimit).map (·.passed) = [true, true] ∧
    ((Scenario.memoryPressure.checks atTheLimit).filter Check.asksHealth).map
        (fun c => (c.name, c.passed)) = [("health_score < 80", false)] ∧
    ((Scenario.diskFlood.checks atTheLimit).filter Check.asksHealth).map
        (fun c => (c.name, c.passed)) = [("health_score < 90", true)] := by
  have valid : atTheLimit.assess.isValid = true := by decide +kernel
  obtain ⟨observed, n, score, -, -, compared⟩ := detection_of_isValid valid
  obtain rfl : n = 80 := by
    have known : atTheLimit.root.at? ["summary", "health_score"] =
        some (.number (.integer 80)) := rfl
    simpa using score.symm.trans known
  refine ⟨valid, observed, ?_, ?_⟩
  · rw [compared]
    decide
  · rw [compared]
    decide

end HealthReport
