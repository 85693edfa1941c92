import HealthReport.Detection.Verdict
import HealthReport.Proofs.Validation.Recovery
import Mathlib.Data.List.Basic

/-!
# The renderings of a verdict

A verdict is told by a flag, by two counts, by an exit status, by a text and by a document. Each of
them is computed from the list of checks on its own, and they never disagree: the document alone
tells the text, and two verdicts whose documents are the same are equal.

Results:
1. `unanimous_toJson`: all that says whether every check passed says the same.
2. `stated_toJson`: the counts, the document and the text state the flags of the checks, in order.
3. `same_toJson_iff`: when two documents are the same.
4. `renderings_agree`: all of it, for every verdict and every report.
-/
namespace HealthReport

/-! ## Definitions -/

/-- A member that is true or false. -/
def Json.flagAt? (value : Json) (name : String) : Option Bool :=
  match value.get? name with
  | some (.bool flag) => some flag
  | _ => none

namespace Verdict

/-- Whether each check passed, in the order of the checks. -/
def flags (v : Verdict) : List Bool := v.checks.map (·.passed)

/-- How the row of a check begins. -/
def marker (passed : Bool) : String := if passed then "  [+] PASS: " else "  [!] FAIL: "

/-- The row of the text for one item among the checks of a document. -/
def rowOf? (item : Json) : Option String := do
  return marker (← item.flagAt? "passed") ++ (← item.textAt? "name") ++ "  (" ++
    (← item.textAt? "detail") ++ ")\n"

/-- The text that a document tells: a row for each item of its checks, an empty row and a tally of
its counts. -/
def textOf? (document : Json) : Option String := do
  let rows ← (← document.itemsAt? "checks").mapM rowOf?
  return String.join rows ++ "\n" ++
    "  Result: " ++ toString (← document.countAt? "passed_count") ++ "/" ++
      toString (← document.countAt? "total") ++ " checks passed\n"

/-- The flags that the items among the checks of a document state. -/
def flagsOf? (document : Json) : Option (List Bool) := do
  (← document.itemsAt? "checks").mapM (·.flagAt? "passed")

/-- All that says whether every check passed says the same. -/
structure Unanimous (v : Verdict) (document : Json) : Prop where
  allPassed : v.allPassed = true ↔ ∀ c ∈ v.checks, c.passed = true
  failedCount : v.failedCount = 0 ↔ v.allPassed = true
  exitStatus : v.exitStatus = 0 ↔ v.allPassed = true
  exitStatusOtherwise : v.exitStatus = 1 ↔ ¬ v.allPassed = true
  passed : document.get? "passed" = some (.bool true) ↔ v.allPassed = true
  passedOtherwise : document.get? "passed" = some (.bool false) ↔ ¬ v.allPassed = true
  remediation : document.get? "remediation" = some (.array []) ↔ v.allPassed = true

/-- The counts, the document and the text state the flags of the checks, in their order. -/
structure Stated (v : Verdict) (document : Json) : Prop where
  passedCount : v.passedCount = v.flags.count true
  failedCount : v.failedCount = v.flags.count false
  counts : v.passedCount + v.failedCount = v.checks.length
  flags : flagsOf? document = some v.flags
  passedTold : document.get? "passed_count" = some (Json.ofNat (v.flags.count true))
  totalTold : document.get? "total" = some (Json.ofNat v.flags.length)
  text : textOf? document = some v.text

end Verdict

/-- The figures of a report that stand in the document of a verdict are the same for another. -/
structure Report.SameFigures (r q : Report) : Prop where
  anomalies : r.anomalies.length = q.anomalies.length
  recommendations : r.recommendations.length = q.recommendations.length
  health : (r.summary.healthScore?.getD .null).same (q.summary.healthScore?.getD .null) = true

/-! ## 1. Whether every check passed -/

namespace Verdict

variable (v : Verdict)

theorem failedCount_eq_countP : v.failedCount = v.checks.countP fun c => !c.passed := by
  have counts := List.length_eq_countP_add_countP (fun c : Check => c.passed) (l := v.checks)
  have failed : v.checks.countP (fun c => decide ¬ c.passed = true) =
      v.checks.countP fun c => !c.passed := by
    refine List.countP_congr fun c _ => ?_
    cases c.passed <;> decide
  rw [failedCount, passedCount, counts, failed, Nat.add_sub_cancel_left]

theorem failedCount_eq_zero_iff : v.failedCount = 0 ↔ v.allPassed = true := by
  rw [failedCount_eq_countP, List.countP_eq_zero, allPassed, List.all_eq_true]
  refine forall_congr' fun c => forall_congr' fun _ => ?_
  cases c.passed <;> decide

theorem get?_passed (r : Report) : (v.toJson r).get? "passed" = some (.bool v.allPassed) := rfl

theorem get?_remediation (r : Report) :
    (v.toJson r).get? "remediation" = some (Json.ofStrings v.remediation) := rfl

theorem unanimous_toJson (r : Report) : v.Unanimous (v.toJson r) where
  allPassed := List.all_eq_true
  failedCount := v.failedCount_eq_zero_iff
  exitStatus := by
    cases all : v.allPassed <;> simp +decide [Verdict.exitStatus, all]
  exitStatusOtherwise := by
    cases all : v.allPassed <;> simp +decide [Verdict.exitStatus, all]
  passed := by
    rw [get?_passed]
    cases v.allPassed <;> simp
  passedOtherwise := by
    rw [get?_passed]
    cases v.allPassed <;> simp
  remediation := by
    rw [get?_remediation]
    cases all : v.allPassed <;>
      simp [Json.ofStrings, Verdict.remediation, all, ErrorCode.remediation]

/-! ## 2. The flags of the checks -/

theorem passedCount_eq_count : v.passedCount = v.flags.count true := by
  rw [flags, List.count, List.countP_map]
  refine List.countP_congr fun c _ => ?_
  simp

theorem failedCount_eq_count : v.failedCount = v.flags.count false := by
  rw [failedCount_eq_countP, flags, List.count, List.countP_map]
  refine List.countP_congr fun c _ => ?_
  simp

theorem passedCount_add_failedCount : v.passedCount + v.failedCount = v.checks.length := by
  rw [failedCount]
  exact Nat.add_sub_cancel' List.countP_le_length

theorem rowOf?_checkJson (c : Check) : rowOf? (checkJson c) = some (checkLine c) := by
  show some (marker c.passed ++ c.name ++ "  (" ++ c.detail ++ ")\n") = some (checkLine c)
  cases passed : c.passed <;> simp [marker, checkLine, passed]

theorem stated_toJson (r : Report) : v.Stated (v.toJson r) where
  passedCount := v.passedCount_eq_count
  failedCount := v.failedCount_eq_count
  counts := v.passedCount_add_failedCount
  flags := by
    have checks : (v.toJson r).itemsAt? "checks" = some (v.checks.map checkJson) := rfl
    have flag : ∀ c, (checkJson c).flagAt? "passed" = some c.passed := fun _ => rfl
    rw [flagsOf?, checks]
    exact Json.mapM_map_eq flag v.checks
  passedTold := by
    rw [← passedCount_eq_count]
    rfl
  totalTold := by
    rw [flags, List.length_map]
    rfl
  text := by
    have checks : (v.toJson r).itemsAt? "checks" = some (v.checks.map checkJson) := rfl
    have passed : (v.toJson r).countAt? "passed_count" = some v.passedCount := rfl
    have total : (v.toJson r).countAt? "total" = some v.checks.length := rfl
    simp [textOf?, checks, passed, total, Json.mapM_map_eq rowOf?_checkJson, Verdict.text]

end Verdict

/-! ## 3. Documents that are the same -/

theorem Scenario.name_injective : Function.Injective Scenario.name := by
  intro s t same
  have found := ofName?_name s
  rw [same, ofName?_name] at found
  exact (Option.some.inj found).symm

theorem Json.same_ofNat_iff {m n : Nat} : (Json.ofNat m).same (Json.ofNat n) = true ↔ m = n := by
  rw [Json.ofNat, Json.ofNat, Json.same, Number.same, beq_iff_eq, Int.natCast_inj]

namespace Verdict

theorem checkJson_injective : Function.Injective checkJson := by
  intro c d same
  obtain ⟨name, passed, detail⟩ := c
  obtain ⟨name', passed', detail'⟩ := d
  simp only [checkJson, Json.object.injEq, List.cons.injEq, Prod.mk.injEq, Json.string.injEq,
    Json.bool.injEq, true_and, and_true] at same
  obtain ⟨rfl, rfl, rfl⟩ := same
  rfl

variable {v w : Verdict} {r q : Report}

theorem same_checks_iff :
    (Json.array (v.checks.map checkJson)).same (.array (w.checks.map checkJson)) = true ↔
      v.checks = w.checks := by
  constructor
  · intro same
    have integral : (Json.array (v.checks.map checkJson)).isIntegral := by
      rw [Json.isIntegral, Json.allIntegral_iff, List.forall_mem_map]
      exact fun c _ => rfl
    have documents := Json.eq_of_same _ integral same
    injection documents with items
    exact List.map_injective_iff.2 checkJson_injective items
  · intro same
    rw [same]
    exact Json.same_refl _

/-- Two documents are the same if the verdicts are equal, and so are the figures of the reports. -/
theorem same_toJson_iff :
    (v.toJson r).same (w.toJson q) = true ↔ v = w ∧ r.SameFigures q := by
  have parts : (v.toJson r).same (w.toJson q) = true ↔
      (Json.ofNat r.anomalies.length).same (Json.ofNat q.anomalies.length) = true ∧
      (Json.array (v.checks.map checkJson)).same (.array (w.checks.map checkJson)) = true ∧
      (r.summary.healthScore?.getD .null).same (q.summary.healthScore?.getD .null) = true ∧
      v.allPassed = w.allPassed ∧
      (Json.ofNat v.passedCount).same (Json.ofNat w.passedCount) = true ∧
      (Json.ofNat r.recommendations.length).same (Json.ofNat q.recommendations.length) = true ∧
      (Json.ofStrings v.remediation).same (Json.ofStrings w.remediation) = true ∧
      v.scenario.name = w.scenario.name ∧
      (Json.ofNat v.checks.length).same (Json.ofNat w.checks.length) = true := by
    simp only [toJson, Json.same, Json.membersSame, beq_self_eq_true, Bool.true_and, Bool.and_true,
      Bool.and_eq_true, beq_iff_eq]
  rw [parts]
  simp only [Json.same_ofNat_iff, same_checks_iff]
  constructor
  · rintro ⟨anomalies, checks, health, -, -, recommendations, -, name, -⟩
    refine ⟨?_, anomalies, recommendations, health⟩
    obtain ⟨scenario, _⟩ := v
    obtain rfl : scenario = w.scenario := Scenario.name_injective name
    obtain rfl := checks
    rfl
  · rintro ⟨rfl, anomalies, recommendations, health⟩
    exact ⟨anomalies, rfl, health, rfl, rfl, recommendations, Json.same_refl _, rfl, rfl⟩

/-! ## 4. The renderings together -/

/-- The flag, the counts, the exit status, the document and the text of a verdict agree, and no two
verdicts that differ in any of them have the same document, whatever the reports. -/
theorem renderings_agree (v : Verdict) (r : Report) :
    v.Unanimous (v.toJson r) ∧ v.Stated (v.toJson r) ∧
      ∀ (w : Verdict) (q : Report), (v.toJson r).same (w.toJson q) = true ↔
        (v.scenario = w.scenario ∧ v.checks = w.checks ∧ v.exitStatus = w.exitStatus ∧
          v.text = w.text) ∧ r.SameFigures q := by
  refine ⟨v.unanimous_toJson r, v.stated_toJson r, fun w q => ?_⟩
  rw [same_toJson_iff]
  refine and_congr_left fun _ => ?_
  constructor
  · rintro rfl
    exact ⟨rfl, rfl, rfl, rfl⟩
  · rintro ⟨scenario, checks, -, -⟩
    obtain ⟨_, _⟩ := v
    obtain rfl := scenario
    obtain rfl := checks
    rfl

end Verdict

end HealthReport
