import HealthReport.Proofs.Json.Faithful
import HealthReport.Report.Query
import Mathlib.Data.List.Nodup

/-!
# The labels of anomaly categories

Categories are told apart by their JSON text, and each of them has one label. The labels of a report
depend on nothing but which categories occur, neither on their order nor on how often.

Results:
1. `nodup_map_eraseDupsBy`, `mem_map_eraseDupsBy`: of the values with one key a single one is left.
2. `nodup_distinctCategories`, `mem_distinctCategories_iff`: each category that occurs is left once.
3. `mem_anomalyCategories_iff`: each label is that of some anomaly.
4. `anomalyCategories_eq_of_texts`: reports in which the same categories occur have the same labels.
-/
namespace HealthReport

/-! ## 1. One value for each key -/

section

variable {α β : Type} [BEq β] {f : α → β}

theorem map_eraseDupsBy (f : α → β) : ∀ items : List α,
    (items.eraseDupsBy fun a b => f a == f b).map f = (items.map f).eraseDups
  | [] => rfl
  | head :: rest => by
    rw [List.eraseDupsBy_cons, List.map_cons, map_eraseDupsBy f, List.map_cons,
      List.eraseDups_cons, List.filter_map]
    congr 4
    funext b
    cases same : f b == f head <;> simp [same]
termination_by items => items.length
decreasing_by exact Nat.lt_succ_of_le (List.length_filter_le _ _)

variable [LawfulBEq β]

theorem nodup_eraseDups : ∀ keys : List β, keys.eraseDups.Nodup
  | [] => List.nodup_nil
  | head :: rest => by
    rw [List.eraseDups_cons, List.nodup_cons]
    exact ⟨by simp, nodup_eraseDups (rest.filter fun b => !b == head)⟩
termination_by keys => keys.length
decreasing_by exact Nat.lt_succ_of_le (List.length_filter_le _ _)

theorem nodup_map_eraseDupsBy (items : List α) :
    ((items.eraseDupsBy fun a b => f a == f b).map f).Nodup := by
  rw [map_eraseDupsBy]
  exact nodup_eraseDups _

theorem mem_map_eraseDupsBy {items : List α} {key : β} :
    key ∈ (items.eraseDupsBy fun a b => f a == f b).map f ↔ key ∈ items.map f := by
  rw [map_eraseDupsBy, List.mem_eraseDups]

end

/-! ## 2. The labels of a report -/

theorem pairwise_mergeSort_texts (texts : List String) :
    (texts.mergeSort fun a b => decide (a ≤ b)).Pairwise fun a b => decide (a ≤ b) = true := by
  refine List.pairwise_mergeSort (fun a b c => ?_) (fun a b => ?_) texts
  · simpa using String.le_trans
  · simpa using String.le_total a b

theorem mergeSort_eq_of_perm {texts others : List String} (same : texts.Perm others) :
    (texts.mergeSort fun a b => decide (a ≤ b)) = others.mergeSort fun a b => decide (a ≤ b) := by
  refine List.Perm.eq_of_pairwise (fun a b _ _ => ?_) (pairwise_mergeSort_texts texts)
    (pairwise_mergeSort_texts others) ?_
  · simpa using String.le_antisymm
  · exact (List.mergeSort_perm texts _).trans (same.trans (List.mergeSort_perm others _).symm)

namespace Report

/-- The categories in the order in which they are met, each once. -/
def distinctCategories (r : Report) : List (Option Json) :=
  (r.anomalies.map Anomaly.category?).eraseDupsBy fun a b => a.map Json.text == b.map Json.text

theorem nodup_distinctCategories (r : Report) : r.distinctCategories.Nodup :=
  (nodup_map_eraseDupsBy (r.anomalies.map Anomaly.category?)).of_map (Option.map Json.text)

/-- A text tells its value, so every category that occurs is left. -/
theorem mem_distinctCategories_iff {r : Report} {c : Option Json} :
    c ∈ r.distinctCategories ↔ c ∈ r.anomalies.map Anomaly.category? := by
  have texts := Option.map_injective Json.text_injective
  rw [← List.mem_map_of_injective texts, distinctCategories, mem_map_eraseDupsBy,
    List.mem_map_of_injective texts]

theorem anomalyCategories_perm (r : Report) :
    r.anomalyCategories.Perm (r.distinctCategories.map Json.shown) :=
  List.mergeSort_perm _ _

theorem mem_anomalyCategories_iff {r : Report} {label : String} :
    label ∈ r.anomalyCategories ↔ ∃ a ∈ r.anomalies, Json.shown a.category? = label := by
  rw [r.anomalyCategories_perm.mem_iff, List.mem_map]
  simp [mem_distinctCategories_iff]

/-- Reports in which the same categories occur have the same labels. -/
theorem anomalyCategories_eq_of_texts {r other : Report}
    (same : ∀ text, text ∈ (r.anomalies.map Anomaly.category?).map (Option.map Json.text) ↔
      text ∈ (other.anomalies.map Anomaly.category?).map (Option.map Json.text)) :
    r.anomalyCategories = other.anomalyCategories := by
  have texts := Option.map_injective Json.text_injective
  have distinct : r.distinctCategories.Perm other.distinctCategories := by
    rw [List.perm_ext_iff_of_nodup r.nodup_distinctCategories other.nodup_distinctCategories]
    intro c
    rw [mem_distinctCategories_iff, mem_distinctCategories_iff, ← List.mem_map_of_injective texts,
      same, List.mem_map_of_injective texts]
  exact mergeSort_eq_of_perm (distinct.map Json.shown)

end Report

end HealthReport
