import HealthReport.Proofs.Report.Labels
import HealthReport.Proofs.Report.Query
import HealthReport.Proofs.Text.ByteOrder
import Mathlib.Data.Set.Card

/-!
# The number of categories

Categories are to be compared as JSON values, where an absent category and a null are one value and
the two zeros are one number. They are told apart by their text, which shows the sign of a zero. So
there is one label for each value that occurs, and as many labels as classes of equal values unless
two values of a report differ in the signs of their zeros only. Then there are more.

Results:
1. `sameCategory_iff`: categories are the same if they are equal once their zeros are unsigned.
2. `anomalyCategories_labels`: one label for each category that occurs, in the order of bytes.
3. `length_anomalyCategories_of_unsigned`: without negative zeros there is one for each class.
4. `anomalyCategories_counted`: when the labels are as many as the classes, for every report.
-/
namespace HealthReport

/-! ## Definitions -/

/-- Two categories are equal as JSON values; none is equal to itself alone. -/
def SameCategory : Option Json → Option Json → Prop := Option.Rel fun a b => a.same b = true

/-- The labels are those of the values, one for each, in the order of bytes. -/
structure LabelsOf (values : Set (Option Json)) (labels : List String) : Prop where
  one_each : ∃ listed : List (Option Json), listed.Nodup ∧ (∀ c, c ∈ listed ↔ c ∈ values) ∧
    labels.Perm (listed.map Json.shown)
  ordered : labels.Pairwise fun a b => ¬ Utf8.encode b < Utf8.encode a

namespace Report

/-- The categories of the anomalies, where one that is absent or null is `none`. -/
def categoryValues (r : Report) : Set (Option Json) :=
  {c | ∃ anomaly ∈ r.root.objectsAt ["summary", "anomalies"], anomaly.present? "category" = c}

end Report

/-! ## 1. Equal categories -/

/-- Categories are the same if they are equal but for the signs of zeros. -/
theorem sameCategory_iff {c d : Option Json} :
    SameCategory c d ↔ c.map Json.unsignZeros = d.map Json.unsignZeros := by
  cases c with
  | none => cases d <;> simp [SameCategory]
  | some a => cases d <;> simp [SameCategory, Json.same_iff]

/-- Categories that are equal as JSON values. -/
def categorySetoid : Setoid (Option Json) where
  r := SameCategory
  iseqv := by
    refine ⟨fun c => sameCategory_iff.2 rfl, ?_, ?_⟩
    · intro c d same
      exact sameCategory_iff.2 (sameCategory_iff.1 same).symm
    · intro c d e same next
      exact sameCategory_iff.2 ((sameCategory_iff.1 same).trans (sameCategory_iff.1 next))

/-- The classes of equal categories that a report has. -/
def Report.categoryClasses (r : Report) : Set (Quotient categorySetoid) :=
  Quotient.mk categorySetoid '' r.categoryValues

/-! ## 2. The labels -/

namespace Report

variable (r : Report)

theorem mem_categoryValues_iff {c : Option Json} :
    c ∈ r.categoryValues ↔ c ∈ r.distinctCategories := by
  rw [mem_distinctCategories_iff, anomalies_eq, List.map_map, List.mem_map]
  rfl

/-- There is one label for each category that occurs, and they stand in the order of bytes. -/
theorem anomalyCategories_labels : LabelsOf r.categoryValues r.anomalyCategories where
  one_each := ⟨r.distinctCategories, r.nodup_distinctCategories,
    fun _ => r.mem_categoryValues_iff.symm, r.anomalyCategories_perm⟩
  ordered := by
    have sorted := pairwise_mergeSort_texts (r.distinctCategories.map Json.shown)
    refine sorted.imp fun before => ?_
    rw [Utf8.encode_lt_encode_iff, String.not_lt]
    simpa using before

theorem length_anomalyCategories : r.anomalyCategories.length = r.categoryValues.ncard := by
  classical
  have members : r.categoryValues = r.distinctCategories.toFinset := by
    ext c
    rw [Finset.mem_coe, List.mem_toFinset, mem_categoryValues_iff]
  rw [members, Set.ncard_coe_finset, List.toFinset_card_of_nodup r.nodup_distinctCategories,
    r.anomalyCategories_perm.length_eq, List.length_map]

/-! ## 3. The count -/

theorem finite_categoryValues : r.categoryValues.Finite :=
  r.distinctCategories.finite_toSet.subset fun _ => r.mem_categoryValues_iff.1

/-- There are as many labels as classes if and only if no two categories differ in the signs of
zeros only. -/
theorem length_anomalyCategories_eq_iff :
    r.anomalyCategories.length = r.categoryClasses.ncard ↔
      ∀ c ∈ r.categoryValues, ∀ d ∈ r.categoryValues,
        c.map Json.unsignZeros = d.map Json.unsignZeros → c = d := by
  rw [length_anomalyCategories, categoryClasses, eq_comm,
    Set.ncard_image_iff r.finite_categoryValues]
  refine forall₂_congr fun c _ => forall₂_congr fun d _ => ?_
  rw [← sameCategory_iff]
  exact imp_congr_left Quotient.eq

/-- Without a negative zero the classes are counted right. -/
theorem length_anomalyCategories_of_unsigned
    (unsigned : ∀ c ∈ r.categoryValues, c.map Json.unsignZeros = c) :
    r.anomalyCategories.length = r.categoryClasses.ncard := by
  refine r.length_anomalyCategories_eq_iff.2 fun c inside d inside' same => ?_
  rw [← unsigned c inside, same, unsigned d inside']

/-- The labels of a report. There is one for each category that occurs, so there are never fewer
than there are classes of equal categories, and as many if and only if no two of the categories
differ in the signs of zeros only. -/
theorem anomalyCategories_counted :
    LabelsOf r.categoryValues r.anomalyCategories ∧
    r.categoryClasses.ncard ≤ r.anomalyCategories.length ∧
    (r.anomalyCategories.length = r.categoryClasses.ncard ↔
      ∀ c ∈ r.categoryValues, ∀ d ∈ r.categoryValues,
        c.map Json.unsignZeros = d.map Json.unsignZeros → c = d) := by
  refine ⟨r.anomalyCategories_labels, ?_, r.length_anomalyCategories_eq_iff⟩
  rw [length_anomalyCategories, categoryClasses]
  exact Set.ncard_image_le r.finite_categoryValues

/-- A zero of either sign as a category. -/
def zeroCategory (neg : Bool) : Option Json := some (.number (.double (Finite64.zero neg)))

/-- A report with both zeros among its categories. -/
def bothZeros : Report :=
  ⟨.object [("summary", .object [("anomalies", .array [
    .object [("category", .number (.double (Finite64.zero false)))],
    .object [("category", .number (.double (Finite64.zero true)))]])])], by decide⟩

/-- The two zeros are one number, but have a label each. -/
theorem bothZeros_counted_twice :
    bothZeros.anomalyCategories.length = 2 ∧ bothZeros.categoryClasses.ncard = 1 := by
  have values : bothZeros.categoryValues = {zeroCategory false, zeroCategory true} := by
    ext c
    have listed : c ∈ bothZeros.categoryValues ↔ c ∈ [zeroCategory false, zeroCategory true] :=
      bothZeros.mem_categoryValues_iff
    rw [listed, List.mem_pair]
    rfl
  have signs : zeroCategory false ≠ zeroCategory true := nofun
  have same : Quotient.mk categorySetoid (zeroCategory false) = Quotient.mk _ (zeroCategory true) :=
    Quotient.sound (sameCategory_iff.2 rfl)
  rw [length_anomalyCategories, categoryClasses, values, Set.ncard_pair signs, Set.image_pair, same,
    Set.pair_eq_singleton, Set.ncard_singleton]
  exact ⟨rfl, rfl⟩

end Report

end HealthReport
