import HealthReport.Proofs.Report.Query
import HealthReport.Proofs.Text.LowerCase

/-!
# Searching the recommendations

A recommendation is found by any part of its title or its evidence, whatever the case, if the part
keeps its lower case at its place in the text. It does unless a capital sigma ends a word in the
part only or in the text only: then the two have different forms of the small sigma there, and what
stands in the title may not be found.

Results:
1. `hasRecommendation_of_part`: what is found, and that it includes each part whose capital sigmas
   keep their form.
2. `hasRecommendation_of_infix`: so is each part without a capital sigma.
-/
namespace HealthReport.Report

/-- What is searched for what, and which parts are found. Lower case is compared with lower case, so
a part of a title or of evidence is found if its capital sigmas end words in the text where they do
in the part alone. Just then the lower case of the text has that of the part at its place. -/
theorem hasRecommendation_of_part (r : Report) (needle : String) :
    (r.hasRecommendation needle = true ↔
      ∃ text, r.Advises text ∧ (lowercase needle).toList <:+: (lowercase text).toList) ∧
    ∀ text before after, r.Advises text → text.toList = before ++ needle.toList ++ after →
      (Case.SigmasKeep before needle.toList after → r.hasRecommendation needle = true) ∧
      (lowercase text).toList = Case.lowerAmid [] before (needle.toList ++ after) ++
        Case.lowerAmid before.reverse needle.toList after ++
        Case.lowerAmid (before ++ needle.toList).reverse after [] ∧
      (Case.lowerAmid before.reverse needle.toList after = (lowercase needle).toList ↔
        Case.SigmasKeep before needle.toList after) := by
  refine ⟨hasRecommendation_iff_lowercase, fun text before after advises stands => ⟨?_, ?_, ?_⟩⟩
  · intro keep
    exact hasRecommendation_iff_lowercase.2 ⟨text, advises, Case.lowercase_infix stands keep⟩
  · exact Case.lowercase_parts stands
  · rw [lowercase, String.toList_ofList]
    exact Case.lowerAmid_eq_lowerFrom_iff

/-- A part without a capital sigma is found wherever it stands. -/
theorem hasRecommendation_of_infix {r : Report} {needle text : String} (advises : r.Advises text)
    (inside : needle.toList <:+: text.toList) (no_sigma : 'Σ' ∉ needle.toList) :
    r.hasRecommendation needle = true := by
  obtain ⟨before, after, stands⟩ := inside
  exact hasRecommendation_iff_lowercase.2
    ⟨text, advises, Case.lowercase_infix stands.symm (.of_no_sigma no_sigma)⟩

/-- A report with one recommendation, of which the title is known. -/
def advising (title : String) : Report :=
  ⟨.object [("summary", .object [("recommendations", .array [
    .object [("title", .string title)]])])], by rfl⟩

theorem advises_advising (title : String) : (advising title).Advises title :=
  ⟨[("title", .string title)], .head _, "title", .head _, rfl⟩

/-- A word that ends in a capital sigma is found where it stands for itself. -/
theorem hasRecommendation_of_word :
    (advising "ΤΟ ΑΣ").Advises "ΤΟ ΑΣ" ∧ Case.SigmasKeep "ΤΟ ".toList "ΑΣ".toList [] ∧
      (advising "ΤΟ ΑΣ").hasRecommendation "ΑΣ" = true := by
  have advises := advises_advising "ΤΟ ΑΣ"
  have apart : Case.SigmasKeep "ΤΟ ".toList "ΑΣ".toList [] :=
    .of_apart (by decide +kernel) (by decide +kernel)
  have stands : "ΤΟ ΑΣ".toList = "ΤΟ ".toList ++ "ΑΣ".toList ++ [] := by decide +kernel
  exact ⟨advises, apart, ((hasRecommendation_of_part _ _).2 _ _ _ advises stands).1 apart⟩

/-- It is not found at the start of a longer word, where the sigma has another small form. -/
theorem hasRecommendation_misses_part :
    (advising "ΑΣΑ").Advises "ΑΣΑ" ∧ "ΑΣ".toList <:+: "ΑΣΑ".toList ∧
      (advising "ΑΣΑ").hasRecommendation "ΑΣ" = false :=
  ⟨advises_advising _, ⟨[], ['Α'], rfl⟩, by decide +kernel⟩

end HealthReport.Report
