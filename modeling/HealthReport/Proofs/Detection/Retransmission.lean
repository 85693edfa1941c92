import HealthReport.Proofs.Detection.Signature
import HealthReport.Proofs.Text.AsciiCase

/-!
# What counts as advice on retransmission

The second check of the retransmission scenario looks for two words in lower case. A text is advice
if it spells one of them, with small letters or the capitals from A to Z; nothing else in any script
passes for these letters, and no neighbour hides them.

Results:
1. `recommends_iff_mentions`: when a word of plain letters is found.
2. `tcpRetrans_advised_iff`: when the check passes.
-/
namespace HealthReport

/-- The title or the evidence of some recommendation is a text that spells the word somewhere. -/
def Report.Mentions (r : Report) (word : String) : Prop :=
  ∃ advice ∈ r.root.objectsAt ["summary", "recommendations"],
    ∃ name ∈ ["title", "evidence"], ∃ text, advice.get? name = some (.string text) ∧
      ∃ run, run <:+: text.toList ∧ Case.Spells run word

theorem Report.recommends_iff_mentions {r : Report} {word : String} (some_letter : word ≠ "")
    (plain : Case.IsPlainWord word) : r.Recommends word ↔ r.Mentions word := by
  simp only [Recommends, Mentions, Case.infix_lowercase_iff some_letter plain]

namespace Check

/-- The check on advice passes if a recommendation spells one of the two words in its title or in
its evidence. -/
theorem tcpRetrans_advised_iff (r : Report) :
    ∃ check, (Scenario.tcpRetrans.checks r)[1]? = some check ∧
      check.name = "retransmission recommendation" ∧
      (check.passed = true ↔ r.Mentions "tcp" ∨ r.Mentions "retrans") := by
  refine ⟨_, rfl, rfl, ?_⟩
  have tcp : r.hasRecommendation "tcp" = true ↔ r.Mentions "tcp" :=
    (Report.hasRecommendation_iff (by decide) (by decide)).trans
      (Report.recommends_iff_mentions (by decide) (by decide))
  have retrans : r.hasRecommendation "retrans" = true ↔ r.Mentions "retrans" :=
    (Report.hasRecommendation_iff (by decide) (by decide)).trans
      (Report.recommends_iff_mentions (by decide) (by decide))
  rw [Bool.or_eq_true, retrans, tcp, or_comm]

end Check

end HealthReport
