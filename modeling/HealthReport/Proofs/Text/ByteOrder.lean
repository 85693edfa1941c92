import HealthReport.Text.Utf8
import Mathlib.Tactic.SplitIfs

/-!
# The order of bytes

Texts stand in the same order as their bytes, so ordering names by their characters orders them by
their bytes.

Results:
1. `encodeChar_append_lt`: the bytes of a smaller character come first, whatever follows.
2. `encode_lt_encode_iff`: the same for whole texts.
-/
namespace HealthReport.Utf8

theorem cons_lt_cons_ofNat {a b : Nat} (small_a : a < 256) (small_b : b < 256) {r s : Bytes} :
    UInt8.ofNat a :: r < UInt8.ofNat b :: s ↔ a < b ∨ a = b ∧ r < s := by
  rw [List.cons_lt_cons_iff, UInt8.lt_iff_toNat_lt, ← UInt8.toNat_inj,
    toNat_ofNat_of_lt small_a, toNat_ofNat_of_lt small_b]

/-- The bytes of a smaller character come first, whatever follows. -/
theorem encodeChar_append_lt {c d : Char} (h : c < d) (r s : Bytes) :
    encodeChar c ++ r < encodeChar d ++ s := by
  have below : c.toNat < d.toNat := h
  have bound : d.toNat < 0x110000 := by
    rcases d.valid with low | high
    · exact Nat.lt_trans low (by decide)
    · exact high.2
  unfold encodeChar
  generalize c.toNat = n at below
  generalize d.toNat = m at below bound
  simp only
  -- For each pair of lengths some byte decides, so what follows does not matter.
  by_cases tail : r < s <;> split_ifs <;>
    simp (disch := omega) only [List.cons_append, List.nil_append, cons_lt_cons_ofNat, tail,
      and_true, and_false, or_false] <;>
    omega

theorem flatMap_encodeChar_lt {a b : List Char} (h : a < b) :
    a.flatMap encodeChar < b.flatMap encodeChar := by
  induction a generalizing b with
  | nil =>
    cases b with
    | nil => exact absurd h (List.not_lt_nil _)
    | cons d rest =>
      have nonempty : encodeChar d ≠ [] := by
        unfold encodeChar
        simp only
        split
        · simp
        split
        · simp
        split <;> simp
      obtain ⟨first, others, bytes⟩ := List.exists_cons_of_ne_nil nonempty
      rw [List.flatMap_nil, List.flatMap_cons, bytes, List.cons_append]
      exact List.nil_lt_cons _ _
  | cons c rest ih =>
    cases b with
    | nil => exact absurd h (List.not_lt_nil _)
    | cons d others =>
      rw [List.flatMap_cons, List.flatMap_cons]
      rcases List.cons_lt_cons_iff.1 h with smaller | ⟨rfl, later⟩
      · exact encodeChar_append_lt smaller _ _
      · exact List.append_left_lt (ih later)

/-- Texts stand in the order of their bytes. -/
theorem encode_lt_encode_iff {a b : String} : encode a < encode b ↔ a < b := by
  refine ⟨fun bytes => ?_, fun before => flatMap_encodeChar_lt before⟩
  rcases Classical.em (a < b) with before | notBefore
  · exact before
  rcases Classical.em (b < a) with after | notAfter
  · exact absurd (flatMap_encodeChar_lt after) (List.lt_asymm bytes)
  · have same : a = b := String.le_antisymm (String.not_lt.1 notAfter) (String.not_lt.1 notBefore)
    rw [same] at bytes
    exact absurd bytes (List.lt_irrefl _)

end HealthReport.Utf8
