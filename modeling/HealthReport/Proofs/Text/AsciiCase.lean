import HealthReport.Proofs.Text.LowerCase

/-!
# ASCII letters in lower case

Lower case is taken in all scripts, and a few characters beyond ASCII have ASCII letters in it: the
Kelvin sign becomes a `k`, and the capital `İ` becomes an `i` with a dot of its own. No other ones
do. So a word of ASCII letters occurs in the lower case of a text just where the text spells it, and
whatever stands around it there does not matter, if the word has neither of the two letters.

Results:
1. `lower_of_ascii`, `lower_of_beyond`: the lower case of a character, from the tables.
2. `not_isPlain_of_beyond`, `exists_foreign_of_beyond`: what a character beyond ASCII contributes to
   the lower case of a text.
3. `infix_lowercase_iff`: where a word occurs in the lower case of a text.
4. `lowercase_eq_iff`: which texts have a word as their lower case.
-/
namespace HealthReport.Case

/-! ## Definitions -/

/-- The characters spell the word, where the capitals from A to Z count as their small letters and
every other character stands for itself. -/
def Spells (run : List Char) (word : String) : Prop := run.map Char.toLower = word.toList

instance (run : List Char) (word : String) : Decidable (Spells run word) :=
  inferInstanceAs (Decidable (run.map Char.toLower = word.toList))

def IsAscii (c : Char) : Prop := c.toNat < 128

instance (c : Char) : Decidable (IsAscii c) := Nat.decLt _ _

/-- An ASCII character that no character beyond ASCII has in its lower case. -/
structure IsPlain (c : Char) : Prop where
  ascii : IsAscii c
  not_i : c ≠ 'i'
  not_k : c ≠ 'k'

instance (c : Char) : Decidable (IsPlain c) :=
  decidable_of_iff (IsAscii c ∧ c ≠ 'i' ∧ c ≠ 'k')
    ⟨fun ⟨ascii, not_i, not_k⟩ => ⟨ascii, not_i, not_k⟩,
      fun ⟨ascii, not_i, not_k⟩ => ⟨ascii, not_i, not_k⟩⟩

/-- A word of plain characters: it occurs in the lower case of a text only where the text spells it.
-/
def IsPlainWord (word : String) : Prop := ∀ c ∈ word.toList, IsPlain c

instance (word : String) : Decidable (IsPlainWord word) := List.decidableBAll _ _

/-- A word of ASCII characters other than `k`: only a text that spells it has it as its lower case.
-/
def IsAsciiWord (word : String) : Prop := ∀ c ∈ word.toList, IsAscii c ∧ c ≠ 'k'

instance (word : String) : Decidable (IsAsciiWord word) := List.decidableBAll _ _

/-- The characters of the run are beyond ASCII in lower case, or it is that of the Kelvin sign, or
it is that of the capitals from A to Z. -/
def Run.Known (run : Run) : Prop :=
  run.last < 128 ∨ run.first = 0x212A ∧ run.last = 0x212A ∨
    128 ≤ run.first + run.shift ∧
      (run.last + run.shift < 0xD800 ∨
        0xDFFF < run.first + run.shift ∧ run.last + run.shift < 0x110000)

/-! ## 1. The tables -/

theorem lower_of_ascii {c : Char} (ascii : IsAscii c) : lower c = [c.toLower] := by
  have every : ∀ n < 128, lower (Char.ofNat n) = [(Char.ofNat n).toLower] := by decide +kernel
  have same := every c.toNat ascii
  rwa [Char.ofNat_toNat] at same

theorem toLower_of_beyond {c : Char} (beyond : ¬ IsAscii c) : c.toLower = c := by
  refine dif_neg ?_
  rintro ⟨-, high⟩
  exact beyond (Nat.lt_of_le_of_lt high (by decide))

theorem toNat_ofNat_of_valid {n : Nat} (valid : n.isValidChar) : (Char.ofNat n).toNat = n := by
  have form : Char.ofNat n = Char.ofNatAux n valid := dif_pos valid
  rw [form]
  rfl

theorem lowerRuns_known : ∀ run ∈ lowerRuns, run.Known := by
  unfold Run.Known
  decide +kernel

theorem image?_of_known {run : Run} (known : run.Known) {c d : Char} (beyond : ¬ IsAscii c)
    (image : run.image? c = some d) : c.toNat = 0x212A ∨ ¬ IsAscii d := by
  unfold IsAscii at *
  simp only [Run.image?, Bool.and_eq_true, decide_eq_true_eq, Option.ite_none_right_eq_some,
    Option.some.injEq] at image
  obtain ⟨⟨⟨low, high⟩, -⟩, rfl⟩ := image
  rcases known with ascii | kelvin | ⟨above, valid⟩
  · omega
  · exact .inl (by omega)
  · refine .inr ?_
    have isChar : (c.toNat + run.shift).toNat.isValidChar := by
      unfold Nat.isValidChar
      omega
    rw [toNat_ofNat_of_valid isChar]
    omega

/-- Of the characters beyond ASCII two have ASCII letters in their lower case. -/
theorem lower_of_beyond {c : Char} (beyond : ¬ IsAscii c) :
    c.toNat = 0x212A ∨ c.toNat = 0x0130 ∨ ∃ d, lower c = [d] ∧ ¬ IsAscii d := by
  unfold lower expand
  cases expanded : lowerExpansions.lookup c.toNat with
  | some forms =>
    refine .inr (.inl ?_)
    by_contra other
    have apart : (c.toNat == 0x0130) = false := beq_eq_false_iff_ne.2 other
    simp [lowerExpansions, List.lookup_cons, apart] at expanded
  | none =>
    cases found : lowerRuns.findSome? (·.image? c) with
    | none => exact .inr (.inr ⟨c, rfl, beyond⟩)
    | some d =>
      obtain ⟨run, listed, image⟩ := List.exists_of_findSome?_eq_some found
      rcases image?_of_known (lowerRuns_known run listed) beyond image with kelvin | outside
      · exact .inl kelvin
      · exact .inr (.inr ⟨d, rfl, outside⟩)

/-! ## 2. Characters beyond ASCII in a text -/

section

variable {before after : List Char} {c d : Char}

theorem formAmid_of_ascii (ascii : IsAscii c) : formAmid before c after = [c.toLower] := by
  have other : c ≠ 'Σ' := by
    rintro rfl
    exact absurd ascii (by decide)
  rw [formAmid, if_neg other, lower_of_ascii ascii]

/-- The lower case of a character beyond ASCII: that of the Kelvin sign, that of the dotted capital,
or another character beyond ASCII. -/
theorem formAmid_of_beyond (beyond : ¬ IsAscii c) :
    formAmid before c after = ['k'] ∨ formAmid before c after = ['i', '\u0307'] ∨
      ∃ d, formAmid before c after = [d] ∧ ¬ IsAscii d := by
  unfold formAmid
  by_cases sigma : c = 'Σ'
  · rw [if_pos sigma]
    refine .inr (.inr ?_)
    split
    · exact ⟨'ς', rfl, by decide⟩
    · exact ⟨'σ', rfl, by decide⟩
  · rw [if_neg sigma]
    rcases lower_of_beyond beyond with kelvin | dotted | outside
    · left
      have same : c = Char.ofNat 0x212A := by rw [← kelvin, Char.ofNat_toNat]
      rw [same]
      decide +kernel
    · right; left
      have same : c = Char.ofNat 0x0130 := by rw [← dotted, Char.ofNat_toNat]
      rw [same]
      decide +kernel
    · exact .inr (.inr outside)

theorem not_isPlain_of_beyond (beyond : ¬ IsAscii c) (member : d ∈ formAmid before c after) :
    ¬ IsPlain d := by
  intro plain
  rcases formAmid_of_beyond beyond with form | form | ⟨other, form, outside⟩
  · rw [form, List.mem_singleton] at member
    exact plain.not_k member
  · rw [form, List.mem_cons, List.mem_singleton] at member
    rcases member with rfl | rfl
    · exact plain.not_i rfl
    · exact absurd plain.ascii (by decide)
  · rw [form, List.mem_singleton] at member
    exact outside (member ▸ plain.ascii)

/-- No word without a `k` holds the lower case of a character beyond ASCII. -/
theorem exists_foreign_of_beyond (beyond : ¬ IsAscii c) :
    ∃ d ∈ formAmid before c after, ¬ (IsAscii d ∧ d ≠ 'k') := by
  rcases formAmid_of_beyond beyond with form | form | ⟨other, form, outside⟩
  · exact ⟨'k', by rw [form]; exact List.mem_singleton_self _, by simp⟩
  · exact ⟨'\u0307', by rw [form]; simp, by decide⟩
  · exact ⟨other, by rw [form]; exact List.mem_singleton_self _, fun ascii => outside ascii.1⟩

end

/-! ## 3. Words in a text -/

section

variable {word form rest : List Char}

/-- A character that is plain itself comes from an ASCII character. -/
theorem cons_prefix_form_iff {w c : Char} {before after : List Char} (plain : IsPlain w) :
    (w :: word <+: formAmid before c after ++ rest) ↔ w = c.toLower ∧ word <+: rest := by
  by_cases ascii : IsAscii c
  · rw [formAmid_of_ascii ascii, List.singleton_append, List.cons_prefix_cons]
  · refine iff_of_false ?_ ?_
    · obtain ⟨d, member, -⟩ := @exists_foreign_of_beyond before after c ascii
      obtain ⟨first, others, form⟩ := List.exists_cons_of_ne_nil (List.ne_nil_of_mem member)
      rw [form, List.cons_append, List.cons_prefix_cons]
      rintro ⟨rfl, -⟩
      refine @not_isPlain_of_beyond before after c w ascii ?_ plain
      rw [form]
      exact List.mem_cons_self
    · rintro ⟨rfl, -⟩
      rw [toLower_of_beyond ascii] at plain
      exact ascii plain.ascii

theorem prefix_lowerFrom_iff {text before : List Char} (plain : ∀ c ∈ word, IsPlain c) :
    word <+: lowerFrom before text ↔ word <+: text.map Char.toLower := by
  induction text generalizing word before with
  | nil => rfl
  | cons c rest ih =>
    cases word with
    | nil => simp
    | cons w word =>
      obtain ⟨first, others⟩ := List.forall_mem_cons.1 plain
      show (w :: word <+: formAmid before c rest ++ lowerFrom (c :: before) rest) ↔ _
      rw [cons_prefix_form_iff first, ih others, List.map_cons, List.cons_prefix_cons]

/-- A word begins nowhere among characters that it does not have. -/
theorem infix_append_of_foreign (some_letter : word ≠ []) (foreign : ∀ d ∈ form, d ∉ word) :
    word <:+: form ++ rest ↔ word <:+: rest := by
  induction form with
  | nil => rfl
  | cons d form ih =>
    obtain ⟨first, others⟩ := List.forall_mem_cons.1 foreign
    rw [List.cons_append, List.infix_cons_iff, ih others, or_iff_right]
    intro begins
    obtain ⟨w, word, rfl⟩ := List.exists_cons_of_ne_nil some_letter
    obtain ⟨rfl, -⟩ := List.cons_prefix_cons.1 begins
    exact first List.mem_cons_self

theorem infix_lowerFrom_iff {text before : List Char} (some_letter : word ≠ [])
    (plain : ∀ c ∈ word, IsPlain c) :
    word <:+: lowerFrom before text ↔ word <:+: text.map Char.toLower := by
  induction text generalizing before with
  | nil => rfl
  | cons c rest ih =>
    have unfolded : lowerFrom before (c :: rest) =
      formAmid before c rest ++ lowerFrom (c :: before) rest := rfl
    rw [unfolded, List.map_cons]
    by_cases ascii : IsAscii c
    · rw [formAmid_of_ascii ascii, List.singleton_append, List.infix_cons_iff, List.infix_cons_iff,
        ih]
      refine or_congr_left ?_
      obtain ⟨w, word, rfl⟩ := List.exists_cons_of_ne_nil some_letter
      rw [List.cons_prefix_cons, List.cons_prefix_cons,
        prefix_lowerFrom_iff (List.forall_mem_cons.1 plain).2]
    · -- The character has nothing of the word in lower case, nor has it as it is.
      have foreign : ∀ d ∈ formAmid before c rest, d ∉ word := fun d member inside =>
        not_isPlain_of_beyond ascii member (plain d inside)
      have foreign' : ∀ d ∈ [c.toLower], d ∉ word := by
        rw [toLower_of_beyond ascii, List.forall_mem_singleton]
        exact fun inside => ascii (plain c inside).ascii
      rw [infix_append_of_foreign some_letter foreign, ih, ← List.singleton_append,
        infix_append_of_foreign some_letter foreign']

/-- A text in lower case is a word of ASCII letters other than `k` just if it spells the word. -/
theorem lowerFrom_eq_iff {text before : List Char} (ascii : ∀ c ∈ word, IsAscii c ∧ c ≠ 'k') :
    lowerFrom before text = word ↔ text.map Char.toLower = word := by
  induction text generalizing word before with
  | nil => rfl
  | cons c rest ih =>
    have unfolded : lowerFrom before (c :: rest) =
      formAmid before c rest ++ lowerFrom (c :: before) rest := rfl
    rw [unfolded, List.map_cons]
    by_cases within : IsAscii c
    · rw [formAmid_of_ascii within, List.singleton_append]
      cases word with
      | nil => simp
      | cons w word =>
        rw [List.cons.injEq, List.cons.injEq, ih (List.forall_mem_cons.1 ascii).2]
    · refine iff_of_false ?_ ?_
      · rintro rfl
        obtain ⟨d, member, foreign⟩ := @exists_foreign_of_beyond before rest c within
        exact foreign (ascii d (List.mem_append_left _ member))
      · rintro rfl
        have first := (ascii _ List.mem_cons_self).1
        rw [toLower_of_beyond within] at first
        exact within first

end

/-- A word occurs in the lower case of a text just where the text spells it, whatever stands around
it. -/
theorem infix_lowercase_iff {word text : String} (some_letter : word ≠ "")
    (plain : IsPlainWord word) :
    word.toList <:+: (lowercase text).toList ↔ ∃ run, run <:+: text.toList ∧ Spells run word := by
  have letters : word.toList ≠ [] := fun none => some_letter (String.toList_inj.1 none)
  rw [lowercase, String.toList_ofList, infix_lowerFrom_iff letters plain, List.infix_map_iff]
  exact exists_congr fun run => and_congr_right fun _ => eq_comm

theorem lowercase_eq_iff {word text : String} (ascii : IsAsciiWord word) :
    lowercase text = word ↔ Spells text.toList word := by
  rw [← String.toList_inj, lowercase, String.toList_ofList]
  exact lowerFrom_eq_iff ascii

/-- The two exceptions: the Kelvin sign, and the dotted capital. -/
example : (lowercase "\u212A\u0130").toList = ['k', 'i', '\u0307'] := by decide +kernel

end HealthReport.Case
