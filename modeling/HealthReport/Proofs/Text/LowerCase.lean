import HealthReport.Text.Case
import Mathlib.Data.List.Basic

/-!
# Lower case of a part of a text

Lower case is taken character by character. Only a capital sigma looks at its neighbours: where it
ends a word it becomes the final small sigma. So the lower case of a text holds the lower case of a
part if the capital sigmas of the part end words in the text where they do in the part alone. What
is cased and what is ignorable does not matter here, nor which forms the other characters have.

Results:
1. `lowerFrom_append`: the lower case of a text in parts, each amid its neighbours.
2. `lowerAmid_eq_iff`: the lower case of a part is the same amid other neighbours if and only if the
   same sigmas end words.
3. `lowercase_parts`, `lowercase_infix`: the lower case of a text holds that of each part amid its
   neighbours, and the part's own if its sigmas keep their form.
4. `SigmasKeep.of_no_sigma`, `SigmasKeep.of_apart`: they do if there are none, and if the part
   stands apart from the letters around it.
-/
namespace HealthReport.Case

/-! ## Definitions -/

/-- A capital sigma between `before`, nearest first, and `after` ends a word. -/
def EndsWord (before after : List Char) : Prop :=
  meetsCased before = true ∧ meetsCased after = false

/-- The lower-case form of a character between `before`, nearest first, and `after`. -/
def formAmid (before : List Char) (c : Char) (after : List Char) : List Char :=
  if c = 'Σ' then
    if meetsCased before && !meetsCased after then ['ς'] else ['σ']
  else lower c

/-- The lower case of characters that stand between `before`, nearest first, and `after`. -/
def lowerAmid (before : List Char) : List Char → List Char → List Char
  | [], _ => []
  | c :: rest, after => formAmid before c (rest ++ after) ++ lowerAmid (c :: before) rest after

/-- The capital sigmas of a part end words between `before` and `after` where they do in the part
alone. -/
def SigmasKeep (before part after : List Char) : Prop :=
  ∀ start rest, part = start ++ 'Σ' :: rest →
    (EndsWord (start.reverse ++ before.reverse) (rest ++ after) ↔ EndsWord start.reverse rest)

/-! ## 1. Parts of a text -/

/-- The lower case of a text is that of its parts, each amid its neighbours. -/
theorem lowerFrom_append (part after : List Char) : ∀ before : List Char,
    lowerFrom before (part ++ after) =
      lowerAmid before part after ++ lowerFrom (part.reverse ++ before) after := by
  induction part with
  | nil =>
    intro before
    rfl
  | cons c rest ih =>
    intro before
    rw [List.cons_append, lowerFrom, ih (c :: before), lowerAmid, List.append_assoc,
      List.reverse_cons, List.append_assoc, List.singleton_append]
    rfl

theorem lowerAmid_nil (part before : List Char) :
    lowerAmid before part [] = lowerFrom before part := by
  have whole := lowerFrom_append part [] before
  rw [List.append_nil, lowerFrom, List.append_nil] at whole
  exact whole.symm

/-! ## 2. Other neighbours -/

section

variable {before after before' after' : List Char} {c : Char}

theorem length_formAmid :
    (formAmid before c after).length = (formAmid before' c after').length := by
  unfold formAmid
  split
  · split <;> split <;> rfl
  · rfl

/-- The form of a capital sigma tells whether it ends a word; others have one form only. -/
theorem formAmid_eq_iff : formAmid before c after = formAmid before' c after' ↔
    (c = 'Σ' → (EndsWord before after ↔ EndsWord before' after')) := by
  unfold formAmid EndsWord
  by_cases sigma : c = 'Σ'
  · rw [if_pos sigma, if_pos sigma, imp_iff_right sigma]
    cases meetsCased before <;> cases meetsCased after <;> cases meetsCased before' <;>
      cases meetsCased after' <;> decide
  · rw [if_neg sigma, if_neg sigma, iff_true_left rfl]
    exact fun is => absurd is sigma

end

/-- A part has one lower case amid two pairs of neighbours if and only if the same of its capital
sigmas end words. -/
theorem lowerAmid_eq_iff {part after after' : List Char} : ∀ {before before' : List Char},
    lowerAmid before part after = lowerAmid before' part after' ↔
      ∀ start rest, part = start ++ 'Σ' :: rest →
        (EndsWord (start.reverse ++ before) (rest ++ after) ↔
          EndsWord (start.reverse ++ before') (rest ++ after')) := by
  induction part with
  | nil => simp [lowerAmid]
  | cons c part ih =>
    intro before before'
    -- The forms of the first character are equally long, so the rest begins at the same place.
    have apart : lowerAmid before (c :: part) after = lowerAmid before' (c :: part) after' ↔
        formAmid before c (part ++ after) = formAmid before' c (part ++ after') ∧
          lowerAmid (c :: before) part after = lowerAmid (c :: before') part after' := by
      rw [lowerAmid, lowerAmid]
      constructor
      · intro same
        exact List.append_inj same length_formAmid
      · rintro ⟨first, rest⟩
        rw [first, rest]
    rw [apart, formAmid_eq_iff, ih]
    constructor
    · rintro ⟨first, later⟩ start rest split
      rcases List.cons_eq_append_iff.1 split with ⟨rfl, head⟩ | ⟨start, rfl, rfl⟩
      · obtain ⟨rfl, rfl⟩ := List.cons.inj head
        exact first rfl
      · simpa using later start rest rfl
    · intro all
      refine ⟨?_, ?_⟩
      · rintro rfl
        exact all [] part rfl
      · rintro start rest rfl
        simpa using all (c :: start) rest rfl

/-! ## 3. The lower case of a part -/

/-- A part has its own lower case at its place if and only if its capital sigmas keep their
form. -/
theorem lowerAmid_eq_lowerFrom_iff {before part after : List Char} :
    lowerAmid before.reverse part after = lowerFrom [] part ↔ SigmasKeep before part after := by
  rw [← lowerAmid_nil, lowerAmid_eq_iff, SigmasKeep]
  simp only [List.append_nil]

/-- The lower case of a text is that of its three parts, each amid its neighbours. -/
theorem lowercase_parts {text needle : String} {before after : List Char}
    (stands : text.toList = before ++ needle.toList ++ after) :
    (lowercase text).toList = lowerAmid [] before (needle.toList ++ after) ++
      lowerAmid before.reverse needle.toList after ++
      lowerAmid (before ++ needle.toList).reverse after [] := by
  rw [lowercase, String.toList_ofList, stands, List.append_assoc, lowerFrom_append, List.append_nil,
    lowerFrom_append, lowerAmid_nil, List.reverse_append, List.append_assoc]

/-- The lower case of a text holds that of a part whose capital sigmas keep their form. -/
theorem lowercase_infix {text needle : String} {before after : List Char}
    (stands : text.toList = before ++ needle.toList ++ after)
    (keep : SigmasKeep before needle.toList after) :
    (lowercase needle).toList <:+: (lowercase text).toList := by
  rw [lowercase_parts stands, lowerAmid_eq_lowerFrom_iff.2 keep, lowercase, String.toList_ofList]
  exact List.infix_append _ _ _

/-! ## 4. Parts whose sigmas keep their form -/

theorem SigmasKeep.of_no_sigma {before part after : List Char} (no_sigma : 'Σ' ∉ part) :
    SigmasKeep before part after := by
  rintro start rest rfl
  exact absurd (List.mem_append_right start List.mem_cons_self) no_sigma

theorem meetsCased_cons (c : Char) (rest : List Char) :
    meetsCased (c :: rest) = if isIgnorable c then meetsCased rest else isCased c := by
  unfold meetsCased
  rw [List.dropWhile_cons]
  by_cases ignorable : isIgnorable c = true
  · rw [if_pos ignorable, if_pos ignorable]
  · rw [if_neg ignorable, if_neg ignorable]

/-- What lies beyond some characters does not matter if it meets no cased letter. -/
theorem meetsCased_append {near far : List Char} (apart : meetsCased far = false) :
    meetsCased (near ++ far) = meetsCased near := by
  induction near with
  | nil => exact apart
  | cons c rest ih => rw [List.cons_append, meetsCased_cons, meetsCased_cons, ih]

/-- The sigmas of a part keep their form if the part stands apart from the letters around it. -/
theorem SigmasKeep.of_apart {before part after : List Char}
    (apart_before : meetsCased before.reverse = false) (apart_after : meetsCased after = false) :
    SigmasKeep before part after := by
  intro start rest _
  rw [EndsWord, meetsCased_append apart_before, meetsCased_append apart_after, EndsWord]

end HealthReport.Case
