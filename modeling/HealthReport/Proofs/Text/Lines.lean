import HealthReport.Json.Loose
import HealthReport.Proofs.Json.RoundTrip
import HealthReport.Text.Case

/-!
# The lines of a text

A newline ends a line, and what follows the last newline is a line as well. A text made of rows, a
newline after each, shows just these rows as its lines unless one of them holds a newline.

Results:
1. `lines_unlines_iff`, `lines_eq_self_iff`: when the lines of a text are the rows it is made of.
2. `isLine_shown_iff`: only a string that is shown as it is can break its line.
3. `isLine_uppercase_iff`: upper case neither makes a newline nor removes one.
-/
namespace HealthReport

/-- The lines of `chars`. -/
def lineChars : List Char → List (List Char)
  | [] => []
  | c :: rest =>
    if c = '\n' then [] :: lineChars rest
    else
      match lineChars rest with
      | [] => [[c]]
      | line :: later => (c :: line) :: later

/-- The lines of a text. -/
def lines (text : String) : List String := (lineChars text.toList).map String.ofList

/-- The text with the given rows, a newline after each. -/
def unlines (rows : List String) : String := String.join (rows.map (· ++ "\n"))

/-- A text without a newline. -/
def IsLine (text : String) : Prop := '\n' ∉ text.toList

instance (text : String) : Decidable (IsLine text) :=
  inferInstanceAs (Decidable ('\n' ∉ text.toList))

/-! ## 1. Rows and lines -/

theorem newline_not_mem_of_mem_lineChars : ∀ {chars line : List Char}, line ∈ lineChars chars →
    '\n' ∉ line
  | [], _, member => nomatch member
  | c :: rest, line, member => by
    rw [lineChars] at member
    split at member
    case isTrue newline =>
      obtain rfl | later := List.mem_cons.1 member
      · exact List.not_mem_nil
      · exact newline_not_mem_of_mem_lineChars later
    case isFalse other =>
      split at member
      case h_1 =>
        obtain rfl := List.mem_singleton.1 member
        exact List.not_mem_cons_of_ne_of_not_mem (Ne.symm other) List.not_mem_nil
      case h_2 first later split =>
        have clean : ∀ found ∈ first :: later, '\n' ∉ found := fun found held =>
          newline_not_mem_of_mem_lineChars (split ▸ held)
        obtain rfl | held := List.mem_cons.1 member
        · exact List.not_mem_cons_of_ne_of_not_mem (Ne.symm other) (clean first List.mem_cons_self)
        · exact clean line (List.mem_cons_of_mem _ held)

theorem isLine_of_mem_lines {text line : String} (member : line ∈ lines text) : IsLine line := by
  obtain ⟨chars, held, rfl⟩ := List.mem_map.1 member
  rw [IsLine, String.toList_ofList]
  exact newline_not_mem_of_mem_lineChars held

theorem lineChars_ne_nil (chars : List Char) (rest : List Char) :
    lineChars (chars ++ '\n' :: rest) ≠ [] := by
  cases chars with
  | nil => simp [lineChars]
  | cons c chars =>
    rw [List.cons_append, lineChars]
    split
    · exact List.cons_ne_nil _ _
    · split <;> exact List.cons_ne_nil _ _

/-- Behind a newline the lines start anew. -/
theorem lineChars_append_newline (chars rest : List Char) :
    lineChars (chars ++ '\n' :: rest) = lineChars (chars ++ ['\n']) ++ lineChars rest := by
  induction chars with
  | nil => simp [lineChars]
  | cons c chars ih =>
    rw [List.cons_append, List.cons_append, lineChars, lineChars, ih]
    split
    case isTrue => rfl
    case isFalse =>
      obtain ⟨line, later, split⟩ := List.exists_cons_of_ne_nil (lineChars_ne_nil chars [])
      rw [split]
      rfl

/-- A row shows as its lines, whatever rows come before and after it. -/
theorem lines_unlines_eq (rows : List String) :
    lines (unlines rows) = rows.flatMap fun row => lines (row ++ "\n") := by
  induction rows with
  | nil => rfl
  | cons row rows ih =>
    have split : (unlines (row :: rows)).toList = row.toList ++ '\n' :: (unlines rows).toList := by
      simp [unlines]
    have chars : (row ++ "\n").toList = row.toList ++ ['\n'] := by simp
    rw [List.flatMap_cons, ← ih, lines, lines, lines, split, chars, lineChars_append_newline,
      List.map_append]

theorem lineChars_row {row : List Char} (clean : '\n' ∉ row) :
    lineChars (row ++ ['\n']) = [row] := by
  induction row with
  | nil => rfl
  | cons c row ih =>
    rw [List.cons_append, lineChars, if_neg (List.ne_of_not_mem_cons clean).symm,
      ih (List.not_mem_of_not_mem_cons clean)]

theorem lines_row {row : String} (clean : IsLine row) : lines (row ++ "\n") = [row] := by
  have chars : (row ++ "\n").toList = row.toList ++ ['\n'] := by simp
  rw [lines, chars, lineChars_row clean, List.map_singleton, String.ofList_toList]

theorem lines_unlines {rows : List String} (clean : ∀ row ∈ rows, IsLine row) :
    lines (unlines rows) = rows := by
  rw [lines_unlines_eq]
  induction rows with
  | nil => rfl
  | cons row rows ih =>
    obtain ⟨first, later⟩ := List.forall_mem_cons.1 clean
    rw [List.flatMap_cons, lines_row first, ih later, List.singleton_append]

/-- The lines of a text are the rows it is made of if and only if each row is a line. -/
theorem lines_unlines_iff {rows : List String} :
    lines (unlines rows) = rows ↔ ∀ row ∈ rows, IsLine row :=
  ⟨fun same _ member => isLine_of_mem_lines (same.symm ▸ member), lines_unlines⟩

/-- The newline at the end of a text may be left out. -/
theorem lineChars_last {chars : List Char} (clean : '\n' ∉ chars)
    (filled : chars ≠ []) : lineChars chars = [chars] := by
  induction chars with
  | nil => exact absurd rfl filled
  | cons c rest ih =>
    have other := (List.ne_of_not_mem_cons clean).symm
    cases rest with
    | nil => simp [lineChars, other]
    | cons d rest =>
      rw [lineChars, if_neg other, ih (List.not_mem_of_not_mem_cons clean) (List.cons_ne_nil _ _)]

theorem lines_eq_self_iff {text : String} (filled : text ≠ "") :
    lines text = [text] ↔ IsLine text := by
  constructor
  · intro same
    exact isLine_of_mem_lines (same.symm ▸ List.mem_singleton_self text)
  · intro clean
    rw [lines, lineChars_last clean (mt String.toList_eq_nil_iff.1 filled),
      List.map_singleton, String.ofList_toList]

/-! ## 2. Texts of one line -/

@[simp]
theorem isLine_append {text more : String} : IsLine (text ++ more) ↔ IsLine text ∧ IsLine more := by
  simp [IsLine]

theorem isLine_intercalate {between : String} (clean : IsLine between) {texts : List String} :
    IsLine (between.intercalate texts) ↔ ∀ text ∈ texts, IsLine text := by
  induction texts with
  | nil => simp [IsLine]
  | cons first rest ih =>
    cases rest with
    | nil => simp
    | cons second rest =>
      rw [String.intercalate_cons_cons, isLine_append, isLine_append, ih, List.forall_mem_cons]
      simp [clean]

theorem isLine_ofList {chars : List Char} (numeric : ∀ c ∈ chars, c.isDigit ∨ c = '.' ∨ c = '-') :
    IsLine (String.ofList chars) := by
  rw [IsLine, String.toList_ofList]
  intro member
  exact absurd (numeric '\n' member) (by decide)

@[simp]
theorem isLine_repr (n : Nat) : IsLine n.repr :=
  isLine_ofList fun _ member => .inl (Decimal.isDigit_of_mem_digitChars member)

@[simp]
theorem isLine_toString_bool (b : Bool) : IsLine (toString b) := by
  cases b <;> decide

theorem Decimal.isDigit_of_mem_positional {d : Decimal} {c : Char} (member : c ∈ d.positional) :
    c.isDigit ∨ c = '.' := by
  have digit : ∀ {n}, c ∈ digitChars n → c.isDigit ∨ c = '.' :=
    fun member => .inl (isDigit_of_mem_digitChars member)
  have zero : ∀ {n}, c ∈ List.replicate n '0' → c.isDigit ∨ c = '.' :=
    fun member => .inl (List.eq_of_mem_replicate member ▸ rfl)
  rw [positional] at member
  split at member
  case isTrue =>
    obtain member | member := List.mem_append.1 member
    · exact digit member
    · exact zero member
  case isFalse =>
    dsimp only at member
    split at member
    case isTrue =>
      obtain member | member := List.mem_append.1 member
      · exact digit (List.mem_of_mem_take member)
      · obtain rfl | member := List.mem_cons.1 member
        · exact .inr rfl
        · exact digit (List.mem_of_mem_drop member)
    case isFalse =>
      simp only [List.cons_append, List.mem_cons, List.mem_append] at member
      obtain rfl | rfl | member | member := member
      · exact .inl rfl
      · exact .inr rfl
      · exact zero member
      · exact digit member

theorem Finite64.eq_of_mem_signChars {neg : Bool} {c : Char} (member : c ∈ signChars neg) :
    c = '-' := by
  cases neg with
  | false => cases member
  | true => exact List.mem_singleton.1 member

@[simp]
theorem Binary64.isLine_plain (x : Binary64) : IsLine x.plain := by
  cases x with
  | finite x =>
    refine isLine_ofList fun c member => ?_
    obtain sign | member := List.mem_append.1 member
    · exact .inr (.inr (Finite64.eq_of_mem_signChars sign))
    · obtain digit | point := Decimal.isDigit_of_mem_positional member
      · exact .inl digit
      · exact .inr (.inl point)
  | infinite neg => cases neg <;> decide
  | nan => decide

@[simp]
theorem Binary64.isLine_onePlace (x : Binary64) : IsLine x.onePlace := by
  cases x with
  | finite x =>
    refine isLine_ofList fun c member => ?_
    simp only [List.mem_append, List.mem_cons] at member
    obtain (sign | digit) | rfl | digit := member
    · exact .inr (.inr (Finite64.eq_of_mem_signChars sign))
    · exact .inl (Decimal.isDigit_of_mem_digitChars digit)
    · exact .inr (.inl rfl)
    · exact .inl (Decimal.isDigit_of_mem_digitChars digit)
  | infinite neg => cases neg <;> decide
  | nan => decide

@[simp]
theorem Json.isLine_text (v : Json) : IsLine v.text := v.newline_not_mem_text

theorem Json.isLine_described (v : Option Json) : IsLine (described v) := by
  cases v with
  | none => decide
  | some v => exact v.isLine_text

/-- Whatever is shown is a line, except for a string that is not. -/
theorem Json.isLine_shown_iff {v : Option Json} :
    IsLine (shown v) ↔ ∀ text, v = some (.string text) → IsLine text := by
  cases v with
  | none => exact iff_of_true (by decide) fun _ same => nomatch same
  | some v =>
    cases v with
    | null => exact iff_of_true (by decide) fun _ same => nomatch same
    | string text => simp [shown]
    | bool _ | number _ | array _ | object _ =>
      exact iff_of_true (Json.isLine_text _) fun _ same => nomatch same

/-! ## 3. Upper case -/

namespace Case

theorem ofNat_eq_newline {n : Nat} (same : Char.ofNat n = '\n') : n = 10 := by
  by_cases valid : n.isValidChar
  · rw [Char.ofNat, dif_pos valid] at same
    have code : (Char.ofNatAux n valid).toNat = 10 := by
      rw [same]
      rfl
    exact code
  · rw [Char.ofNat, dif_neg valid] at same
    exact absurd same (by decide)

/-- No character moves onto the newline. -/
theorem image?_ne_newline {run : Run} (member : run ∈ upperRuns) (c : Char) :
    run.image? c ≠ some '\n' := by
  have above : ∀ run ∈ upperRuns, 10 < run.first + run.shift := by decide +kernel
  intro image
  rw [Run.image?] at image
  split at image
  case isTrue inside =>
    have same := ofNat_eq_newline (Option.some.inj image)
    have := above run member
    simp only [Bool.and_eq_true, decide_eq_true_eq] at inside
    omega
  case isFalse => cases image

theorem newline_mem_upper_iff {c : Char} : '\n' ∈ upper c ↔ c = '\n' := by
  have forms : ∀ entry ∈ upperExpansions, '\n' ∉ entry.2.map Char.ofNat := by decide +kernel
  constructor
  · intro member
    rw [upper, expand] at member
    split at member
    case h_1 held found =>
      obtain ⟨before, after, split, -⟩ := List.lookup_eq_some_iff.1 found
      have held : (c.toNat, held) ∈ upperExpansions := by simp [split]
      exact absurd member (forms _ held)
    case h_2 =>
      have same := List.mem_singleton.1 member
      cases found : upperRuns.findSome? (·.image? c) with
      | none => simpa [found] using same.symm
      | some image =>
        obtain ⟨run, held, moved⟩ := List.exists_of_findSome?_eq_some found
        rw [found, Option.getD_some] at same
        exact absurd (same ▸ moved) (image?_ne_newline held c)
  · rintro rfl
    decide

end Case

theorem isLine_uppercase_iff {text : String} : IsLine (uppercase text) ↔ IsLine text := by
  simp [IsLine, uppercase, Case.newline_mem_upper_iff]

end HealthReport
