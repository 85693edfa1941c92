import HealthReport.Json.Printer
import HealthReport.Proofs.Json.Literal
import Mathlib.Algebra.Group.Nat.Defs

/-!
# Reading what was written

The text of a JSON value is a document on one line, and reading it gives the value back: as it was
written without checks, and with all checks if the value is within their limits.

Results:
1. `string_quoted`, `number_chars`: strings and numbers are read back.
2. `value_chars`: the same for every value, whatever follows that cannot continue a number.
3. `document_text`: the text of every value is a document.
4. `read_text`: an ordinary value is read back with all checks.
5. `newline_not_mem_text`: a text is one line.
-/
namespace HealthReport

/-! ## Definitions -/

namespace Written

mutual
/-- The document that the text of a value spells. -/
def ofJson : Json → Written
  | .null => .null
  | .bool b => .bool b
  | .number n => .number n.literal
  | .string s => .string (some s)
  | .array items => .array (ofItems items)
  | .object members => .object (ofMembers members)

def ofItems : List Json → List Written
  | [] => []
  | item :: rest => ofJson item :: ofItems rest

def ofMembers : List (String × Json) → List (Option String × Written)
  | [] => []
  | (name, value) :: rest => (some name, ofJson value) :: ofMembers rest
end

end Written

/-- An integer of 64 bits, with a sign or without. -/
def Number.isWord : Number → Bool
  | .integer n => (Number.integer n).isReadable
  | .double _ => false

namespace Json

mutual
/-- The value has no deeper nesting, and no numbers but integers of 64 bits. -/
def isPlain : Json → Nat → Bool
  | .number n, _ => n.isWord
  | .array items, depth => decide (0 < depth) && allPlain items (depth - 1)
  | .object members, depth => decide (0 < depth) && membersPlain members (depth - 1)
  | _, _ => true

def allPlain : List Json → Nat → Bool
  | [], _ => true
  | item :: rest, depth => isPlain item depth && allPlain rest depth

def membersPlain : List (String × Json) → Nat → Bool
  | [], _ => true
  | (_, value) :: rest, depth => isPlain value depth && membersPlain rest depth
end

end Json

/-- Both regular and plain: a value that every reader gives back. -/
structure Json.IsOrdinary (v : Json) (depth : Nat) : Prop where
  regular : v.isRegular
  plain : v.isPlain depth

/-! ## 1. Strings and numbers -/

namespace Reader

/-- The control characters are read back from their four digits. -/
theorem hexNumber?_control : ∀ n < 32,
    hexNumber? ['0', '0', hexDigit (n / 16), hexDigit (n % 16)] = some n := by decide

theorem escape_control {checked : Bool} {c : Char} (control : c.toNat < 0x20) (rest : List Char) :
    escape checked ('u' :: '0' :: '0' :: hexDigit (c.toNat / 16) :: hexDigit (c.toNat % 16) :: rest)
      = .ok (some c, rest) := by
  have digits : hexDigits ('0' :: '0' :: hexDigit (c.toNat / 16) :: hexDigit (c.toNat % 16) :: rest)
      = .ok (c.toNat, rest) := by
    simp only [hexDigits, hexNumber?_control c.toNat control]
    rfl
  have high : isHighSurrogate c.toNat = false := by
    simp only [isHighSurrogate, Bool.and_eq_false_iff, decide_eq_false_iff_not]
    omega
  have low : isLowSurrogate c.toNat = false := by
    simp only [isLowSurrogate, Bool.and_eq_false_iff, decide_eq_false_iff_not]
    omega
  show unicodeEscape checked _ = _
  unfold unicodeEscape
  rw [digits]
  cases checked <;> simp [bind, Except.bind, high, low, pure, Except.pure]

/-- A character within quotes is read back. -/
theorem stringChars_escapeChar (checked : Bool) (fuel : Nat) (c : Char) (rest : List Char) :
    stringChars checked (fuel + 1) (Json.escapeChar c ++ rest) =
      (stringChars checked fuel rest).map fun read => (some c :: read.1, read.2) := by
  unfold Json.escapeChar
  -- The quote, the backslash and the five characters with a letter of their own.
  iterate 7
    split
    · rename_i same
      subst same
      rfl
  split
  · rename_i control
    show (escape checked ('u' :: '0' :: '0' :: hexDigit (c.toNat / 16) ::
      hexDigit (c.toNat % 16) :: rest) >>= _) = _
    rw [escape_control control]
    rfl
  · rename_i quote backslash _ _ _ _ _ plain
    rw [List.singleton_append, stringChars, if_neg quote, if_neg backslash, if_neg plain]
    rfl

theorem stringChars_quoted (checked : Bool) {fuel : Nat} {chars rest : List Char}
    (enough : chars.length < fuel) :
    stringChars checked fuel (chars.flatMap Json.escapeChar ++ '"' :: rest)
      = .ok (chars.map some, rest) := by
  induction chars generalizing fuel with
  | nil =>
    cases fuel with
    | zero => exact absurd enough (Nat.not_lt_zero _)
    | succ fuel => rfl
  | cons c others ih =>
    cases fuel with
    | zero => exact absurd enough (Nat.not_lt_zero _)
    | succ fuel =>
      have read := ih (Nat.lt_of_succ_lt_succ enough)
      rw [List.flatMap_cons, List.append_assoc, stringChars_escapeChar, read]
      rfl

theorem length_le_flatMap_escapeChar (chars : List Char) :
    chars.length ≤ (chars.flatMap Json.escapeChar).length := by
  induction chars with
  | nil => exact Nat.le_refl 0
  | cons c rest ih =>
    have some_char : 0 < (Json.escapeChar c).length := by
      unfold Json.escapeChar
      repeat' split
      all_goals simp
    rw [List.flatMap_cons, List.length_append, List.length_cons]
    omega

/-- A string is read back after its opening quote. -/
theorem string_quoted (checked : Bool) (s : String) (rest : List Char) :
    string checked (s.toList.flatMap Json.escapeChar ++ '"' :: rest) = .ok (some s, rest) := by
  have all : ∀ chars : List Char, (chars.map some).mapM id = some chars := by
    intro chars
    induction chars with
    | nil => rfl
    | cons c rest ih => simp [ih]
  have enough : s.toList.length <
      (s.toList.flatMap Json.escapeChar ++ '"' :: rest).length + 1 := by
    have shorter := length_le_flatMap_escapeChar s.toList
    rw [List.length_append]
    omega
  unfold string
  rw [stringChars_quoted checked enough]
  show Except.ok (((s.toList.map some).mapM id).map String.ofList, rest) = _
  rw [all, Option.map_some, String.ofList_toList]

/-- The reading is within the limits of its checks. -/
def Admits (allowance : Allowance) (value : Json) : Prop :=
  ∀ depth, allowance = some depth → value.isPlain depth

theorem number_chars {allowance : Allowance} {n : Number}
    (admitted : Admits allowance (.number n)) {rest : List Char} (ends : EndsNumber rest) :
    number allowance (n.chars ++ rest) = .ok (.number n.literal, rest) := by
  unfold number
  rw [← n.chars_literal, literal_chars n.isWellFormed_literal ends]
  cases allowance with
  | none => rfl
  | some depth =>
    have word : n.isWord := admitted depth rfl
    cases n with
    | integer k =>
      have value := Literal.number_literal word
      simp only [bind, Except.bind, value]
      rfl
    | double x => cases word

/-! ## 2. Values -/

/-- How every text of a value begins: with no white space, and with no sign that ends a list or
sets its parts apart. -/
def BeginsValue (c : Char) : Prop :=
  isSpace c = false ∧ c ≠ ']' ∧ c ≠ '}'

theorem skipSpace_cons {c : Char} (solid : isSpace c = false) (rest : List Char) :
    skipSpace (c :: rest) = c :: rest := by
  rw [skipSpace, List.dropWhile_cons_of_neg (by rw [solid]; decide)]

theorem begins_digit {c : Char} (digit : c.isDigit) : BeginsValue c := by
  refine ⟨?_, ?_, ?_⟩
  · cases space : isSpace c with
    | false => rfl
    | true =>
      simp only [isSpace, Bool.or_eq_true, beq_iff_eq] at space
      rcases space with ((rfl | rfl) | rfl) | rfl <;> exact absurd digit (by decide)
  · rintro rfl
    exact absurd digit (by decide)
  · rintro rfl
    exact absurd digit (by decide)

theorem number_chars_head (n : Number) :
    ∃ c rest, n.chars = c :: rest ∧ (c = '-' ∨ c.isDigit) := by
  obtain ⟨leading, digits, -, -⟩ := n.isWellFormed_literal
  rw [← n.chars_literal, Literal.chars]
  cases n.literal.neg with
  | true => exact ⟨'-', _, rfl, .inl rfl⟩
  | false =>
    obtain ⟨c, rest, same⟩ : ∃ c rest, n.literal.whole = c :: rest := by
      rcases leading with same | ⟨c, rest, same, -⟩
      · exact ⟨_, _, same⟩
      · exact ⟨_, _, same⟩
    have digit : c.isDigit := digits c (by rw [same]; exact List.mem_cons_self)
    rw [same]
    exact ⟨c, _, rfl, .inr digit⟩

theorem chars_head (v : Json) : ∃ c rest, v.chars = c :: rest ∧ BeginsValue c := by
  cases v with
  | null => exact ⟨'n', _, rfl, by decide, by decide, by decide⟩
  | bool b => cases b <;> exact ⟨_, _, rfl, by decide, by decide, by decide⟩
  | number n =>
    obtain ⟨c, rest, same, minus | digit⟩ := number_chars_head n
    · subst minus
      exact ⟨'-', rest, by rw [Json.chars, same], by decide, by decide, by decide⟩
    · exact ⟨c, rest, by rw [Json.chars, same], begins_digit digit⟩
  | string s => exact ⟨'"', _, rfl, by decide, by decide, by decide⟩
  | array items =>
    cases items <;> exact ⟨'[', _, rfl, by decide, by decide, by decide⟩
  | object members =>
    cases members with
    | nil => exact ⟨'{', _, rfl, by decide, by decide, by decide⟩
    | cons head rest => exact ⟨'{', _, rfl, by decide, by decide, by decide⟩

theorem endsNumber_cons {c : Char} (rest : List Char)
    (other : ¬ c.isDigit ∧ c ≠ '.' ∧ c ≠ 'e' ∧ c ≠ 'E') : EndsNumber (c :: rest) := by
  intro d next
  obtain rfl : c = d := Option.some.inj next
  exact other

section

variable {allowance : Allowance} {fuel : Nat}

theorem value_number {n : Number} (admitted : Admits allowance (.number n)) {rest : List Char}
    (ends : EndsNumber rest) :
    value allowance (fuel + 1) (n.chars ++ rest) = .ok (.number n.literal, rest) := by
  obtain ⟨c, others, same, first⟩ := number_chars_head n
  have solid : isSpace c = false := by
    rcases first with rfl | digit
    · rfl
    · exact (begins_digit digit).1
  have other : ∀ d : Char, ¬ d.isDigit → d ≠ '-' → c ≠ d := by
    rintro d noDigit noMinus rfl
    rcases first with minus | digit
    · exact noMinus minus
    · exact noDigit digit
  have read := number_chars admitted ends
  rw [same, List.cons_append] at read ⊢
  rw [value, skipSpace_cons solid]
  simp only [other 'n' (by decide) (by decide), other 't' (by decide) (by decide),
    other 'f' (by decide) (by decide), other '"' (by decide) (by decide),
    other '[' (by decide) (by decide), other '{' (by decide) (by decide), if_false, read]
  have numeric : (c = '-' || c.isDigit) = true := by
    rcases first with rfl | digit
    · rfl
    · rw [digit, Bool.or_true]
  rw [if_pos numeric]

theorem value_string (s : String) (rest : List Char) :
    value allowance (fuel + 1) (Json.quoted s ++ rest) = .ok (.string (some s), rest) := by
  rw [Json.quoted, List.cons_append, List.cons_append, List.append_assoc, List.singleton_append,
    value, skipSpace_cons (by decide)]
  show (string allowance.isSome (s.toList.flatMap Json.escapeChar ++ '"' :: rest) >>= _) = _
  rw [string_quoted]
  rfl

/-! The steps of reading: what a step leaves to others is a hypothesis about what they read. -/

section

variable {v : Json} {w : Written} {ws : List Written} {tail rest rest' : List Char}

theorem firstItem_step (first : value allowance fuel (v.chars ++ tail) = .ok (w, rest))
    (others : nextItems allowance fuel rest = .ok (ws, rest')) :
    firstItem allowance (fuel + 1) (v.chars ++ tail) = .ok (w :: ws, rest') := by
  obtain ⟨c, chars, same, solid, notEnd, -⟩ := chars_head v
  rw [same, List.cons_append] at first ⊢
  rw [firstItem, skipSpace_cons solid]
  simp only [notEnd, if_false, bind, Except.bind, first, others]
  rfl

theorem nextItems_step (first : value allowance fuel (v.chars ++ tail) = .ok (w, rest))
    (others : nextItems allowance fuel rest = .ok (ws, rest')) :
    nextItems allowance (fuel + 1) (',' :: (v.chars ++ tail)) = .ok (w :: ws, rest') := by
  obtain ⟨c, chars, same, solid, notEnd, -⟩ := chars_head v
  rw [same, List.cons_append] at first ⊢
  rw [nextItems, skipSpace_cons (by decide)]
  simp only [skipSpace_cons solid, show ',' ≠ ']' by decide, if_true, notEnd, if_false, bind,
    Except.bind, first, others]
  rfl

theorem member_step {name : String} (first : value allowance fuel tail = .ok (w, rest)) :
    member allowance (fuel + 1)
      (name.toList.flatMap Json.escapeChar ++ '"' :: ':' :: tail) = .ok ((some name, w), rest) := by
  rw [member, string_quoted]
  simp only [bind, Except.bind, skipSpace_cons (show isSpace ':' = false by decide), if_true, first]
  rfl

theorem firstMember_step {name : String} {ms : List (Option String × Written)}
    (first : value allowance fuel tail = .ok (w, rest))
    (others : nextMembers allowance (fuel + 1) rest = .ok (ms, rest')) :
    firstMember allowance (fuel + 2) (Json.quoted name ++ ':' :: tail)
      = .ok ((some name, w) :: ms, rest') := by
  rw [Json.quoted, List.cons_append, List.cons_append, List.append_assoc, List.singleton_append,
    firstMember, skipSpace_cons (by decide)]
  simp only [show '"' ≠ '}' by decide, if_false, if_true, bind, Except.bind, member_step first,
    others]
  rfl

theorem nextMembers_step {name : String} {ms : List (Option String × Written)}
    (first : value allowance fuel tail = .ok (w, rest))
    (others : nextMembers allowance (fuel + 1) rest = .ok (ms, rest')) :
    nextMembers allowance (fuel + 2) (',' :: (Json.quoted name ++ ':' :: tail))
      = .ok ((some name, w) :: ms, rest') := by
  rw [Json.quoted, List.cons_append, List.cons_append, List.append_assoc, List.singleton_append,
    nextMembers, skipSpace_cons (by decide)]
  simp only [skipSpace_cons (show isSpace '"' = false by decide), show ',' ≠ '}' by decide, if_true,
    if_false, bind, Except.bind, member_step first, others]
  rfl

theorem value_array {inner : Allowance} (entered : enter allowance ('[' :: tail) = .ok inner)
    (items : firstItem inner fuel tail = .ok (ws, rest)) :
    value allowance (fuel + 1) ('[' :: tail) = .ok (.array ws, rest) := by
  show (enter allowance ('[' :: tail) >>= _) = _
  rw [entered]
  show (firstItem inner fuel tail >>= _) = _
  rw [items]
  rfl

theorem value_object {inner : Allowance} {ms : List (Option String × Written)}
    (entered : enter allowance ('{' :: tail) = .ok inner)
    (members : firstMember inner fuel tail = .ok (ms, rest)) :
    value allowance (fuel + 1) ('{' :: tail) = .ok (.object ms, rest) := by
  show (enter allowance ('{' :: tail) >>= _) = _
  rw [entered]
  show (firstMember inner fuel tail >>= _) = _
  rw [members]
  rfl

end

theorem endsNumber_items (items : List Json) (rest : List Char) :
    EndsNumber (Json.itemsChars items ++ ']' :: rest) := by
  cases items with
  | nil => exact endsNumber_cons _ (by decide)
  | cons item others => exact endsNumber_cons _ (by decide)

theorem endsNumber_members (members : List (String × Json)) (rest : List Char) :
    EndsNumber (Json.membersChars members ++ '}' :: rest) := by
  cases members with
  | nil => exact endsNumber_cons _ (by decide)
  | cons head others => exact endsNumber_cons _ (by decide)

end

/-- Entering a bracket leaves enough room for what is within. -/
theorem enter_of_admits {allowance : Allowance} {P : Nat → Bool}
    (admitted : ∀ depth, allowance = some depth → (decide (0 < depth) && P (depth - 1)) = true)
    (chars : List Char) :
    ∃ inner, enter allowance chars = .ok inner ∧
      ∀ depth, inner = some depth → P depth = true := by
  cases allowance with
  | none =>
    refine ⟨none, rfl, ?_⟩
    rintro depth ⟨⟩
  | some depth =>
    have room := admitted depth rfl
    rw [Bool.and_eq_true, decide_eq_true_eq] at room
    cases depth with
    | zero => exact absurd room.1 (Nat.lt_irrefl 0)
    | succ left =>
      refine ⟨some left, rfl, ?_⟩
      rintro other ⟨⟩
      exact room.2

theorem chars_ne_nil (v : Json) : 0 < v.chars.length := by
  obtain ⟨c, rest, same, -⟩ := chars_head v
  rw [same]
  exact Nat.succ_pos _

theorem length_quoted (name : String) : 2 ≤ (Json.quoted name).length := by
  rw [Json.quoted, List.cons_append, List.length_cons, List.length_append, List.length_singleton]
  omega

-- The fuel for a value is its length: every step passes over at least one character.
mutual
/-- A value is read back, whatever follows that cannot continue a number. -/
theorem value_chars : ∀ (v : Json) {allowance : Allowance} {fuel : Nat} {rest : List Char},
    Admits allowance v → v.chars.length ≤ fuel → EndsNumber rest →
      value allowance fuel (v.chars ++ rest) = .ok (Written.ofJson v, rest)
  | .null, allowance, fuel, rest, _, enough, _ => by
    obtain ⟨left, rfl⟩ := Nat.exists_eq_add_of_le' (Nat.le_trans (by decide : 1 ≤ 4) enough)
    rfl
  | .bool true, allowance, fuel, rest, _, enough, _ => by
    obtain ⟨left, rfl⟩ := Nat.exists_eq_add_of_le' (Nat.le_trans (by decide : 1 ≤ 4) enough)
    rfl
  | .bool false, allowance, fuel, rest, _, enough, _ => by
    obtain ⟨left, rfl⟩ := Nat.exists_eq_add_of_le' (Nat.le_trans (by decide : 1 ≤ 5) enough)
    rfl
  | .number n, allowance, fuel, rest, admitted, enough, ends => by
    obtain ⟨left, rfl⟩ := Nat.exists_eq_add_of_le' (Nat.le_trans (chars_ne_nil _) enough)
    exact value_number admitted ends
  | .string s, allowance, fuel, rest, _, enough, _ => by
    obtain ⟨left, rfl⟩ := Nat.exists_eq_add_of_le' (Nat.le_trans (chars_ne_nil _) enough)
    exact value_string s rest
  | .array [], allowance, fuel, rest, admitted, enough, _ => by
    obtain ⟨left, rfl⟩ := Nat.exists_eq_add_of_le' enough
    obtain ⟨inner, entered, -⟩ := enter_of_admits admitted ('[' :: ']' :: rest)
    exact value_array entered rfl
  | .array (item :: others), allowance, fuel, rest, admitted, enough, _ => by
    have some_char := chars_ne_nil item
    simp only [Json.chars, List.cons_append, List.length_cons, List.length_append, List.nil_append,
      List.append_assoc, List.length_nil] at enough ⊢
    -- One unit of fuel for the bracket and one for the first item.
    obtain ⟨left, rfl⟩ := Nat.exists_eq_add_of_le' (show 2 ≤ fuel by omega)
    obtain ⟨inner, entered, plain⟩ := enter_of_admits admitted
      ('[' :: (item.chars ++ (Json.itemsChars others ++ ']' :: rest)))
    simp only [Json.allPlain, Bool.and_eq_true] at plain
    have first := value_chars item (fun depth same => (plain depth same).1)
      (show item.chars.length ≤ left by omega) (endsNumber_items others rest)
    have next : nextItems inner left (Json.itemsChars others ++ ']' :: rest)
        = .ok (Written.ofItems others, rest) :=
      nextItems_chars others (fun depth same => (plain depth same).2) (by omega)
    exact value_array entered (firstItem_step first next)
  | .object [], allowance, fuel, rest, admitted, enough, _ => by
    obtain ⟨left, rfl⟩ := Nat.exists_eq_add_of_le' enough
    obtain ⟨inner, entered, -⟩ := enter_of_admits admitted ('{' :: '}' :: rest)
    exact value_object entered rfl
  | .object ((name, held) :: others), allowance, fuel, rest, admitted, enough, _ => by
    have some_quote := length_quoted name
    simp only [Json.chars, List.cons_append, List.length_cons, List.length_append, List.nil_append,
      List.append_assoc, List.length_nil] at enough ⊢
    -- One more than in an array, for the name.
    obtain ⟨left, rfl⟩ := Nat.exists_eq_add_of_le' (show 3 ≤ fuel by omega)
    obtain ⟨inner, entered, plain⟩ := enter_of_admits admitted ('{' ::
      (Json.quoted name ++ ':' :: (held.chars ++ (Json.membersChars others ++ '}' :: rest))))
    simp only [Json.membersPlain, Bool.and_eq_true] at plain
    have first := value_chars held (fun depth same => (plain depth same).1)
      (show held.chars.length ≤ left by omega) (endsNumber_members others rest)
    have next : nextMembers inner (left + 1) (Json.membersChars others ++ '}' :: rest)
        = .ok (Written.ofMembers others, rest) :=
      nextMembers_chars others (fun depth same => (plain depth same).2) (by omega)
    exact value_object entered (firstMember_step first next)

theorem nextItems_chars : ∀ (items : List Json) {allowance : Allowance} {fuel : Nat}
    {rest : List Char}, (∀ depth, allowance = some depth → Json.allPlain items depth) →
      (Json.itemsChars items).length < fuel →
      nextItems allowance fuel (Json.itemsChars items ++ ']' :: rest)
        = .ok (Written.ofItems items, rest)
  | [], allowance, fuel, rest, _, enough => by
    obtain ⟨left, rfl⟩ := Nat.exists_eq_add_of_le' enough
    rfl
  | item :: others, allowance, fuel, rest, admitted, enough => by
    obtain ⟨left, rfl⟩ := Nat.exists_eq_add_of_le' (Nat.succ_le_of_lt (Nat.zero_lt_of_lt enough))
    rw [Json.itemsChars, List.cons_append, List.length_cons, List.length_append] at enough
    rw [Json.itemsChars, List.cons_append, List.cons_append, List.append_assoc]
    have some_char := chars_ne_nil item
    have plain : ∀ depth, allowance = some depth →
        item.isPlain depth = true ∧ Json.allPlain others depth = true := fun depth same => by
      have both := admitted depth same
      rwa [Json.allPlain, Bool.and_eq_true] at both
    have first := value_chars item (fun depth same => (plain depth same).1)
      (show item.chars.length ≤ left by omega) (endsNumber_items others rest)
    exact nextItems_step first
      (nextItems_chars others (fun depth same => (plain depth same).2) (by omega))

theorem nextMembers_chars : ∀ (members : List (String × Json)) {allowance : Allowance} {fuel : Nat}
    {rest : List Char}, (∀ depth, allowance = some depth → Json.membersPlain members depth) →
      (Json.membersChars members).length < fuel →
      nextMembers allowance fuel (Json.membersChars members ++ '}' :: rest)
        = .ok (Written.ofMembers members, rest)
  | [], allowance, fuel, rest, _, enough => by
    obtain ⟨left, rfl⟩ := Nat.exists_eq_add_of_le' enough
    rfl
  | (name, held) :: others, allowance, fuel, rest, admitted, enough => by
    have some_quote := length_quoted name
    simp only [Json.membersChars, List.cons_append, List.length_cons, List.length_append,
      List.append_assoc] at enough ⊢
    obtain ⟨left, rfl⟩ := Nat.exists_eq_add_of_le' (show 2 ≤ fuel by omega)
    have plain : ∀ depth, allowance = some depth →
        held.isPlain depth = true ∧ Json.membersPlain others depth = true := fun depth same => by
      have both := admitted depth same
      rwa [Json.membersPlain, Bool.and_eq_true] at both
    have first := value_chars held (fun depth same => (plain depth same).1)
      (show held.chars.length ≤ left by omega) (endsNumber_members others rest)
    exact nextMembers_step first
      (nextMembers_chars others (fun depth same => (plain depth same).2) (by omega))
end

/-! ## 3. Documents -/

theorem document_text {allowance : Allowance} {v : Json} (admitted : Admits allowance v) :
    document allowance v.text.toList = .ok (.ofJson v) := by
  have nothing : EndsNumber [] := by
    rintro c ⟨⟩
  have read := value_chars v admitted
    (show v.chars.length ≤ 3 * v.chars.length + 3 by omega) nothing
  rw [List.append_nil] at read
  rw [Json.text, String.toList_ofList, document]
  simp only [bind, Except.bind, read]
  rfl

/-- The text of every value is a document: a reading without checks takes it. -/
theorem document_text_unchecked (v : Json) : document none v.text.toList = .ok (.ofJson v) :=
  document_text fun _ limited => nomatch limited

end Reader

/-! ## 4. The value read -/

namespace Members

theorem put_of_last {members : Members} {name : String} (value : Json)
    (last : ∀ other ∈ members.names, other < name) :
    put name value members = members ++ [(name, value)] := by
  induction members with
  | nil => rfl
  | cons head rest ih =>
    obtain ⟨first, held⟩ := head
    have before : first < name := last first List.mem_cons_self
    have notAfter : ¬ name < first := String.lt_asymm before
    rw [put, if_neg notAfter, if_pos before,
      ih fun other member => last other (List.mem_cons_of_mem _ member), List.cons_append]

/-- Members in order stay as they are. -/
theorem ofList_of_isAscending {members : Members} (ascending : members.isAscending) :
    ofList members = members := by
  have names := of_decide_eq_true ascending
  suffices general : ∀ done : Members, (∀ a ∈ done.names, ∀ b ∈ members.names, a < b) →
      members.foldl (fun done member => put member.1 member.2 done) done = done ++ members by
    exact general [] (by simp [Members.names])
  clear ascending
  -- The members read so far lie before all that follow, so each is put at the end.
  induction members with
  | nil =>
    intro done _
    simp
  | cons head rest ih =>
    obtain ⟨name, value⟩ := head
    simp only [Members.names, List.map_cons, List.pairwise_cons] at names ih
    intro done before
    have last : ∀ other ∈ done.names, other < name := fun other member =>
      before other member name List.mem_cons_self
    show rest.foldl _ (put name value done) = _
    rw [put_of_last value last]
    refine (ih names.2 (done ++ [(name, value)]) ?_).trans (List.append_assoc _ _ _)
    intro a member b later
    rw [List.map_append, List.mem_append] at member
    rcases member with old | new
    · exact before a old b (List.mem_cons_of_mem _ later)
    · obtain rfl : a = name := List.mem_singleton.1 new
      exact names.1 b later

theorem isAscending_of_names {members : Members} (names : List String)
    (same : members.names = names) (ascending : names.Pairwise (· < ·)) : members.isAscending := by
  rw [isAscending, same]
  exact decide_eq_true ascending

end Members

namespace Written

mutual
/-- A regular value with plain numbers is the value that its document stands for. -/
theorem toJson_ofJson : ∀ (v : Json) {depth : Nat}, v.isRegular → v.isPlain depth →
    (ofJson v).toJson = v
  | .null, _, _, _ => rfl
  | .bool _, _, _, _ => rfl
  | .string _, _, _, _ => rfl
  | .number (.integer n), _, regular, _ => by
    have value : (Number.integer n).literal.number? = some (.integer n) :=
      Literal.number_literal regular
    rw [ofJson, toJson, Literal.number, value]
    rfl
  | .number (.double _), _, _, plain => nomatch plain
  | .array items, depth, regular, plain => by
    rw [Json.isRegular] at regular
    rw [Json.isPlain, Bool.and_eq_true] at plain
    rw [ofJson, toJson, itemsToJson_ofItems items regular plain.2]
  | .object members, depth, regular, plain => by
    rw [Json.isRegular, Bool.and_eq_true] at regular
    rw [Json.isPlain, Bool.and_eq_true] at plain
    rw [ofJson, toJson, membersToJson_ofMembers members regular.2 plain.2,
      Members.ofList_of_isAscending regular.1]

theorem itemsToJson_ofItems : ∀ (items : List Json) {depth : Nat}, Json.allRegular items →
    Json.allPlain items depth → itemsToJson (ofItems items) = items
  | [], _, _, _ => rfl
  | item :: rest, depth, regular, plain => by
    rw [Json.allRegular, Bool.and_eq_true] at regular
    rw [Json.allPlain, Bool.and_eq_true] at plain
    rw [ofItems, itemsToJson, toJson_ofJson item regular.1 plain.1,
      itemsToJson_ofItems rest regular.2 plain.2]

theorem membersToJson_ofMembers : ∀ (members : List (String × Json)) {depth : Nat},
    Json.membersRegular members → Json.membersPlain members depth →
      membersToJson (ofMembers members) = members
  | [], _, _, _ => rfl
  | (name, value) :: rest, depth, regular, plain => by
    rw [Json.membersRegular, Bool.and_eq_true] at regular
    rw [Json.membersPlain, Bool.and_eq_true] at plain
    rw [ofMembers, membersToJson, toJson_ofJson value regular.1 plain.1,
      membersToJson_ofMembers rest regular.2 plain.2]
    rfl
end

end Written

namespace Json

/-- A regular and plain value is read back from its text with all checks. -/
theorem read_text {v : Json} (ordinary : v.IsOrdinary Reader.depthLimit) :
    read v.text = .ok v := by
  have admitted : Reader.Admits (some Reader.depthLimit) v := by
    rintro depth ⟨⟩
    exact ordinary.plain
  rw [read, Reader.document_text admitted]
  show Except.ok (Written.ofJson v).toJson = _
  rw [Written.toJson_ofJson v ordinary.regular ordinary.plain]

theorem isOrdinary_string (s : String) (depth : Nat) : (string s).IsOrdinary depth :=
  ⟨rfl, rfl⟩

theorem isOrdinary_bool (b : Bool) (depth : Nat) : (bool b).IsOrdinary depth :=
  ⟨rfl, rfl⟩

theorem isOrdinary_ofNat {n : Nat} (small : n < 2 ^ 64) (depth : Nat) :
    (ofNat n).IsOrdinary depth := by
  have readable : (Number.integer n).isReadable = true := by
    simp only [Number.isReadable, Bool.and_eq_true, decide_eq_true_eq]
    omega
  exact ⟨readable, readable⟩

theorem isOrdinary_array {items : List Json} {depth : Nat}
    (all : ∀ item ∈ items, item.IsOrdinary depth) : (array items).IsOrdinary (depth + 1) := by
  have inside : allRegular items ∧ allPlain items depth := by
    induction items with
    | nil => exact ⟨rfl, rfl⟩
    | cons item rest ih =>
      obtain ⟨first, others⟩ := List.forall_mem_cons.1 all
      obtain ⟨regular, plain⟩ := ih others
      rw [allRegular, allPlain, Bool.and_eq_true, Bool.and_eq_true]
      exact ⟨⟨first.regular, regular⟩, first.plain, plain⟩
  refine ⟨inside.1, ?_⟩
  rw [isPlain, Bool.and_eq_true, decide_eq_true_eq]
  exact ⟨Nat.succ_pos depth, inside.2⟩

theorem isOrdinary_object {members : Members} {depth : Nat} (names : List String)
    (same : members.names = names) (ascending : names.Pairwise (· < ·))
    (all : ∀ held ∈ members, held.2.IsOrdinary depth) :
    (object members).IsOrdinary (depth + 1) := by
  have inside : membersRegular members ∧ membersPlain members depth := by
    clear same
    induction members with
    | nil => exact ⟨rfl, rfl⟩
    | cons head rest ih =>
      obtain ⟨name, value⟩ := head
      obtain ⟨first, others⟩ := List.forall_mem_cons.1 all
      obtain ⟨regular, plain⟩ := ih others
      rw [membersRegular, membersPlain, Bool.and_eq_true, Bool.and_eq_true]
      exact ⟨⟨first.regular, regular⟩, first.plain, plain⟩
  refine ⟨?_, ?_⟩
  · rw [isRegular, Bool.and_eq_true]
    exact ⟨Members.isAscending_of_names names same ascending, inside.1⟩
  · rw [isPlain, Bool.and_eq_true, decide_eq_true_eq]
    exact ⟨Nat.succ_pos depth, inside.2⟩

theorem isOrdinary_ofStrings (texts : List String) (depth : Nat) :
    (ofStrings texts).IsOrdinary (depth + 1) := by
  refine isOrdinary_array fun item member => ?_
  obtain ⟨s, -, rfl⟩ := List.mem_map.1 member
  exact isOrdinary_string s depth

/-! ## 5. One line -/

/-- The character is no control character. -/
def IsVisible (c : Char) : Prop :=
  0x20 ≤ c.toNat

instance (c : Char) : Decidable (IsVisible c) := inferInstanceAs (Decidable (_ ≤ _))

-- Deciding the quantifier itself would run through all characters, not through the list.
theorem isVisible_of_all {cs : List Char} (visible : cs.all fun c => decide (IsVisible c)) :
    ∀ c ∈ cs, IsVisible c := by
  intro c member
  exact of_decide_eq_true (List.all_eq_true.1 visible c member)

theorem isVisible_hexDigit : ∀ n < 16, IsVisible (hexDigit n) := by decide

theorem isVisible_digit {c : Char} (digit : c.isDigit) : IsVisible c := by
  rw [Char.isDigit, Bool.and_eq_true, decide_eq_true_eq] at digit
  have low : '0'.toNat ≤ c.toNat := digit.1
  exact Nat.le_trans (by decide) low

theorem isVisible_escapeChar (c : Char) : ∀ d ∈ escapeChar c, IsVisible d := by
  unfold escapeChar
  iterate 7
    split
    · exact isVisible_of_all (by decide)
  split
  · rename_i control
    have high := isVisible_hexDigit (c.toNat / 16) (by omega)
    have low := isVisible_hexDigit (c.toNat % 16) (by omega)
    have fixed : IsVisible '\\' ∧ IsVisible 'u' ∧ IsVisible '0' := by decide
    simp only [List.forall_mem_cons, high, low, fixed, true_and]
    exact List.forall_mem_nil _
  · rename_i plain
    intro d member
    obtain rfl : d = c := List.mem_singleton.1 member
    exact Nat.not_lt.1 plain

theorem isVisible_quoted (s : String) : ∀ c ∈ quoted s, IsVisible c := by
  have quote : IsVisible '"' := by decide
  have inside : ∀ c ∈ s.toList.flatMap escapeChar, IsVisible c := by
    intro c member
    obtain ⟨d, -, escaped⟩ := List.mem_flatMap.1 member
    exact isVisible_escapeChar d c escaped
  rw [quoted, List.cons_append, List.forall_mem_cons, List.forall_mem_append]
  exact ⟨quote, inside, by simpa using quote⟩

theorem isVisible_number (n : Number) : ∀ c ∈ n.chars, IsVisible c := by
  obtain ⟨-, whole, places, power⟩ := n.isWellFormed_literal
  rw [← n.chars_literal, Literal.chars]
  simp only [List.forall_mem_append]
  refine ⟨?_, fun c member => isVisible_digit (whole c member), ?_, ?_⟩
  · cases n.literal.neg <;> exact isVisible_of_all (by decide)
  · cases held : n.literal.places with
    | nil => exact List.forall_mem_nil _
    | cons digit rest =>
      rw [held] at places
      rw [Literal.placesChars, List.forall_mem_cons]
      exact ⟨by decide, fun c member => isVisible_digit (places c member)⟩
  · cases held : n.literal.power with
    | none => exact List.forall_mem_nil _
    | some exponent =>
      obtain ⟨down, digits⟩ := exponent
      have digit := (power down digits held).2
      rw [Literal.powerChars, List.forall_mem_cons, List.forall_mem_cons]
      exact ⟨by decide, by cases down <;> decide, fun c member => isVisible_digit (digit c member)⟩

mutual
/-- Whatever the strings within hold, the text of a value has no control characters. -/
theorem isVisible_chars : ∀ (v : Json), ∀ c ∈ v.chars, IsVisible c
  | .null => isVisible_of_all (by decide)
  | .bool true => isVisible_of_all (by decide)
  | .bool false => isVisible_of_all (by decide)
  | .number n => isVisible_number n
  | .string s => isVisible_quoted s
  | .array [] => isVisible_of_all (by decide)
  | .array (item :: rest) => by
    rw [chars, List.cons_append, List.cons_append, List.forall_mem_cons, List.forall_mem_append,
      List.forall_mem_append]
    exact ⟨by decide, ⟨isVisible_chars item, isVisible_itemsChars rest⟩,
      isVisible_of_all (by decide)⟩
  | .object [] => isVisible_of_all (by decide)
  | .object ((name, value) :: rest) => by
    simp only [chars, List.cons_append, List.append_assoc, List.forall_mem_cons,
      List.forall_mem_append]
    exact ⟨by decide, isVisible_quoted name, by decide, isVisible_chars value,
      isVisible_membersChars rest, by decide, List.forall_mem_nil _⟩

theorem isVisible_itemsChars : ∀ (items : List Json), ∀ c ∈ itemsChars items, IsVisible c
  | [] => List.forall_mem_nil _
  | item :: rest => by
    rw [itemsChars, List.cons_append, List.forall_mem_cons, List.forall_mem_append]
    exact ⟨by decide, isVisible_chars item, isVisible_itemsChars rest⟩

theorem isVisible_membersChars :
    ∀ (members : List (String × Json)), ∀ c ∈ membersChars members, IsVisible c
  | [] => List.forall_mem_nil _
  | (name, value) :: rest => by
    simp only [membersChars, List.cons_append, List.append_assoc, List.forall_mem_cons,
      List.forall_mem_append]
    exact ⟨by decide, isVisible_quoted name, by decide, isVisible_chars value,
      isVisible_membersChars rest⟩
end

/-- A text is one line. -/
theorem newline_not_mem_text (v : Json) : '\n' ∉ v.text.toList := by
  intro member
  rw [text, String.toList_ofList] at member
  exact absurd (isVisible_chars v '\n' member) (by decide)

end Json

end HealthReport
