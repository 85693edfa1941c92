import HealthReport.Proofs.Json.Members
import HealthReport.Validation.Assessment

/-!
# Reading an assessment back from its document

The document of an assessment says all of it: each defect can be read back from its detail, and the
whole assessment from the whole document. So different assessments have different documents, even
where the messages of their defects agree.

Results:
1. `Json.eq_of_same`: a document without doubles is the same only as itself.
2. `Defect.ofDetail?_detail`: a defect is read back from its detail.
3. `Assessment.ofJson?_toJson`: an assessment is read back from its document.
4. `Assessment.toJson_same_iff`: the document determines the assessment, and says what its parts
   say.
-/
namespace HealthReport

/-! ## Definitions -/

namespace Json

mutual
/-- No number within is a double. -/
def isIntegral : Json → Bool
  | .number (.double _) => false
  | .array items => allIntegral items
  | .object members => membersIntegral members
  | _ => true

def allIntegral : List Json → Bool
  | [] => true
  | item :: rest => isIntegral item && allIntegral rest

def membersIntegral : List (String × Json) → Bool
  | [] => true
  | (_, value) :: rest => isIntegral value && membersIntegral rest
end

def textAt? (value : Json) (name : String) : Option String := (value.get? name).bind string?

def itemsAt? (value : Json) (name : String) : Option (List Json) := (value.get? name).bind items?

def textsAt? (value : Json) (name : String) : Option (List String) :=
  (value.itemsAt? name).bind (·.mapM string?)

def countAt? (value : Json) (name : String) : Option Nat :=
  match (value.get? name).bind number? with
  | some (.integer n) => some n.toNat
  | _ => none

end Json

/-- The defect that a detail tells. -/
def Defect.ofDetail? (detail : Json) : Option Defect :=
  match detail.textAt? "kind" with
  | some "missing_top_level" => (detail.textsAt? "keys").map missingTopLevel
  | some "wrong_tool" => (detail.textAt? "found").map wrongTool
  | some "invalid_self_pid" => (detail.textAt? "found").map invalidSelfPid
  | some "categories_not_object" => some categoriesNotObject
  | some "missing_categories" => (detail.textsAt? "missing").map missingCategories
  | some "category_not_array" => (detail.textAt? "category").map categoryNotArray
  | some "result_not_object" => do
    return resultNotObject (← detail.textAt? "category") (← detail.countAt? "index")
  | some "missing_collector" => do
    return missingCollector (← detail.textAt? "category") (← detail.countAt? "index")
  | some "missing_result_key" => do
    return missingResultKey (← detail.textAt? "collector") (← detail.textAt? "key")
  | some "invalid_tier" => do
    return invalidTier (← detail.textAt? "collector") (← detail.textAt? "tier")
  | some "no_results" => some noResults
  | some "invalid_health_score" => (detail.textAt? "found").map invalidHealthScore
  | _ => none

def Defect.ofItem? (item : Json) : Option Defect := (item.get? "detail").bind ofDetail?

def Advisory.ofItem? (item : Json) : Option Advisory :=
  (item.textsAt? "collectors").map Advisory.mk

namespace Assessment

/-- The assessment that a document tells. -/
def ofJson? (document : Json) : Option Assessment := do
  let defects ← (← document.itemsAt? "errors").mapM Defect.ofItem?
  let advisories ← (← document.itemsAt? "warnings").mapM Advisory.ofItem?
  let categoryCount ← document.countAt? "category_count"
  let resultCount ← document.countAt? "result_count"
  return ⟨defects, advisories.head?, categoryCount, resultCount⟩

/-- What a document with these errors and warnings says about an assessment. -/
structure Told (a : Assessment) (document : Json) (errors warnings : List Json) : Prop where
  errorsFound : document.get? "errors" = some (.array errors)
  warningsFound : document.get? "warnings" = some (.array warnings)
  valid : document.get? "valid" = some (.bool true) ↔ a.defects = []
  messages : errors.map (·.get? "message") = a.reasons.map fun reason => some (Json.string reason)
  codes : errors.map (·.get? "code") = a.defects.map fun d => some (Json.string d.code.entry.code)
  categories : errors.map (·.get? "category") =
    a.defects.map fun d => some (Json.string d.code.entry.category.label)
  single : warnings.length = 1 ↔ a.advisory.isSome
  collectors : warnings.map (·.get? "collectors") =
    a.advisory.toList.map fun advisory => some (Json.ofStrings advisory.collectors)

end Assessment

/-! ## 1. Documents that are the same -/

namespace Json

mutual
/-- A document without doubles is the same only as itself. -/
theorem eq_of_same : ∀ (a : Json) {b : Json}, a.isIntegral → a.same b → a = b
  | .null, b, _, same => by
    cases b with
    | null => rfl
    | bool _ | number _ | string _ | array _ | object _ => cases same
  | .bool _, b, _, same => by
    cases b with
    | bool _ => exact congrArg bool (beq_iff_eq.1 same)
    | null | number _ | string _ | array _ | object _ => cases same
  | .number (.integer n), b, _, same => by
    cases b with
    | number m =>
      cases m with
      | integer m =>
        have value : n = m := beq_iff_eq.1 same
        rw [value]
      | double _ => cases same
    | null | bool _ | string _ | array _ | object _ => cases same
  | .number (.double _), _, integral, _ => by cases integral
  | .string _, b, _, same => by
    cases b with
    | string _ => exact congrArg string (beq_iff_eq.1 same)
    | null | bool _ | number _ | array _ | object _ => cases same
  | .array as, b, integral, same => by
    cases b with
    | array bs => exact congrArg array (eq_of_allSame as integral same)
    | null | bool _ | number _ | string _ | object _ => cases same
  | .object as, b, integral, same => by
    cases b with
    | object bs => exact congrArg object (eq_of_membersSame as integral same)
    | null | bool _ | number _ | string _ | array _ => cases same

theorem eq_of_allSame : ∀ (as : List Json) {bs : List Json},
    allIntegral as → allSame as bs → as = bs
  | [], bs, _, same => by
    cases bs with
    | nil => rfl
    | cons _ _ => cases same
  | a :: as, bs, integral, same => by
    cases bs with
    | nil => cases same
    | cons b bs =>
      rw [allIntegral, Bool.and_eq_true] at integral
      rw [allSame, Bool.and_eq_true] at same
      rw [eq_of_same a integral.1 same.1, eq_of_allSame as integral.2 same.2]

theorem eq_of_membersSame : ∀ (as : List (String × Json)) {bs : List (String × Json)},
    membersIntegral as → membersSame as bs → as = bs
  | [], bs, _, same => by
    cases bs with
    | nil => rfl
    | cons _ _ => cases same
  | (name, a) :: as, bs, integral, same => by
    cases bs with
    | nil => cases same
    | cons head bs =>
      obtain ⟨other, b⟩ := head
      rw [membersIntegral, Bool.and_eq_true] at integral
      rw [membersSame, Bool.and_eq_true, Bool.and_eq_true, beq_iff_eq] at same
      rw [same.1.1, eq_of_same a integral.1 same.1.2, eq_of_membersSame as integral.2 same.2]
end

mutual
theorem same_refl : ∀ v : Json, v.same v
  | .null => rfl
  | .bool _ => beq_self_eq_true _
  | .number (.integer n) => beq_self_eq_true n
  | .number (.double x) => beq_self_eq_true x.signed
  | .string _ => beq_self_eq_true _
  | .array items => allSame_refl items
  | .object members => membersSame_refl members

theorem allSame_refl : ∀ items : List Json, allSame items items
  | [] => rfl
  | item :: rest => by
    rw [allSame, same_refl item, allSame_refl rest]
    rfl

theorem membersSame_refl : ∀ members : List (String × Json), membersSame members members
  | [] => rfl
  | (name, value) :: rest => by
    rw [membersSame, beq_self_eq_true, same_refl value, membersSame_refl rest]
    rfl
end

theorem allIntegral_iff {items : List Json} :
    allIntegral items = true ↔ ∀ item ∈ items, item.isIntegral = true := by
  induction items with
  | nil => simp [allIntegral]
  | cons head rest ih => simp [allIntegral, ih]

theorem isIntegral_ofStrings (texts : List String) : (ofStrings texts).isIntegral := by
  rw [ofStrings, isIntegral, allIntegral_iff]
  intro item member
  obtain ⟨text, -, rfl⟩ := List.mem_map.1 member
  rfl

/-! ## 2. Defects -/

/-- What is read from the document of each item is read from those of a list of them. -/
theorem mapM_map_eq {α β : Type} {write : α → Json} {read? : Json → Option β} {told : α → β}
    (back : ∀ item, read? (write item) = some (told item)) (items : List α) :
    (items.map write).mapM read? = some (items.map told) := by
  induction items with
  | nil => rfl
  | cons head rest ih => simp [ih, back]

/-- If each item is read back from its document, so is a list of them. -/
theorem mapM_map {α : Type} {write : α → Json} {read? : Json → Option α}
    (back : ∀ item, read? (write item) = some item) (items : List α) :
    (items.map write).mapM read? = some items := by
  rw [@mapM_map_eq α α write read? id back, List.map_id]

theorem textsAt?_of_get? {value : Json} {name : String} {texts : List String}
    (found : value.get? name = some (ofStrings texts)) : value.textsAt? name = some texts := by
  rw [textsAt?, itemsAt?, found]
  exact @mapM_map String string string? (fun _ => rfl) texts

end Json

/-- A defect is read back from its detail. -/
theorem Defect.ofDetail?_detail (d : Defect) : ofDetail? d.detail = some d := by
  cases d with
  | missingTopLevel names =>
    show (Json.textsAt? _ "keys").map missingTopLevel = _
    rw [@Json.textsAt?_of_get? _ _ names rfl]
    rfl
  | missingCategories names =>
    show (Json.textsAt? _ "missing").map missingCategories = _
    rw [@Json.textsAt?_of_get? _ _ names rfl]
    rfl
  | wrongTool _ | invalidSelfPid _ | categoriesNotObject | categoryNotArray _
  | resultNotObject _ _ | missingCollector _ _ | missingResultKey _ _ | invalidTier _ _ | noResults
  | invalidHealthScore _ => rfl

theorem Defect.isIntegral_detail (d : Defect) : d.detail.isIntegral := by
  cases d <;> simp [detail, Json.isIntegral, Json.membersIntegral, Json.isIntegral_ofStrings,
    Json.ofNat]

/-! ## 3. Assessments -/

namespace Assessment

theorem ofItem?_defectJson (d : Defect) : Defect.ofItem? (defectJson d) = some d :=
  d.ofDetail?_detail

theorem ofItem?_advisoryJson (a : Advisory) : Advisory.ofItem? (advisoryJson a) = some a := by
  rw [Advisory.ofItem?, @Json.textsAt?_of_get? _ _ a.collectors rfl]
  rfl

/-- An assessment is read back from its document. -/
theorem ofJson?_toJson (a : Assessment) : ofJson? a.toJson = some a := by
  have errors : a.toJson.itemsAt? "errors" = some (a.defects.map defectJson) := rfl
  have warnings : a.toJson.itemsAt? "warnings" = some (a.advisory.toList.map advisoryJson) := rfl
  have categories : a.toJson.countAt? "category_count" = some a.categoryCount := rfl
  have results : a.toJson.countAt? "result_count" = some a.resultCount := rfl
  simp [ofJson?, errors, warnings, categories, results, Json.mapM_map ofItem?_defectJson,
    Json.mapM_map ofItem?_advisoryJson]

theorem isIntegral_toJson (a : Assessment) : a.toJson.isIntegral := by
  have errors : ∀ d, (defectJson d).isIntegral := by
    intro d
    simp [defectJson, Json.isIntegral, Json.membersIntegral, Json.isIntegral_ofStrings,
      d.isIntegral_detail]
  have warnings : ∀ advisory, (advisoryJson advisory).isIntegral := by
    intro advisory
    simp [advisoryJson, Json.isIntegral, Json.membersIntegral, Json.isIntegral_ofStrings]
  simp [toJson, Json.isIntegral, Json.membersIntegral, Json.allIntegral_iff, Json.ofNat, errors,
    warnings]

theorem told_toJson (a : Assessment) :
    a.Told a.toJson (a.defects.map defectJson) (a.advisory.toList.map advisoryJson) where
  errorsFound := rfl
  warningsFound := rfl
  valid := by
    have held : a.toJson.get? "valid" = some (.bool a.isValid) := rfl
    simp [held, isValid]
  messages := by
    rw [reasons, List.map_map, List.map_map]
    rfl
  codes := by
    rw [List.map_map]
    rfl
  categories := by
    rw [List.map_map]
    rfl
  single := by cases a.advisory <;> simp
  collectors := by
    rw [List.map_map]
    rfl

/-! ## 4. The document -/

/-- Assessments with the same document are equal, and for each of them the document says of every
defect its message, code and category, whether there is a defect at all, and of an advisory all of
its collectors. -/
theorem toJson_same_iff (a b : Assessment) :
    (a.toJson.same b.toJson = true ↔ a = b) ∧
      ∃ errors warnings, a.Told a.toJson errors warnings := by
  refine ⟨⟨?_, ?_⟩, _, _, a.told_toJson⟩
  · intro same
    have documents := Json.eq_of_same a.toJson a.isIntegral_toJson same
    have read := ofJson?_toJson a
    rw [documents, ofJson?_toJson b] at read
    exact (Option.some.inj read).symm
  · rintro rfl
    exact Json.same_refl _

end Assessment

end HealthReport
