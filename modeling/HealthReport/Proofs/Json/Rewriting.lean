import HealthReport.Proofs.Json.Members

/-!
# Changing a document in one place

A document is changed at the end of a path and stays as it is elsewhere. The outline of a value
forgets what is in it, if it is an array or an object.

Results:
1. `get?_put`, `get?_without`, `get?_mapValues`: what a changed object holds.
2. `isRegular_mapValues`, `isRegular_without`, `isRegular_insert`: regular documents stay regular.
3. `reach?_insert`: a new member is noticed on those paths only that lead through it.
4. `get?_onCategories`, `at?_onCategories`: a report whose categories are changed is the same beside
   them.
-/
namespace HealthReport

/-! ## Definitions -/

/-- One step down into a document. -/
inductive Step where
  | member (name : String)
  | item (index : Nat)
deriving DecidableEq

def Step.reach? (value : Json) : Step → Option Json
  | member name => value.get? name
  | item index => value.items?.bind (·[index]?)

namespace Members

/-- Leaves out the members of one name. -/
def without (name : String) (members : Members) : Members :=
  members.filter fun member => member.1 != name

/-- Changes every value, with a view to its name. -/
def mapValues (change : String → Json → Json) (members : Members) : Members :=
  members.map fun member => (member.1, change member.1 member.2)

end Members

namespace Json

/-- The value at the end of a path of steps. -/
def reach? (value : Json) : List Step → Option Json
  | [] => some value
  | step :: path => (step.reach? value).bind (·.reach? path)

/-- Changes every member of an object; other values stay as they are. -/
def onMembers (change : String → Json → Json) : Json → Json
  | .object members => .object (Members.mapValues change members)
  | other => other

/-- Changes every item of an array; other values stay as they are. -/
def onItems (change : Json → Json) : Json → Json
  | .array items => .array (items.map change)
  | other => other

/-- Leaves out some items, which may be chosen by their places. -/
def remaining (left : Nat → Json → Bool) (items : List Json) : List Json :=
  (items.zipIdx.filter fun (item, index) => !left index item).map (·.1)

/-- Leaves out some items of an array; other values stay as they are. -/
def withoutItems (left : Nat → Json → Bool) : Json → Json
  | .array items => .array (remaining left items)
  | other => other

/-- Leaves out the members of one name; values other than objects stay as they are. -/
def without (name : String) : Json → Json
  | .object members => .object (Members.without name members)
  | other => other

/-- Sets one member of the object at the end of a path. If there is no object the document stays as
it is. -/
def insert (name : String) (value : Json) : List Step → Json → Json
  | [], .object members => .object (Members.put name value members)
  | .member step :: path, .object members =>
    .object (Members.mapValues
      (fun other held => if other = step then insert name value path held else held) members)
  | .item index :: path, .array items => .array (items.modify index (insert name value path))
  | _, other => other

/-- The value, without what is in it. -/
def outline : Json → Json
  | .array _ => .array []
  | .object _ => .object []
  | other => other

end Json

/-! ## 1. Changed objects -/

namespace Members

theorem get?_cons (first : String) (held : Json) (rest : Members) (name : String) :
    get? ((first, held) :: rest) name = if name = first then some held else get? rest name := by
  rw [get?, List.lookup_cons]
  by_cases same : name = first
  · simp [same]
  · simp [same, beq_eq_false_iff_ne.2 same, get?]

theorem get?_put (name : String) (value : Json) (other : String) (members : Members) :
    get? (put name value members) other =
      if other = name then some value else get? members other := by
  induction members with
  | nil => exact get?_cons name value [] other
  | cons head rest ih =>
    obtain ⟨first, held⟩ := head
    unfold put
    split
    · exact get?_cons _ _ _ _
    · split
      · rename_i after
        rw [get?_cons, get?_cons, ih]
        by_cases same : other = first
        · subst same
          rw [if_pos rfl, if_pos rfl, if_neg fun same => String.lt_irrefl _ (same ▸ after)]
        · rw [if_neg same, if_neg same]
      · rename_i before after
        obtain rfl : name = first :=
          String.le_antisymm (String.not_lt.1 after) (String.not_lt.1 before)
        rw [get?_cons, get?_cons]
        split <;> rfl

theorem get?_without (name other : String) (members : Members) :
    get? (without name members) other = if other = name then none else get? members other := by
  induction members with
  | nil => simp [without]
  | cons head rest ih =>
    obtain ⟨first, held⟩ := head
    unfold without at ih ⊢
    rw [List.filter_cons, get?_cons]
    by_cases same : first = name
    · subst same
      simp only [bne_self_eq_false, Bool.false_eq_true, if_false, ih]
      split <;> rfl
    · simp only [bne_iff_ne, ne_eq, same, not_false_eq_true, if_true, get?_cons, ih]
      by_cases here : other = first
      · subst here
        rw [if_pos rfl, if_neg same, if_pos rfl]
      · rw [if_neg here, if_neg here]

theorem get?_mapValues (change : String → Json → Json) (name : String) (members : Members) :
    get? (mapValues change members) name = (get? members name).map (change name) := by
  induction members with
  | nil => rfl
  | cons head rest ih =>
    obtain ⟨first, held⟩ := head
    unfold mapValues at ih ⊢
    rw [List.map_cons, get?_cons, get?_cons, ih]
    split
    · rename_i same
      rw [same, Option.map_some]
    · rfl

theorem names_mapValues (change : String → Json → Json) (members : Members) :
    names (mapValues change members) = names members := by
  rw [names, mapValues, List.map_map]
  rfl

end Members

namespace Json

theorem get?_onMembers (change : String → Json → Json) (value : Json) (name : String) :
    (value.onMembers change).get? name = (value.get? name).map (change name) := by
  cases value with
  | object members => exact Members.get?_mapValues change name members
  | null | bool _ | number _ | string _ | array _ => rfl

/-! ## 2. Regular documents -/

theorem isRegular_mapValues {change : String → Json → Json} {members : Members}
    (keeps : ∀ name value, value.isRegular = true → (change name value).isRegular = true)
    (regular : (object members).isRegular = true) :
    (object (Members.mapValues change members)).isRegular = true := by
  rw [isRegular_object_iff] at regular ⊢
  refine ⟨?_, ?_⟩
  · rw [Members.isAscending, Members.names_mapValues]
    exact regular.1
  · intro member inside
    obtain ⟨held, before, rfl⟩ := List.mem_map.1 inside
    exact keeps _ _ (regular.2 held before)

theorem isRegular_onMembers {change : String → Json → Json}
    (keeps : ∀ name value, value.isRegular = true → (change name value).isRegular = true)
    {value : Json} (regular : value.isRegular = true) :
    (value.onMembers change).isRegular = true := by
  cases value with
  | object members => exact isRegular_mapValues keeps regular
  | null | bool _ | number _ | string _ | array _ => exact regular

theorem isRegular_onItems {change : Json → Json}
    (keeps : ∀ value, value.isRegular = true → (change value).isRegular = true)
    {value : Json} (regular : value.isRegular = true) :
    (value.onItems change).isRegular = true := by
  cases value with
  | array items =>
    rw [isRegular, allRegular_iff] at regular
    rw [onItems, isRegular, allRegular_iff, List.forall_mem_map]
    exact fun item inside => keeps item (regular item inside)
  | null | bool _ | number _ | string _ | object _ => exact regular

theorem getElem?_of_mem_remaining {left : Nat → Json → Bool} {items : List Json} {item : Json}
    (inside : item ∈ remaining left items) :
    ∃ index, items[index]? = some item ∧ left index item = false := by
  obtain ⟨⟨held, index⟩, kept, rfl⟩ := List.mem_map.1 inside
  obtain ⟨place, stays⟩ := List.mem_filter.1 kept
  rw [Bool.not_eq_true'] at stays
  exact ⟨index, List.mem_zipIdx_iff_getElem?.1 place, stays⟩

theorem isRegular_withoutItems {left : Nat → Json → Bool} {value : Json}
    (regular : value.isRegular = true) : (value.withoutItems left).isRegular = true := by
  cases value with
  | array items =>
    rw [isRegular, allRegular_iff] at regular
    rw [withoutItems, isRegular, allRegular_iff]
    intro item inside
    obtain ⟨index, place, -⟩ := getElem?_of_mem_remaining inside
    exact regular item (List.mem_of_getElem? place)
  | null | bool _ | number _ | string _ | object _ => exact regular

theorem isRegular_without {name : String} {value : Json} (regular : value.isRegular = true) :
    (value.without name).isRegular = true := by
  cases value with
  | object members =>
    rw [without, isRegular_object_iff]
    rw [isRegular_object_iff] at regular
    refine ⟨?_, fun member inside => regular.2 member (List.mem_filter.1 inside).1⟩
    have fewer : (Members.names (Members.without name members)).Sublist (Members.names members) :=
      List.filter_sublist.map _
    exact decide_eq_true ((of_decide_eq_true regular.1).sublist fewer)
  | null | bool _ | number _ | string _ | array _ => exact regular

theorem isRegular_insert {name : String} {value : Json} (regular : value.isRegular = true)
    (path : List Step) :
    ∀ document : Json, document.isRegular = true →
      (insert name value path document).isRegular = true := by
  induction path with
  | nil =>
    intro document whole
    cases document with
    | object members =>
      rw [isRegular, Bool.and_eq_true] at whole
      rw [insert, isRegular, Bool.and_eq_true]
      exact ⟨Members.isAscending_put whole.1, membersRegular_put regular whole.2⟩
    | null | bool _ | number _ | string _ | array _ => exact whole
  | cons step path ih =>
    intro document whole
    cases step with
    | member inner =>
      cases document with
      | object members =>
        refine isRegular_mapValues (fun other held fine => ?_) whole
        split
        · exact ih held fine
        · exact fine
      | null | bool _ | number _ | string _ | array _ => exact whole
    | item index =>
      cases document with
      | array items =>
        rw [isRegular, allRegular_iff] at whole
        rw [insert, isRegular, allRegular_iff]
        intro item inside
        obtain ⟨place, found⟩ := List.getElem?_of_mem inside
        rw [List.getElem?_modify] at found
        obtain ⟨held, before, rfl⟩ := Option.map_eq_some_iff.1 found
        have fine := whole held (List.mem_of_getElem? before)
        split
        · exact ih held fine
        · exact fine
      | null | bool _ | number _ | string _ | object _ => exact whole

/-! ## 3. New members -/

theorem outline_eq_null_iff {value : Json} : value.outline = .null ↔ value = .null := by
  cases value <;> simp [outline]

theorem outline_eq_number_iff {value : Json} {n : Number} :
    value.outline = .number n ↔ value = .number n := by
  cases value <;> simp [outline]

theorem outline_eq_string_iff {value : Json} {s : String} :
    value.outline = .string s ↔ value = .string s := by
  cases value <;> simp [outline]

theorem outline_eq_array_iff {value : Json} :
    value.outline = .array [] ↔ ∃ items, value = .array items := by
  cases value <;> simp [outline]

theorem outline_eq_object_iff {value : Json} :
    value.outline = .object [] ↔ ∃ members : Members, value = .object members := by
  cases value <;> simp [outline]

theorem outline_insert (name : String) (value : Json) (path : List Step) (document : Json) :
    (insert name value path document).outline = document.outline := by
  cases path with
  | nil => cases document <;> rfl
  | cons step path => cases step <;> cases document <;> rfl

theorem reach?_insert_here {name : String} {value : Json} {step : Step}
    (other : step ≠ .member name) (document : Json) :
    step.reach? (insert name value [] document) = step.reach? document := by
  cases document with
  | object members =>
    cases step with
    | member wanted =>
      have apart : wanted ≠ name := fun same => other (same ▸ rfl)
      exact (Members.get?_put name value wanted members).trans (if_neg apart)
    | item index => rfl
  | null | bool _ | number _ | string _ | array _ => rfl

theorem reach?_insert_below {name : String} {value : Json} (step : Step) (path : List Step)
    (document : Json) :
    step.reach? (insert name value (step :: path) document) =
      (step.reach? document).map (insert name value path) := by
  cases step with
  | member inner =>
    cases document with
    | object members =>
      refine (Members.get?_mapValues _ inner members).trans ?_
      simp only [if_true]
      rfl
    | null | bool _ | number _ | string _ | array _ => rfl
  | item index =>
    cases document with
    | array items =>
      exact List.getElem?_modify_eq _ index items
    | null | bool _ | number _ | string _ | object _ => rfl

theorem reach?_insert_beside {name : String} {value : Json} {step inner : Step}
    (other : step ≠ inner) (path : List Step) (document : Json) :
    step.reach? (insert name value (inner :: path) document) = step.reach? document := by
  cases inner with
  | member inner =>
    cases document with
    | object members =>
      cases step with
      | member wanted =>
        have apart : wanted ≠ inner := fun same => other (same ▸ rfl)
        refine (Members.get?_mapValues _ wanted members).trans ?_
        simp only [apart, if_false, Option.map_id_fun']
        rfl
      | item index => rfl
    | null | bool _ | number _ | string _ | array _ => rfl
  | item index =>
    cases document with
    | array items =>
      cases step with
      | member wanted => rfl
      | item place =>
        have apart : index ≠ place := fun same => other (same ▸ rfl)
        exact List.getElem?_modify_ne _ items apart
    | null | bool _ | number _ | string _ | object _ => rfl

/-- A path that does not lead through the new member leads to a value of the same outline. -/
theorem reach?_insert {name : String} {value : Json} (route : List Step) :
    ∀ (path : List Step) (document : Json), ¬ path ++ [.member name] <+: route →
      ((insert name value path document).reach? route).map outline =
        (document.reach? route).map outline := by
  induction route with
  | nil =>
    intro path document _
    exact congrArg some (outline_insert name value path document)
  | cons step route ih =>
    intro path document elsewhere
    cases path with
    | nil =>
      have other : step ≠ .member name := by
        rintro rfl
        exact elsewhere (by simp)
      rw [reach?, reach?, reach?_insert_here other]
    | cons inner path =>
      by_cases leads : step = inner
      · subst leads
        rw [reach?, reach?, reach?_insert_below]
        cases step.reach? document with
        | none => rfl
        | some held =>
          refine ih path held fun through => elsewhere ?_
          exact List.cons_prefix_cons.2 ⟨rfl, through⟩
      · rw [reach?, reach?, reach?_insert_beside leads]

end Json

namespace Report

/-! ## 4. Changed reports -/

/-- Sets one member of an object within the report. -/
def insert (name : String) (value : Json) (regular : value.isRegular = true) (path : List Step)
    (r : Report) : Report :=
  ⟨Json.insert name value path r.root, Json.isRegular_insert regular path r.root r.regular⟩

/-- Changes the value of every category, with a view to its name. -/
def onCategories (change : String → Json → Json)
    (keeps : ∀ name value, value.isRegular = true → (change name value).isRegular = true)
    (r : Report) : Report where
  root := r.root.onMembers fun name value =>
    if name = "categories" then value.onMembers change else value
  regular := by
    refine Json.isRegular_onMembers (fun name value regular => ?_) r.regular
    split
    · exact Json.isRegular_onMembers keeps regular
    · exact regular

section

variable {change : String → Json → Json}
  {keeps : ∀ name value, value.isRegular = true → (change name value).isRegular = true}

theorem get?_onCategories (r : Report) {name : String} (other : name ≠ "categories") :
    (r.onCategories change keeps).root.get? name = r.root.get? name := by
  rw [onCategories, Json.get?_onMembers]
  simp only [other, if_false, Option.map_id_fun']
  rfl

theorem categories_onCategories (r : Report) :
    (r.onCategories change keeps).root.get? "categories" =
      (r.root.get? "categories").map (·.onMembers change) := by
  rw [onCategories, Json.get?_onMembers]
  simp only [if_true]

theorem at?_onCategories (r : Report) (category : String) :
    (r.onCategories change keeps).root.at? ["categories", category] =
      (r.root.at? ["categories", category]).map (change category) := by
  simp only [Json.at?, categories_onCategories, Option.bind_fun_some]
  cases r.root.get? "categories" with
  | none => rfl
  | some held => exact Json.get?_onMembers change held category

end

end Report

end HealthReport
