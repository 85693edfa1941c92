import HealthReport.Report.Basic

/-!
# Members of objects

What the views of a JSON value say about the value itself, and how looking a member up by its name
agrees with its being in the list of members.

Results:
1. `members?_eq_some_iff`, `items?_eq_some_iff`, `string?_eq_some_iff`, `number?_eq_some_iff`:
   a view succeeds on the values of one kind only.
2. `mem_of_get?`, `get?_of_mem`: in an object whose names ascend, the members are exactly what can
   be looked up.
3. `isRegular_get?`, `isRegular_at?`, `isRegular_of_mem_objectsAt`: what stands in a regular value
   is regular.
4. `get?_metadata`, `get?_summary`, `at?_category`, `mem_categories_iff`: the views of a report look
   at the end of a path.
5. `map_eq_of_map_eq`, `map_eq_map_cases`: what equal images say about lists and optional values.
-/
namespace HealthReport

namespace Json

/-! ## 1. Views -/

@[simp]
theorem members?_eq_some_iff {value : Json} {members : Members} :
    value.members? = some members ↔ value = .object members := by
  cases value <;> simp [members?]

@[simp]
theorem items?_eq_some_iff {value : Json} {items : List Json} :
    value.items? = some items ↔ value = .array items := by
  cases value <;> simp [items?]

@[simp]
theorem string?_eq_some_iff {value : Json} {s : String} :
    value.string? = some s ↔ value = .string s := by
  cases value <;> simp [string?]

@[simp]
theorem number?_eq_some_iff {value : Json} {n : Number} :
    value.number? = some n ↔ value = .number n := by
  cases value <;> simp [number?]

@[simp]
theorem isNull_iff {value : Json} : value.isNull = true ↔ value = .null := by
  cases value <;> simp [isNull]

theorem get?_eq_some_iff {value held : Json} {name : String} :
    value.get? name = some held ↔
      ∃ members : Members, value = .object members ∧ members.get? name = some held := by
  simp [get?, Option.bind_eq_some_iff]

end Json

namespace Members

/-! ## 2. Lookup -/

@[simp]
theorem get?_nil (name : String) : get? [] name = none := rfl

theorem mem_of_get? {members : Members} {name : String} {value : Json}
    (found : members.get? name = some value) : (name, value) ∈ members := by
  induction members with
  | nil => cases found
  | cons head rest ih =>
    obtain ⟨first, held⟩ := head
    unfold get? at found ih
    rw [List.lookup_cons] at found
    split at found
    · rename_i same
      cases found
      rw [beq_iff_eq.1 same]
      exact List.mem_cons_self
    · exact List.mem_cons_of_mem _ (ih found)

theorem pairwise_of_isAscending {members : Members} (ascending : members.isAscending) :
    members.Pairwise fun x y => x.1 < y.1 :=
  List.pairwise_map.1 (of_decide_eq_true ascending)

theorem get?_of_mem {members : Members} (ascending : members.isAscending) {name : String}
    {value : Json} (member : (name, value) ∈ members) : members.get? name = some value := by
  simp only [isAscending, decide_eq_true_eq] at ascending
  induction members with
  | nil => cases member
  | cons head rest ih =>
    obtain ⟨first, held⟩ := head
    simp only [names, List.map_cons, List.pairwise_cons] at ascending ih
    rcases List.mem_cons.1 member with same | later
    · cases same
      simp [get?]
    · have before : first < name := ascending.1 name (List.mem_map_of_mem later)
      have apart : (name == first) = false := by
        rw [beq_eq_false_iff_ne]
        rintro rfl
        exact String.lt_irrefl _ before
      unfold get? at ih ⊢
      rw [List.lookup_cons, apart]
      exact ih later ascending.2

theorem has_iff_mem_names {members : Members} {name : String} :
    members.has name = true ↔ name ∈ members.names := by
  rw [has, get?, List.lookup_isSome_iff, names, List.mem_map]
  exact exists_congr fun member => and_congr_right fun _ => by rw [beq_iff_eq, eq_comm]

theorem present?_eq_some_iff {members : Members} {name : String} {value : Json} :
    members.present? name = some value ↔ members.get? name = some value ∧ value ≠ .null := by
  simp [present?, Option.filter_eq_some_iff, ← Json.isNull_iff]

end Members

/-! ## 3. Regularity -/

namespace Json

theorem allRegular_iff {items : List Json} :
    allRegular items = true ↔ ∀ item ∈ items, item.isRegular = true := by
  induction items with
  | nil => simp [allRegular]
  | cons item rest ih => rw [allRegular, Bool.and_eq_true, ih, List.forall_mem_cons]

theorem membersRegular_iff {members : Members} :
    membersRegular members = true ↔ ∀ member ∈ members, member.2.isRegular = true := by
  induction members with
  | nil => simp [membersRegular]
  | cons member rest ih => rw [membersRegular, Bool.and_eq_true, ih, List.forall_mem_cons]

theorem isRegular_object_iff {members : Members} :
    (object members).isRegular = true ↔
      Members.isAscending members = true ∧ ∀ member ∈ members, member.2.isRegular = true := by
  rw [isRegular, Bool.and_eq_true, membersRegular_iff]

theorem isRegular_of_mem {members : Members} (regular : (object members).isRegular) {name : String}
    {value : Json} (member : (name, value) ∈ members) : value.isRegular :=
  (isRegular_object_iff.1 regular).2 _ member

theorem isRegular_get? {value held : Json} (regular : value.isRegular) {name : String}
    (found : value.get? name = some held) : held.isRegular := by
  obtain ⟨members, rfl, inside⟩ := get?_eq_some_iff.1 found
  exact isRegular_of_mem regular (Members.mem_of_get? inside)

theorem isAscending_of_isRegular {members : Members} (regular : (object members).isRegular) :
    members.isAscending :=
  (isRegular_object_iff.1 regular).1

end Json

/-! ## 4. Paths -/

/-- The value at the end of a path of member names. -/
def Json.at? (value : Json) : List String → Option Json
  | [] => some value
  | name :: path => (value.get? name).bind (·.at? path)

/-- The value at the end of a path, unless it is a null. -/
def Json.stated? (value : Json) (path : List String) : Option Json :=
  (value.at? path).filter fun held => !held.isNull

/-- The objects among the items of the array at the end of a path. -/
def Json.objectsAt (value : Json) (path : List String) : List Members :=
  (((value.at? path).bind Json.items?).getD []).filterMap Json.members?

namespace Json

theorem isRegular_at? {value held : Json} (regular : value.isRegular) {path : List String}
    (found : value.at? path = some held) : held.isRegular := by
  induction path generalizing value with
  | nil =>
    obtain rfl := Option.some.inj found
    exact regular
  | cons name path ih =>
    obtain ⟨inner, first, rest⟩ := Option.bind_eq_some_iff.1 found
    exact ih (isRegular_get? regular first) rest

theorem isRegular_of_mem_objectsAt {value : Json} (regular : value.isRegular) {path : List String}
    {members : Members} (inside : members ∈ value.objectsAt path) :
    (object members).isRegular := by
  obtain ⟨item, listed, is_object⟩ := List.mem_filterMap.1 inside
  obtain rfl := members?_eq_some_iff.1 is_object
  obtain ⟨items, found⟩ : ∃ items, (value.at? path).bind items? = some items := by
    refine Option.ne_none_iff_exists'.1 fun none => ?_
    rw [none] at listed
    cases listed
  rw [found] at listed
  obtain ⟨held, reached, is_array⟩ := Option.bind_eq_some_iff.1 found
  obtain rfl := items?_eq_some_iff.1 is_array
  exact allRegular_iff.1 (isRegular_at? regular reached) _ listed

end Json

namespace Report

theorem categories?_eq_some_iff {r : Report} {categories : Members} :
    r.categories? = some categories ↔ r.root.get? "categories" = some (.object categories) := by
  simp [categories?, get?, Option.bind_eq_some_iff]

theorem isAscending_categories {r : Report} {categories : Members}
    (found : r.categories? = some categories) : categories.isAscending :=
  Json.isAscending_of_isRegular
    (Json.isRegular_get? r.regular (categories?_eq_some_iff.1 found))

theorem at?_single (root : Json) (name : String) : root.at? [name] = root.get? name := by
  rw [Json.at?]
  cases root.get? name <;> rfl

theorem at?_pair (root : Json) (outer inner : String) :
    root.at? [outer, inner] = ((root.get? outer).bind Json.members?).bind (·.get? inner) := by
  rw [Json.at?, Option.bind_assoc]
  exact Option.bind_congr fun held _ => at?_single held inner

theorem get?_getD (members : Option Members) (name : String) :
    Members.get? (members.getD []) name = members.bind (·.get? name) := by
  cases members <;> rfl

theorem get?_metadata (r : Report) (name : String) :
    r.metadata.members.get? name = r.root.at? ["metadata", name] := by
  rw [at?_pair]
  exact get?_getD _ name

theorem present?_metadata (r : Report) (name : String) :
    r.metadata.members.present? name = r.root.stated? ["metadata", name] := by
  rw [Members.present?, get?_metadata, Json.stated?]

theorem get?_summary (r : Report) (name : String) :
    r.summary.members.get? name = r.root.at? ["summary", name] := by
  rw [at?_pair]
  exact get?_getD _ name

theorem present?_summary (r : Report) (name : String) :
    r.summary.members.present? name = r.root.stated? ["summary", name] := by
  rw [Members.present?, get?_summary, Json.stated?]

theorem at?_category {r : Report} {categories : Members}
    (found : r.root.get? "categories" = some (.object categories)) (category : String) :
    r.root.at? ["categories", category] = categories.get? category := by
  rw [at?_pair, found]
  rfl

/-- The members of the categories are what stands in the report below them. -/
theorem mem_categories_iff {r : Report} {categories : Members}
    (found : r.root.get? "categories" = some (.object categories)) {category : String}
    {value : Json} :
    (category, value) ∈ categories ↔ r.root.at? ["categories", category] = some value := by
  rw [at?_category found]
  exact ⟨Members.get?_of_mem (isAscending_categories (categories?_eq_some_iff.2 found)),
    Members.mem_of_get?⟩

theorem objects_summary (r : Report) (name : String) :
    r.summary.objects name = r.root.objectsAt ["summary", name] := by
  rw [Summary.objects, get?_summary, Json.objectsAt]

theorem results_eq (r : Report) (category : String) :
    r.results category =
      (r.root.objectsAt ["categories", category]).map CollectorResult.mk := by
  rw [results, Json.objectsAt, at?_pair]
  rfl

end Report

/-! ## 5. Equal images -/

/-- What depends on the images of the items alone is the same for lists with the same images. -/
theorem map_eq_of_map_eq {α β γ : Type} {f : α → β} {g : α → γ}
    (determined : ∀ a b, f a = f b → g a = g b) :
    ∀ {items others : List α}, items.map f = others.map f → items.map g = others.map g
  | [], [], _ => rfl
  | a :: items, b :: others, same => by
    rw [List.map_cons, List.map_cons, List.cons.injEq] at same
    rw [List.map_cons, List.map_cons, determined a b same.1, map_eq_of_map_eq determined same.2]

/-- Of optional values with the same image both are there, or neither is. -/
theorem map_eq_map_cases {α γ : Type} {f : α → γ} {held other : Option α}
    (same : held.map f = other.map f) :
    (held = none ∧ other = none) ∨ ∃ a b, held = some a ∧ other = some b ∧ f a = f b := by
  cases held with
  | none => exact .inl ⟨rfl, Option.map_eq_none_iff.1 same.symm⟩
  | some a =>
    obtain ⟨b, found, image⟩ := Option.map_eq_some_iff.1 same.symm
    exact .inr ⟨a, b, rfl, found, image.symm⟩

end HealthReport
