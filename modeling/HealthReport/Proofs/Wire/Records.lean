import HealthReport.Proofs.Json.RoundTrip
import HealthReport.Wire.Outcome
import Mathlib.Data.List.Count
import Mathlib.Data.List.Forall2
import Mathlib.Data.List.Nodup

/-!
# Records on the wire

A check or a catalog entry is read back from its own text. It is read from other texts as well, and
these are exactly the ones that hold each of its fields once: objects with the fields in any order
and among other members, and arrays of the fields in their order.

Results:
1. `field?_eq_some_iff`, `fields?_eq_some_iff`: how the fields of a record are found.
2. `text?_eq_some_iff` to `labelled?_eq_some_iff`: what stands for a value of each type.
3. `readsBack`: a type whose documents are known is read back.
4. `records_readBack`: this for checks and for catalog entries.
-/
namespace HealthReport

/-! ## Definitions -/

namespace Written

/-- One member has the name and no other has it, and this is its value. -/
structure HoldsOnce (members : List (Option String × Written)) (name : String) (value : Written) :
    Prop where
  once : (members.map Prod.fst).count (some name) = 1
  held : (some name, value) ∈ members

/-- The document is a record with these values in the fields of these names. What else an object
holds does not matter, as long as every name is a text. -/
inductive IsRecord (names : List String) (values : List Written) : Written → Prop
  | object {members : List (Option String × Written)} (named : ∀ member ∈ members, member.1 ≠ none)
      (fields : List.Forall₂ (HoldsOnce members) names values) :
      IsRecord names values (.object members)
  | array (length : values.length = names.length) : IsRecord names values (.array values)

/-- The document stands for a word out of a list. -/
inductive IsWord (word : String) : Written → Prop
  | text : IsWord word (.string word)
  | member : IsWord word (.object [(some word, .null)])

end Written

/-- The text spells the document, with whatever white space and whatever escapes. -/
def Spells (text : String) (w : Written) : Prop := Reader.document none text.toList = .ok w

/-- Values of the type are read back. `Fields` says which documents stand for the fields of a
value, in the order of the names. -/
structure ReadsBack {α : Type} (names : List String) (Fields : α → List Written → Prop)
    (wire : α → Json) (decode : Written → Option α) : Prop where
  written (a : α) : readWire? decode (wire a).text = some a
  accepts (a : α) (text : String) : readWire? decode text = some a ↔
    ∃ w values, Spells text w ∧ Fields a values ∧ w.IsRecord names values
  refuses (text : String) (members : List (Option String × Written)) (name : String) :
    Spells text (.object members) → name ∈ names →
      (members.map Prod.fst).count (some name) ≠ 1 → readWire? decode text = none

namespace Check

def fieldNames : List String := ["name", "passed", "detail"]

/-- The documents stand for the fields of the check. -/
def Fields (c : Check) (values : List Written) : Prop :=
  values = [.string c.name, .bool c.passed, .string c.detail]

end Check

namespace ErrorEntry

def fieldNames : List String := ["code", "category", "message", "remediation"]

/-- The documents stand for the fields of the entry. There are two for a category. -/
def Fields (e : ErrorEntry) (values : List Written) : Prop :=
  ∃ category, Written.IsWord e.category.label category ∧
    values = [.string e.code, category, .string e.message,
      .array (e.remediation.map fun step => .string (some step))]

end ErrorEntry

/-! ## 1. Fields -/

/-- A list of results is one result for each element. -/
theorem mapM_eq_some_iff {α β : Type} {f : α → Option β} {xs : List α} {ys : List β} :
    xs.mapM f = some ys ↔ List.Forall₂ (fun x y => f x = some y) xs ys := by
  induction xs generalizing ys with
  | nil => simp [eq_comm]
  | cons x rest ih =>
    constructor
    · intro all
      rw [List.mapM_cons] at all
      obtain ⟨y, head, all⟩ := Option.bind_eq_some_iff.1 all
      obtain ⟨others, tail, all⟩ := Option.bind_eq_some_iff.1 all
      cases all
      exact .cons head (ih.1 tail)
    · intro all
      cases all with
      | cons head tail => simp [List.mapM_cons, head, ih.2 tail]

/-- Everything that is related to a list elementwise is related to something. -/
theorem exists_of_forall₂ {α β : Type} {R : α → β → Prop} {xs : List α} {ys : List β} {x : α}
    (all : List.Forall₂ R xs ys) (listed : x ∈ xs) : ∃ y, R x y := by
  induction all with
  | nil => cases listed
  | cons head _ ih =>
    obtain rfl | later := List.mem_cons.1 listed
    · exact ⟨_, head⟩
    · exact ih later

namespace Written

variable {members : List (Option String × Written)} {name : String} {names : List String}
  {w value : Written} {values : List Written}

theorem length_named (members : List (Option String × Written)) (name : String) :
    (members.filter fun member => member.1 == some name).length =
      (members.map Prod.fst).count (some name) := by
  rw [← List.countP_eq_length_filter, List.count, List.countP_map]
  rfl

theorem field?_eq_some_iff : field? members name = some value ↔ HoldsOnce members name value := by
  have length := length_named members name
  have kept : ∀ member, member ∈ members.filter (fun member => member.1 == some name) ↔
      member ∈ members ∧ member.1 = some name := by
    simp [List.mem_filter]
  rw [field?]
  constructor
  · intro found
    split at found
    · rename_i first held only
      cases found
      rw [only] at length kept
      obtain ⟨member, named⟩ := (kept _).1 List.mem_cons_self
      cases named
      exact ⟨length.symm, member⟩
    · cases found
  · rintro ⟨once, held⟩
    obtain ⟨only, single⟩ := List.length_eq_one_iff.1 (length.trans once)
    have same := (kept _).2 ⟨held, rfl⟩
    rw [single, List.mem_singleton] at same
    rw [single, ← same]

theorem fields?_eq_some_iff : w.fields? names = some values ↔ w.IsRecord names values := by
  constructor
  · intro found
    cases w with
    | array items =>
      obtain ⟨length, rfl⟩ := by simpa [fields?] using found
      exact .array length
    | object members =>
      rw [fields?] at found
      split at found
      · rename_i named
        refine .object (by simpa [Option.isSome_iff_ne_none] using named) ?_
        exact (mapM_eq_some_iff.1 found).imp fun _ _ => field?_eq_some_iff.1
      · cases found
    | null | bool _ | number _ | string _ => cases found
  · intro record
    cases record with
    | array length => rw [fields?, if_pos length]
    | object named fields =>
      rw [fields?, if_pos (by simpa [Option.isSome_iff_ne_none] using named), mapM_eq_some_iff]
      exact fields.imp fun _ _ => field?_eq_some_iff.2

/-- A field that is missing or repeated spoils the record. -/
theorem fields?_eq_none (listed : name ∈ names)
    (unclear : (members.map Prod.fst).count (some name) ≠ 1) :
    (Written.object members).fields? names = none := by
  rw [Option.eq_none_iff_forall_ne_some]
  intro values found
  cases fields?_eq_some_iff.1 found with
  | object _ fields =>
    obtain ⟨value, holds⟩ := exists_of_forall₂ fields listed
    exact unclear holds.once

theorem ofItems_eq_map (items : List Json) : ofItems items = items.map ofJson := by
  induction items with
  | nil => rfl
  | cons item rest ih => rw [ofItems, ih, List.map_cons]

theorem ofMembers_eq_map (members : List (String × Json)) :
    ofMembers members = members.map fun member => (some member.1, ofJson member.2) := by
  induction members with
  | nil => rfl
  | cons member rest ih => rw [ofMembers, ih, List.map_cons]

/-- What an object with different names spells is a record of all its members. -/
theorem isRecord_ofJson {members : List (String × Json)} (apart : (members.map Prod.fst).Nodup) :
    (ofJson (.object members)).IsRecord (members.map Prod.fst)
      (members.map fun member => ofJson member.2) := by
  rw [ofJson, ofMembers_eq_map]
  have named : ∀ member ∈ members.map (fun member => (some member.1, ofJson member.2)),
      member.1 ≠ none := by
    intro _ listed
    obtain ⟨member, -, rfl⟩ := List.mem_map.1 listed
    exact Option.some_ne_none _
  refine .object named ?_
  rw [List.forall₂_map_left_iff, List.forall₂_map_right_iff, List.forall₂_same]
  intro member listed
  have names : (members.map fun member => (some member.1, ofJson member.2)).map Prod.fst =
      (members.map Prod.fst).map some := by
    simp
  refine ⟨?_, List.mem_map.2 ⟨member, listed, rfl⟩⟩
  rw [names, List.count_map_of_injective _ _ (Option.some_injective _)]
  exact List.count_eq_one_of_mem apart (List.mem_map_of_mem listed)

/-! ## 2. Values -/

theorem text?_eq_some_iff {s : String} : w.text? = some s ↔ w = .string s := by
  cases w <;> simp [text?]

theorem flag?_eq_some_iff {b : Bool} : w.flag? = some b ↔ w = .bool b := by
  cases w <;> simp [flag?]

theorem texts?_eq_some_iff {texts : List String} :
    w.texts? = some texts ↔ w = .array (texts.map fun s => .string (some s)) := by
  have items : ∀ items : List Written,
      items.mapM text? = some texts ↔ items = texts.map fun s => .string (some s) := by
    intro items
    rw [mapM_eq_some_iff]
    simp only [text?_eq_some_iff]
    rw [← List.forall₂_eq_eq_eq, List.forall₂_map_right_iff]
  cases w <;> simp [texts?, items]

theorem ofJson_ofStrings (texts : List String) :
    ofJson (Json.ofStrings texts) = .array (texts.map fun s => .string (some s)) := by
  rw [Json.ofStrings, ofJson, ofItems_eq_map, List.map_map]
  rfl

theorem word?_eq_some_iff {word : String} : w.word? = some word ↔ w.IsWord word := by
  constructor
  · intro found
    unfold word? at found
    split at found
    · cases found
      exact .text
    · cases found
      exact .member
    · cases found
  · intro stands
    cases stands <;> rfl

/-- Labels that tell the values apart can be read. -/
theorem labelled?_eq_some_iff {α : Type} {all : List α} {label : α → String} {a : α}
    (complete : ∀ a, a ∈ all) (apart : Function.Injective label) :
    w.labelled? all label = some a ↔ w.IsWord (label a) := by
  rw [labelled?, Option.bind_eq_some_iff, ← word?_eq_some_iff]
  constructor
  · rintro ⟨word, spelled, found⟩
    have same := List.find?_some found
    rw [spelled, eq_of_beq same]
  · intro spelled
    refine ⟨label a, spelled, ?_⟩
    cases found : all.find? (fun value => label value == label a) with
    | none => exact absurd (beq_self_eq_true (label a)) (List.find?_eq_none.1 found a (complete a))
    | some b =>
      have same := List.find?_some found
      rw [apart (eq_of_beq same)]

end Written

/-! ## 3. Reading back -/

theorem readWire?_eq_some_iff {α : Type} {decode : Written → Option α} {text : String} {a : α} :
    readWire? decode text = some a ↔ ∃ w, Spells text w ∧ decode w = some a := by
  simp only [readWire?, Spells]
  cases read : Reader.document none text.toList with
  | ok w => simp
  | error fault => simp

/-- A type is read back if its values are read from the records with their fields, and are written
as such. -/
theorem readsBack {α : Type} {names : List String} {Fields : α → List Written → Prop}
    {wire : α → Json} {decode : Written → Option α}
    (decodes : ∀ w a, decode w = some a ↔ ∃ values, Fields a values ∧ w.IsRecord names values)
    (writes : ∀ a, ∃ values, Fields a values ∧ (Written.ofJson (wire a)).IsRecord names values) :
    ReadsBack names Fields wire decode where
  written a := by
    rw [readWire?_eq_some_iff]
    exact ⟨_, Reader.document_text_unchecked (wire a), (decodes _ a).2 (writes a)⟩
  accepts a text := by
    rw [readWire?_eq_some_iff]
    refine exists_congr fun w => ?_
    rw [decodes, exists_and_left]
  refuses text members name spells listed unclear := by
    rw [Option.eq_none_iff_forall_ne_some]
    intro a found
    obtain ⟨w, spells', decoded⟩ := readWire?_eq_some_iff.1 found
    cases Except.ok.inj (spells.symm.trans spells')
    obtain ⟨values, -, record⟩ := (decodes _ a).1 decoded
    have spoilt := Written.fields?_eq_none listed unclear
    rw [Written.fields?_eq_some_iff.2 record] at spoilt
    cases spoilt

/-! ## 4. Checks and catalog entries -/

theorem ErrorCategory.mem_all (c : ErrorCategory) : c ∈ all := by
  cases c <;> decide

theorem ErrorCategory.label_injective : Function.Injective label := by
  intro c d same
  cases c <;> cases d <;> first | rfl | exact absurd same (by decide)

theorem Check.ofWritten?_eq_some_iff {w : Written} {c : Check} :
    ofWritten? w = some c ↔ ∃ values, Fields c values ∧ w.IsRecord fieldNames values := by
  rw [ofWritten?]
  constructor
  · intro read
    split at read
    · rename_i name passed detail found
      obtain ⟨s, named, read⟩ := Option.bind_eq_some_iff.1 read
      obtain ⟨b, flagged, read⟩ := Option.bind_eq_some_iff.1 read
      obtain ⟨d, detailed, read⟩ := Option.bind_eq_some_iff.1 read
      cases read
      cases Written.text?_eq_some_iff.1 named
      cases Written.flag?_eq_some_iff.1 flagged
      cases Written.text?_eq_some_iff.1 detailed
      exact ⟨_, rfl, Written.fields?_eq_some_iff.1 found⟩
    · cases read
  · rintro ⟨values, rfl, record⟩
    have found := Written.fields?_eq_some_iff.2 record
    rw [fieldNames] at found
    rw [found]
    rfl

theorem ErrorEntry.ofWritten?_eq_some_iff {w : Written} {e : ErrorEntry} :
    ofWritten? w = some e ↔ ∃ values, Fields e values ∧ w.IsRecord fieldNames values := by
  have categories : ∀ {w : Written} {c : ErrorCategory},
      ErrorCategory.ofWritten? w = some c ↔ w.IsWord c.label :=
    Written.labelled?_eq_some_iff ErrorCategory.mem_all ErrorCategory.label_injective
  rw [ofWritten?]
  constructor
  · intro read
    split at read
    · rename_i code category message remediation found
      obtain ⟨s, coded, read⟩ := Option.bind_eq_some_iff.1 read
      obtain ⟨c, labelled, read⟩ := Option.bind_eq_some_iff.1 read
      obtain ⟨m, told, read⟩ := Option.bind_eq_some_iff.1 read
      obtain ⟨steps, listed, read⟩ := Option.bind_eq_some_iff.1 read
      cases read
      cases Written.text?_eq_some_iff.1 coded
      cases Written.text?_eq_some_iff.1 told
      cases Written.texts?_eq_some_iff.1 listed
      exact ⟨_, ⟨category, categories.1 labelled, rfl⟩, Written.fields?_eq_some_iff.1 found⟩
    · cases read
  · rintro ⟨values, ⟨category, labelled, rfl⟩, record⟩
    have found := Written.fields?_eq_some_iff.2 record
    have steps := (@Written.texts?_eq_some_iff _ e.remediation).2 rfl
    rw [fieldNames] at found
    simp only [found, categories.2 labelled, steps]
    rfl

theorem Check.isRecord_wire (c : Check) :
    ∃ values, Fields c values ∧ (Written.ofJson (wire c)).IsRecord fieldNames values := by
  have apart : fieldNames.Nodup := by decide
  exact ⟨_, rfl, @Written.isRecord_ofJson [("name", .string c.name), ("passed", .bool c.passed),
    ("detail", .string c.detail)] apart⟩

theorem ErrorEntry.isRecord_wire (e : ErrorEntry) :
    ∃ values, Fields e values ∧ (Written.ofJson (wire e)).IsRecord fieldNames values := by
  have apart : fieldNames.Nodup := by decide
  refine ⟨_, ⟨.string e.category.label, .text, rfl⟩, ?_⟩
  rw [← Written.ofJson_ofStrings]
  exact @Written.isRecord_ofJson [("code", .string e.code),
    ("category", .string e.category.label), ("message", .string e.message),
    ("remediation", Json.ofStrings e.remediation)] apart

/-- A check and a catalog entry are read back from their own texts. They are read from just the
objects that hold each of their fields once, whatever the order and whatever else is there, and
from the arrays of their fields; an object in which a field is missing or repeated is refused. -/
theorem records_readBack :
    ReadsBack Check.fieldNames Check.Fields Check.wire Check.ofWritten? ∧
      ReadsBack ErrorEntry.fieldNames ErrorEntry.Fields ErrorEntry.wire ErrorEntry.ofWritten? := by
  constructor
  · exact readsBack (fun _ _ => Check.ofWritten?_eq_some_iff) Check.isRecord_wire
  · exact readsBack (fun _ _ => ErrorEntry.ofWritten?_eq_some_iff) ErrorEntry.isRecord_wire

/-- The fields in another order, with one that does not matter. -/
example : readWire? Check.ofWritten? (Json.object [("detail", .string "0"), ("since", .null),
    ("passed", .bool true), ("name", .string "CRITICAL")]).text =
      some ⟨"CRITICAL", true, "0"⟩ := by
  decide +kernel

end HealthReport
