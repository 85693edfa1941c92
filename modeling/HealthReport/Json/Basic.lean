import HealthReport.Json.Number

/-!
JSON values. The members of an object stand in ascending order of their names, each name once;
`Json.isRegular` says so for a whole value, and `Members.ofList` puts members into that form, the
last of several with one name winning.
-/
namespace HealthReport

/-- A JSON value. -/
inductive Json where
  | null
  | bool (b : Bool)
  | number (n : Number)
  | string (s : String)
  | array (items : List Json)
  | object (members : List (String × Json))

/-- The members of an object. -/
abbrev Members := List (String × Json)

namespace Members

/-- Sets one member, replacing the one of that name if there is one. -/
def put (name : String) (value : Json) : Members → Members
  | [] => [(name, value)]
  | (other, held) :: rest =>
    if name < other then (name, value) :: (other, held) :: rest
    else if other < name then (other, held) :: put name value rest
    else (name, value) :: rest

/-- Members in order of their names; of several with one name the last counts. -/
def ofList (members : List (String × Json)) : Members :=
  members.foldl (fun done (name, value) => put name value done) []

def names (members : Members) : List String := members.map (·.1)

def get? (members : Members) (name : String) : Option Json := members.lookup name

def has (members : Members) (name : String) : Bool := (members.get? name).isSome

/-- Names in strictly ascending order. -/
def isAscending (members : Members) : Bool := decide (members.names.Pairwise (· < ·))

theorem mem_names_put {name other : String} {value : Json} {members : Members}
    (h : other ∈ names (put name value members)) : other = name ∨ other ∈ names members := by
  induction members with
  | nil => simpa [put, names] using h
  | cons head rest ih =>
    obtain ⟨first, held⟩ := head
    unfold put at h
    simp only [names] at h ih ⊢
    split at h
    · simpa using h
    · split at h
      · simp only [List.map_cons, List.mem_cons] at h ⊢
        rcases h with h | h
        · exact .inr (.inl h)
        · rcases ih h with h | h
          · exact .inl h
          · exact .inr (.inr h)
      · simp only [List.map_cons, List.mem_cons] at h ⊢
        rcases h with h | h
        · exact .inl h
        · exact .inr (.inr h)

theorem isAscending_put {name : String} {value : Json} {members : Members}
    (h : members.isAscending) : (put name value members).isAscending := by
  simp only [isAscending, decide_eq_true_eq] at h ⊢
  induction members with
  | nil => simp [put, names]
  | cons head rest ih =>
    obtain ⟨first, held⟩ := head
    simp only [names, List.map_cons, List.pairwise_cons] at h ih
    unfold put
    split
    · rename_i before
      simp only [names, List.map_cons, List.pairwise_cons, List.mem_cons]
      refine ⟨?_, h⟩
      rintro other (rfl | later)
      · exact before
      · exact String.lt_trans before (h.1 _ later)
    · split
      · rename_i before
        simp only [names, List.map_cons, List.pairwise_cons]
        refine ⟨fun other member => ?_, ih h.2⟩
        have found : other ∈ names (put name value rest) := by simpa [names] using member
        rcases mem_names_put found with rfl | later
        · exact before
        · exact h.1 _ later
      · rename_i notBefore notAfter
        have equal : name = first := by
          have := String.le_antisymm (String.not_lt.1 notAfter) (String.not_lt.1 notBefore)
          exact this
        subst equal
        simpa [names] using h

end Members

namespace Json

mutual
/-- Every object within has its members in ascending order of their names, and every number within
is one that reading can give. -/
def isRegular : Json → Bool
  | .number n => n.isReadable
  | .array items => allRegular items
  | .object members => Members.isAscending members && membersRegular members
  | _ => true

def allRegular : List Json → Bool
  | [] => true
  | item :: rest => isRegular item && allRegular rest

def membersRegular : List (String × Json) → Bool
  | [] => true
  | (_, value) :: rest => isRegular value && membersRegular rest
end

theorem membersRegular_put {name : String} {value : Json} {members : Members}
    (value_regular : value.isRegular) (h : membersRegular members) :
    membersRegular (Members.put name value members) := by
  induction members with
  | nil => simp [Members.put, membersRegular, value_regular]
  | cons head rest ih =>
    obtain ⟨first, held⟩ := head
    simp only [membersRegular, Bool.and_eq_true] at h
    unfold Members.put
    split
    · simp [membersRegular, value_regular, h]
    · split
      · simp [membersRegular, h, ih h.2]
      · simp [membersRegular, value_regular, h]

theorem isRegular_ofList {members : List (String × Json)} (h : membersRegular members) :
    (Json.object (Members.ofList members)).isRegular := by
  suffices general : ∀ done : Members, done.isAscending → membersRegular done →
      (Json.object
        (members.foldl (fun done (name, value) => Members.put name value done) done)).isRegular
    from general [] (by decide) (by rfl)
  induction members with
  | nil =>
    intro done ascending ordered
    simp [isRegular, ascending, ordered]
  | cons head rest ih =>
    obtain ⟨name, value⟩ := head
    simp only [membersRegular, Bool.and_eq_true] at h
    intro done ascending ordered
    exact ih h.2 _ (Members.isAscending_put ascending) (membersRegular_put h.1 ordered)

def members? : Json → Option Members
  | .object members => some members
  | _ => none

def items? : Json → Option (List Json)
  | .array items => some items
  | _ => none

def string? : Json → Option String
  | .string s => some s
  | _ => none

def number? : Json → Option Number
  | .number n => some n
  | _ => none

/-- A member of an object; other values have none. -/
def get? (value : Json) (name : String) : Option Json :=
  value.members?.bind (·.get? name)

def isNull : Json → Bool
  | .null => true
  | _ => false

mutual
/-- Equality of documents: like `=`, but for doubles, which are compared as numbers. -/
def same : Json → Json → Bool
  | .null, .null => true
  | .bool a, .bool b => a == b
  | .number a, .number b => a.same b
  | .string a, .string b => a == b
  | .array a, .array b => allSame a b
  | .object a, .object b => membersSame a b
  | _, _ => false

def allSame : List Json → List Json → Bool
  | [], [] => true
  | a :: as, b :: bs => same a b && allSame as bs
  | _, _ => false

def membersSame : List (String × Json) → List (String × Json) → Bool
  | [], [] => true
  | (name, a) :: as, (other, b) :: bs => name == other && same a b && membersSame as bs
  | _, _ => false
end

/-- A whole number as a JSON value. -/
def ofNat (n : Nat) : Json := .number (.integer n)

def ofStrings (texts : List String) : Json := .array (texts.map .string)

end Json

end HealthReport
