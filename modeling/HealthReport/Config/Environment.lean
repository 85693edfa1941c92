import HealthReport.Text.Utf8

/-!
The environment of a run: named variables with bytes as values. A variable whose value is no text
counts as unset.
-/
namespace HealthReport

/-- Dropping the entries under one name leaves those under another. -/
theorem lookup_filter_ne {α β : Type} [BEq α] [LawfulBEq α] {name other : α} (h : other ≠ name)
    (entries : List (α × β)) :
    (entries.filter fun held => held.1 != name).lookup other = entries.lookup other := by
  induction entries with
  | nil => rfl
  | cons head rest ih =>
    obtain ⟨first, value⟩ := head
    by_cases same : first = name
    · subst same
      have apart : (other == first) = false := by simp [h]
      simp [List.lookup_cons, apart, ih]
    · simp only [List.filter_cons, bne_iff_ne, ne_eq, same, not_false_eq_true, if_true,
        List.lookup_cons, ih]

structure Environment where
  entries : List (String × Bytes)

namespace Environment

def empty : Environment := ⟨[]⟩

def bytes? (e : Environment) (name : String) : Option Bytes := e.entries.lookup name

/-- The value of a variable that holds text. -/
def text? (e : Environment) (name : String) : Option String := (e.bytes? name).bind Utf8.decode?

def unset (e : Environment) (name : String) : Environment :=
  ⟨e.entries.filter fun held => held.1 != name⟩

def set (e : Environment) (name : String) (value : Bytes) : Environment :=
  ⟨(name, value) :: (e.unset name).entries⟩

theorem bytes?_set_self (e : Environment) (name : String) (value : Bytes) :
    (e.set name value).bytes? name = some value := by
  simp [set, bytes?]

theorem bytes?_unset_of_ne (e : Environment) {name other : String} (h : other ≠ name) :
    (e.unset name).bytes? other = e.bytes? other :=
  lookup_filter_ne h e.entries

theorem bytes?_set_of_ne (e : Environment) {name other : String} (value : Bytes)
    (h : other ≠ name) :
    (e.set name value).bytes? other = e.bytes? other := by
  have apart : (other == name) = false := by simp [h]
  simpa [set, bytes?, List.lookup_cons, apart] using e.bytes?_unset_of_ne h

theorem bytes?_unset_self (e : Environment) (name : String) :
    (e.unset name).bytes? name = none := by
  simp only [unset, bytes?, List.lookup_eq_none_iff, List.mem_filter]
  rintro ⟨other, value⟩ ⟨_, apart⟩
  have different : other ≠ name := by simpa using apart
  simpa using different.symm

end Environment

end HealthReport
