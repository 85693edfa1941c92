import HealthReport.Json.Reader

/-!
Reading typed parts out of a document as it is written. A record is an object that has each of its
fields once, in any order and among members that do not matter, or an array of just the fields in
their order. A word out of a fixed list may be written as a text or as an object with that one
member, whose value is null.
-/
namespace HealthReport

namespace Written

def text? : Written → Option String
  | .string s => s
  | _ => none

def flag? : Written → Option Bool
  | .bool b => some b
  | _ => none

/-- The texts of an array that holds nothing else. -/
def texts? : Written → Option (List String)
  | .array items => items.mapM text?
  | _ => none

/-- A word by itself or as the name of the only member of an object. -/
def word? : Written → Option String
  | .string s => s
  | .object [(name, .null)] => name
  | _ => none

/-- The value of the only member with a name; nothing if there are several. -/
def field? (members : List (Option String × Written)) (name : String) : Option Written :=
  match members.filter fun member => member.1 == some name with
  | [(_, value)] => some value
  | _ => none

/-- The values of a record's fields, in the order of the names. -/
def fields? (names : List String) : Written → Option (List Written)
  | .array items => if items.length = names.length then some items else none
  | .object members =>
    if members.all fun member => member.1.isSome then names.mapM (field? members) else none
  | _ => none

/-- The one of several values whose label is written. -/
def labelled? {α : Type} (all : List α) (label : α → String) (w : Written) : Option α :=
  w.word?.bind fun word => all.find? fun value => label value == word

end Written

/-- Reads one value of a type out of a text. -/
def readWire? {α : Type} (decode : Written → Option α) (text : String) : Option α :=
  match Reader.document none text.toList with
  | .ok written => decode written
  | .error _ => none

end HealthReport
