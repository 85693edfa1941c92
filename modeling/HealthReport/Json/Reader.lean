import HealthReport.Json.Basic
import HealthReport.Json.Fault
import HealthReport.Text.Hexadecimal

/-!
Reading JSON text. A document is first read as it is written, with members in their order and
repetitions, and `Written.toJson` then gives the value that it stands for. Reading is either
checked or not: a checked reading limits the depth of nesting and refuses numbers past the range
and strings with unpaired surrogates, while a reading that skips a value looks at its form alone.
-/
namespace HealthReport

/-- A JSON document as written. A string is `none` if it holds an unpaired surrogate, which only a
reading without checks lets through. -/
inductive Written where
  | null
  | bool (b : Bool)
  | number (literal : Literal)
  | string (s : Option String)
  | array (items : List Written)
  | object (members : List (Option String × Written))

namespace Written

mutual
/-- The value that a document stands for. -/
def toJson : Written → Json
  | .null => .null
  | .bool b => .bool b
  | .number literal => .number literal.number
  | .string s => .string (s.getD "")
  | .array items => .array (itemsToJson items)
  | .object members => .object (Members.ofList (membersToJson members))

def itemsToJson : List Written → List Json
  | [] => []
  | item :: rest => toJson item :: itemsToJson rest

def membersToJson : List (Option String × Written) → List (String × Json)
  | [] => []
  | (name, value) :: rest => (name.getD "", toJson value) :: membersToJson rest
end

mutual
theorem isRegular_toJson : ∀ value : Written, value.toJson.isRegular
  | .null => rfl
  | .bool _ => rfl
  | .number literal => literal.isReadable_number
  | .string _ => rfl
  | .array items => by
    simpa [toJson, Json.isRegular] using allRegular_itemsToJson items
  | .object members => by
    simpa [toJson] using Json.isRegular_ofList (membersRegular_membersToJson members)

theorem allRegular_itemsToJson : ∀ items : List Written, Json.allRegular (itemsToJson items)
  | [] => rfl
  | item :: rest => by
    simp [itemsToJson, Json.allRegular, isRegular_toJson item, allRegular_itemsToJson rest]

theorem membersRegular_membersToJson :
    ∀ members : List (Option String × Written), Json.membersRegular (membersToJson members)
  | [] => rfl
  | (_, value) :: rest => by
    simp [membersToJson, Json.membersRegular, isRegular_toJson value,
      membersRegular_membersToJson rest]
end

end Written

namespace Reader

/-- What a step of reading found: a part of the document and the characters after it. -/
abbrev Found (α : Type) := α × List Char

/-- How much nesting is still allowed in a checked reading; `none` reads without checks. -/
abbrev Allowance := Option Nat

/-- The nesting that a document may have. -/
def depthLimit : Nat := 127

def fail {α : Type} (cause : Cause) (rest : List Char) (ahead : Nat) : Except Fault α :=
  .error ⟨cause, rest, ahead⟩

/-- The white space of JSON. -/
def isSpace (c : Char) : Bool := c == ' ' || c == '\t' || c == '\n' || c == '\r'

def skipSpace (chars : List Char) : List Char := chars.dropWhile isSpace

/-- The rest of a word such as `true`, whose first letter has been read. -/
def word {α : Type} (value : α) : List Char → List Char → Except Fault (Found α)
  | [], rest => .ok (value, rest)
  | _ :: _, [] => fail .endInValue [] 0
  | expected :: more, c :: rest =>
    if c = expected then word value more rest else fail .expectedWord (c :: rest) 1

/-- The digits before the point: a zero alone, or digits that begin with another one. -/
def wholeDigits : List Char → Except Fault (Found (List Char))
  | [] => fail .endInValue [] 0
  | c :: rest =>
    if c = '0' then
      match rest with
      | d :: _ => if d.isDigit then fail .invalidNumber rest 1 else .ok ([c], rest)
      | [] => .ok ([c], rest)
    else if c.isDigit then .ok (c :: rest.takeWhile Char.isDigit, rest.dropWhile Char.isDigit)
    else fail .invalidNumber (c :: rest) 1

/-- The point and the digits after it, if there is a point. -/
def placeDigits : List Char → Except Fault (Found (List Char))
  | '.' :: rest =>
    match rest with
    | [] => fail .endInValue [] 0
    | c :: _ =>
      if c.isDigit then .ok (rest.takeWhile Char.isDigit, rest.dropWhile Char.isDigit)
      else fail .invalidNumber rest 1
  | chars => .ok ([], chars)

/-- The exponent, if there is one. -/
def power : List Char → Except Fault (Found (Option (Bool × List Char)))
  | [] => .ok (none, [])
  | mark :: rest =>
    if mark = 'e' || mark = 'E' then
      let (down, digits) : Bool × List Char :=
        match rest with
        | '+' :: digits => (false, digits)
        | '-' :: digits => (true, digits)
        | digits => (false, digits)
      match digits with
      | [] => fail .endInValue [] 0
      | c :: _ =>
        if c.isDigit then
          .ok (some (down, digits.takeWhile Char.isDigit), digits.dropWhile Char.isDigit)
        else fail .invalidNumber digits 1
    else .ok (none, mark :: rest)

def literal (chars : List Char) : Except Fault (Found Literal) := do
  let (neg, unsigned) : Bool × List Char :=
    match chars with
    | '-' :: rest => (true, rest)
    | _ => (false, chars)
  let (whole, rest) ← wholeDigits unsigned
  let (places, rest) ← placeDigits rest
  let (exponent, rest) ← power rest
  return (⟨neg, whole, places, exponent⟩, rest)

/-- A number. A checked reading refuses one past the range, at the character that shows it. -/
def number (allowance : Allowance) (chars : List Char) : Except Fault (Found Written) := do
  let (value, rest) ← literal chars
  if allowance.isSome && value.number?.isNone then fail .outOfRange (value.unread ++ rest) 0
  else return (.number value, rest)

/-- Four hexadecimal digits. -/
def hexDigits (chars : List Char) : Except Fault (Found Nat) :=
  let value? : Option Nat :=
    match chars with
    | a :: b :: c :: d :: _ => hexNumber? [a, b, c, d]
    | _ => none
  match value? with
  | some n => .ok (n, chars.drop 4)
  | none => if byteSize chars < 4 then fail .endInString [] 0 else fail .invalidEscape chars 4

def isHighSurrogate (n : Nat) : Bool := 0xD800 ≤ n && n < 0xDC00

def isLowSurrogate (n : Nat) : Bool := 0xDC00 ≤ n && n < 0xE000

/-- The second half of a surrogate pair: `\u` and four digits. -/
def lowHalf : List Char → Except Fault (Found Nat)
  | [] => fail .endInString [] 0
  | '\\' :: rest =>
    match rest with
    | [] => fail .endInString [] 0
    | 'u' :: digits => hexDigits digits
    | _ => fail .unfinishedPair rest 1
  | chars => fail .unfinishedPair chars 1

/-- A character given by number, after `\u`. -/
def unicodeEscape (checked : Bool) (chars : List Char) : Except Fault (Found (Option Char)) := do
  let (n, rest) ← hexDigits chars
  if !checked then
    if isHighSurrogate n || isLowSurrogate n then
      match lowHalf rest with
      | .ok (low, after) =>
        if isHighSurrogate n && isLowSurrogate low then
          return (some (Char.ofNat (0x10000 + (n - 0xD800) * 0x400 + (low - 0xDC00))), after)
        else return (none, rest)
      | .error _ => return (none, rest)
    else return (some (Char.ofNat n), rest)
  else if isLowSurrogate n then fail .loneSurrogate rest 0
  else if isHighSurrogate n then
    let (low, rest) ← lowHalf rest
    if isLowSurrogate low then
      return (some (Char.ofNat (0x10000 + (n - 0xD800) * 0x400 + (low - 0xDC00))), rest)
    else fail .loneSurrogate rest 0
  else return (some (Char.ofNat n), rest)

/-- A character given by an escape, after the backslash. -/
def escape (checked : Bool) : List Char → Except Fault (Found (Option Char))
  | [] => fail .endInString [] 0
  | c :: rest =>
    if c = '"' || c = '\\' || c = '/' then .ok (some c, rest)
    else if c = 'b' then .ok (some '\x08', rest)
    else if c = 'f' then .ok (some '\x0c', rest)
    else if c = 'n' then .ok (some '\n', rest)
    else if c = 'r' then .ok (some '\r', rest)
    else if c = 't' then .ok (some '\t', rest)
    else if c = 'u' then unicodeEscape checked rest
    else fail .invalidEscape (c :: rest) 1

/-- The characters of a string up to its closing quote; each takes one unit of fuel. -/
def stringChars (checked : Bool) : Nat → List Char → Except Fault (Found (List (Option Char)))
  | 0, chars => fail .endInString chars 0
  | _ + 1, [] => fail .endInString [] 0
  | fuel + 1, c :: rest =>
    if c = '"' then .ok ([], rest)
    else if c = '\\' then do
      let (first, rest) ← escape checked rest
      let (others, rest) ← stringChars checked fuel rest
      return (first :: others, rest)
    else if c.toNat < 0x20 then fail .controlCharacter (c :: rest) 1
    else do
      let (others, rest) ← stringChars checked fuel rest
      return (some c :: others, rest)

/-- A string after its opening quote. -/
def string (checked : Bool) (chars : List Char) : Except Fault (Found (Option String)) := do
  let (found, rest) ← stringChars checked (chars.length + 1) chars
  return ((found.mapM id).map String.ofList, rest)

/-- Goes one level deeper at the bracket that begins `chars`. -/
def enter (allowance : Allowance) (chars : List Char) : Except Fault Allowance :=
  match allowance with
  | none => .ok none
  | some 0 => fail .tooDeep chars 1
  | some (left + 1) => .ok (some left)

mutual
def value (allowance : Allowance) : Nat → List Char → Except Fault (Found Written)
  | 0, chars => fail .tooDeep chars 0
  | fuel + 1, chars =>
    match skipSpace chars with
    | [] => fail .endInValue [] 0
    | c :: rest =>
      if c = 'n' then word .null ['u', 'l', 'l'] rest
      else if c = 't' then word (.bool true) ['r', 'u', 'e'] rest
      else if c = 'f' then word (.bool false) ['a', 'l', 's', 'e'] rest
      else if c = '"' then do
        let (s, rest) ← string allowance.isSome rest
        return (.string s, rest)
      else if c = '[' then do
        let inner ← enter allowance (c :: rest)
        let (items, rest) ← firstItem inner fuel rest
        return (.array items, rest)
      else if c = '{' then do
        let inner ← enter allowance (c :: rest)
        let (members, rest) ← firstMember inner fuel rest
        return (.object members, rest)
      else if c = '-' || c.isDigit then number allowance (c :: rest)
      else fail .expectedValue (c :: rest) 1

/-- The items of an array after its opening bracket. -/
def firstItem (allowance : Allowance) : Nat → List Char → Except Fault (Found (List Written))
  | 0, chars => fail .tooDeep chars 0
  | fuel + 1, chars =>
    match skipSpace chars with
    | [] => fail .endInList [] 0
    | c :: rest =>
      if c = ']' then .ok ([], rest)
      else do
        let (item, rest) ← value allowance fuel (c :: rest)
        let (items, rest) ← nextItems allowance fuel rest
        return (item :: items, rest)

/-- The items of an array after one of them. -/
def nextItems (allowance : Allowance) : Nat → List Char → Except Fault (Found (List Written))
  | 0, chars => fail .tooDeep chars 0
  | fuel + 1, chars =>
    match skipSpace chars with
    | [] => fail .endInList [] 0
    | c :: rest =>
      if c = ']' then .ok ([], rest)
      else if c = ',' then
        match skipSpace rest with
        | [] => fail .endInValue [] 0
        | d :: rest =>
          if d = ']' then fail .trailingComma (d :: rest) 1
          else do
            let (item, rest) ← value allowance fuel (d :: rest)
            let (items, rest) ← nextItems allowance fuel rest
            return (item :: items, rest)
      else fail .expectedListEnd (c :: rest) 1

/-- The members of an object after its opening brace. -/
def firstMember (allowance : Allowance) :
    Nat → List Char → Except Fault (Found (List (Option String × Written)))
  | 0, chars => fail .tooDeep chars 0
  | fuel + 1, chars =>
    match skipSpace chars with
    | [] => fail .endInObject [] 0
    | c :: rest =>
      if c = '}' then .ok ([], rest)
      else if c = '"' then do
        let (head, rest) ← member allowance fuel rest
        let (members, rest) ← nextMembers allowance fuel rest
        return (head :: members, rest)
      else fail .keyNotString (c :: rest) 1

/-- The members of an object after one of them. -/
def nextMembers (allowance : Allowance) :
    Nat → List Char → Except Fault (Found (List (Option String × Written)))
  | 0, chars => fail .tooDeep chars 0
  | fuel + 1, chars =>
    match skipSpace chars with
    | [] => fail .endInObject [] 0
    | c :: rest =>
      if c = '}' then .ok ([], rest)
      else if c = ',' then
        match skipSpace rest with
        | [] => fail .endInValue [] 0
        | d :: rest =>
          if d = '"' then do
            let (head, rest) ← member allowance fuel rest
            let (members, rest) ← nextMembers allowance fuel rest
            return (head :: members, rest)
          else if d = '}' then fail .trailingComma (d :: rest) 1
          else fail .keyNotString (d :: rest) 1
      else fail .expectedObjectEnd (c :: rest) 1

/-- A member after the opening quote of its name. -/
def member (allowance : Allowance) :
    Nat → List Char → Except Fault (Found (Option String × Written))
  | 0, chars => fail .tooDeep chars 0
  | fuel + 1, chars => do
    let (name, rest) ← string allowance.isSome chars
    match skipSpace rest with
    | [] => fail .endInObject [] 0
    | c :: rest =>
      if c = ':' then do
        let (held, rest) ← value allowance fuel rest
        return ((name, held), rest)
      else fail .expectedColon (c :: rest) 1
end

/-- A whole document: one value with nothing but white space around it. Three steps at most are
taken for each character. -/
def document (allowance : Allowance) (chars : List Char) : Except Fault Written := do
  let (found, rest) ← value allowance (3 * chars.length + 3) chars
  match skipSpace rest with
  | [] => return found
  | left => fail .trailingCharacters left 1

end Reader

namespace Json

/-- Reads a document with all checks. -/
def read (text : String) : Except ReadError Json :=
  match Reader.document (some Reader.depthLimit) text.toList with
  | .ok written => .ok written.toJson
  | .error fault => .error ⟨fault.cause, fault.position text.toList⟩

theorem isRegular_of_read {text : String} {value : Json} (h : read text = .ok value) :
    value.isRegular := by
  unfold read at h
  split at h
  · cases h
    exact Written.isRegular_toJson _
  · cases h

end Json

end HealthReport
