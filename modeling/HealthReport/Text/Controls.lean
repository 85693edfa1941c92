import HealthReport.Text.Utf8

/-!
Text as it is written to something that is no terminal: control characters and the sequences that
set colours, move the cursor or carry data for a device are left out. A line break or tab within a
sequence is kept and suspends it: what follows is shown up to the next control character, where the
sequence goes on.
-/
namespace HealthReport

namespace Controls

/-- A place in text: outside of control sequences, or within one. -/
inductive Place where
  | text
  /-- After the escape character. -/
  | escape
  /-- In an escape sequence of several characters. -/
  | selection
  /-- In a sequence that a bracket opens, up to its final letter. -/
  | sequence
  /-- In a command for the terminal, up to the bell character. -/
  | command
  /-- At the beginning of a sequence for a device. -/
  | deviceStart
  | deviceParameters
  | deviceSelection
  /-- In data for a device, or a string that the terminal ignores. -/
  | passage
deriving DecidableEq

def within (first last : Nat) (c : Char) : Bool := first ≤ c.toNat && c.toNat ≤ last

/-- The control characters that lay text out. -/
def isLayout (c : Char) : Bool := c == '\t' || c == '\n' || c == '\x0c' || c == '\r'

/-- A character that is shown outside of sequences. -/
def isShown (c : Char) : Bool := isLayout c || (0x20 ≤ c.toNat && c.toNat != 0x7F)

/-- The byte that ends a string for a device, among the bytes of a character too. -/
def stringEnd : UInt8 := 0x9C

namespace Place

/-- The place after a character that follows the escape character. -/
def afterEscape (c : Char) : Place :=
  if c = '[' then .sequence
  else if c = ']' then .command
  else if c = 'P' then .deviceStart
  else if c = 'X' || c = '^' || c = '_' then .passage
  else if within 0x20 0x2F c then .selection
  else if within 0x30 0x7E c then .text
  else .escape

/-- The place after a character that is not shown. -/
def next (p : Place) (c : Char) : Place :=
  if c = '\x1b' then .escape
  else if c = '\x18' || c = '\x1a' then .text
  else match p with
    | .text => .text
    | .escape => afterEscape c
    | .selection => if within 0x30 0x7E c then .text else .selection
    | .sequence => if within 0x40 0x7E c then .text else .sequence
    | .command => if c = '\x07' then .text else .command
    | .deviceStart =>
      if within 0x20 0x2F c then .deviceSelection
      else if within 0x30 0x3F c then .deviceParameters
      else if within 0x40 0x7E c then .passage
      else .deviceStart
    | .deviceParameters =>
      if within 0x20 0x2F c then .deviceSelection
      else if within 0x3C 0x7E c then .passage
      else .deviceParameters
    | .deviceSelection => if within 0x30 0x7E c then .passage else .deviceSelection
    | .passage => if (Utf8.encodeChar c).contains stringEnd then .text else .passage

/-- Whether a character is shown at a place. -/
def shows (p : Place) (c : Char) : Bool :=
  match p with
  | .text => isShown c
  | .escape | .selection | .sequence => isLayout c
  | _ => false

end Place

/-- What is shown of characters that follow a place. A character that is not ASCII ends a suspended
sequence. -/
def shownFrom (place : Place) (suspended : Bool) : List Char → List Char
  | [] => []
  | c :: rest =>
    if suspended && isShown c then
      c :: shownFrom (if c.toNat < 0x80 then place else .text) true rest
    else if place.shows c then c :: shownFrom place true rest
    else shownFrom (place.next c) false rest

end Controls

/-- The text without control sequences. -/
def withoutControls (text : String) : String :=
  String.ofList (Controls.shownFrom .text false text.toList)

/-- The text in bold face, on a terminal that knows the sequences for it. -/
def emphasized (text : String) : String := "\x1b[1m" ++ text ++ "\x1b[0m"

end HealthReport
