/-!
Regular-expression patterns: what they are made of, and how deep they are nested.
-/
namespace HealthReport

namespace Pattern

/-- A property of a pattern that may be switched on and off for a part of it. -/
inductive Mode where
  /-- Letters match in both cases. -/
  | caseless
  /-- The anchors `^` and `$` stand at every line. -/
  | multiline
  /-- A point matches line breaks too. -/
  | wholeText
  /-- Repetitions take as little as they can. -/
  | reluctant
  /-- Characters are those of all scripts, and not bytes. -/
  | unicode
  /-- A line may end with a carriage return. -/
  | returns
  /-- Blanks and comments in the pattern do not count. -/
  | spaced
deriving DecidableEq

structure ModeChange where
  mode : Mode
  on : Bool
deriving DecidableEq

/-- A letter, which may be written as the number of a byte. -/
structure Letter where
  char : Char
  isByte : Bool
deriving DecidableEq

inductive Shorthand where
  | digits
  | blanks
  | words
deriving DecidableEq

/-- What matches at one place. -/
inductive Atom where
  | letter (l : Letter)
  | any
  | shorthand (kind : Shorthand) (negated : Bool)
  /-- The beginning or the end of a line or of the text. -/
  | anchor
  | wordBoundary
deriving DecidableEq

inductive SetOperation where
  | intersection
  | difference
  | symmetricDifference
deriving DecidableEq

/-- What stands between brackets, and the parts of it. -/
inductive CharSet where
  | nothing
  | letter (l : Letter)
  | range (first last : Letter)
  /-- A class of ASCII characters. -/
  | named (name : String) (negated : Bool)
  | shorthand (kind : Shorthand) (negated : Bool)
  | bracketed (negated : Bool) (inner : CharSet)
  | union (parts : List CharSet)
  | combined (operation : SetOperation) (left right : CharSet)

namespace CharSet

/-- The set of some parts. -/
def ofParts : List CharSet → CharSet
  | [] => .nothing
  | [part] => part
  | parts => .union parts

mutual
/-- How many levels of brackets, unions and operations there are. -/
def depth : CharSet → Nat
  | .bracketed _ inner => inner.depth + 1
  | .union parts => partsDepth parts + 1
  | .combined _ left right => max left.depth right.depth + 1
  | _ => 0

def partsDepth : List CharSet → Nat
  | [] => 0
  | part :: rest => max part.depth (partsDepth rest)
end

end CharSet

end Pattern

open Pattern in
/-- A regular-expression pattern. -/
inductive Pattern where
  | empty
  | atom (a : Atom)
  | set (s : CharSet)
  /-- Switches modes from here to the end of the group. -/
  | modes (changes : List ModeChange)
  | repeated (inner : Pattern)
  | group (changes : List ModeChange) (inner : Pattern)
  | sequence (items : List Pattern)
  | choice (branches : List Pattern)

namespace Pattern

/-- One item after the other. -/
def ofItems : List Pattern → Pattern
  | [] => .empty
  | [item] => item
  | items => .sequence items

/-- One branch or the other. -/
def ofBranches : List Pattern → Pattern
  | [branch] => branch
  | branches => .choice branches

mutual
/-- How many levels of repetitions, groups, sequences, choices and sets there are. -/
def depth : Pattern → Nat
  | .set s => s.depth
  | .repeated inner => inner.depth + 1
  | .group _ inner => inner.depth + 1
  | .sequence items => partsDepth items + 1
  | .choice branches => partsDepth branches + 1
  | _ => 0

def partsDepth : List Pattern → Nat
  | [] => 0
  | part :: rest => max part.depth (partsDepth rest)
end

end Pattern

end HealthReport
