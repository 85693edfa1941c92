import HealthReport.Pattern.Basic

/-!
Which patterns can be used. Patterns are matched against well-formed text, without tables of the
characters of all scripts. So what needs such a table is refused while Unicode mode is on, and what
could match a part of a character is refused while it is off.
-/
namespace HealthReport

namespace Pattern

/-- The modes that decide whether a part of a pattern can be used. -/
structure Modes where
  unicode : Bool
  caseless : Bool
deriving DecidableEq

namespace Modes

/-- The modes at the beginning of a pattern. -/
def start : Modes := ⟨true, false⟩

def change (m : Modes) (changes : List ModeChange) : Modes :=
  changes.foldl
    (fun m change =>
      match change.mode with
      | .unicode => { m with unicode := change.on }
      | .caseless => { m with caseless := change.on }
      | _ => m)
    m

/-- Whether letters of all scripts match in both cases. -/
def foldsCase (m : Modes) : Bool := m.unicode && m.caseless

end Modes

/-- A letter whose number is a byte that only occurs within a character. -/
def Letter.isPartial (l : Letter) : Bool := l.isByte && 0x80 ≤ l.char.toNat

def Letter.isAscii (l : Letter) : Bool := l.char.toNat < 0x80

def Atom.isUsable (m : Modes) : Atom → Bool
  | .letter l => !m.foldsCase && (m.unicode || !l.isPartial)
  | .any => m.unicode
  | .shorthand _ negated => !m.unicode && !negated
  | .anchor => true
  | .wordBoundary => !m.unicode

namespace CharSet

mutual
def isUsable (m : Modes) : CharSet → Bool
  | .nothing => true
  | .letter l => !m.foldsCase && (m.unicode || l.isAscii)
  | .range first last => !m.foldsCase && (m.unicode || (first.isAscii && last.isAscii))
  | .named _ negated => !m.foldsCase && (m.unicode || !negated)
  | .shorthand _ negated => !m.unicode && !negated
  | .bracketed negated inner => (m.unicode || !negated) && inner.isUsable m
  | .union parts => areUsable m parts
  | .combined _ left right => left.isUsable m && right.isUsable m

def areUsable (m : Modes) : List CharSet → Bool
  | [] => true
  | part :: rest => part.isUsable m && areUsable m rest
end

end CharSet

mutual
/-- The modes after a pattern that can be used. -/
def modesAfter? (m : Modes) : Pattern → Option Modes
  | .empty => some m
  | .atom a => if a.isUsable m then some m else none
  | .set s => if s.isUsable m then some m else none
  | .modes changes => some (m.change changes)
  | .repeated inner => inner.modesAfter? m
  | .group changes inner => (inner.modesAfter? (m.change changes)).map fun _ => m
  | .sequence items => modesAfterAll? m items
  | .choice branches => modesAfterAll? m branches

def modesAfterAll? (m : Modes) : List Pattern → Option Modes
  | [] => some m
  | part :: rest => (part.modesAfter? m).bind fun next => modesAfterAll? next rest
end

/-- The greatest depth of a pattern. -/
def depthLimit : Nat := 250

/-- Whether a pattern can be used. -/
def isUsable (p : Pattern) : Bool :=
  p.depth ≤ depthLimit && (p.modesAfter? .start).isSome

end Pattern

end HealthReport
