import HealthReport.Text.Utf8

/-!
Paths as bytes. A path is cut at its slashes; an empty piece and a dot say nothing, except for a
dot at the very start. The parent of a path is a beginning of its text, not a normal form of it.
-/
namespace HealthReport

/-- A path as it is written. -/
abbrev Path := Bytes

namespace Path

def slash : UInt8 := 0x2F

def dot : Bytes := [0x2E]

def dotDot : Bytes := [0x2E, 0x2E]

/-- The pieces between the slashes; there is always one. -/
def pieces : Path → List Bytes
  | [] => [[]]
  | b :: rest =>
    if b = slash then [] :: pieces rest
    else match pieces rest with
      | [] => [[b]]
      | first :: others => (b :: first) :: others

/-- Pieces with slashes between them. -/
def unite : List Bytes → Path
  | [] => []
  | [piece] => piece
  | piece :: next :: rest => piece ++ slash :: unite (next :: rest)

/-- A piece that leads nowhere. -/
def isIdle (piece : Bytes) : Bool := piece == [] || piece == dot

/-- The pieces without the idle ones at the end. -/
def trimEnd (body : List Bytes) : List Bytes := (body.reverse.dropWhile isIdle).reverse

/-- Where a path starts: at the root, at a written dot, or at its first name. -/
inductive Start where
  | root
  | here
  | name
deriving DecidableEq

/-- The start of a path and the pieces after it. -/
def cut (path : Path) : Start × List Bytes :=
  match pieces path with
  | [] => (.name, [])
  | first :: rest =>
    if first = [] then (if path = [] then (.name, []) else (.root, rest))
    else if first = dot then (.here, rest)
    else (.name, first :: rest)

/-- The path with a start and pieces after it. -/
def ofCut (start : Start) (body : List Bytes) : Path :=
  match start with
  | .root => slash :: unite body
  | .here => if body.isEmpty then dot else dot ++ slash :: unite body
  | .name => unite body

/-- The last name of a path, unless the path ends with its start or with two dots. -/
def fileName? (path : Path) : Option Bytes :=
  (trimEnd (cut path).2).getLast?.filter (· != dotDot)

/-- The path without its last part; the root and the empty path have none. -/
def parent? (path : Path) : Option Path :=
  let (start, body) := cut path
  match trimEnd body with
  | [] => if start = .here then some [] else none
  | first :: rest => some (ofCut start (trimEnd ((first :: rest).dropLast)))

/-- A name within a directory. -/
def join (directory : Path) (name : Bytes) : Path :=
  if directory = [] then name
  else if directory.getLast? = some slash then directory ++ name
  else directory ++ slash :: name

/-- The path as text; what is no text is replaced. -/
def shown (path : Path) : String := Utf8.decodeLossy path

theorem pieces_ne_nil (path : Path) : pieces path ≠ [] := by
  cases path with
  | nil => simp [pieces]
  | cons b rest =>
    unfold pieces
    split
    · simp
    · split <;> simp

end Path

end HealthReport
