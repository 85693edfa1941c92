import HealthReport.Files.Path

/-!
A file system of directories and regular files. Each node has its location, the names from the
node up to the root, so a path leads from location to location, one piece at a time: every piece,
even an idle one, needs a directory to start from. Links, devices and permissions are left out.
-/
namespace HealthReport

/-- Why a file operation fails. -/
inductive FileFault where
  | notFound
  | notDirectory
  | isDirectory
  | alreadyExists
  | nameTooLong
  | containsNul
  | notText
  /-- Any other fault, in the words of the system. -/
  | other (words : String)
deriving DecidableEq

/-- The words of the operating system, with its number for the fault where it has one. -/
def FileFault.message : FileFault → String
  | .notFound => "No such file or directory (os error 2)"
  | .notDirectory => "Not a directory (os error 20)"
  | .isDirectory => "Is a directory (os error 21)"
  | .alreadyExists => "File exists (os error 17)"
  | .nameTooLong => "File name too long (os error 36)"
  | .containsNul => "file name contained an unexpected NUL byte"
  | .notText => "stream did not contain valid UTF-8"
  | .other words => words

/-- The names from a node up to the root. -/
abbrev Location := List Bytes

inductive Node where
  | directory
  | file (content : Bytes)
deriving DecidableEq

/-- The nodes apart from the root, and the directory in which relative paths start. -/
structure FileTree where
  nodes : List (Location × Node)
  workingDirectory : Location

namespace FileTree

/-- The longest path and the longest name that the system takes. -/
def pathLimit : Nat := 4095

def nameLimit : Nat := 255

def node? (t : FileTree) (place : Location) : Option Node :=
  match place with
  | [] => some .directory
  | name :: above => t.nodes.lookup (name :: above)

/-- Puts a node in place of what was there. -/
def put (t : FileTree) (place : Location) (node : Node) : FileTree :=
  { t with nodes := (place, node) :: t.nodes.filter fun held => held.1 != place }

/-- The location that one piece of a path leads to. -/
def follow (t : FileTree) (place : Location) (piece : Bytes) : Except FileFault Location :=
  match t.node? place with
  | none => .error .notFound
  | some (.file _) => .error .notDirectory
  | some .directory =>
    if Path.isIdle piece then .ok place
    else if piece = Path.dotDot then .ok place.tail
    else if nameLimit < piece.length then .error .nameTooLong
    else if (t.node? (piece :: place)).isSome then .ok (piece :: place)
    else .error .notFound

def walk (t : FileTree) (place : Location) : List Bytes → Except FileFault Location
  | [] => .ok place
  | piece :: rest =>
    match t.follow place piece with
    | .ok next => t.walk next rest
    | .error fault => .error fault

/-- The faults of a path as such. -/
def refused? (path : Path) : Option FileFault :=
  if path.contains 0 then some .containsNul
  else if path = [] then some .notFound
  else if pathLimit < path.length then some .nameTooLong
  else none

/-- The location where a path starts. -/
def start (t : FileTree) (path : Path) : Location :=
  if path.head? = some Path.slash then [] else t.workingDirectory

/-- The location that a path leads to. -/
def locate (t : FileTree) (path : Path) : Except FileFault Location :=
  match refused? path with
  | some fault => .error fault
  | none => t.walk (t.start path) (Path.pieces path)

/-- The node that a path leads to. -/
def find (t : FileTree) (path : Path) : Except FileFault Node :=
  match t.locate path with
  | .error fault => .error fault
  | .ok place =>
    match t.node? place with
    | some node => .ok node
    | none => .error .notFound

/-- Whether a path leads to a node. -/
def exists? (t : FileTree) (path : Path) : Bool :=
  match t.find path with
  | .ok _ => true
  | .error _ => false

def isDirectory (t : FileTree) (path : Path) : Bool :=
  match t.find path with
  | .ok .directory => true
  | _ => false

/-- The content of a file. -/
def read (t : FileTree) (path : Path) : Except FileFault Bytes :=
  match t.find path with
  | .ok (.file content) => .ok content
  | .ok .directory => .error .isDirectory
  | .error fault => .error fault

/-- The directory that holds the last piece of some pieces, with that piece. -/
def holder (t : FileTree) (path : Path) (pieces : List Bytes) :
    Except FileFault (Location × Bytes) :=
  match refused? path with
  | some fault => .error fault
  | none =>
    match t.walk (t.start path) pieces.dropLast with
    | .error fault => .error fault
    | .ok place => .ok (place, pieces.getLastD [])

/-- Makes a directory where nothing is; slashes at the end of the path do not matter. -/
def makeDirectory (t : FileTree) (path : Path) : Except FileFault FileTree :=
  let pieces := ((Path.pieces path).reverse.dropWhile (· == [])).reverse
  match t.holder path pieces with
  | .error fault => .error fault
  | .ok (place, name) =>
    match t.follow place name with
    | .ok _ => .error .alreadyExists
    | .error .notFound => .ok (t.put (name :: place) .directory)
    | .error fault => .error fault

/-- Makes a directory and those above it that are missing. What has been made stays also where a
later step fails. -/
def makeDirectories (t : FileTree) (path : Path) : Nat → FileTree × Option FileFault
  | 0 => (t, none)
  | steps + 1 =>
    match Path.parent? path with
    | none => (t, none)
    | some above =>
      match t.makeDirectory path with
      | .ok made => (made, none)
      | .error .alreadyExists =>
        if t.isDirectory path then (t, none) else (t, some .alreadyExists)
      | .error .notFound =>
        match t.makeDirectories above steps with
        | (made, some fault) => (made, some fault)
        | (made, none) =>
          match made.makeDirectory path with
          | .ok final => (final, none)
          | .error fault =>
            if fault = .alreadyExists && made.isDirectory path then (made, none)
            else (made, some fault)
      | .error fault => (t, some fault)

/-- Makes a directory and all that are missing above it. A path has fewer parents than bytes. -/
def makeAll (t : FileTree) (path : Path) : FileTree × Option FileFault :=
  t.makeDirectories path (path.length + 1)

/-- Opens a file to write at its end, making it where nothing is. -/
def openAppend (t : FileTree) (path : Path) : Except FileFault (FileTree × Location) :=
  match t.holder path (Path.pieces path) with
  | .error fault => .error fault
  | .ok (place, name) =>
    match t.follow place name with
    | .error .notFound => .ok (t.put (name :: place) (.file []), name :: place)
    | .error fault => .error fault
    | .ok found =>
      match t.node? found with
      | some (.file _) => .ok (t, found)
      | _ => .error .isDirectory

/-- Writes at the end of a file. -/
def append (t : FileTree) (place : Location) (content : Bytes) : FileTree :=
  match t.node? place with
  | some (.file held) => t.put place (.file (held ++ content))
  | _ => t

end FileTree

end HealthReport
