import HealthReport.Files.Tree

/-!
Log files. A path is split into a directory, which is made if it is missing, and the name of the
file, which has to be text.
-/
namespace HealthReport

namespace Log

/-- Why there is no log file. -/
inductive FileProblem where
  | noName (path : Path)
  | directory (above : Path) (fault : FileFault)
  | file (path : Path) (fault : FileFault)
deriving DecidableEq

def FileProblem.message : FileProblem → String
  | .noName path => "log file path has no file name: " ++ Path.shown path
  | .directory above fault =>
    "failed to create log directory " ++ Path.shown above ++ ": " ++ fault.message
  | .file path fault =>
    "failed to open log file " ++ Path.shown path ++ ": failed to create log file: " ++
      fault.message ++ ": " ++ fault.message

/-- The directory of a log file and its name. A path without a directory means the working
directory. -/
def splitPath? (path : Path) : Option (Path × Bytes) :=
  match Path.fileName? path with
  | none => none
  | some name =>
    if (Utf8.decode? name).isNone then none
    else match Path.parent? path with
      | none => some (Path.dot, name)
      | some above => some (if above = [] then Path.dot else above, name)

/-- Opens a log file. What has been made on the way stays also where the file cannot be opened. -/
def openFile (t : FileTree) (path : Path) : FileTree × Except FileProblem Location :=
  match splitPath? path with
  | none => (t, .error (.noName path))
  | some (directory, name) =>
    match t.makeAll directory with
    | (made, some fault) => (made, .error (.directory directory fault))
    | (made, none) =>
      match made.openAppend (Path.join directory name) with
      | .error fault => (made, .error (.file path fault))
      | .ok (final, place) => (final, .ok place)

end Log

end HealthReport
