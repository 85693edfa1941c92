import HealthReport.Catalog
import HealthReport.Files.Tree
import HealthReport.Log.Record
import HealthReport.Report.Basic

/-!
Reading a report from a file, and what can go wrong before any check is made.
-/
namespace HealthReport

/-- Why a file gives no report. -/
inductive LoadFault where
  | notFound (path : Path)
  | unreadable (path : Path) (fault : FileFault)
  | malformed (error : ReadError)
deriving DecidableEq

namespace LoadFault

def code : LoadFault → ErrorCode
  | notFound _ => .reportMissing
  | unreadable _ _ => .readFailed
  | malformed _ => .invalidJson

def message : LoadFault → String
  | notFound path => "file not found: " ++ Path.shown path
  | unreadable path fault => "cannot read " ++ Path.shown path ++ ": " ++ fault.message
  | malformed error => "invalid JSON: " ++ error.message

end LoadFault

/-- What is said about a report that has to exist and does not. -/
def Report.absentMessage (path : Path) : String := "report not found: " ++ Path.shown path

/-- The report in what reading a file gave. Only a file that is not there counts as not found. -/
def Report.ofFile (path : Path) (content : Except FileFault Bytes) : Except LoadFault Report :=
  match content with
  | .error .notFound => .error (.notFound path)
  | .error fault => .error (.unreadable path fault)
  | .ok bytes =>
    match Utf8.decode? bytes with
    | none => .error (.unreadable path .notText)
    | some text =>
      match Report.read text with
      | .ok report => .ok report
      | .error error => .error (.malformed error)

/-- What is logged of a file that gave a report. -/
def Report.loadedRecord (path : Path) (content : Except FileFault Bytes) : Log.Record :=
  let size :=
    match content with
    | .ok bytes => bytes.length
    | .error _ => 0
  ⟨.debug, "melisai_verify::load", "loaded report",
    [("path", .text (Path.shown path)), ("bytes", .count size)]⟩

/-- Reads the report at a path. -/
def FileTree.loadReport (t : FileTree) (path : Path) : Except LoadFault Report :=
  Report.ofFile path (t.read path)

end HealthReport
