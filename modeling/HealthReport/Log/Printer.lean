import HealthReport.Json.Printer
import HealthReport.Log.Layout
import HealthReport.Log.Record

/-!
Log records as text. Each layout tells the time of a record; the pretty one and the log file also
tell where in the text of the program it comes from. Neither is a part of the record.
-/
namespace HealthReport

namespace Log

def FieldValue.shown : FieldValue → String
  | .text s => s
  | .count n => toString n
  | .flag b => toString b

def FieldValue.toJson : FieldValue → Json
  | .text s => .string s
  | .count n => Json.ofNat n
  | .flag b => .bool b

/-- A line in a file of the program's text. -/
structure Site where
  file : String
  line : Nat
deriving DecidableEq

/-- What is written with records: the time, and where each of them comes from if that is known. -/
structure Stamp where
  time : String
  site? : Record → Option Site

/-- The time alone, for records whose origin is not known. -/
def Stamp.ofTime (time : String) : Stamp := ⟨time, fun _ => none⟩

instance : Coe String Stamp := ⟨Stamp.ofTime⟩

namespace Record

/-- The characters in the message of a record that could steer a terminal are written by their
number. -/
def escapeChar (c : Char) : List Char :=
  let n := c.toNat
  if n = 0x07 || n = 0x08 || n = 0x0C || n = 0x1B || n = 0x7F then
    ['\\', 'x', hexDigit (n / 16), hexDigit (n % 16)]
  else if 0x80 ≤ n && n ≤ 0x9F then
    ['\\', 'u', '\x7b', hexDigit (n / 16), hexDigit (n % 16), '\x7d']
  else [c]

def escaped (message : String) : String := String.ofList (message.toList.flatMap escapeChar)

/-- The name of the level, as wide as the longest one. -/
def levelColumn (r : Record) : String :=
  String.ofList (List.replicate (5 - r.level.name.toList.length) ' ') ++ r.level.name

/-- One line: time, level, target, message and fields. -/
def compact (stamp : Stamp) (r : Record) : String :=
  stamp.time ++ " " ++ r.levelColumn ++ " " ++ r.target ++ ": " ++ escaped r.message ++
    String.join (r.fields.map fun (name, value) => " " ++ name ++ "=" ++ value.shown) ++ "\n"

/-- The line about the origin of a record. -/
def origin (stamp : Stamp) (r : Record) : String :=
  match stamp.site? r with
  | none => ""
  | some site => "    at " ++ site.file ++ ":" ++ toString site.line ++ "\n"

/-- A line, one about the origin, and an empty one after it. -/
def pretty (stamp : Stamp) (r : Record) : String :=
  "  " ++ stamp.time ++ " " ++ r.levelColumn ++ " " ++ r.target ++ ": " ++ escaped r.message ++
    String.join (r.fields.map fun (name, value) => ", " ++ name ++ ": " ++ value.shown) ++ "\n" ++
    r.origin stamp ++ "\n"

def members (stamp : Stamp) (r : Record) : List (String × Json) :=
  [("timestamp", .string stamp.time), ("level", .string r.level.name),
    ("fields", .object (("message", .string r.message) ::
      r.fields.map fun (name, value) => (name, value.toJson))),
    ("target", .string r.target)]

def originMembers (stamp : Stamp) (r : Record) : List (String × Json) :=
  match stamp.site? r with
  | none => []
  | some site => [("filename", .string site.file), ("line_number", Json.ofNat site.line)]

/-- One document on a line of its own. -/
def json (stamp : Stamp) (r : Record) : String := (Json.object (r.members stamp)).text ++ "\n"

/-- The line of a log file: a document that tells the origin too. -/
def line (stamp : Stamp) (r : Record) : String :=
  (Json.object (r.members stamp ++ r.originMembers stamp)).text ++ "\n"

/-- The record in a layout. -/
def written (stamp : Stamp) (layout : Layout) (r : Record) : String :=
  match layout with
  | .pretty => r.pretty stamp
  | .compact => r.compact stamp
  | .json => r.json stamp

end Record

end Log

end HealthReport
