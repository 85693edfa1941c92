/-!
Log records: what a part of the program says about its work while it does it.
-/
namespace HealthReport

namespace Log

/-- How important a record is, in ascending order. -/
inductive Level where
  | trace
  | debug
  | info
  | warn
  | error
deriving DecidableEq

namespace Level

def all : List Level := [trace, debug, info, warn, error]

def rank : Level → Nat
  | trace => 0
  | debug => 1
  | info => 2
  | warn => 3
  | error => 4

/-- The name in a written record. -/
def name : Level → String
  | trace => "TRACE"
  | debug => "DEBUG"
  | info => "INFO"
  | warn => "WARN"
  | error => "ERROR"

end Level

/-- The value of a field of a record. -/
inductive FieldValue where
  | text (s : String)
  | count (n : Nat)
  | flag (b : Bool)
deriving DecidableEq

/-- A record: its level, the part of the program that it comes from, a message, and named values
in the order in which they are written. -/
structure Record where
  level : Level
  target : String
  message : String
  fields : List (String × FieldValue)
deriving DecidableEq

end Log

end HealthReport
