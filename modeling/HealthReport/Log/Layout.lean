import HealthReport.Text.Case

/-!
The layouts in which log records are written to the standard error stream.
-/
namespace HealthReport

namespace Log

inductive Layout where
  | pretty
  | compact
  | json
deriving DecidableEq

namespace Layout

def all : List Layout := [pretty, compact, json]

def label : Layout → String
  | pretty => "pretty"
  | compact => "compact"
  | json => "json"

/-- The layout with exactly this label. -/
def ofLabel? (label : String) : Option Layout := all.find? (·.label == label)

/-- The layout that a text names, in any case. -/
def ofText? (text : String) : Option Layout := ofLabel? (lowercase text)

/-- The layout that is used unless another is asked for. -/
def standard : Layout := compact

/-- What is said about a text that names no layout. -/
def unknownMessage (text : String) : String := "unknown log format '" ++ lowercase text ++ "'"

end Layout

end Log

end HealthReport
