/-!
The phases of a test, by which its log records are told apart.
-/
namespace HealthReport

inductive TestPhase where
  | setup
  | execute
  | verify
deriving DecidableEq

namespace TestPhase

def all : List TestPhase := [setup, execute, verify]

def label : TestPhase → String
  | setup => "setup"
  | execute => "execute"
  | verify => "verify"

end TestPhase

end HealthReport
