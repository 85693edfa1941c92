/-!
The scenarios: the failure modes whose signature a report is checked for.
-/
namespace HealthReport

inductive Scenario where
  | cpuBurn
  | memoryPressure
  | diskFlood
  | forkStorm
  | runqSaturation
  | tcpRetrans
  | combined
  | observerEffect
deriving DecidableEq

namespace Scenario

def all : List Scenario :=
  [cpuBurn, memoryPressure, diskFlood, forkStorm, runqSaturation, tcpRetrans, combined,
    observerEffect]

def name : Scenario → String
  | cpuBurn => "cpu_burn"
  | memoryPressure => "memory_pressure"
  | diskFlood => "disk_flood"
  | forkStorm => "fork_storm"
  | runqSaturation => "runq_saturation"
  | tcpRetrans => "tcp_retrans"
  | combined => "combined"
  | observerEffect => "observer_effect"

/-- The scenario with exactly this name. -/
def ofName? (name : String) : Option Scenario := all.find? (·.name == name)

def sortedNames : List String := (all.map name).mergeSort fun a b => decide (a ≤ b)

/-- What is said about a name that no scenario has. -/
def unknownMessage (name : String) : String :=
  "unknown test '" ++ name ++ "'. Available: " ++ ", ".intercalate sortedNames

theorem ofName?_name (s : Scenario) : ofName? s.name = some s := by
  cases s <;> decide

end Scenario

end HealthReport
