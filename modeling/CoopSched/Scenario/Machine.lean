import CoopSched.Placement
import CoopSched.System.Basic
/-!
# The machine of the scenarios

Scenarios are played on one machine: four processors, and every placement that its limits allow. Its answers
are values of the parameter that the rest of the library leaves open.
-/

namespace CoopSched

namespace Placement

/-- The processors that a scenario may use. -/
def allowedCpus : List Nat := [0, 1, 2, 3]

/-- The largest real-time priority; the smallest is 1. -/
def maxRealtimePrio : Int := 99

/-- The machine of the scenarios. Thread numbers are not shown in them, so that its processors go by zero,
the number of the calling thread; no other number given belongs to a living thread. -/
def machine : Machine where
  tid _ := 0
  confine cpus :=
    if cpus.any allowedCpus.contains then .ok () else .error "Invalid argument (os error 22)"
  prioritize _ prio :=
    if 1 ≤ prio ∧ prio ≤ maxRealtimePrio then .ok () else .error "Invalid argument (os error 22)"
  renice tid _ := if tid = 0 then .ok () else .error "No such process (os error 3)"
  room := 100000000

/-- Pin the calling thread of a scenario. -/
def pinCurrent (cpus : List Nat) : Except Error Unit := machine.pinCurrent cpus

/-- Pin a processor of a scenario. -/
def pinProcessor (cpus : List Nat) (mode : String) (index : Nat) : Except Error Unit :=
  machine.pinProcessor cpus mode index

/-- Ask for a scheduling policy in a scenario. -/
def schedPolicy (policy : String) (prio : Int) (target : NiceTarget) : Except Error Unit × List Notice :=
  machine.schedPolicy policy prio target

end Placement

namespace Scenario

/-- The system at the beginning of a scenario. -/
def clean {κ : Type} : System κ := { machine := Placement.machine }

end Scenario

end CoopSched
