import CoopSched.Cpuset
import CoopSched.Machine
import CoopSched.Notice
/-!
# Placement of threads

Which processors of the machine a thread may run on, and under which policy of the operating system. The
requests are checked here, and what passes is left to the machine.

What a machine cannot do at all is an `Obstacle`: no thread is started under a name with a null character
or when the machine refuses it, and no list grows past its room.
-/

namespace CoopSched

namespace Placement

/-- Processor numbers from here on do not fit into the machine's sets. -/
def cpuLimit : Nat := 1024

/-- A list of numbers between brackets. -/
def numbersText (ns : List Nat) : String :=
  "[" ++ ", ".intercalate (ns.map toString) ++ "]"

/-- The thread whose nice value is to be set. -/
inductive NiceTarget where
  | unknown
  | numbered (tid : Int)
  deriving DecidableEq, Repr

/-- The thread of a number, if one is given. -/
def NiceTarget.ofTid : Option Int → NiceTarget
  | none => .unknown
  | some tid => .numbered tid

end Placement

/-- Why a call does not come to its end: it panics, or fails for a cause. -/
inductive Obstacle where
  | panic
  | error (cause : Error)
  deriving DecidableEq, Repr

namespace Machine

open Placement

/-- Ask for a set of processors. One that is beyond the limit refuses the request. -/
def pin (m : Machine) (cpus : List Nat) : Except Error Unit :=
  match cpus.find? (cpuLimit ≤ ·) with
  | some cpu => .error (.affinityFailed s!"cpu {cpu} exceeds CPU_SETSIZE {cpuLimit}")
  | none =>
    (m.confine cpus).mapError fun reason =>
      .affinityFailed ("pthread_setaffinity_np(" ++ numbersText cpus ++ "): " ++ reason)

/-- Pin the calling thread. An empty set leaves it alone. -/
def pinCurrent (m : Machine) (cpus : List Nat) : Except Error Unit :=
  if cpus.isEmpty then .ok () else m.pin cpus

/-- Pin the processor with the given index: to the whole set, or to the processor at its index.
An empty set leaves it alone, whatever the mode. -/
def pinProcessor (m : Machine) (cpus : List Nat) (mode : String) (index : Nat) : Except Error Unit :=
  if cpus.isEmpty then .ok ()
  else match mode with
    | "range" => m.pin cpus
    | "1to1" =>
      match cpus[index]? with
      | some cpu => m.pin [cpu]
      | none =>
        .error (.affinityFailed s!"processor {index} has no cpu in a set of {cpus.length}")
    | other => .error (.affinityFailed ("unknown affinity mode " ++ Text.quoted other))

/-- Ask for a scheduling policy of the operating system. The notices are those of the request. -/
def schedPolicy (m : Machine) (policy : String) (prio : Int) (target : NiceTarget) :
    Except Error Unit × List Notice :=
  match policy with
  | "" => (.ok (), [])
  | "SCHED_FIFO" => (realtime .fifo, [])
  | "SCHED_RR" => (realtime .roundRobin, [])
  | "SCHED_OTHER" =>
    match target with
    | .unknown => (.ok (), [.niceSkipped])
    | .numbered tid =>
      ((m.renice tid prio).mapError fun reason =>
        .schedPolicyFailed s!"setpriority(tid {tid}, nice {prio}): {reason}", [])
  | other => (.error (.schedPolicyFailed ("unknown policy " ++ Text.quoted other)), [])
where
  realtime (policy : Realtime) : Except Error Unit :=
    (m.prioritize policy prio).mapError fun reason =>
      .schedPolicyFailed s!"pthread_setschedparam(prio {prio}): {reason}"

/-- What keeps the thread of a processor from being started. A null character in its name is a panic. -/
def threadObstacle? (m : Machine) (name : String) : Option Obstacle :=
  if name.toList.contains '\x00' then some .panic
  else match m.spawn name with
    | .ok _ => none
    | .error reason => some (.error (.threadSpawnFailed s!"processor {name}: {reason}"))

/-- What keeps a cpuset from being read: more numbers than there is room for are a panic. -/
def cpusetObstacle? (m : Machine) (spec : String) : Option Obstacle :=
  if m.room < Cpuset.size spec then some .panic else none

end Machine

end CoopSched
