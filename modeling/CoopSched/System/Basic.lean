import CoopSched.Arena
import CoopSched.Machine
import CoopSched.Notice
import CoopSched.Processor
import CoopSched.Queue
import CoopSched.Scheduler
/-!
# The system

Everything that routines, processors and callers share: the stores of routines, groups, queues and
processors, the scheduler, the clock, the gates, the record of what was said, and the machine.
-/

namespace CoopSched

/-- What a thread said: a line of a body or callback, or a notice of the scheduler. -/
inductive Remark where
  | trace (text : String)
  | notice (n : Notice)
  deriving DecidableEq, Repr

/-- A remark and the thread that made it. -/
structure Entered where
  thread : Thread
  remark : Remark
  deriving DecidableEq, Repr

/-- The shared state. -/
structure System (κ : Type) where
  /-- Milliseconds since the beginning. -/
  now : Nat := 0
  routines : Arena (Routine κ) := {}
  groups : Arena Group := {}
  queues : Arena MessageQueue := {}
  processors : Arena Processor := {}
  labels : Labels := {}
  /-- The gates that a body has come to, and those that were opened. -/
  reachedGates : List String := []
  openGates : List String := []
  scheduler : Option Scheduler := none
  /-- How many schedulers there have been. -/
  schedulers : Nat := 0
  log : Array Entered := #[]
  /-- The machine that all this runs on. -/
  machine : Machine := {}

namespace System

variable {κ : Type}

instance : Inhabited (System κ) := ⟨{}⟩

/-- The routine with a number. -/
def routine (s : System κ) (r : RoutineRef) : Routine κ := s.routines.get r

/-- The group with a number. -/
def group (s : System κ) (g : GroupRef) : Group := s.groups.get g

/-- The queue with a number. -/
def queue (s : System κ) (q : QueueRef) : MessageQueue := s.queues.get q

/-- The processor with a number. -/
def processor (s : System κ) (p : Nat) : Processor := s.processors.get p

/-- Change a routine. -/
def modifyRoutine (s : System κ) (r : RoutineRef) (f : Routine κ → Routine κ) : System κ :=
  { s with routines := s.routines.modify r f }

/-- Change a group. -/
def modifyGroup (s : System κ) (g : GroupRef) (f : Group → Group) : System κ :=
  { s with groups := s.groups.modify g f }

/-- Change a queue. -/
def modifyQueue (s : System κ) (q : QueueRef) (f : MessageQueue → MessageQueue) : System κ :=
  { s with queues := s.queues.modify q f }

/-- Change a processor. -/
def modifyProcessor (s : System κ) (p : Nat) (f : Processor → Processor) : System κ :=
  { s with processors := s.processors.modify p f }

/-- Change the scheduler, if there is one. -/
def modifyScheduler (s : System κ) (f : Scheduler → Scheduler) : System κ :=
  { s with scheduler := s.scheduler.map f }

/-- A new routine, ready to run. -/
def addRoutine (s : System κ) (id : UInt64) (name : String) (work : Work κ) :
    System κ × RoutineRef :=
  ({ s with routines := s.routines.add { id, name, work, wakeAt := s.now } }, s.routines.size)

/-- A new group. -/
def addGroup (s : System κ) (name : String) : System κ × GroupRef :=
  ({ s with groups := s.groups.add { name } }, s.groups.size)

/-- A new queue. -/
def addQueue (s : System κ) : System κ × QueueRef :=
  ({ s with queues := s.queues.add {} }, s.queues.size)

/-- A new processor without a thread. -/
def addProcessor (s : System κ) (name : String) : System κ × Nat :=
  ({ s with processors := s.processors.add { name } }, s.processors.size)

/-- Record a remark. -/
def record (s : System κ) (t : Thread) (remark : Remark) : System κ :=
  { s with log := s.log.push ⟨t, remark⟩ }

/-- Record a line of a body or callback. -/
def trace (s : System κ) (t : Thread) (text : String) : System κ := s.record t (.trace text)

/-- Record a notice. -/
def report (s : System κ) (t : Thread) (n : Notice) : System κ := s.record t (.notice n)

/-- Record notices in order. -/
def reportAll (s : System κ) (t : Thread) (ns : List Notice) : System κ :=
  ns.foldl (fun s n => s.report t n) s

/-- The live ids of a scheduler, in the order in which its table is gone through on this machine. -/
def listed (s : System κ) (sched : Scheduler) : List UInt64 :=
  sched.tasks.listed (s.machine.listing sched.serial)

/-- Let time pass. -/
def elapse (s : System κ) (millis : Nat) : System κ := { s with now := s.now + millis }

theorem routine_modifyRoutine (s : System κ) (r q : RoutineRef) (f : Routine κ → Routine κ) :
    (s.modifyRoutine r f).routine q =
      if r = q ∧ q < s.routines.size then f (s.routine q) else s.routine q :=
  Arena.get_modify ..

theorem group_modifyGroup (s : System κ) (g h : GroupRef) (f : Group → Group) :
    (s.modifyGroup g f).group h =
      if g = h ∧ h < s.groups.size then f (s.group h) else s.group h :=
  Arena.get_modify ..

theorem queue_modifyQueue (s : System κ) (p q : QueueRef) (f : MessageQueue → MessageQueue) :
    (s.modifyQueue p f).queue q =
      if p = q ∧ q < s.queues.size then f (s.queue q) else s.queue q :=
  Arena.get_modify ..

@[simp] theorem group_modifyRoutine (s : System κ) (r : RoutineRef) (f : Routine κ → Routine κ) :
    (s.modifyRoutine r f).group = s.group := rfl

@[simp] theorem queue_modifyRoutine (s : System κ) (r : RoutineRef) (f : Routine κ → Routine κ) :
    (s.modifyRoutine r f).queue = s.queue := rfl

@[simp] theorem routine_modifyGroup (s : System κ) (g : GroupRef) (f : Group → Group) :
    (s.modifyGroup g f).routine = s.routine := rfl

@[simp] theorem queue_modifyGroup (s : System κ) (g : GroupRef) (f : Group → Group) :
    (s.modifyGroup g f).queue = s.queue := rfl

@[simp] theorem routine_modifyQueue (s : System κ) (q : QueueRef)
    (f : MessageQueue → MessageQueue) : (s.modifyQueue q f).routine = s.routine := rfl

@[simp] theorem group_modifyQueue (s : System κ) (q : QueueRef)
    (f : MessageQueue → MessageQueue) : (s.modifyQueue q f).group = s.group := rfl

@[simp] theorem routine_report (s : System κ) (t : Thread) (n : Notice) :
    (s.report t n).routine = s.routine := rfl

@[simp] theorem group_report (s : System κ) (t : Thread) (n : Notice) :
    (s.report t n).group = s.group := rfl

end System

end CoopSched
