import CoopSched.Scenario.Answer
import CoopSched.Scenario.Machine
import CoopSched.Scenario.Step
import CoopSched.System.Service
import CoopSched.System.Startup
/-!
# The world of a scenario

A system together with the names under which a scenario keeps things, and what it has shown so far.
-/

namespace CoopSched.Scenario

/-- The state of a scenario. -/
structure World where
  system : System Script := clean
  /-- Did the latest scheduler come with processors, so that only settled states are shown? -/
  threaded : Bool := false
  groups : List (String × GroupRef) := []
  factories : List (String × Factory Script) := []
  roster : Option Roster := none
  /-- How much of the record was gone through for lines of bodies on other threads. -/
  shown : Nat := 0

/-- A computation on a world that may turn out to be a bad step. -/
abbrev Play := StateT World (Except BadStep)

namespace Play

/-- Give up the step. -/
def fail {α : Type} (b : BadStep) : Play α := fun _ => .error b

/-- Look at the system. -/
def system : Play (System Script) := fun w => .ok (w.system, w)

/-- Replace the system. -/
def put (s : System Script) : Play Unit := fun w => .ok ((), { w with system := s })

/-- Change the system. -/
def change (f : System Script → System Script) : Play Unit := fun w =>
  .ok ((), { w with system := f w.system })

/-- Change the system and get an answer. -/
def call {α : Type} (f : System Script → System Script × α) : Play α := fun w =>
  let (s, a) := f w.system
  .ok (a, { w with system := s })

/-- The routine of a name. -/
def routine (label : String) : Play RoutineRef := do
  match (← system).labels.routine? label with
  | some r => pure r
  | none => fail .noSuchRoutine

/-- The group of a name. -/
def group (label : String) : Play GroupRef := do
  match (← get).groups.lookup label with
  | some g => pure g
  | none => fail .noSuchGroup

/-- The queue of a name. -/
def queue (label : String) : Play QueueRef := do
  match (← system).labels.queue? label with
  | some q => pure q
  | none => fail .noSuchQueue

/-- The factory of a name. -/
def factory (label : String) : Play (Factory Script) := do
  match (← get).factories.lookup label with
  | some f => pure f
  | none => fail .noSuchFactory

/-- The scheduler. -/
def scheduler : Play Scheduler := do
  match (← system).scheduler with
  | some sched => pure sched
  | none => fail .noScheduler

/-- The groups by name: those of the scheduler, else those the scenario made itself. -/
def roster : Play Roster := do
  match (← system).scheduler, (← get).roster with
  | some sched, _ => pure sched.roster
  | none, some roster => pure roster
  | none, none => fail .noRoster

/-- Keep a routine under a name. -/
def labelRoutine (label : String) (r : RoutineRef) : Play Unit :=
  change fun s => { s with labels := s.labels.setRoutine label r }

/-- Keep a group under a name. -/
def labelGroup (label : String) (g : GroupRef) : Play Unit :=
  modify fun w => { w with groups := (label, g) :: w.groups.filter (·.1 != label) }

/-- The id of a task. -/
def idOf : TaskKey → UInt64
  | .name task => taskId task
  | .id value => value

end Play

/-- The four marks of a routine that are shown after a step about it. -/
def routineMarks (x : Routine Script) : Value :=
  .list [.text x.state.label, .flag x.isHeld, .flag x.stopped, .flag x.recheck]

/-- The four marks of a group that are shown after a step about it. -/
def groupMarks (g : Group) : Value :=
  .list [.nat g.size, .flag g.isEmpty, .nat g.pending, .flag g.stopped]

/-- All that is shown about a routine. With processors around, who holds it is left open. -/
def routineInfo (threaded : Bool) (x : Routine Script) : Value :=
  .record [
    ("id", .nat x.id.toNat), ("name", .text x.name), ("group", .text x.group),
    ("prio", .nat x.priority), ("state", .text x.state.label), ("waiting", .flag x.state.isWaiting),
    ("acquired", if threaded then .null else .flag x.isHeld), ("stopped", .flag x.stopped),
    ("recheck", .flag x.recheck)]

/-- The description of a roster with a single group. -/
def describeRoster (s : System Script) (r : Roster) : String :=
  match r.groups with
  | [(name, g)] =>
    "SchedulerRuntime \x7b groups: \x7b" ++ Text.quoted name ++ ": " ++ (s.group g).describe ++
      "\x7d, default_group: " ++ (s.group r.default).describe ++ " \x7d"
  | _ => "many"

/-- The lines that the main thread said since some place of the record. Where processors are at work,
what groups report is left out, for it depends on their timing. -/
def eventsSince (threaded : Bool) (place : Nat) (log : Array Entered) : List String :=
  (log.extract place log.size).toList.filterMap fun e =>
    match e.thread, e.remark with
    | .main, .trace text => some text
    | .main, .notice n => if threaded && n.origin == "ready-group" then none else some n.line
    | _, _ => none

/-- The lines that bodies said on other threads since some place of the record. -/
def tracesSince (place : Nat) (log : Array Entered) : List String :=
  (log.extract place log.size).toList.filterMap fun e =>
    match e.thread, e.remark with
    | .main, _ => none
    | _, .trace text => some text
    | _, _ => none

end CoopSched.Scenario
