import CoopSched.System.Arrival
import CoopSched.System.Selection
/-!
# Tasks

Creating, dispatching and removing tasks, and shutting a scheduler down. A task is dispatched in three
steps: its id is claimed in the table, it is placed in a group at a priority, and it is queued there.
-/

namespace CoopSched.System

variable {κ : Type}

/-- Enter a routine in the table of live tasks. Refused if its id is live. -/
def claim (s : System κ) (sched : Scheduler) (r : RoutineRef) : System κ × Bool :=
  let id := (s.routine r).id
  if sched.tasks.contains id then (s, false)
  else (s.modifyScheduler fun sched => { sched with tasks := sched.tasks.insert id r }, true)

/-- Give a routine the priority and group of its task entry, or the default group if it has none. -/
def assign (s : System κ) (policy : Policy) (r : RoutineRef) : System κ :=
  match policy.assignment? (s.routine r).name with
  | some task =>
    s.modifyRoutine r fun x => { x with priority := task.prio, group := task.groupName }
  | none => s.modifyRoutine r fun x => { x with group := policy.defaultGroup }

/-- Lower a priority that is out of range to the highest one. -/
def clampPriority (s : System κ) (t : Thread) (r : RoutineRef) : System κ :=
  let x := s.routine r
  if maxPrio ≤ x.priority then
    (s.report t (.priorityClamped x.name x.priority (maxPrio - 1))).modifyRoutine r
      fun x => { x with priority := maxPrio - 1 }
  else s

/-- The group a routine goes to. If nothing has the name it carries, that is the default group,
whose name it then carries. -/
def settleGroup (s : System κ) (t : Thread) (roster : Roster) (r : RoutineRef) :
    System κ × GroupRef :=
  let g := roster.findOrDefault (s.routine r).group
  let used := (s.group g).name
  if used = (s.routine r).group then (s, g)
  else
    let x := s.routine r
    ((s.report t (.unknownGroup x.name x.group used)).modifyRoutine r
      fun x => { x with group := used }, g)

/-- Place a routine whose id is claimed, queue it in its group and tell a processor. -/
def place (s : System κ) (t : Thread) (sched : Scheduler) (r : RoutineRef) : System κ :=
  let s := (s.assign sched.policy r).clampPriority t r
  let (s, g) := s.settleGroup t sched.roster r
  (s.enqueue g r).modifyGroup g Group.notify

/-- Make a routine a live task. Refused after a shutdown, and if its id is live. -/
def dispatch (s : System κ) (t : Thread) (r : RoutineRef) : System κ × Bool :=
  match s.scheduler with
  | none => (s, false)
  | some sched =>
    if sched.stopped then (s, false)
    else match s.claim sched r with
      | (s, false) => (s.report t (.alreadyDispatched (s.routine r).name), false)
      | (s, true) => (s.place t sched r, true)

/-- Create a task with something to do. The arrivals of a source announce work for it, in place of
whatever they announced before. -/
def createTask (s : System κ) (t : Thread) (work : Work κ) (name : String)
    (source : Option QueueRef) : System κ × Bool :=
  match s.scheduler with
  | none => (s, false)
  | some sched =>
    if sched.stopped then (s.report t (.createAfterStop name), false)
    else
      let (names, id) := sched.names.register name
      let s := s.modifyScheduler fun sched => { sched with names }
      let (s, r) := s.addRoutine id name work
      match (s.report t (.creating name)).dispatch t r with
      | (s, false) => (s, false)
      | (s, true) =>
        match source with
        | none => (s, true)
        | some q => (s.modifyQueue q (·.install [.notifyTask sched.serial id]), true)

/-- Create a task from a factory. -/
def createFrom (s : System κ) (t : Thread) (f : Factory κ) (name : String) : System κ × Bool :=
  s.createTask t f.work name f.source

/-- Remove a live task by its id: out of the table, stopped, and out of its group. -/
def removeById (s : System κ) (t : Thread) (id : UInt64) : System κ × Removal :=
  match s.scheduler with
  | none => (s, .absent)
  | some sched =>
    match sched.tasks.find? id with
    | none => (s, .absent)
    | some r =>
      let s := s.modifyScheduler fun sched => { sched with tasks := sched.tasks.erase id }
      let s := s.modifyRoutine r Routine.stop
      s.removeRoutine t (sched.roster.findOrDefault (s.routine r).group) r

/-- Remove a task by its name. After a shutdown this succeeds and does nothing. -/
def removeTask (s : System κ) (t : Thread) (name : String) : System κ × Removal :=
  match s.scheduler with
  | none => (s, .absent)
  | some sched => if sched.stopped then (s, .removed) else s.removeById t (taskId name)

/-- Ask a processor to stop: its group is stopped with it, and its thread is given back. A thread does
not wait for its own end. -/
def stopProcessor (s : System κ) (t : Thread) (p : Nat) : System κ :=
  let x := s.processor p
  if !x.running then s
  else
    let s := s.modifyProcessor p Processor.halt
    let s := match x.group with
      | some g => s.modifyGroup g Group.shutdown
      | none => s
    let s := s.modifyProcessor p Processor.giveBack
    if x.hasThread && t = .processor p then s.report t (.stoppedFromOwnThread x.name) else s

/-- Stop the groups that processors serve. -/
def stopServedGroups (s : System κ) (processors : List Nat) : System κ :=
  (processors.filterMap fun p => (s.processor p).group).foldl
    (fun s g => s.modifyGroup g Group.shutdown) s

/-- Shut the scheduler down: raise the stop, stop the served groups, remove every live task in the order of
the table, stop the processors. A second time nothing happens. -/
def shutdown (s : System κ) (t : Thread) : System κ :=
  match s.scheduler with
  | none => s
  | some sched =>
    if sched.stopped then s
    else
      let ids := s.listed sched
      let s := s.modifyScheduler fun sched => { sched with stopped := true }
      let s := (s.report t .shuttingDown).stopServedGroups sched.processors
      let s := ids.foldl (fun s id => (s.removeById t id).1) s
      let s := s.modifyScheduler fun sched => { sched with processors := [] }
      sched.processors.foldl (fun s p => s.stopProcessor t p) s

/-- The live routine of an id. -/
def task? (s : System κ) (id : UInt64) : Option RoutineRef :=
  s.scheduler.bind (·.tasks.find? id)

end CoopSched.System
