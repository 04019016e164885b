import CoopSched.System.Basic
/-!
# Notifications and arrivals

How a task learns that it should look again: its recheck flag is put up if it waits, and a processor
of its group is told. The arrival callback of a queue does the same for the task that reads it.
-/

namespace CoopSched.System

variable {κ : Type}

/-- Put up the recheck flag of a routine that waits. -/
def flagIfWaiting (s : System κ) (r : RoutineRef) : System κ :=
  if (s.routine r).state.isWaiting then s.modifyRoutine r Routine.requestRecheck else s

/-- Tell the processors of the group of a name. The answer is whether there is such a group. -/
def notifyGroupNamed (s : System κ) (roster : Roster) (name : String) : System κ × Bool :=
  match roster.find? name with
  | some g => (s.modifyGroup g Group.notify, true)
  | none => (s, false)

/-- Notify a live task. After a shutdown this succeeds and does nothing; an unknown id is refused. -/
def notifyProcessor (s : System κ) (id : UInt64) : System κ × Bool :=
  match s.scheduler with
  | none => (s, false)
  | some sched =>
    if sched.stopped then (s, true)
    else match sched.tasks.find? id with
      | none => (s, false)
      | some r =>
        let s := s.flagIfWaiting r
        ((s.notifyGroupNamed sched.roster (s.routine r).group).1, true)

/-- Notify a task by its id. -/
def notifyTask (s : System κ) (id : UInt64) : System κ × Bool :=
  match s.scheduler with
  | none => (s, false)
  | some sched => if sched.stopped then (s, true) else s.notifyProcessor id

/-- One step of an arrival callback. A notification for a scheduler that is gone does nothing. -/
def announce (s : System κ) (t : Thread) : Announcement → System κ
  | .trace text => s.trace t text
  | .recheck r => s.modifyRoutine r Routine.requestRecheck
  | .notifyGroup g => s.modifyGroup g Group.notify
  | .notifyTask serial id =>
    if s.scheduler.any (·.serial == serial) then (s.notifyProcessor id).1 else s

/-- Run the arrival callback of a queue. -/
def fireCallback (s : System κ) (t : Thread) (q : QueueRef) : System κ :=
  ((s.queue q).callback.getD []).foldl (fun s a => s.announce t a) s

/-- Put a message into a queue and announce it. -/
def push (s : System κ) (t : Thread) (q : QueueRef) (message : Int) : System κ :=
  (s.modifyQueue q (·.push message)).fireCallback t q

/-- Take the oldest message out of a queue. -/
def fetch (s : System κ) (q : QueueRef) : System κ × Option Int :=
  (s.modifyQueue q fun x => x.pop.1, (s.queue q).pop.2)

end CoopSched.System
