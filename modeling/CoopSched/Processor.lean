import CoopSched.Body
import CoopSched.Text.Quoted
/-!
# Processors

A processor is a thread that serves one group: it looks for a routine, resumes it, releases it, and
looks again; when there is nothing to run it waits on the group. It ends when it finds that it was
stopped.
-/

namespace CoopSched

/-- Where the loop of a processor stands. -/
inductive Phase where
  /-- The thread has not been started. -/
  | unborn
  /-- About to see whether to go on, and then to look for a routine. -/
  | scanning
  /-- It holds a routine and is about to resume it. -/
  | holding (routine : RoutineRef)
  /-- It is in the middle of a turn of the routine. -/
  | running (routine : RoutineRef)
  /-- The resumed routine has given up its turn and is about to be released. -/
  | resumed (routine : RoutineRef)
  /-- It found nothing and is about to wait. -/
  | waiting
  /-- The loop has ended. -/
  | ended
  deriving DecidableEq, Repr

/-- A processor. -/
structure Processor where
  name : String := ""
  /-- The group it serves, bound once. -/
  group : Option GroupRef := none
  running : Bool := true
  /-- The thread was started and not yet given back. -/
  hasThread : Bool := false
  phase : Phase := .unborn
  /-- Did its last look find a routine? Then it counts as busy until the next one. -/
  busy : Bool := false
  /-- The name of the routine it found last. -/
  lastRoutine : String := ""
  deriving Repr, Inhabited

namespace Processor

/-- Bind a group and start the thread. Refused if a group was bound before. -/
def bind (p : Processor) (g : GroupRef) : Processor × Bool :=
  match p.group with
  | some _ => (p, false)
  | none => ({ p with group := some g, hasThread := true, phase := .scanning }, true)

/-- Let the loop end when it next comes round. -/
def halt (p : Processor) : Processor := { p with running := false }

/-- Give the thread back. -/
def giveBack (p : Processor) : Processor := { p with hasThread := false }

/-- Take up a routine that was found. -/
def take (p : Processor) (r : RoutineRef) (name : String) : Processor :=
  { p with phase := .holding r, busy := true, lastRoutine := name }

/-- Nothing was found: wait. -/
def idle (p : Processor) : Processor := { p with phase := .waiting, busy := false }

/-- End the loop. -/
def finish (p : Processor) : Processor := { p with phase := .ended, busy := false }

/-- The name of the routine it is busy with. -/
def busyWith? (p : Processor) : Option String := if p.busy then some p.lastRoutine else none

/-- The text shown for a processor without a thread. -/
def describe (p : Processor) : String :=
  "Processor \x7b name: " ++ Text.quoted p.name ++ ", running: " ++ toString p.running ++
    ", tid: -1 \x7d"

end Processor

end CoopSched
