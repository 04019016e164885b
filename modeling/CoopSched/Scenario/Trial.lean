import CoopSched.Scenario.World
/-!
# Trials of a single processor

One processor and one group without a scheduler around them.
-/

namespace CoopSched.Scenario

/-- A step of a trial. -/
inductive TrialStep where
  | name
  | bind
  | running
  | thread
  | handle
  | stop
  | group
  | snapshot
  | notify
  | run
  | stopFromWithin
  | describe
  deriving DecidableEq, Repr

/-- A processor and a group. -/
structure Trial where
  system : System Script
  processor : Nat
  group : GroupRef

namespace Trial

/-- A new processor and a new group. -/
def new (processorName groupName : String) : Trial :=
  let (system, group) := System.addGroup clean groupName
  let (system, processor) := system.addProcessor processorName
  { system, processor, group }

/-- The processor as it is. -/
def look (t : Trial) : Processor := t.system.processor t.processor

/-- Let the processor run a new routine, which begins with some actions, says that it ran, and waits for
data. The answer is whether it ran, and its state. -/
def run (t : Trial) (actions : List Action) : Trial × Value :=
  let said := "ran"
  let body := actions ++ [.log said, .pause (.become .dataWait)]
  let place := t.system.log.size
  let (s, r) := t.system.addRoutine 0 said (.body (Script.ofActions body))
  let s := ((s.enqueue t.group r).modifyGroup t.group Group.notify).rest
  ({ t with system := s },
    .list [.flag ((tracesSince place s.log).contains said), .text (s.routine r).state.label])

/-- One step of a trial. -/
def step (t : Trial) : TrialStep → Trial × Value
  | .name => (t, .text t.look.name)
  | .bind =>
    let (p, bound) := t.look.bind t.group
    ({ t with system := (t.system.modifyProcessor t.processor fun _ => p).rest }, .flag bound)
  | .running => (t, .flag t.look.running)
  | .thread => (t, if t.look.hasThread then .flag true else .null)
  | .handle => (t, .flag t.look.hasThread)
  | .stop =>
    let t := { t with system := (t.system.stopProcessor .main t.processor).rest }
    (t, .flag t.look.running)
  | .group =>
    let g := t.system.group t.group
    (t, .list [.nat g.size, .flag g.stopped, .text g.name])
  | .snapshot =>
    (t, .list [.flag (!t.look.busy), .flag t.look.hasThread, .text t.look.lastRoutine])
  | .notify => ({ t with system := (t.system.modifyGroup t.group Group.notify).rest }, .null)
  | .run => t.run []
  | .stopFromWithin => t.run [.stopProcessor]
  | .describe => (t, .text t.look.describe)

/-- Take the steps of a trial in order. -/
def play (t : Trial) : List TrialStep → List Value
  | [] => []
  | step :: rest =>
    let (t, value) := t.step step
    value :: t.play rest

end Trial

end CoopSched.Scenario
