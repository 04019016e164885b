import CoopSched.Config.Loading
import CoopSched.Placement
import CoopSched.System.Tasks
/-!
# Start of a scheduler

A scheduler is made from a configuration: its groups, its processors, and the placement of both. A placement
that the machine refuses is reported and left undone; it does not keep the scheduler from starting.

An `Obstacle` does: a processor without a thread, or a cpuset that does not fit into memory. Nothing is left
of such a start, so that the first obstacle can be looked for beforehand (`obstacle?`). `startScheduler` is
what a start comes to without one.
-/

namespace CoopSched.System

variable {κ : Type}

/-- One group for each of the names, and the roster of them. -/
def addRoster (s : System κ) (names : List String) : System κ × Roster :=
  let (s, groups) := (Roster.namesOf names).foldl (fun (s, groups) name =>
    let (s, g) := s.addGroup name
    (s, groups ++ [(name, g)])) (s, [])
  (s, { groups, default := (groups.head?.map (·.2)).getD 0 })

/-- A notice for a refused placement. -/
def reportRefusal (s : System κ) (t : Thread) (processor : String) (outcome : Except Error Unit) :
    System κ :=
  match outcome with
  | .ok _ => s
  | .error cause => s.report t (.placementRefused processor cause)

/-- The name of a processor of a group. -/
def processorName (group : String) (index : Nat) : String := s!"{group}-{index}"

/-- Start one processor of a group. -/
def startProcessor (s : System κ) (t : Thread) (conf : SchedGroup) (cpus : List Nat) (g : GroupRef)
    (index : Nat) : System κ × Nat :=
  let name := processorName conf.name index
  let (s, p) := s.addProcessor name
  let s := s.modifyProcessor p fun x => (x.bind g).1
  let s := s.reportRefusal t name (s.machine.pinProcessor cpus conf.affinity index)
  let (outcome, notices) :=
    s.machine.schedPolicy conf.processorPolicy conf.processorPrio (.numbered (s.machine.tid p))
  ((s.reportAll t notices).reportRefusal t name outcome, p)

/-- Start the processors of a group. A cpuset that cannot be read counts as empty. -/
def startProcessors (s : System κ) (t : Thread) (roster : Roster) (conf : SchedGroup) :
    System κ × List Nat :=
  let g := roster.findOrDefault conf.name
  let (s, cpus) := match Cpuset.parse conf.cpuset with
    | .ok cpus => (s, cpus)
    | .error cause => (s.report t (.groupCpusetRefused conf.name cause), [])
  (List.range conf.processorNum).foldl (fun (s, started) index =>
    let (s, p) := s.startProcessor t conf cpus g index
    (s, started ++ [p])) (s, [])

/-- Pin the calling thread to the processors of the whole process. -/
def pinProcess (m : Machine) (spec : String) : Except Error Unit := do
  m.pinCurrent (← Cpuset.parse spec)

/-- Make the scheduler of a configuration and start its processors, if there is no obstacle. -/
def startScheduler (s : System κ) (t : Thread) (given : SchedulerConf) : System κ :=
  let s := if given.hasGroups then s else s.report t .noGroups
  let conf := given.effective
  let s := s.reportAll t (Policy.notices conf)
  let policy := Policy.ofConf conf
  let (s, roster) := s.addRoster (policy.groups.map (·.name))
  let s := if conf.processLevelCpuset.isEmpty then s
    else match pinProcess s.machine conf.processLevelCpuset with
      | .ok _ => s
      | .error cause => s.report t (.processCpusetRefused cause)
  let (s, processors) := policy.groups.foldl (fun (s, started) group =>
    let (s, more) := s.startProcessors t roster group
    (s, started ++ more)) (s, [])
  let s := s.report t (.started policy.name processors.length conf.routineNum)
  { s with
    scheduler := some {
      serial := s.schedulers
      policy
      roster
      processors
      innerThreads := conf.threads.map fun x => (x.name, x)
      processCpuset := conf.processLevelCpuset }
    schedulers := s.schedulers + 1 }

/-- The first obstacle to the start of a group, in the order of the start. -/
def groupObstacle? (m : Machine) (conf : SchedGroup) : Option Obstacle :=
  (m.cpusetObstacle? conf.cpuset).or
    ((List.range conf.processorNum).findSome? fun index =>
      m.threadObstacle? (processorName conf.name index))

/-- The first obstacle to the start of a configuration, in the order of the start. -/
def obstacle? (m : Machine) (conf : SchedulerConf) : Option Obstacle :=
  (if conf.processLevelCpuset.isEmpty then none else m.cpusetObstacle? conf.processLevelCpuset).or
    (conf.groups.findSome? (groupObstacle? m))

/-- Make the scheduler of a configuration, unless there is an obstacle. -/
def start (s : System κ) (t : Thread) (given : SchedulerConf) : Except Obstacle (System κ) :=
  match obstacle? s.machine given.effective with
  | some obstacle => .error obstacle
  | none => .ok (s.startScheduler t given)

/-- Make a scheduler from the configuration at a path, or the default topology if there is none. The
number of processors of the default group comes from the document, else from the caller. -/
def startFromFile (s : System κ) (t : Thread) (read : Config.Reader) (path : String)
    (file : Config.File) (procNum : Nat) : Except Obstacle (System κ) :=
  match Config.loadFile read path file with
  | .ok conf =>
    let defaultProcNum := if conf.defaultProcNum = 0 then procNum else conf.defaultProcNum
    (s.report t (.confLoaded path)).start t { conf with defaultProcNum }
  | .error cause =>
    (s.report t (.confRefused cause)).start t (SchedulerConf.defaultTopology procNum)

/-- Give a thread that is not a processor the attributes of its name. -/
def placeInnerThread (s : System κ) (t : Thread) (name : String) : System κ × Except Error Unit :=
  match s.scheduler.bind (·.innerThread? name) with
  | none => (s.report t (.noThreadAttributes name), .ok ())
  | some conf =>
    match Cpuset.parse conf.cpuset with
    | .error cause => (s, .error cause)
    | .ok cpus =>
      match s.machine.pinProcessor cpus "range" 0 with
      | .error cause => (s, .error cause)
      | .ok _ =>
        let prio := (Int32.ofNat conf.prio).toInt
        let (outcome, notices) := s.machine.schedPolicy conf.policy prio .unknown
        (s.reportAll t notices, outcome)

/-- Pin the calling thread as the configuration says for the whole process. -/
def placeProcess (s : System κ) : Except Error Unit :=
  pinProcess s.machine ((s.scheduler.map (·.processCpuset)).getD "")

/-- Shut the scheduler down and forget it. -/
def dropScheduler (s : System κ) (t : Thread) : System κ :=
  { s.shutdown t with scheduler := none }

end CoopSched.System
