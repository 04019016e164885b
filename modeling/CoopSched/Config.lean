/-!
# Configuration

The plain data a scheduler is made from: groups with their processors, task assignments, and
attributes of other threads; and the constants of the scheduler.
-/

namespace CoopSched

/-- Priorities run from 0 to one below this number. -/
def maxPrio : Nat := 20

/-- The group of tasks without an assignment when nothing is configured. -/
def defaultGroupName : String := "default_grp"

/-- The processors of the default group when nobody says how many. -/
def defaultProcNum : Nat := 2

/-- Bytes of stack that each routine gets. -/
def stackSize : Nat := 2 * 1024 * 1024

/-- The longest wait of a processor on its group before it looks again, in microseconds. -/
def groupWaitMicros : Nat := 1000

/-- The pause of a processor that serves no group yet, in microseconds. -/
def unboundParkMicros : Nat := 10000

/-- The bucket count of a directory, as a power of two, if none is asked for. -/
def idLockBits : Nat := 7

/-- The bucket count of the name registry, as a power of two. -/
def taskRegistryBits : Nat := 8

/-- The version of the scheduler. -/
def version : String := "0.3.0"

/-- A task's priority and the group it belongs to; in a document the enclosing group is meant. -/
structure ClassicTask where
  name : String := ""
  prio : Nat := 0
  groupName : String := ""
  deriving DecidableEq, Repr, Inhabited

/-- A group of tasks and the processors that serve it. -/
structure SchedGroup where
  name : String := ""
  processorNum : Nat := 0
  affinity : String := ""
  cpuset : String := ""
  processorPolicy : String := ""
  processorPrio : Int := 0
  tasks : List ClassicTask := []
  deriving DecidableEq, Repr, Inhabited

/-- Placement of a thread that is not a processor. -/
structure InnerThread where
  name : String := ""
  cpuset : String := ""
  policy : String := ""
  prio : Nat := 0
  deriving DecidableEq, Repr, Inhabited

/-- Everything that can be said about a scheduler. -/
structure SchedulerConf where
  policy : String := ""
  routineNum : Nat := 0
  defaultProcNum : Nat := 0
  processLevelCpuset : String := ""
  threads : List InnerThread := []
  groups : List SchedGroup := []
  deriving DecidableEq, Repr, Inhabited

namespace SchedulerConf

/-- The first number that is not zero, else the fixed default. -/
def chooseProcNum (procNum : Nat) : Nat := if procNum = 0 then CoopSched.defaultProcNum else procNum

/-- The topology without a configuration: the default group alone. -/
def defaultTopology (procNum : Nat) : SchedulerConf :=
  { policy := "classic"
    defaultProcNum := chooseProcNum procNum
    groups := [{ name := defaultGroupName, processorNum := chooseProcNum procNum }] }

/-- Is there a group with a name? -/
def hasGroups (conf : SchedulerConf) : Bool := conf.groups.any (!·.name.isEmpty)

/-- The configuration that a scheduler really uses: the given one, or the default topology with its
process-wide settings when no group has a name. -/
def effective (conf : SchedulerConf) : SchedulerConf :=
  if conf.hasGroups then conf
  else
    { defaultTopology conf.defaultProcNum with
      processLevelCpuset := conf.processLevelCpuset
      threads := conf.threads }

end SchedulerConf

/-- Why a document that could be read is refused. -/
inductive ConfFault where
  | groupWithoutName
  | groupWithoutProcessors (group : String)
  | taskWithoutName (group : String) (prio : Nat)
  deriving DecidableEq, Repr

namespace ConfFault

/-- The text shown for a fault. -/
def message : ConfFault → String
  | groupWithoutName => "group without a name"
  | groupWithoutProcessors group => s!"group '{group}' has no processors"
  | taskWithoutName group prio => s!"group '{group}' has a task without a name (prio {prio})"

end ConfFault

/-- The first fault of a group: its name, then its processors, then its first task without a name. -/
def SchedGroup.fault? (g : SchedGroup) : Option ConfFault :=
  if g.name.isEmpty then some .groupWithoutName
  else if g.processorNum = 0 then some (.groupWithoutProcessors g.name)
  else (g.tasks.find? (·.name.isEmpty)).map fun t => .taskWithoutName g.name t.prio

/-- The first fault of a configuration, group by group. -/
def SchedulerConf.fault? (conf : SchedulerConf) : Option ConfFault :=
  conf.groups.findSome? SchedGroup.fault?

end CoopSched
