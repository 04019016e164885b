import CoopSched.Config
import CoopSched.Notice
/-!
# Scheduling policy

The only policy is the classic one: groups of prioritised queues, and assignments of task names to
groups and priorities. Every other name falls back to it.
-/

namespace CoopSched

/-- The classic policy over a list of groups. -/
structure Policy where
  groups : List SchedGroup
  deriving DecidableEq, Repr

namespace Policy

/-- The name of the policy. -/
def name (_ : Policy) : String := "classic"

/-- The policy of a configuration. -/
def ofConf (conf : SchedulerConf) : Policy := ⟨conf.groups⟩

/-- What is worth saying about the policy a configuration asks for. -/
def notices (conf : SchedulerConf) : List Notice :=
  match conf.policy with
  | "" | "classic" => []
  | "choreography" => [.choreographyUnavailable]
  | other => [.unknownPolicy other]

/-- Every task entry in document order, with the group that encloses it. -/
def assignments (p : Policy) : List ClassicTask :=
  p.groups.flatMap fun g => g.tasks.map fun t => { t with groupName := g.name }

/-- The assignment of a task name: its last entry in document order. -/
def assignment? (p : Policy) (task : String) : Option ClassicTask :=
  p.assignments.reverse.find? (·.name == task)

/-- The group of tasks without an assignment: the first one. -/
def defaultGroup (p : Policy) : String :=
  match p.groups with
  | [] => defaultGroupName
  | g :: _ => g.name

end Policy

end CoopSched
