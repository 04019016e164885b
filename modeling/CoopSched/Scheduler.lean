import CoopSched.Group
import CoopSched.Machine
import CoopSched.Policy
import CoopSched.Registry
/-!
# Schedulers

The part of a scheduler that stays the same, and its table of live tasks: which routine runs under
which id.
-/

namespace CoopSched

/-- Live routines by id. -/
structure TaskTable where
  entries : List (UInt64 × RoutineRef) := []
  deriving Repr, Inhabited

namespace TaskTable

/-- The routine of an id. -/
def find? (t : TaskTable) (id : UInt64) : Option RoutineRef := t.entries.lookup id

/-- Is the id live? -/
def contains (t : TaskTable) (id : UInt64) : Bool := (t.find? id).isSome

/-- Enter a routine under an id that is not live. -/
def insert (t : TaskTable) (id : UInt64) (r : RoutineRef) : TaskTable :=
  ⟨t.entries ++ [(id, r)]⟩

/-- Take an id out. -/
def erase (t : TaskTable) (id : UInt64) : TaskTable := ⟨t.entries.filter (·.1 != id)⟩

/-- The live ids. -/
def ids (t : TaskTable) : List UInt64 := t.entries.map (·.1)

/-- The live ids in the order of a listing. -/
def listed (t : TaskTable) (listing : Listing) : List UInt64 := listing.arrange t.ids

theorem mem_listed (t : TaskTable) (listing : Listing) {id : UInt64} :
    id ∈ t.listed listing ↔ id ∈ t.ids := listing.mem_arrange

/-- How many tasks are live. -/
def size (t : TaskTable) : Nat := t.entries.length

end TaskTable

/-- A scheduler. -/
structure Scheduler where
  /-- Tells it from the schedulers before it. -/
  serial : Nat := 0
  policy : Policy
  roster : Roster
  tasks : TaskTable := {}
  names : Registry := Registry.empty
  stopped : Bool := false
  /-- The numbers of its processors, none after a shutdown. -/
  processors : List Nat := []
  innerThreads : List (String × InnerThread) := []
  processCpuset : String := ""

namespace Scheduler

/-- The processor count of the first group. -/
def poolSize (s : Scheduler) : Nat :=
  match s.policy.groups with
  | [] => 0
  | g :: _ => g.processorNum

/-- The attributes of a thread name: those given last. -/
def innerThread? (s : Scheduler) (name : String) : Option InnerThread :=
  s.innerThreads.reverse.lookup name

/-- The text shown for a scheduler. -/
def describe (s : Scheduler) : String :=
  "Scheduler \x7b policy: " ++ Text.quoted s.policy.name ++ ", tasks: " ++ toString s.tasks.size ++
    ", processors: " ++ toString s.processors.length ++ ", stopped: " ++ toString s.stopped ++
    " \x7d"

end Scheduler

end CoopSched
