import CoopSched.Config
import CoopSched.Routine
/-!
# Groups

A group keeps its routines in one queue for each priority level, and counts the notifications that
its processors have not yet answered. The count stops at its largest value instead of starting over.
-/

namespace CoopSched

/-- The levels of a group; higher ones go first. -/
abbrev Priority := Fin maxPrio

/-- The level of a priority: the highest one if the priority is beyond it. -/
def levelOf (priority : Nat) : Priority :=
  ⟨min priority (maxPrio - 1), Nat.lt_of_le_of_lt (Nat.min_le_right _ _) (by decide)⟩

/-- The largest count of pending notifications. -/
def maxPending : Nat := UInt32.size - 1

/-- A named group of queues. -/
structure Group where
  name : String := ""
  levels : Vector (List RoutineRef) maxPrio := Vector.replicate maxPrio []
  pending : Nat := 0
  stopped : Bool := false
  deriving Repr

namespace Group

instance : Inhabited Group := ⟨{}⟩

/-- The queue of a level, in the order of insertion. -/
def queue (g : Group) (l : Priority) : List RoutineRef := g.levels[l]

/-- Change the queue of a level. -/
def setQueue (g : Group) (l : Priority) (queue : List RoutineRef) : Group :=
  { g with levels := g.levels.set l queue }

/-- Put a routine at the end of a level. -/
def insert (g : Group) (l : Priority) (r : RoutineRef) : Group := g.setQueue l (g.queue l ++ [r])

/-- Take away the slot at a position of a level. -/
def eraseAt (g : Group) (l : Priority) (position : Nat) : Group :=
  g.setQueue l ((g.queue l).eraseIdx position)

/-- The levels from the highest to the lowest. -/
def order : List Priority := (List.finRange maxPrio).reverse

/-- All slots in the order in which a scan passes them. -/
def slots (g : Group) : List RoutineRef := order.flatMap g.queue

/-- How many slots there are. -/
def size (g : Group) : Nat := g.slots.length

/-- Is no routine queued? -/
def isEmpty (g : Group) : Bool := g.size == 0

/-- One more notification. -/
def notify (g : Group) : Group := { g with pending := min (g.pending + 1) maxPending }

/-- A processor waits: it answers one notification if there is one. A wait without one times out.
A stopped group keeps its count, so nobody waits there any more. -/
def wait (g : Group) : Group :=
  if g.stopped then g else { g with pending := g.pending - 1 }

/-- Hand out nothing any more, and let nobody wait. -/
def shutdown (g : Group) : Group := { g with stopped := true, pending := maxPending }

/-- The text shown for a group. -/
def describe (g : Group) : String :=
  "ReadyGroup \x7b name: " ++ Text.quoted g.name ++ ", routines: " ++ toString g.size ++
    ", stopped: " ++ toString g.stopped ++ " \x7d"

/-- The text shown for what a processor of the group drains. -/
def describeContext (g : Group) : String :=
  "Classic(ClassicContext \x7b group: " ++ g.describe ++ " \x7d)"

theorem queue_setQueue (g : Group) (l m : Priority) (rs : List RoutineRef) :
    (g.setQueue l rs).queue m = if l = m then rs else g.queue m := by
  simp [queue, setQueue, Vector.getElem_set, Fin.ext_iff]

theorem queue_insert (g : Group) (l m : Priority) (r : RoutineRef) :
    (g.insert l r).queue m = if l = m then g.queue l ++ [r] else g.queue m :=
  queue_setQueue ..

@[simp] theorem queue_notify (g : Group) (l : Priority) : g.notify.queue l = g.queue l := rfl

@[simp] theorem queue_wait (g : Group) (l : Priority) : g.wait.queue l = g.queue l := by
  unfold wait
  split <;> rfl

@[simp] theorem queue_shutdown (g : Group) (l : Priority) : g.shutdown.queue l = g.queue l := rfl

theorem pending_wait (g : Group) :
    g.wait.pending = if g.stopped then g.pending else g.pending - 1 := by
  unfold wait
  split <;> rfl

end Group

/-- The groups of a scheduler by name; the first of them is the default. -/
structure Roster where
  groups : List (String × GroupRef)
  default : GroupRef
  deriving Repr, Inhabited

namespace Roster

/-- The group of a name. -/
def find? (r : Roster) (name : String) : Option GroupRef := r.groups.lookup name

/-- The group of a name, else the default one. -/
def findOrDefault (r : Roster) (name : String) : GroupRef := (r.find? name).getD r.default

/-- The different names in the order of the configuration; the default group's name if there is
none. -/
def namesOf (names : List String) : List String :=
  if names.isEmpty then [defaultGroupName] else names.eraseDups

end Roster

end CoopSched
