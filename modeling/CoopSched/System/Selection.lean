import CoopSched.System.Basic
/-!
# Selection and removal

How a processor finds the routine it runs next, and how a routine is taken out of a group. Both pass
the slots of the group one by one, and both have to hold a routine before they do anything to it.
-/

namespace CoopSched.System

variable {κ : Type}

/-- Let a thread hold a routine, unless somebody does. -/
def acquire (s : System κ) (t : Thread) (r : RoutineRef) : System κ × Bool :=
  (s.modifyRoutine r fun x => (x.acquire t).1, ((s.routine r).acquire t).2)

/-- Let nobody hold a routine. -/
def release (s : System κ) (r : RoutineRef) : System κ := s.modifyRoutine r Routine.release

/-- Make a routine ready if what it waits for has come. -/
def update (s : System κ) (r : RoutineRef) : System κ :=
  s.modifyRoutine r (·.update s.now)

/-- Pass some slots up to the first routine that can be held and is ready, which is then held. The
routines passed before are left to nobody, or to those who hold them. -/
def scan (t : Thread) : List RoutineRef → System κ → System κ × Option RoutineRef
  | [], s => (s, none)
  | r :: rest, s =>
    match s.acquire t r with
    | (s, false) => scan t rest s
    | (s, true) =>
      let s := s.update r
      if (s.routine r).state = .ready then (s, some r) else scan t rest (s.release r)

/-- The next routine of a group to run, held by the thread: from the highest level down, and in
order of insertion within a level. A stopped group has none. -/
def nextRoutine (s : System κ) (t : Thread) (g : GroupRef) : System κ × Option RoutineRef :=
  if (s.group g).stopped then (s, none) else scan t (s.group g).slots s

/-- Put a routine into the queue of its priority. -/
def enqueue (s : System κ) (g : GroupRef) (r : RoutineRef) : System κ :=
  s.modifyGroup g (·.insert (levelOf (s.routine r).priority) r)

/-- The slot that removing a routine means: the first at the level of its priority that holds a
routine with its id. -/
def slotOf? (s : System κ) (g : GroupRef) (r : RoutineRef) : Option (Priority × Nat × RoutineRef) :=
  let level := levelOf (s.routine r).priority
  let queue := (s.group g).queue level
  let sameId := fun x => (s.routine x).id == (s.routine r).id
  match queue.findIdx? sameId, queue.find? sameId with
  | some position, some target => some (level, position, target)
  | _, _ => none

/-- What became of a removal. -/
inductive Removal where
  | absent
  | removed
  /-- Somebody holds the routine; the removal goes on when it is released. -/
  | waits (group : GroupRef) (routine target : RoutineRef)
  deriving DecidableEq, Repr

/-- Did it succeed? -/
def Removal.succeeded : Removal → Bool
  | .removed => true
  | _ => false

/-- Stop a routine and take it out of a group, once nobody runs it. -/
def removeRoutine (s : System κ) (t : Thread) (g : GroupRef) (r : RoutineRef) :
    System κ × Removal :=
  match s.slotOf? g r with
  | none => (s, .absent)
  | some (level, position, target) =>
    match (s.modifyRoutine target Routine.stop).acquire t target with
    | (s, false) =>
      (s.report t (.waitingToRemove (s.group g).name (s.routine target).name), .waits g r target)
    | (s, true) => ((s.modifyGroup g (·.eraseAt level position)).release target, .removed)

end CoopSched.System
