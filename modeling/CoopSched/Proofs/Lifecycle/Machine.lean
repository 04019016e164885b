import CoopSched.Proofs.Atomic
import CoopSched.Proofs.Tasks.Operations
/-!
# Dispatch, removal and shutdown, interleaved

Any number of calls dispatch routines, remove tasks by id and shut the scheduler down at the same time.
`World.perform` lets one call take its next indivisible step. Four kinds of locks keep the calls apart:

* the lifecycle lock, which dispatches share and a shutdown has alone while it raises the stop flag;
* the mutex of an id, which a call keeps while it works on the table and the queue. The mutexes stand in a
  directory (`IdLocks`); a missing one is made under the creation lock after a second look;
* the lock of a level of a group, which a removal keeps while it takes a routine out of the queue, and
  without which nothing is put into the queue.

What a call does while it has the mutex of its id is cut into stages (`System.attend`). Run without
interruption they are a dispatch and a removal (`runSteps_attend_dispatch`, `runSteps_attend_remove`).
A call that has to wait for a lock stays where it is.

Everything else that happens in the system is in `Action.elsewhere`, as long as it leaves table and queues
alone. The last five fields of a `World` record the past. No step depends on them.
-/

namespace CoopSched

namespace System

variable {κ : Type}

/-! ## 1. The work on one id -/

/-- Where the work of a call on the table and the queues stands. A dispatch enters the table, gives the
routine its place, queues it, and tells the group. A removal takes the id out of the table, stops the
routine, takes the lock of its level, takes its slot away, and gives the lock back. -/
inductive Stage where
  | claiming (r : RoutineRef)
  | placing (r : RoutineRef)
  | queueing (g : GroupRef) (r : RoutineRef)
  | telling (g : GroupRef)
  | erasing
  | halting (r : RoutineRef)
  | seeking (r : RoutineRef)
  | unlinking (g : GroupRef) (l : Priority) (r : RoutineRef) (step : Unlinking)
  | closing (g : GroupRef) (l : Priority) (ok : Bool)
  deriving DecidableEq, Repr

/-- One step of the work on an id. At its end it is known whether the call succeeds. -/
def attend (t : Thread) (sched : Scheduler) (id : UInt64) (s : System κ) :
    Stage → System κ × (Stage ⊕ Bool)
  | .claiming r =>
    match s.claim sched r with
    | (s, false) => (s.report t (.alreadyDispatched (s.routine r).name), .inr false)
    | (s, true) => (s, .inl (.placing r))
  | .placing r => ((s.settled t sched r).1, .inl (.queueing (s.settled t sched r).2 r))
  | .queueing g r => (s.enqueue g r, .inl (.telling g))
  | .telling g => (s.modifyGroup g Group.notify, .inr true)
  | .erasing =>
    match sched.tasks.find? id with
    | none => (s, .inr false)
    | some r =>
      (s.modifyScheduler fun sched => { sched with tasks := sched.tasks.erase id }, .inl (.halting r))
  | .halting r => (s.modifyRoutine r Routine.stop, .inl (.seeking r))
  | .seeking r =>
    (s, .inl (.unlinking (sched.roster.findOrDefault (s.routine r).group)
      (levelOf (s.routine r).priority) r .finding))
  | .unlinking g l r step =>
    match s.unlink t g r step with
    | (s, .inl next) => (s, .inl (.unlinking g l r next))
    | (s, .inr ok) => (s, .inl (.closing g l ok))
  | .closing _ _ ok => (s, .inr ok)

namespace Stage

/-- The level whose lock the call has. -/
def level? : Stage → Option (GroupRef × Priority)
  | .unlinking g l _ _ | .closing g l _ => some (g, l)
  | _ => none

/-- The level whose lock has to be free for the next step. -/
def needs? (s : System κ) (sched : Scheduler) : Stage → Option (GroupRef × Priority)
  | .queueing g r => some (g, levelOf (s.routine r).priority)
  | .seeking r =>
    some (sched.roster.findOrDefault (s.routine r).group, levelOf (s.routine r).priority)
  | _ => none

end Stage

/-- A dispatch that is not refused by the stop flag, without interruption. -/
theorem runSteps_attend_dispatch {s : System κ} {sched : Scheduler} (hs : s.scheduler = some sched)
    (running : sched.stopped = false) (t : Thread) (r : RoutineRef) :
    ∃ n, runSteps (attend t sched (s.routine r).id) n s (.claiming r) =
      ((s.dispatch t r).1, .inr (s.dispatch t r).2) := by
  simp only [dispatch, hs, running, Bool.false_eq_true, if_false]
  rcases claimed : s.claim sched r with ⟨s', granted⟩
  cases granted with
  | false => exact ⟨1, by simp [runSteps, attend, claimed]⟩
  | true => exact ⟨4, by simp [runSteps, attend, claimed, place_eq]⟩

/-- Where the stages of a removal have come to when the removal comes to its outcome. -/
inductive Stage.Reaches : Stage ⊕ Bool → Removal → Prop
  | absent : Reaches (.inr false) .absent
  | removed : Reaches (.inr true) .removed
  | waits {l level : Priority} {position : Nat} {g g' : GroupRef} {r r' target : RoutineRef} :
      Reaches (.inl (.unlinking g l r (.acquiring level position target))) (.waits g' r' target)

/-- The steps that take a slot away, in the middle of a removal. -/
theorem runSteps_attend_unlinking (t : Thread) (sched : Scheduler) (id : UInt64) (g : GroupRef)
    (l : Priority) (r : RoutineRef) {n : Nat} {s s' : System κ} {step : Unlinking}
    {place : Unlinking ⊕ Bool} (unlinked : runSteps (unlink t g r) n s step = (s', place)) :
    ∃ m, runSteps (attend t sched id) m s (.unlinking g l r step) =
      (s', place.map (.unlinking g l r) fun ok => ok) := by
  induction n generalizing s step with
  | zero =>
    cases unlinked
    exact ⟨0, rfl⟩
  | succ n ih =>
    rw [runSteps] at unlinked
    rcases outcome : s.unlink t g r step with ⟨s₁, next | ok⟩
    · rw [outcome] at unlinked
      obtain ⟨m, rest⟩ := ih unlinked
      refine ⟨m + 1, ?_⟩
      rw [runSteps, attend, outcome]
      exact rest
    · rw [outcome] at unlinked
      cases unlinked
      exact ⟨2, by simp [runSteps, attend, outcome]⟩

/-- A removal without interruption. One that has to wait has tried once to hold the routine. -/
theorem runSteps_attend_remove {s : System κ} {sched : Scheduler} (hs : s.scheduler = some sched)
    (t : Thread) (id : UInt64) :
    ∃ n place, runSteps (attend t sched id) n s .erasing = ((s.removeById t id).1, place) ∧
      Stage.Reaches place (s.removeById t id).2 := by
  simp only [removeById, hs]
  cases found : sched.tasks.find? id with
  | none => exact ⟨1, .inr false, by simp [runSteps, attend, found], .absent⟩
  | some r =>
    dsimp only
    let erased := s.modifyScheduler fun sched => { sched with tasks := sched.tasks.erase id }
    let stopped := erased.modifyRoutine r Routine.stop
    let g := sched.roster.findOrDefault (stopped.routine r).group
    let l := levelOf (stopped.routine r).priority
    have sought : runSteps (attend t sched id) 3 s .erasing =
        (stopped, .inl (.unlinking g l r .finding)) := by
      simp [runSteps, attend, found, erased, stopped, g, l]
    obtain ⟨n, place, unlinked, reaches⟩ := runSteps_unlink t g r stopped
    obtain ⟨m, rest⟩ := runSteps_attend_unlinking t sched id g l r unlinked
    refine ⟨3 + m, _, (runSteps_add sought).trans rest, ?_⟩
    revert reaches
    show Reaches place (stopped.removeRoutine t g r).2 →
      Stage.Reaches _ (stopped.removeRoutine t g r).2
    generalize (stopped.removeRoutine t g r).2 = outcome
    intro reaches
    cases reaches with
    | absent => exact .absent
    | removed => exact .removed
    | waits => exact .waits

end System

namespace Lifecycle

open CoopSched.System (Stage)

/-! ## 2. The mutexes of ids -/

/-- The directory of mutexes, how many were made, and the call that has the creation lock. -/
structure IdLocks where
  directory : Directory idLockBits Nat := Directory.empty
  made : Nat := 0
  maker : Option Nat := none

/-- Where the search for the mutex of an id stands: about to look into the directory, to take the creation
lock, to look again, to make a mutex, or to give the creation lock back. -/
inductive Finding where
  | looking
  | waiting
  | lookingAgain
  | making
  | leaving (m : Nat)
  deriving DecidableEq, Repr

/-- One step of a search. At its end the mutex is known. -/
def IdLocks.find (n : Nat) (id : UInt64) (k : IdLocks) : Finding → IdLocks × (Finding ⊕ Nat)
  | .looking =>
    match k.directory.get? id with
    | some m => (k, .inr m)
    | none => (k, .inl .waiting)
  | .waiting =>
    match k.maker with
    | none => ({ k with maker := some n }, .inl .lookingAgain)
    | some _ => (k, .inl .waiting)
  | .lookingAgain =>
    match k.directory.get? id with
    | some m => (k, .inl (.leaving m))
    | none => (k, .inl .making)
  | .making =>
    ({ k with directory := k.directory.set id k.made, made := k.made + 1 }, .inl (.leaving k.made))
  | .leaving m => ({ k with maker := none }, .inr m)

/-! ## 3. Calls -/

/-- What was called. -/
inductive Purpose where
  | dispatch (r : RoutineRef)
  | remove (id : UInt64)
  | shutdown
  deriving DecidableEq, Repr

/-- What a call wants with an id: to dispatch a routine with it, to remove its task, or, in a shutdown, to
remove its task and then those of other ids. -/
inductive Errand where
  | dispatch (r : RoutineRef)
  | remove
  | sweep (rest : List UInt64)
  deriving DecidableEq, Repr

/-- Where a call stands. -/
inductive Phase where
  /-- A dispatch is about to share the lifecycle lock. -/
  | joining (r : RoutineRef)
  /-- It is about to read the stop flag. -/
  | checking (r : RoutineRef)
  /-- The call looks for the mutex of an id. -/
  | finding (id : UInt64) (e : Errand) (step : Finding)
  /-- It is about to take the mutex. -/
  | locking (id : UInt64) (e : Errand) (m : Nat)
  /-- It has the mutex and works on the id. -/
  | inside (id : UInt64) (e : Errand) (m : Nat) (stage : Stage)
  /-- It is about to give the mutex back. -/
  | unlocking (id : UInt64) (e : Errand) (m : Nat) (ok : Bool)
  /-- A dispatch is about to give the lifecycle lock back. -/
  | leaving (ok : Bool)
  /-- A shutdown is about to take the lifecycle lock for itself. -/
  | excluding
  /-- It is about to raise the stop flag. -/
  | raising
  /-- It is about to give the lifecycle lock back. Only the first one goes on after that. -/
  | opening (first : Bool)
  /-- It is about to stop the groups that processors serve. -/
  | silencing
  /-- It is about to list the ids of the table. -/
  | listing
  /-- It is about to stop the processors. -/
  | ending
  | returned (ok : Bool)
  deriving DecidableEq, Repr

/-- The first phase of a call. -/
def Purpose.start : Purpose → Phase
  | .dispatch r => .joining r
  | .remove id => .finding id .remove .looking
  | .shutdown => .excluding

/-- The first stage of the work on an id. -/
def Errand.entry : Errand → Stage
  | .dispatch r => .claiming r
  | .remove | .sweep _ => .erasing

/-- The removals that a shutdown has still to make. -/
def Phase.sweep : List UInt64 → Phase
  | [] => .ending
  | id :: rest => .finding id (.sweep rest) .looking

/-- What comes after the work on an id. -/
def Errand.exit (ok : Bool) : Errand → Phase
  | .dispatch _ => .leaving ok
  | .remove => .returned ok
  | .sweep rest => .sweep rest

/-- The two ways in which a call may change who is a task. -/
inductive Deed where
  | dispatch
  | remove
  deriving DecidableEq, Repr

def Errand.deed : Errand → Deed
  | .dispatch _ => .dispatch
  | .remove | .sweep _ => .remove

/-- A call, the thread that makes it, and where it stands. -/
structure Call where
  token : Thread
  purpose : Purpose
  phase : Phase
  deriving DecidableEq, Repr

/-- A call had the mutex of an id, and whether it succeeded. -/
structure Turn where
  call : Nat
  id : UInt64
  deed : Deed
  ok : Bool
  deriving DecidableEq, Repr

/-- The system, its locks, and the calls by number. -/
structure World (κ : Type) where
  sys : System κ
  locks : IdLocks := {}
  /-- The calls that have the mutexes. -/
  owners : Nat → Option Nat := fun _ => none
  /-- The calls that have the locks of the levels. -/
  levels : GroupRef → Priority → Option Nat := fun _ _ => none
  /-- The calls that share the lifecycle lock, and the one that has it for itself. -/
  sharing : List Nat := []
  exclusive : Option Nat := none
  calls : Nat → Option Call := fun _ => none
  /-- The mutexes that were given out, by id. -/
  issued : List (UInt64 × Nat) := []
  /-- The turns with the mutexes, in the order in which they were had. -/
  turns : List Turn := []
  /-- The shutdown that has raised the stop flag. -/
  raised : Option Nat := none
  /-- The dispatches that read the stop flag after it was raised. -/
  late : Nat → Prop := fun _ => False
  /-- The calls one of whose steps has changed the system. -/
  active : Nat → Prop := fun _ => False

variable {κ : Type}

/-- Is the scheduler stopped? -/
def isStopped (s : System κ) : Bool := s.scheduler.any (·.stopped)

/-- The numbers of the scheduler's processors. -/
def processorsOf (s : System κ) : List Nat := (s.scheduler.map (·.processors)).getD []

/-- The end of a shutdown: the scheduler has no processors any more, and each of them is stopped. -/
def stopProcessors (s : System κ) (t : Thread) : System κ :=
  (processorsOf s).foldl (fun s p => s.stopProcessor t p)
    (s.modifyScheduler fun sched => { sched with processors := [] })

/-- The live ids, in the order of the table. -/
def idsOf (s : System κ) : List UInt64 := (s.scheduler.map s.listed).getD []

/-! ## 4. Steps -/

/-- Everybody else leaves the table, the queues, and the ids and places of routines alone, and lets a stopped
routine stay stopped. New routines may be added, and names registered. -/
structure Spares (s s' : System κ) : Prop where
  scheduler : ∃ f : Scheduler → Registry,
    s'.scheduler = s.scheduler.map fun sched => { sched with names := f sched }
  slots : System.KeepsSlots s s'
  routines : System.Keeps Routine.placement s s'
  stopped : ∀ r, (s.routine r).stopped = true → (s'.routine r).stopped = true

/-- What happens next. -/
inductive Action (κ : Type) where
  | begin (n : Nat) (token : Thread) (purpose : Purpose)
  | step (n : Nat)
  | elsewhere (after : System κ)

namespace World

/-- The locks of levels after a call has given one back and taken another one. -/
def relock (w : World κ) (n : Nat) (old new : Option (GroupRef × Priority)) :
    GroupRef → Priority → Option Nat := fun g l =>
  if new = some (g, l) then some n else if old = some (g, l) then none else w.levels g l

/-- A step of a call that looks for a mutex. -/
def find (w : World κ) (n : Nat) (id : UInt64) (e : Errand) (step : Finding) : World κ × Phase :=
  match w.locks.find n id step with
  | (locks, .inl next) => ({ w with locks }, .finding id e next)
  | (locks, .inr m) => ({ w with locks, issued := (id, m) :: w.issued }, .locking id e m)

/-- A step of a call that has the mutex. It waits for the lock of a level. -/
def attend (w : World κ) (n : Nat) (t : Thread) (id : UInt64) (e : Errand) (m : Nat) (stage : Stage) :
    World κ × Phase :=
  match w.sys.scheduler with
  | none => (w, .inside id e m stage)
  | some sched =>
    if (stage.needs? w.sys sched).any fun (g, l) => (w.levels g l).isSome then
      (w, .inside id e m stage)
    else
      match w.sys.attend t sched id stage with
      | (sys, .inl next) =>
        ({ w with sys, levels := w.relock n stage.level? next.level? }, .inside id e m next)
      | (sys, .inr ok) => ({ w with sys, levels := w.relock n stage.level? none }, .unlocking id e m ok)

/-- The next step of a call, and the phase that it comes to. -/
def advance (w : World κ) (n : Nat) (t : Thread) : Phase → World κ × Phase
  | .joining r =>
    match w.exclusive with
    | none => ({ w with sharing := n :: w.sharing }, .checking r)
    | some _ => (w, .joining r)
  | .checking r =>
    ({ w with late := fun k => w.late k ∨ k = n ∧ w.raised ≠ none },
      if isStopped w.sys then .leaving false
      else .finding (w.sys.routine r).id (.dispatch r) .looking)
  | .finding id e step => w.find n id e step
  | .locking id e m =>
    match w.owners m with
    | none => ({ w with owners := fun k => if k = m then some n else w.owners k }, .inside id e m e.entry)
    | some _ => (w, .locking id e m)
  | .inside id e m stage => w.attend n t id e m stage
  | .unlocking id e m ok =>
    ({ w with
        owners := fun k => if k = m then none else w.owners k
        turns := w.turns ++ [⟨n, id, e.deed, ok⟩] }, e.exit ok)
  | .leaving ok => ({ w with sharing := w.sharing.erase n }, .returned ok)
  | .excluding =>
    if w.sharing = [] ∧ w.exclusive = none then ({ w with exclusive := some n }, .raising)
    else (w, .excluding)
  | .raising =>
    if isStopped w.sys then (w, .opening false)
    else
      ({ w with
          sys := w.sys.modifyScheduler fun sched => { sched with stopped := true }
          raised := some n }, .opening true)
  | .opening first =>
    ({ w with exclusive := none }, if first then .silencing else .returned false)
  | .silencing =>
    ({ w with sys := (w.sys.report t .shuttingDown).stopServedGroups (processorsOf w.sys) }, .listing)
  | .listing => (w, .sweep (idsOf w.sys))
  | .ending =>
    ({ w with sys := stopProcessors w.sys t }, .returned true)
  | .returned ok => (w, .returned ok)

/-- A call stands somewhere. -/
def put (w : World κ) (n : Nat) (c : Call) : World κ :=
  { w with calls := fun k => if k = n then some c else w.calls k }

/-- A call has taken a step. -/
def tread (w w' : World κ) (n : Nat) (c : Call) (phase : Phase) : World κ :=
  { w' with
    calls := (w.put n { c with phase }).calls
    active := fun k => w.active k ∨ k = n ∧ w'.sys ≠ w.sys }

/-- The next step. A call that has not begun does nothing, and one that has begun does not begin again. -/
def perform (w : World κ) : Action κ → World κ
  | .begin n token purpose =>
    match w.calls n with
    | none => w.put n ⟨token, purpose, purpose.start⟩
    | some _ => w
  | .step n =>
    match w.calls n with
    | none => w
    | some c => w.tread (w.advance n c.token c.phase).1 n c (w.advance n c.token c.phase).2
  | .elsewhere s => { w with sys := s }

/-- Only routines that are there are dispatched. -/
def Allowed (w : World κ) : Action κ → Prop
  | .begin _ _ (.dispatch r) => r < w.sys.routines.size
  | .begin _ _ _ => True
  | .step _ => True
  | .elsewhere s => Spares w.sys s

/-- Any number of steps, in any order. -/
inductive Run : World κ → World κ → Prop
  | refl (w : World κ) : Run w w
  | step {w w' : World κ} (run : Run w w') (a : Action κ) (allowed : w'.Allowed a) :
      Run w (w'.perform a)

/-- No call has begun, and table and queues agree. The directory may have mutexes already. -/
structure Begins (w : World κ) : Prop where
  sound : w.sys.Sound
  running : isStopped w.sys = false
  world : w = { sys := w.sys, locks := { directory := w.locks.directory, made := w.locks.made } }

/-- Where a call stands, if it has begun. -/
def phase? (w : World κ) (n : Nat) : Option Phase := (w.calls n).map (·.phase)

/-- Every call that has begun has returned. -/
def AtRest (w : World κ) : Prop := ∀ n p, w.phase? n = some p → ∃ ok, p = .returned ok

end World

end Lifecycle

end CoopSched
