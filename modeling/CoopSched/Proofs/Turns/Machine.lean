import CoopSched.Proofs.Lifecycle.Machine
/-!
# Turns and calls, interleaved

Threads take turns of routines, move by move, and anybody calls whatever there is to call.
`World.perform` lets one thread do one of these things:

* enter a turn of a routine, if the routine lets it; make the next move of the body it is in a turn of;
* make a call that does not wait (`Operation`);
* remove a task, or conclude a removal that had to wait. As long as it waits it has the lock of its id, and
  a call that needs that lock is not made;
* shut the scheduler down, and then remove the live tasks one by one (`World.sweep`).

Without interruption the moves of a turn are a resume (`moves_enter`), and the removals of a shutdown are a
shutdown (`sweeps_shut`).

A thread is in one turn at a time. No body asks for a resume, and to enter a turn in the middle of another does
nothing (`World.enter`). Runs in which a body resumes a routine are left out: after such a resume its thread has
no running routine any more, so that the outer body can neither set its state nor give up its turn. Left out as
well are runs in which a body waits for a removal; the removal of a task that is held is refused to it.
-/

namespace CoopSched.Turns

open CoopSched.Lifecycle (isStopped idsOf processorsOf stopProcessors)

variable {κ : Type}

/-! ## 1. Calls that do not wait -/

/-- What a caller can do without waiting, other than to remove a task. -/
inductive Operation (κ : Type) where
  | start (conf : SchedulerConf)
  | forget
  | newRoutine (id : UInt64) (name : String) (work : Work κ)
  | newGroup (name : String)
  | newQueue
  | create (work : Work κ) (name : String) (source : Option QueueRef)
  | dispatch (r : RoutineRef)
  | notifyTask (id : UInt64)
  | notifyProcessor (id : UInt64)
  | next (g : GroupRef)
  | insert (g : GroupRef) (r : RoutineRef)
  | unlink (g : GroupRef) (r : RoutineRef)
  | notifyGroup (g : GroupRef)
  | silenceGroup (g : GroupRef)
  | waitGroup (g : GroupRef)
  | onRoutine (r : RoutineRef) (op : RoutineOp)
  | setState (r : RoutineRef) (state : State)
  | setPriority (r : RoutineRef) (priority : Nat)
  | setGroup (r : RoutineRef) (name : String)
  | push (q : QueueRef) (message : Int)
  | fetch (q : QueueRef)
  | install (q : QueueRef) (callback : List Announcement)
  | stopProcessor (p : Nat)
  | openGate (gate : String)
  | elapse (millis : Nat)

namespace Operation

/-- The system after a call. -/
def apply (s : System κ) (t : Thread) : Operation κ → System κ
  | .start conf => s.startScheduler t conf
  | .forget => { s with scheduler := none }
  | .newRoutine id name work => (s.addRoutine id name work).1
  | .newGroup name => (s.addGroup name).1
  | .newQueue => s.addQueue.1
  | .create work name source => (s.createTask t work name source).1
  | .dispatch r => (s.dispatch t r).1
  | .notifyTask id => (s.notifyTask id).1
  | .notifyProcessor id => (s.notifyProcessor id).1
  | .next g => (s.nextRoutine t g).1
  | .insert g r => s.enqueue g r
  | .unlink g r => (s.removeRoutine t g r).1
  | .notifyGroup g => s.modifyGroup g Group.notify
  | .silenceGroup g => s.modifyGroup g Group.shutdown
  | .waitGroup g => s.modifyGroup g Group.wait
  | .onRoutine r op => (s.applyOp t r op).1
  | .setState r state => s.modifyRoutine r (·.setState state)
  | .setPriority r priority => s.modifyRoutine r fun x => { x with priority }
  | .setGroup r name => s.modifyRoutine r fun x => { x with group := name }
  | .push q message => s.push t q message
  | .fetch q => (s.fetch q).1
  | .install q callback => s.modifyQueue q (·.install callback)
  | .stopProcessor p => s.stopProcessor t p
  | .openGate gate => s.openGate gate
  | .elapse millis => s.elapse millis

/-- The id whose lock a call needs. After a shutdown nothing is dispatched, and no lock is needed. -/
def lock? (s : System κ) : Operation κ → Option UInt64
  | .create _ name _ => if isStopped s then none else some (taskId name)
  | .dispatch r => if isStopped s then none else some (s.routine r).id
  | _ => none

/-- Calls that do not interfere with a scheduler: they do not change the priority, the group or the queues of
its routines from outside, nor replace it, and only routines that are there are dispatched. -/
def Orderly (s : System κ) : Operation κ → Prop
  | .dispatch r => r < s.routines.size
  | .start _ | .forget | .insert _ _ | .unlink _ _ | .setPriority _ _ | .setGroup _ _ => False
  | _ => True

end Operation

/-- The id whose lock the next move of a body needs. -/
def lockOfMove? {σ : Type} (s : System κ) : Move κ σ → Option UInt64
  | .ask (.create name _ _) _ | .ask (.remove name) _ =>
    if isStopped s then none else some (taskId name)
  | _ => none

/-! ## 2. The world -/

/-- A removal that waits until nobody holds its routine. -/
structure Waiting where
  id : UInt64
  group : GroupRef
  routine : RoutineRef
  deriving DecidableEq, Repr

/-- Has a removal the lock of an id? -/
def isLocked (waiting : List Waiting) (id : UInt64) : Bool := waiting.any (·.id == id)

/-- A shutdown that has not returned: the ids that it has still to remove, and the one whose removal it has
begun. -/
structure Closing where
  rest : List UInt64
  current : Option UInt64 := none
  deriving DecidableEq, Repr

/-- The system, the turns that its threads are in the middle of, the removals that wait, and the shutdown
that is under way. -/
structure World (κ : Type) where
  sys : System κ
  turn : Thread → Option RoutineRef := fun _ => none
  waiting : List Waiting := []
  closing : Option Closing := none

/-- What happens next. -/
inductive Action (κ : Type) where
  | enter (t : Thread) (r : RoutineRef)
  | move (t : Thread)
  | operate (t : Thread) (o : Operation κ)
  | remove (t : Thread) (id : UInt64)
  | removeTask (t : Thread) (name : String)
  | conclude (t : Thread) (id : UInt64)
  | shut (t : Thread)
  | sweep (t : Thread)

namespace World

/-- Enter a turn of a routine. It is refused to a thread that is in a turn already, and for the reasons for
which a resume is refused. -/
def enter (w : World κ) (t : Thread) (r : RoutineRef) : World κ :=
  let x := w.sys.routine r
  if w.turn t ≠ none then w
  else if x.stopped then { w with sys := w.sys.modifyRoutine r (·.setState .finished) }
  else if x.state ≠ .ready then { w with sys := w.sys.report t (.resumedInState x.state x.name) }
  else if x.holder ≠ some t then { w with sys := w.sys.report t (.resumedWithoutHolding x.name) }
  else { w with turn := fun u => if u = t then some r else w.turn u }

/-- A call that does not wait, unless it needs a lock that it cannot have. -/
def operate (w : World κ) (t : Thread) (o : Operation κ) : World κ :=
  if (o.lock? w.sys).any (isLocked w.waiting) then w else { w with sys := o.apply w.sys t }

/-- Remove a task by its id. If somebody holds the routine, the removal waits. -/
def remove (w : World κ) (t : Thread) (id : UInt64) : World κ :=
  if isLocked w.waiting id then w
  else match w.sys.removeById t id with
    | (s, .waits g r _) => { w with sys := s, waiting := ⟨id, g, r⟩ :: w.waiting }
    | (s, _) => { w with sys := s }

/-- Remove a task by its name. After a shutdown has begun this succeeds and does nothing. -/
def removeTask (w : World κ) (t : Thread) (name : String) : World κ :=
  if isStopped w.sys then w else w.remove t (taskId name)

/-- Conclude the removal of an id, if its routine is held no more. -/
def conclude (w : World κ) (t : Thread) (id : UInt64) : World κ :=
  match w.waiting.find? (·.id == id) with
  | none => w
  | some p =>
    match w.sys.removeRoutine t p.group p.routine with
    | (_, .waits ..) => w
    | (s, _) => { w with sys := s, waiting := w.waiting.filter (·.id != id) }

/-- Begin a shutdown: raise the stop, silence the served groups, and list the live ids in the order of the table. -/
def shut (w : World κ) (t : Thread) : World κ :=
  match w.sys.scheduler with
  | none => w
  | some sched =>
    if sched.stopped then w
    else { w with sys := w.sys.silenced t sched, closing := some { rest := w.sys.listed sched } }

/-- Go on with the shutdown: wait for the removal that it has begun, begin the next one, and at the end stop
the processors. -/
def sweep (w : World κ) (t : Thread) : World κ :=
  match w.closing with
  | none => w
  | some ⟨rest, some id⟩ => if isLocked w.waiting id then w else { w with closing := some { rest } }
  | some ⟨id :: rest, none⟩ =>
    if isLocked w.waiting id then w
    else { w.remove t id with closing := some { rest, current := some id } }
  | some ⟨[], none⟩ => { w with sys := stopProcessors w.sys t, closing := none }

/-- The turns after a thread has left its own. -/
def without (w : World κ) (t : Thread) : Thread → Option RoutineRef :=
  fun u => if u = t then none else w.turn u

variable [Program κ]

/-- The next move of the body whose turn the thread is in. With the end of the turn the thread is free. -/
def move (w : World κ) (t : Thread) : World κ :=
  match w.turn t with
  | none => w
  | some r =>
    if (lockOfMove? w.sys ((w.sys.routine r).work.next w.sys.labels)).any (isLocked w.waiting) then w
    else match w.sys.move t r with
      | (s, .paused) => { w with sys := s, turn := w.without t }
      | (s, _) => { w with sys := s }

/-- The world after an action. -/
def perform (w : World κ) : Action κ → World κ
  | .enter t r => w.enter t r
  | .move t => w.move t
  | .operate t o => w.operate t o
  | .remove t id => w.remove t id
  | .removeTask t name => w.removeTask t name
  | .conclude t id => w.conclude t id
  | .shut t => w.shut t
  | .sweep t => w.sweep t

/-- Any number of actions that obey a rule, in any order. -/
inductive Run (rule : World κ → Action κ → Prop) : World κ → World κ → Prop
  | refl (w : World κ) : Run rule w w
  | step {w w' : World κ} (run : Run rule w w') (a : Action κ) (allowed : rule w' a) :
      Run rule w (w'.perform a)

theorem Run.trans {rule : World κ → Action κ → Prop} {w w' w'' : World κ} (run : Run rule w w')
    (more : Run rule w' w'') : Run rule w w'' := by
  induction more with
  | refl => exact run
  | step _ a allowed ih => exact ih.step a allowed

theorem Run.mono {rule rule' : World κ → Action κ → Prop} {w w' : World κ} (run : Run rule w w')
    (weaker : ∀ v a, rule v a → rule' v a) : Run rule' w w' := by
  induction run with
  | refl => exact .refl w
  | step _ a allowed ih => exact ih.step a (weaker _ a allowed)

/-- No rule at all. -/
def Free (_ : World κ) (_ : Action κ) : Prop := True

/-- A scheduler is left to itself: all calls are orderly. -/
def Orderly (w : World κ) : Action κ → Prop
  | .operate _ o => o.Orderly w.sys
  | _ => True

/-- A scheduler has just been started. Threads may be in turns of routines that were there before. -/
def Begins (w : World κ) : Prop :=
  ∃ (s : System κ) (t : Thread) (conf : SchedulerConf),
    w.sys = s.startScheduler t conf ∧ w.waiting = [] ∧ w.closing = none

/-- The worlds that the runs of a scheduler come to. -/
def Reachable (w : World κ) : Prop := ∃ w₀ : World κ, w₀.Begins ∧ Run Orderly w₀ w

/-! ## 3. What it is to enter and to move -/

omit [Program κ] in
/-- To enter a turn is refused, or the thread is in the turn of a ready routine that it holds. -/
theorem enter_cases (w : World κ) (t : Thread) (r : RoutineRef) :
    w.enter t r = w ∨
      ((w.sys.routine r).stopped = true ∧
        w.enter t r = { w with sys := w.sys.modifyRoutine r (·.setState .finished) }) ∨
      (∃ n, w.enter t r = { w with sys := w.sys.report t n }) ∨
      (w.turn t = none ∧ (w.sys.routine r).stopped = false ∧ (w.sys.routine r).state = .ready ∧
        (w.sys.routine r).holder = some t ∧
        w.enter t r = { w with turn := fun u => if u = t then some r else w.turn u }) := by
  unfold enter
  by_cases away : w.turn t = none
  · by_cases stopped : (w.sys.routine r).stopped = true
    · exact .inr (.inl ⟨stopped, by simp only [away, stopped, if_true, ne_eq, not_true, if_false]⟩)
    · by_cases ready : (w.sys.routine r).state = .ready
      · by_cases holder : (w.sys.routine r).holder = some t
        · refine .inr (.inr (.inr ⟨away, Bool.eq_false_iff.mpr stopped, ready, holder, ?_⟩))
          simp [away, stopped, ready, holder]
        · refine .inr (.inr (.inl ⟨.resumedWithoutHolding (w.sys.routine r).name, ?_⟩))
          simp [away, stopped, ready, holder]
      · let x := w.sys.routine r
        refine .inr (.inr (.inl ⟨.resumedInState x.state x.name, ?_⟩))
        simp [away, stopped, ready, x]
  · exact .inl (if_pos away)

/-- A move is not made, or it is the move of the body whose turn the thread is in. -/
theorem move_cases (w : World κ) (t : Thread) :
    w.move t = w ∨ ∃ r, w.turn t = some r ∧
      (lockOfMove? w.sys ((w.sys.routine r).work.next w.sys.labels)).any (isLocked w.waiting) = false ∧
      w.move t = { w with
        sys := (w.sys.move t r).1
        turn := if (w.sys.move t r).2 = .paused then w.without t else w.turn } := by
  unfold move
  cases inside : w.turn t with
  | none => exact .inl rfl
  | some r =>
    dsimp only
    split
    · exact .inl rfl
    · next free =>
      refine .inr ⟨r, rfl, Bool.eq_false_iff.mpr free, ?_⟩
      rcases w.sys.move t r with ⟨s, progress⟩
      cases progress <;> rfl

/-- A move that needs no lock is made. -/
theorem move_of_unlocked {w : World κ} {t : Thread} {r : RoutineRef} (inside : w.turn t = some r)
    (unlocked : lockOfMove? w.sys ((w.sys.routine r).work.next w.sys.labels) = none) :
    w.move t = { w with
      sys := (w.sys.move t r).1
      turn := if (w.sys.move t r).2 = .paused then w.without t else w.turn } := by
  unfold move
  rw [inside]
  dsimp only
  rw [unlocked, Option.any_none, if_neg Bool.false_ne_true]
  rcases w.sys.move t r with ⟨s, progress⟩
  cases progress <;> rfl

/-- A body that asks for something gets its answer, unless it would wait for a lock. -/
theorem perform_ask {w : World κ} {t : Thread} {r : RoutineRef} {request : Request κ} {rest : Reply → Work κ}
    (inside : w.turn t = some r) (next : (w.sys.routine r).work.next w.sys.labels = .ask request rest)
    (unlocked : lockOfMove? w.sys (Move.ask request rest) = none) :
    (w.perform (.move t)).sys = (w.sys.serve t r request).1.modifyRoutine r fun x =>
      { x with work := rest (w.sys.serve t r request).2 } := by
  rw [perform, move_of_unlocked inside (next ▸ unlocked)]
  show (w.sys.move t r).1 = _
  simp only [System.move, next]

omit [Program κ] in
theorem turn_remove (w : World κ) (t : Thread) (id : UInt64) : (w.remove t id).turn = w.turn := by
  unfold remove
  split
  · rfl
  · split <;> rfl

/-- Actions that have nothing to do with a turn. -/
def Aside : Action κ → Prop
  | .enter .. | .move _ => False
  | _ => True

theorem turn_perform_of_aside {w : World κ} {a : Action κ} (aside : Aside a) :
    (w.perform a).turn = w.turn := by
  cases a with
  | enter u q => exact aside.elim
  | move u => exact aside.elim
  | operate u o =>
    simp only [perform, operate]
    split <;> rfl
  | remove u id => exact turn_remove w u id
  | removeTask u name =>
    simp only [perform, removeTask]
    split
    · rfl
    · exact turn_remove w u _
  | conclude u id =>
    simp only [perform, conclude]
    split
    · rfl
    · split <;> rfl
  | shut u =>
    simp only [perform, shut]
    split
    · rfl
    · split <;> rfl
  | sweep u =>
    simp only [perform, sweep]
    split
    · rfl
    · split <;> rfl
    · split
      · rfl
      · exact turn_remove w u _
    · rfl

/-- A thread that is in a turn after an action was in it before, or has just entered it. -/
theorem turn_perform_cases {w : World κ} {a : Action κ} {t : Thread} {r : RoutineRef}
    (inside : (w.perform a).turn t = some r) :
    w.turn t = some r ∨
      (a = .enter t r ∧ w.turn t = none ∧ (w.sys.routine r).stopped = false ∧
        (w.sys.routine r).state = .ready ∧ (w.sys.routine r).holder = some t) := by
  have stays : Aside a → w.turn t = some r := fun aside => turn_perform_of_aside aside ▸ inside
  cases a with
  | enter u q =>
    rw [perform] at inside
    rcases w.enter_cases u q with refused | ⟨-, finished⟩ | ⟨n, refused⟩ | ⟨free, running, ready, held, entered⟩
    · rw [refused] at inside
      exact .inl inside
    · rw [finished] at inside
      exact .inl inside
    · rw [refused] at inside
      exact .inl inside
    · rw [entered] at inside
      dsimp only at inside
      split at inside
      · next mine =>
        cases mine
        cases inside
        exact .inr ⟨rfl, free, running, ready, held⟩
      · exact .inl inside
  | move u =>
    rw [perform] at inside
    rcases w.move_cases u with blocked | ⟨q, -, -, moved⟩
    · rw [blocked] at inside
      exact .inl inside
    · rw [moved] at inside
      dsimp only at inside
      split at inside
      · rw [without] at inside
        split at inside
        · cases inside
        · exact .inl inside
      · exact .inl inside
  | _ => exact .inl (stays trivial)

/-- A thread stays in its turn until it makes a move itself. -/
theorem turn_perform_of_inside {w : World κ} {a : Action κ} {t : Thread} {r : RoutineRef}
    (inside : w.turn t = some r) (other : a ≠ .move t) : (w.perform a).turn t = some r := by
  have stays : Aside a → (w.perform a).turn t = some r :=
    fun aside => (congrFun (turn_perform_of_aside aside) t).trans inside
  cases a with
  | enter u q =>
    rw [perform]
    rcases w.enter_cases u q with refused | ⟨-, finished⟩ | ⟨n, refused⟩ | ⟨free, -, -, -, entered⟩
    · rw [refused, inside]
    · rw [finished]
      exact inside
    · rw [refused]
      exact inside
    · have away : t ≠ u := by
        rintro rfl
        cases inside.symm.trans free
      rw [entered]
      exact (if_neg away).trans inside
  | move u =>
    have away : t ≠ u := by
      rintro rfl
      exact other rfl
    rw [perform]
    rcases w.move_cases u with blocked | ⟨q, -, -, moved⟩
    · rw [blocked, inside]
    · rw [moved]
      dsimp only
      split
      · exact (if_neg away).trans inside
      · exact inside
  | _ => exact stays trivial

/-- A thread enters and leaves turns by itself. -/
theorem turn_perform_of_other {w : World κ} {a : Action κ} {t : Thread} (unentered : ∀ r, a ≠ .enter t r)
    (unmoved : a ≠ .move t) : (w.perform a).turn t = w.turn t := by
  cases before : w.turn t with
  | some r => exact turn_perform_of_inside before unmoved
  | none =>
    refine Option.eq_none_iff_forall_ne_some.mpr fun r inside => ?_
    rcases turn_perform_cases inside with there | ⟨enters, -⟩
    · cases before.symm.trans there
    · exact unentered r enters

/-! ## 4. Actions without interruption -/

/-- Some moves of a thread. -/
def moves (t : Thread) : Nat → World κ → World κ
  | 0, w => w
  | n + 1, w => moves t n (w.move t)

/-- The moves of a body up to the end of its turn, a closed gate, or a number of moves. -/
theorem moves_runBody {t : Thread} {r : RoutineRef} (fuel : Nat) (w : World κ)
    (inside : w.turn t = some r) (free : w.waiting = []) :
    ∃ n, (moves t n w).sys = (System.runBody t r fuel w.sys).1 := by
  induction fuel generalizing w with
  | zero => exact ⟨0, rfl⟩
  | succ fuel ih =>
    have unlocked : ∀ id?, Option.any (isLocked w.waiting) id? = false := by
      intro id?
      cases id? <;> simp [isLocked, free]
    have moved : w.move t = match w.sys.move t r with
        | (s, .paused) => { w with sys := s, turn := w.without t }
        | (s, _) => { w with sys := s } := by
      simp only [move, inside, unlocked, Bool.false_eq_true, if_false]
    unfold System.runBody
    rcases outcome : w.sys.move t r with ⟨s, progress⟩
    rw [outcome] at moved
    cases progress with
    | going =>
      obtain ⟨n, rest⟩ := ih { w with sys := s } inside free
      exact ⟨n + 1, (congrArg (fun v => (moves t n v).sys) moved).trans rest⟩
    | paused => exact ⟨1, congrArg World.sys moved⟩
    | atGate gate => exact ⟨1, congrArg World.sys moved⟩

/-- A resume is to enter a turn and to make its moves. -/
theorem moves_enter (w : World κ) (t : Thread) (r : RoutineRef) (away : w.turn t = none)
    (free : w.waiting = []) : ∃ n, (moves t n (w.enter t r)).sys = (w.sys.resume t r).1 := by
  unfold enter System.resume
  rw [away]
  dsimp only
  rw [if_neg (fun absurd => absurd rfl)]
  split
  · exact ⟨0, rfl⟩
  · split
    · exact ⟨0, rfl⟩
    · split
      · exact ⟨0, rfl⟩
      · exact moves_runBody System.turnFuel _ (if_pos rfl) free

omit [Program κ] in
/-- The removal of a task that nobody holds does not wait. -/
theorem remove_of_free (w : World κ) (t : Thread) {id : UInt64} (sound : w.sys.Sound)
    (free : w.sys.FreeTask id) (unlocked : isLocked w.waiting id = false) :
    w.remove t id = { w with sys := (w.sys.removeById t id).1 } := by
  obtain ⟨sched, hs, agree⟩ := sound
  rw [remove, if_neg (Bool.eq_false_iff.mp unlocked)]
  cases found : sched.tasks.find? id with
  | none => rw [System.removeById_of_absent hs found]
  | some r =>
    obtain ⟨s', removed, -⟩ :=
      System.removeById_eq hs agree found (free r ((System.task?_eq hs id).trans found)) t
    rw [removed]

omit [Program κ] in
/-- Some steps of a shutdown. -/
def sweeps (t : Thread) : Nat → World κ → World κ
  | 0, w => w
  | n + 1, w => sweeps t n (w.sweep t)

omit [Program κ] in
/-- The removals of a shutdown, if nobody holds a task. -/
theorem sweeps_removals (w : World κ) (t : Thread) (unlocked : w.waiting = []) (ids : List UInt64)
    (s : System κ) (sound : s.Sound) (free : ∀ id, s.FreeTask id) :
    ∃ n, ∀ m, sweeps t (n + m) { w with sys := s, closing := some { rest := ids } } =
      sweeps t m { w with
        sys := ids.foldl (fun s id => (s.removeById t id).1) s
        closing := some { rest := [] } } := by
  induction ids generalizing s with
  | nil => exact ⟨0, fun m => by rw [Nat.zero_add]; rfl⟩
  | cons id rest ih =>
    obtain ⟨n, done⟩ := ih _ (sound.removeById (free id) t)
      fun other => .removeById sound (free id) (free other) t
    have away : isLocked w.waiting id = false := by rw [unlocked]; rfl
    let before : World κ := { w with sys := s, closing := some { rest := id :: rest } }
    have begun : before.sweep t = { w with
        sys := (s.removeById t id).1
        closing := some { rest, current := some id } } := by
      have went := before.remove_of_free t sound (free id) away
      simp only [sweep, before, away, Bool.false_eq_true, if_false] at went ⊢
      rw [went]
    have returned : (before.sweep t).sweep t = { w with
        sys := (s.removeById t id).1
        closing := some { rest } } := by
      rw [begun]
      simp only [sweep, away, Bool.false_eq_true, if_false]
    refine ⟨n + 2, fun m => ?_⟩
    rw [show n + 2 + m = (n + m) + 1 + 1 by omega]
    show sweeps t (n + m) ((before.sweep t).sweep t) = _
    rw [returned]
    exact done m

omit [Program κ] in
theorem processorsOf_removeById (s : System κ) (t : Thread) (id : UInt64) :
    processorsOf (s.removeById t id).1 = processorsOf s := by
  unfold System.removeById
  split
  · rfl
  · next sched hs =>
    split
    · rfl
    · rw [processorsOf, System.scheduler_removeRoutine, processorsOf, hs]
      show ((s.scheduler.map _).map _).getD [] = _
      rw [hs]
      rfl

omit [Program κ] in
/-- A shutdown is to begin it and to go on with it up to its end, if nobody holds a task. -/
theorem sweeps_shut (w : World κ) (t : Thread) (sound : w.sys.Sound) (free : ∀ id, w.sys.FreeTask id)
    (unlocked : w.waiting = []) (running : isStopped w.sys = false) :
    ∃ n, sweeps t n (w.shut t) = { w with sys := w.sys.shutdown t, closing := none } := by
  obtain ⟨sched, hs, -⟩ := id sound
  have running : sched.stopped = false := by
    rw [isStopped, hs, Option.any_some] at running
    exact running
  obtain ⟨silent, freeSilent⟩ := sound.silenced free t sched
  have shut : w.shut t = { w with
      sys := w.sys.silenced t sched
      closing := some { rest := w.sys.listed sched } } := by
    simp only [World.shut, hs, running, Bool.false_eq_true, if_false]
  have served : processorsOf (w.sys.silenced t sched) = sched.processors := by
    let raised := w.sys.modifyScheduler fun sched => { sched with stopped := true }
    have framed : System.Frame Routine.placement (raised.report t .shuttingDown)
        (w.sys.silenced t sched) := System.frame_stopServedGroups _ _
    rw [processorsOf, framed.scheduler]
    show ((w.sys.scheduler.map _).map _).getD [] = _
    rw [hs]
    rfl
  have processors : ∀ (ids : List UInt64) (s : System κ),
      processorsOf (ids.foldl (fun s id => (s.removeById t id).1) s) = processorsOf s := by
    intro ids
    induction ids with
    | nil => exact fun _ => rfl
    | cons id rest ih => exact fun s => (ih _).trans (processorsOf_removeById s t id)
  obtain ⟨n, removals⟩ := sweeps_removals w t unlocked (w.sys.listed sched) _ silent freeSilent
  refine ⟨n + 1, ?_⟩
  rw [shut, removals 1]
  simp only [sweeps, sweep, stopProcessors, processors, served, System.shutdown, hs, running,
    Bool.false_eq_true, if_false]
  rfl

end World

end CoopSched.Turns
