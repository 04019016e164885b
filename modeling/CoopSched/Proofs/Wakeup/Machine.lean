import CoopSched.Proofs.Atomic
import CoopSched.Proofs.Tasks.Operations
/-!
# Arrivals, processors and the body of a reader, interleaved

One task reads one queue. Any number of threads push messages into the queue, any number of processors
try to run the task, and the two steps of its creation may come late. `World.perform` lets a thread take
its next indivisible step:

* a push puts its message into the queue, and then announces it step by step (`System.deliver`);
* a processor acquires the routine, examines it (`System.look`), checks it (`System.check`), makes the
  moves of its body one by one, and releases it;
* a message callback that pushes into the queue of its own task goes through the same steps;
* the creation dispatches the routine, and then installs the arrival callback.

Everything else that happens in the system is in `Action.elsewhere`, as long as it spares the task.
The last three fields of a `World` record the past. No step depends on them.
-/

namespace CoopSched.Wakeup

open CoopSched.System (Delivery Look Check)

/-- A task that reads a queue: its routine, its queue, its id, and the number of its scheduler. -/
structure Task where
  routine : RoutineRef
  queue : QueueRef
  serial : Nat
  id : UInt64

/-- The arrival callback that the creation of the task installs. -/
def Task.callback (T : Task) : List Announcement := [.notifyTask T.serial T.id]

/-- What a thread is in the middle of. A delivery remembers how often the body had found the queue empty
when its message was put in, and whether it was the callback of the body that pushed. -/
inductive Activity where
  | away
  | delivering (since : Nat) (inside : Bool) (step : Delivery)
  | examining (step : Look)
  | entering (step : Check)
  | running
  | leaving
  deriving DecidableEq, Repr

/-- How far the creation of the task is. -/
inductive Creation where
  | begun
  | dispatched
  | returned
  deriving DecidableEq, Repr

/-- The system, what its threads are in the middle of, and what is worth remembering. -/
structure World (κ : Type) where
  sys : System κ
  doing : Thread → Activity := fun _ => .away
  creation : Creation
  /-- How often the body has found the queue empty. -/
  empties : Nat := 0
  /-- Since the body last found the queue empty, a message was put in whose announcement found no
  callback. -/
  missed : Bool := false
  /-- Since the body last found the queue empty, or since ever, the recheck flag was up. -/
  told : Bool := false

variable {κ : Type}

/-! ## 1. Sparing the task -/

namespace Task

/-- A notification of the task reaches its routine. -/
def Live (T : Task) (s : System κ) : Prop := s.notified? T.serial T.id = some T.routine

/-- The task is not stopped, not removed and not connected to its queue in another way. -/
structure Spares (T : Task) (s s' : System κ) : Prop where
  routines : s.routines.size ≤ s'.routines.size
  queues : s.queues.size ≤ s'.queues.size
  id : (s'.routine T.routine).id = (s.routine T.routine).id
  stopped : (s'.routine T.routine).stopped = (s.routine T.routine).stopped
  callback : (s'.queue T.queue).callback = (s.queue T.queue).callback
  serial : s'.scheduler.map (·.serial) = s.scheduler.map (·.serial)
  live : T.Live s → T.Live s'

/-- A message callback may do anything that spares its task and does not let it be held by others. -/
structure Minds (T : Task) (s s' : System κ) : Prop extends T.Spares s s' where
  holder : (s'.routine T.routine).holder = (s.routine T.routine).holder

/-- Others may do anything that spares the task and leaves its routine and its messages alone. They may
put up its recheck flag. -/
structure Ignores (T : Task) (s s' : System κ) : Prop extends T.Minds s s' where
  state : (s'.routine T.routine).state = (s.routine T.routine).state
  work : (s'.routine T.routine).work = (s.routine T.routine).work
  messages : (s'.queue T.queue).messages = (s.queue T.queue).messages
  recheck : (s.routine T.routine).recheck = true → (s'.routine T.routine).recheck = true

/-- Is the body about to find its queue empty? -/
def findsEmpty (T : Task) (s : System κ) : Bool :=
  match (s.routine T.routine).work with
  | .reader _ .fetching _ => (s.queue T.queue).messages.isEmpty
  | _ => false

end Task

/-! ## 2. Steps -/

/-- What happens next. -/
inductive Action (κ : Type) where
  | push (t : Thread) (message : Int)
  | deliver (t : Thread)
  | take (t : Thread)
  | examine (t : Thread)
  | enter (t : Thread)
  | move (t : Thread)
  | leave (t : Thread)
  | dispatch (t : Thread)
  | register
  | elsewhere (after : System κ)

/-- The thread that takes the step. -/
def Action.thread? : Action κ → Option Thread
  | .push t _ | .deliver t | .take t | .examine t | .enter t | .move t | .leave t => some t
  | .dispatch _ | .register | .elsewhere _ => none

namespace World

/-- The system has changed. -/
def become (T : Task) (w : World κ) (s : System κ) : World κ :=
  { w with sys := s, told := w.told || (s.routine T.routine).recheck }

/-- That the flag was up is remembered, whatever becomes of the system. -/
theorem told_become {w : World κ} (told : w.told = true) (T : Task) (s : System κ) :
    (w.become T s).told = true := by
  show (w.told || _) = true
  rw [told, Bool.true_or]

/-- The system has changed, and a thread is in the middle of something else. -/
def turn (T : Task) (w : World κ) (t : Thread) (s : System κ) (next : Activity) : World κ :=
  { w.become T s with doing := fun u => if u = t then next else w.doing u }

theorem doing_turn_self {T : Task} (w : World κ) (t : Thread) (s : System κ) (next : Activity) :
    (w.turn T t s next).doing t = next := if_pos rfl

theorem doing_turn_of_ne {T : Task} (w : World κ) {t u : Thread} (hu : u ≠ t) (s : System κ)
    (next : Activity) : (w.turn T t s next).doing u = w.doing u := if_neg hu

/-- After a turn a thread is in the middle of what the turn has led to, if it was its own, or of the same
as before. -/
theorem doing_turn_eq {T : Task} {w : World κ} {t u : Thread} {s : System κ} {next a : Activity}
    (doing : (w.turn T t s next).doing u = a) : u = t ∧ next = a ∨ u ≠ t ∧ w.doing u = a := by
  rcases Decidable.em (u = t) with rfl | other
  · exact .inl ⟨rfl, (doing_turn_self w u s next).symm.trans doing⟩
  · exact .inr ⟨other, (doing_turn_of_ne w other s next).symm.trans doing⟩

/-- A step of an announcement. One that ends where the callback was to be read has missed it. -/
def deliver (T : Task) (w : World κ) (t : Thread) (since : Nat) (inside : Bool) (d : Delivery) :
    World κ :=
  match w.sys.deliver t T.queue d with
  | (s, .inl d) => w.turn T t s (.delivering since inside d)
  | (s, .inr ()) =>
    { w.turn T t s (if inside then .running else .away) with
      missed := w.missed || decide (d = .calling ∧ 0 < w.empties ∧ since = w.empties) }

/-- A step of an examination. -/
def examine (T : Task) (w : World κ) (t : Thread) (l : Look) : World κ :=
  match w.sys.look T.routine l with
  | (s, .inl next) => w.turn T t s (.examining next)
  | (s, .inr true) => w.turn T t s (.entering .stopFlag)
  | (s, .inr false) => w.turn T t s .leaving

/-- A step of the begin of a resume. -/
def enter (T : Task) (w : World κ) (t : Thread) (e : Check) : World κ :=
  match w.sys.check t T.routine e with
  | (s, .inl next) => w.turn T t s (.entering next)
  | (s, .inr true) => w.turn T t s .running
  | (s, .inr false) => w.turn T t s .leaving

variable [Program κ]

/-- A whole move of the body. -/
def moveOn (T : Task) (w : World κ) (t : Thread) : World κ :=
  match w.sys.move t T.routine with
  | (s, progress) =>
    let w' := w.turn T t s (if progress = .paused then .leaving else .running)
    if T.findsEmpty w.sys then
      { w' with
        empties := w.empties + 1, missed := false, told := (s.routine T.routine).recheck }
    else w'

/-- A step of the body: a move, except that a push into the queue of the task is announced step by
step afterwards. -/
def move (T : Task) (w : World κ) (t : Thread) : World κ :=
  match (w.sys.routine T.routine).work.next w.sys.labels with
  | .ask (.push q message) rest =>
    if q = T.queue then
      let s := w.sys.modifyQueue T.queue (·.push message)
      let s := s.modifyRoutine T.routine fun x => { x with work := rest .nothing }
      w.turn T t s (.delivering w.empties true .calling)
    else w.moveOn T t
  | _ => w.moveOn T t

/-- The next step. A thread that is not where the action begins does nothing. -/
def perform (T : Task) (w : World κ) : Action κ → World κ
  | .push t message =>
    if w.doing t = .away then
      w.turn T t (w.sys.modifyQueue T.queue (·.push message)) (.delivering w.empties false .calling)
    else w
  | .deliver t =>
    match w.doing t with
    | .delivering since inside d => w.deliver T t since inside d
    | _ => w
  | .take t =>
    if w.doing t = .away ∧ w.creation ≠ .begun then
      match w.sys.acquire t T.routine with
      | (s, true) => w.turn T t s (.examining .reading)
      | (s, false) => w.turn T t s .away
    else w
  | .examine t =>
    match w.doing t with
    | .examining l => w.examine T t l
    | _ => w
  | .enter t =>
    match w.doing t with
    | .entering e => w.enter T t e
    | _ => w
  | .move t => if w.doing t = .running then w.move T t else w
  | .leave t =>
    if w.doing t = .leaving then w.turn T t (w.sys.release T.routine) .away else w
  | .dispatch t =>
    if w.creation = .begun then
      match w.sys.dispatch t T.routine with
      | (s, true) => { w.become T s with creation := .dispatched }
      | (_, false) => w
    else w
  | .register =>
    if w.creation = .dispatched then
      { w.become T (w.sys.modifyQueue T.queue (·.install T.callback)) with creation := .returned }
    else w
  | .elsewhere s => w.become T s

/-- A step is a step of one thread. -/
theorem doing_perform_of_ne (T : Task) (w : World κ) {a : Action κ} {t : Thread}
    (other : a.thread? ≠ some t) : (w.perform T a).doing t = w.doing t := by
  have frame : ∀ {u : Thread}, some u ≠ some t → ∀ (s : System κ) (next : Activity),
      (w.turn T u s next).doing t = w.doing t := by
    intro u ne s next
    exact doing_turn_of_ne w (fun same => ne (congrArg some same.symm)) s next
  cases a with
  | push u message =>
    simp only [perform]
    split
    · exact frame other _ _
    · rfl
  | deliver u =>
    simp only [perform, deliver]
    split
    · split
      · exact frame other _ _
      · next s outcome => exact frame other s _
    · rfl
  | take u =>
    simp only [perform]
    split
    · split
      · exact frame other _ _
      · exact frame other _ _
    · rfl
  | examine u =>
    simp only [perform, examine]
    split
    · split
      · exact frame other _ _
      · exact frame other _ _
      · exact frame other _ _
    · rfl
  | enter u =>
    simp only [perform, enter]
    split
    · split
      · exact frame other _ _
      · exact frame other _ _
      · exact frame other _ _
    · rfl
  | move u =>
    have moveOn : (w.moveOn T u).doing t = w.doing t := by
      simp only [moveOn]
      split
      · exact frame other (w.sys.move u T.routine).1 _
      · exact frame other _ _
    simp only [perform, move]
    split
    · split
      · split
        · exact frame other _ _
        · exact moveOn
      · exact moveOn
    · rfl
  | leave u =>
    simp only [perform]
    split
    · exact frame other _ _
    · rfl
  | dispatch u =>
    simp only [perform]
    split
    · split <;> rfl
    · rfl
  | register =>
    simp only [perform]
    split <;> rfl
  | elsewhere s => rfl

/-- The callback minds its task, and what happens elsewhere leaves the task alone. -/
def Allowed (T : Task) (w : World κ) : Action κ → Prop
  | .move t => w.doing t = .running →
      (∃ q c, (w.sys.routine T.routine).work = .reader q .handling c) →
      T.Minds w.sys (w.sys.move t T.routine).1
  | .elsewhere s => T.Ignores w.sys s
  | _ => True

/-- Any number of steps, in any order. -/
inductive Run (T : Task) : World κ → World κ → Prop
  | refl (w : World κ) : Run T w w
  | step {w w' : World κ} (run : Run T w w') (a : Action κ) (allowed : w'.Allowed T a) :
      Run T w (w'.perform T a)

/-- Step by step, so many actions. -/
def performAll (T : Task) (w : World κ) (as : List (Action κ)) : World κ :=
  as.foldl (perform T) w

theorem doing_performAll_of_ne (T : Task) (w : World κ) {as : List (Action κ)} {t : Thread}
    (others : ∀ a ∈ as, a.thread? ≠ some t) : (w.performAll T as).doing t = w.doing t := by
  induction as generalizing w with
  | nil => rfl
  | cons a as ih =>
    refine (ih (w.perform T a) fun b mem => others b (List.mem_cons_of_mem a mem)).trans ?_
    exact doing_perform_of_ne T w (others a List.mem_cons_self)

/-- Each of the actions is allowed when its turn has come. -/
def AllowedAll (T : Task) : World κ → List (Action κ) → Prop
  | _, [] => True
  | w, a :: as => w.Allowed T a ∧ (w.perform T a).AllowedAll T as

theorem Run.performAll {T : Task} {w₀ w : World κ} (run : Run T w₀ w) {as : List (Action κ)}
    (allowed : w.AllowedAll T as) : Run T w₀ (w.performAll T as) := by
  induction as generalizing w with
  | nil => exact run
  | cons a as ih => exact ih (run.step a allowed.1) allowed.2

end World

/-! ## 3. Beginnings -/

/-- A fresh routine whose body reads a queue with a callback. -/
structure Task.Fresh (T : Task) (c : κ) (s : System κ) : Prop where
  routine : T.routine < s.routines.size
  queue : T.queue < s.queues.size
  id : (s.routine T.routine).id = T.id
  serial : s.scheduler.map (·.serial) = some T.serial
  state : (s.routine T.routine).state = .ready
  holder : (s.routine T.routine).holder = none
  recheck : (s.routine T.routine).recheck = false
  stopped : (s.routine T.routine).stopped = false
  work : (s.routine T.routine).work = .reader T.queue .parking c

/-- Nobody does anything yet, and the creation of the task has only begun: the routine is not in the
table, and the queue has no arrival callback. -/
structure World.Begins (T : Task) (c : κ) (w : World κ) : Prop where
  fresh : T.Fresh c w.sys
  callback : (w.sys.queue T.queue).callback = none
  world : w = { sys := w.sys, creation := .begun }

/-- Nobody does anything yet, and the creation of the task has returned: the routine is in the table, and
the arrival callback is installed. -/
structure World.Created (T : Task) (c : κ) (w : World κ) : Prop where
  fresh : T.Fresh c w.sys
  live : T.Live w.sys
  callback : (w.sys.queue T.queue).callback = some T.callback
  world : w = { sys := w.sys, creation := .returned }

end CoopSched.Wakeup
