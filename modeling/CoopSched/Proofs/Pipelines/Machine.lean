import CoopSched.Proofs.Tasks.Consistency
import CoopSched.Proofs.Turns.Machine
/-!
# Pipelines

A pipeline is a row of tasks, its stages. Every stage has a queue of its own, which it reads, and for each
message that its callback is handed it puts a list of messages into the queue of the next stage. The last
stage puts nothing anywhere, and messages for the first one come from outside.

* `Emits` says what a callback does with a message, move by move; it may have a state of its own.
* `Pipeline.WellFormed` collects what has to hold of a pipeline, and `Pipeline.create` makes its stages
  tasks, in any order.
* `Pipeline.Allowed` lists what may happen then, move by move: searches, turns and releases by any number of
  threads, messages from outside, and everything that leaves the pipeline alone.
* `Pipeline.History` is any number of such actions. A ledger keeps the messages that were pushed from outside
  and those that the callbacks were handed.
-/

namespace CoopSched.Pipelines

open CoopSched.Turns (World)

variable {κ : Type}

/-! ## 1. Callbacks and stages -/

/-- `Emits labels rests out c vs`: the callback `c` puts the messages `vs` into the queue `out`, in order, and
then comes to its end as a callback that rests. On the way it may take steps of its own, log a line, ask who
it is and wait at gates. It neither yields nor panics. -/
inductive Emits [Program κ] (labels : Labels) (rests : κ → Prop) (out : Option QueueRef) :
    κ → List Int → Prop
  | finish {c rest : κ} : Program.next labels c = .finish rest → rests rest → Emits labels rests out c []
  | skip {c rest : κ} {vs : List Int} : Program.next labels c = .skip rest →
      Emits labels rests out rest vs → Emits labels rests out c vs
  | await {c rest : κ} {vs : List Int} {gate : String} : Program.next labels c = .await gate rest →
      Emits labels rests out rest vs → Emits labels rests out c vs
  | trace {c : κ} {vs : List Int} {text : String} {rest : Reply → κ} :
      Program.next labels c = .ask (.trace text) rest →
      Emits labels rests out (rest .nothing) vs → Emits labels rests out c vs
  | identity {c : κ} {vs : List Int} {rest : Reply → κ} : Program.next labels c = .ask .identity rest →
      (∀ id name, Emits labels rests out (rest (.identity id name)) vs) → Emits labels rests out c vs
  | push {c : κ} {vs : List Int} {q : QueueRef} {v : Int} {rest : Reply → κ} :
      Program.next labels c = .ask (.push q v) rest → out = some q →
      Emits labels rests out (rest .nothing) vs → Emits labels rests out c (v :: vs)

/-- A row of tasks. -/
structure Pipeline (κ : Type) where
  /-- How many stages there are. -/
  length : Nat
  name : Nat → String
  /-- The queue that a stage reads. -/
  queue : Nat → QueueRef
  callback : Nat → κ
  /-- What a stage makes of a message. -/
  output : Nat → Int → List Int
  /-- The callbacks that a stage may have between two messages. -/
  rests : Nat → κ → Prop

namespace Pipeline

/-- The numbers of the stages. -/
def stages (p : Pipeline κ) : List Nat := List.range p.length

@[simp] theorem mem_stages {p : Pipeline κ} {i : Nat} : i ∈ p.stages ↔ i < p.length := List.mem_range

/-- The queue that a stage fills: that of the next one, if there is one. -/
def next? (p : Pipeline κ) (i : Nat) : Option QueueRef :=
  if i + 1 < p.length then some (p.queue (i + 1)) else none

/-- No queue is read by two stages, and every callback makes of every message what it should, whatever
messages it was handed before. -/
structure WellFormed [Program κ] (p : Pipeline κ) (s : System κ) : Prop where
  nonempty : 0 < p.length
  bound : ∀ i < p.length, p.queue i < s.queues.size
  distinct : ∀ i < p.length, ∀ j < p.length, p.queue i = p.queue j → i = j
  rests : ∀ i < p.length, p.rests i (p.callback i)
  emits : ∀ i < p.length, ∀ c, p.rests i c → ∀ m,
    Emits s.labels (p.rests i) (p.next? i) (Program.deliver c m) (p.output i m)

/-- Make some stages tasks, in the given order. None if one of the creations is refused. -/
def create (p : Pipeline κ) (t : Thread) : List Nat → System κ → Option (System κ)
  | [], s => some s
  | i :: rest, s =>
    match s.createFrom t (.ofReader (p.queue i) (p.callback i)) (p.name i) with
    | (s, true) => p.create t rest s
    | (_, false) => none

/-- The routine of a stage. -/
def routine (p : Pipeline κ) (s : System κ) (i : Nat) : RoutineRef :=
  (s.task? (taskId (p.name i))).getD 0

end Pipeline

/-! ## 2. A scheduler at work -/

/-- A scheduler that has not been shut down: its table and its queues agree, and none of its groups has been
silenced. -/
structure AtWork (sched : Scheduler) (s : System κ) : Prop where
  scheduler : s.scheduler = some sched
  running : sched.stopped = false
  agree : s.Consistent sched.roster sched.tasks
  audible : ∀ g ∈ sched.roster.refs, (s.group g).stopped = false

namespace Pipeline

/-- The scheduler serves some stages: they are live tasks, each with a routine of its own, and what arrives in
their queues is announced to them. -/
structure Served (p : Pipeline κ) (stages : List Nat) (ref : Nat → RoutineRef) (sched : Scheduler)
    (s : System κ) : Prop where
  work : AtWork sched s
  live : ∀ i ∈ stages, sched.tasks.find? (taskId (p.name i)) = some (ref i)
  own : ∀ i ∈ stages, ∀ j ∈ stages, ref i = ref j → i = j
  bound : ∀ i ∈ stages, p.queue i < s.queues.size
  callback : ∀ i ∈ stages,
    (s.queue (p.queue i)).callback = some [.notifyTask sched.serial (taskId (p.name i))]

/-! ## 3. What may happen -/

/-- The stages are served as before, and neither their routines, the messages in their queues nor the turns
in which threads are with them have changed. -/
structure Apart (p : Pipeline κ) (ref : Nat → RoutineRef) (w w' : World κ) : Prop where
  served : ∃ sched, p.Served p.stages ref sched w'.sys
  labels : w'.sys.labels = w.sys.labels
  routine : ∀ i < p.length, w'.sys.routine (ref i) = w.sys.routine (ref i)
  messages : ∀ i < p.length,
    (w'.sys.queue (p.queue i)).messages = (w.sys.queue (p.queue i)).messages
  turn : ∀ i < p.length, ∀ t, w'.turn t = some (ref i) ↔ w.turn t = some (ref i)

/-- What belongs to the work of a pipeline: to search a group, to enter a turn, to make the moves of a stage,
to release a routine after its turn, and to put a message into the first queue from outside. Gates may be
opened at any time. -/
def isRegular (p : Pipeline κ) (w : World κ) : Turns.Action κ → Bool
  | .enter .. | .operate _ (.next _) | .operate _ (.openGate _) => true
  | .move t => (w.turn t).all fun r => p.stages.any fun i => r == p.routine w.sys i
  | .operate t (.onRoutine r .release) => (w.sys.routine r).holder == some t && w.turn t != some r
  | .operate _ (.push q _) => q == p.queue 0
  | _ => false

variable [Program κ]

/-- Any other action has to leave the pipeline alone. -/
def Allowed (p : Pipeline κ) (w : World κ) (a : Turns.Action κ) : Prop :=
  p.isRegular w a ∨ p.Apart (p.routine w.sys) w (w.perform a)

end Pipeline

/-- The messages that were pushed from outside, and those that the callback of a routine was handed. -/
structure Ledger where
  pushed : List Int := []
  handed : RoutineRef → List Int := fun _ => []

namespace Pipeline

/-- The message that an action pushes to the first stage from outside. -/
def arrival? (p : Pipeline κ) : Turns.Action κ → Option Int
  | .operate _ (.push q m) => if q = p.queue 0 then some m else none
  | _ => none

end Pipeline

/-- The message that an action hands to the callback of a routine: the body looks into its queue and finds
one. -/
def delivery? (w : World κ) (r : RoutineRef) : Turns.Action κ → Option Int
  | .move t =>
    if w.turn t = some r then
      match (w.sys.routine r).work with
      | .reader q .fetching _ => (w.sys.fetch q).2
      | _ => none
    else none
  | _ => none

namespace Pipeline

/-- The ledger after an action. -/
def record (p : Pipeline κ) (l : Ledger) (w : World κ) (a : Turns.Action κ) : Ledger where
  pushed := l.pushed ++ (p.arrival? a).toList
  handed r := l.handed r ++ (delivery? w r a).toList

variable [Program κ]

/-- Any number of allowed actions, in any order, and the ledger of them. -/
inductive History (p : Pipeline κ) (w₀ : World κ) : World κ → Ledger → Prop
  | start : p.History w₀ w₀ {}
  | step {w : World κ} {l : Ledger} (history : p.History w₀ w l) (a : Turns.Action κ)
      (allowed : p.Allowed w a) : p.History w₀ (w.perform a) (p.record l w a)

/-- The world and the ledger after some actions. -/
def replay (p : Pipeline κ) : List (Turns.Action κ) → World κ → Ledger → World κ × Ledger
  | [], w, l => (w, l)
  | a :: rest, w, l => p.replay rest (w.perform a) (p.record l w a)

/-- Does each of some actions belong to the work of the pipeline? -/
def areRegular (p : Pipeline κ) : List (Turns.Action κ) → World κ → Bool
  | [], _ => true
  | a :: rest, w => p.isRegular w a && p.areRegular rest (w.perform a)

theorem History.replay {p : Pipeline κ} {w₀ w : World κ} {l : Ledger} (history : p.History w₀ w l)
    {actions : List (Turns.Action κ)} (regular : p.areRegular actions w = true) :
    p.History w₀ (p.replay actions w l).1 (p.replay actions w l).2 := by
  induction actions generalizing w l with
  | nil => exact history
  | cons a rest ih =>
    rw [areRegular, Bool.and_eq_true] at regular
    exact ih (history.step a (.inl regular.1)) regular.2

/-- The stages of a pipeline have just been created. Threads may be in turns of routines that were there
before. -/
structure Begins (p : Pipeline κ) (before : System κ) (w : World κ) : Prop where
  formed : p.WellFormed before
  work : ∃ sched, AtWork sched before
  created : ∃ t order, order.Perm p.stages ∧ p.create t order before = some w.sys
  outside : ∀ t r, w.turn t = some r → r < before.routines.size

end Pipeline

/-- Nobody holds a routine, and no group of the scheduler has one to run. -/
structure Resting (t : Thread) (s : System κ) : Prop where
  free : ∀ r, (s.routine r).holder = none
  idle : ∀ sched, s.scheduler = some sched → ∀ g ∈ sched.roster.refs, (s.nextRoutine t g).2 = none

end CoopSched.Pipelines
