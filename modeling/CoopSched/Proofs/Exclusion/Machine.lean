import CoopSched.Proofs.Atomic
import CoopSched.System.Turn
/-!
# Threads that acquire, resume and release

Any number of threads come and go. Each has a token that no other thread has at the same time, and is in
the middle of at most one operation: an `acquire` or a `release` of its own, a search for the next routine
of a group, a resume, or the removal of a routine from a group. `World.perform` lets one thread take its
next indivisible step (`Activity.advance`). The moves of a body are steps of the thread that resumed it. A body
acquires and releases routines, but resumes none, so that a thread is in one turn at a time.

`World.holds` remembers which threads hold which routines: a thread holds a routine from the exchange that
made it the holder to its own release. No step depends on it.

A release is done without a look at the holder. The rules allow it to a thread that holds the routine
(`World.Allowed`), and this thread may be in the middle of a turn of it: then the body releases the routine that
it belongs to (`World.LetsGo`). The stricter rules exclude that as well (`World.Keeping`).
-/

namespace CoopSched.Exclusion

open CoopSched.System (Check Search Unlinking)

/-- What a thread is in the middle of. -/
inductive Activity where
  | idle
  | acquiring (r : RoutineRef)
  | releasing (r : RoutineRef)
  | searching (g : GroupRef) (step : Search)
  | entering (r : RoutineRef) (step : Check)
  | running (r : RoutineRef)
  | removing (g : GroupRef) (r : RoutineRef) (step : Unlinking)
  deriving DecidableEq, Repr

/-- What a step does to the holder of a routine. -/
inductive Deed where
  | neither
  | tries (r : RoutineRef)
  | drops (r : RoutineRef)
  deriving DecidableEq, Repr

variable {κ : Type}

/-! ## 1. Steps of one thread -/

/-- What the next move of a body does to the holder of a routine. -/
def Deed.ofMove {σ : Type} : Move κ σ → Deed
  | .ask (.onRoutine x .acquire) _ => .tries x
  | .ask (.onRoutine x .release) _ => .drops x
  | _ => .neither

variable [Program κ]

namespace Activity

/-- What the next step does to the holder of a routine. -/
def deed (s : System κ) : Activity → Deed
  | .acquiring r => .tries r
  | .releasing r => .drops r
  | .searching _ (.passing _ (r :: _)) => .tries r
  | .searching _ (.dropping r _ _) => .drops r
  | .running r => .ofMove ((s.routine r).work.next s.labels)
  | .removing _ _ (.acquiring _ _ x) => .tries x
  | .removing _ _ (.releasing x) => .drops x
  | _ => .neither

/-- The next step, and what the thread is in the middle of after it. -/
def advance (t : Thread) (s : System κ) : Activity → System κ × Activity
  | .idle => (s, .idle)
  | .acquiring r => ((s.acquire t r).1, .idle)
  | .releasing r => (s.release r, .idle)
  | .searching g step =>
    match s.search t g step with
    | (s, .inl step) => (s, .searching g step)
    | (s, .inr _) => (s, .idle)
  | .entering r step =>
    match s.check t r step with
    | (s, .inl step) => (s, .entering r step)
    | (s, .inr true) => (s, .running r)
    | (s, .inr false) => (s, .idle)
  | .running r =>
    match s.move t r with
    | (s, .paused) => (s, .idle)
    | (s, _) => (s, .running r)
  | .removing g r step =>
    match s.unlink t g r step with
    | (s, .inl step) => (s, .removing g r step)
    | (s, .inr _) => (s, .idle)

end Activity

/-! ## 2. Steps of all threads -/

/-- A thread that is there. -/
structure Worker where
  token : Thread
  doing : Activity
  deriving DecidableEq, Repr

/-- The system, its threads, and who holds what. -/
structure World (κ : Type) where
  sys : System κ
  workers : Nat → Option Worker := fun _ => none
  holds : Nat → RoutineRef → Prop := fun _ _ => False

/-- Something that a thread may begin. -/
inductive Operation where
  | acquire (r : RoutineRef)
  | release (r : RoutineRef)
  | nextRoutine (g : GroupRef)
  | resume (r : RoutineRef)
  | remove (g : GroupRef) (r : RoutineRef)
  deriving DecidableEq, Repr

/-- The activity at the begin of an operation. -/
def Operation.activity : Operation → Activity
  | .acquire r => .acquiring r
  | .release r => .releasing r
  | .nextRoutine g => .searching g .opening
  | .resume r => .entering r .stopFlag
  | .remove g r => .removing g r .finding

/-- What happens next. -/
inductive Action (κ : Type) where
  | start (n : Nat) (token : Thread)
  | finish (n : Nat)
  | begin (n : Nat) (operation : Operation)
  | step (n : Nat)
  | elsewhere (after : System κ)

/-- Others may do anything but hold routines, let go of them, or run their bodies. They may also add new
routines, which nobody holds. -/
structure Spares (s s' : System κ) : Prop where
  size : s.routines.size ≤ s'.routines.size
  holder : ∀ x, (s'.routine x).holder = (s.routine x).holder
  work : ∀ x < s.routines.size, (s'.routine x).work = (s.routine x).work

/-- Does a thread hold a routine after a step of its own, if nobody or somebody held it before? -/
def Deed.holds (deed : Deed) (x : RoutineRef) (free held : Prop) : Prop :=
  match deed with
  | .neither => held
  | .tries r => held ∨ r = x ∧ free
  | .drops r => held ∧ r ≠ x

namespace World

/-- A thread is somewhere else. -/
def setWorker (w : World κ) (n : Nat) (worker : Option Worker) : Nat → Option Worker :=
  fun m => if m = n then worker else w.workers m

/-- A thread takes its next step. -/
def advance (w : World κ) (n : Nat) (a : Worker) : World κ :=
  { sys := (a.doing.advance a.token w.sys).1
    workers := w.setWorker n (some { a with doing := (a.doing.advance a.token w.sys).2 })
    holds := fun m x =>
      if m = n then (a.doing.deed w.sys).holds x ((w.sys.routine x).holder = none) (w.holds n x)
      else w.holds m x }

/-- The next step. A thread that is not there, or not where the action begins, does nothing. -/
def perform (w : World κ) : Action κ → World κ
  | .start n token =>
    match w.workers n with
    | none => { w with workers := w.setWorker n (some ⟨token, .idle⟩) }
    | some _ => w
  | .finish n =>
    match w.workers n with
    | some ⟨_, .idle⟩ => { w with workers := w.setWorker n none }
    | _ => w
  | .begin n operation =>
    match w.workers n with
    | some ⟨token, .idle⟩ =>
      { w with workers := w.setWorker n (some ⟨token, operation.activity⟩) }
    | _ => w
  | .step n =>
    match w.workers n with
    | some a => w.advance n a
    | none => w
  | .elsewhere s => { w with sys := s }

/-- The rules for a thread that takes a step: it tries to hold only a routine that is there, and what it
releases of its own accord, by a call or in a turn, it holds. -/
def Obeys (w : World κ) (n : Nat) (a : Activity) : Prop :=
  match a.deed w.sys with
  | .neither => True
  | .tries r => r < w.sys.routines.size
  | .drops r =>
    match a with
    | .releasing _ | .running _ => w.holds n r
    | _ => True

/-- The rules: the tokens of the threads that are there are different, and a thread ends only while it
holds nothing. -/
def Allowed (w : World κ) : Action κ → Prop
  | .start _ token => ∀ m a, w.workers m = some a → a.token ≠ token
  | .finish n => ∀ x, ¬ w.holds n x
  | .begin _ _ => True
  | .step n => ∀ a, w.workers n = some a → w.Obeys n a.doing
  | .elsewhere s => Spares w.sys s

/-- A body is about to release the routine that it belongs to. -/
def LetsGo (w : World κ) : Action κ → Prop
  | .step n => ∃ a r, w.workers n = some a ∧ a.doing = .running r ∧ a.doing.deed w.sys = .drops r
  | _ => False

/-- The stricter rules: what a thread holds it keeps to the end of a turn of it. -/
def Keeping (w : World κ) (a : Action κ) : Prop := w.Allowed a ∧ ¬ w.LetsGo a

/-- Any number of steps by the rules, in any order. -/
inductive Run (rule : World κ → Action κ → Prop) (w₀ : World κ) : World κ → Prop
  | refl : Run rule w₀ w₀
  | step {w : World κ} (run : Run rule w₀ w) (a : Action κ) (allowed : rule w a) : Run rule w₀ (w.perform a)

/-- Runs by stricter rules are runs. -/
theorem Run.mono {rule rule' : World κ → Action κ → Prop} {w₀ w : World κ}
    (weaker : ∀ w a, rule w a → rule' w a) (run : Run rule w₀ w) : Run rule' w₀ w := by
  induction run with
  | refl => exact .refl
  | step _ a allowed ih => exact ih.step a (weaker _ a allowed)

/-- Nobody is there yet, and nobody holds a routine. -/
structure Begins (w : World κ) : Prop where
  free : ∀ x, (w.sys.routine x).holder = none
  world : w = { sys := w.sys }

end World

end CoopSched.Exclusion
