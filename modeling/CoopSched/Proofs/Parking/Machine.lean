import CoopSched.Proofs.Exclusion.Deeds
import CoopSched.Proofs.Outside.Lasting
/-!
# Processors that park on the count of their group

Any number of processors serve one group, and any number of notifiers tell it of routines. `World.perform` lets
one of them take its next indivisible step:

* a processor searches the group slot by slot (`System.search`), checks and runs what it has found, one move of
  the body at a time, and releases it; if it has found nothing it waits (`Station.advance`);
* a notifier reads the state of its routine, puts the recheck flag up if the routine waits, and tells the group
  (`Errand.advance`).

A wait has no timeout here: it blocks while the count of the group is zero, and takes one off otherwise. Bodies
may do anything that leaves the group unstopped (`World.Audible`), so that no processor is asked to stop.

`World.overlooked` remembers the routines that a search has passed, because somebody held them, while they
waited with their recheck flag up, and that have waited with the flag up ever since. No step depends on it.
-/

namespace CoopSched.Parking

open CoopSched.System (Check Search)
open CoopSched.Exclusion (Deed)

variable {κ : Type}

/-- Does a routine wait with its recheck flag up? -/
def flagged (s : System κ) (x : RoutineRef) : Bool :=
  (s.routine x).state.isWaiting && (s.routine x).recheck

/-! ## 1. Steps of one thread -/

/-- Where the loop of a processor stands: in a search, at the checks before a turn, in a turn, about to release
the routine after it, or about to wait. -/
inductive Station where
  | searching (step : Search)
  | entering (r : RoutineRef) (step : Check)
  | running (r : RoutineRef)
  | leaving (r : RoutineRef)
  | waiting
  deriving DecidableEq, Repr

/-- Where a notifier stands: about to read the state of its routine, to put the flag up, or to tell the group. -/
inductive Errand where
  | reading (r : RoutineRef)
  | flagging (r : RoutineRef)
  | telling
  | done
  deriving DecidableEq, Repr

/-- The next step of a notifier, and where it stands then. -/
def Errand.advance (g : GroupRef) (s : System κ) : Errand → System κ × Errand
  | .reading r => (s, if (s.routine r).state.isWaiting then .flagging r else .telling)
  | .flagging r => (s.modifyRoutine r Routine.requestRecheck, .telling)
  | .telling => (s.modifyGroup g Group.notify, .done)
  | .done => (s, .done)

namespace Station

/-- The routine that the next step of a search passes because somebody holds it. -/
def passes? (s : System κ) : Station → Option RoutineRef
  | .searching (.passing _ (r :: _)) => if (s.routine r).isHeld then some r else none
  | _ => none

/-- The next step of a processor, and where it stands then. -/
def advance [Program κ] (g : GroupRef) (t : Thread) (s : System κ) : Station → System κ × Station
  | .searching step =>
    match s.search t g step with
    | (s, .inl step) => (s, .searching step)
    | (s, .inr (some r)) => (s, .entering r .stopFlag)
    | (s, .inr none) => (s, .waiting)
  | .entering r step =>
    match s.check t r step with
    | (s, .inl step) => (s, .entering r step)
    | (s, .inr true) => (s, .running r)
    | (s, .inr false) => (s, .leaving r)
  | .running r =>
    match s.move t r with
    | (s, .paused) => (s, .leaving r)
    | (s, _) => (s, .running r)
  | .leaving r => (s.release r, .searching .opening)
  | .waiting =>
    if (s.group g).pending = 0 then (s, .waiting)
    else (s.modifyGroup g Group.wait, .searching .opening)

section

variable [Program κ] (g : GroupRef) (t : Thread) (s : System κ)

theorem fst_advance_searching (step : Search) :
    ((searching step).advance g t s).1 = (s.search t g step).1 := by
  simp only [advance]
  split <;> next outcome => rw [outcome]

theorem fst_advance_entering (r : RoutineRef) (step : Check) :
    ((entering r step).advance g t s).1 = (s.check t r step).1 := by
  simp only [advance]
  split <;> next outcome => rw [outcome]

theorem fst_advance_running (r : RoutineRef) : ((running r).advance g t s).1 = (s.move t r).1 := by
  simp only [advance]
  split <;> next outcome => rw [outcome]

end

end Station

/-! ## 2. Steps of all threads -/

/-- The system, its processors by number, its notifiers in the order in which they came, and what was
overlooked. -/
structure World (κ : Type) where
  sys : System κ
  stations : List Station
  errands : List Errand := []
  overlooked : RoutineRef → Bool := fun _ => false

/-- What happens next. -/
inductive Action where
  | serve (p : Nat)
  | notify (r : RoutineRef)
  | proceed (n : Nat)
  | elapse (millis : Nat)
  deriving DecidableEq, Repr

namespace World

/-- The system has changed in a step that passed a routine, or none. -/
def become (w : World κ) (passed : Option RoutineRef) (s : System κ) : World κ :=
  { w with
    sys := s
    overlooked := fun x => (w.overlooked x || decide (passed = some x)) && flagged s x }

theorem overlooked_become {w : World κ} {passed : Option RoutineRef} {s : System κ} {x : RoutineRef} :
    (w.become passed s).overlooked x = true ↔
      (w.overlooked x = true ∨ passed = some x) ∧ flagged s x = true := by
  simp [become]

variable [Program κ]

/-- The next step. A processor or notifier that is not there does nothing. -/
def perform (g : GroupRef) (w : World κ) : Action → World κ
  | .serve p =>
    match w.stations[p]? with
    | none => w
    | some a =>
      let (s, after) := a.advance g (.processor p) w.sys
      { w.become (a.passes? w.sys) s with stations := w.stations.set p after }
  | .notify r => { w with errands := w.errands ++ [.reading r] }
  | .proceed n =>
    match w.errands[n]? with
    | none => w
    | some e =>
      let (s, after) := e.advance g w.sys
      { w.become none s with errands := w.errands.set n after }
  | .elapse millis => w.become none (w.sys.elapse millis)

/-- The rule: the group is not stopped. -/
def Audible (g : GroupRef) (w : World κ) (a : Action) : Prop :=
  ((w.perform g a).sys.group g).stopped = false

/-- Besides, no body acquires a routine or releases one. -/
structure Modest (g : GroupRef) (w : World κ) (a : Action) : Prop where
  audible : w.Audible g a
  spares : ∀ p r, a = .serve p → w.stations[p]? = some (.running r) →
    Deed.ofMove ((w.sys.routine r).work.next w.sys.labels) = .neither

/-- Any number of steps that obey a rule, in any order. -/
inductive Run (g : GroupRef) (rule : World κ → Action → Prop) (w₀ : World κ) : World κ → Prop
  | refl : Run g rule w₀ w₀
  | step {w : World κ} (run : Run g rule w₀ w) (a : Action) (allowed : rule w a) :
      Run g rule w₀ (w.perform g a)

/-- What a step keeps, a run keeps. -/
theorem Run.keeps {g : GroupRef} {rule : World κ → Action → Prop} {w₀ w : World κ} (run : Run g rule w₀ w)
    {P : World κ → Prop} (keeps : ∀ {w} a, P w → rule w a → P (w.perform g a)) (h : P w₀) : P w := by
  induction run with
  | refl => exact h
  | step _ a allowed ih => exact keeps a ih allowed

omit [Program κ] in
/-- The group is not stopped, its processors are about to search it, and no notifier has come yet. Only without
any processor there is nothing to look for. -/
structure Begins (g : GroupRef) (w : World κ) : Prop where
  bound : g < w.sys.groups.size
  audible : (w.sys.group g).stopped = false
  starts : ∀ a ∈ w.stations, a = .searching .opening
  served : w.stations = [] → ∀ x ∈ (w.sys.group g).slots, flagged w.sys x = false
  world : w = { sys := w.sys, stations := w.stations }

/-! ## 3. What is looked for -/

omit [Program κ] in
/-- The count is positive, or some processor is not blocked. -/
def Awake (g : GroupRef) (w : World κ) : Prop :=
  0 < (w.sys.group g).pending ∨ ∃ a ∈ w.stations, a ≠ .waiting

omit [Program κ] in
/-- As long as some queued routine that nobody holds waits with its flag up, there is a notification to answer,
or a processor at work. -/
def Answers (g : GroupRef) (w : World κ) : Prop :=
  ∀ x ∈ (w.sys.group g).slots, (w.sys.routine x).holder = none → flagged w.sys x = true → w.Awake g

end World

end CoopSched.Parking
