import CoopSched.Proofs.Turns.Leeway
/-!
# What is stopped stays stopped

Whatever is done to a system, a stopped routine stays stopped, and no body is advanced but the one whose turn
the acting thread is in (`World.rests_perform`). A stopped routine lets nobody enter a turn of it
(`World.turn_perform`). So a stopped routine that no thread is in a turn of has come to rest for ever
(`World.Run.rests`).
-/

namespace CoopSched.Turns

open CoopSched.System (Within)

variable {κ : Type} {s s' : System κ} {busy : Option RoutineRef}

/-! ## 1. Systems -/

/-- Every routine is still there, a stopped one is still stopped, and no body was advanced but that of the
busy routine. -/
structure Rests (busy : Option RoutineRef) (s s' : System κ) : Prop where
  size : s.routines.size ≤ s'.routines.size
  work : ∀ r < s.routines.size, busy ≠ some r → (s'.routine r).work = (s.routine r).work
  stopped : ∀ r < s.routines.size, (s.routine r).stopped = true → (s'.routine r).stopped = true

/-- No routine but the busy one goes on with its work, and none takes back a stop. -/
def halting (busy : Option RoutineRef) : Leeway κ where
  routine r x y := (busy ≠ some r → y.work = x.work) ∧ (x.stopped = true → y.stopped = true)
  queue _ _ _ := True

theorem lenient_halting (busy : Option RoutineRef) : (halting (κ := κ) busy).Lenient where
  refl _ _ := ⟨fun _ => rfl, id⟩
  trans first second := ⟨fun idle => (second.1 idle).trans (first.1 idle), second.2 ∘ first.2⟩
  refl_queue _ _ := trivial
  trans_queue _ _ := trivial
  place _ _ _ _ := ⟨fun _ => rfl, id⟩
  flag _ _ := ⟨fun _ => rfl, id⟩
  stop _ _ := ⟨fun _ => rfl, fun _ => rfl⟩
  install _ _ _ := trivial

theorem picks_halting (busy : Option RoutineRef) : (halting (κ := κ) busy).Picks :=
  fun _ x _ now _ _ => ⟨fun _ => x.work_update now, fun stopped => (x.stopped_update now).trans stopped⟩

/-- No call advances a body or takes back a stop. -/
theorem change_halting (r : RoutineRef) (op : RoutineOp) (t : Thread) (now : Nat) (x : Routine κ) :
    (halting busy).routine r x (op.change t now x) := by
  cases op with
  | update => exact ⟨fun _ => x.work_update now, fun stopped => (x.stopped_update now).trans stopped⟩
  | acquire =>
    simp only [RoutineOp.change, Routine.acquire]
    split <;> exact ⟨fun _ => rfl, id⟩
  | wake =>
    simp only [RoutineOp.change, Routine.wake]
    split <;> exact ⟨fun _ => rfl, id⟩
  | stop => exact ⟨fun _ => rfl, fun _ => rfl⟩
  | _ => exact ⟨fun _ => rfl, id⟩

theorem grants_halting (t : Thread) (r : RoutineRef) (request : Request κ) :
    (halting busy).Grants t r request := by
  cases request with
  | setState state => exact fun _ => ⟨fun _ => rfl, id⟩
  | onRoutine x op => exact fun y now => change_halting x op t now y
  | push q message => exact fun _ => trivial
  | fetch q => exact fun _ => trivial
  | _ => trivial

theorem covers_halting {σ : Type} (t : Thread) (r : RoutineRef) (m : Move κ σ) :
    (halting busy).Covers t r m := by
  cases m with
  | ask request rest => exact grants_halting t r request
  | pause how rest =>
    intro x now
    cases how <;> exact ⟨fun _ => rfl, id⟩
  | finish rest => exact fun _ => ⟨fun _ => rfl, id⟩
  | panic reason => exact fun _ => ⟨fun _ => rfl, id⟩
  | skip rest => trivial
  | await gate rest => trivial

namespace Rests

theorem of_within (h : Within (halting busy) s s') : Rests busy s s' :=
  ⟨h.routines, fun r hr => (h.routine r hr).1, fun r hr => (h.routine r hr).2⟩

theorem removeRoutine (s : System κ) (t : Thread) (g : GroupRef) (r : RoutineRef) :
    Rests busy s (s.removeRoutine t g r).1 :=
  of_within (.removeRoutine (lenient_halting busy) s t g r)

theorem serve (s : System κ) (t : Thread) (r : RoutineRef) (request : Request κ) :
    Rests busy s (s.serve t r request).1 :=
  of_within (.serve (lenient_halting busy) s t r (grants_halting t r request))

end Rests

/-! ## 2. Worlds -/

namespace World

variable {w w' : World κ} {r : RoutineRef}

theorem rests_remove (w : World κ) (t : Thread) (id : UInt64) : Rests none w.sys (w.remove t id).sys :=
  .of_within (within_remove (lenient_halting none) w t id)

theorem rests_conclude (w : World κ) (t : Thread) (id : UInt64) : Rests none w.sys (w.conclude t id).sys :=
  .of_within (within_conclude (lenient_halting none) w t id)

theorem rests_shut (w : World κ) (t : Thread) : Rests none w.sys (w.shut t).sys :=
  .of_within (within_shut (lenient_halting none) w t)

theorem rests_sweep (w : World κ) (t : Thread) : Rests none w.sys (w.sweep t).sys :=
  .of_within (within_sweep (lenient_halting none) w t)

variable [Program κ]

/-- The routine whose body an action may advance. -/
def turnOf? (w : World κ) : Action κ → Option RoutineRef
  | .move t => w.turn t
  | _ => none

theorem covered_halting (w : World κ) (a : Action κ) : w.CoveredBy (halting (w.turnOf? a)) a := by
  cases a with
  | enter t r => exact fun _ _ => ⟨fun _ => rfl, id⟩
  | move t =>
    intro r inside
    exact ⟨fun _ _ => ⟨fun idle => absurd inside idle, id⟩, covers_halting t r _⟩
  | operate t o =>
    cases o with
    | next g => exact picks_halting none
    | onRoutine r op => exact fun x now => change_halting r op t now x
    | setState r state => exact fun _ => ⟨fun _ => rfl, id⟩
    | push q message => exact fun _ => trivial
    | fetch q => exact fun _ => trivial
    | _ => trivial
  | _ => trivial

theorem rests_perform (w : World κ) (a : Action κ) : Rests (w.turnOf? a) w.sys (w.perform a).sys :=
  .of_within (within_perform (lenient_halting _) w (w.covered_halting a))

/-- A stopped routine lets nobody enter a turn of it. -/
theorem turn_perform (stopped : (w.sys.routine r).stopped = true) (away : ∀ t, w.turn t ≠ some r)
    (a : Action κ) (t : Thread) : (w.perform a).turn t ≠ some r := by
  intro inside
  rcases turn_perform_cases inside with before | ⟨-, -, running, -, -⟩
  · exact away t before
  · cases stopped.symm.trans running

/-- The routine is stopped, and no thread is in a turn of it. -/
structure AtRest (w : World κ) (r : RoutineRef) : Prop where
  bound : r < w.sys.routines.size
  stopped : (w.sys.routine r).stopped = true
  away : ∀ t, w.turn t ≠ some r

theorem AtRest.perform (h : w.AtRest r) (a : Action κ) : (w.perform a).AtRest r where
  bound := Nat.lt_of_lt_of_le h.bound (w.rests_perform a).size
  stopped := (w.rests_perform a).stopped r h.bound h.stopped
  away := turn_perform h.stopped h.away a

/-- A routine at rest stays at rest, and its body stays where it is. -/
theorem Run.rests {rule : World κ → Action κ → Prop} (run : Run rule w w') (h : w.AtRest r) :
    w'.AtRest r ∧ (w'.sys.routine r).work = (w.sys.routine r).work := by
  induction run with
  | refl => exact ⟨h, rfl⟩
  | @step v run a _ ih =>
    obtain ⟨rest, work⟩ := ih
    have idle : v.turnOf? a ≠ some r := by
      cases a with
      | move t => exact rest.away t
      | _ => exact nofun
    exact ⟨rest.perform a, ((v.rests_perform a).work r rest.bound idle).trans work⟩

end World

end CoopSched.Turns
