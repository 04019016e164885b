import CoopSched.Body
import CoopSched.Text.Quoted
/-!
# Routines

A routine is a body with a state, a holder and two flags. Whoever wants to run it has to hold it. The
operations here are the indivisible ones, each on the routine alone; their order is up to the caller.
-/

namespace CoopSched

/-- The threads of the machine: the main thread, a thread that was started for a single call, and the
processors. -/
inductive Thread where
  | main
  | helper
  | processor (index : Nat)
  deriving DecidableEq, Repr

/-- A unit of execution. -/
structure Routine (κ : Type) where
  id : UInt64 := 0
  name : String := ""
  /-- The name of the group it was put into last. -/
  group : String := ""
  priority : Nat := 0
  state : State := .ready
  /-- The thread that may run it now. -/
  holder : Option Thread := none
  /-- What it waits for may have come. -/
  recheck : Bool := false
  /-- It is not to run any more. -/
  stopped : Bool := false
  /-- When its sleep ends, in milliseconds. -/
  wakeAt : Nat := 0
  work : Work κ := .finished

namespace Routine

variable {κ : Type}

instance : Inhabited (Routine κ) := ⟨{}⟩

/-- Is there a holder? -/
def isHeld (r : Routine κ) : Bool := r.holder.isSome

/-- Let a thread hold the routine, unless somebody does. -/
def acquire (r : Routine κ) (t : Thread) : Routine κ × Bool :=
  match r.holder with
  | none => ({ r with holder := some t }, true)
  | some _ => (r, false)

/-- Nobody holds the routine any more. -/
def release (r : Routine κ) : Routine κ := { r with holder := none }

/-- Put the routine into a state. -/
def setState (r : Routine κ) (state : State) : Routine κ := { r with state }

/-- Take the recheck flag down. The answer is whether it was up. -/
def takeRecheck (r : Routine κ) : Routine κ × Bool := ({ r with recheck := false }, r.recheck)

/-- Make the routine ready if what it waits for has come: a sleeper whose time is over, or one that
waits with its recheck flag up. Only the latter uses the flag. -/
def update (r : Routine κ) (now : Nat) : Routine κ :=
  match r.state with
  | .sleep => if r.wakeAt ≤ now then r.setState .ready else r
  | .ioWait | .dataWait =>
    match r.takeRecheck with
    | (r, true) => r.setState .ready
    | (r, false) => r
  | .ready | .finished => r

/-- What it waits for may have come. -/
def requestRecheck (r : Routine κ) : Routine κ := { r with recheck := true }

/-- It is not to run any more. -/
def stop (r : Routine κ) : Routine κ := { r with stopped := true }

/-- Ready again, unless it has finished. -/
def wake (r : Routine κ) : Routine κ :=
  if r.state = .finished then r else r.setState .ready

/-- Waiting for data, whatever it was before. -/
def hangUp (r : Routine κ) : Routine κ := r.setState .dataWait

/-- Give up the turn. -/
def pause (r : Routine κ) (now : Nat) : Pause → Routine κ
  | .keep => r
  | .become state => r.setState state
  | .sleep millis => { r with wakeAt := now + millis, state := .sleep }

/-- The text shown for a routine. -/
def describe (r : Routine κ) : String :=
  "Routine \x7b id: " ++ toString r.id.toNat ++ ", name: " ++ Text.quoted r.name ++ ", group: " ++
    Text.quoted r.group ++ ", priority: " ++ toString r.priority ++ ", state: " ++
    r.state.describe ++ ", acquired: " ++ toString r.isHeld ++ " \x7d"

@[simp] theorem isHeld_release (r : Routine κ) : r.release.isHeld = false := rfl

theorem acquire_snd (r : Routine κ) (t : Thread) : (r.acquire t).2 = !r.isHeld := by
  cases h : r.holder <;> simp [acquire, isHeld, h]

/-- A routine that is not held is granted to the thread that asks. -/
theorem acquire_of_free {r : Routine κ} (h : r.holder = none) (t : Thread) :
    r.acquire t = ({ r with holder := some t }, true) := by
  simp [acquire, h]

end Routine

end CoopSched
