import CoopSched.Proofs.Kept
import CoopSched.Proofs.Turns.Machine
/-!
# Everything that can be done to a system

`Step` lists what callers, processors and bodies do, one thing at a time, and what outsiders may do besides:
they change priorities and groups of routines, queue them, and speak to groups without the scheduler. A `Run`
is any number of steps that obey a rule.

A removal that finds its routine held waits. When nobody holds the routine any more it takes the slot
(`Step.conclude`), wherever the routine belongs by then.
-/

namespace CoopSched

namespace Outside

open CoopSched.Turns (Operation)

variable {κ : Type}

inductive Step (κ : Type) where
  | operate (o : Operation κ)
  | remove (id : UInt64)
  | removeTask (name : String)
  | conclude (g : GroupRef) (l : Priority) (position : Nat) (r : RoutineRef)
  | shutdown
  | resume (r : RoutineRef)
  | move (r : RoutineRef)
  | serve (p : Nat)

variable [Program κ]

/-- The system after a step of a thread. -/
def Step.apply (s : System κ) (t : Thread) : Step κ → System κ
  | .operate o => o.apply s t
  | .remove id => (s.removeById t id).1
  | .removeTask name => (s.removeTask t name).1
  | .conclude g l position r => (s.modifyGroup g (·.eraseAt l position)).release r
  | .shutdown => s.shutdown t
  | .resume r => (s.resume t r).1
  | .move r => (s.move t r).1
  | .serve p => s.serveStep p

/-- Any number of steps that obey a rule, by any threads. -/
inductive Run (rule : System κ → Step κ → Prop) (s₀ : System κ) : System κ → Prop
  | refl : Run rule s₀ s₀
  | step {s : System κ} (run : Run rule s₀ s) (t : Thread) (a : Step κ) (allowed : rule s a) :
      Run rule s₀ (a.apply s t)

/-- The systems that the runs of a scheduler come to, from its start. -/
def Reachable (rule : System κ → Step κ → Prop) (s : System κ) : Prop :=
  ∃ (s₀ : System κ) (t : Thread) (conf : SchedulerConf), Run rule (s₀.startScheduler t conf) s

/-- What a step keeps, a run keeps. -/
theorem Run.keeps {rule : System κ → Step κ → Prop} {s s' : System κ} (run : Run rule s s')
    {P : System κ → Prop} (keeps : ∀ {s} t a, P s → rule s a → P (a.apply s t)) (h : P s) : P s' := by
  induction run with
  | refl => exact h
  | step _ t a allowed ih => exact keeps t a ih allowed

omit [Program κ] in
/-- Calls that add no routine or group, and leave the queues and the scheduler alone, except for the creation
of a task. -/
def Plain : Operation κ → Prop
  | .start _ | .forget | .newRoutine .. | .newGroup _ | .dispatch _ | .insert .. | .unlink .. => False
  | _ => True

omit [Program κ] in
/-- A property that turns keep is kept by these calls too. -/
theorem keeps_plain {β : Type} {view : Routine κ → β} {P : System κ → Prop} {s : System κ}
    (kept : System.Kept view P) (place : IgnoresPlace view) (h : P s) (t : Thread) {o : Operation κ}
    (plain : Plain o) : P (o.apply s t) := by
  cases o with
  | newQueue => exact kept.same h ⟨rfl, rfl, rfl, rfl⟩
  | create work name source => exact kept.create t work name source h
  | notifyTask id => exact kept.notifyTask h id
  | notifyProcessor id => exact kept.notifyProcessor h id
  | next g => exact kept.nextRoutine h t g
  | notifyGroup g => exact kept.group g .notify h
  | silenceGroup g => exact kept.group g .shutdown h
  | waitGroup g => exact kept.group g .wait h
  | onRoutine r op => exact kept.applyOp h t r op
  | setState r state => exact kept.routine r (fun x => kept.status.setState x state) h
  | setPriority r priority => exact kept.routine r (fun x => place x x.group priority) h
  | setGroup r name => exact kept.routine r (fun x => place x name x.priority) h
  | push q message => exact kept.push h t q message
  | fetch q => exact kept.modifyQueue h q _
  | install q callback => exact kept.modifyQueue h q _
  | stopProcessor p => exact kept.stopProcessor h t p
  | openGate gate => exact kept.openGate h gate
  | elapse millis => exact kept.same h ⟨rfl, rfl, rfl, rfl⟩
  | start conf => exact plain.elim
  | forget => exact plain.elim
  | newRoutine id name work => exact plain.elim
  | newGroup name => exact plain.elim
  | dispatch r => exact plain.elim
  | insert g r => exact plain.elim
  | unlink g r => exact plain.elim

end Outside

end CoopSched
