import CoopSched.Proofs.Wakeup.Control
/-!
# Callbacks that keep their turn

A callback that neither gives up its turn nor panics is run to its end in the turn that began it. The
body of such a task is in the middle of its callback only while a thread is in the middle of its turn
(`Calm`), and so it is never there while nobody holds the routine.

The invariant is about tasks whose creation has returned. No announcement of theirs misses its callback.
-/

namespace CoopSched.Wakeup

variable {κ : Type} {T : Task} {calm : κ → Prop} {w : World κ} {s : System κ} {t : Thread}
  {next : Activity}

/-! ## 1. The invariant -/

/-- A set of callbacks, in all their stages, that neither give up a turn nor panic. It is closed under
whatever a callback of the set does next, up to its next message. -/
structure Steady [Program κ] (calm : κ → Prop) : Prop where
  skip {labels : Labels} {c k : κ} : calm c → Program.next labels c = .skip k → calm k
  ask {labels : Labels} {c : κ} {request : Request κ} {rest : Reply → κ} (reply : Reply) :
    calm c → Program.next labels c = .ask request rest → calm (rest reply)
  await {labels : Labels} {c k : κ} {gate : String} :
    calm c → Program.next labels c = .await gate k → calm k
  finish {labels : Labels} {c k : κ} (message : Int) :
    calm c → Program.next labels c = .finish k → calm (Program.deliver k message)
  pause {labels : Labels} {c k : κ} {how : Pause} :
    calm c → Program.next labels c ≠ .pause how k
  panic {labels : Labels} {c : κ} {reason : String} :
    calm c → Program.next labels c ≠ .panic reason

/-- The thread is in the middle of a turn of the body. -/
def Activity.IsTurn : Activity → Prop
  | .running => True
  | .delivering _ inside _ => inside = true
  | _ => False

/-- A body that reads the queue with a callback of the set: one in progress, or one that waits for its
next message. -/
inductive CalmBody [Program κ] (T : Task) (calm : κ → Prop) : Work κ → Prop
  | handling {c : κ} : calm c → CalmBody T calm (.reader T.queue .handling c)
  | between {stage : ReaderPhase} {c : κ} : stage ≠ .handling →
      (∀ message, calm (Program.deliver c message)) → CalmBody T calm (.reader T.queue stage c)

structure Calm [Program κ] (T : Task) (calm : κ → Prop) (w : World κ) : Prop where
  returned : w.creation = .returned
  found : w.missed = false
  body : CalmBody T calm (T.view w.sys).work
  turn : (T.view w.sys).stage = some .handling → ∃ t, (w.doing t).IsTurn

/-! ## 2. Steps of one thread -/

variable [Program κ]

theorem CalmBody.of_handling {c : κ} (h : CalmBody T calm (.reader T.queue .handling c)) : calm c := by
  cases h with
  | handling calm => exact calm
  | between stage calm => exact absurd rfl stage

theorem CalmBody.of_between {stage : ReaderPhase} {c : κ} (between : stage ≠ .handling)
    (h : CalmBody T calm (.reader T.queue stage c)) (message : Int) :
    calm (Program.deliver c message) := by
  cases h with
  | handling calm => exact absurd rfl between
  | between stage calm => exact calm message

namespace Calm

open World (doing_turn_self doing_turn_of_ne)

/-- A step of the thread that is in the middle of the turn. -/
theorem turn_of_body (h : Calm T calm w) (body : CalmBody T calm (T.view s).work)
    (mine : (T.view s).stage = some .handling → next.IsTurn) : Calm T calm (w.turn T t s next) where
  returned := h.returned
  found := h.found
  body := body
  turn handling := by
    refine ⟨t, ?_⟩
    rw [doing_turn_self]
    exact mine handling

/-- A step that leaves the body where it is. -/
theorem turn_of_same (h : Calm T calm w) (work : (T.view s).work = (T.view w.sys).work)
    (mine : (w.doing t).IsTurn → next.IsTurn) : Calm T calm (w.turn T t s next) where
  returned := h.returned
  found := h.found
  body := by
    show CalmBody T calm (T.view s).work
    rw [work]
    exact h.body
  turn handling := by
    have stage : (T.view s).stage = (T.view w.sys).stage := congrArg stageOf work
    obtain ⟨u, turn⟩ := h.turn (stage ▸ handling)
    refine ⟨u, ?_⟩
    by_cases hu : u = t
    · subst hu
      rw [doing_turn_self]
      exact mine turn
    · rw [doing_turn_of_ne w hu]
      exact turn

/-- A step of a thread that is not in the middle of a turn, and leaves the body where it is. -/
theorem turn_of_aside (h : Calm T calm w) {a : Activity} (doing : w.doing t = a) (aside : ¬ a.IsTurn)
    (work : (T.view s).work = (T.view w.sys).work) : Calm T calm (w.turn T t s next) :=
  h.turn_of_same work fun turn => absurd (doing ▸ turn) aside

/-- A move of the callback. -/
theorem called (h : Calm T calm w) (steady : Steady calm) {c : κ} {progress : System.Progress}
    (work : (T.view w.sys).work = .reader T.queue .handling c)
    (move : Task.CallbackMove w.sys.labels T.queue c (T.view s).work progress) :
    Calm T calm (w.turn T t s (if progress = .paused then .leaving else .running)) := by
  have mild : calm c := (work ▸ h.body : CalmBody T calm _).of_handling
  have after : progress ≠ .paused ∧ CalmBody T calm (T.view s).work := by
    generalize (T.view s).work = after at move
    cases move with
    | skip next => exact ⟨nofun, .handling (steady.skip mild next)⟩
    | ask reply next => exact ⟨nofun, .handling (steady.ask reply mild next)⟩
    | pause next => exact absurd next (steady.pause mild)
    | await next => exact ⟨nofun, .handling (steady.await mild next)⟩
    | blocked next => exact ⟨nofun, .handling mild⟩
    | finish next => exact ⟨nofun, .between nofun fun message => steady.finish message mild next⟩
    | panic next => exact absurd next (steady.panic mild)
  rw [if_neg after.1]
  exact h.turn_of_body after.2 fun _ => trivial

/-- Every effect keeps the invariant. -/
theorem effect (h : Calm T calm w) (steady : Steady calm) {w' : World κ} (e : Effect T w w') :
    Calm T calm w' := by
  have between : ∀ {stage : ReaderPhase} {c : κ}, (T.view w.sys).work = .reader T.queue stage c →
      stage ≠ .handling → ∀ message, calm (Program.deliver c message) := by
    intro stage c work ne
    exact (work ▸ h.body : CalmBody T calm _).of_between ne
  cases e with
  | idle => exact h
  | pushed doing stands view => exact h.turn_of_aside doing id (by rw [view])
  | pushedInside doing work asks stands view =>
    have mild := (work ▸ h.body : CalmBody T calm _).of_handling
    refine h.turn_of_body ?_ fun _ => rfl
    rw [view]
    exact .handling (steady.ask .nothing mild asks)
  | missed doing early => exact absurd h.returned early
  | delivered doing stands view place pending =>
    refine h.turn_of_same (by rw [view]) ?_
    rw [doing]
    exact id
  | flagged doing stands view returned =>
    refine h.turn_of_same (by rw [view]) ?_
    rw [doing]
    exact id
  | @announced t since inside doing =>
    refine h.turn_of_same rfl ?_
    rw [doing]
    intro inside
    have inside : _ = true := inside
    subst inside
    exact trivial
  | taken doing free stands view => exact h.turn_of_aside doing id (by rw [view])
  | refused doing => exact h.turn_of_aside doing id rfl
  | examined doing plain stands view judged swapped =>
    exact h.turn_of_aside doing id (by rw [view])
  | swapped doing flag stands view => exact h.turn_of_aside doing id (by rw [view])
  | promoted doing stands view => exact h.turn_of_aside doing id (by rw [view])
  | checked doing goes => exact h.turn_of_aside doing id rfl
  | parked doing work stands view =>
    refine h.turn_of_body ?_ fun _ => trivial
    rw [view]
    exact .between nofun (between work nofun)
  | @emptied t s c doing work empty stands view =>
    have body : CalmBody T calm (T.view s).work := by
      rw [view]
      exact .between nofun (between work nofun)
    have moved : Calm T calm (w.turn T t s .running) := h.turn_of_body body fun _ => trivial
    exact ⟨moved.returned, rfl, moved.body, moved.turn⟩
  | fetched doing work full stands view =>
    refine h.turn_of_body ?_ fun _ => trivial
    rw [view]
    exact .handling (between work nofun _)
  | idled doing work stands view =>
    have stage : (T.view _).stage = some .parking := congrArg View.stage view
    refine h.turn_of_body ?_ fun handling => absurd (stage.symm.trans handling) nofun
    rw [view]
    exact .between nofun (between work nofun)
  | handled doing work stands view =>
    have stage : (T.view _).stage = some .parking := congrArg View.stage view
    refine h.turn_of_body ?_ fun handling => absurd (stage.symm.trans handling) nofun
    rw [view]
    exact .between nofun (between work nofun)
  | called doing work move stands holder => exact h.called steady work move
  | ended doing work stands view =>
    have body := h.body
    rw [work] at body
    cases body
  | released doing stands view => exact h.turn_of_aside doing id (by rw [view])
  | dispatched begun stands view => exact absurd (begun.symm.trans h.returned) nofun
  | registered dispatched stands view => exact absurd (dispatched.symm.trans h.returned) nofun
  | @elsewhere s stands recheck view mono =>
    have work : (T.view s).work = (T.view w.sys).work := by rw [view]
    refine ⟨h.returned, h.found, ?_, fun handling => ?_⟩
    · show CalmBody T calm (T.view s).work
      rw [work]
      exact h.body
    · exact h.turn ((congrArg stageOf work).symm.trans handling)

/-- While nobody holds the routine, the body is about to begin a turn. -/
theorem stage_of_free (h : Calm T calm w) (control : Control T w)
    (free : (T.view w.sys).holder = none) : (T.view w.sys).stage = some .parking := by
  rcases control.free free with ended | parking | handling
  · have body := h.body
    unfold View.stage at ended
    generalize (T.view w.sys).work = work at body ended
    cases body <;> cases ended
  · exact parking
  · -- The thread in whose turn the callback is would hold the routine.
    obtain ⟨t, turn⟩ := h.turn handling
    have outside := control.outside t (free ▸ nofun)
    cases doing : w.doing t with
    | delivering since inside d =>
      rw [doing] at turn outside
      exact absurd (turn.symm.trans outside) nofun
    | running =>
      rw [doing] at outside
      exact outside.elim
    | _ =>
      rw [doing] at turn
      exact turn.elim

end Calm

end CoopSched.Wakeup
