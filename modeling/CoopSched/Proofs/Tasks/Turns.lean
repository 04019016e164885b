import CoopSched.Proofs.Kept
import CoopSched.Proofs.Tasks.Operations
/-!
# Turns keep table and queues in agreement

A body may ask for anything in the middle of its turn, also for new tasks and for the removal of others.
A request to remove a task that somebody holds is refused, so no removal of a body has to wait.
-/

namespace CoopSched.System

variable {κ : Type} {s : System κ}

open Routine (placement_ignoresStatus placement_ignoresHolder)

theorem Sound.removeFromBody (h : s.Sound) (t : Thread) (name : String) :
    (s.removeFromBody t name).1.Sound := by
  unfold System.removeFromBody
  split
  · exact h
  · next unheld =>
    refine h.removeTask ?_ t
    intro r live
    rw [live, Option.any_some, Routine.isHeld] at unheld
    exact Option.not_isSome_iff_eq_none.mp unheld

theorem kept_sound : Kept Routine.placement (@Sound κ) where
  status := placement_ignoresStatus
  holder := placement_ignoresHolder
  work _ _ := rfl
  routine r _ hf h := h.of_frame (.modifyRoutine _ r hf)
  group g _ signal h := by
    cases signal with
    | notify => exact h.of_frame (frame_notifyGroup _ g)
    | wait => exact h.of_frame (frame_waitGroup _ g)
    | shutdown => exact h.of_frame (frame_shutdownGroup _ g)
  processor p _ _ h := h.of_frame (frame_modifyProcessor _ p _)
  same h same := h.of_frame (.of_eq same.routines same.groups same.scheduler)
  create t work name source h := h.createTask t work name source
  remove t name h := h.removeFromBody t name

end CoopSched.System
