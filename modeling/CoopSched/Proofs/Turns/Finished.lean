import CoopSched.Proofs.Turns.Leeway
import CoopSched.Script
/-!
# What is finished stays finished, unless it is hung up

A routine is finished when its body has come to its end, has panicked or has said so, or when it was resumed
after a stop. Nothing that a search, a notification, an update or another resume does makes it ready again,
and `wake` sees to it that it does not either. To hang a routine up does not look at its state.

* However long a run is, a finished routine that no thread is in a turn of, and that nobody hangs up, is finished
  at its end, and no search hands it out (`finished_unless_hung_up`). Of whatever may happen next, only to hang
  it up makes a difference.
* A finished routine that is hung up, and told to look again, is handed out (`handed_out_returned`).

A routine can be finished in the middle of a turn too: when it is stopped, a resume by any other thread says so
before it looks at the holder. Its body goes on, and the end of the turn may leave it in another state.
-/

namespace CoopSched

variable {κ : Type}

namespace Turns

variable {r : RoutineRef}

/-! ## 1. Finished routines -/

theorem update_of_finished {x : Routine κ} (finished : x.state = .finished) (now : Nat) : x.update now = x := by
  simp only [Routine.update, finished]

/-- Every call but one leaves a finished routine finished. -/
theorem change_of_finished {x : Routine κ} {op : RoutineOp} (other : op ≠ .hangUp) (t : Thread) (now : Nat)
    (finished : x.state = .finished) : (op.change t now x).state = .finished := by
  cases op with
  | hangUp => exact absurd rfl other
  | wake => simp only [RoutineOp.change, Routine.wake, finished, if_true]
  | update => simp only [RoutineOp.change, update_of_finished finished, finished]
  | acquire =>
    simp only [RoutineOp.change, Routine.acquire]
    split <;> exact finished
  | stop => exact finished
  | recheck => exact finished
  | release => exact finished
  | look => exact finished

theorem tolerant_finished : World.Tolerant fun x y : Routine κ => x.state = .finished → y.state = .finished where
  refl _ := id
  trans first second := second ∘ first
  place _ _ _ := id
  flag _ := id
  stop _ := id
  pick x _ now _ ready finished := by
    rw [update_of_finished finished, finished] at ready
    cases ready
  finish _ _ _ := rfl

/-! ## 2. Whatever happens next -/

section Steps

variable [Program κ] {w w' : World κ} {a : Action κ}

/-- The routine is hung up, by a caller or by a body. -/
def HangsUp (r : RoutineRef) (w : World κ) (a : Action κ) : Prop := World.Applies r .hangUp w a

/-- The routine is neither put into a state from outside nor hung up. -/
def LeftFinished (r : RoutineRef) (w : World κ) (a : Action κ) : Prop := ¬World.Sets r a ∧ ¬HangsUp r w a

/-- The routine is finished, and no thread is in a turn of it. -/
structure Ended (w : World κ) (r : RoutineRef) : Prop where
  finished : (w.sys.routine r).state = .finished
  away : ∀ t, w.turn t ≠ some r

omit [Program κ] in
/-- A number that was never given out stands for a routine that is ready. -/
theorem Ended.bound (h : Ended w r) : r < w.sys.routines.size := by
  refine Nat.lt_of_not_le fun beyond => ?_
  have ready : (w.sys.routine r).state = .ready := congrArg Routine.state (Arena.get_of_size_le _ beyond)
  cases h.finished.symm.trans ready

theorem Ended.perform (h : Ended w r) (left : LeftFinished r w a) : Ended (w.perform a) r where
  finished := by
    obtain ⟨unset, unhung⟩ := left
    refine World.related_perform tolerant_finished ⟨fun op applied t now x => ?_, ?_, ?_⟩ h.bound h.finished
    · refine change_of_finished ?_ t now
      rintro rfl
      exact unhung applied
    · exact fun set => absurd set unset
    · exact fun ⟨t, _, inside⟩ => absurd inside (h.away t)
  away t inside := by
    rcases World.turn_perform_cases inside with before | ⟨-, -, -, ready, -⟩
    · exact h.away t before
    · cases h.finished.symm.trans ready

/-- A routine that was hung up waits, whatever it was before. -/
theorem state_of_hangsUp (bound : r < w.sys.routines.size) (hung : HangsUp r w a) :
    ((w.perform a).sys.routine r).state = .dataWait := by
  have waits : ((w.sys.modifyRoutine r Routine.hangUp).routine r).state = .dataWait := by
    rw [System.routine_modifyRoutine, if_pos ⟨rfl, bound⟩]
    rfl
  cases a with
  | operate t o =>
    cases o with
    | onRoutine q op =>
      obtain ⟨rfl, rfl⟩ := hung
      exact waits
    | _ => cases hung
  | move t =>
    obtain ⟨q, rest, inside, next⟩ := hung
    rw [World.perform_ask inside next rfl, System.routine_modifyRoutine]
    split <;> exact waits
  | _ => cases hung

/-! ## 3. Every run -/

/-- How a routine is finished. -/
structure StaysFinished (w : World κ) (r : RoutineRef) : Prop where
  /-- It is finished, and no thread is in a turn of it. -/
  ended : Ended w r
  /-- No search hands it out. -/
  unfound : ∀ t g, (w.sys.nextRoutine t g).2 ≠ some r
  /-- A resume does not begin a turn, and reports that it is finished. -/
  refused : ∀ t, (w.sys.resume t r).2 = .refused ∧ ((w.sys.resume t r).1.routine r).state = .finished
  /-- After whatever happens next it is still finished, exactly unless it is hung up. -/
  next : ∀ a, ¬World.Sets r a → (((w.perform a).sys.routine r).state = .finished ↔ ¬HangsUp r w a)

theorem Ended.staysFinished (h : Ended w r) : StaysFinished w r where
  ended := h
  unfound t g found := by
    obtain ⟨-, ⟨-, ready⟩, -⟩ := System.of_nextRoutine_some found
    rw [update_of_finished h.finished, h.finished] at ready
    cases ready
  refused t := by
    unfold System.resume
    dsimp only
    split
    · refine ⟨rfl, ?_⟩
      rw [System.routine_modifyRoutine, if_pos ⟨rfl, h.bound⟩]
      rfl
    · have idle : (w.sys.routine r).state ≠ .ready := by
        rw [h.finished]
        exact nofun
      rw [if_pos idle]
      exact ⟨rfl, h.finished⟩
  next a unset := by
    refine ⟨fun finished hung => ?_, fun unhung => (h.perform ⟨unset, unhung⟩).finished⟩
    cases finished.symm.trans (state_of_hangsUp h.bound hung)

/-- Once a routine is finished, and no thread is in a turn of it (`away`), it stays finished in every run in which
nobody hangs it up. -/
theorem finished_unless_hung_up (finished : (w.sys.routine r).state = .finished)
    (away : ∀ t, w.turn t ≠ some r) (run : World.Run (LeftFinished r) w w') : StaysFinished w' r := by
  refine Ended.staysFinished ?_
  induction run with
  | refl => exact ⟨finished, away⟩
  | step _ a left ih => exact ih.perform left

end Steps

/-- The main thread is in a turn of a routine that will wait for data, and another thread resumes the routine after
it was stopped. -/
def interrupted : World Script :=
  let waits := (System.addRoutine {} 7 "t" (.body (.ofActions [.pause (.become .dataWait)]))).1
  let entered := World.perform { sys := (waits.acquire .main 0).1 } (.enter .main 0)
  (entered.perform (.operate .helper (.onRoutine 0 .stop))).perform (.enter .helper 0)

/-- Without `away` it can be otherwise: the routine is finished, and its turn ends in another state. -/
example : (interrupted.sys.routine 0).state = .finished ∧
    ((interrupted.perform (.move .main)).sys.routine 0).state = .dataWait := ⟨rfl, rfl⟩

/-- A group with one routine, whose body comes to its end at once. The main thread holds the routine. -/
def empty : System Script :=
  let grouped := ((System.addRoutine {} 7 "t" (.body (.ofActions []))).1.addGroup "g").1
  ((grouped.enqueue 0 0).acquire .main 0).1

/-- The routine has been resumed and released. -/
def returned : World Script :=
  { sys := ((empty.resume .main 0).1).release 0 }

theorem resumed_empty : (empty.resume .main 0).2 = .ran .paused := rfl

/-- The routine is woken up, told to look again and stopped, and is finished all the same. -/
theorem finished_returned : StaysFinished
    (((returned.perform (.operate .helper (.onRoutine 0 .wake))).perform
      (.operate .helper (.onRoutine 0 .recheck))).perform (.operate .helper (.onRoutine 0 .stop))) 0 := by
  have nothing : World.Run (LeftFinished 0) returned returned := .refl returned
  have woken := nothing.step (.operate .helper (.onRoutine 0 .wake)) ⟨id, nofun⟩
  have flagged := woken.step (.operate .helper (.onRoutine 0 .recheck)) ⟨id, nofun⟩
  have stopped := flagged.step (.operate .helper (.onRoutine 0 .stop)) ⟨id, nofun⟩
  exact finished_unless_hung_up rfl (fun t inside => Option.some_ne_none 0 inside.symm) stopped

/-- The routine is hung up, and told to look again. -/
def hungUp : World Script :=
  (returned.perform (.operate .main (.onRoutine 0 .hangUp))).perform (.operate .main (.onRoutine 0 .recheck))

theorem run_hungUp : World.Run (fun _ a => ¬World.Sets 0 a) returned hungUp :=
  ((World.Run.refl returned).step (.operate .main (.onRoutine 0 .hangUp)) id).step
    (.operate .main (.onRoutine 0 .recheck)) id

/-- The resume has returned and the routine was finished, but it does not stay so: it waits, and then it is
handed out. -/
theorem handed_out_returned :
    (empty.resume .main 0).2 = .ran .paused ∧ ((empty.resume .main 0).1.routine 0).state = .finished ∧
      World.Run (fun _ a => ¬World.Sets 0 a) returned hungUp ∧ (hungUp.sys.routine 0).state = .dataWait ∧
      (hungUp.sys.nextRoutine .main 0).2 = some 0 ∧
      ((hungUp.sys.nextRoutine .main 0).1.routine 0).state = .ready :=
  ⟨resumed_empty, rfl, run_hungUp, rfl, rfl, rfl⟩

end Turns

end CoopSched
