import CoopSched.Proofs.Turns.Flags
import CoopSched.Proofs.Turns.Removal
/-!
# Promotions have a cause, and causes are kept

A routine that sleeps becomes ready by the clock, and one that waits by a request to look again. A `Course` is any
run from the creation of a routine, with three facts about it written down: when its last sleep ends, how often
another look was asked for, and how often an update has promoted it.

* An update wakes a sleeper exactly if its last sleep is over, however often somebody has asked for another look.
* There are never more promotions than requests. Besides the promotions, a flag that is up accounts for a request.
* A flag that is up stays up until a promotion uses it up, and the first update of the routine while it waits is
  that promotion (`promotions_caused`).
-/

namespace CoopSched.Turns

variable {κ : Type} [Program κ] {r : RoutineRef} {w w₀ v : World κ} {a : Action κ}

/-! ## 1. Wake times -/

/-- How long a body goes to sleep with its next move. -/
def sleepOf? {σ : Type} : Move κ σ → Option Nat
  | .pause (.sleep millis) _ => some millis
  | _ => none

/-- When the sleep ends that the body of a routine begins in an action. -/
def slept? (r : RoutineRef) (w : World κ) : Action κ → Option Nat
  | .move t =>
    if w.turn t = some r then
      (sleepOf? ((w.sys.routine r).work.next w.sys.labels)).map (w.sys.now + ·)
    else none
  | _ => none

omit [Program κ] in
theorem wakeAt_update (x : Routine κ) (now : Nat) : (x.update now).wakeAt = x.wakeAt := by
  unfold Routine.update
  cases x.state with
  | sleep =>
    dsimp only
    split <;> rfl
  | ready => rfl
  | finished => rfl
  | ioWait => simp only [Routine.takeRecheck]; cases x.recheck <;> rfl
  | dataWait => simp only [Routine.takeRecheck]; cases x.recheck <;> rfl

omit [Program κ] in
theorem wakeAt_change (op : RoutineOp) (t : Thread) (now : Nat) (x : Routine κ) :
    (op.change t now x).wakeAt = x.wakeAt := by
  cases op with
  | update => exact wakeAt_update x now
  | acquire =>
    simp only [RoutineOp.change, Routine.acquire]
    split <;> rfl
  | wake =>
    simp only [RoutineOp.change, Routine.wake]
    split <;> rfl
  | _ => rfl

omit [Program κ] in
/-- The routine is to wake up at the same time. -/
def undelayed (r : RoutineRef) : Leeway κ := World.only r fun x y => y.wakeAt = x.wakeAt

omit [Program κ] in
theorem lenient_undelayed (r : RoutineRef) : (undelayed (κ := κ) r).Lenient :=
  World.lenient_only {
    refl := fun _ => rfl
    trans := fun first second => second.trans first
    place := fun _ _ _ => rfl
    flag := fun _ => rfl
    stop := fun _ => rfl
    pick := fun x _ now _ _ => wakeAt_update x now
    finish := fun _ _ => rfl }

theorem covered_undelayed (awake : slept? r w a = none) : w.CoveredBy (undelayed r) a := by
  cases a with
  | enter t q => exact fun _ _ _ => rfl
  | move t =>
    intro q inside
    refine ⟨fun _ _ _ => rfl, ?_⟩
    cases next : (w.sys.routine q).work.next w.sys.labels with
    | ask request rest =>
      cases request with
      | onRoutine x op => exact fun y now _ => wakeAt_change op t now y
      | setState state => exact fun _ _ => rfl
      | push p message => exact fun _ => trivial
      | fetch p => exact fun _ => trivial
      | _ => trivial
    | pause how rest =>
      intro x now own
      cases how with
      | sleep millis =>
        subst own
        rw [slept?, if_pos inside, next] at awake
        cases awake
      | keep => rfl
      | become state => rfl
    | finish rest => exact fun _ _ => rfl
    | panic reason => exact fun _ _ => rfl
    | skip rest => trivial
    | await gate rest => trivial
  | operate t o =>
    cases o with
    | next g => exact fun _ x _ now _ _ _ => wakeAt_update x now
    | onRoutine q op => exact fun x now _ => wakeAt_change op t now x
    | setState q state => exact fun _ _ => rfl
    | push q message => exact fun _ => trivial
    | fetch q => exact fun _ => trivial
    | _ => trivial
  | _ => trivial

/-- Nothing sets the wake time of a routine but a sleep of its own body. -/
theorem wakeAt_perform (w : World κ) (a : Action κ) (hr : r < w.sys.routines.size) :
    ((w.perform a).sys.routine r).wakeAt = (slept? r w a).getD (w.sys.routine r).wakeAt := by
  cases asleep : slept? r w a with
  | none =>
    have within := World.within_perform (lenient_undelayed r) w (covered_undelayed asleep)
    exact within.routine r hr rfl
  | some due =>
    cases a with
    | move t =>
      by_cases inside : w.turn t = some r
      · rw [slept?, if_pos inside, Option.map_eq_some_iff] at asleep
        obtain ⟨millis, sleeps, rfl⟩ := asleep
        cases next : (w.sys.routine r).work.next w.sys.labels with
        | pause how rest =>
          rw [next] at sleeps
          cases how with
          | sleep millis =>
            cases sleeps
            have unlocked : lockOfMove? w.sys ((w.sys.routine r).work.next w.sys.labels) = none := by
              rw [next]
              rfl
            rw [World.perform, World.move_of_unlocked inside unlocked]
            show ((w.sys.move t r).1.routine r).wakeAt = _
            simp only [System.move, next]
            rw [System.routine_modifyRoutine, System.size_modifyRoutine, if_pos ⟨rfl, hr⟩]
            rfl
          | keep => cases sleeps
          | become state => cases sleeps
        | _ =>
          rw [next] at sleeps
          cases sleeps
      · rw [slept?, if_neg inside] at asleep
        cases asleep
    | _ => cases asleep

/-! ## 2. Requests and promotions -/

/-- A promotion uses up a flag. -/
theorem recheck_of_promotes (promoted : promotes r w a = true) (hr : r < w.sys.routines.size) :
    (w.sys.routine r).recheck = true := by
  rw [promotes, Bool.and_eq_true, Bool.and_eq_true, decide_eq_true_eq] at promoted
  obtain ⟨⟨updated, waits⟩, ready⟩ := promoted
  obtain ⟨holder, work, made⟩ := update_perform updated hr
  rw [made] at ready
  rcases (Routine.state_update_iff _ _).mp ready with idle | ⟨sleeps, -⟩ | ⟨-, flag⟩
  · rw [idle] at waits
    cases waits
  · rw [sleeps] at waits
    cases waits
  · exact flag

/-- Nobody asks for another look at the moment of an update. -/
theorem asked_of_updates (updated : updates r w a = true) : asked r w a = 0 := by
  rw [updates] at updated
  rw [asked]
  cases calls : callOf? w a with
  | none => rfl
  | some call =>
    obtain ⟨t, o⟩ := call
    rw [calls, Option.any_some] at updated
    rw [Option.elim_some]
    cases o with
    | next g => rfl
    | onRoutine q op =>
      cases op with
      | update => rfl
      | _ => cases updated
    | _ => cases updated

/-- An update of a routine that waits promotes it if its flag is up. -/
theorem promotes_of_updates (updated : updates r w a = true) (hr : r < w.sys.routines.size)
    (waits : (w.sys.routine r).state.isWaiting = true) (flag : (w.sys.routine r).recheck = true) :
    promotes r w a = true := by
  obtain ⟨holder, work, made⟩ := update_perform updated hr
  have ready : ((w.perform a).sys.routine r).state = .ready := by
    rw [made]
    show ((w.sys.routine r).update w.sys.now).state = .ready
    rw [Routine.update_of_waiting waits, flag, if_pos rfl]
    rfl
  rw [promotes, updated, waits, ready]
  rfl

omit [Program κ] in
theorem toNat_decide_pos (n : Nat) : (decide (0 < n)).toNat ≤ n := by
  cases n with
  | zero => exact Nat.le_refl 0
  | succ n => exact Nat.succ_le_succ (Nat.zero_le n)

omit [Program κ] in
theorem toNat_or_le (a b : Bool) : (a || b).toNat ≤ a.toNat + b.toNat := by
  cases a <;> cases b <;> decide

/-- A promotion uses up a flag, and a flag that comes up was asked for. -/
theorem recheck_balance (w : World κ) (a : Action κ) (hr : r < w.sys.routines.size) :
    (promotes r w a).toNat + ((w.perform a).sys.routine r).recheck.toNat ≤
      (w.sys.routine r).recheck.toNat + (decide (0 < asked r w a)).toNat := by
  rw [recheck_perform w a hr]
  cases promoted : promotes r w a with
  | true =>
    -- The flag that is used up was there before.
    rw [recheck_of_promotes promoted hr, Bool.not_true, Bool.and_false, Bool.false_or]
  | false =>
    rw [Bool.not_false, Bool.and_true, Bool.toNat_false, Nat.zero_add]
    exact toNat_or_le _ _

/-- A routine has just been created. -/
structure Born (w : World κ) (r : RoutineRef) : Prop where
  bound : r < w.sys.routines.size
  fresh : ∃ id name group priority work,
    w.sys.routine r = { id, name, group, priority, work, wakeAt := w.sys.now }

/-- When the last sleep of a routine ends, or when it was created if it has never slept, and how often somebody
has asked for another look at it and an update has promoted it. -/
structure Record where
  due : Nat
  requests : Nat := 0
  promotions : Nat := 0

/-- The record after an action. -/
def Record.after (R : Record) (r : RoutineRef) (w : World κ) (a : Action κ) : Record where
  due := (slept? r w a).getD R.due
  requests := R.requests + asked r w a
  promotions := R.promotions + (promotes r w a).toNat

/-- Any number of actions, in any order, and the record of them. -/
inductive Course (r : RoutineRef) (w₀ : World κ) : World κ → Record → Prop
  | start : Course r w₀ w₀ { due := w₀.sys.now }
  | step {w : World κ} {R : Record} (course : Course r w₀ w R) (a : Action κ) :
      Course r w₀ (w.perform a) (R.after r w a)

variable {R : Record}

/-- The record is right about the wake time, and every promotion and a flag that is up have their own request. -/
structure Accounts (r : RoutineRef) (w : World κ) (R : Record) : Prop where
  bound : r < w.sys.routines.size
  due : (w.sys.routine r).wakeAt = R.due
  balance : R.promotions + (w.sys.routine r).recheck.toNat ≤ R.requests

omit [Program κ] in
theorem Born.accounts (h : Born w r) : Accounts r w { due := w.sys.now } := by
  obtain ⟨id, name, group, priority, work, fresh⟩ := h.fresh
  refine ⟨h.bound, ?_, ?_⟩
  · rw [fresh]
  · rw [fresh]
    exact Nat.le_refl 0

theorem Accounts.perform (h : Accounts r w R) (a : Action κ) :
    Accounts r (w.perform a) (R.after r w a) where
  bound := Nat.lt_of_lt_of_le h.bound (World.bounds_perform w a).1
  due := by rw [wakeAt_perform w a h.bound, h.due, Record.after]
  balance := by
    have balance := h.balance
    have flags := recheck_balance w a h.bound
    have once := toNat_decide_pos (asked r w a)
    simp only [Record.after]
    omega

theorem Course.accounts (course : Course r w₀ w R) (born : Born w₀ r) : Accounts r w R := by
  induction course with
  | start => exact born.accounts
  | step _ a ih => exact ih.perform a

/-! ## 3. Causes -/

/-- What is true of a routine at any time: updates wake it when its last sleep is over, there are not more
promotions than requests, and a flag that is up lasts until the first update while the routine waits, which is a
promotion. -/
structure Caused (r : RoutineRef) (w : World κ) (R : Record) : Prop where
  sleep : ∀ a, updates r w a = true → (w.sys.routine r).state = .sleep →
    (((w.perform a).sys.routine r).state = .ready ↔ R.due ≤ w.sys.now)
  promotions : R.promotions ≤ R.requests
  kept : (w.sys.routine r).recheck = true →
    ∀ v, World.Run (fun u a => promotes r u a = false) w v → (v.sys.routine r).recheck = true ∧
      ∀ a, updates r v a = true → (v.sys.routine r).state.isWaiting = true →
        promotes r v a = true ∧ ((v.perform a).sys.routine r).recheck = false

theorem recheck_of_run (run : World.Run (fun u a => promotes r u a = false) w v)
    (hr : r < w.sys.routines.size) (flag : (w.sys.routine r).recheck = true) :
    r < v.sys.routines.size ∧ (v.sys.routine r).recheck = true := by
  induction run with
  | refl => exact ⟨hr, flag⟩
  | @step u run a idle ih =>
    obtain ⟨bound, flag⟩ := ih
    refine ⟨Nat.lt_of_lt_of_le bound (World.bounds_perform u a).1, ?_⟩
    rw [recheck_perform u a bound, flag, idle]
    rfl

/-- From the creation of a routine on, whatever is done and in whatever order. -/
theorem promotions_caused (born : Born w₀ r) (course : Course r w₀ w R) : Caused r w R := by
  have accounts := course.accounts born
  refine ⟨fun a updated sleeps => ?_, ?_, fun flag v run => ?_⟩
  · obtain ⟨holder, work, made⟩ := update_perform updated accounts.bound
    rw [made]
    show ((w.sys.routine r).update w.sys.now).state = .ready ↔ _
    rw [Routine.state_update_iff, ← accounts.due]
    refine ⟨?_, fun due => .inr (.inl ⟨sleeps, due⟩)⟩
    rintro (ready | ⟨-, due⟩ | ⟨waits | waits, -⟩)
    · cases sleeps.symm.trans ready
    · exact due
    · cases sleeps.symm.trans waits
    · cases sleeps.symm.trans waits
  · exact Nat.le_trans (Nat.le_add_right _ _) accounts.balance
  · obtain ⟨bound, flag⟩ := recheck_of_run run accounts.bound flag
    refine ⟨flag, fun a updated waits => ?_⟩
    have promoted := promotes_of_updates updated bound waits flag
    refine ⟨promoted, ?_⟩
    rw [recheck_perform v a bound, promoted, asked_of_updates updated]
    simp

omit [Program κ] in
/-- Somebody updates the first routine. -/
def look : Action κ := .operate .helper (.onRoutine 0 .update)

/-- A task whose body sleeps for five milliseconds has been created. -/
def sleeper : World Script :=
  (started.perform (.operate .main (.newRoutine 7 "t" (.body (.ofActions [.pause (.sleep 5)]))))).perform
    (.operate .main (.dispatch 0))

/-- It has gone to sleep, and somebody has asked for another look. -/
def asleep : World Script :=
  (((sleeper.perform (.operate (.processor 0) (.next 0))).perform (.enter (.processor 0) 0)).perform
    (.move (.processor 0))).perform (.operate .helper (.onRoutine 0 .recheck))

/-- After five milliseconds it was updated, and then hung up. -/
def hungAfterwards : World Script :=
  ((asleep.perform (.operate .main (.elapse 5))).perform look).perform (.operate .helper (.onRoutine 0 .hangUp))

/-- The request does not wake the sleeper before its time. It lasts while the sleeper becomes ready, and promotes it
when it waits at last. -/
theorem promotes_hungAfterwards :
    Born sleeper 0 ∧ Course 0 sleeper asleep { due := 5, requests := 1 } ∧
      ((asleep.perform look).sys.routine 0).state ≠ .ready ∧ promotes 0 hungAfterwards look = true ∧
      ((hungAfterwards.perform look).sys.routine 0).recheck = false := by
  have born : Born sleeper 0 := ⟨Nat.one_pos, _, _, _, _, _, rfl⟩
  have course : Course 0 sleeper asleep { due := 5, requests := 1 } :=
    (((Course.start.step (.operate (.processor 0) (.next 0))).step (.enter (.processor 0) 0)).step
      (.move (.processor 0))).step (.operate .helper (.onRoutine 0 .recheck))
  have caused := promotions_caused born course
  have early : ¬(5 : Nat) ≤ asleep.sys.now := by decide
  have run : World.Run (fun u a => promotes 0 u a = false) asleep hungAfterwards :=
    (((World.Run.refl asleep).step (.operate .main (.elapse 5)) rfl).step look rfl).step
      (.operate .helper (.onRoutine 0 .hangUp)) rfl
  obtain ⟨-, promoted⟩ := caused.kept rfl hungAfterwards run
  obtain ⟨promotes, used⟩ := promoted look rfl rfl
  exact ⟨born, course, mt (caused.sleep look rfl rfl).mp early, promotes, used⟩

end CoopSched.Turns
