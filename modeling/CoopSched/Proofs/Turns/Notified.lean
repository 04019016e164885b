import CoopSched.Proofs.Turns.Leeway
import CoopSched.Script
/-!
# What becomes of a notification

A notification puts up the recheck flag of a routine that waits, and leaves alone one that does not. A routine
that is in the middle of a turn may still be ready when it is notified, and go on to wait afterwards.

* As long as no resume of a routine begins, its flag is lost by nothing but an update that makes it ready: in a
  state in which nobody holds it and it waits, its flag is up exactly if it was up at some time since the
  notification (`recheck_iff_heard`).
* It was up right after the notification exactly if the routine waited then, or was flagged already. So a
  notification lasts in every run if it finds its routine waiting. If it comes in the middle of a turn, before the
  body gives up the turn to wait, it may be lost (`unheard_parked`).

A notification is one action here. One that looks at the state first and puts up the flag later is a run with
another action, the call that puts up the flag, and the first statement covers it.
-/

namespace CoopSched

variable {κ : Type}

namespace System

variable {s : System κ} {id : UInt64} {r : RoutineRef}

theorem recheck_notified (x : Routine κ) :
    x.notified = { x with recheck := x.recheck || x.state.isWaiting } := by
  unfold Routine.notified
  cases waits : x.state.isWaiting with
  | true => rw [if_pos rfl, Bool.or_true, Routine.requestRecheck]
  | false => rw [if_neg Bool.false_ne_true, Bool.or_false]

theorem flagIfWaiting_eq (s : System κ) (r : RoutineRef) :
    s.flagIfWaiting r = s.modifyRoutine r Routine.notified := by
  unfold flagIfWaiting
  split
  · next waits => exact modifyRoutine_congr s (by rw [Routine.notified, if_pos waits])
  · next idle => exact (modifyRoutine_eq_self s (by rw [Routine.notified, if_neg idle])).symm

/-- A live task is known to those who notify it, and its flag is put up if it waits. -/
theorem notifyProcessor_eq {sched : Scheduler} (hs : s.scheduler = some sched) (running : sched.stopped = false)
    (live : sched.tasks.find? id = some r) : ∃ groups, s.notifyProcessor id =
      ({ s.modifyRoutine r Routine.notified with groups }, true) := by
  have told : ∀ (s : System κ) (name : String), ∃ groups,
      (s.notifyGroupNamed sched.roster name).1 = { s with groups } := by
    intro s name
    unfold notifyGroupNamed
    split <;> exact ⟨_, rfl⟩
  obtain ⟨groups, there⟩ := told (s.flagIfWaiting r) ((s.flagIfWaiting r).routine r).group
  refine ⟨groups, ?_⟩
  simp only [notifyProcessor, hs, running, live, Bool.false_eq_true, if_false]
  rw [there, flagIfWaiting_eq]

theorem notifyTask_eq {sched : Scheduler} (hs : s.scheduler = some sched) (running : sched.stopped = false) :
    s.notifyTask id = s.notifyProcessor id := by
  simp only [notifyTask, hs, running, Bool.false_eq_true, if_false]

end System

namespace Turns

open CoopSched.Lifecycle (isStopped)

variable {r : RoutineRef}

/-! ## 1. What turns and others may do to a routine -/

/-- If the routine waits, it will be looked at. -/
def Attentive (x : Routine κ) : Prop := x.state.isWaiting = true → x.recheck = true

theorem attentive_of_ready {x : Routine κ} (ready : x.state = .ready) : Attentive x := by
  intro waits
  rw [ready] at waits
  cases waits

/-- What others may do while a thread is in a turn of the routine: the thread holds it, and the flag stays up. -/
def Attended (u : Thread) (x y : Routine κ) : Prop :=
  x.holder = some u → y.holder = some u ∧ (x.recheck = true → y.recheck = true)

/-- What may be done while no thread is in a turn of the routine: it does not begin to wait without a flag. -/
def Unattended (x y : Routine κ) : Prop := Attentive x → Attentive y

theorem tolerant_attended (u : Thread) : World.Tolerant (Attended (κ := κ) u) where
  refl _ held := ⟨held, id⟩
  trans first second held :=
    have ⟨middle, flag⟩ := first held
    have ⟨last, flag'⟩ := second middle
    ⟨last, flag' ∘ flag⟩
  place _ _ _ held := ⟨held, id⟩
  flag _ held := ⟨held, fun _ => rfl⟩
  stop _ held := ⟨held, id⟩
  pick _ _ _ free _ held := nomatch free.symm.trans held
  finish _ _ held := ⟨held, id⟩

theorem tolerant_unattended : World.Tolerant (Unattended (κ := κ)) where
  refl _ := id
  trans first second := second ∘ first
  place _ _ _ := id
  flag _ _ _ := rfl
  stop _ := id
  pick _ _ _ _ ready _ := attentive_of_ready ready
  finish _ _ _ := nofun

/-- Calls on a routine that leave it to its turns. In a turn nobody releases it or updates it, and between its
turns nobody hangs it up. -/
def Considerate (inTurn : Prop) : RoutineOp → Prop
  | .hangUp => inTurn
  | .release | .update => ¬inTurn
  | _ => True

theorem attended_change {inTurn : Prop} (inside : inTurn) {op : RoutineOp} (considerate : Considerate inTurn op)
    (u t : Thread) (now : Nat) (x : Routine κ) : Attended u x (op.change t now x) := by
  intro held
  cases op with
  | release => exact absurd inside considerate
  | update => exact absurd inside considerate
  | acquire =>
    simp only [RoutineOp.change, Routine.acquire, held]
    exact ⟨trivial, id⟩
  | wake =>
    simp only [RoutineOp.change, Routine.wake]
    split <;> exact ⟨held, id⟩
  | recheck => exact ⟨held, fun _ => rfl⟩
  | stop => exact ⟨held, id⟩
  | hangUp => exact ⟨held, id⟩
  | look => exact ⟨held, id⟩

theorem unattended_change {inTurn : Prop} (away : ¬inTurn) {op : RoutineOp} (considerate : Considerate inTurn op)
    (t : Thread) (now : Nat) (x : Routine κ) : Unattended x (op.change t now x) := by
  intro attentive
  cases op with
  | hangUp => exact absurd considerate away
  | update =>
    by_cases ready : (x.update now).state = .ready
    · exact attentive_of_ready ready
    · simp only [RoutineOp.change, Routine.update_eq_self ready]
      exact attentive
  | wake =>
    simp only [RoutineOp.change, Routine.wake]
    split
    · exact attentive
    · exact attentive_of_ready rfl
  | acquire =>
    simp only [RoutineOp.change, Routine.acquire]
    split <;> exact attentive
  | recheck => exact fun _ => rfl
  | release => exact attentive
  | stop => exact attentive
  | look => exact attentive

/-! ## 2. Whatever happens next -/

section Steps

variable [Program κ] {w w' w₀ : World κ} {a : Action κ} {heard : Bool}

omit [Program κ] in
/-- Some thread is in a turn of the routine. -/
def InTurn (w : World κ) (r : RoutineRef) : Prop := ∃ t, w.turn t = some r

/-- The action leaves the routine to its turns. Between them nobody puts it into a state from outside. -/
structure Discreet (r : RoutineRef) (w : World κ) (a : Action κ) : Prop where
  applies : ∀ op, World.Applies r op w a → Considerate (InTurn w r) op
  sets : World.Sets r a → InTurn w r

/-- A resume of the routine begins. -/
def Resumes (r : RoutineRef) (w : World κ) (a : Action κ) : Prop :=
  ∃ t, w.turn t = none ∧ (w.perform a).turn t = some r

theorem discreet_of_neither (unapplied : ∀ op, ¬World.Applies r op w a) (unset : ¬World.Sets r a) :
    Discreet r w a :=
  ⟨fun op applied => absurd applied (unapplied op), fun set => absurd set unset⟩

/-- Only to enter a turn begins a resume. -/
theorem not_resumes (other : ∀ t, a ≠ .enter t r) : ¬Resumes r w a := by
  rintro ⟨t, away, inside⟩
  rcases World.turn_perform_cases inside with before | ⟨same, -⟩
  · cases away.symm.trans before
  · exact other t same

omit [Program κ] in
/-- A thread that is in a turn of the routine holds it. -/
def Holds (w : World κ) (r : RoutineRef) : Prop :=
  ∀ t, w.turn t = some r → (w.sys.routine r).holder = some t

omit [Program κ] in
/-- A number that was never given out stands for a routine that nobody holds. -/
theorem bound_of_held {t : Thread} (held : (w.sys.routine r).holder = some t) : r < w.sys.routines.size := by
  refine Nat.lt_of_not_le fun beyond => ?_
  have free : (w.sys.routine r).holder = none := congrArg Routine.holder (Arena.get_of_size_le _ beyond)
  cases free.symm.trans held

theorem attended_perform (inside : InTurn w r) (discreet : Discreet r w a) (u : Thread)
    (bound : r < w.sys.routines.size) : Attended u (w.sys.routine r) ((w.perform a).sys.routine r) :=
  World.related_perform (tolerant_attended u)
    { applies := fun op applied t now x => attended_change inside (discreet.applies op applied) u t now x
      sets := fun _ _ _ held => ⟨held, id⟩
      moves := fun _ _ _ _ _ held => ⟨held, id⟩ } bound

theorem unattended_perform (away : ¬InTurn w r) (discreet : Discreet r w a)
    (bound : r < w.sys.routines.size) : Unattended (w.sys.routine r) ((w.perform a).sys.routine r) :=
  World.related_perform tolerant_unattended
    { applies := fun op applied t now x => unattended_change away (discreet.applies op applied) t now x
      sets := fun set => absurd (discreet.sets set) away
      moves := fun ⟨t, _, inside⟩ => absurd ⟨t, inside⟩ away } bound

omit [Program κ] in
theorem holder_update (x : Routine κ) (now : Nat) : (x.update now).holder = x.holder := by
  by_cases ready : (x.update now).state = .ready
  · rw [Routine.update_of_runnable ((Routine.state_update_iff x now).mp ready)]
    rfl
  · rw [Routine.update_eq_self ready]

/-- Who holds a routine does so until it is released. -/
theorem holder_perform {t : Thread} (held : (w.sys.routine r).holder = some t)
    (unreleased : ¬World.Applies r .release w a) : ((w.perform a).sys.routine r).holder = some t := by
  have tolerant : World.Tolerant fun x y : Routine κ => x.holder = some t → y.holder = some t :=
    { refl := fun _ => id
      trans := fun first second => second ∘ first
      place := fun _ _ _ => id
      flag := fun _ => id
      stop := fun _ => id
      pick := fun _ _ _ free _ held => nomatch free.symm.trans held
      finish := fun _ _ => id }
  refine World.related_perform tolerant
    { applies := fun op applied u now x held => ?_
      sets := fun _ _ _ => id
      moves := fun _ _ _ _ _ => id } (bound_of_held held) held
  cases op with
  | release => exact absurd applied unreleased
  | acquire => simp only [RoutineOp.change, Routine.acquire, held]
  | update => exact (holder_update x now).trans held
  | wake =>
    simp only [RoutineOp.change, Routine.wake]
    split <;> exact held
  | stop => exact held
  | hangUp => exact held
  | recheck => exact held
  | look => exact held

theorem Holds.of_unreleased (h : Holds w r) (unreleased : World.Applies r .release w a → ¬InTurn w r) :
    Holds (w.perform a) r := by
  intro t inside
  rcases World.turn_perform_cases inside with before | ⟨rfl, -, -, -, held⟩
  · have inTurn : InTurn w r := ⟨t, before⟩
    exact holder_perform (h t before) fun applied => unreleased applied inTurn
  · exact holder_perform held id

theorem Holds.perform (h : Holds w r) (discreet : Discreet r w a) : Holds (w.perform a) r :=
  h.of_unreleased (discreet.applies .release)

/-- Runs in which no resume of the routine begins, and whether its flag was up in one of their worlds. -/
inductive Unresumed (r : RoutineRef) (w₁ : World κ) : World κ → Bool → Prop
  | start : Unresumed r w₁ w₁ (w₁.sys.routine r).recheck
  | step {w : World κ} {heard : Bool} (run : Unresumed r w₁ w heard) (a : Action κ)
      (discreet : Discreet r w a) (unresumed : ¬Resumes r w a) :
      Unresumed r w₁ (w.perform a) (heard || ((w.perform a).sys.routine r).recheck)

/-- Whether the flag of the routine was up: in a turn it is up still, and between turns it is, or the routine
does not wait. -/
structure Hears (w : World κ) (r : RoutineRef) (heard : Bool) : Prop where
  bound : r < w.sys.routines.size
  holds : Holds w r
  flag : (w.sys.routine r).recheck = true → heard = true
  inTurn : heard = true → InTurn w r → (w.sys.routine r).recheck = true
  between : heard = true → ¬InTurn w r → Attentive (w.sys.routine r)

omit [Program κ] in
theorem Hears.start (bound : r < w.sys.routines.size) (holds : Holds w r) :
    Hears w r (w.sys.routine r).recheck :=
  ⟨bound, holds, id, fun up _ => up, fun up _ _ => up⟩

theorem Hears.perform (h : Hears w r heard) (discreet : Discreet r w a) (unresumed : ¬Resumes r w a) :
    Hears (w.perform a) r (heard || ((w.perform a).sys.routine r).recheck) := by
  have holds := h.holds.perform discreet
  -- A turn after the action has not begun with it.
  have lasting : InTurn (w.perform a) r → InTurn w r := by
    rintro ⟨t, inside⟩
    rcases World.turn_perform_cases inside with before | ⟨-, away, -⟩
    · exact ⟨t, before⟩
    · exact absurd ⟨t, away, inside⟩ unresumed
  have stays : heard = true → InTurn w r → ((w.perform a).sys.routine r).recheck = true := by
    rintro up ⟨t, inside⟩
    have kept := attended_perform ⟨t, inside⟩ discreet t h.bound (h.holds t inside)
    exact kept.2 (h.inTurn up ⟨t, inside⟩)
  refine ⟨Nat.lt_of_lt_of_le h.bound (w.bounds_perform a).1, holds, fun up => ?_, fun up inside => ?_,
    fun up away => ?_⟩
  · rw [up, Bool.or_true]
  · rcases Bool.or_eq_true_iff.mp up with before | now
    · exact stays before (lasting inside)
    · exact now
  · rcases Bool.or_eq_true_iff.mp up with before | now
    · by_cases inside : InTurn w r
      · exact fun _ => stays before inside
      · exact unattended_perform inside discreet h.bound (h.between before inside)
    · exact fun _ => now

theorem Unresumed.hears {w₁ : World κ} (run : Unresumed r w₁ w heard) (bound : r < w₁.sys.routines.size)
    (holds : Holds w₁ r) : Hears w r heard := by
  induction run with
  | start => exact .start bound holds
  | step _ a discreet unresumed ih => exact ih.perform discreet unresumed

theorem Unresumed.heard_of_first {w₁ : World κ} (run : Unresumed r w₁ w heard)
    (first : (w₁.sys.routine r).recheck = true) : heard = true := by
  induction run with
  | start => exact first
  | step _ _ _ _ ih => rw [ih, Bool.true_or]

theorem holds_of_run (vacant : ∀ t, w₀.turn t ≠ some r) (run : World.Run (Discreet r) w₀ w) : Holds w r := by
  induction run with
  | refl => exact fun t inside => absurd inside (vacant t)
  | step _ a discreet ih => exact ih.perform discreet

/-! ## 3. Notifications -/

/-- A caller or a body notifies the task of an id. -/
def Notifies (id : UInt64) (w : World κ) : Action κ → Prop
  | .operate _ (.notifyTask i) | .operate _ (.notifyProcessor i) => i = id
  | .move t => ∃ q name rest, w.turn t = some q ∧
      (w.sys.routine q).work.next w.sys.labels = .ask (.notify name) rest ∧ taskId name = id
  | _ => False

/-- A notification puts up the flag of a routine that waits. -/
theorem recheck_of_notifies {id : UInt64} (running : isStopped w.sys = false) (live : w.sys.task? id = some r)
    (bound : r < w.sys.routines.size) (notifies : Notifies id w a) :
    ((w.perform a).sys.routine r).recheck = (w.sys.routine r).notified.recheck := by
  obtain ⟨sched, hs, found⟩ := Option.bind_eq_some_iff.mp live
  have running : sched.stopped = false := by
    rw [isStopped, hs, Option.any_some] at running
    exact running
  obtain ⟨groups, told⟩ := System.notifyProcessor_eq hs running found
  have flagged : ∀ s : System κ, s = { w.sys.modifyRoutine r Routine.notified with groups } →
      (s.routine r).recheck = (w.sys.routine r).notified.recheck := by
    rintro _ rfl
    show ((w.sys.modifyRoutine r Routine.notified).routine r).recheck = _
    rw [System.routine_modifyRoutine, if_pos ⟨rfl, bound⟩]
  cases a with
  | operate t o =>
    cases o with
    | notifyTask i =>
      cases notifies
      exact flagged _ (congrArg Prod.fst ((System.notifyTask_eq hs running).trans told))
    | notifyProcessor i =>
      cases notifies
      exact flagged _ (congrArg Prod.fst told)
    | _ => cases notifies
  | move t =>
    obtain ⟨q, name, rest, inside, next, rfl⟩ := notifies
    have served : (w.sys.serve t q (.notify name)).1 = (w.sys.notifyTask (taskId name)).1 := by
      simp only [System.serve, hs, Option.isNone_some, Bool.false_eq_true, if_false]
    have before := flagged _ (congrArg Prod.fst ((System.notifyTask_eq hs running).trans told))
    rw [World.perform_ask inside next rfl, served, System.routine_modifyRoutine]
    split <;> exact before
  | _ => cases notifies

/-- What becomes of a notification, until the next resume of the routine begins. -/
structure Lasts (w : World κ) (id : UInt64) (r : RoutineRef) (w₁ w' : World κ) (heard : Bool) : Prop where
  /-- It succeeds. -/
  answer : (w.sys.notifyTask id).2 = true
  /-- The flag is up right after it if the routine waited, or was flagged before. -/
  first : (w₁.sys.routine r).recheck = true ↔
    (w.sys.routine r).state.isWaiting = true ∨ (w.sys.routine r).recheck = true
  /-- If nobody holds the routine and it waits, its flag is up exactly if it was up at some time since then. -/
  later : (w'.sys.routine r).holder = none → (w'.sys.routine r).state.isWaiting = true →
    ((w'.sys.routine r).recheck = true ↔ heard = true)
  /-- So the notification is not lost if it finds the routine waiting. -/
  kept : (w.sys.routine r).state.isWaiting = true → (w'.sys.routine r).holder = none →
    (w'.sys.routine r).state.isWaiting = true → (w'.sys.routine r).recheck = true

/-- From a start at which no thread is in a turn of the routine, in every run up to a notification, and in every
run after it in which no resume of the routine begins. -/
theorem recheck_iff_heard {id : UInt64} (vacant : ∀ t, w₀.turn t ≠ some r)
    (before : World.Run (Discreet r) w₀ w) (running : isStopped w.sys = false)
    (live : w.sys.task? id = some r) (bound : r < w.sys.routines.size) (notifies : Notifies id w a)
    (discreet : Discreet r w a) (since : Unresumed r (w.perform a) w' heard) :
    Lasts w id r (w.perform a) w' heard := by
  have holds := holds_of_run vacant before
  have hears := since.hears (Nat.lt_of_lt_of_le bound (w.bounds_perform a).1) (holds.perform discreet)
  have later : (w'.sys.routine r).holder = none → (w'.sys.routine r).state.isWaiting = true →
      ((w'.sys.routine r).recheck = true ↔ heard = true) := by
    intro free waits
    refine ⟨hears.flag, fun up => hears.between up ?_ waits⟩
    rintro ⟨t, inside⟩
    cases free.symm.trans (hears.holds t inside)
  have first : ((w.perform a).sys.routine r).recheck = true ↔
      (w.sys.routine r).state.isWaiting = true ∨ (w.sys.routine r).recheck = true := by
    rw [recheck_of_notifies running live bound notifies, Routine.notified]
    split
    · next waits => exact ⟨fun _ => .inl waits, fun _ => rfl⟩
    · next idle => exact ⟨.inr, fun either => either.resolve_left idle⟩
  refine ⟨?_, first, later, fun found free waits => ?_⟩
  · obtain ⟨sched, hs, there⟩ := Option.bind_eq_some_iff.mp live
    rw [isStopped, hs, Option.any_some] at running
    obtain ⟨groups, told⟩ := System.notifyProcessor_eq hs running there
    rw [System.notifyTask_eq hs running, told]
  · exact (later free waits).mpr (since.heard_of_first (first.mpr (.inl found)))

end Steps

/-- A body that waits for data without looking for any. -/
def parking : Script := Script.ofActions [.pause (.become .dataWait)]

/-- A scheduler with one task. -/
def begun : World Script :=
  [.operate .main (.newRoutine 7 "t" (.body parking)), .operate .main (.dispatch 0)].foldl World.perform
    { sys := System.startScheduler {} .main {} }

/-- A processor is in a turn of the task, and its body has not made a move. -/
def midTurn : World Script :=
  (begun.perform (.operate (.processor 0) (.next 0))).perform (.enter (.processor 0) 0)

/-- The body gives up the turn, and the processor releases the task. -/
def giveUp (w : World Script) : World Script :=
  (w.perform (.move (.processor 0))).perform (.operate (.processor 0) (.onRoutine 0 .release))

/-- Somebody notifies the task. -/
def notify : Action Script := .operate .helper (.notifyTask 7)

theorem vacant_begun (t : Thread) : begun.turn t ≠ some 0 := nofun

theorem discreet_notify (w : World Script) : Discreet 0 w notify := discreet_of_neither (fun _ => id) id

theorem run_midTurn : World.Run (Discreet 0) begun midTurn := by
  have nothing : World.Run (Discreet 0) begun begun := .refl begun
  have found := nothing.step (.operate (.processor 0) (.next 0)) (discreet_of_neither (fun _ => id) id)
  exact found.step (.enter (.processor 0) 0) (discreet_of_neither (fun _ => id) id)

/-- The first move of the body is to give up the turn. -/
theorem discreet_move {w : World Script} (inside : w.turn (.processor 0) = some 0)
    (work : (w.sys.routine 0).work = .body parking) : Discreet 0 w (.move (.processor 0)) := by
  refine discreet_of_neither ?_ id
  rintro op ⟨q, rest, there, next⟩
  cases inside.symm.trans there
  rw [work] at next
  cases next

/-- After a move of its only turn the task may be released. -/
theorem discreet_release {w : World Script} (away : ∀ t, w.turn t ≠ some 0) :
    Discreet 0 w (.operate (.processor 0) (.onRoutine 0 .release)) := by
  refine ⟨?_, nofun⟩
  rintro _ ⟨-, rfl⟩ ⟨t, inside⟩
  exact away t inside

/-- No thread is in a turn of the task after the only turn has ended. -/
theorem away_midTurn {turn : Thread → Option RoutineRef} (same : turn = midTurn.turn) (t : Thread) :
    (if t = .processor 0 then none else turn t) ≠ some 0 := by
  rw [same]
  split
  · exact nofun
  · next other =>
    show (if t = .processor 0 then some 0 else none) ≠ some 0
    rw [if_neg other]
    exact nofun

/-- The body has given up the turn, and then the task is notified. Its flag is up, and stays up. -/
theorem kept_parked : (begun.sys.task? 7 = some 0) ∧
    (((giveUp midTurn).perform notify).sys.routine 0).recheck = true := by
  have moved := run_midTurn.step (.move (.processor 0)) (discreet_move rfl rfl)
  have released := moved.step (.operate (.processor 0) (.onRoutine 0 .release))
    (discreet_release (away_midTurn rfl))
  have lasts := recheck_iff_heard vacant_begun released rfl rfl Nat.one_pos (a := notify) rfl
    (discreet_notify _) .start
  exact ⟨rfl, lasts.kept rfl rfl rfl⟩

/-- The task is notified in the middle of its turn. The notification succeeds, no resume begins after it, and
yet the task waits without a flag. -/
theorem unheard_parked :
    World.Run (Discreet 0) begun midTurn ∧ (midTurn.sys.notifyTask 7).2 = true ∧
      Unresumed 0 (midTurn.perform notify) (giveUp (midTurn.perform notify)) false ∧
      ((giveUp (midTurn.perform notify)).sys.routine 0).holder = none ∧
      ((giveUp (midTurn.perform notify)).sys.routine 0).state = .dataWait ∧
      ((giveUp (midTurn.perform notify)).sys.routine 0).recheck = false := by
  have notified : Unresumed 0 (midTurn.perform notify) (midTurn.perform notify) false := .start
  have moved := notified.step (.move (.processor 0)) (discreet_move rfl rfl) (not_resumes nofun)
  have released := moved.step (.operate (.processor 0) (.onRoutine 0 .release))
    (discreet_release (away_midTurn rfl)) (not_resumes nofun)
  exact ⟨run_midTurn, rfl, released, rfl, rfl, rfl⟩

end Turns

end CoopSched
