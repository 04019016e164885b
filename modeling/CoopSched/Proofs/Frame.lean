import CoopSched.System.Service
import CoopSched.System.Startup
/-!
# What an operation leaves alone

Most operations touch one corner of the system. `Keeps view s s'` says that every routine of `s` is
still there in `s'` and that `view` shows the same of it; `Frame view s s'` says besides that the
scheduler, and the names and queues of all groups, are the same. Both are reflexive and transitive, so
that the frame of an operation follows from the frames of its parts.

A view is any function of a routine. `IgnoresStatus view` says that it does not show the state, the
flags or the wake time, `IgnoresHolder view` that it does not show the holder, and `IgnoresPlace view`
that it does not show the group and the priority.
-/

namespace CoopSched

variable {κ β : Type}

/-- A routine that waits is made ready if its recheck flag is up, and the flag is taken down. -/
theorem Routine.update_of_waiting {x : Routine κ} (h : x.state.isWaiting = true) (now : Nat) :
    x.update now = if x.recheck then x.takeRecheck.1.setState .ready else x.takeRecheck.1 := by
  unfold Routine.update
  cases hx : x.state with
  | ioWait =>
    simp only [Routine.takeRecheck]
    cases x.recheck <;> rfl
  | dataWait =>
    simp only [Routine.takeRecheck]
    cases x.recheck <;> rfl
  | ready => rw [hx] at h; cases h
  | finished => rw [hx] at h; cases h
  | sleep => rw [hx] at h; cases h

/-- The view shows neither state, flags nor wake time. -/
structure IgnoresStatus (view : Routine κ → β) : Prop where
  state : ∀ (x : Routine κ) (state : State), view { x with state } = view x
  recheck : ∀ (x : Routine κ) (recheck : Bool), view { x with recheck } = view x
  stopped : ∀ (x : Routine κ) (stopped : Bool), view { x with stopped } = view x
  wakeAt : ∀ (x : Routine κ) (wakeAt : Nat), view { x with wakeAt } = view x

/-- The view does not show who holds the routine. -/
def IgnoresHolder (view : Routine κ → β) : Prop :=
  ∀ (x : Routine κ) (holder : Option Thread), view { x with holder } = view x

/-- The view shows neither group nor priority. -/
def IgnoresPlace (view : Routine κ → β) : Prop :=
  ∀ (x : Routine κ) (group : String) (priority : Nat), view { x with group, priority } = view x

namespace IgnoresStatus

variable {view : Routine κ → β}

theorem setState (h : IgnoresStatus view) (x : Routine κ) (state : State) :
    view (x.setState state) = view x := h.state x state

theorem requestRecheck (h : IgnoresStatus view) (x : Routine κ) :
    view x.requestRecheck = view x := h.recheck x true

theorem stop (h : IgnoresStatus view) (x : Routine κ) : view x.stop = view x := h.stopped x true

theorem hangUp (h : IgnoresStatus view) (x : Routine κ) : view x.hangUp = view x :=
  h.state x .dataWait

theorem wake (h : IgnoresStatus view) (x : Routine κ) : view x.wake = view x := by
  unfold Routine.wake
  split
  · rfl
  · exact h.state x .ready

theorem pause (h : IgnoresStatus view) (x : Routine κ) (now : Nat) (how : Pause) :
    view (x.pause now how) = view x := by
  cases how with
  | keep => rfl
  | become state => exact h.state x state
  | sleep millis => exact (h.state { x with wakeAt := now + millis } .sleep).trans (h.wakeAt x _)

theorem takeRecheck (h : IgnoresStatus view) (x : Routine κ) :
    view x.takeRecheck.1 = view x := h.recheck x false

theorem update (h : IgnoresStatus view) (x : Routine κ) (now : Nat) :
    view (x.update now) = view x := by
  have waiting : x.state.isWaiting = true → view (x.update now) = view x := by
    intro waits
    rw [Routine.update_of_waiting waits]
    split
    · exact (h.setState _ .ready).trans (h.takeRecheck x)
    · exact h.takeRecheck x
  cases hx : x.state with
  | ioWait => exact waiting (congrArg State.isWaiting hx)
  | dataWait => exact waiting (congrArg State.isWaiting hx)
  | ready => simp only [Routine.update, hx]
  | finished => simp only [Routine.update, hx]
  | sleep =>
    simp only [Routine.update, hx]
    split
    · exact h.state x .ready
    · rfl

end IgnoresStatus

theorem IgnoresHolder.acquire {view : Routine κ → β} (h : IgnoresHolder view) (x : Routine κ)
    (t : Thread) : view (x.acquire t).1 = view x := by
  unfold Routine.acquire
  split
  · exact h x (some t)
  · rfl

theorem IgnoresHolder.release {view : Routine κ → β} (h : IgnoresHolder view) (x : Routine κ) :
    view x.release = view x := h x none

namespace System

@[simp] theorem size_modifyRoutine (s : System κ) (r : RoutineRef) (f : Routine κ → Routine κ) :
    (s.modifyRoutine r f).routines.size = s.routines.size := Arena.size_modify ..

@[simp] theorem scheduler_modifyGroup (s : System κ) (g : GroupRef) (f : Group → Group) :
    (s.modifyGroup g f).scheduler = s.scheduler := rfl

@[simp] theorem routines_modifyGroup (s : System κ) (g : GroupRef) (f : Group → Group) :
    (s.modifyGroup g f).routines = s.routines := rfl

@[simp] theorem queues_modifyGroup (s : System κ) (g : GroupRef) (f : Group → Group) :
    (s.modifyGroup g f).queues = s.queues := rfl

@[simp] theorem size_modifyGroup (s : System κ) (g : GroupRef) (f : Group → Group) :
    (s.modifyGroup g f).groups.size = s.groups.size := Arena.size_modify ..

/-! ## Keeping what a view shows -/

/-- `s'` has every routine of `s`, and the view shows the same of it. -/
structure Keeps (view : Routine κ → β) (s s' : System κ) : Prop where
  size : s.routines.size ≤ s'.routines.size
  routine : ∀ r, r < s.routines.size → view (s'.routine r) = view (s.routine r)

/-- The same groups, with the same names and queues. -/
structure KeepsSlots (s s' : System κ) : Prop where
  size : s'.groups.size = s.groups.size
  name : ∀ g, (s'.group g).name = (s.group g).name
  queue : ∀ g l, (s'.group g).queue l = (s.group g).queue l

/-- The same scheduler, the same slots, the same routines, and the view shows the same of them. -/
structure Frame (view : Routine κ → β) (s s' : System κ) : Prop where
  scheduler : s'.scheduler = s.scheduler
  slots : KeepsSlots s s'
  routines : Keeps view s s'
  size : s'.routines.size = s.routines.size

variable {view : Routine κ → β} {s s' s'' : System κ}

namespace Keeps

theorem refl (view : Routine κ → β) (s : System κ) : Keeps view s s :=
  ⟨Nat.le_refl _, fun _ _ => rfl⟩

theorem trans (h₁ : Keeps view s s') (h₂ : Keeps view s' s'') : Keeps view s s'' where
  size := Nat.le_trans h₁.size h₂.size
  routine r hr := (h₂.routine r (Nat.lt_of_lt_of_le hr h₁.size)).trans (h₁.routine r hr)

/-- Nothing but the routines matters. -/
theorem of_routines_eq (h : s'.routines = s.routines) : Keeps view s s' where
  size := Nat.le_of_eq (congrArg Arena.size h.symm)
  routine r _ := congrArg (fun a : Arena (Routine κ) => view (a.get r)) h

theorem modifyRoutine (s : System κ) (r : RoutineRef) {f : Routine κ → Routine κ}
    (h : ∀ x, view (f x) = view x) : Keeps view s (s.modifyRoutine r f) where
  size := Nat.le_of_eq (size_modifyRoutine ..).symm
  routine q _ := by
    rw [routine_modifyRoutine]
    split
    · exact h _
    · rfl

theorem addRoutine (s : System κ) (id : UInt64) (name : String) (work : Work κ) :
    Keeps view s (s.addRoutine id name work).1 where
  size := by simp [System.addRoutine]
  routine r hr := by
    have hne : r ≠ s.routines.size := Nat.ne_of_lt hr
    simp only [System.addRoutine, System.routine, Arena.get_add, if_neg hne]

end Keeps

namespace KeepsSlots

theorem refl (s : System κ) : KeepsSlots s s := ⟨rfl, fun _ => rfl, fun _ _ => rfl⟩

theorem trans (h₁ : KeepsSlots s s') (h₂ : KeepsSlots s' s'') : KeepsSlots s s'' where
  size := h₂.size.trans h₁.size
  name g := (h₂.name g).trans (h₁.name g)
  queue g l := (h₂.queue g l).trans (h₁.queue g l)

/-- Nothing but the groups matters. -/
theorem of_groups_eq (h : s'.groups = s.groups) : KeepsSlots s s' where
  size := by rw [h]
  name g := congrArg (fun a : Arena Group => (a.get g).name) h
  queue g l := congrArg (fun a : Arena Group => (a.get g).queue l) h

theorem modifyGroup (s : System κ) (g : GroupRef) {f : Group → Group}
    (hn : ∀ x, (f x).name = x.name) (hq : ∀ x l, (f x).queue l = x.queue l) :
    KeepsSlots s (s.modifyGroup g f) where
  size := size_modifyGroup ..
  name h := by
    rw [group_modifyGroup]
    split
    · exact hn _
    · rfl
  queue h l := by
    rw [group_modifyGroup]
    split
    · exact hq _ l
    · rfl

end KeepsSlots

namespace Frame

theorem refl (view : Routine κ → β) (s : System κ) : Frame view s s :=
  ⟨rfl, .refl s, .refl view s, rfl⟩

theorem trans (h₁ : Frame view s s') (h₂ : Frame view s' s'') : Frame view s s'' where
  scheduler := h₂.scheduler.trans h₁.scheduler
  slots := h₁.slots.trans h₂.slots
  routines := h₁.routines.trans h₂.routines
  size := h₂.size.trans h₁.size

/-- Only routines, groups and the scheduler matter: the clock, the queues, the processors, the gates
and the record may differ. -/
theorem of_eq (hr : s'.routines = s.routines) (hg : s'.groups = s.groups)
    (hs : s'.scheduler = s.scheduler) : Frame view s s' :=
  ⟨hs, .of_groups_eq hg, .of_routines_eq hr, congrArg Arena.size hr⟩

theorem modifyRoutine (s : System κ) (r : RoutineRef) {f : Routine κ → Routine κ}
    (h : ∀ x, view (f x) = view x) : Frame view s (s.modifyRoutine r f) :=
  ⟨rfl, .of_groups_eq rfl, .modifyRoutine s r h, size_modifyRoutine ..⟩

theorem modifyGroup (s : System κ) (g : GroupRef) {f : Group → Group}
    (hn : ∀ x, (f x).name = x.name) (hq : ∀ x l, (f x).queue l = x.queue l) :
    Frame view s (s.modifyGroup g f) :=
  ⟨rfl, .modifyGroup s g hn hq, .of_routines_eq rfl, rfl⟩

theorem foldl {α : Type} {step : System κ → α → System κ} (h : ∀ s a, Frame view s (step s a))
    (as : List α) (s : System κ) : Frame view s (as.foldl step s) := by
  induction as generalizing s with
  | nil => exact .refl view s
  | cons a as ih => exact (h s a).trans (ih (step s a))

end Frame

/-! ## Frames of the operations -/

section Operations

theorem frame_report (s : System κ) (t : Thread) (n : Notice) : Frame view s (s.report t n) :=
  .of_eq rfl rfl rfl

/-- Notices only change the record. -/
theorem reportAll_eq (s : System κ) (t : Thread) (ns : List Notice) :
    s.reportAll t ns = { s with log := s.log ++ ns.map fun n => Entered.mk t (.notice n) } := by
  induction ns generalizing s with
  | nil => simp [reportAll]
  | cons n ns ih =>
    have rest : s.reportAll t (n :: ns) = (s.report t n).reportAll t ns := rfl
    rw [rest, ih]
    simp [report, record]

theorem frame_reportAll (s : System κ) (t : Thread) (ns : List Notice) : Frame view s (s.reportAll t ns) := by
  rw [reportAll_eq]
  exact .of_eq rfl rfl rfl

theorem frame_modifyQueue (s : System κ) (q : QueueRef) (f : MessageQueue → MessageQueue) :
    Frame view s (s.modifyQueue q f) :=
  .of_eq rfl rfl rfl

theorem frame_modifyProcessor (s : System κ) (p : Nat) (f : Processor → Processor) :
    Frame view s (s.modifyProcessor p f) :=
  .of_eq rfl rfl rfl

theorem frame_notifyGroup (s : System κ) (g : GroupRef) :
    Frame view s (s.modifyGroup g Group.notify) :=
  .modifyGroup s g (fun _ => rfl) fun _ _ => rfl

theorem frame_shutdownGroup (s : System κ) (g : GroupRef) :
    Frame view s (s.modifyGroup g Group.shutdown) :=
  .modifyGroup s g (fun _ => rfl) fun _ _ => rfl

theorem frame_waitGroup (s : System κ) (g : GroupRef) :
    Frame view s (s.modifyGroup g Group.wait) := by
  refine .modifyGroup s g (fun x => ?_) fun x l => x.queue_wait l
  unfold Group.wait
  split <;> rfl

theorem frame_flagIfWaiting (hv : IgnoresStatus view) (s : System κ) (r : RoutineRef) :
    Frame view s (s.flagIfWaiting r) := by
  unfold flagIfWaiting
  split
  · exact .modifyRoutine s r hv.requestRecheck
  · exact .refl view s

theorem frame_notifyGroupNamed (s : System κ) (roster : Roster) (name : String) :
    Frame view s (s.notifyGroupNamed roster name).1 := by
  unfold notifyGroupNamed
  split
  · exact frame_notifyGroup s _
  · exact .refl view s

theorem frame_notifyProcessor (hv : IgnoresStatus view) (s : System κ) (id : UInt64) :
    Frame view s (s.notifyProcessor id).1 := by
  unfold notifyProcessor
  split
  · exact .refl view s
  · split
    · exact .refl view s
    · split
      · exact .refl view s
      · exact (frame_flagIfWaiting hv s _).trans (frame_notifyGroupNamed _ _ _)

theorem frame_notifyTask (hv : IgnoresStatus view) (s : System κ) (id : UInt64) :
    Frame view s (s.notifyTask id).1 := by
  unfold notifyTask
  split
  · exact .refl view s
  · split
    · exact .refl view s
    · exact frame_notifyProcessor hv s id

theorem frame_announce (hv : IgnoresStatus view) (s : System κ) (t : Thread) (a : Announcement) :
    Frame view s (s.announce t a) := by
  cases a with
  | trace text => exact .of_eq rfl rfl rfl
  | recheck r => exact .modifyRoutine s r hv.requestRecheck
  | notifyGroup g => exact frame_notifyGroup s g
  | notifyTask serial id =>
    simp only [announce]
    split
    · exact frame_notifyProcessor hv s id
    · exact .refl view s

theorem frame_fireCallback (hv : IgnoresStatus view) (s : System κ) (t : Thread) (q : QueueRef) :
    Frame view s (s.fireCallback t q) :=
  .foldl (fun s a => frame_announce hv s t a) _ s

theorem frame_push (hv : IgnoresStatus view) (s : System κ) (t : Thread) (q : QueueRef)
    (message : Int) : Frame view s (s.push t q message) :=
  (frame_modifyQueue s q _).trans (frame_fireCallback hv _ t q)

theorem frame_fetch (s : System κ) (q : QueueRef) : Frame view s (s.fetch q).1 :=
  frame_modifyQueue s q _

theorem frame_acquire (hh : IgnoresHolder view) (s : System κ) (t : Thread) (r : RoutineRef) :
    Frame view s (s.acquire t r).1 :=
  .modifyRoutine s r fun x => hh.acquire x t

theorem frame_release (hh : IgnoresHolder view) (s : System κ) (r : RoutineRef) :
    Frame view s (s.release r) :=
  .modifyRoutine s r hh.release

theorem frame_update (hv : IgnoresStatus view) (s : System κ) (r : RoutineRef) :
    Frame view s (s.update r) :=
  .modifyRoutine s r fun x => hv.update x s.now

theorem frame_scan (hv : IgnoresStatus view) (hh : IgnoresHolder view) (t : Thread)
    (rs : List RoutineRef) (s : System κ) : Frame view s (scan t rs s).1 := by
  induction rs generalizing s with
  | nil => exact .refl view s
  | cons r rest ih =>
    have acquired := frame_acquire hh s t r
    unfold scan
    split
    · next s₁ heq => rw [heq] at acquired; exact acquired.trans (ih s₁)
    · next s₁ heq =>
      rw [heq] at acquired
      have updated := acquired.trans (frame_update hv s₁ r)
      dsimp only
      split
      · exact updated
      · exact (updated.trans (frame_release hh _ r)).trans (ih _)

theorem frame_nextRoutine (hv : IgnoresStatus view) (hh : IgnoresHolder view) (s : System κ)
    (t : Thread) (g : GroupRef) : Frame view s (s.nextRoutine t g).1 := by
  unfold nextRoutine
  split
  · exact .refl view s
  · exact frame_scan hv hh t _ s

theorem frame_applyOp (hv : IgnoresStatus view) (hh : IgnoresHolder view) (s : System κ)
    (t : Thread) (r : RoutineRef) (op : RoutineOp) : Frame view s (s.applyOp t r op).1 := by
  cases op with
  | stop => exact .modifyRoutine s r hv.stop
  | wake => exact .modifyRoutine s r hv.wake
  | hangUp => exact .modifyRoutine s r hv.hangUp
  | recheck => exact .modifyRoutine s r hv.requestRecheck
  | release => exact frame_release hh s r
  | acquire => exact frame_acquire hh s t r
  | update => exact frame_update hv s r
  | look => exact .refl view s

theorem frame_stopProcessor (s : System κ) (t : Thread) (p : Nat) :
    Frame view s (s.stopProcessor t p) := by
  unfold stopProcessor
  dsimp only
  split
  · exact .refl view s
  · have halted : Frame view s (s.modifyProcessor p Processor.halt) := frame_modifyProcessor s p _
    have given : ∀ {s'}, Frame view s s' → Frame view s (s'.modifyProcessor p Processor.giveBack) :=
      fun before => before.trans (frame_modifyProcessor _ p Processor.giveBack)
    cases (s.processor p).group with
    | none =>
      split
      · exact (given halted).trans (frame_report _ t _)
      · exact given halted
    | some g =>
      have silenced := halted.trans (frame_shutdownGroup _ g)
      split
      · exact (given silenced).trans (frame_report _ t _)
      · exact given silenced

theorem frame_stopServedGroups (s : System κ) (processors : List Nat) :
    Frame view s (s.stopServedGroups processors) :=
  .foldl (fun s g => frame_shutdownGroup s g) _ s

end Operations

end System

end CoopSched
