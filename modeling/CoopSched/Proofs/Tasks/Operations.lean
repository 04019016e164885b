import CoopSched.Proofs.Tasks.Consistency
/-!
# Dispatch, removal and shutdown

`Sound` says that there is a scheduler whose table and queues agree. Here it is shown of the operations
that change either of them.

* A dispatch is granted exactly to the ids that are not live (`dispatch_snd`), and places the routine
  within the bounds (`place_consistent`).
* A removal does nothing, or waits, or takes a slot away (`removeRoutine_cases`).
* It finds the one slot of the routine (`slotOf?_eq`) and takes out that slot and the id together
  (`removeById_eq`), unless somebody holds the routine.
* A shutdown removes every live task (`Sound.shutdown`), unless somebody holds one.
-/

namespace CoopSched.System

variable {κ : Type} {s s' s'' : System κ} {sched : Scheduler} {roster : Roster}
  {tasks : TaskTable} {id : UInt64} {r : RoutineRef} {g : GroupRef}

/-- There is a scheduler, and its table and queues agree. -/
def Sound (s : System κ) : Prop :=
  ∃ sched, s.scheduler = some sched ∧ s.Consistent sched.roster sched.tasks

theorem Sound.of_frame (h : s.Sound) (frame : Frame Routine.placement s s') : s'.Sound := by
  obtain ⟨sched, hs, agree⟩ := h
  exact ⟨sched, frame.scheduler.trans hs, agree.of_frame frame⟩

/-! ## 1. Placing a routine -/

/-- Nothing but the fields of one routine may differ, and of those not the id. -/
structure Relocates (r : RoutineRef) (s s' : System κ) : Prop where
  scheduler : s'.scheduler = s.scheduler
  queues : s'.queues = s.queues
  slots : KeepsSlots s s'
  size : s'.routines.size = s.routines.size
  id : (s'.routine r).id = (s.routine r).id
  others : ∀ q, q ≠ r → s'.routine q = s.routine q

namespace Relocates

theorem refl (r : RoutineRef) (s : System κ) : Relocates r s s :=
  ⟨rfl, rfl, .refl s, rfl, rfl, fun _ _ => rfl⟩

theorem trans (h₁ : Relocates r s s') (h₂ : Relocates r s' s'') : Relocates r s s'' where
  scheduler := h₂.scheduler.trans h₁.scheduler
  queues := h₂.queues.trans h₁.queues
  slots := h₁.slots.trans h₂.slots
  size := h₂.size.trans h₁.size
  id := h₂.id.trans h₁.id
  others q hq := (h₂.others q hq).trans (h₁.others q hq)

theorem report (r : RoutineRef) (s : System κ) (t : Thread) (n : Notice) :
    Relocates r s (s.report t n) :=
  ⟨rfl, rfl, .of_groups_eq rfl, rfl, rfl, fun _ _ => rfl⟩

theorem modifyRoutine (s : System κ) (r : RoutineRef) {f : Routine κ → Routine κ}
    (h : ∀ x, (f x).id = x.id) : Relocates r s (s.modifyRoutine r f) where
  scheduler := rfl
  queues := rfl
  slots := .of_groups_eq rfl
  size := size_modifyRoutine ..
  id := by
    rw [routine_modifyRoutine]
    split
    · exact h _
    · rfl
  others q hq := by rw [routine_modifyRoutine, if_neg (fun hc => hq hc.1.symm)]

theorem assign (s : System κ) (policy : Policy) (r : RoutineRef) :
    Relocates r s (s.assign policy r) := by
  unfold System.assign
  split
  · exact .modifyRoutine s r fun _ => rfl
  · exact .modifyRoutine s r fun _ => rfl

theorem clampPriority (s : System κ) (t : Thread) (r : RoutineRef) :
    Relocates r s (s.clampPriority t r) := by
  unfold System.clampPriority
  dsimp only
  split
  · exact (Relocates.report r s t _).trans (.modifyRoutine _ r fun _ => rfl)
  · exact .refl r s

theorem settleGroup (s : System κ) (t : Thread) (roster : Roster) (r : RoutineRef) :
    Relocates r s (s.settleGroup t roster r).1 := by
  unfold System.settleGroup
  dsimp only
  split
  · exact .refl r s
  · exact (Relocates.report r s t _).trans (.modifyRoutine _ r fun _ => rfl)

end Relocates

theorem clampPriority_lt (s : System κ) (t : Thread) (hr : r < s.routines.size) :
    ((s.clampPriority t r).routine r).priority < maxPrio := by
  unfold clampPriority
  dsimp only
  split
  · have inside : r < (s.report t (.priorityClamped (s.routine r).name (s.routine r).priority
        (maxPrio - 1))).routines.size := hr
    rw [routine_modifyRoutine, if_pos ⟨rfl, inside⟩]
    show maxPrio - 1 < maxPrio
    decide
  · next h => exact Nat.lt_of_not_le h

theorem settleGroup_priority (s : System κ) (t : Thread) (roster : Roster) (r : RoutineRef) :
    ((s.settleGroup t roster r).1.routine r).priority = (s.routine r).priority := by
  unfold settleGroup
  dsimp only
  split
  · rfl
  · rw [routine_modifyRoutine]
    split <;> rfl

/-- A routine carries the name of the group it is sent to. -/
theorem find?_settleGroup (hosts : s.Hosts roster) (t : Thread) (hr : r < s.routines.size) :
    roster.find? ((s.settleGroup t roster r).1.routine r).group =
      some (s.settleGroup t roster r).2 := by
  have known := hosts.known _ (Roster.findOrDefault_mem hosts.default (s.routine r).group)
  unfold settleGroup
  dsimp only
  split
  · next heq =>
    rw [heq] at known
    exact known
  · have inside : r < (s.report t (.unknownGroup (s.routine r).name (s.routine r).group
        (s.group (roster.findOrDefault (s.routine r).group)).name)).routines.size := hr
    rw [routine_modifyRoutine, if_pos ⟨rfl, inside⟩]
    exact known

/-- A routine that is not live may change its fields. -/
theorem Consistent.of_relocates (h : s.Consistent roster tasks)
    (new : tasks.find? (s.routine r).id = none) (move : Relocates r s s') :
    s'.Consistent roster tasks := by
  refine h.of_live move.slots (Nat.le_of_eq move.size.symm) ?_
  intro id q found
  have hq : q ≠ r := by
    rintro rfl
    rw [(h.task found).id, found] at new
    cases new
  rw [move.others q hq]

theorem Consistent.modifyScheduler (h : s.Consistent roster tasks) (f : Scheduler → Scheduler) :
    (s.modifyScheduler f).Consistent roster tasks :=
  h.of_keeps (.of_groups_eq rfl) (.of_routines_eq rfl)

/-- The routine as it is queued, and the group that it is queued in. -/
def settled (s : System κ) (t : Thread) (sched : Scheduler) (r : RoutineRef) :
    System κ × GroupRef :=
  ((s.assign sched.policy r).clampPriority t r).settleGroup t sched.roster r

theorem place_eq (s : System κ) (t : Thread) (sched : Scheduler) (r : RoutineRef) :
    s.place t sched r = ((s.settled t sched r).1.enqueue (s.settled t sched r).2 r).modifyGroup
      (s.settled t sched r).2 Group.notify := by
  unfold place settled
  dsimp only

/-- Settling a routine changes routines and the record only. -/
theorem settled_eq (s : System κ) (t : Thread) (sched : Scheduler) (r : RoutineRef) :
    ∃ routines log, (s.settled t sched r).1 = { s with routines, log } := by
  have assigned : ∃ routines log, s.assign sched.policy r = { s with routines, log } := by
    unfold assign
    split <;> exact ⟨_, _, rfl⟩
  have clamped : ∀ s : System κ, ∃ routines log, s.clampPriority t r = { s with routines, log } := by
    intro s
    unfold clampPriority
    dsimp only
    split <;> exact ⟨_, _, rfl⟩
  have grouped : ∀ s : System κ, ∃ routines log,
      (s.settleGroup t sched.roster r).1 = { s with routines, log } := by
    intro s
    unfold settleGroup
    dsimp only
    split <;> exact ⟨_, _, rfl⟩
  obtain ⟨_, _, first⟩ := assigned
  obtain ⟨_, _, second⟩ := clamped (s.assign sched.policy r)
  obtain ⟨_, _, third⟩ := grouped ((s.assign sched.policy r).clampPriority t r)
  exact ⟨_, _, by rw [settled, third, second, first]⟩

theorem relocates_settled (s : System κ) (t : Thread) (sched : Scheduler) (r : RoutineRef) :
    Relocates r s (s.settled t sched r).1 :=
  ((Relocates.assign s sched.policy r).trans (.clampPriority _ t r)).trans (.settleGroup _ t _ r)

theorem settled_priority_lt (s : System κ) (t : Thread) (sched : Scheduler)
    (hr : r < s.routines.size) : ((s.settled t sched r).1.routine r).priority < maxPrio := by
  have assigned := Relocates.assign s sched.policy r
  rw [settled, settleGroup_priority]
  exact clampPriority_lt _ t (assigned.size.symm ▸ hr)

theorem find?_settled (hosts : s.Hosts sched.roster) (t : Thread) (hr : r < s.routines.size) :
    sched.roster.find? ((s.settled t sched r).1.routine r).group = some (s.settled t sched r).2 := by
  have clamped := (Relocates.assign s sched.policy r).trans (.clampPriority _ t r)
  exact find?_settleGroup (hosts.of_names clamped.slots.size clamped.slots.name) t
    (clamped.size.symm ▸ hr)

/-- Placing a routine whose id is not live enters its id and makes its slot. -/
theorem place_consistent (h : s.Consistent sched.roster tasks)
    (new : tasks.find? (s.routine r).id = none) (hr : r < s.routines.size) (t : Thread) :
    (s.place t sched r).Consistent sched.roster (tasks.insert (s.routine r).id r) := by
  have moved := relocates_settled s t sched r
  have agree : (s.settled t sched r).1.Consistent sched.roster tasks := h.of_relocates new moved
  have queued := agree.enter (moved.id.symm ▸ new) (moved.size.symm ▸ hr)
    (settled_priority_lt s t sched hr) (find?_settled h.hosts t hr)
  rw [moved.id] at queued
  rw [place_eq]
  exact queued.of_frame (frame_notifyGroup _ _)

theorem place_scheduler (s : System κ) (t : Thread) (sched : Scheduler) (r : RoutineRef) :
    (s.place t sched r).scheduler = s.scheduler := by
  rw [place_eq, scheduler_modifyGroup, enqueue, scheduler_modifyGroup]
  exact (relocates_settled s t sched r).scheduler

theorem place_queues (s : System κ) (t : Thread) (sched : Scheduler) (r : RoutineRef) :
    (s.place t sched r).queues = s.queues := by
  rw [place_eq, queues_modifyGroup, enqueue, queues_modifyGroup]
  exact (relocates_settled s t sched r).queues

/-! ## 2. Dispatch -/

/-- A dispatch that is not refused. -/
theorem dispatch_eq (hs : s.scheduler = some sched) (running : sched.stopped = false)
    (new : sched.tasks.find? (s.routine r).id = none) (t : Thread) :
    s.dispatch t r = ((s.modifyScheduler fun sched =>
      { sched with tasks := sched.tasks.insert (s.routine r).id r }).place t sched r, true) := by
  have absent : sched.tasks.contains (s.routine r).id = false := by
    rw [TaskTable.contains, new, Option.isSome_none]
  simp [dispatch, hs, running, claim, absent]

/-- A dispatch is granted exactly if the scheduler is not stopped and the id is not live. -/
theorem dispatch_snd (hs : s.scheduler = some sched) (t : Thread) (r : RoutineRef) :
    (s.dispatch t r).2 = (!sched.stopped && !sched.tasks.contains (s.routine r).id) := by
  simp only [dispatch, hs]
  cases hstop : sched.stopped with
  | true => rfl
  | false =>
    simp only [claim]
    cases sched.tasks.contains (s.routine r).id <;> rfl

theorem dispatch_granted_iff (hs : s.scheduler = some sched) (t : Thread) (r : RoutineRef) :
    (s.dispatch t r).2 = true ↔ sched.stopped = false ∧ sched.tasks.find? (s.routine r).id = none := by
  rw [dispatch_snd hs]
  simp [TaskTable.contains]

/-- All that a dispatch can do: nothing, a report, or to claim the id and place the routine. -/
theorem dispatch_cases (s : System κ) (t : Thread) (r : RoutineRef) :
    (s.dispatch t r).1 = s ∨ (∃ n, (s.dispatch t r).1 = s.report t n) ∨
      ∃ sched, s.scheduler = some sched ∧ sched.tasks.find? (s.routine r).id = none ∧
        (s.dispatch t r).1 = (s.modifyScheduler fun sched =>
          { sched with tasks := sched.tasks.insert (s.routine r).id r }).place t sched r := by
  cases hs : s.scheduler with
  | none =>
    left
    simp only [dispatch, hs]
  | some sched =>
    cases running : sched.stopped with
    | true =>
      left
      simp only [dispatch, hs, running, if_true]
    | false =>
      right
      cases new : sched.tasks.find? (s.routine r).id with
      | some q =>
        have live : sched.tasks.contains (s.routine r).id = true := by
          rw [TaskTable.contains, new, Option.isSome_some]
        refine .inl ⟨.alreadyDispatched (s.routine r).name, ?_⟩
        simp [dispatch, hs, running, claim, live]
      | none =>
        refine .inr ⟨sched, rfl, new, ?_⟩
        rw [dispatch_eq hs running new t]

theorem Sound.dispatch (h : s.Sound) (t : Thread) (hr : r < s.routines.size) :
    (s.dispatch t r).1.Sound := by
  rcases dispatch_cases s t r with same | ⟨n, refused⟩ | ⟨sched, hs, new, placed⟩
  · rw [same]
    exact h
  · rw [refused]
    exact h.of_frame (frame_report s t n)
  · obtain ⟨current, there, agree⟩ := h
    cases hs.symm.trans there
    rw [placed]
    refine ⟨{ sched with tasks := sched.tasks.insert (s.routine r).id r }, ?_, ?_⟩
    · rw [place_scheduler]
      exact congrArg (Option.map _) hs
    · exact place_consistent (agree.modifyScheduler _) new hr t

theorem Sound.addRoutine (h : s.Sound) (id : UInt64) (name : String) (work : Work κ) :
    (s.addRoutine id name work).1.Sound := by
  obtain ⟨sched, hs, agree⟩ := h
  exact ⟨sched, hs, agree.of_keeps (.of_groups_eq rfl) (.addRoutine s id name work)⟩

/-- The new routine of a task to be created, and the system with it. -/
def enrolled (s : System κ) (t : Thread) (sched : Scheduler) (name : String) (work : Work κ) :
    System κ × RoutineRef :=
  let named := s.modifyScheduler fun x => { x with names := (sched.names.register name).1 }
  let added := named.addRoutine (sched.names.register name).2 name work
  (added.1.report t (.creating name), added.2)

/-- Creation is two steps: a dispatch, and then the installation of the arrival callback. -/
theorem createTask_eq (hs : s.scheduler = some sched) (running : sched.stopped = false)
    (t : Thread) (work : Work κ) (name : String) (source : Option QueueRef) :
    s.createTask t work name source =
      match (s.enrolled t sched name work).1.dispatch t (s.enrolled t sched name work).2 with
      | (s, false) => (s, false)
      | (s, true) =>
        match source with
        | none => (s, true)
        | some q =>
          (s.modifyQueue q (·.install [.notifyTask sched.serial (sched.names.register name).2]),
            true) := by
  simp only [createTask, hs, running]
  rfl

/-- All that a creation can do: nothing, a report, or to enrol a new routine, dispatch it, and perhaps
install a callback. -/
theorem createTask_cases (s : System κ) (t : Thread) (work : Work κ) (name : String)
    (source : Option QueueRef) :
    (s.createTask t work name source).1 = s ∨
      (∃ n, (s.createTask t work name source).1 = s.report t n) ∨
      ∃ sched after, ((s.enrolled t sched name work).1.dispatch t
          (s.enrolled t sched name work).2).1 = after ∧
        ((s.createTask t work name source).1 = after ∨
          ∃ q f, (s.createTask t work name source).1 = after.modifyQueue q f) := by
  cases hs : s.scheduler with
  | none =>
    left
    simp only [createTask, hs]
  | some sched =>
    right
    cases running : sched.stopped with
    | true =>
      refine .inl ⟨.createAfterStop name, ?_⟩
      simp only [createTask, hs, running, if_true]
    | false =>
      refine .inr ⟨sched, _, rfl, ?_⟩
      rw [createTask_eq hs running]
      generalize (s.enrolled t sched name work).1.dispatch t _ = outcome
      obtain ⟨after, granted⟩ := outcome
      cases granted with
      | false => exact .inl rfl
      | true =>
        cases source with
        | none => exact .inl rfl
        | some q => exact .inr ⟨q, _, rfl⟩

theorem Sound.enrolled (h : s.Sound) (t : Thread) (sched : Scheduler) (name : String)
    (work : Work κ) : (s.enrolled t sched name work).1.Sound := by
  obtain ⟨current, hs, agree⟩ := h
  have named : (s.modifyScheduler fun x =>
      { x with names := (sched.names.register name).1 }).Sound :=
    ⟨_, congrArg (Option.map _) hs, agree.modifyScheduler _⟩
  exact (named.addRoutine _ name work).of_frame (frame_report _ t _)

theorem enrolled_lt (s : System κ) (t : Thread) (sched : Scheduler) (name : String)
    (work : Work κ) :
    (s.enrolled t sched name work).2 < (s.enrolled t sched name work).1.routines.size :=
  Nat.lt_of_lt_of_eq (Nat.lt_succ_self _) (Arena.size_add ..).symm

theorem Sound.createTask (h : s.Sound) (t : Thread) (work : Work κ) (name : String)
    (source : Option QueueRef) : (s.createTask t work name source).1.Sound := by
  rcases createTask_cases s t work name source with same | ⟨n, refused⟩ | ⟨sched, after, went, done⟩
  · rw [same]
    exact h
  · rw [refused]
    exact h.of_frame (frame_report s t n)
  · have dispatched := (h.enrolled t sched name work).dispatch t (enrolled_lt s t sched name work)
    rw [went] at dispatched
    rcases done with whole | ⟨q, f, installed⟩
    · rw [whole]
      exact dispatched
    · rw [installed]
      exact dispatched.of_frame (frame_modifyQueue after q f)

/-! ## 3. What a dispatch leaves alone -/

section Dispatch

variable {β : Type} {view : Routine κ → β}

theorem keeps_settled (hp : IgnoresPlace view) (s : System κ) (t : Thread) (sched : Scheduler)
    (r : RoutineRef) : Keeps view s (s.settled t sched r).1 := by
  have assigned : Keeps view s (s.assign sched.policy r) := by
    unfold assign
    split
    · exact .modifyRoutine s r fun x => hp x _ _
    · exact .modifyRoutine s r fun x => hp x _ x.priority
  have clamped : ∀ s : System κ, Keeps view s (s.clampPriority t r) := by
    intro s
    unfold clampPriority
    dsimp only
    split
    · refine Keeps.trans ?_ (.modifyRoutine _ r fun x => hp x x.group _)
      exact .of_routines_eq rfl
    · exact .refl view s
  have grouped : ∀ s : System κ, Keeps view s (s.settleGroup t sched.roster r).1 := by
    intro s
    unfold settleGroup
    dsimp only
    split
    · exact .refl view s
    · refine Keeps.trans ?_ (.modifyRoutine _ r fun x => hp x _ x.priority)
      exact .of_routines_eq rfl
  exact (assigned.trans (clamped _)).trans (grouped _)

theorem keeps_place (hp : IgnoresPlace view) (s : System κ) (t : Thread) (sched : Scheduler)
    (r : RoutineRef) : Keeps view s (s.place t sched r) := by
  have queued : (s.place t sched r).routines = (s.settled t sched r).1.routines := by
    rw [place_eq, routines_modifyGroup, enqueue, routines_modifyGroup]
  exact (keeps_settled hp s t sched r).trans (.of_routines_eq queued)

theorem keeps_dispatch (hp : IgnoresPlace view) (s : System κ) (t : Thread) (r : RoutineRef) :
    Keeps view s (s.dispatch t r).1 := by
  rcases dispatch_cases s t r with same | ⟨n, refused⟩ | ⟨sched, -, -, placed⟩
  · rw [same]
    exact .refl view s
  · rw [refused]
    exact .of_routines_eq rfl
  · have claimed : Keeps view s (s.modifyScheduler fun sched =>
        { sched with tasks := sched.tasks.insert (s.routine r).id r }) := .of_routines_eq rfl
    rw [placed]
    exact claimed.trans (keeps_place hp _ t sched r)

end Dispatch

/-! ## 4. Removal -/

/-- A stop does not show in a view without the status. -/
theorem view_stop {β : Type} {view : Routine κ → β} (hv : IgnoresStatus view) (s : System κ) (r q : RoutineRef) :
    view ((s.modifyRoutine r Routine.stop).routine q) = view (s.routine q) := by
  rw [routine_modifyRoutine]
  split
  · exact hv.stop _
  · rfl

theorem holder_ignoresStatus : IgnoresStatus (@Routine.holder κ) :=
  ⟨fun _ _ => rfl, fun _ _ => rfl, fun _ _ => rfl, fun _ _ => rfl⟩

/-- The routine that a removal has found is stopped. The thread holds it, unless somebody holds it already. -/
def seized (s : System κ) (t : Thread) (target : RoutineRef) : System κ :=
  ((s.modifyRoutine target Routine.stop).acquire t target).1

theorem frame_seized {β : Type} {view : Routine κ → β} (hv : IgnoresStatus view) (hh : IgnoresHolder view)
    (s : System κ) (t : Thread) (target : RoutineRef) : Frame view s (s.seized t target) :=
  (Frame.modifyRoutine s target hv.stop).trans (frame_acquire hh _ t target)

theorem acquire_stopped (s : System κ) (t : Thread) (target : RoutineRef) :
    (s.modifyRoutine target Routine.stop).acquire t target =
      (s.seized t target, (s.routine target).holder.isNone) := by
  refine Prod.ext rfl ?_
  show ((System.routine _ target).acquire t).2 = _
  rw [Routine.acquire_snd, Routine.isHeld, view_stop holder_ignoresStatus, Option.not_isSome]

theorem removeRoutine_of_absent (absent : s.slotOf? g r = none) (t : Thread) :
    s.removeRoutine t g r = (s, .absent) := by
  simp only [removeRoutine, absent]

theorem removeRoutine_of_held {level : Priority} {position : Nat} {target : RoutineRef}
    (slot : s.slotOf? g r = some (level, position, target)) (held : (s.routine target).holder ≠ none)
    (t : Thread) : s.removeRoutine t g r =
      ((s.seized t target).report t (.waitingToRemove ((s.seized t target).group g).name
        ((s.seized t target).routine target).name), .waits g r target) := by
  have refused : (s.routine target).holder.isNone = false :=
    Option.isNone_eq_false_iff.mpr (Option.isSome_iff_ne_none.mpr held)
  simp only [removeRoutine, slot]
  rw [acquire_stopped, refused]

theorem removeRoutine_of_free {level : Priority} {position : Nat} {target : RoutineRef}
    (slot : s.slotOf? g r = some (level, position, target)) (free : (s.routine target).holder = none)
    (t : Thread) : s.removeRoutine t g r =
      (((s.seized t target).modifyGroup g (·.eraseAt level position)).release target, .removed) := by
  simp only [removeRoutine, slot]
  rw [acquire_stopped, free, Option.isNone_none]

/-- All that a removal can do: nothing, or to wait for a routine, or to take a slot away. -/
theorem removeRoutine_cases (s : System κ) (t : Thread) (g : GroupRef) (r : RoutineRef) :
    (s.removeRoutine t g r).1 = s ∨
      ∃ target, (∃ n, (s.removeRoutine t g r).1 = (s.seized t target).report t n) ∨
        ∃ level position, (s.removeRoutine t g r).1 =
          ((s.seized t target).modifyGroup g (·.eraseAt level position)).release target := by
  cases slot : s.slotOf? g r with
  | none => exact .inl (congrArg Prod.fst (removeRoutine_of_absent slot t))
  | some found =>
    obtain ⟨level, position, target⟩ := found
    refine .inr ⟨target, ?_⟩
    by_cases free : (s.routine target).holder = none
    · exact .inr ⟨level, position, congrArg Prod.fst (removeRoutine_of_free slot free t)⟩
    · exact .inl ⟨_, congrArg Prod.fst (removeRoutine_of_held slot free t)⟩

theorem scheduler_removeRoutine (s : System κ) (t : Thread) (g : GroupRef) (r : RoutineRef) :
    (s.removeRoutine t g r).1.scheduler = s.scheduler := by
  rcases removeRoutine_cases s t g r with same | ⟨target, ⟨n, waits⟩ | ⟨level, position, removed⟩⟩
  · rw [same]
  · rw [waits]
    rfl
  · rw [removed]
    rfl

/-- In its queue a live routine is the only one with its id. -/
theorem Consistent.eq_of_id_eq (h : s.Consistent roster tasks) (hg : g ∈ roster.refs)
    {l : Priority} {q : RoutineRef} (mem : q ∈ (s.group g).queue l)
    (live : tasks.find? (s.routine r).id = some r) (same : (s.routine q).id = (s.routine r).id) :
    q = r := by
  have found := h.find?_of_mem hg mem
  rw [same, live] at found
  exact (Option.some.inj found).symm

/-- The slot that a removal finds is the slot of the routine. -/
theorem slotOf?_eq (h : s.Consistent roster tasks)
    (live : tasks.find? (s.routine r).id = some r)
    (group : roster.find? (s.routine r).group = some g) :
    ∃ position, s.slotOf? g r = some (levelOf (s.routine r).priority, position, r) ∧
      ((s.group g).queue (levelOf (s.routine r).priority))[position]? = some r := by
  have hg : g ∈ roster.refs := Roster.mem_refs_of_find? group
  have mem := h.mem_of_home? hg (home?_eq_some live group)
  -- The removal looks for the id, but no other routine in this queue has it.
  let sameId := fun x => (s.routine x).id == (s.routine r).id
  have only : ∀ x ∈ (s.group g).queue (levelOf (s.routine r).priority), sameId x = true → x = r :=
    fun x hx same => h.eq_of_id_eq hg hx live (eq_of_beq same)
  obtain ⟨position, first⟩ : ∃ position, ((s.group g).queue (levelOf (s.routine r).priority)).findIdx?
      sameId = some position := by
    refine Option.isSome_iff_exists.mp ?_
    rw [List.findIdx?_isSome, List.any_eq_true]
    exact ⟨r, mem, beq_self_eq_true _⟩
  obtain ⟨inside, same, -⟩ := List.findIdx?_eq_some_iff_getElem.mp first
  have at_position := only _ (List.getElem_mem inside) same
  obtain ⟨target, found⟩ : ∃ target, ((s.group g).queue (levelOf (s.routine r).priority)).find?
      sameId = some target := by
    refine Option.isSome_iff_exists.mp ?_
    rw [List.find?_isSome]
    exact ⟨r, mem, beq_self_eq_true _⟩
  have targeted := only target (List.mem_of_find?_eq_some found) (List.find?_some found)
  refine ⟨position, ?_, List.getElem?_eq_some_iff.mpr ⟨inside, at_position⟩⟩
  simp only [slotOf?]
  rw [first, found, targeted]

/-- A routine that nobody holds is taken out of its group, and its holder stays nobody. -/
theorem removeRoutine_eq (h : s.Consistent roster tasks) (found : tasks.find? id = some r)
    (group : roster.find? (s.routine r).group = some g) (free : (s.routine r).holder = none)
    (t : Thread) :
    ∃ s', s.removeRoutine t g r = (s', .removed) ∧ s'.scheduler = s.scheduler ∧
      s'.Consistent roster (tasks.erase id) ∧
      ∀ q, (s'.routine q).holder = (s.routine q).holder := by
  have task := h.task found
  have live : tasks.find? (s.routine r).id = some r := task.id.symm ▸ found
  obtain ⟨position, slot, at_position⟩ := slotOf?_eq h live group
  let held := s.seized t r
  have framed : Frame Routine.placement s held :=
    frame_seized Routine.placement_ignoresStatus Routine.placement_ignoresHolder s t r
  obtain ⟨-, rest⟩ := Prod.mk.inj (framed.routines.routine r task.bound)
  obtain ⟨sameGroup, samePriority⟩ := Prod.mk.inj rest
  refine ⟨(held.modifyGroup g (·.eraseAt (levelOf (s.routine r).priority) position)).release r,
    removeRoutine_of_free slot free t, framed.scheduler, ?_, ?_⟩
  · have slotHeld : ((held.group g).queue (levelOf (s.routine r).priority))[position]? = some r := by
      rw [framed.slots.queue]
      exact at_position
    have left := (h.of_frame framed).leave found (sameGroup ▸ group)
      (congrArg levelOf samePriority) slotHeld
    exact left.of_frame (frame_release Routine.placement_ignoresHolder _ r)
  · intro q
    show ((held.modifyRoutine r Routine.release).routine q).holder = _
    simp only [held, seized, acquire, routine_modifyRoutine, size_modifyRoutine]
    split
    · next hc => exact hc.1 ▸ free.symm
    · rfl

/-- The removal of an id that is not live is refused and changes nothing. -/
theorem removeById_of_absent (hs : s.scheduler = some sched)
    (absent : sched.tasks.find? id = none) (t : Thread) : s.removeById t id = (s, .absent) := by
  simp only [removeById, hs, absent]

/-- The removal of a live task that nobody holds takes out its id and its slot together. -/
theorem removeById_eq (hs : s.scheduler = some sched)
    (h : s.Consistent sched.roster sched.tasks) (found : sched.tasks.find? id = some r)
    (free : (s.routine r).holder = none) (t : Thread) :
    ∃ s', s.removeById t id = (s', .removed) ∧
      s'.scheduler = some { sched with tasks := sched.tasks.erase id } ∧
      s'.Consistent sched.roster (sched.tasks.erase id) ∧
      ∀ q, (s'.routine q).holder = (s.routine q).holder := by
  let left := s.modifyScheduler fun sched => { sched with tasks := sched.tasks.erase id }
  let stopped := left.modifyRoutine r Routine.stop
  have framed : Frame Routine.placement left stopped :=
    .modifyRoutine left r Routine.placement_ignoresStatus.stop
  have agree : stopped.Consistent sched.roster sched.tasks :=
    (h.modifyScheduler _).of_frame framed
  obtain ⟨g, -, group, -⟩ := agree.home?_of_find? found
  have holders : ∀ q, (stopped.routine q).holder = (s.routine q).holder := by
    intro q
    show ((System.modifyRoutine _ r Routine.stop).routine q).holder = _
    rw [routine_modifyRoutine]
    split <;> rfl
  obtain ⟨s', removed, scheduler, agree', holders'⟩ :=
    removeRoutine_eq agree found group ((holders r).trans free) t
  refine ⟨s', ?_, ?_, agree', fun q => (holders' q).trans (holders q)⟩
  · simp only [removeById, hs, found]
    show stopped.removeRoutine t (sched.roster.findOrDefault (stopped.routine r).group) r = _
    rw [Roster.findOrDefault_of_find? group]
    exact removed
  · rw [scheduler]
    exact congrArg (Option.map _) hs

/-- If nobody holds the task, a removal by id succeeds exactly if the id is live. -/
theorem removeById_succeeded (hs : s.scheduler = some sched)
    (h : s.Consistent sched.roster sched.tasks)
    (free : ∀ r, sched.tasks.find? id = some r → (s.routine r).holder = none) (t : Thread) :
    (s.removeById t id).2.succeeded = sched.tasks.contains id := by
  unfold TaskTable.contains
  cases found : sched.tasks.find? id with
  | none =>
    rw [removeById_of_absent hs found]
    rfl
  | some r =>
    obtain ⟨s', removed, -⟩ := removeById_eq hs h found (free r found) t
    rw [removed]
    rfl

/-- Nobody holds the live task of an id, if there is one. -/
def FreeTask (s : System κ) (id : UInt64) : Prop :=
  ∀ r, s.task? id = some r → (s.routine r).holder = none

theorem task?_eq (hs : s.scheduler = some sched) (id : UInt64) :
    s.task? id = sched.tasks.find? id := by
  rw [task?, hs, Option.bind_some]

theorem Sound.removeById (h : s.Sound) (free : s.FreeTask id) (t : Thread) :
    (s.removeById t id).1.Sound := by
  obtain ⟨sched, hs, agree⟩ := h
  cases found : sched.tasks.find? id with
  | none =>
    rw [removeById_of_absent hs found]
    exact ⟨sched, hs, agree⟩
  | some r =>
    have free := free r ((task?_eq hs id).trans found)
    obtain ⟨s', removed, scheduler, agree', -⟩ := removeById_eq hs agree found free t
    rw [removed]
    exact ⟨_, scheduler, agree'⟩

/-- A removal makes nobody hold a live task. -/
theorem FreeTask.removeById (h : s.Sound) {other : UInt64} (free : s.FreeTask id)
    (freeOther : s.FreeTask other) (t : Thread) : (s.removeById t id).1.FreeTask other := by
  obtain ⟨sched, hs, agree⟩ := h
  cases found : sched.tasks.find? id with
  | none =>
    rw [removeById_of_absent hs found]
    exact freeOther
  | some r =>
    have free := free r ((task?_eq hs id).trans found)
    obtain ⟨s', removed, scheduler, -, holders⟩ := removeById_eq hs agree found free t
    rw [removed]
    intro q live
    rw [task?_eq scheduler, TaskTable.find?_erase] at live
    split at live
    · cases live
    · rw [holders q]
      exact freeOther q ((task?_eq hs other).trans live)

theorem Sound.removeTask (h : s.Sound) {name : String} (free : s.FreeTask (taskId name))
    (t : Thread) : (s.removeTask t name).1.Sound := by
  unfold System.removeTask
  split
  · exact h
  · split
    · exact h
    · exact h.removeById free t

/-! ## 5. Shutdown -/

/-- The removals of a shutdown, one after the other. -/
theorem Sound.removeAll (h : s.Sound) (free : ∀ id, s.FreeTask id) (t : Thread)
    (ids : List UInt64) : (ids.foldl (fun s id => (s.removeById t id).1) s).Sound := by
  induction ids generalizing s with
  | nil => exact h
  | cons id rest ih =>
    exact ih (h.removeById (free id) t) fun other => .removeById h (free id) (free other) t

theorem Sound.modifyScheduler (h : s.Sound) {f : Scheduler → Scheduler}
    (roster : ∀ x, (f x).roster = x.roster) (tasks : ∀ x, (f x).tasks = x.tasks) :
    (s.modifyScheduler f).Sound := by
  obtain ⟨sched, hs, agree⟩ := h
  refine ⟨f sched, congrArg (Option.map f) hs, ?_⟩
  rw [roster, tasks]
  exact agree.modifyScheduler f

theorem FreeTask.of_frame (h : s.Sound) (free : s.FreeTask id)
    (frame : Frame Routine.holder s s') : s'.FreeTask id := by
  obtain ⟨sched, hs, agree⟩ := h
  intro r live
  have before : s.task? id = some r := by
    rw [task?, frame.scheduler] at live
    exact live
  have bound := (agree.task ((task?_eq hs id).symm.trans before)).bound
  rw [frame.routines.routine r bound]
  exact free r before

theorem Sound.stopProcessors (h : s.Sound) (t : Thread) (processors : List Nat) :
    (processors.foldl (fun s p => s.stopProcessor t p) s).Sound :=
  h.of_frame (.foldl (fun s p => frame_stopProcessor s t p) processors s)

/-- A shutdown before its removals. -/
def silenced (s : System κ) (t : Thread) (sched : Scheduler) : System κ :=
  ((s.modifyScheduler fun sched => { sched with stopped := true }).report t
    .shuttingDown).stopServedGroups sched.processors

/-- Neither the stop flag nor the silence of the groups makes anybody hold a task. -/
theorem Sound.silenced (h : s.Sound) (free : ∀ id, s.FreeTask id) (t : Thread) (sched : Scheduler) :
    (s.silenced t sched).Sound ∧ ∀ id, (s.silenced t sched).FreeTask id := by
  let raised := s.modifyScheduler fun sched => { sched with stopped := true }
  have raise : raised.Sound := h.modifyScheduler (fun _ => rfl) fun _ => rfl
  have freeRaised : ∀ id, raised.FreeTask id := by
    intro id r live
    refine free id r ?_
    obtain ⟨sched, hs, -⟩ := h
    rw [task?_eq (congrArg (Option.map _) hs)] at live
    exact (task?_eq hs id).trans live
  refine ⟨raise.of_frame ((frame_report raised t _).trans (frame_stopServedGroups _ _)), fun id => ?_⟩
  exact (freeRaised id).of_frame raise ((frame_report raised t _).trans (frame_stopServedGroups _ _))

/-- A shutdown takes out every live task, and leaves table and queues empty together. -/
theorem Sound.shutdown (h : s.Sound) (free : ∀ id, s.FreeTask id) (t : Thread) :
    (s.shutdown t).Sound := by
  obtain ⟨sched, hs, agree⟩ := id h
  simp only [System.shutdown, hs]
  split
  · exact h
  · obtain ⟨silence, freeSilent⟩ := h.silenced free t sched
    have empty := silence.removeAll freeSilent t (s.listed sched)
    refine Sound.stopProcessors ?_ t sched.processors
    exact empty.modifyScheduler (fun _ => rfl) fun _ => rfl

end CoopSched.System
