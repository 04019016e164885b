import CoopSched.Proofs.Lifecycle.Machine
/-!
# What the work on an id does

While calls are under way, the table of the scheduler and the queues may disagree about an id: it is entered
before its routine is queued, and erased before its slot is taken away. `queued` is the table as the queues
have it, with which they always agree. `Stage.Fits` says at every stage what the two tables know of the id,
and `attend_works` that every step leads to a stage that fits, or to an end at which they agree again.

A step changes the tables at its own id only, the places of routines with this id only, and no queue but
that of the level it has or needs the lock of (`Works`).
-/

namespace CoopSched.Lifecycle

/-- Does the deed make an id live? -/
def Deed.wants : Deed → Bool
  | .dispatch => true
  | .remove => false

end CoopSched.Lifecycle

namespace CoopSched.System

open CoopSched.Lifecycle (Deed)

variable {κ : Type} {s s' : System κ} {sched : Scheduler} {queued tasks' queued' : TaskTable}
  {id : UInt64} {was : Bool} {r : RoutineRef} {g : GroupRef} {l : Priority} {t : Thread}

/-! ## 1. What the tables know -/

/-- The routine is there and has the id. -/
def Owns (s : System κ) (id : UInt64) (r : RoutineRef) : Prop :=
  r < s.routines.size ∧ (s.routine r).id = id

/-- The routine belongs to the queue of this level of this group. -/
def Belongs (s : System κ) (sched : Scheduler) (g : GroupRef) (l : Priority) (r : RoutineRef) : Prop :=
  sched.roster.find? (s.routine r).group = some g ∧ levelOf (s.routine r).priority = l

/-- Table and queues agree about the id, which was live before the call exactly if it is now. -/
def Agreed (sched : Scheduler) (queued : TaskTable) (id : UInt64) (was : Bool) : Prop :=
  queued.find? id = sched.tasks.find? id ∧ was = sched.tasks.contains id

/-- The id was not live and is entered for a routine that is not queued yet. -/
def Entered (sched : Scheduler) (queued : TaskTable) (id : UInt64) (was : Bool) (r : RoutineRef) :
    Prop :=
  queued.find? id = none ∧ sched.tasks.find? id = some r ∧ was = false

/-- The id was live and is erased while its routine is still queued. -/
def Erased (sched : Scheduler) (queued : TaskTable) (id : UInt64) (was : Bool) (r : RoutineRef) :
    Prop :=
  queued.find? id = some r ∧ sched.tasks.find? id = none ∧ was = true

/-- Table and queues agree about the id after a call that was to make it live or to remove it. The call
succeeds exactly if it has made a difference. -/
def Resolved (sched : Scheduler) (queued : TaskTable) (id : UInt64) (was : Bool) (deed : Deed)
    (ok : Bool) : Prop :=
  queued.find? id = sched.tasks.find? id ∧ sched.tasks.contains id = deed.wants ∧
    ok = (was != deed.wants)

namespace Stage

/-- The deed that a stage is part of. -/
def deed : Stage → Deed
  | .claiming _ | .placing _ | .queueing _ _ | .telling _ => .dispatch
  | .erasing | .halting _ | .seeking _ | .unlinking _ _ _ _ | .closing _ _ _ => .remove

/-- The level whose queue the next step may change. -/
def touches? (s : System κ) : Stage → Option (GroupRef × Priority)
  | .queueing g r => some (g, levelOf (s.routine r).priority)
  | .unlinking g l _ _ => some (g, l)
  | _ => none

/-- What holds at a stage of the work on an id. -/
def Fits (s : System κ) (sched : Scheduler) (queued : TaskTable) (id : UInt64) (was : Bool) :
    Stage → Prop
  | .claiming r => s.Owns id r ∧ Agreed sched queued id was
  | .placing r => s.Owns id r ∧ Entered sched queued id was r
  | .queueing g r => s.Owns id r ∧ Entered sched queued id was r ∧
      sched.roster.find? (s.routine r).group = some g ∧ (s.routine r).priority < maxPrio
  | .telling _ => Resolved sched queued id was .dispatch true
  | .erasing => Agreed sched queued id was
  | .halting r | .seeking r => Erased sched queued id was r
  | .unlinking g l r step =>
    match step with
    | .finding => Erased sched queued id was r ∧ s.Belongs sched g l r
    | .stopping level position target | .acquiring level position target
    | .erasing level position target =>
      Erased sched queued id was r ∧ s.Belongs sched g l r ∧ level = l ∧ target = r ∧
        ((s.group g).queue l)[position]? = some r
    | .releasing _ => Resolved sched queued id was .remove true
  | .closing _ _ ok => ok = true ∧ Resolved sched queued id was .remove true

end Stage

theorem Agreed.resolved (h : Agreed sched queued id was) {deed : Deed}
    (already : sched.tasks.contains id = deed.wants) : Resolved sched queued id was deed false := by
  refine ⟨h.1, already, ?_⟩
  rw [h.2, already, bne_self_eq_false]

theorem contains_of_find? {tasks : TaskTable} (found : tasks.find? id = some r) :
    tasks.contains id = true := by
  rw [TaskTable.contains, found, Option.isSome_some]

theorem not_contains_of_find? {tasks : TaskTable} (absent : tasks.find? id = none) :
    tasks.contains id = false := by
  rw [TaskTable.contains, absent, Option.isSome_none]

/-! ## 2. What a step leaves alone -/

/-- What a step on an id may do: the tables change at the id only, the place of a routine only if it has the
id, and no queue but that of one level. -/
structure Works (id : UInt64) (touched : Option (GroupRef × Priority)) (s : System κ)
    (sched : Scheduler) (queued : TaskTable) (s' : System κ) (tasks' queued' : TaskTable) : Prop where
  scheduler : s'.scheduler = some { sched with tasks := tasks' }
  consistent : s'.Consistent sched.roster queued'
  nodup : tasks'.ids.Nodup
  size : s'.routines.size = s.routines.size
  ids : ∀ r, (s'.routine r).id = (s.routine r).id
  places : ∀ r, (s.routine r).id ≠ id → (s'.routine r).placement = (s.routine r).placement
  stopped : ∀ r, (s.routine r).stopped = true → (s'.routine r).stopped = true
  others : ∀ other, other ≠ id → tasks'.find? other = sched.tasks.find? other
  othersQueued : ∀ other, other ≠ id → queued'.find? other = queued.find? other
  queue : ∀ g l, touched ≠ some (g, l) → (s'.group g).queue l = (s.group g).queue l

theorem routine_eq_of_size_le (s : System κ) (hr : s.routines.size ≤ r) :
    s.routine r = default :=
  Arena.get_of_size_le s.routines hr

theorem Frame.view_eq {β : Type} {view : Routine κ → β} (h : Frame view s s') (r : RoutineRef) :
    view (s'.routine r) = view (s.routine r) := by
  by_cases hr : r < s.routines.size
  · exact h.routines.routine r hr
  · have hr := Nat.le_of_not_lt hr
    rw [routine_eq_of_size_le s hr, routine_eq_of_size_le s' (h.size.symm ▸ hr)]

/-- A step that leaves the tables and the places alone. -/
theorem Works.of_frame (hs : s.scheduler = some sched) (agree : s.Consistent sched.roster queued)
    (nodup : sched.tasks.ids.Nodup) (frame : Frame Routine.placement s s')
    (stopped : ∀ r, (s.routine r).stopped = true → (s'.routine r).stopped = true)
    (id : UInt64) (touched : Option (GroupRef × Priority)) :
    Works id touched s sched queued s' sched.tasks queued where
  scheduler := frame.scheduler.trans hs
  consistent := agree.of_frame frame
  nodup := nodup
  size := frame.size
  ids r := congrArg Prod.fst (frame.view_eq r)
  places r _ := frame.view_eq r
  stopped := stopped
  others _ _ := rfl
  othersQueued _ _ := rfl
  queue g l _ := frame.slots.queue g l

theorem stopped_modifyRoutine (s : System κ) (r : RoutineRef) {f : Routine κ → Routine κ}
    (h : ∀ x, x.stopped = true → (f x).stopped = true) (q : RoutineRef)
    (stopped : (s.routine q).stopped = true) : ((s.modifyRoutine r f).routine q).stopped = true := by
  rw [routine_modifyRoutine]
  split
  · exact h _ stopped
  · exact stopped

theorem stopped_acquire (s : System κ) (t : Thread) (r q : RoutineRef)
    (stopped : (s.routine q).stopped = true) : ((s.acquire t r).1.routine q).stopped = true := by
  refine stopped_modifyRoutine s r (fun x hx => ?_) q stopped
  unfold Routine.acquire
  split <;> exact hx

/-! ## 3. The steps of a dispatch -/

/-- The next stage fits, or the call has come to its end. -/
def Stage.Next (s' : System κ) (sched : Scheduler) (tasks' queued' : TaskTable) (id : UInt64)
    (was : Bool) (deed : Deed) : Stage ⊕ Bool → Prop
  | .inl next => next.Fits s' { sched with tasks := tasks' } queued' id was ∧ next.deed = deed
  | .inr ok => Resolved { sched with tasks := tasks' } queued' id was deed ok

theorem claiming_works (hs : s.scheduler = some sched) (agree : s.Consistent sched.roster queued)
    (nodup : sched.tasks.ids.Nodup) (fits : (Stage.claiming r).Fits s sched queued id was) :
    ∃ tasks', Works id none s sched queued (s.attend t sched id (.claiming r)).1 tasks' queued ∧
      Stage.Next (s.attend t sched id (.claiming r)).1 sched tasks' queued id was .dispatch
        (s.attend t sched id (.claiming r)).2 := by
  obtain ⟨owns, agreed⟩ := fits
  obtain ⟨bound, rfl⟩ := owns
  cases live : sched.tasks.contains (s.routine r).id with
  | true =>
    have refused : s.claim sched r = (s, false) := by simp [claim, live]
    refine ⟨sched.tasks, ?_, ?_⟩
    · simp only [attend, refused]
      exact .of_frame hs agree nodup (frame_report s t _) (fun _ h => h) _ _
    · simp only [attend, refused]
      exact agreed.resolved live
  | false =>
    have granted : s.claim sched r = (s.modifyScheduler fun sched =>
        { sched with tasks := sched.tasks.insert (s.routine r).id r }, true) := by
      simp [claim, live]
    have new : sched.tasks.find? (s.routine r).id = none := by
      rw [TaskTable.contains, Option.isSome_eq_false_iff, Option.isNone_iff_eq_none] at live
      exact live
    refine ⟨sched.tasks.insert (s.routine r).id r, ?_, ?_⟩
    · simp only [attend, granted]
      refine ⟨congrArg (Option.map _) hs, agree.modifyScheduler _, TaskTable.nodup_insert nodup new r,
        rfl, fun _ => rfl, fun _ _ => rfl, fun _ h => h, fun other ne => ?_, fun _ _ => rfl,
        fun _ _ _ => rfl⟩
      rw [TaskTable.find?_insert new, if_neg ne]
    · simp only [attend, granted]
      refine ⟨⟨⟨bound, rfl⟩, agreed.1.trans new, ?_, agreed.2.trans live⟩, rfl⟩
      exact (TaskTable.find?_insert new r _).trans (if_pos rfl)

/-- Giving a routine its place is not seen by the stop flags. -/
theorem stopped_ignoresPlace : IgnoresPlace (fun x : Routine κ => x.stopped) := fun _ _ _ => rfl

theorem placing_works (hs : s.scheduler = some sched) (agree : s.Consistent sched.roster queued)
    (nodup : sched.tasks.ids.Nodup) (fits : (Stage.placing r).Fits s sched queued id was) :
    Works id none s sched queued (s.attend t sched id (.placing r)).1 sched.tasks queued ∧
      Stage.Next (s.attend t sched id (.placing r)).1 sched sched.tasks queued id was .dispatch
        (s.attend t sched id (.placing r)).2 := by
  obtain ⟨⟨bound, rfl⟩, entered⟩ := fits
  have moved := relocates_settled s t sched r
  have group := find?_settled agree.hosts t bound
  have priority := settled_priority_lt s t sched bound
  have halted : (s.routine r).stopped = true →
      ((s.settled t sched r).1.routine r).stopped = true := fun stopped =>
    ((keeps_settled stopped_ignoresPlace s t sched r).routine r bound).trans stopped
  simp only [attend]
  revert moved group priority halted
  generalize s.settled t sched r = outcome
  intro moved group priority halted
  have ids : ∀ q, (outcome.1.routine q).id = (s.routine q).id := by
    intro q
    by_cases same : q = r
    · rw [same]
      exact moved.id
    · rw [moved.others q same]
  refine ⟨⟨moved.scheduler.trans hs, agree.of_relocates entered.1 moved, nodup, moved.size, ids,
    fun q apart => ?_, fun q stopped => ?_, fun _ _ => rfl, fun _ _ => rfl,
    fun g l _ => moved.slots.queue g l⟩,
    ⟨⟨Nat.lt_of_lt_of_eq bound moved.size.symm, moved.id⟩, entered, group, priority⟩, rfl⟩
  · have other : q ≠ r := fun same => apart (congrArg (fun q => (s.routine q).id) same)
    rw [moved.others q other]
  · by_cases same : q = r
    · rw [same] at stopped ⊢
      exact halted stopped
    · rw [moved.others q same]
      exact stopped

theorem queueing_works (hs : s.scheduler = some sched) (agree : s.Consistent sched.roster queued)
    (nodup : sched.tasks.ids.Nodup) (fits : (Stage.queueing g r).Fits s sched queued id was) :
    Works id ((Stage.queueing g r).touches? s) s sched queued
        (s.attend t sched id (.queueing g r)).1 sched.tasks (queued.insert id r) ∧
      Stage.Next (s.attend t sched id (.queueing g r)).1 sched sched.tasks (queued.insert id r) id was
        .dispatch (s.attend t sched id (.queueing g r)).2 := by
  obtain ⟨owns, entered, group, priority⟩ := fits
  obtain ⟨bound, rfl⟩ := owns
  refine ⟨⟨hs, agree.enter entered.1 bound priority group, nodup, rfl, fun _ => rfl, fun _ _ => rfl,
    fun _ h => h, fun _ _ => rfl, fun other ne => ?_, fun g' l ne => ?_⟩, ⟨?_, ?_, ?_⟩, rfl⟩
  · rw [TaskTable.find?_insert entered.1, if_neg ne]
  · refine (queue_enqueue s (agree.hosts.bound g (Roster.mem_refs_of_find? group)) r g' l).trans ?_
    exact if_neg fun same => ne (congrArg some same)
  · exact ((TaskTable.find?_insert entered.1 r _).trans (if_pos rfl)).trans entered.2.1.symm
  · exact contains_of_find? entered.2.1
  · rw [entered.2.2]
    rfl

/-! ## 4. The steps of a removal -/

theorem erasing_works (hs : s.scheduler = some sched) (agree : s.Consistent sched.roster queued)
    (nodup : sched.tasks.ids.Nodup) (fits : Stage.erasing.Fits s sched queued id was) :
    ∃ tasks', Works id none s sched queued (s.attend t sched id .erasing).1 tasks' queued ∧
      Stage.Next (s.attend t sched id .erasing).1 sched tasks' queued id was .remove
        (s.attend t sched id .erasing).2 := by
  have agreed : Agreed sched queued id was := fits
  cases found : sched.tasks.find? id with
  | none =>
    refine ⟨sched.tasks, ?_, ?_⟩
    · simp only [attend, found]
      exact .of_frame hs agree nodup (.refl _ s) (fun _ h => h) _ _
    · simp only [attend, found]
      exact agreed.resolved (not_contains_of_find? found)
  | some r =>
    refine ⟨sched.tasks.erase id, ?_, ?_⟩
    · simp only [attend, found]
      refine ⟨congrArg (Option.map _) hs, agree.modifyScheduler _, TaskTable.nodup_erase nodup id, rfl,
        fun _ => rfl, fun _ _ => rfl, fun _ h => h, fun other ne => ?_, fun _ _ => rfl, fun _ _ _ => rfl⟩
      rw [TaskTable.find?_erase, if_neg ne]
    · simp only [attend, found]
      refine ⟨⟨agreed.1.trans found, ?_, agreed.2.trans (contains_of_find? found)⟩, rfl⟩
      exact (TaskTable.find?_erase ..).trans (if_pos rfl)

theorem Belongs.of_frame (h : s.Belongs sched g l r) (frame : Frame Routine.placement s s') :
    s'.Belongs sched g l r := by
  obtain ⟨-, rest⟩ := Prod.mk.inj (frame.view_eq r)
  obtain ⟨group, priority⟩ := Prod.mk.inj rest
  exact ⟨group ▸ h.1, priority ▸ h.2⟩

/-- What a removal looks for is in the table of the queues. -/
theorem Erased.task (erased : Erased sched queued id was r) (agree : s.Consistent sched.roster queued) :
    queued.find? (s.routine r).id = some r := by
  rw [(agree.task erased.1).id]
  exact erased.1

/-- After its slot is gone, neither table knows the id. -/
theorem Erased.resolved (erased : Erased sched queued id was r) :
    Resolved sched (queued.erase id) id was .remove true := by
  refine ⟨?_, not_contains_of_find? erased.2.1, ?_⟩
  · rw [TaskTable.find?_erase, if_pos rfl, erased.2.1]
  · rw [erased.2.2]
    rfl

/-- What holds after a step that takes a slot away: the next step fits, or the slot is gone. -/
def Stage.NextUnlinking (s' : System κ) (sched : Scheduler) (queued' : TaskTable) (id : UInt64)
    (was : Bool) (g : GroupRef) (l : Priority) (r : RoutineRef) : Unlinking ⊕ Bool → Prop
  | .inl next => (Stage.unlinking g l r next).Fits s' sched queued' id was
  | .inr ok => ok = true ∧ Resolved sched queued' id was .remove true

theorem unlink_works (hs : s.scheduler = some sched) (agree : s.Consistent sched.roster queued)
    (nodup : sched.tasks.ids.Nodup) {step : Unlinking}
    (fits : (Stage.unlinking g l r step).Fits s sched queued id was) :
    ∃ queued', Works id (some (g, l)) s sched queued (s.unlink t g r step).1 sched.tasks queued' ∧
      Stage.NextUnlinking (s.unlink t g r step).1 sched queued' id was g l r
        (s.unlink t g r step).2 := by
  cases step with
  | finding =>
    obtain ⟨erased, belongs⟩ := fits
    obtain ⟨position, slot, there⟩ := slotOf?_eq agree (erased.task agree) belongs.1
    rw [belongs.2] at slot there
    refine ⟨queued, ?_, ?_⟩
    · simp only [unlink, slot]
      exact .of_frame hs agree nodup (.refl _ s) (fun _ h => h) _ _
    · simp only [unlink, slot]
      exact ⟨erased, belongs, rfl, rfl, there⟩
  | stopping level position target =>
    obtain ⟨erased, belongs, same, rfl, there⟩ := fits
    have frame : Frame Routine.placement s (s.modifyRoutine target Routine.stop) :=
      .modifyRoutine s target Routine.placement_ignoresStatus.stop
    exact ⟨queued, .of_frame hs agree nodup frame
      (stopped_modifyRoutine s target fun _ _ => rfl) _ _,
      erased, belongs.of_frame frame, same, rfl, there⟩
  | acquiring level position target =>
    obtain ⟨erased, belongs, same, rfl, there⟩ := fits
    have frame := frame_acquire Routine.placement_ignoresHolder s t target
    have stopped := stopped_acquire s t target
    have queue : (((s.acquire t target).1.group g).queue l)[position]? = some target := there
    rcases outcome : s.acquire t target with ⟨s₁, granted⟩
    rw [outcome] at frame stopped queue
    cases granted with
    | true =>
      refine ⟨queued, ?_, ?_⟩
      · simp only [unlink, outcome]
        exact .of_frame hs agree nodup frame stopped _ _
      · simp only [unlink, outcome]
        exact ⟨erased, belongs.of_frame frame, same, rfl, queue⟩
    | false =>
      -- Somebody holds the routine. The next attempt finds it in the same place.
      refine ⟨queued, ?_, ?_⟩
      · simp only [unlink, outcome]
        exact .of_frame hs agree nodup (frame.trans (frame_report s₁ t _)) stopped _ _
      · simp only [unlink, outcome]
        exact ⟨erased, belongs.of_frame (frame.trans (frame_report s₁ t _)), same, rfl, queue⟩
  | erasing level position target =>
    obtain ⟨erased, belongs, rfl, rfl, there⟩ := fits
    have left := agree.leave erased.1 belongs.1 belongs.2 there
    have bound := agree.hosts.bound g (Roster.mem_refs_of_find? belongs.1)
    refine ⟨queued.erase id, ⟨hs, left, nodup, rfl, fun _ => rfl, fun _ _ => rfl, fun _ h => h,
      fun _ _ => rfl, fun other ne => ?_, fun g' l' ne => ?_⟩, erased.resolved⟩
    · rw [TaskTable.find?_erase, if_neg ne]
    · refine (queue_eraseAt s bound level position g' l').trans ?_
      exact if_neg fun same => ne (congrArg some same)
  | releasing target =>
    have resolved : Resolved sched queued id was .remove true := fits
    exact ⟨queued, .of_frame hs agree nodup (frame_release Routine.placement_ignoresHolder s target)
      (stopped_modifyRoutine s target fun _ h => h) _ _, rfl, resolved⟩

/-! ## 5. Every step -/

/-- Every step of the work on an id changes the tables at this id only, and leads to a stage that fits or
to the end of the call. -/
theorem attend_works (hs : s.scheduler = some sched) (agree : s.Consistent sched.roster queued)
    (nodup : sched.tasks.ids.Nodup) {stage : Stage} (fits : stage.Fits s sched queued id was) :
    ∃ tasks' queued',
      Works id (stage.touches? s) s sched queued (s.attend t sched id stage).1 tasks' queued' ∧
      Stage.Next (s.attend t sched id stage).1 sched tasks' queued' id was stage.deed
        (s.attend t sched id stage).2 := by
  cases stage with
  | claiming r =>
    obtain ⟨tasks', works⟩ := claiming_works hs agree nodup fits
    exact ⟨tasks', queued, works⟩
  | placing r => exact ⟨sched.tasks, queued, placing_works hs agree nodup fits⟩
  | queueing g r => exact ⟨sched.tasks, queued.insert id r, queueing_works hs agree nodup fits⟩
  | telling g =>
    exact ⟨sched.tasks, queued, .of_frame hs agree nodup (frame_notifyGroup s g) (fun _ h => h) _ _,
      fits⟩
  | erasing =>
    obtain ⟨tasks', works⟩ := erasing_works hs agree nodup fits
    exact ⟨tasks', queued, works⟩
  | halting r =>
    have frame : Frame Routine.placement s (s.modifyRoutine r Routine.stop) :=
      .modifyRoutine s r Routine.placement_ignoresStatus.stop
    exact ⟨sched.tasks, queued,
      .of_frame hs agree nodup frame (stopped_modifyRoutine s r fun _ _ => rfl) _ _, fits, rfl⟩
  | seeking r =>
    have erased : Erased sched queued id was r := fits
    obtain ⟨g, -, group, -⟩ := agree.home?_of_find? erased.1
    refine ⟨sched.tasks, queued, .of_frame hs agree nodup (.refl _ s) (fun _ h => h) _ _,
      ⟨erased, ?_, rfl⟩, rfl⟩
    show sched.roster.find? _ = some (sched.roster.findOrDefault _)
    rw [Roster.findOrDefault_of_find? group]
    exact group
  | unlinking g l r step =>
    obtain ⟨queued', works, next⟩ := unlink_works (t := t) hs agree nodup fits
    refine ⟨sched.tasks, queued', ?_, ?_⟩
    · simp only [attend]
      rcases outcome : s.unlink t g r step with ⟨s₁, following | ok⟩
      · rw [outcome] at works
        exact works
      · rw [outcome] at works
        exact works
    · simp only [attend]
      rcases outcome : s.unlink t g r step with ⟨s₁, following | ok⟩
      · rw [outcome] at next
        exact ⟨next, rfl⟩
      · rw [outcome] at next
        exact ⟨next, rfl⟩
  | closing g l ok =>
    obtain ⟨rfl, resolved⟩ := fits
    exact ⟨sched.tasks, queued, .of_frame hs agree nodup (.refl _ s) (fun _ h => h) _ _, resolved⟩

/-- What others do on other ids does not disturb a stage, if they leave alone the queue of the level whose
lock the call has. -/
theorem Stage.Fits.mono {stage : Stage} (fits : stage.Fits s sched queued id was)
    {sched' : Scheduler} (agree : s.Consistent sched.roster queued)
    (size : s.routines.size ≤ s'.routines.size) (roster : sched'.roster = sched.roster)
    (place : ∀ r < s.routines.size, (s.routine r).id = id →
      (s'.routine r).placement = (s.routine r).placement)
    (tasks : sched'.tasks.find? id = sched.tasks.find? id)
    (queues : queued'.find? id = queued.find? id)
    (queue : ∀ g l, stage.level? = some (g, l) → (s'.group g).queue l = (s.group g).queue l) :
    stage.Fits s' sched' queued' id was := by
  have contains : sched'.tasks.contains id = sched.tasks.contains id := by
    rw [TaskTable.contains, tasks]
    rfl
  have owns : ∀ {r}, s.Owns id r → s'.Owns id r := by
    intro r owns
    refine ⟨Nat.lt_of_lt_of_le owns.1 size, ?_⟩
    exact (congrArg Prod.fst (place r owns.1 owns.2)).trans owns.2
  have agreed : Agreed sched queued id was → Agreed sched' queued' id was := by
    intro agreed
    rw [Agreed, queues, tasks, contains]
    exact agreed
  have entered : ∀ {r}, Entered sched queued id was r → Entered sched' queued' id was r := by
    intro r entered
    rw [Entered, queues, tasks]
    exact entered
  have erased : ∀ {r}, Erased sched queued id was r → Erased sched' queued' id was r := by
    intro r erased
    rw [Erased, queues, tasks]
    exact erased
  have resolved : ∀ {deed ok}, Resolved sched queued id was deed ok →
      Resolved sched' queued' id was deed ok := by
    intro deed ok resolved
    rw [Resolved, queues, tasks, contains]
    exact resolved
  have belongs : ∀ {g l r}, Erased sched queued id was r → s.Belongs sched g l r →
      s'.Belongs sched' g l r := by
    intro g l r erased belongs
    have task := agree.task erased.1
    obtain ⟨-, rest⟩ := Prod.mk.inj (place r task.bound task.id)
    obtain ⟨group, priority⟩ := Prod.mk.inj rest
    rw [Belongs, roster, group, priority]
    exact belongs
  cases stage with
  | claiming r => exact ⟨owns fits.1, agreed fits.2⟩
  | placing r => exact ⟨owns fits.1, entered fits.2⟩
  | queueing g r =>
    obtain ⟨-, rest⟩ := Prod.mk.inj (place r fits.1.1 fits.1.2)
    obtain ⟨group, priority⟩ := Prod.mk.inj rest
    refine ⟨owns fits.1, entered fits.2.1, ?_, ?_⟩
    · rw [roster, group]
      exact fits.2.2.1
    · rw [priority]
      exact fits.2.2.2
  | telling g => exact resolved fits
  | erasing => exact agreed fits
  | halting r => exact erased fits
  | seeking r => exact erased fits
  | unlinking g l r step =>
    have kept := queue g l rfl
    cases step with
    | finding => exact ⟨erased fits.1, belongs fits.1 fits.2⟩
    | stopping level position target =>
      exact ⟨erased fits.1, belongs fits.1 fits.2.1, fits.2.2.1, fits.2.2.2.1, kept ▸ fits.2.2.2.2⟩
    | acquiring level position target =>
      exact ⟨erased fits.1, belongs fits.1 fits.2.1, fits.2.2.1, fits.2.2.2.1, kept ▸ fits.2.2.2.2⟩
    | erasing level position target =>
      exact ⟨erased fits.1, belongs fits.1 fits.2.1, fits.2.2.1, fits.2.2.2.1, kept ▸ fits.2.2.2.2⟩
    | releasing target => exact resolved fits
  | closing g l ok => exact ⟨fits.1, resolved fits.2⟩

end CoopSched.System
