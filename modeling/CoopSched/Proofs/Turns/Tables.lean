import CoopSched.Proofs.Lifecycle.Stages
import CoopSched.Proofs.Turns.Resting
/-!
# Table and queues while removals wait

A removal that waits has its id out of the table, but the slot of its routine is still there. `Fits` says
how the two go together: a ghost table `queued` agrees with the queues, and the table of the scheduler is
`queued` without the ids whose removals wait.

A removal that finds its routine held leaves the slot alone (`removeRoutine_held`). One that does not takes the
slot away, however long it has waited (`Fits.removed`, `Fits.concluded`).
-/

namespace CoopSched

namespace System

variable {κ : Type} {s s' : System κ} {sched : Scheduler} {roster : Roster} {tasks : TaskTable}
  {id : UInt64} {r : RoutineRef} {g : GroupRef}

theorem Keeps.group_eq (keeps : Keeps Routine.placement s s') (hr : r < s.routines.size) :
    (s'.routine r).group = (s.routine r).group :=
  congrArg (fun place => place.2.1) (keeps.routine r hr)

/-! ## 1. Removals of one routine -/

/-- A routine that somebody holds keeps its slot. It is stopped, and the removal waits. -/
theorem removeRoutine_held (h : s.Consistent roster tasks) (found : tasks.find? id = some r)
    (group : roster.find? (s.routine r).group = some g) (held : (s.routine r).holder ≠ none)
    (t : Thread) :
    ∃ s', s.removeRoutine t g r = (s', .waits g r r) ∧ Frame Routine.placement s s' := by
  obtain ⟨position, slot, -⟩ := slotOf?_eq h ((h.task found).id.symm ▸ found) group
  have seized := frame_seized Routine.placement_ignoresStatus Routine.placement_ignoresHolder s t r
  exact ⟨_, removeRoutine_of_held slot held t, seized.trans (frame_report _ t _)⟩

/-- The id is out of the table, and the routine is stopped. -/
def dismissed (s : System κ) (id : UInt64) (r : RoutineRef) : System κ :=
  (s.modifyScheduler fun sched => { sched with tasks := sched.tasks.erase id }).modifyRoutine r
    Routine.stop

/-- The removal of a live task dismisses it and then takes it out of the group that has its group name. -/
theorem removeById_eq_dismissed (hs : s.scheduler = some sched) (found : sched.tasks.find? id = some r)
    (t : Thread) : s.removeById t id =
      (s.dismissed id r).removeRoutine t (sched.roster.findOrDefault (s.routine r).group) r := by
  have sameGroup : ((s.dismissed id r).routine r).group = (s.routine r).group :=
    congrArg (fun place => place.2.1) (view_stop Routine.placement_ignoresStatus s r r)
  simp only [removeById, hs, found]
  show (s.dismissed id r).removeRoutine t
    (sched.roster.findOrDefault ((s.dismissed id r).routine r).group) r = _
  rw [sameGroup]

theorem removeById_live (hs : s.scheduler = some sched) (found : sched.tasks.find? id = some r)
    (group : sched.roster.find? (s.routine r).group = some g) (t : Thread) :
    s.removeById t id = (s.dismissed id r).removeRoutine t g r := by
  rw [removeById_eq_dismissed hs found t, Roster.findOrDefault_of_find? group]

theorem Consistent.dismissed (h : s.Consistent roster tasks) (id : UInt64) (r : RoutineRef) :
    (s.dismissed id r).Consistent roster tasks := by
  have erased := h.modifyScheduler fun sched => { sched with tasks := sched.tasks.erase id }
  exact erased.of_frame (.modifyRoutine _ r Routine.placement_ignoresStatus.stop)

theorem scheduler_dismissed (hs : s.scheduler = some sched) (id : UInt64) (r : RoutineRef) :
    (s.dismissed id r).scheduler = some { sched with tasks := sched.tasks.erase id } :=
  congrArg (Option.map _) hs

theorem stopped_dismissed (hr : r < s.routines.size) (id : UInt64) :
    ((s.dismissed id r).routine r).stopped = true := by
  show ((s.modifyRoutine r Routine.stop).routine r).stopped = true
  rw [routine_modifyRoutine, if_pos ⟨rfl, hr⟩]
  rfl

theorem keeps_removeRoutine {β : Type} {view : Routine κ → β} (hv : IgnoresStatus view)
    (hh : IgnoresHolder view) (s : System κ) (t : Thread) (g : GroupRef) (r : RoutineRef) :
    Keeps view s (s.removeRoutine t g r).1 := by
  have seized : ∀ target, Keeps view s (s.seized t target) :=
    fun target => (frame_seized hv hh s t target).routines
  rcases removeRoutine_cases s t g r with same | ⟨target, ⟨n, waits⟩ | ⟨level, position, removed⟩⟩
  · rw [same]
    exact .refl view s
  · rw [waits]
    exact (seized target).trans (.of_routines_eq rfl)
  · rw [removed]
    have erased : Keeps view s ((s.seized t target).modifyGroup g (·.eraseAt level position)) :=
      (seized target).trans (.of_routines_eq rfl)
    exact erased.trans (frame_release hh _ target).routines

/-- A group that nobody knows yet is none of those of a roster. -/
theorem Hosts.group_addGroup (h : s.Hosts roster) (name : String) (hg : g ∈ roster.refs) :
    (s.addGroup name).1.group g = s.group g := by
  rw [System.group_addGroup, if_neg (Nat.ne_of_lt (h.bound g hg))]

theorem Hosts.addGroup (h : s.Hosts roster) (name : String) : (s.addGroup name).1.Hosts roster where
  nodup := h.nodup
  bound g hg := Nat.lt_of_lt_of_eq (Nat.lt_succ_of_lt (h.bound g hg)) (Arena.size_add ..).symm
  known g hg := by
    rw [h.group_addGroup name hg]
    exact h.known g hg
  name found := by
    rw [h.group_addGroup name (Roster.mem_refs_of_find? found)]
    exact h.name found
  default := h.default

theorem Consistent.addGroup (h : s.Consistent roster tasks) (name : String) :
    (s.addGroup name).1.Consistent roster tasks where
  hosts := h.hosts.addGroup name
  nodup := h.nodup
  task found := (h.task found).congr (Nat.le_refl _) rfl
  slots g hg l r := by
    rw [h.hosts.group_addGroup name hg]
    exact h.slots g hg l r

/-- A routine that has left the table is not in it under another id. -/
theorem Consistent.find?_erase_ne (h : s.Consistent roster tasks) (found : tasks.find? id = some r)
    (other : UInt64) : (tasks.erase id).find? other ≠ some r := by
  rw [TaskTable.find?_erase]
  split
  · exact nofun
  · next ne =>
    intro again
    exact ne ((h.task again).id.symm.trans (h.task found).id)

/-! ## 2. Routines that are out -/

/-- The routine is in no level of any group of the scheduler, not in the table, and stopped. -/
structure Out (s : System κ) (r : RoutineRef) : Prop where
  queues : ∀ sched, s.scheduler = some sched → ∀ g ∈ sched.roster.refs, ∀ l, r ∉ (s.group g).queue l
  table : ∀ id, s.task? id ≠ some r
  stopped : (s.routine r).stopped = true

/-- Besides, nobody holds it. -/
structure Gone (s : System κ) (r : RoutineRef) : Prop extends Out s r where
  unheld : (s.routine r).holder = none

/-- All that the fate of a task depends on. -/
def bearing (x : Routine κ) : (UInt64 × String × Nat) × Option Thread × Bool :=
  (x.placement, x.holder, x.stopped)

theorem Gone.of_frame (gone : Gone s r) (frame : Frame bearing s s') : Gone s' r := by
  have same : bearing (s'.routine r) = bearing (s.routine r) := frame.view_eq r
  refine ⟨⟨?_, ?_, ?_⟩, ?_⟩
  · intro sched hs g hg l
    rw [frame.slots.queue]
    exact gone.queues sched (frame.scheduler.symm.trans hs) g hg l
  · intro id
    rw [task?, frame.scheduler]
    exact gone.table id
  · exact (congrArg (fun x => x.2.2) same).trans gone.stopped
  · exact (congrArg (fun x => x.2.1) same).trans gone.unheld

theorem placement_of_bearing (frame : Frame (@bearing κ) s s') :
    Frame Routine.placement s s' where
  scheduler := frame.scheduler
  slots := frame.slots
  routines := ⟨frame.routines.size, fun r hr => congrArg Prod.fst (frame.routines.routine r hr)⟩
  size := frame.size

end System

namespace Turns

open CoopSched.Lifecycle (isStopped)
open CoopSched.System (Frame Keeps Out Gone)

variable {κ : Type} {s s' s'' : System κ} {sched sched' : Scheduler} {queued : TaskTable}
  {waiting : List Waiting} {id : UInt64} {r : RoutineRef} {t : Thread}

/-! ## 3. Table, queues and the removals that wait -/

/-- `queued` agrees with the queues, and the table is `queued` without the ids whose removals wait. -/
structure Fits (s : System κ) (waiting : List Waiting) (sched : Scheduler) (queued : TaskTable) :
    Prop where
  scheduler : s.scheduler = some sched
  agree : s.Consistent sched.roster queued
  live : ∀ id, sched.tasks.find? id = if isLocked waiting id then none else queued.find? id
  waits : ∀ p ∈ waiting, queued.find? p.id = some p.routine ∧
    sched.roster.find? (s.routine p.routine).group = some p.group
  distinct : (waiting.map (·.id)).Nodup

theorem isLocked_iff : isLocked waiting id = true ↔ ∃ p ∈ waiting, p.id = id := by
  simp [isLocked]

/-- Only one id is unlocked. -/
theorem isLocked_filter {other : UInt64} (ne : other ≠ id) :
    isLocked (waiting.filter (·.id != id)) other = isLocked waiting other := by
  rw [Bool.eq_iff_iff, isLocked_iff, isLocked_iff]
  constructor
  · rintro ⟨p, mem, rfl⟩
    exact ⟨p, (List.mem_filter.mp mem).1, rfl⟩
  · rintro ⟨p, mem, rfl⟩
    exact ⟨p, List.mem_filter.mpr ⟨mem, bne_iff_ne.mpr ne⟩, rfl⟩

theorem filter_of_unlocked (unlocked : isLocked waiting id = false) :
    waiting.filter (·.id != id) = waiting := by
  rw [List.filter_eq_self]
  intro p mem
  rw [bne_iff_ne]
  intro same
  rw [isLocked_iff.mpr ⟨p, mem, same⟩] at unlocked
  cases unlocked

namespace Fits

theorem of_live (h : Fits s waiting sched queued) (found : sched.tasks.find? id = some r) :
    isLocked waiting id = false ∧ queued.find? id = some r := by
  have live := h.live id
  rw [found] at live
  split at live
  · cases live
  · next free => exact ⟨Bool.eq_false_iff.mpr free, live.symm⟩

theorem of_agree (h : Fits s waiting sched queued) (scheduler : s'.scheduler = some sched')
    (roster : sched'.roster = sched.roster) (tasks : sched'.tasks = sched.tasks)
    (agree : s'.Consistent sched.roster queued) (keeps : Keeps Routine.placement s s') :
    Fits s' waiting sched' queued where
  scheduler := scheduler
  agree := roster.symm ▸ agree
  live := tasks.symm ▸ h.live
  waits p hp := by
    obtain ⟨found, group⟩ := h.waits p hp
    rw [roster, keeps.group_eq (h.agree.task found).bound]
    exact ⟨found, group⟩
  distinct := h.distinct

theorem of_frame (h : Fits s waiting sched queued) (frame : Frame Routine.placement s s') :
    Fits s' waiting sched queued :=
  h.of_agree (frame.scheduler.trans h.scheduler) rfl rfl (h.agree.of_frame frame) frame.routines

theorem modifyScheduler (h : Fits s waiting sched queued) {f : Scheduler → Scheduler}
    (roster : (f sched).roster = sched.roster) (tasks : (f sched).tasks = sched.tasks) :
    Fits (s.modifyScheduler f) waiting (f sched) queued :=
  h.of_agree (congrArg (Option.map f) h.scheduler) roster tasks (h.agree.modifyScheduler f)
    (.of_routines_eq rfl)

theorem addRoutine (h : Fits s waiting sched queued) (id : UInt64) (name : String) (work : Work κ) :
    Fits (s.addRoutine id name work).1 waiting sched queued := by
  have keeps : Keeps Routine.placement s (s.addRoutine id name work).1 := .addRoutine s id name work
  exact h.of_agree h.scheduler rfl rfl (h.agree.of_keeps (.of_groups_eq rfl) keeps) keeps

theorem addGroup (h : Fits s waiting sched queued) (name : String) :
    Fits (s.addGroup name).1 waiting sched queued :=
  h.of_agree h.scheduler rfl rfl (h.agree.addGroup name) (.of_routines_eq rfl)

/-- A stopped routine that has no slot is out. -/
theorem out (h : Fits s waiting sched queued) (absent : ∀ id, queued.find? id ≠ some r)
    (stopped : (s.routine r).stopped = true) : Out s r where
  queues sched' hs g hg l mem := by
    cases h.scheduler.symm.trans hs
    exact absent _ (h.agree.find?_of_mem hg mem)
  table id live := by
    rw [System.task?_eq h.scheduler] at live
    exact absent id (h.of_live live).2
  stopped := stopped

end Fits

/-- What happens to table and queues while the same removals wait: nothing, or a routine is entered while the
scheduler is not stopped, or a live task goes. -/
inductive Alters (waiting : List Waiting) (s s' : System κ) (sched : Scheduler) (queued : TaskTable) :
    Prop
  | keeps (sched' : Scheduler) (fits : Fits s' waiting sched' queued)
      (tasks : sched'.tasks = sched.tasks) (stopped : sched'.stopped = sched.stopped)
  | enters (sched' : Scheduler) (queued' : TaskTable) (fits : Fits s' waiting sched' queued')
      (running : sched.stopped = false) (stopped : sched'.stopped = false)
  | takes (sched' : Scheduler) (id : UInt64) (r : RoutineRef) (found : sched.tasks.find? id = some r)
      (fits : Fits s' waiting sched' (queued.erase id)) (tasks : sched'.tasks = sched.tasks.erase id)
      (stopped : sched'.stopped = sched.stopped) (gone : Gone s' r)

namespace Alters

theorem of_frame (h : Fits s waiting sched queued) (frame : Frame Routine.placement s s') :
    Alters waiting s s' sched queued :=
  .keeps sched (h.of_frame frame) rfl rfl

/-- What comes before may be different, as long as the table is the same. -/
theorem of_before (h : Alters waiting s s' sched queued) {s₀ : System κ} {sched₀ : Scheduler}
    (tasks : sched.tasks = sched₀.tasks) (stopped : sched.stopped = sched₀.stopped) :
    Alters waiting s₀ s' sched₀ queued := by
  cases h with
  | keeps sched' fits same stays => exact .keeps sched' fits (same.trans tasks) (stays.trans stopped)
  | enters sched' queued' fits running stays =>
    exact .enters sched' queued' fits (stopped.symm.trans running) stays
  | takes sched' id r found fits same stays gone =>
    exact .takes sched' id r (tasks ▸ found) fits (tasks ▸ same) (stays.trans stopped) gone

/-- What comes after may change routines, as long as their placement, holder and stop stay. -/
theorem trans (h : Alters waiting s s' sched queued) (frame : Frame System.bearing s' s'') :
    Alters waiting s s'' sched queued := by
  have places := System.placement_of_bearing frame
  cases h with
  | keeps sched' fits tasks stopped => exact .keeps sched' (fits.of_frame places) tasks stopped
  | enters sched' queued' fits running stopped =>
    exact .enters sched' queued' (fits.of_frame places) running stopped
  | takes sched' id r found fits tasks stopped gone =>
    exact .takes sched' id r found (fits.of_frame places) tasks stopped (gone.of_frame frame)

end Alters

/-! ## 4. Dispatch and creation -/

theorem Fits.dispatch (h : Fits s waiting sched queued) (t : Thread) (hr : r < s.routines.size)
    (free : sched.stopped = false → isLocked waiting (s.routine r).id = false) :
    Alters waiting s (s.dispatch t r).1 sched queued := by
  rcases System.dispatch_cases s t r with same | ⟨n, refused⟩ | ⟨sched', hs, new, placed⟩
  · rw [same]
    exact .of_frame h (.refl _ s)
  · rw [refused]
    exact .of_frame h (System.frame_report s t n)
  · cases h.scheduler.symm.trans hs
    cases running : sched.stopped with
    | true =>
      have refused : s.dispatch t r = (s, false) := by simp only [System.dispatch, hs, running, if_true]
      rw [refused]
      exact .of_frame h (.refl _ s)
    | false =>
      have absent : queued.find? (s.routine r).id = none := by
        have live := h.live (s.routine r).id
        rw [new, free running] at live
        exact live.symm
      let claimed := s.modifyScheduler fun sched =>
        { sched with tasks := sched.tasks.insert (s.routine r).id r }
      have others : ∀ q, q ≠ r → (claimed.place t sched r).routine q = s.routine q := by
        intro q hq
        rw [System.place_eq, System.routine_modifyGroup, System.enqueue, System.routine_modifyGroup]
        exact (System.relocates_settled claimed t sched r).others q hq
      refine .enters { sched with tasks := sched.tasks.insert (s.routine r).id r }
        (queued.insert (s.routine r).id r) ?_ running running
      rw [placed]
      refine ⟨?_, ?_, ?_, ?_, h.distinct⟩
      · rw [System.place_scheduler]
        exact congrArg (Option.map _) h.scheduler
      · exact System.place_consistent (h.agree.modifyScheduler _) absent hr t
      · intro other
        rw [TaskTable.find?_insert new, TaskTable.find?_insert absent, h.live other]
        by_cases same : other = (s.routine r).id
        · rw [if_pos same, if_pos same, same, free running]
          rfl
        · rw [if_neg same, if_neg same]
      · intro p hp
        obtain ⟨found, group⟩ := h.waits p hp
        have own := (h.agree.task found).id
        have ne : p.routine ≠ r := by
          intro same
          rw [same] at found own
          rw [own, found] at absent
          cases absent
        have ne' : p.id ≠ (s.routine r).id := by
          intro same
          rw [same, absent] at found
          cases found
        rw [TaskTable.find?_insert absent, if_neg ne', others _ ne]
        exact ⟨found, group⟩

theorem Fits.createTask (h : Fits s waiting sched queued) (t : Thread) (work : Work κ) (name : String)
    (source : Option QueueRef) (free : sched.stopped = false → isLocked waiting (taskId name) = false) :
    Alters waiting s (s.createTask t work name source).1 sched queued := by
  rcases System.createTask_cases s t work name source with
    same | ⟨n, refused⟩ | ⟨sched₀, after, went, done⟩
  · rw [same]
    exact .of_frame h (.refl _ s)
  · rw [refused]
    exact .of_frame h (System.frame_report s t n)
  · let named := fun x : Scheduler => { x with names := (sched₀.names.register name).1 }
    have enrolled : Fits (s.enrolled t sched₀ name work).1 waiting (named sched) queued :=
      ((h.modifyScheduler (f := named) rfl rfl).addRoutine (taskId name) name work).of_frame
        (System.frame_report _ t (.creating name))
    have id : ((s.enrolled t sched₀ name work).1.routine (s.enrolled t sched₀ name work).2).id =
        taskId name := by
      have new : (s.enrolled t sched₀ name work).1.routine (s.enrolled t sched₀ name work).2 =
          { id := taskId name, name, work, wakeAt := s.now } :=
        (Arena.get_add ..).trans (if_pos rfl)
      rw [new]
    have dispatched := enrolled.dispatch t (System.enrolled_lt s t sched₀ name work)
      fun running => id.symm ▸ free running
    have altered : Alters waiting s after sched queued := went ▸ dispatched.of_before rfl rfl
    rcases done with whole | ⟨q, f, installed⟩
    · rw [whole]
      exact altered
    · rw [installed]
      exact altered.trans (System.frame_modifyQueue after q f)

/-! ## 5. Removal -/

/-- A stopped routine that nobody holds is taken out of its group. -/
theorem taken (agree : s.Consistent sched.roster queued) (found : queued.find? id = some r)
    {g : GroupRef} (group : sched.roster.find? (s.routine r).group = some g)
    (free : (s.routine r).holder = none) (stopped : (s.routine r).stopped = true) (t : Thread) :
    ∃ s', s.removeRoutine t g r = (s', .removed) ∧ s'.scheduler = s.scheduler ∧
      s'.Consistent sched.roster (queued.erase id) ∧ Keeps Routine.placement s s' ∧
      (s'.routine r).holder = none ∧ (s'.routine r).stopped = true := by
  obtain ⟨s', removed, scheduler, agree', holders⟩ := System.removeRoutine_eq agree found group free t
  have keeps := System.keeps_removeRoutine Routine.placement_ignoresStatus
    Routine.placement_ignoresHolder s t g r
  have rests : Rests none s (s.removeRoutine t g r).1 := .removeRoutine s t g r
  rw [removed] at keeps rests
  exact ⟨s', removed, scheduler, agree', keeps, (holders r).trans free,
    rests.stopped r (agree.task found).bound stopped⟩

/-- An id and its slot have gone together. -/
theorem Fits.take (h : Fits s waiting sched queued) (scheduler : s'.scheduler = some sched')
    (roster : sched'.roster = sched.roster)
    (live : ∀ other, sched'.tasks.find? other = if other = id then none else sched.tasks.find? other)
    (agree : s'.Consistent sched.roster (queued.erase id)) (keeps : Keeps Routine.placement s s') :
    Fits s' (waiting.filter (·.id != id)) sched' (queued.erase id) where
  scheduler := scheduler
  agree := roster.symm ▸ agree
  live other := by
    rw [live other, TaskTable.find?_erase]
    by_cases same : other = id
    · rw [if_pos same, if_pos same, ite_self]
    · rw [if_neg same, if_neg same, isLocked_filter same, h.live other]
  waits p mem := by
    obtain ⟨mem, other⟩ := List.mem_filter.mp mem
    obtain ⟨there, group⟩ := h.waits p mem
    rw [TaskTable.find?_erase, if_neg (bne_iff_ne.mp other), roster,
      keeps.group_eq (h.agree.task there).bound]
    exact ⟨there, group⟩
  distinct := h.distinct.sublist (List.filter_sublist.map _)

/-- A routine whose slot has gone is gone itself. -/
theorem Fits.gone (h : Fits s waiting sched queued) (found : queued.find? id = some r)
    {waiting' : List Waiting} (fits : Fits s' waiting' sched' (queued.erase id))
    (unheld : (s'.routine r).holder = none) (stopped : (s'.routine r).stopped = true) : Gone s' r :=
  ⟨fits.out (h.agree.find?_erase_ne found) stopped, unheld⟩

theorem keeps_dismissed (s : System κ) (id : UInt64) (r : RoutineRef) :
    Keeps Routine.placement s (s.dismissed id r) := by
  have erased : Keeps Routine.placement s
      (s.modifyScheduler fun sched => { sched with tasks := sched.tasks.erase id }) := .of_routines_eq rfl
  exact erased.trans (.modifyRoutine _ r Routine.placement_ignoresStatus.stop)

theorem holder_dismissed (s : System κ) (id : UInt64) (r : RoutineRef) :
    ((s.dismissed id r).routine r).holder = (s.routine r).holder :=
  System.view_stop System.holder_ignoresStatus s r r

/-- The removal of a live task that nobody holds. -/
theorem Fits.removed (h : Fits s waiting sched queued) (found : sched.tasks.find? id = some r)
    (free : (s.routine r).holder = none) (t : Thread) :
    ∃ s', s.removeById t id = (s', .removed) ∧
      Fits s' waiting { sched with tasks := sched.tasks.erase id } (queued.erase id) ∧ Gone s' r := by
  obtain ⟨unlocked, there⟩ := h.of_live found
  have task := h.agree.task there
  obtain ⟨g, group⟩ := task.group
  have dismissed := keeps_dismissed s id r
  have group' : sched.roster.find? ((s.dismissed id r).routine r).group = some g :=
    dismissed.group_eq task.bound ▸ group
  obtain ⟨s', removed, scheduler, agree, keeps, unheld, stopped⟩ :=
    taken (h.agree.dismissed id r) there group' ((holder_dismissed s id r).trans free)
      (System.stopped_dismissed task.bound id) t
  have fits : Fits s' waiting { sched with tasks := sched.tasks.erase id } (queued.erase id) := by
    have took := h.take (scheduler.trans (System.scheduler_dismissed h.scheduler id r)) rfl
      (TaskTable.find?_erase sched.tasks id) agree (dismissed.trans keeps)
    rw [filter_of_unlocked unlocked] at took
    exact took
  refine ⟨s', ?_, fits, h.gone there fits unheld stopped⟩
  rw [System.removeById_live h.scheduler found group, removed]

/-- The removal of a live task that somebody holds waits from now on. -/
theorem Fits.begun (h : Fits s waiting sched queued) (found : sched.tasks.find? id = some r)
    (held : (s.routine r).holder ≠ none) (t : Thread) :
    ∃ s' g, s.removeById t id = (s', .waits g r r) ∧
      Fits s' (⟨id, g, r⟩ :: waiting) { sched with tasks := sched.tasks.erase id } queued ∧
      (s'.routine r).stopped = true := by
  obtain ⟨unlocked, there⟩ := h.of_live found
  have task := h.agree.task there
  obtain ⟨g, group⟩ := task.group
  have dismissed := keeps_dismissed s id r
  have group' : sched.roster.find? ((s.dismissed id r).routine r).group = some g :=
    dismissed.group_eq task.bound ▸ group
  obtain ⟨s', waits, frame⟩ := System.removeRoutine_held (h.agree.dismissed id r) there group'
    (holder_dismissed s id r ▸ held) t
  have rests : Rests none (s.dismissed id r) ((s.dismissed id r).removeRoutine t g r).1 :=
    .removeRoutine _ t g r
  rw [waits] at rests
  refine ⟨s', g, (System.removeById_live h.scheduler found group t).trans waits, ?_,
    rests.stopped r (Nat.lt_of_lt_of_le task.bound dismissed.size) (System.stopped_dismissed task.bound id)⟩
  refine ⟨frame.scheduler.trans (System.scheduler_dismissed h.scheduler id r),
    (h.agree.dismissed id r).of_frame frame, ?_, ?_, ?_⟩
  · intro other
    show (sched.tasks.erase id).find? other = if (id == other || isLocked waiting other) then _ else _
    rw [TaskTable.find?_erase, h.live other]
    by_cases same : other = id
    · rw [if_pos same, same, beq_self_eq_true, Bool.true_or, if_pos rfl]
    · rw [if_neg same, beq_false_of_ne (Ne.symm same), Bool.false_or]
  · intro p mem
    have places := dismissed.trans frame.routines
    rcases List.mem_cons.mp mem with rfl | mem
    · rw [places.group_eq task.bound]
      exact ⟨there, group⟩
    · obtain ⟨found, group⟩ := h.waits p mem
      rw [places.group_eq (h.agree.task found).bound]
      exact ⟨found, group⟩
  · refine List.nodup_cons.mpr ⟨fun mem => ?_, h.distinct⟩
    obtain ⟨p, mem, same⟩ := List.mem_map.mp mem
    rw [isLocked_iff.mpr ⟨p, mem, same⟩] at unlocked
    cases unlocked

/-- A removal that has waited comes to its end when nobody holds its routine any more. -/
theorem Fits.concluded (h : Fits s waiting sched queued) {p : Waiting} (mem : p ∈ waiting)
    (free : (s.routine p.routine).holder = none) (stopped : (s.routine p.routine).stopped = true)
    (t : Thread) :
    ∃ s', s.removeRoutine t p.group p.routine = (s', .removed) ∧
      Fits s' (waiting.filter (·.id != p.id)) sched (queued.erase p.id) ∧ Gone s' p.routine := by
  obtain ⟨there, group⟩ := h.waits p mem
  obtain ⟨s', removed, scheduler, agree, keeps, unheld, stays⟩ :=
    taken h.agree there group free stopped t
  have absent : sched.tasks.find? p.id = none := by
    rw [h.live p.id, if_pos (isLocked_iff.mpr ⟨p, mem, rfl⟩)]
  have live : ∀ other, sched.tasks.find? other =
      if other = p.id then none else sched.tasks.find? other := by
    intro other
    split
    · next same => rw [same, absent]
    · rfl
  have fits := h.take (scheduler.trans h.scheduler) rfl live agree keeps
  exact ⟨s', removed, fits, h.gone there fits unheld stays⟩

/-! ## 6. Moves and calls -/

open Routine (placement_ignoresStatus placement_ignoresHolder)

/-- A body removes only tasks that nobody holds. -/
theorem Fits.removeFromBody (h : Fits s waiting sched queued) (t : Thread) (name : String) :
    Alters waiting s (s.removeFromBody t name).1 sched queued := by
  have same : Alters waiting s s sched queued := .of_frame h (.refl _ s)
  unfold System.removeFromBody
  split
  · exact same
  · next unheld =>
    simp only [System.removeTask, h.scheduler]
    cases sched.stopped with
    | true => exact same
    | false =>
      cases found : sched.tasks.find? (taskId name) with
      | none =>
        rw [if_neg Bool.false_ne_true, System.removeById_of_absent h.scheduler found]
        exact same
      | some r =>
        rw [(System.task?_eq h.scheduler _).trans found, Option.any_some, Routine.isHeld] at unheld
        obtain ⟨s', removed, fits, gone⟩ :=
          h.removed found (Option.not_isSome_iff_eq_none.mp unheld) t
        rw [if_neg Bool.false_ne_true, removed]
        exact .takes _ _ r found fits rfl rfl gone

theorem Fits.serve (h : Fits s waiting sched queued) (t : Thread) (r : RoutineRef)
    {request : Request κ} {σ : Type} {rest : Reply → σ}
    (free : (lockOfMove? s (.ask request rest)).any (isLocked waiting) = false) :
    Alters waiting s (s.serve t r request).1 sched queued := by
  have same : Alters waiting s s sched queued := .of_frame h (.refl _ s)
  cases request with
  | trace text => exact .of_frame h (.of_eq rfl rfl rfl)
  | identity => exact same
  | setState state =>
    exact .of_frame h (.modifyRoutine s r fun x => placement_ignoresStatus.setState x state)
  | push q message => exact .of_frame h (System.frame_push placement_ignoresStatus s t q message)
  | fetch q => exact .of_frame h (System.frame_fetch s q)
  | onRoutine x op =>
    exact .of_frame h (System.frame_applyOp placement_ignoresStatus placement_ignoresHolder s t x op)
  | create name body source =>
    have unlocked : sched.stopped = false → isLocked waiting (taskId name) = false := by
      intro running
      simp only [lockOfMove?, isStopped, h.scheduler, Option.any_some, running] at free
      exact free
    simp only [System.serve]
    split
    · exact same
    · exact h.createTask t (.body body) name source unlocked
  | remove name =>
    simp only [System.serve]
    split
    · exact same
    · exact h.removeFromBody t name
  | notify name =>
    simp only [System.serve]
    split
    · exact same
    · exact .of_frame h (System.frame_notifyTask placement_ignoresStatus s (taskId name))
  | stopProcessor =>
    cases t with
    | processor p => exact .of_frame h (System.frame_stopProcessor s (.processor p) p)
    | main => exact same
    | helper => exact same

/-- A move of a body whose lock is free. -/
theorem Fits.move [Program κ] (h : Fits s waiting sched queued) (t : Thread) (r : RoutineRef)
    (free : (lockOfMove? s ((s.routine r).work.next s.labels)).any (isLocked waiting) = false) :
    Alters waiting s (s.move t r).1 sched queued := by
  have goOn : ∀ (s : System κ) (work : Work κ),
      Frame System.bearing s (s.modifyRoutine r fun x => { x with work }) :=
    fun s _ => .modifyRoutine s r fun _ => rfl
  have close : ∀ s : System κ, Frame System.bearing s
      (s.modifyRoutine r fun x => { x with work := .finished, state := .finished }) :=
    fun s => .modifyRoutine s r fun _ => rfl
  have same : Alters waiting s s sched queued := .of_frame h (.refl _ s)
  unfold System.move
  dsimp only
  cases next : (s.routine r).work.next s.labels with
  | skip rest => exact same.trans (goOn s rest)
  | ask request rest =>
    rw [next] at free
    exact (h.serve t r free).trans (goOn _ _)
  | pause how rest =>
    refine (same.trans (goOn s rest)).trans (.modifyRoutine _ r fun x => ?_)
    cases how <;> rfl
  | await gate rest =>
    have reached : Frame System.bearing s (if s.reachedGates.contains gate then s
        else { s with reachedGates := gate :: s.reachedGates }) := by
      split
      · exact .refl _ s
      · exact .of_eq rfl rfl rfl
    dsimp only
    revert reached
    generalize (if s.reachedGates.contains gate then s
        else { s with reachedGates := gate :: s.reachedGates }) = s'
    intro reached
    split
    · exact (same.trans reached).trans (goOn s' rest)
    · exact same.trans reached
  | finish rest => exact same.trans (close s)
  | panic reason => exact (same.trans (System.frame_report s t _)).trans (close _)

/-- An orderly call whose lock is free. -/
theorem Fits.apply (h : Fits s waiting sched queued) (t : Thread) (o : Operation κ)
    (free : (o.lock? s).any (isLocked waiting) = false) (orderly : o.Orderly s) :
    Alters waiting s (o.apply s t) sched queued := by
  have framed : ∀ {s'}, Frame Routine.placement s s' → Alters waiting s s' sched queued :=
    fun frame => .of_frame h frame
  have unlocked : ∀ id, ((if isStopped s then none else some id).any (isLocked waiting)) = false →
      sched.stopped = false → isLocked waiting id = false := by
    intro id free running
    simp only [isStopped, h.scheduler, Option.any_some, running] at free
    exact free
  cases o with
  | newRoutine id name work => exact .keeps sched (h.addRoutine id name work) rfl rfl
  | newGroup name => exact .keeps sched (h.addGroup name) rfl rfl
  | newQueue => exact framed (.of_eq rfl rfl rfl)
  | create work name source => exact h.createTask t work name source (unlocked _ free)
  | dispatch r => exact h.dispatch t orderly (unlocked _ free)
  | notifyTask id => exact framed (System.frame_notifyTask placement_ignoresStatus s id)
  | notifyProcessor id => exact framed (System.frame_notifyProcessor placement_ignoresStatus s id)
  | next g =>
    exact framed (System.frame_nextRoutine placement_ignoresStatus placement_ignoresHolder s t g)
  | notifyGroup g => exact framed (System.frame_notifyGroup s g)
  | silenceGroup g => exact framed (System.frame_shutdownGroup s g)
  | waitGroup g => exact framed (System.frame_waitGroup s g)
  | onRoutine r op =>
    exact framed (System.frame_applyOp placement_ignoresStatus placement_ignoresHolder s t r op)
  | setState r state =>
    exact framed (.modifyRoutine s r fun x => placement_ignoresStatus.setState x state)
  | push q message => exact framed (System.frame_push placement_ignoresStatus s t q message)
  | fetch q => exact framed (System.frame_fetch s q)
  | install q callback => exact framed (System.frame_modifyQueue s q _)
  | stopProcessor p => exact framed (System.frame_stopProcessor s t p)
  | openGate gate =>
    simp only [Operation.apply, System.openGate]
    split
    · exact framed (.refl _ s)
    · exact framed (.of_eq rfl rfl rfl)
  | elapse millis => exact framed (.of_eq rfl rfl rfl)
  | start conf => exact orderly.elim
  | forget => exact orderly.elim
  | insert g r => exact orderly.elim
  | unlink g r => exact orderly.elim
  | setPriority r priority => exact orderly.elim
  | setGroup r name => exact orderly.elim

end Turns

end CoopSched
