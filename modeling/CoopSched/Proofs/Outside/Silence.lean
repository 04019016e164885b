import CoopSched.Proofs.Outside.Lasting
import CoopSched.Script
/-!
# Shutdown and silence

A shutdown stops the groups that its processors serve, and no others (`Shuts`). They serve the posts of the
scheduler, up to the shutdown (`Manned`).

So a shutdown stops a group exactly if the group was stopped before, or an entry of its name has processors.
It is then stopped for good: whatever is done, it hands out nothing, and a wait there does not block
(`shutdown_hushes_iff`).
-/

namespace CoopSched

namespace System

variable {κ : Type} {s s' : System κ} {may : GroupRef → Prop} {conf : SchedulerConf} {sched sched' : Scheduler}
  {t : Thread} {g : GroupRef}

/-! ## 1. Shutdown -/

theorem Attends.stopProcessor (s : System κ) (t : Thread) (p : Nat)
    (allowed : ∀ g, (s.processor p).group = some g → may g) : Attends may s (s.stopProcessor t p) := by
  have halted : Attends may s (s.modifyProcessor p Processor.halt) := ⟨.modifyProcessor s p fun _ => rfl, rfl⟩
  have given : ∀ {s' : System κ}, Attends may s s' → Attends may s (s'.modifyProcessor p Processor.giveBack) :=
    fun before => before.trans ⟨.modifyProcessor _ p fun _ => rfl, rfl⟩
  unfold System.stopProcessor
  dsimp only
  split
  · exact .refl may s
  · cases serves : (s.processor p).group with
    | none =>
      split
      · exact (given halted).trans (.of_eq rfl rfl rfl)
      · exact given halted
    | some g =>
      have silenced := halted.trans
        (.modifyGroup _ g Group.Signal.shutdown.later fun _ _ => .inr (allowed g serves))
      split
      · exact (given silenced).trans (.of_eq rfl rfl rfl)
      · exact given silenced

/-- The groups that processors serve. -/
def served (s : System κ) (processors : List Nat) : List GroupRef :=
  processors.filterMap fun p => (s.processor p).group

theorem Attends.stopGroups (s : System κ) (gs : List GroupRef) (allowed : ∀ g ∈ gs, may g) :
    Attends may s (gs.foldl (fun s g => s.modifyGroup g Group.shutdown) s) :=
  List.foldlRecOn (motive := Attends may s) _ _ (.refl may s) fun _ before g hg =>
    before.trans (.modifyGroup _ g Group.Signal.shutdown.later fun _ _ => .inr (allowed g hg))

theorem silent_stopServedGroups (hg : g < s.groups.size) {processors : List Nat}
    (mem : g ∈ s.served processors) : ((s.stopServedGroups processors).group g).Silent := by
  unfold System.stopServedGroups
  rw [served] at mem
  generalize processors.filterMap (fun p => (s.processor p).group) = gs at mem ⊢
  induction gs generalizing s with
  | nil => cases mem
  | cons first rest ih =>
    have there : g < (s.modifyGroup first Group.shutdown).groups.size := (size_modifyGroup ..).symm ▸ hg
    by_cases here : first = g
    -- The groups after it in the list leave it as it is.
    · have silent : ((s.modifyGroup first Group.shutdown).group g).Silent := by
        rw [group_modifyGroup, if_pos ⟨here, hg⟩]
        exact Group.silent_shutdown _
      have later := Attends.stopGroups (s.modifyGroup first Group.shutdown) rest
        fun _ _ => trivial
      exact (later.group g there).silent silent
    · exact ih there ((List.mem_cons.mp mem).resolve_left (Ne.symm here))

theorem shutdown_of_stopped (hs : s.scheduler = some sched) (stopped : sched.stopped = true) (t : Thread) :
    s.shutdown t = s := by
  simp only [System.shutdown, hs, stopped, if_true]

/-- A shutdown after its removals, with the list of processors taken out of the scheduler. -/
def emptied (s : System κ) (t : Thread) (sched : Scheduler) : System κ :=
  ((s.listed sched).foldl (fun s id => (s.removeById t id).1) (s.silenced t sched)).modifyScheduler
    fun sched => { sched with processors := [] }

theorem shutdown_eq (hs : s.scheduler = some sched) (running : sched.stopped = false)
    (t : Thread) :
    s.shutdown t = sched.processors.foldl (fun s p => s.stopProcessor t p) (s.emptied t sched) := by
  simp only [System.shutdown, hs, running]
  rfl

/-- A shutdown stops only the groups that its processors serve, at the beginning and at the end. -/
structure Shuts (may : GroupRef → Prop) (s : System κ) (t : Thread) (sched : Scheduler) : Prop where
  silenced : Attends may (s.modifyScheduler fun sched => { sched with stopped := true }) (s.silenced t sched)
  swept : Attends may (s.silenced t sched)
    ((s.listed sched).foldl (fun s id => (s.removeById t id).1) (s.silenced t sched))
  halted : Attends may (s.emptied t sched) (s.shutdown t)

namespace Shuts

theorem before (h : Shuts may s t sched) : Lasts may s (s.silenced t sched) :=
  (Lasts.of_eq rfl rfl : Lasts may s (s.modifyScheduler _)).trans h.silenced.toLasts

theorem emptied (h : Shuts may s t sched) : Lasts may (s.silenced t sched) (s.emptied t sched) :=
  h.swept.toLasts.trans (.of_eq rfl rfl)

theorem lasts (h : Shuts may s t sched) : Lasts may s (s.shutdown t) :=
  (h.before.trans h.emptied).trans h.halted.toLasts

theorem core (h : Shuts may s t sched) (hs : s.scheduler = some sched) :
    (s.shutdown t).scheduler.map Scheduler.core = some (sched.policy, sched.roster, [], true) := by
  have core := h.swept.core.trans h.silenced.core
  have raised : (s.modifyScheduler fun sched => { sched with stopped := true }).scheduler =
      some { sched with stopped := true } := congrArg (Option.map _) hs
  rw [raised] at core
  obtain ⟨current, there, same⟩ := Option.map_eq_some_iff.mp core
  obtain ⟨policy, roster, -, stopped⟩ := Scheduler.core_eq same
  rw [h.halted.core, System.emptied]
  show (Option.map _ (System.scheduler _)).map Scheduler.core = _
  rw [there, Option.map_some, Option.map_some, Scheduler.core, policy, roster, stopped]

end Shuts

theorem shuts (hs : s.scheduler = some sched) (running : sched.stopped = false) (t : Thread)
    (served : ∀ g ∈ s.served sched.processors, may g)
    (later : ∀ s', Lasts may s s' → ∀ p ∈ sched.processors, ∀ g, (s'.processor p).group = some g → may g) :
    Shuts may s t sched := by
  let raised := s.modifyScheduler fun sched => { sched with stopped := true }
  have reported : Attends may raised (raised.report t .shuttingDown) := .of_eq rfl rfl rfl
  have silenced : Attends may raised (s.silenced t sched) :=
    reported.trans (.stopGroups _ (s.served sched.processors) served)
  have swept : Attends may (s.silenced t sched)
      ((s.listed sched).foldl (fun s id => (s.removeById t id).1) (s.silenced t sched)) :=
    List.foldlRecOn (motive := Attends may _) _ _ (.refl _ _) fun _ before id _ =>
      before.trans (.removeById _ t id)
  have raise : Lasts may s raised := .of_eq rfl rfl
  have emptied : Lasts may s (s.emptied t sched) :=
    (raise.trans (silenced.toLasts.trans swept.toLasts)).trans (.of_eq rfl rfl)
  refine ⟨silenced, swept, ?_⟩
  rw [shutdown_eq hs running]
  refine List.foldlRecOn (motive := Attends may _) _ _ (.refl _ _) fun s' before p hp => ?_
  exact before.trans (.stopProcessor s' t p (later s' (emptied.trans before.toLasts) p hp))

theorem Lasts.shutdown (s : System κ) (t : Thread) : Lasts (fun _ => True) s (s.shutdown t) := by
  cases hs : s.scheduler with
  | none =>
    simp only [System.shutdown, hs]
    exact .refl _ s
  | some sched =>
    cases running : sched.stopped with
    | true =>
      rw [shutdown_of_stopped hs running]
      exact .refl _ s
    | false => exact (shuts hs running t (fun _ _ => trivial) fun _ _ _ _ _ _ => trivial).lasts

/-- A shutdown silences the groups that its processors serve, and no others. -/
theorem shutdown_silences (hs : s.scheduler = some sched) (running : sched.stopped = false)
    (bound : ∀ p ∈ sched.processors, p < s.processors.size) (t : Thread) :
    Shuts (· ∈ s.served sched.processors) s t sched ∧
      ∀ g ∈ s.served sched.processors, g < s.groups.size → ((s.shutdown t).group g).Silent := by
  -- Each processor still serves what it served, so that at the end no other groups are stopped than before.
  have shuts : Shuts (· ∈ s.served sched.processors) s t sched := by
    refine shuts hs running t (fun _ => id) fun s' lasts p hp g serves => ?_
    exact List.mem_filterMap.mpr ⟨p, hp, (lasts.processor p (bound p hp)).symm.trans serves⟩
  refine ⟨shuts, fun g hg inside => ?_⟩
  let reported := (s.modifyScheduler fun sched => { sched with stopped := true }).report t .shuttingDown
  have silent : ((s.silenced t sched).group g).Silent := silent_stopServedGroups (s := reported) inside hg
  have there := Nat.lt_of_lt_of_le inside shuts.before.groups
  exact ((shuts.emptied.trans shuts.halted.toLasts).group g there).silent silent

/-! ## 2. Posts -/

/-- A scheduler of a configuration has the groups of its entries. -/
structure Housed (s : System κ) (conf : SchedulerConf) (sched : Scheduler) : Prop where
  policy : sched.policy = .ofConf conf.effective
  hosts : s.Hosts sched.roster
  named : ∀ entry ∈ sched.policy.groups, ∃ g, sched.roster.find? entry.name = some g
  topped : ∀ g ∈ sched.roster.refs, (s.group g).Topped

/-- Up to the shutdown its processors serve its posts, and from then on its posts are silent. -/
structure Manned (s : System κ) (conf : SchedulerConf) (sched : Scheduler) : Prop
    extends Housed s conf sched where
  posts : sched.stopped = false → sched.processors.map (fun p => (s.processor p).group) = sched.posts.map some
  silent : sched.stopped = true → ∀ g ∈ sched.posts, (s.group g).Silent

theorem Hosts.lasts {roster : Roster} (h : s.Hosts roster) (lasts : Lasts may s s') : s'.Hosts roster where
  nodup := h.nodup
  bound g hg := Nat.lt_of_lt_of_le (h.bound g hg) lasts.groups
  known g hg := (lasts.group g (h.bound g hg)).name ▸ h.known g hg
  name found := (lasts.group _ (h.bound _ (Roster.mem_refs_of_find? found))).name.trans (h.name found)
  default := h.default

namespace Housed

theorem post_mem_refs (h : s.Housed conf sched) {g : GroupRef} (post : g ∈ sched.posts) :
    g ∈ sched.roster.refs := by
  obtain ⟨entry, -, -, rfl⟩ := Roster.mem_posts.mp post
  exact Roster.findOrDefault_mem h.hosts.default _

/-- The posts in terms of names. -/
theorem mem_posts_iff (h : s.Housed conf sched) {g : GroupRef} (hg : g ∈ sched.roster.refs) :
    g ∈ sched.posts ↔
      ∃ entry ∈ conf.effective.groups, entry.name = (s.group g).name ∧ 0 < entry.processorNum := by
  rw [Scheduler.posts, Roster.mem_posts, h.policy]
  constructor
  · rintro ⟨entry, mem, some, rfl⟩
    obtain ⟨g, found⟩ := h.named entry (h.policy ▸ mem)
    refine ⟨entry, mem, ?_, some⟩
    rw [Roster.findOrDefault_of_find? found, h.hosts.name found]
  · rintro ⟨entry, mem, name, some⟩
    refine ⟨entry, mem, some, Roster.findOrDefault_of_find? ?_⟩
    rw [name]
    exact h.hosts.known g hg

theorem lasts (h : s.Housed conf sched) (lasts : Lasts may s s') (policy : sched'.policy = sched.policy)
    (roster : sched'.roster = sched.roster) : s'.Housed conf sched' where
  policy := policy.trans h.policy
  hosts := roster ▸ h.hosts.lasts lasts
  named := by
    rw [policy, roster]
    exact h.named
  topped := by
    rw [roster]
    exact fun g hg => (lasts.group g (h.hosts.bound g hg)).topped (h.topped g hg)

theorem bound (h : s.Housed conf sched) {g : GroupRef} (post : g ∈ sched.posts) : g < s.groups.size :=
  h.hosts.bound g (h.post_mem_refs post)

end Housed

namespace Manned

theorem served_eq (h : s.Manned conf sched) (running : sched.stopped = false) :
    s.served sched.processors = sched.posts := by
  have serving := congrArg (List.filterMap id) (h.posts running)
  simpa [served, List.filterMap_map, Function.comp_def] using serving

theorem lt_of_mem (h : s.Manned conf sched) (running : sched.stopped = false) {p : Nat}
    (hp : p ∈ sched.processors) : p < s.processors.size :=
  lt_of_posts (h.posts running) hp

theorem lasts (h : s.Manned conf sched) (lasts : Lasts may s s') (core : sched'.core = sched.core) :
    s'.Manned conf sched' := by
  obtain ⟨policy, roster, processors, stopped⟩ := Scheduler.core_eq core
  have posts := Scheduler.posts_congr policy roster
  refine ⟨h.toHoused.lasts lasts policy roster, fun running => ?_, fun halted g hg => ?_⟩
  · rw [stopped] at running
    rw [posts, ← h.posts running, processors]
    exact List.map_congr_left fun p hp => lasts.processor p (h.lt_of_mem running hp)
  · rw [posts] at hg
    rw [stopped] at halted
    exact (lasts.group g (h.bound hg)).silent (h.silent halted g hg)

/-- After a shutdown the posts are silent. -/
theorem shutdown (h : s.Manned conf sched) (hs : s.scheduler = some sched) (t : Thread) :
    ∃ sched', (s.shutdown t).scheduler = some sched' ∧ (s.shutdown t).Manned conf sched' := by
  cases running : sched.stopped with
  | true =>
    rw [shutdown_of_stopped hs running]
    exact ⟨sched, hs, h⟩
  | false =>
    obtain ⟨shuts, silent⟩ := shutdown_silences hs running (fun p => h.lt_of_mem running) t
    obtain ⟨sched', hs', core⟩ := Option.map_eq_some_iff.mp (shuts.core hs)
    obtain ⟨policy, roster, -, stopped⟩ := Scheduler.core_eq core
    have posts := Scheduler.posts_congr policy roster
    refine ⟨sched', hs', h.toHoused.lasts shuts.lasts policy roster, fun still => ?_, fun _ g hg => ?_⟩
    -- The flag is up now, so that nothing is asked of the processors any more.
    · rw [stopped] at still
      cases still
    · rw [posts] at hg
      exact silent g (h.served_eq running ▸ hg) (h.bound hg)

/-- The groups that are silent after a shutdown: those stopped before it, and the posts. -/
theorem silent_shutdown_iff (h : s.Manned conf sched) (hs : s.scheduler = some sched)
    (hg : g ∈ sched.roster.refs) (t : Thread) :
    ((s.shutdown t).group g).Silent ↔ (s.group g).stopped = true ∨ g ∈ sched.posts := by
  have inside := h.hosts.bound g hg
  have later := (Lasts.shutdown s t).group g inside
  have before : (s.group g).stopped = true → ((s.shutdown t).group g).Silent :=
    fun stopped => later.silent ⟨stopped, h.topped g hg stopped⟩
  cases running : sched.stopped with
  | true =>
    have same := shutdown_of_stopped hs running t
    have silent : g ∈ sched.posts → (s.group g).stopped = true := fun post => (h.silent running g post).stopped
    exact ⟨fun after => .inl (same ▸ after.stopped), fun either => before (either.elim id silent)⟩
  | false =>
    obtain ⟨shuts, silent⟩ := shutdown_silences hs running (fun p => h.lt_of_mem running) t
    rw [h.served_eq running] at shuts silent
    exact ⟨fun after => shuts.lasts.only g after.stopped,
      fun either => either.elim before fun post => silent g post inside⟩

end Manned

theorem manned_startScheduler (s : System κ) (t : Thread) (conf : SchedulerConf) :
    ∃ sched, (s.startScheduler t conf).scheduler = some sched ∧
      (s.startScheduler t conf).Manned conf sched := by
  obtain ⟨before, sched, -, hs, running, policy, roster, staffed⟩ := startScheduler_staffs s t conf
  have kept : Lasts (fun _ => True) _ (s.startScheduler t conf) := .of_staffs staffed
  have hosts := addRoster_hosts before (sched.policy.groups.map (·.name))
  rw [← roster] at hosts
  refine ⟨sched, hs, ⟨policy, hosts.lasts kept, fun entry mem => ?_, fun g hg => ?_⟩, fun _ => staffed.posts,
    fun halted => ?_⟩
  · rw [roster]
    exact find?_addRoster before (List.mem_map_of_mem mem)
  · intro stopped
    rw [(audible_startScheduler s t conf hs).2 g hg] at stopped
    cases stopped
  · rw [running] at halted
    cases halted

/-- A group is stopped: it hands out nothing, shows the largest count, and lets nobody wait. -/
structure Hushed (s : System κ) (g : GroupRef) : Prop where
  stopped : (s.group g).stopped = true
  nothing : ∀ t, s.nextRoutine t g = (s, none)
  pending : (s.group g).pending = maxPending
  passes : ¬(s.group g).Blocks

theorem hushed_iff {g : GroupRef} : s.Hushed g ↔ (s.group g).Silent := by
  refine ⟨fun h => ⟨h.stopped, h.pending⟩, fun silent => ⟨silent.stopped, fun t => ?_, silent.pending,
    silent.not_blocks⟩⟩
  rw [nextRoutine, if_pos silent.stopped]

end System

namespace Outside

open CoopSched.System (Lasts Attends Manned)
open CoopSched.Turns (Operation)

variable {κ : Type} {s s' : System κ}

/-! ## 3. Runs -/

/-- Everything but to replace the scheduler. -/
def Standing (_ : System κ) : Step κ → Prop
  | .operate (.start _) | .operate .forget => False
  | _ => True

/-- Everything. -/
def Any (_ : System κ) (_ : Step κ) : Prop := True

variable [Program κ]

/-- Only a shutdown, or another scheduler, changes more. -/
theorem attends_apply (s : System κ) (t : Thread) {a : Step κ} (allowed : Standing s a)
    (other : a ≠ .shutdown) : Attends (fun _ => True) s (a.apply s t) := by
  have kept := System.kept_attends s
  have same : Attends (fun _ => True) s s := .refl _ s
  cases a with
  | operate o =>
    by_cases plain : Plain o
    · exact keeps_plain kept (fun _ _ _ => rfl) same t plain
    · cases o with
      | start conf => exact allowed.elim
      | forget => exact allowed.elim
      | newRoutine id name work => exact .of_eq rfl rfl rfl
      | newGroup name => exact ⟨.addGroup s name, rfl⟩
      | dispatch r => exact .dispatch s t r
      | insert g r => exact .enqueue s g r
      | unlink g r => exact .removeRoutine s t g r
      | _ => exact absurd trivial plain
  | remove id => exact .removeById s t id
  | removeTask name => exact .removeTask s t name
  | conclude g l position r =>
    have erased : Attends (fun _ => True) s (s.modifyGroup g (·.eraseAt l position)) :=
      .modifyGroup s g (fun x => x.later_eraseAt l position) fun _ => .inl
    exact erased.trans (.of_eq rfl rfl rfl)
  | shutdown => exact absurd rfl other
  | resume r => exact kept.resume same t r
  | move r => exact kept.move same t r
  | serve p => exact kept.serveStep same p

theorem lasts_apply (s : System κ) (t : Thread) (a : Step κ) : Lasts (fun _ => True) s (a.apply s t) := by
  by_cases shuts : a = .shutdown
  · rw [shuts]
    exact .shutdown s t
  · by_cases standing : Standing s a
    · exact (attends_apply s t standing shuts).toLasts
    · cases a with
      | operate o =>
        cases o with
        | start conf => exact .startScheduler s t conf
        | forget => exact .of_eq rfl rfl
        | _ => exact absurd trivial standing
      | _ => exact absurd trivial standing

/-- Whatever is done, a silent group stays silent. -/
theorem silent_run {s' : System κ} (run : Run Any s s') {g : GroupRef} (hg : g < s.groups.size)
    (silent : (s.group g).Silent) : (s'.group g).Silent := by
  have lasts : Lasts (fun _ => True) s s' :=
    run.keeps (fun t a h _ => h.trans (lasts_apply _ t a)) (.refl _ s)
  exact (lasts.group g hg).silent silent

theorem manned_run {s₀ : System κ} {t₀ : Thread} {conf : SchedulerConf}
    (run : Run Standing (s₀.startScheduler t₀ conf) s) :
    ∃ sched, s.scheduler = some sched ∧ s.Manned conf sched := by
  refine run.keeps (P := fun s => ∃ sched, s.scheduler = some sched ∧ s.Manned conf sched)
    (fun {s} t a h allowed => ?_) (System.manned_startScheduler s₀ t₀ conf)
  obtain ⟨sched, hs, manned⟩ := h
  by_cases shuts : a = .shutdown
  · rw [shuts]
    exact manned.shutdown hs t
  · have attends := attends_apply s t allowed shuts
    have core := attends.core
    rw [hs] at core
    obtain ⟨sched', hs', core⟩ := Option.map_eq_some_iff.mp core
    exact ⟨sched', hs', manned.lasts attends.toLasts core⟩

/-- For every configuration, and whatever was done since the start: a shutdown leaves a group of the scheduler
stopped for good exactly if it was stopped before, or if some entry of its name has processors. -/
theorem shutdown_hushes_iff {s₀ : System κ} {t₀ : Thread} {conf : SchedulerConf} {sched : Scheduler}
    (run : Run Standing (s₀.startScheduler t₀ conf) s) (hs : s.scheduler = some sched) {g : GroupRef}
    (hg : g ∈ sched.roster.refs) (t : Thread) :
    (∀ s', Run Any (s.shutdown t) s' → s'.Hushed g) ↔
      (s.group g).stopped = true ∨
        ∃ entry ∈ conf.effective.groups, entry.name = (s.group g).name ∧ 0 < entry.processorNum := by
  obtain ⟨current, there, manned⟩ := manned_run run
  cases there.symm.trans hs
  rw [← manned.mem_posts_iff hg, ← manned.silent_shutdown_iff hs hg t]
  constructor
  -- The run without a step tells already.
  · intro always
    exact System.hushed_iff.mp (always _ .refl)
  · intro silent s' later
    have inside := Nat.lt_of_lt_of_le (manned.hosts.bound g hg) (Lasts.shutdown s t).groups
    exact System.hushed_iff.mpr (silent_run later inside silent)

/-- A group with a processor, and one without. -/
def uneven : SchedulerConf := { groups := [{ name := "g", processorNum := 1 }, { name := "h" }] }

/-- A routine is made, and not dispatched. -/
def waitingRoutine : System Script :=
  Step.apply (System.startScheduler {} .main uneven) .main (.operate (.newRoutine 7 "t" .finished))

/-- The scheduler of both groups. -/
def unevenScheduler : Scheduler where
  policy := ⟨uneven.groups⟩
  roster := { groups := [("g", 0), ("h", 1)], default := 0 }
  processors := [0]

theorem run_waitingRoutine :
    Run Standing (System.startScheduler ({} : System Script) .main uneven) waitingRoutine :=
  Run.refl.step .main (.operate (.newRoutine 7 "t" .finished)) trivial

theorem scheduler_waitingRoutine : waitingRoutine.scheduler = some unevenScheduler := rfl

theorem unheld_waitingRoutine (r : RoutineRef) : (waitingRoutine.routine r).holder = none := by
  cases r with
  | zero => rfl
  | succ n =>
    rw [System.routine, Arena.get_of_size_le _ (show 1 ≤ n + 1 from Nat.le_add_left 1 n)]
    rfl

/-- The group with a processor is stopped for good. -/
theorem hushed_with_processor : (waitingRoutine.group 0).stopped = false ∧
    ∀ s', Run Any (waitingRoutine.shutdown .main) s' → s'.Hushed 0 := by
  have served : ∃ entry ∈ uneven.effective.groups, entry.name = (waitingRoutine.group 0).name ∧
      0 < entry.processorNum := ⟨{ name := "g", processorNum := 1 }, by decide, rfl, by decide⟩
  refine ⟨rfl, ?_⟩
  exact (shutdown_hushes_iff run_waitingRoutine scheduler_waitingRoutine (by decide) .main).mpr (.inr served)

/-- The group without one is not: it is not stopped, a wait there blocks, and a routine that is inserted is
handed out. -/
theorem open_without_processor :
    Run Standing (System.startScheduler ({} : System Script) .main uneven) waitingRoutine ∧
      waitingRoutine.scheduler = some unevenScheduler ∧ (∀ r, (waitingRoutine.routine r).holder = none) ∧
      1 ∈ unevenScheduler.roster.refs ∧
      ((waitingRoutine.shutdown .main).group 1).stopped = false ∧
      ((waitingRoutine.shutdown .main).group 1).Blocks ∧
      ∃ s', Run Any (waitingRoutine.shutdown .main) s' ∧ (s'.nextRoutine .main 1).2 = some 0 :=
  ⟨run_waitingRoutine, scheduler_waitingRoutine, unheld_waitingRoutine, by decide, rfl, rfl, _,
    Run.refl.step .main (.operate (.insert 1 0)) trivial, rfl⟩

end Outside

end CoopSched
