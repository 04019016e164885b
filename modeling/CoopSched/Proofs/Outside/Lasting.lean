import CoopSched.Proofs.Outside.Machine
import CoopSched.Proofs.Posts
import CoopSched.Proofs.Turns.Tables
/-!
# What lasts

Groups and processors stay for ever, under their names. A group that was stopped stays so, with its count at the
largest value, and a processor serves the group that it was bound to (`Lasts`).

Calls, turns and removals leave besides the scheduler alone, but for its table and its names (`Attends`).
-/

namespace CoopSched

/-! ## 1. Groups -/

namespace Group

/-- A wait blocks while there is no notification to answer. -/
def Blocks (x : Group) : Prop := x.pending = 0

/-- Stopped, with the count at the top. -/
structure Silent (x : Group) : Prop where
  stopped : x.stopped = true
  pending : x.pending = maxPending

theorem silent_shutdown (x : Group) : x.shutdown.Silent := ⟨rfl, rfl⟩

theorem Silent.not_blocks {x : Group} (h : x.Silent) : ¬x.Blocks := by
  rw [Blocks, h.pending]
  decide

/-- If it is stopped, then it is silent. -/
def Topped (x : Group) : Prop := x.stopped = true → x.pending = maxPending

/-- What becomes of a group: its name stays, and once it is stopped it stays so, with its count at the top. -/
structure Later (x x' : Group) : Prop where
  name : x'.name = x.name
  stopped : x.stopped = true → x'.stopped = true
  topped : x.Topped → x'.Topped

theorem Later.refl (x : Group) : Later x x := ⟨rfl, id, id⟩

theorem Later.trans {x x' x'' : Group} (h : Later x x') (h' : Later x' x'') : Later x x'' :=
  ⟨h'.name.trans h.name, h'.stopped ∘ h.stopped, h'.topped ∘ h.topped⟩

theorem Later.silent {x x' : Group} (h : Later x x') (silent : x.Silent) : x'.Silent :=
  ⟨h.stopped silent.stopped, h.topped (fun _ => silent.pending) (h.stopped silent.stopped)⟩

theorem Signal.later {f : Group → Group} (signal : Signal f) (x : Group) : Later x (f x) := by
  cases signal with
  | notify =>
    refine ⟨rfl, id, fun topped stopped => ?_⟩
    show min (x.pending + 1) maxPending = maxPending
    rw [topped stopped]
    exact Nat.min_eq_right (Nat.le_succ _)
  | wait =>
    by_cases stopped : x.stopped = true
    · rw [Group.wait, if_pos stopped]
      exact .refl x
    · rw [Group.wait, if_neg stopped]
      exact ⟨rfl, id, fun _ now => absurd now stopped⟩
  | shutdown => exact ⟨rfl, fun _ => rfl, fun _ _ => rfl⟩

theorem later_insert (x : Group) (l : Priority) (r : RoutineRef) : Later x (x.insert l r) := ⟨rfl, id, id⟩

theorem later_eraseAt (x : Group) (l : Priority) (position : Nat) : Later x (x.eraseAt l position) :=
  ⟨rfl, id, id⟩

end Group

/-- What of a scheduler only a shutdown changes. -/
def Scheduler.core (sched : Scheduler) : Policy × Roster × List Nat × Bool :=
  (sched.policy, sched.roster, sched.processors, sched.stopped)

theorem Scheduler.core_eq {sched : Scheduler} {policy : Policy} {roster : Roster} {processors : List Nat}
    {stopped : Bool} (core : sched.core = (policy, roster, processors, stopped)) :
    sched.policy = policy ∧ sched.roster = roster ∧ sched.processors = processors ∧
      sched.stopped = stopped := by
  simpa [Scheduler.core] using core

theorem Scheduler.posts_congr {sched sched' : Scheduler} (policy : sched'.policy = sched.policy)
    (roster : sched'.roster = sched.roster) : sched'.posts = sched.posts := by
  rw [posts, policy, roster, posts]

namespace System

open CoopSched.Group (Later)

variable {κ : Type} {s s' s'' : System κ} {may : GroupRef → Prop}

/-! ## 2. Groups and processors -/

/-- The groups and the processors are still there. Groups go on as they can, none but those that may be
stopped are stopped newly, and processors serve what they served. -/
structure Lasts (may : GroupRef → Prop) (s s' : System κ) : Prop where
  groups : s.groups.size ≤ s'.groups.size
  group : ∀ g < s.groups.size, Later (s.group g) (s'.group g)
  only : ∀ g, (s'.group g).stopped = true → (s.group g).stopped = true ∨ may g
  processors : s.processors.size ≤ s'.processors.size
  processor : ∀ p < s.processors.size, (s'.processor p).group = (s.processor p).group

namespace Lasts

theorem refl (may : GroupRef → Prop) (s : System κ) : Lasts may s s :=
  ⟨Nat.le_refl _, fun _ _ => .refl _, fun _ => .inl, Nat.le_refl _, fun _ _ => rfl⟩

theorem trans (h : Lasts may s s') (h' : Lasts may s' s'') : Lasts may s s'' where
  groups := Nat.le_trans h.groups h'.groups
  group g hg := (h.group g hg).trans (h'.group g (Nat.lt_of_lt_of_le hg h.groups))
  only g stopped := (h'.only g stopped).elim (h.only g) .inr
  processors := Nat.le_trans h.processors h'.processors
  processor p hp := (h'.processor p (Nat.lt_of_lt_of_le hp h.processors)).trans (h.processor p hp)

/-- With the same groups only the processors matter. -/
theorem of_groups_eq (groups : s'.groups = s.groups) (processors : s.processors.size ≤ s'.processors.size)
    (processor : ∀ p < s.processors.size, (s'.processor p).group = (s.processor p).group) : Lasts may s s' := by
  have same : s'.group = s.group := congrArg Arena.get groups
  refine ⟨Nat.le_of_eq (congrArg Arena.size groups.symm), fun g _ => ?_, fun g => ?_, processors, processor⟩
  · rw [same]
    exact .refl _
  · rw [same]
    exact .inl

theorem of_eq (groups : s'.groups = s.groups) (processors : s'.processors = s.processors) : Lasts may s s' :=
  .of_groups_eq groups (Nat.le_of_eq (congrArg Arena.size processors.symm)) fun p _ =>
    congrArg (fun a : Arena Processor => (a.get p).group) processors

theorem modifyGroup (s : System κ) (g : GroupRef) {f : Group → Group} (later : ∀ x, Later x (f x))
    (only : ∀ x, (f x).stopped = true → x.stopped = true ∨ may g) : Lasts may s (s.modifyGroup g f) where
  groups := Nat.le_of_eq (size_modifyGroup ..).symm
  group h _ := by
    rw [group_modifyGroup]
    split
    · exact later _
    · exact .refl _
  only h := by
    rw [group_modifyGroup]
    split
    · next same => exact same.1 ▸ only _
    · exact .inl
  processors := Nat.le_refl _
  processor _ _ := rfl

theorem modifyProcessor (s : System κ) (p : Nat) {f : Processor → Processor}
    (bound : ∀ x, (f x).group = x.group) : Lasts may s (s.modifyProcessor p f) := by
  refine .of_groups_eq rfl (Nat.le_of_eq (Arena.size_modify ..).symm) fun q _ => ?_
  rw [processor_modifyProcessor]
  split
  · exact bound _
  · rfl

theorem addGroup (s : System κ) (name : String) : Lasts may s (s.addGroup name).1 where
  groups := by
    show _ ≤ (s.groups.add _).size
    rw [Arena.size_add]
    exact Nat.le_succ _
  group g hg := by
    rw [group_addGroup, if_neg (Nat.ne_of_lt hg)]
    exact .refl _
  only g := by
    rw [group_addGroup]
    split
    · exact nofun
    · exact .inl
  processors := Nat.le_refl _
  processor _ _ := rfl

theorem addRoster (s : System κ) (names : List String) : Lasts may s (s.addRoster names).1 := by
  rw [addRoster_eq]
  exact List.foldlRecOn (Roster.namesOf names) openNext (b := (s, [])) (motive := fun acc => Lasts may s acc.1)
    (refl may s) fun acc h name _ => h.trans (addGroup acc.1 name)

theorem of_staffs {ps : List Nat} {gs : List GroupRef} (staffs : Staffs s s' ps gs) : Lasts may s s' :=
  .of_groups_eq staffs.groups staffs.size staffs.old

/-- Another scheduler does not touch what is there. -/
theorem startScheduler (s : System κ) (t : Thread) (conf : SchedulerConf) :
    Lasts may s (s.startScheduler t conf) := by
  obtain ⟨before, sched, noticed, -, -, -, -, staffed⟩ := startScheduler_staffs s t conf
  exact ((of_staffs noticed).trans (addRoster before _)).trans (of_staffs staffed)

end Lasts

/-- Besides, the scheduler is the same but for its table and its names. -/
structure Attends (may : GroupRef → Prop) (s s' : System κ) : Prop extends Lasts may s s' where
  core : s'.scheduler.map Scheduler.core = s.scheduler.map Scheduler.core

namespace Attends

theorem refl (may : GroupRef → Prop) (s : System κ) : Attends may s s := ⟨.refl may s, rfl⟩

theorem trans (h : Attends may s s') (h' : Attends may s' s'') : Attends may s s'' :=
  ⟨h.toLasts.trans h'.toLasts, h'.core.trans h.core⟩

/-- Routines, queues, gates, the clock and the record do not matter. -/
theorem of_eq (groups : s'.groups = s.groups) (processors : s'.processors = s.processors)
    (scheduler : s'.scheduler = s.scheduler) : Attends may s s' :=
  ⟨.of_eq groups processors, congrArg _ scheduler⟩

theorem modifyGroup (s : System κ) (g : GroupRef) {f : Group → Group} (later : ∀ x, Later x (f x))
    (only : ∀ x, (f x).stopped = true → x.stopped = true ∨ may g) : Attends may s (s.modifyGroup g f) :=
  ⟨.modifyGroup s g later only, rfl⟩

theorem modifyScheduler (s : System κ) {f : Scheduler → Scheduler} (core : ∀ x, (f x).core = x.core) :
    Attends may s (s.modifyScheduler f) := by
  refine ⟨.of_eq rfl rfl, ?_⟩
  show (s.scheduler.map f).map Scheduler.core = _
  rw [Option.map_map, show Scheduler.core ∘ f = Scheduler.core from funext core]

/-! ## 3. Tasks -/

theorem enqueue (s : System κ) (g : GroupRef) (r : RoutineRef) : Attends may s (s.enqueue g r) :=
  .modifyGroup s g (fun x => x.later_insert _ r) fun _ => .inl

theorem place (s : System κ) (t : Thread) (sched : Scheduler) (r : RoutineRef) :
    Attends may s (s.place t sched r) := by
  obtain ⟨_, _, settled⟩ := settled_eq s t sched r
  have moved : Attends may s (s.settled t sched r).1 := by
    rw [settled]
    exact .of_eq rfl rfl rfl
  rw [place_eq]
  exact (moved.trans (.enqueue _ _ r)).trans (.modifyGroup _ _ Group.Signal.notify.later fun _ => .inl)

theorem dispatch (s : System κ) (t : Thread) (r : RoutineRef) : Attends may s (s.dispatch t r).1 := by
  rcases dispatch_cases s t r with same | ⟨n, refused⟩ | ⟨sched, -, -, placed⟩
  · rw [same]
    exact .refl may s
  · rw [refused]
    exact .of_eq rfl rfl rfl
  · have claimed : Attends may s (s.modifyScheduler fun sched =>
        { sched with tasks := sched.tasks.insert (s.routine r).id r }) := .modifyScheduler s fun _ => rfl
    rw [placed]
    exact claimed.trans (.place _ t sched r)

theorem createTask (s : System κ) (t : Thread) (work : Work κ) (name : String) (source : Option QueueRef) :
    Attends may s (s.createTask t work name source).1 := by
  rcases createTask_cases s t work name source with same | ⟨n, refused⟩ | ⟨sched, after, went, done⟩
  · rw [same]
    exact .refl may s
  · rw [refused]
    exact .of_eq rfl rfl rfl
  · have named : Attends may s (s.modifyScheduler fun x => { x with names := (sched.names.register name).1 }) :=
      .modifyScheduler s fun _ => rfl
    have enrolled : Attends may s (s.enrolled t sched name work).1 := by
      unfold System.enrolled
      exact named.trans (.of_eq rfl rfl rfl)
    have dispatched := enrolled.trans (.dispatch _ t (s.enrolled t sched name work).2)
    rw [went] at dispatched
    rcases done with whole | ⟨q, f, installed⟩
    · rw [whole]
      exact dispatched
    · rw [installed]
      exact dispatched.trans (.of_eq rfl rfl rfl)

theorem removeRoutine (s : System κ) (t : Thread) (g : GroupRef) (r : RoutineRef) :
    Attends may s (s.removeRoutine t g r).1 := by
  have seized : ∀ target, Attends may s (s.seized t target) := fun _ => .of_eq rfl rfl rfl
  rcases removeRoutine_cases s t g r with same | ⟨target, ⟨n, waits⟩ | ⟨level, position, removed⟩⟩
  · rw [same]
    exact .refl may s
  · rw [waits]
    exact (seized target).trans (.of_eq rfl rfl rfl)
  · rw [removed]
    have erased := (seized target).trans
      (.modifyGroup _ g (fun x => x.later_eraseAt level position) fun _ => .inl)
    exact erased.trans (.of_eq rfl rfl rfl)

theorem dismissed (s : System κ) (id : UInt64) (r : RoutineRef) : Attends may s (s.dismissed id r) := by
  have erased : Attends may s (s.modifyScheduler fun sched => { sched with tasks := sched.tasks.erase id }) :=
    .modifyScheduler s fun _ => rfl
  exact erased.trans (.of_eq rfl rfl rfl)

theorem removeById (s : System κ) (t : Thread) (id : UInt64) : Attends may s (s.removeById t id).1 := by
  cases hs : s.scheduler with
  | none =>
    simp only [System.removeById, hs]
    exact .refl may s
  | some sched =>
    cases found : sched.tasks.find? id with
    | none =>
      rw [removeById_of_absent hs found]
      exact .refl may s
    | some r =>
      rw [removeById_eq_dismissed hs found t]
      exact (dismissed s id r).trans (.removeRoutine _ t _ r)

theorem removeTask (s : System κ) (t : Thread) (name : String) : Attends may s (s.removeTask t name).1 := by
  unfold System.removeTask
  split
  · exact .refl may s
  · split
    · exact .refl may s
    · exact .removeById s t (taskId name)

theorem removeFromBody (s : System κ) (t : Thread) (name : String) :
    Attends may s (s.removeFromBody t name).1 := by
  unfold System.removeFromBody
  split
  · exact .refl may s
  · exact .removeTask s t name

end Attends

/-- Turns, and calls, stop whatever groups they stop, and leave the rest. -/
theorem kept_attends (s₀ : System κ) : Kept (fun _ => ()) (Attends (fun _ => True) s₀) where
  status := ⟨fun _ _ => rfl, fun _ _ => rfl, fun _ _ => rfl, fun _ _ => rfl⟩
  holder _ _ := rfl
  work _ _ := rfl
  routine _ _ _ h := h.trans (.of_eq rfl rfl rfl)
  group g _ signal h := h.trans (.modifyGroup _ g signal.later fun _ _ => .inr trivial)
  processor p _ bound h := h.trans ⟨.modifyProcessor _ p bound, rfl⟩
  same h same := h.trans (.of_eq same.groups same.processors same.scheduler)
  create t work name source h := h.trans (.createTask _ t work name source)
  remove t name h := h.trans (.removeFromBody _ t name)

end System

end CoopSched
