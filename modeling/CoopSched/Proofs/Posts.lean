import CoopSched.Proofs.Tasks.Start
import CoopSched.Proofs.Atomic
/-!
# The groups that processors serve

A new scheduler gets the processors of its first group entry, then those of the next one, and so on. Each of
them serves the group that the name of its entry means. So the groups that they serve, in order, are the posts
of the scheduler (`startScheduler_staffs`).
-/

namespace CoopSched

/-- The groups that entries mean, each as often as its entry has processors. -/
def Roster.posts (roster : Roster) (entries : List SchedGroup) : List GroupRef :=
  entries.flatMap fun entry => List.replicate entry.processorNum (roster.findOrDefault entry.name)

/-- The groups for which a scheduler has processors. -/
def Scheduler.posts (sched : Scheduler) : List GroupRef := sched.roster.posts sched.policy.groups

theorem Roster.mem_posts {roster : Roster} {entries : List SchedGroup} {g : GroupRef} :
    g ∈ roster.posts entries ↔
      ∃ entry ∈ entries, 0 < entry.processorNum ∧ roster.findOrDefault entry.name = g := by
  simp only [posts, List.mem_flatMap, List.mem_replicate, Nat.pos_iff_ne_zero, eq_comm (a := g)]

namespace System

variable {κ : Type} {s s' s'' : System κ} {ps ps' : List Nat} {gs gs' : List GroupRef}

theorem processor_modifyProcessor (s : System κ) (p q : Nat) (f : Processor → Processor) :
    (s.modifyProcessor p f).processor q =
      if p = q ∧ q < s.processors.size then f (s.processor q) else s.processor q :=
  Arena.get_modify ..

/-- Only processors that are there serve groups. -/
theorem lt_of_serves {p : Nat} {g : GroupRef} (serves : (s.processor p).group = some g) :
    p < s.processors.size := by
  by_contra outside
  have unknown : s.processor p = default := Arena.get_of_size_le s.processors (Nat.le_of_not_lt outside)
  rw [unknown] at serves
  cases serves

theorem lt_of_posts (posts : ps.map (fun p => (s.processor p).group) = gs.map some) {p : Nat} (hp : p ∈ ps) :
    p < s.processors.size := by
  have serves : (s.processor p).group ∈ gs.map some := posts ▸ List.mem_map_of_mem hp
  obtain ⟨g, -, same⟩ := List.mem_map.mp serves
  exact lt_of_serves same.symm

/-! ## 1. Rosters -/

/-- The groups of a new roster are new. -/
theorem group_addRoster (s : System κ) (names : List String) {name : String} {g : GroupRef}
    (mem : (name, g) ∈ (s.addRoster names).2.groups) : (s.addRoster names).1.group g = { name } := by
  have fresh : ∀ e ∈ (s.addRoster names).2.groups,
      e.2 < (s.addRoster names).1.groups.size ∧ (s.addRoster names).1.group e.2 = { name := e.1 } := by
    rw [addRoster_eq]
    refine List.foldlRecOn (Roster.namesOf names) openNext (b := (s, []))
      (motive := fun acc => ∀ e ∈ acc.2, e.2 < acc.1.groups.size ∧ acc.1.group e.2 = { name := e.1 })
      nofun fun acc old name _ e mem => ?_
    have size : (openNext acc name).1.groups.size = acc.1.groups.size + 1 := Arena.size_add ..
    have group : (openNext acc name).1.group e.2 =
        if e.2 = acc.1.groups.size then { name } else acc.1.group e.2 := group_addGroup acc.1 name e.2
    rw [size, group]
    rcases List.mem_append.mp mem with before | new
    · obtain ⟨bound, same⟩ := old e before
      exact ⟨Nat.lt_succ_of_lt bound, (if_neg (Nat.ne_of_lt bound)).trans same⟩
    · cases List.mem_singleton.mp new
      exact ⟨Nat.lt_succ_self _, if_pos rfl⟩
  exact (fresh (name, g) mem).2

/-- A new roster has a group for each of the names. -/
theorem find?_addRoster (s : System κ) {names : List String} {name : String} (mem : name ∈ names) :
    ∃ g, (s.addRoster names).2.find? name = some g := by
  obtain ⟨-, keys⟩ := addRoster_opens s names
  have distinct : ((s.addRoster names).2.groups.map (·.1)).Nodup := keys ▸ Roster.nodup_namesOf names
  have key : name ∈ (s.addRoster names).2.groups.map (·.1) := by
    have some : names.isEmpty ≠ true := fun none => List.not_mem_nil (List.isEmpty_iff.mp none ▸ mem)
    rw [keys, Roster.namesOf, if_neg some, List.mem_eraseDups]
    exact mem
  obtain ⟨⟨name, g⟩, there, rfl⟩ := List.mem_map.mp key
  exact ⟨g, TableLemmas.lookup_of_mem distinct there⟩

/-! ## 2. Processors -/

/-- Some processors were added, no more than that, and `ps` are processors that serve the groups `gs`, one
each. -/
structure Staffs (s s' : System κ) (ps : List Nat) (gs : List GroupRef) : Prop where
  groups : s'.groups = s.groups
  size : s.processors.size ≤ s'.processors.size
  old : ∀ p < s.processors.size, (s'.processor p).group = (s.processor p).group
  posts : ps.map (fun p => (s'.processor p).group) = gs.map some

namespace Staffs

theorem of_eq (groups : s'.groups = s.groups) (processors : s'.processors = s.processors) :
    Staffs s s' [] [] where
  groups := groups
  size := Nat.le_of_eq (congrArg Arena.size processors.symm)
  old p _ := congrArg (fun a : Arena Processor => (a.get p).group) processors
  posts := rfl

theorem refl (s : System κ) : Staffs s s [] [] := .of_eq rfl rfl

theorem report (s : System κ) (t : Thread) (n : Notice) : Staffs s (s.report t n) [] [] := .of_eq rfl rfl

/-- Processors go on serving their groups when others are added. -/
theorem posts_later (later : Staffs s s' ps' gs')
    (posts : ps.map (fun p => (s.processor p).group) = gs.map some) :
    ps.map (fun p => (s'.processor p).group) = gs.map some := by
  rw [← posts]
  exact List.map_congr_left fun p hp => later.old p (lt_of_posts posts hp)

theorem trans (h : Staffs s s' ps gs) (h' : Staffs s' s'' ps' gs') :
    Staffs s s'' (ps ++ ps') (gs ++ gs') where
  groups := h'.groups.trans h.groups
  size := Nat.le_trans h.size h'.size
  old p hp := (h'.old p (Nat.lt_of_lt_of_le hp h.size)).trans (h.old p hp)
  posts := by rw [List.map_append, List.map_append, h'.posts_later h.posts, h'.posts]

theorem congr (h : Staffs s s' ps gs) (groups : s''.groups = s'.groups)
    (processors : s''.processors = s'.processors) : Staffs s s'' ps gs := by
  have both := h.trans (.of_eq groups processors)
  rwa [List.append_nil, List.append_nil] at both

theorem reportAll (s : System κ) (t : Thread) (ns : List Notice) : Staffs s (s.reportAll t ns) [] [] := by
  rw [reportAll_eq]
  exact .of_eq rfl rfl

theorem reportRefusal (s : System κ) (t : Thread) (processor : String) (outcome : Except Error Unit) :
    Staffs s (s.reportRefusal t processor outcome) [] [] := by
  unfold System.reportRefusal
  split
  · exact .refl s
  · exact .report s t _

/-- A new processor, bound to a group. -/
theorem hire (s : System κ) (name : String) (g : GroupRef) :
    Staffs s ((s.addProcessor name).1.modifyProcessor s.processors.size fun x => (x.bind g).1)
      [s.processors.size] [g] where
  groups := rfl
  size := by
    show _ ≤ ((s.processors.add _).modify _ _).size
    rw [Arena.size_modify, Arena.size_add]
    exact Nat.le_succ _
  old p hp := by
    rw [processor_modifyProcessor, if_neg fun same => Nat.ne_of_gt hp same.1]
    show ((s.processors.add _).get p).group = _
    rw [Arena.get_add, if_neg (Nat.ne_of_lt hp)]
    rfl
  posts := by
    have there : s.processors.size < (s.addProcessor name).1.processors.size := by
      show _ < (s.processors.add _).size
      rw [Arena.size_add]
      exact Nat.lt_succ_self _
    have new : (s.addProcessor name).1.processor s.processors.size = { name } :=
      (Arena.get_add ..).trans (if_pos rfl)
    rw [List.map_singleton, List.map_singleton, processor_modifyProcessor, if_pos ⟨rfl, there⟩, new]
    rfl

theorem startProcessor (s : System κ) (t : Thread) (conf : SchedGroup) (cpus : List Nat) (g : GroupRef)
    (index : Nat) :
    Staffs s (s.startProcessor t conf cpus g index).1 [(s.startProcessor t conf cpus g index).2] [g] := by
  unfold System.startProcessor
  dsimp only
  have bound := hire s s!"{conf.name}-{index}" g
  exact ((bound.trans (.reportRefusal _ t _ _)).trans (.reportAll _ t _)).trans (.reportRefusal _ t _ _)

/-- One processor after the other, or one entry after the other. -/
theorem foldl {α : Type} {step : System κ × List Nat → α → System κ × List Nat} (posts : α → List GroupRef)
    (hires : ∀ (acc : System κ × List Nat) (a : α), ∃ more, (step acc a).2 = acc.2 ++ more ∧
      Staffs acc.1 (step acc a).1 more (posts a))
    (as : List α) (acc : System κ × List Nat) (h : Staffs s acc.1 acc.2 gs) :
    Staffs s (as.foldl step acc).1 (as.foldl step acc).2 (gs ++ as.flatMap posts) := by
  induction as generalizing acc gs with
  | nil => rwa [List.flatMap_nil, List.append_nil]
  | cons a as ih =>
    obtain ⟨more, started, hired⟩ := hires acc a
    rw [List.flatMap_cons, ← List.append_assoc]
    exact ih (step acc a) (started ▸ h.trans hired)

theorem startProcessors (s : System κ) (t : Thread) (roster : Roster) (conf : SchedGroup) :
    Staffs s (s.startProcessors t roster conf).1 (s.startProcessors t roster conf).2
      (List.replicate conf.processorNum (roster.findOrDefault conf.name)) := by
  -- The loop is over the indices, and each of them adds the same post.
  have posts : (List.range conf.processorNum).flatMap (fun _ => [roster.findOrDefault conf.name]) =
      List.replicate conf.processorNum (roster.findOrDefault conf.name) := by
    rw [← List.map_eq_flatMap, List.map_const', List.length_range]
  rw [← posts]
  unfold System.startProcessors
  dsimp only
  split
  · exact foldl _ (fun acc index => ⟨_, rfl, .startProcessor _ t conf _ _ index⟩) _ (_, []) (.refl s)
  · exact foldl _ (fun acc index => ⟨_, rfl, .startProcessor _ t conf _ _ index⟩) _ (_, []) (.report s t _)

end Staffs

/-! ## 3. Schedulers -/

theorem Staffs.pinWhole (s : System κ) (t : Thread) (spec : String) :
    Staffs s (if spec.isEmpty then s
      else match pinProcess s.machine spec with
        | .ok _ => s
        | .error cause => s.report t (.processCpusetRefused cause)) [] [] := by
  split
  · exact .refl s
  · split
    · exact .refl s
    · exact .report s t _

/-- One step of the start: the processors of one entry. -/
def staffNext (t : Thread) (roster : Roster) (acc : System κ × List Nat) (entry : SchedGroup) :
    System κ × List Nat :=
  ((acc.1.startProcessors t roster entry).1, acc.2 ++ (acc.1.startProcessors t roster entry).2)

theorem Staffs.startAll (h : Staffs s s' [] []) (t : Thread) (roster : Roster) (entries : List SchedGroup) :
    Staffs s (entries.foldl (staffNext t roster) (s', [])).1 (entries.foldl (staffNext t roster) (s', [])).2
      (roster.posts entries) := by
  have hires : ∀ (acc : System κ × List Nat) (entry : SchedGroup), ∃ more,
      (staffNext t roster acc entry).2 = acc.2 ++ more ∧
      Staffs acc.1 (staffNext t roster acc entry).1 more
        (List.replicate entry.processorNum (roster.findOrDefault entry.name)) :=
    fun acc entry => ⟨_, rfl, .startProcessors acc.1 t roster entry⟩
  exact .foldl _ hires entries (s', []) h

/-- A new scheduler has groups of the names in the configuration, and a processor for each of its posts. -/
theorem startScheduler_staffs (s : System κ) (t : Thread) (conf : SchedulerConf) :
    ∃ (before : System κ) (sched : Scheduler), Staffs s before [] [] ∧
      (s.startScheduler t conf).scheduler = some sched ∧ sched.stopped = false ∧
      sched.policy = .ofConf conf.effective ∧
      sched.roster = (before.addRoster (sched.policy.groups.map (·.name))).2 ∧
      Staffs (before.addRoster (sched.policy.groups.map (·.name))).1 (s.startScheduler t conf)
        sched.processors sched.posts := by
  have warned : Staffs s (if conf.hasGroups then s else s.report t .noGroups) [] [] := by
    split
    · exact .refl s
    · exact .report s t _
  have noticed := warned.trans (.reportAll _ t (Policy.notices conf.effective))
  have hired := fun (opened : System κ) roster =>
    (Staffs.pinWhole opened t conf.effective.processLevelCpuset).startAll t roster
      (Policy.ofConf conf.effective).groups
  unfold startScheduler
  dsimp only
  refine ⟨_, _, noticed, rfl, rfl, rfl, rfl, ?_⟩
  exact (hired _ _).congr rfl rfl

/-- A scheduler that was just started has no stop flag, and neither has any of its groups. -/
theorem audible_startScheduler (s : System κ) (t : Thread) (conf : SchedulerConf) {sched : Scheduler}
    (hs : (s.startScheduler t conf).scheduler = some sched) :
    sched.stopped = false ∧
      ∀ g ∈ sched.roster.refs, ((s.startScheduler t conf).group g).stopped = false := by
  obtain ⟨before, started, -, here, running, -, roster, staffed⟩ := startScheduler_staffs s t conf
  cases here.symm.trans hs
  refine ⟨running, fun g hg => ?_⟩
  obtain ⟨⟨name, g⟩, mem, rfl⟩ := List.mem_map.mp hg
  have same : (s.startScheduler t conf).group g = (System.addRoster before _).1.group g :=
    congrArg (fun a : Arena Group => a.get g) staffed.groups
  rw [same, group_addRoster before _ (roster ▸ mem)]

end System

end CoopSched
