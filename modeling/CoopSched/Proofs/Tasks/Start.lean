import CoopSched.Proofs.Tasks.Operations
/-!
# A scheduler begins with table and queues agreeing

The groups of a new scheduler are new groups of the system, so they are different and empty, and its
table is empty too. This holds for every configuration and in every system, whatever groups and
routines others have put there before.
-/

namespace CoopSched

namespace Roster

theorem nodup_eraseDups (names : List String) : names.eraseDups.Nodup := by
  cases names with
  | nil => exact List.nodup_nil
  | cons name rest =>
    rw [List.eraseDups_cons, List.nodup_cons]
    refine ⟨fun mem => ?_, nodup_eraseDups _⟩
    rw [List.mem_eraseDups] at mem
    have kept := (List.mem_filter.mp mem).2
    simp at kept
termination_by names.length
decreasing_by
  exact Nat.lt_succ_of_le (List.length_filter_le _ rest)

theorem nodup_namesOf (names : List String) : (namesOf names).Nodup := by
  unfold namesOf
  split
  · exact List.nodup_cons.mpr ⟨nofun, List.nodup_nil⟩
  · exact nodup_eraseDups names

theorem namesOf_ne_nil (names : List String) : namesOf names ≠ [] := by
  unfold namesOf
  split
  · exact nofun
  · next h =>
    cases names with
    | nil => exact absurd rfl h
    | cons name rest =>
      rw [List.eraseDups_cons]
      exact nofun

end Roster

namespace System

variable {κ β : Type} {s s' : System κ} {view : Routine κ → β}

/-! ## 1. The roster -/

/-- Some names with different groups of the system, which have these names and are empty. -/
structure Opens (s : System κ) (groups : List (String × GroupRef)) : Prop where
  nodup : (groups.map (·.2)).Nodup
  bound : ∀ {name g}, (name, g) ∈ groups → g < s.groups.size
  name : ∀ {name g}, (name, g) ∈ groups → (s.group g).name = name
  empty : ∀ {name g}, (name, g) ∈ groups → ∀ l, (s.group g).queue l = []

theorem Opens.nil (s : System κ) : s.Opens [] := ⟨List.nodup_nil, nofun, nofun, nofun⟩

theorem queue_new (name : String) (l : Priority) : ({ name } : Group).queue l = [] := by
  simp [Group.queue]

theorem group_addGroup (s : System κ) (name : String) (g : GroupRef) :
    (s.addGroup name).1.group g = if g = s.groups.size then { name } else s.group g :=
  Arena.get_add ..

theorem Opens.addGroup {groups : List (String × GroupRef)} (h : s.Opens groups) (name : String) :
    (s.addGroup name).1.Opens (groups ++ [(name, s.groups.size)]) where
  nodup := by
    rw [List.map_append]
    refine List.nodup_append.mpr ⟨h.nodup, List.nodup_cons.mpr ⟨nofun, List.nodup_nil⟩, ?_⟩
    rintro g hg g' hg' rfl
    obtain ⟨entry, mem, rfl⟩ := List.mem_map.mp hg
    have bound : entry.2 < s.groups.size := h.bound mem
    rw [List.mem_singleton.mp hg'] at bound
    exact Nat.lt_irrefl _ bound
  bound {other g} mem := by
    show g < (s.groups.add _).size
    rw [Arena.size_add]
    rcases List.mem_append.mp mem with old | new
    · exact Nat.lt_succ_of_lt (h.bound old)
    · cases List.mem_singleton.mp new
      exact Nat.lt_succ_self _
  name {other g} mem := by
    rw [group_addGroup]
    rcases List.mem_append.mp mem with old | new
    · rw [if_neg (Nat.ne_of_lt (h.bound old)), h.name old]
    · cases List.mem_singleton.mp new
      rw [if_pos rfl]
  empty {other g} mem l := by
    rw [group_addGroup]
    rcases List.mem_append.mp mem with old | new
    · rw [if_neg (Nat.ne_of_lt (h.bound old)), h.empty old]
    · cases List.mem_singleton.mp new
      rw [if_pos rfl, queue_new]

/-- One step of making a roster. -/
def openNext (acc : System κ × List (String × GroupRef)) (name : String) :
    System κ × List (String × GroupRef) :=
  ((acc.1.addGroup name).1, acc.2 ++ [(name, acc.1.groups.size)])

theorem opens_foldl (names : List String) (acc : System κ × List (String × GroupRef))
    (h : acc.1.Opens acc.2) :
    (names.foldl openNext acc).1.Opens (names.foldl openNext acc).2 ∧
      (names.foldl openNext acc).2.map (·.1) = acc.2.map (·.1) ++ names := by
  induction names generalizing acc with
  | nil => exact ⟨h, (List.append_nil _).symm⟩
  | cons name rest ih =>
    obtain ⟨opens, names⟩ := ih (openNext acc name) (h.addGroup name)
    refine ⟨opens, names.trans ?_⟩
    simp [openNext]

theorem addRoster_eq (s : System κ) (names : List String) :
    s.addRoster names =
      (((Roster.namesOf names).foldl openNext (s, [])).1,
        { groups := ((Roster.namesOf names).foldl openNext (s, [])).2
          default := (((Roster.namesOf names).foldl openNext (s, [])).2.head?.map (·.2)).getD 0 }) :=
  rfl

theorem addRoster_opens (s : System κ) (names : List String) :
    (s.addRoster names).1.Opens (s.addRoster names).2.groups ∧
      (s.addRoster names).2.groups.map (·.1) = Roster.namesOf names := by
  rw [addRoster_eq]
  exact opens_foldl (Roster.namesOf names) (s, []) (.nil s)

/-- The groups of a new roster are known by their names. -/
theorem addRoster_hosts (s : System κ) (names : List String) :
    (s.addRoster names).1.Hosts (s.addRoster names).2 := by
  obtain ⟨opens, keys⟩ := addRoster_opens s names
  have distinct : ((s.addRoster names).2.groups.map (·.1)).Nodup :=
    keys ▸ Roster.nodup_namesOf names
  refine ⟨opens.nodup, ?_, ?_, ?_, ?_⟩
  · intro g hg
    obtain ⟨⟨name, g⟩, mem, rfl⟩ := List.mem_map.mp hg
    exact opens.bound mem
  · intro g hg
    obtain ⟨⟨name, g⟩, mem, rfl⟩ := List.mem_map.mp hg
    rw [opens.name mem]
    exact TableLemmas.lookup_of_mem distinct mem
  · intro name g found
    exact opens.name (TableLemmas.lookup_mem found)
  · cases hgs : (s.addRoster names).2.groups with
    | nil =>
      rw [hgs] at keys
      exact absurd keys.symm (Roster.namesOf_ne_nil names)
    | cons entry rest =>
      have first : (s.addRoster names).2.default =
          ((s.addRoster names).2.groups.head?.map (·.2)).getD 0 := rfl
      rw [first, Roster.refs, hgs]
      exact List.mem_cons_self

/-- With the groups empty and the table empty, the two agree. -/
theorem addRoster_consistent (s : System κ) (names : List String) :
    (s.addRoster names).1.Consistent (s.addRoster names).2 {} where
  hosts := addRoster_hosts s names
  nodup := List.nodup_nil
  task := nofun
  slots g hg l r := by
    obtain ⟨⟨name, g⟩, mem, rfl⟩ := List.mem_map.mp hg
    have unknown : TaskTable.find? {} (System.routine (s.addRoster names).1 r).id ≠ some r := nofun
    rw [(addRoster_opens s names).1.empty mem l, home?_eq_none unknown]
    rfl

/-! ## 2. The processors -/

theorem Frame.foldl_fst {α γ : Type} {step : System κ × γ → α → System κ × γ}
    (h : ∀ acc a, Frame view acc.1 (step acc a).1) (as : List α) (acc : System κ × γ) :
    Frame view acc.1 (as.foldl step acc).1 := by
  induction as generalizing acc with
  | nil => exact .refl view acc.1
  | cons a as ih => exact (h acc a).trans (ih (step acc a))

theorem frame_reportRefusal (s : System κ) (t : Thread) (processor : String)
    (outcome : Except Error Unit) : Frame view s (s.reportRefusal t processor outcome) := by
  unfold reportRefusal
  split
  · exact .refl view s
  · exact frame_report s t _

theorem frame_startProcessor (s : System κ) (t : Thread) (conf : SchedGroup) (cpus : List Nat)
    (g : GroupRef) (index : Nat) : Frame view s (s.startProcessor t conf cpus g index).1 := by
  unfold startProcessor
  dsimp only
  refine Frame.trans ?_ (frame_reportRefusal _ t _ _)
  refine Frame.trans ?_ (frame_reportAll _ t _)
  refine Frame.trans ?_ (frame_reportRefusal _ t _ _)
  exact .of_eq rfl rfl rfl

theorem frame_startProcessors (s : System κ) (t : Thread) (roster : Roster) (conf : SchedGroup) :
    Frame view s (s.startProcessors t roster conf).1 := by
  have started : ∀ (s : System κ) (cpus : List Nat), Frame view s
      ((List.range conf.processorNum).foldl (fun acc index =>
        ((acc.1.startProcessor t conf cpus (roster.findOrDefault conf.name) index).1,
          acc.2 ++ [(acc.1.startProcessor t conf cpus (roster.findOrDefault conf.name) index).2]))
        (s, [])).1 := by
    intro s cpus
    refine Frame.foldl_fst (fun acc index => ?_) _ (s, [])
    exact frame_startProcessor acc.1 t conf cpus _ index
  unfold startProcessors
  dsimp only
  split
  · exact started s _
  · exact (frame_report s t _).trans (started _ [])

theorem frame_pinWhole (s : System κ) (t : Thread) (spec : String) :
    Frame view s (if spec.isEmpty then s
      else match pinProcess s.machine spec with
        | .ok _ => s
        | .error cause => s.report t (.processCpusetRefused cause)) := by
  split
  · exact .refl view s
  · split
    · exact .refl view s
    · exact frame_report s t _

/-! ## 3. The scheduler -/

theorem Consistent.withScheduler {roster : Roster} {tasks : TaskTable}
    (h : s.Consistent roster tasks) (scheduler : Option Scheduler) (schedulers : Nat) :
    { s with scheduler, schedulers }.Consistent roster tasks :=
  h.of_keeps (.of_groups_eq rfl) (.of_routines_eq rfl)

/-- Every configuration, and every system, gives a scheduler whose table and queues agree. -/
theorem startScheduler_sound (s : System κ) (t : Thread) (conf : SchedulerConf) :
    (s.startScheduler t conf).Sound := by
  unfold startScheduler
  dsimp only
  refine ⟨_, rfl, ?_⟩
  refine Consistent.withScheduler ?_ _ _
  refine (addRoster_consistent _ _).of_frame (Frame.trans ?_ (frame_report _ t _))
  refine Frame.trans ?_ (Frame.foldl_fst (fun acc group => ?_) _ _)
  · exact frame_pinWhole _ t _
  · exact frame_startProcessors acc.1 t _ group

end System

end CoopSched
