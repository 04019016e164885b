import CoopSched.Proofs.Frame
import CoopSched.Proofs.Tasks.Table
import Mathlib.Algebra.GroupWithZero.Nat
import Mathlib.Data.List.Nodup
import Mathlib.Data.List.Perm.Basic
/-!
# The task table and the queues agree

Two stores say which routines are tasks: the table gives the routine of an id, and the queues of the
groups hold the routines that are offered to processors. They are kept in step through fields of the
routines themselves. `home?` reads off these fields where a routine should be queued, and `Consistent`
says that it is queued there, once, and nowhere else.

* What shows the same placement of every routine keeps the agreement (`Consistent.of_keeps`).
* Queueing a routine while its id is entered restores it (`Consistent.enter`).
* Taking the only slot of a routine out while its id is erased restores it (`Consistent.leave`).
* The table is as long as the groups together (`Consistent.size_eq_sum`).
-/

namespace CoopSched

/-- The fields of a routine that say where it is queued. -/
def Routine.placement {κ : Type} (x : Routine κ) : UInt64 × String × Nat :=
  (x.id, x.group, x.priority)

theorem Routine.placement_ignoresStatus {κ : Type} : IgnoresStatus (@Routine.placement κ) :=
  ⟨fun _ _ => rfl, fun _ _ => rfl, fun _ _ => rfl, fun _ _ => rfl⟩

theorem Routine.placement_ignoresHolder {κ : Type} : IgnoresHolder (@Routine.placement κ) :=
  fun _ _ => rfl

namespace System

variable {κ : Type} {s s' : System κ} {roster : Roster} {tasks : TaskTable} {id : UInt64}
  {r : RoutineRef} {g : GroupRef}

/-! ## 1. Where a routine should be -/

/-- The groups of a roster are different groups of the system, and each has the name under which the
roster finds it. -/
structure Hosts (s : System κ) (roster : Roster) : Prop where
  nodup : roster.refs.Nodup
  bound : ∀ g ∈ roster.refs, g < s.groups.size
  known : ∀ g ∈ roster.refs, roster.find? (s.group g).name = some g
  name : ∀ {name g}, roster.find? name = some g → (s.group g).name = name
  default : roster.default ∈ roster.refs

/-- Where a routine should be queued: nowhere unless the table gives it for its own id, else in the
group that has its group name, at the level of its priority. -/
def home? (s : System κ) (roster : Roster) (tasks : TaskTable) (r : RoutineRef) :
    Option (GroupRef × Priority) :=
  if tasks.find? (s.routine r).id = some r then
    (roster.find? (s.routine r).group).map fun g => (g, levelOf (s.routine r).priority)
  else none

/-- A routine that may stand in the table under an id. -/
structure IsTask (s : System κ) (roster : Roster) (id : UInt64) (r : RoutineRef) : Prop where
  bound : r < s.routines.size
  id : (s.routine r).id = id
  priority : (s.routine r).priority < maxPrio
  group : ∃ g, roster.find? (s.routine r).group = some g

/-- The table and the queues agree. -/
structure Consistent (s : System κ) (roster : Roster) (tasks : TaskTable) : Prop where
  hosts : s.Hosts roster
  nodup : tasks.ids.Nodup
  task : ∀ {id r}, tasks.find? id = some r → s.IsTask roster id r
  slots : ∀ g ∈ roster.refs, ∀ l r,
    ((s.group g).queue l).count r = if s.home? roster tasks r = some (g, l) then 1 else 0

theorem home?_eq_none (h : tasks.find? (s.routine r).id ≠ some r) :
    s.home? roster tasks r = none := by
  rw [home?, if_neg h]

theorem find?_of_home? {place : GroupRef × Priority} (h : s.home? roster tasks r = some place) :
    tasks.find? (s.routine r).id = some r := by
  unfold home? at h
  split at h
  · assumption
  · cases h

theorem home?_eq_some (live : tasks.find? (s.routine r).id = some r)
    (group : roster.find? (s.routine r).group = some g) :
    s.home? roster tasks r = some (g, levelOf (s.routine r).priority) := by
  rw [home?, if_pos live, group, Option.map_some]

/-- Only the placement of a routine decides where it should be. -/
theorem home?_congr (h : (s'.routine r).placement = (s.routine r).placement) :
    s'.home? roster tasks r = s.home? roster tasks r := by
  obtain ⟨id, rest⟩ := Prod.mk.inj h
  obtain ⟨group, priority⟩ := Prod.mk.inj rest
  rw [home?, home?, id, group, priority]

@[simp] theorem home?_modifyGroup (s : System κ) (g : GroupRef) (f : Group → Group) :
    (s.modifyGroup g f).home? roster tasks = s.home? roster tasks := rfl

theorem home?_insert (new : tasks.find? (s.routine r).id = none)
    (group : roster.find? (s.routine r).group = some g) (q : RoutineRef) :
    s.home? roster (tasks.insert (s.routine r).id r) q =
      if q = r then some (g, levelOf (s.routine r).priority) else s.home? roster tasks q := by
  have found := TaskTable.find?_insert new r (s.routine q).id
  by_cases hq : q = r
  · subst hq
    rw [if_pos rfl] at found ⊢
    exact home?_eq_some found group
  · rw [if_neg hq]
    by_cases hid : (s.routine q).id = (s.routine r).id
    · -- Another routine with this id is not the one that the table gives, neither before nor after.
      have after : (tasks.insert (s.routine r).id r).find? (s.routine q).id ≠ some q := by
        rw [found, if_pos hid]
        exact fun heq => hq (Option.some.inj heq).symm
      have before : tasks.find? (s.routine q).id ≠ some q := by
        rw [hid, new]
        exact nofun
      rw [home?_eq_none after, home?_eq_none before]
    · rw [home?, home?, found, if_neg hid]

theorem home?_erase (found : tasks.find? id = some r) (own : (s.routine r).id = id)
    (q : RoutineRef) :
    s.home? roster (tasks.erase id) q =
      if q = r then none else s.home? roster tasks q := by
  have left := TaskTable.find?_erase tasks id (s.routine q).id
  by_cases hq : q = r
  · subst hq
    rw [if_pos own] at left
    rw [if_pos rfl, home?_eq_none (left ▸ nofun)]
  · rw [if_neg hq]
    by_cases hid : (s.routine q).id = id
    · have before : tasks.find? (s.routine q).id ≠ some q := by
        rw [hid, found]
        exact fun heq => hq (Option.some.inj heq).symm
      rw [if_pos hid] at left
      rw [home?_eq_none before, home?_eq_none (left ▸ nofun)]
    · rw [home?, home?, left, if_neg hid]

theorem levelOf_val {priority : Nat} (h : priority < maxPrio) :
    (levelOf priority).val = priority :=
  Nat.min_eq_left (Nat.le_sub_one_of_lt h)

/-! ## 2. What keeps the placement keeps the agreement -/

theorem Hosts.of_names (h : s.Hosts roster) (size : s'.groups.size = s.groups.size)
    (name : ∀ g, (s'.group g).name = (s.group g).name) : s'.Hosts roster := by
  refine ⟨h.nodup, ?_, ?_, ?_, h.default⟩
  · intro g hg
    rw [size]
    exact h.bound g hg
  · intro g hg
    rw [name]
    exact h.known g hg
  · intro _ g found
    rw [name]
    exact h.name found

theorem IsTask.congr (h : s.IsTask roster id r) (size : s.routines.size ≤ s'.routines.size)
    (same : (s'.routine r).placement = (s.routine r).placement) : s'.IsTask roster id r := by
  obtain ⟨id, rest⟩ := Prod.mk.inj same
  obtain ⟨group, priority⟩ := Prod.mk.inj rest
  refine ⟨Nat.lt_of_lt_of_le h.bound size, ?_, ?_, ?_⟩
  · exact id.trans h.id
  · exact priority ▸ h.priority
  · exact group ▸ h.group

namespace Consistent

/-- Only the slots and the placement of live routines matter. A routine that is not live is in no
queue, before and after, whatever its fields say. -/
theorem of_live (h : s.Consistent roster tasks) (slots : KeepsSlots s s')
    (size : s.routines.size ≤ s'.routines.size)
    (same : ∀ {id r}, tasks.find? id = some r →
      (s'.routine r).placement = (s.routine r).placement) : s'.Consistent roster tasks where
  hosts := h.hosts.of_names slots.size slots.name
  nodup := h.nodup
  task found := (h.task found).congr size (same found)
  slots g hg l r := by
    rw [slots.queue, h.slots g hg l r]
    by_cases live : ∃ id, tasks.find? id = some r
    · obtain ⟨id, found⟩ := live
      rw [home?_congr (same found)]
    · have absent : ∀ id, tasks.find? id ≠ some r := fun id found => live ⟨id, found⟩
      rw [home?_eq_none (absent _), home?_eq_none (absent _)]

theorem of_keeps (h : s.Consistent roster tasks) (slots : KeepsSlots s s')
    (keeps : Keeps Routine.placement s s') : s'.Consistent roster tasks :=
  h.of_live slots keeps.size fun found => keeps.routine _ (h.task found).bound

theorem of_frame (h : s.Consistent roster tasks) (frame : Frame Routine.placement s s') :
    s'.Consistent roster tasks :=
  h.of_keeps frame.slots frame.routines

/-- Every queued routine is in the table, under its own id, and queued where it should be. -/
theorem home?_of_mem (h : s.Consistent roster tasks) (hg : g ∈ roster.refs) {l : Priority}
    (mem : r ∈ (s.group g).queue l) : s.home? roster tasks r = some (g, l) := by
  have count := h.slots g hg l r
  have pos := List.count_pos_iff.mpr mem
  split at count
  · assumption
  · rw [count] at pos
    exact absurd pos (Nat.lt_irrefl 0)

theorem mem_of_home? (h : s.Consistent roster tasks) (hg : g ∈ roster.refs) {l : Priority}
    (home : s.home? roster tasks r = some (g, l)) : r ∈ (s.group g).queue l := by
  have count := h.slots g hg l r
  rw [if_pos home] at count
  exact List.count_pos_iff.mp (count ▸ Nat.one_pos)

theorem find?_of_mem (h : s.Consistent roster tasks) (hg : g ∈ roster.refs) {l : Priority}
    (mem : r ∈ (s.group g).queue l) : tasks.find? (s.routine r).id = some r :=
  find?_of_home? (h.home?_of_mem hg mem)

/-- A live task has a home, in a group of the roster. -/
theorem home?_of_find? (h : s.Consistent roster tasks) (found : tasks.find? id = some r) :
    ∃ g ∈ roster.refs, roster.find? (s.routine r).group = some g ∧
      s.home? roster tasks r = some (g, levelOf (s.routine r).priority) := by
  have task := h.task found
  obtain ⟨g, group⟩ := task.group
  have live : tasks.find? (s.routine r).id = some r := task.id.symm ▸ found
  exact ⟨g, Roster.mem_refs_of_find? group, group, home?_eq_some live group⟩

end Consistent

/-! ## 3. Queueing and taking out -/

theorem group_enqueue_name (s : System κ) (g g' : GroupRef) (r : RoutineRef) :
    ((s.enqueue g r).group g').name = (s.group g').name := by
  unfold enqueue
  rw [group_modifyGroup]
  split <;> rfl

theorem queue_enqueue (s : System κ) (hg : g < s.groups.size) (r : RoutineRef) (g' : GroupRef)
    (l : Priority) :
    ((s.enqueue g r).group g').queue l = if (g, levelOf (s.routine r).priority) = (g', l) then
      (s.group g').queue l ++ [r] else (s.group g').queue l := by
  unfold enqueue
  rw [group_modifyGroup]
  by_cases heq : g = g'
  · subst heq
    rw [if_pos ⟨rfl, hg⟩, Group.queue_insert]
    by_cases hl : levelOf (s.routine r).priority = l
    · rw [if_pos hl, if_pos (by rw [hl]), hl]
    · rw [if_neg hl, if_neg (fun hc => hl (Prod.mk.inj hc).2)]
  · rw [if_neg (fun hc => heq hc.1), if_neg (fun hc => heq (Prod.mk.inj hc).1)]

theorem group_eraseAt_name (s : System κ) (g g' : GroupRef) (l : Priority) (position : Nat) :
    ((s.modifyGroup g (·.eraseAt l position)).group g').name = (s.group g').name := by
  rw [group_modifyGroup]
  split <;> rfl

theorem queue_eraseAt (s : System κ) (hg : g < s.groups.size) (level : Priority) (position : Nat)
    (g' : GroupRef) (l : Priority) :
    ((s.modifyGroup g (·.eraseAt level position)).group g').queue l =
      if (g, level) = (g', l) then ((s.group g').queue l).eraseIdx position
      else (s.group g').queue l := by
  rw [group_modifyGroup]
  by_cases heq : g = g'
  · subst heq
    rw [if_pos ⟨rfl, hg⟩]
    simp only [Group.eraseAt, Group.queue_setQueue]
    by_cases hl : level = l
    · rw [if_pos hl, if_pos (by rw [hl]), hl]
    · rw [if_neg hl, if_neg (fun hc => hl (Prod.mk.inj hc).2)]
  · rw [if_neg (fun hc => heq hc.1), if_neg (fun hc => heq (Prod.mk.inj hc).1)]

namespace Consistent

/-- A routine that is not live is in no queue, so its id can be entered with one new slot. -/
theorem enter (h : s.Consistent roster tasks) (new : tasks.find? (s.routine r).id = none)
    (bound : r < s.routines.size) (priority : (s.routine r).priority < maxPrio)
    (group : roster.find? (s.routine r).group = some g) :
    (s.enqueue g r).Consistent roster (tasks.insert (s.routine r).id r) where
  hosts := h.hosts.of_names (Arena.size_modify ..) fun g' => group_enqueue_name s g g' r
  nodup := TaskTable.nodup_insert h.nodup new r
  task found := by
    rw [TaskTable.find?_insert new] at found
    split at found
    · next heq =>
      cases found
      exact ⟨bound, heq.symm, priority, g, group⟩
    · exact (h.task found).congr (Nat.le_refl _) rfl
  slots g' hg' l q := by
    have hg : g < s.groups.size := h.hosts.bound g (Roster.mem_refs_of_find? group)
    have old := h.slots g' hg' l q
    have home : (s.enqueue g r).home? roster (tasks.insert (s.routine r).id r) q = _ :=
      home?_insert new group q
    rw [queue_enqueue s hg, home]
    by_cases hq : q = r
    · -- The new slot is the only one of `r`.
      subst hq
      have before : tasks.find? (s.routine q).id ≠ some q := new ▸ nofun
      rw [home?_eq_none before, if_neg nofun] at old
      rw [if_pos rfl]
      split
      · next hc => rw [if_pos (congrArg some hc), List.count_append, old, List.count_singleton_self]
      · next hc => rw [if_neg (fun heq => hc (Option.some.inj heq)), old]
    · rw [if_neg hq, ← old]
      split
      · rw [List.count_append, List.count_eq_zero.mpr (fun hc => hq (List.mem_singleton.mp hc)),
          Nat.add_zero]
      · rfl

/-- A live routine has one slot, so without that slot its id can be erased. -/
theorem leave (h : s.Consistent roster tasks) (found : tasks.find? id = some r)
    (group : roster.find? (s.routine r).group = some g) {level : Priority}
    (hl : levelOf (s.routine r).priority = level) {position : Nat}
    (slot : ((s.group g).queue level)[position]? = some r) :
    (s.modifyGroup g (·.eraseAt level position)).Consistent roster (tasks.erase id) where
  hosts := h.hosts.of_names (Arena.size_modify ..) fun g' => group_eraseAt_name s g g' level position
  nodup := TaskTable.nodup_erase h.nodup id
  task kept := by
    rw [TaskTable.find?_erase] at kept
    split at kept
    · cases kept
    · exact (h.task kept).congr (Nat.le_refl _) rfl
  slots g' hg' l q := by
    have hg : g < s.groups.size := h.hosts.bound g (Roster.mem_refs_of_find? group)
    have own := (h.task found).id
    have old := h.slots g' hg' l q
    obtain ⟨inside, at_position⟩ := List.getElem?_eq_some_iff.mp slot
    -- How often a routine is counted, with the slot and without it.
    have taken := (List.getElem_cons_eraseIdx_perm inside).count_eq q
    rw [at_position, List.count_cons] at taken
    rw [queue_eraseAt s hg, home?_modifyGroup, home?_erase found own]
    by_cases hq : q = r
    · subst hq
      have live : tasks.find? (s.routine q).id = some q := own.symm ▸ found
      rw [home?_eq_some live group, hl] at old
      rw [if_pos rfl, if_neg (Option.some_ne_none (g', l)).symm]
      split
      · next hc =>
        obtain ⟨rfl, rfl⟩ := Prod.mk.inj hc
        rw [if_pos rfl] at old
        rw [if_pos (beq_self_eq_true q), old] at taken
        exact Nat.succ.inj taken
      · next hc => rw [old, if_neg (fun heq => hc (Option.some.inj heq))]
    · rw [if_neg hq, ← old]
      split
      · next hc =>
        obtain ⟨rfl, rfl⟩ := Prod.mk.inj hc
        rw [if_neg (fun heq => hq (eq_of_beq heq).symm), Nat.add_zero] at taken
        exact taken
      · rfl

/-! ## 4. Counting -/

theorem nodup_queue (h : s.Consistent roster tasks) (hg : g ∈ roster.refs) (l : Priority) :
    ((s.group g).queue l).Nodup := by
  rw [List.nodup_iff_count_le_one]
  intro r
  rw [h.slots g hg l r]
  split
  · exact Nat.le_refl 1
  · exact Nat.zero_le 1

theorem nodup_slots (h : s.Consistent roster tasks) (hg : g ∈ roster.refs) :
    (s.group g).slots.Nodup := by
  refine List.nodup_flatMap.mpr ⟨fun l _ => h.nodup_queue hg l, ?_⟩
  refine List.Pairwise.imp ?_ (List.nodup_reverse.mpr (List.nodup_finRange maxPrio))
  intro l l' hne r mem mem'
  have home := h.home?_of_mem hg mem
  rw [h.home?_of_mem hg mem'] at home
  exact hne (Prod.mk.inj (Option.some.inj home)).2.symm

/-- The slots of all groups together. -/
def allSlots (s : System κ) (roster : Roster) : List RoutineRef :=
  roster.refs.flatMap fun g => (s.group g).slots

theorem mem_slots {x : Group} : r ∈ x.slots ↔ ∃ l, r ∈ x.queue l := by
  unfold Group.slots Group.order
  simp

theorem nodup_allSlots (h : s.Consistent roster tasks) : (allSlots s roster).Nodup := by
  refine List.nodup_flatMap.mpr ⟨fun g hg => h.nodup_slots hg, ?_⟩
  refine h.hosts.nodup.imp_of_mem ?_
  intro g g' hg hg' hne r mem mem'
  obtain ⟨l, mem⟩ := mem_slots.mp mem
  obtain ⟨l', mem'⟩ := mem_slots.mp mem'
  have home := h.home?_of_mem hg mem
  rw [h.home?_of_mem hg' mem'] at home
  exact hne (Prod.mk.inj (Option.some.inj home)).1.symm

theorem mem_allSlots_iff (h : s.Consistent roster tasks) :
    r ∈ allSlots s roster ↔ ∃ id, tasks.find? id = some r := by
  constructor
  · intro mem
    obtain ⟨g, hg, mem⟩ := List.mem_flatMap.mp mem
    obtain ⟨l, mem⟩ := mem_slots.mp mem
    exact ⟨_, h.find?_of_mem hg mem⟩
  · rintro ⟨id, found⟩
    obtain ⟨g, hg, -, home⟩ := h.home?_of_find? found
    exact List.mem_flatMap.mpr ⟨g, hg, mem_slots.mpr ⟨_, h.mem_of_home? hg home⟩⟩

/-- Different ids belong to different routines. -/
theorem nodup_routines (h : s.Consistent roster tasks) : (tasks.entries.map (·.2)).Nodup := by
  have entries : tasks.entries.Nodup := List.Nodup.of_map _ h.nodup
  refine entries.map_on ?_
  rintro ⟨id, r⟩ mem ⟨id', r'⟩ mem' heq
  cases heq
  have own := (h.task ((TaskTable.mem_entries_iff h.nodup).mp mem)).id
  have own' := (h.task ((TaskTable.mem_entries_iff h.nodup).mp mem')).id
  rw [← own, ← own']

/-- The number of live tasks is the number of slots over all groups. -/
theorem size_eq_sum (h : s.Consistent roster tasks) :
    tasks.size = (roster.refs.map fun g => (s.group g).size).sum := by
  -- Both list the live routines, and neither lists one twice.
  have perm : (tasks.entries.map (·.2)).Perm (allSlots s roster) := by
    rw [List.perm_ext_iff_of_nodup h.nodup_routines h.nodup_allSlots]
    intro r
    rw [h.mem_allSlots_iff, List.mem_map]
    constructor
    · rintro ⟨⟨id, q⟩, mem, rfl⟩
      exact ⟨id, (TaskTable.mem_entries_iff h.nodup).mp mem⟩
    · rintro ⟨id, found⟩
      exact ⟨(id, r), (TaskTable.mem_entries_iff h.nodup).mpr found, rfl⟩
  have length := perm.length_eq
  rw [List.length_map, allSlots, List.length_flatMap] at length
  exact length

end Consistent

end System

end CoopSched
