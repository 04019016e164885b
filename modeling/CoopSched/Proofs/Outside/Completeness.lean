import CoopSched.Proofs.Outside.Adjusting
import CoopSched.Proofs.Tasks.Runs
/-!
# Which removals are complete

Every live routine is queued somewhere, but its removal looks in one place only. So it leaves no slot of its
routine exactly if the routine's only slot is the one that it finds there, and the tasks and the slots are
counted alike after it exactly if it takes a slot away (`removal_complete_iff`).

For a task that was queued in its place this says that the changed priority and group name still mean that
place (`removal_after_change`).
-/

namespace CoopSched

namespace System

variable {κ : Type} {s s' : System κ} {sched : Scheduler} {roster : Roster} {tasks : TaskTable}
  {id : UInt64} {r : RoutineRef} {g : GroupRef} {t : Thread}

/-! ## 1. Where a routine is looked for -/

/-- The group and the level in which a removal looks for a routine. -/
def sought (s : System κ) (roster : Roster) (r : RoutineRef) : GroupRef × Priority :=
  (roster.findOrDefault (s.routine r).group, levelOf (s.routine r).priority)

/-- The only slot of a routine is the one that a removal finds: in its place, before those of other routines
with its id. -/
structure Findable (s : System κ) (roster : Roster) (r : RoutineRef) : Prop where
  first : s.first? (s.sought roster r).1 r = some r
  only : ∀ g ∈ roster.refs, ∀ l,
    ((s.group g).queue l).count r = if s.sought roster r = (g, l) then 1 else 0

/-- The routine is in no level of any group. -/
def Unqueued (s : System κ) (roster : Roster) (r : RoutineRef) : Prop :=
  ∀ g ∈ roster.refs, ∀ l, r ∉ (s.group g).queue l

/-- What is counted if the slot of one routine is taken away. -/
theorem count_eraseIdx {queue : List RoutineRef} {position : Nat} {target : RoutineRef}
    (there : queue[position]? = some target) (r : RoutineRef) :
    queue.count r = (queue.eraseIdx position).count r + if target = r then 1 else 0 := by
  obtain ⟨inside, at_position⟩ := List.getElem?_eq_some_iff.mp there
  rw [← (List.getElem_cons_eraseIdx_perm inside).count_eq r, at_position, List.count_cons]
  simp only [beq_iff_eq]

/-- A slot of a queued routine is taken away. No slot of it is left exactly if this was its only one. -/
theorem unqueued_iff (hosts : s.Hosts roster) (hg : g ∈ roster.refs) {l : Priority} {position : Nat}
    {target : RoutineRef} (there : ((s.group g).queue l)[position]? = some target)
    (queued : ∃ g ∈ roster.refs, ∃ l, r ∈ (s.group g).queue l) :
    (s.modifyGroup g (·.eraseAt l position)).Unqueued roster r ↔
      target = r ∧ ∀ g' ∈ roster.refs, ∀ l',
        ((s.group g').queue l').count r = if (g, l) = (g', l') then 1 else 0 := by
  have queues := queue_eraseAt s (hosts.bound g hg) l position
  have counted := count_eraseIdx there r
  constructor
  · intro none
    have others : ∀ g' ∈ roster.refs, ∀ l', (g, l) ≠ (g', l') → ((s.group g').queue l').count r = 0 := by
      intro g' hg' l' other
      have absent := none g' hg' l'
      rw [queues, if_neg other] at absent
      exact List.count_eq_zero.mpr absent
    have erased : (((s.group g).queue l).eraseIdx position).count r = 0 := by
      have absent := none g hg l
      rw [queues, if_pos rfl] at absent
      exact List.count_eq_zero.mpr absent
    have own : target = r := by
      by_contra other
      obtain ⟨g', hg', l', mem⟩ := queued
      have positive := List.count_pos_iff.mpr mem
      by_cases same : (g, l) = (g', l')
      · cases same
        rw [counted, erased, if_neg other] at positive
        exact Nat.lt_irrefl 0 positive
      · exact Nat.ne_of_gt positive (others g' hg' l' same)
    refine ⟨own, fun g' hg' l' => ?_⟩
    split
    · next same =>
      cases same
      rw [counted, erased, if_pos own]
    · next other => exact others g' hg' l' other
  · rintro ⟨own, only⟩ g' hg' l'
    rw [queues, ← List.count_eq_zero]
    have count := only g' hg' l'
    split
    · next same =>
      cases same
      rw [if_pos rfl, counted, if_pos own] at count
      exact Nat.succ.inj count
    · next other =>
      rw [if_neg other] at count
      exact count

theorem placement_dismissed (s : System κ) (id : UInt64) (r q : RoutineRef) :
    ((s.dismissed id r).routine q).placement = (s.routine q).placement :=
  view_stop Routine.placement_ignoresStatus s r q

/-- A dismissed routine is sought in the same place, among the same routines. -/
theorem first?_dismissed (s : System κ) (id : UInt64) (r : RoutineRef) (g : GroupRef) :
    (s.dismissed id r).first? g r = s.first? g r := by
  have ids : ∀ x, ((s.dismissed id r).routine x).id = (s.routine x).id :=
    fun x => congrArg Prod.fst (placement_dismissed s id r x)
  have priority : ((s.dismissed id r).routine r).priority = (s.routine r).priority :=
    congrArg (fun place => place.2.2) (placement_dismissed s id r r)
  simp only [first?, ids, priority]
  rfl

/-- All that the removal of a live routine can do to the slots. -/
inductive Unlinks (s : System κ) (roster : Roster) (r : RoutineRef) : System κ → Removal → Prop
  | absent {s' : System κ} (first : s.first? (s.sought roster r).1 r = none) (slots : KeepsSlots s s') :
      Unlinks s roster r s' .absent
  | waits {s' : System κ} {target : RoutineRef} (first : s.first? (s.sought roster r).1 r = some target)
      (held : (s.routine target).holder ≠ none) (slots : KeepsSlots s s') :
      Unlinks s roster r s' (.waits (s.sought roster r).1 r target)
  | removed {s' : System κ} {target : RoutineRef} {position : Nat}
      (first : s.first? (s.sought roster r).1 r = some target)
      (there : ((s.group (s.sought roster r).1).queue (s.sought roster r).2)[position]? = some target)
      (slots : KeepsSlots
        (s.modifyGroup (s.sought roster r).1 (·.eraseAt (s.sought roster r).2 position)) s') :
      Unlinks s roster r s' .removed

theorem unlinks (hs : s.scheduler = some sched) (found : sched.tasks.find? id = some r) (t : Thread) :
    s.Unlinks sched.roster r (s.removeById t id).1 (s.removeById t id).2 := by
  have level : levelOf ((s.dismissed id r).routine r).priority = (s.sought sched.roster r).2 :=
    congrArg (fun place => levelOf place.2.2) (placement_dismissed s id r r)
  have holders : ∀ q, ((s.dismissed id r).routine q).holder = (s.routine q).holder :=
    view_stop holder_ignoresStatus s r
  have removes := removes id_ignoresStatus id_ignoresHolder (s.dismissed id r) t (s.sought sched.roster r).1 r
  rw [removeById_eq_dismissed hs found t]
  show s.Unlinks sched.roster r ((s.dismissed id r).removeRoutine t (s.sought sched.roster r).1 r).1
    ((s.dismissed id r).removeRoutine t (s.sought sched.roster r).1 r).2
  generalize ((s.dismissed id r).removeRoutine t (s.sought sched.roster r).1 r).1 = s',
    ((s.dismissed id r).removeRoutine t (s.sought sched.roster r).1 r).2 = outcome at removes
  have same : KeepsSlots s (s.dismissed id r) := .of_groups_eq rfl
  cases removes with
  | absent first => exact .absent (first?_dismissed s id r _ ▸ first) same
  | waits first held frame =>
    exact .waits (first?_dismissed s id r _ ▸ first) (holders _ ▸ held) (same.trans frame.slots)
  | @removed _ target position first free there frame =>
    rw [level] at there frame
    have erased : KeepsSlots
        (s.modifyGroup (s.sought sched.roster r).1 (·.eraseAt (s.sought sched.roster r).2 position))
        ((s.dismissed id r).modifyGroup (s.sought sched.roster r).1
          (·.eraseAt (s.sought sched.roster r).2 position)) := .of_groups_eq rfl
    exact .removed (first?_dismissed s id r _ ▸ first) there (erased.trans frame.slots)

theorem Unqueued.of_slots (slots : KeepsSlots s s') : s'.Unqueued roster r ↔ s.Unqueued roster r := by
  simp only [Unqueued, slots.queue]

/-- The removal of a live routine that nobody holds succeeds, and leaves no slot of the routine, exactly if the
routine can be found by it. -/
theorem Registered.complete_iff (h : s.Registered sched.roster sched.tasks) (hs : s.scheduler = some sched)
    (found : sched.tasks.find? id = some r) (free : (s.routine r).holder = none) (t : Thread) :
    (s.removeById t id).2.succeeded = true ∧ (s.removeById t id).1.Unqueued sched.roster r ↔
      s.Findable sched.roster r := by
  have hg : (s.sought sched.roster r).1 ∈ sched.roster.refs := Roster.findOrDefault_mem h.hosts.default _
  have unlinks := unlinks hs found t
  generalize (s.removeById t id).1 = s', (s.removeById t id).2 = outcome at unlinks ⊢
  cases unlinks with
  | absent first =>
    refine ⟨fun complete => (nomatch complete.1), fun findable => ?_⟩
    exact nomatch first.symm.trans findable.first
  | waits first held =>
    refine ⟨fun complete => (nomatch complete.1), fun findable => ?_⟩
    cases first.symm.trans findable.first
    exact absurd free held
  | removed first there slots =>
    rw [Unqueued.of_slots slots, unqueued_iff h.hosts hg there (h.queued found)]
    constructor
    · rintro ⟨-, rfl, only⟩
      exact ⟨first, only⟩
    · rintro ⟨own, only⟩
      exact ⟨rfl, Option.some.inj (first.symm.trans own), only⟩

/-! ## 2. Counting -/

/-- There are as many live tasks as slots. -/
def Counted (s : System κ) (sched : Scheduler) : Prop :=
  sched.tasks.size = (sched.roster.refs.map fun g => (s.group g).size).sum

/-- One number of a list without repetitions is one less, and the others are the same. -/
theorem sum_map_of_lowered {α : Type} {as : List α} (f f' : α → Nat) {a : α} (nodup : as.Nodup)
    (mem : a ∈ as) (here : f' a + 1 = f a) (others : ∀ b ≠ a, f' b = f b) :
    (as.map f').sum + 1 = (as.map f).sum := by
  induction as with
  | nil => cases mem
  | cons b rest ih =>
    obtain ⟨absent, nodup⟩ := List.nodup_cons.mp nodup
    simp only [List.map_cons, List.sum_cons]
    rcases List.mem_cons.mp mem with rfl | mem
    · have same : rest.map f' = rest.map f :=
        List.map_congr_left fun b hb => others b fun eq => absent (eq ▸ hb)
      rw [same]
      omega
    · rw [others b fun eq => absent (eq ▸ mem), Nat.add_assoc, ih nodup mem]

theorem size_eq_sum_levels (x : Group) : x.size = (Group.order.map fun l => (x.queue l).length).sum := by
  rw [Group.size, Group.slots, List.length_flatMap]

theorem size_eraseAt {x : Group} {l : Priority} {position : Nat} {target : RoutineRef}
    (there : (x.queue l)[position]? = some target) : (x.eraseAt l position).size + 1 = x.size := by
  obtain ⟨inside, -⟩ := List.getElem?_eq_some_iff.mp there
  rw [size_eq_sum_levels, size_eq_sum_levels]
  refine sum_map_of_lowered _ _ (List.nodup_reverse.mpr (List.nodup_finRange maxPrio)) (a := l) ?_ ?_ ?_
  · simp [Group.order]
  · simp only [Group.eraseAt, Group.queue_setQueue, if_pos, List.length_eraseIdx_of_lt inside]
    omega
  · intro b other
    simp only [Group.eraseAt, Group.queue_setQueue, if_neg (Ne.symm other)]

theorem KeepsSlots.size_eq (slots : KeepsSlots s s') (g : GroupRef) : (s'.group g).size = (s.group g).size := by
  simp only [size_eq_sum_levels, slots.queue]

theorem size_erase (nodup : tasks.ids.Nodup) (found : tasks.find? id = some r) :
    (tasks.erase id).size + 1 = tasks.size := by
  have once : tasks.entries.countP (fun e => e.1 == id) = 1 := by
    have mem : id ∈ tasks.ids := List.mem_map_of_mem ((TaskTable.mem_entries_iff nodup).mpr found)
    have count := List.count_eq_one_of_mem nodup mem
    rw [TaskTable.ids, List.count, List.countP_map] at count
    exact count
  have all := List.length_eq_countP_add_countP (fun e => e.1 == id) (l := tasks.entries)
  rw [once] at all
  have rest : (tasks.erase id).size = tasks.entries.countP fun e => ¬ (e.1 == id) = true := by
    rw [TaskTable.size, TaskTable.erase, ← List.countP_eq_length_filter]
    refine List.countP_congr fun e _ => ?_
    simp
  rw [rest, TaskTable.size]
  omega

/-- If tasks and slots were counted alike before the removal of a live routine, then they are after it exactly
if it succeeds. -/
theorem Registered.counted_iff (h : s.Registered sched.roster sched.tasks) (hs : s.scheduler = some sched)
    (found : sched.tasks.find? id = some r) (counted : s.Counted sched) (t : Thread) :
    (s.removeById t id).1.Counted { sched with tasks := sched.tasks.erase id } ↔
      (s.removeById t id).2.succeeded = true := by
  have erased := size_erase h.nodup found
  have hg : (s.sought sched.roster r).1 ∈ sched.roster.refs := Roster.findOrDefault_mem h.hosts.default _
  have unlinks := unlinks hs found t
  generalize (s.removeById t id).1 = s', (s.removeById t id).2 = outcome at unlinks ⊢
  unfold Counted at counted ⊢
  dsimp only
  have uncounted : KeepsSlots s s' →
      (sched.tasks.erase id).size ≠ (sched.roster.refs.map fun g => (s'.group g).size).sum := by
    intro slots
    simp only [slots.size_eq]
    omega
  cases unlinks with
  | absent _ slots => exact iff_of_false (uncounted slots) nofun
  | waits _ _ slots => exact iff_of_false (uncounted slots) nofun
  | removed _ there slots =>
    have lowered : (sched.roster.refs.map fun g => (s'.group g).size).sum + 1 =
        (sched.roster.refs.map fun g => (s.group g).size).sum := by
      refine sum_map_of_lowered _ _ h.hosts.nodup hg ?_ fun g other => ?_
      · rw [slots.size_eq, group_modifyGroup, if_pos ⟨rfl, h.hosts.bound _ hg⟩]
        exact size_eraseAt there
      · rw [slots.size_eq, group_modifyGroup, if_neg fun same => other same.1.symm]
    exact iff_of_true (by omega) rfl

/-- The priority and the group name of a routine are changed. -/
def relocated (s : System κ) (r : RoutineRef) (priority : Nat) (group : String) : System κ :=
  s.modifyRoutine r fun x => { x with priority, group }

theorem id_relocated (s : System κ) (r : RoutineRef) (priority : Nat) (group : String) (q : RoutineRef) :
    ((s.relocated r priority group).routine q).id = (s.routine q).id := by
  rw [relocated, routine_modifyRoutine]
  split <;> rfl

/-- While table and queues agree, a routine can be found in its place. If its priority and its group name are
changed then, it can be found exactly if they mean the same place. -/
theorem Consistent.findable_relocated_iff (h : s.Consistent roster tasks) (found : tasks.find? id = some r)
    (priority : Nat) (group : String) :
    (s.relocated r priority group).Findable roster r ↔
      (s.relocated r priority group).sought roster r = s.sought roster r := by
  obtain ⟨home, -, named, place⟩ := h.home?_of_find? found
  have counts : ∀ g ∈ roster.refs, ∀ l,
      ((s.group g).queue l).count r = if s.sought roster r = (g, l) then 1 else 0 := by
    intro g hg l
    rw [h.slots g hg l r, place, sought, Roster.findOrDefault_of_find? named]
    exact if_congr Option.some_inj rfl rfl
  have known : ∀ s : System κ, (s.sought roster r).1 ∈ roster.refs :=
    fun s => Roster.findOrDefault_mem h.hosts.default _
  generalize after : s.relocated r priority group = s'
  have ids : ∀ q, (s'.routine q).id = (s.routine q).id := after ▸ id_relocated s r priority group
  have queues : s'.group = s.group := by rw [← after]; rfl
  constructor
  · intro findable
    have here := findable.only _ (known s') (s'.sought roster r).2
    rw [if_pos rfl, queues, counts _ (known s')] at here
    split at here
    · next same => exact same.symm
    · cases here
  · intro same
    refine ⟨?_, fun g hg l => by rw [queues, same]; exact counts g hg l⟩
    have level : levelOf (s'.routine r).priority = (s.sought roster r).2 := congrArg Prod.snd same
    have here := counts _ (known s) (s.sought roster r).2
    rw [if_pos rfl] at here
    have mem : r ∈ (s.group (s.sought roster r).1).queue (s.sought roster r).2 :=
      List.count_pos_iff.mp (here ▸ Nat.one_pos)
    have live : tasks.find? (s.routine r).id = some r := (h.task found).id.symm ▸ found
    simp only [first?, level, same, queues, ids]
    obtain ⟨q, first⟩ : ∃ q, ((s.group (s.sought roster r).1).queue (s.sought roster r).2).find?
        (fun x => (s.routine x).id == (s.routine r).id) = some q :=
      Option.isSome_iff_exists.mp (List.find?_isSome.mpr ⟨r, mem, beq_self_eq_true _⟩)
    have only : q = r := h.eq_of_id_eq (known s) (List.mem_of_find?_eq_some first) live
      (eq_of_beq (List.find?_some (p := fun x => (s.routine x).id == (s.routine r).id) first))
    rw [first, only]

end System

namespace Outside

variable {κ : Type} [Program κ] {s : System κ} {sched : Scheduler} {id : UInt64} {r : RoutineRef}

/-! ## 3. Runs -/

/-- Whatever changes of priorities and groups there were: the removal of a live routine that nobody holds
succeeds, and leaves no slot of the routine, exactly if its only slot is the one that the removal finds. And
if tasks and slots were counted alike before it, then they are after it exactly if it succeeds. -/
theorem removal_complete_iff (run : Reachable Adjusting s) (hs : s.scheduler = some sched)
    (found : sched.tasks.find? id = some r) (free : (s.routine r).holder = none) (t : Thread) :
    ((s.removeById t id).2.succeeded = true ∧ (s.removeById t id).1.Unqueued sched.roster r ↔
        s.Findable sched.roster r) ∧
      (s.removeById t id).1.scheduler = some { sched with tasks := sched.tasks.erase id } ∧
      (s.Counted sched →
        ((s.removeById t id).1.Counted { sched with tasks := sched.tasks.erase id } ↔
          (s.removeById t id).2.succeeded = true)) := by
  obtain ⟨current, there, listed⟩ := run.listed
  cases there.symm.trans hs
  refine ⟨listed.complete_iff hs found free t, ?_, fun counted => listed.counted_iff hs found counted t⟩
  rw [System.removeById_eq_dismissed hs found t, System.scheduler_removeRoutine]
  exact System.scheduler_dismissed hs id r

/-- A task whose priority and group were left alone up to now: after a change of both its removal is complete
exactly if they still mean the same place. -/
theorem removal_after_change (run : System.Reachable s) (hs : s.scheduler = some sched)
    (found : sched.tasks.find? id = some r) (free : (s.routine r).holder = none) (priority : Nat)
    (group : String) (t : Thread) :
    let changed := s.relocated r priority group
    ((changed.removeById t id).2.succeeded = true ∧
        (changed.removeById t id).1.Unqueued sched.roster r ↔
      changed.sought sched.roster r = s.sought sched.roster r) := by
  obtain ⟨current, there, agree⟩ := run.sound
  cases there.symm.trans hs
  have listed : (s.relocated r priority group).Registered sched.roster sched.tasks :=
    agree.registered.of_keeps (.of_groups_eq rfl) (.modifyRoutine s r fun _ => rfl)
  have unheld : ((s.relocated r priority group).routine r).holder = none := by
    rw [System.relocated, System.routine_modifyRoutine]
    split <;> exact free
  exact (listed.complete_iff hs found unheld t).trans (agree.findable_relocated_iff found priority group)

/-! ## 4. A removal that is not complete -/

/-- One group without processors. -/
def oneGroup : SchedulerConf := { groups := [{ name := "g" }] }

/-- A task is dispatched, and then its priority is raised. -/
def raised : System Script :=
  let started := System.startScheduler {} .main oneGroup
  let added := Step.apply started .main (.operate (.newRoutine 7 "t" .finished))
  let queued := Step.apply added .main (.operate (.dispatch 0))
  Step.apply queued .main (.operate (.setPriority 0 5))

/-- Its scheduler. -/
def oneTask : Scheduler where
  policy := ⟨oneGroup.groups⟩
  roster := { groups := [("g", 0)], default := 0 }
  tasks := ⟨[(7, 0)]⟩

theorem scheduler_raised : raised.scheduler = some oneTask := rfl

theorem reachable_raised : Reachable Adjusting raised := by
  have started : Run Adjusting (System.startScheduler ({} : System Script) .main oneGroup) _ := .refl
  have added := started.step .main (.operate (.newRoutine 7 "t" .finished)) trivial
  have queued := added.step .main (.operate (.dispatch 0)) (show 0 < 1 from Nat.one_pos)
  exact ⟨{}, .main, oneGroup, queued.step .main (.operate (.setPriority 0 5)) trivial⟩

theorem found_raised : oneTask.tasks.find? 7 = some 0 := rfl

theorem refused_raised : (raised.removeById .main 7).2.succeeded = false := rfl

/-- The removal does not find the task at the level of its new priority. -/
theorem not_findable_raised : raised.scheduler = some oneTask ∧ oneTask.tasks.find? 7 = some 0 ∧
    (raised.routine 0).holder = none ∧ ¬ raised.Findable oneTask.roster 0 := by
  refine ⟨scheduler_raised, found_raised, rfl, fun findable => ?_⟩
  have complete :=
    (removal_complete_iff reachable_raised scheduler_raised found_raised rfl .main).1.mpr findable
  rw [refused_raised] at complete
  exact nomatch complete.1

/-- The removal is refused. The id is out of the table, and the slot is left. -/
theorem orphan_raised : Reachable Adjusting raised ∧ raised.scheduler = some oneTask ∧
    oneTask.stopped = false ∧ oneTask.tasks.find? 7 = some 0 ∧ (raised.routine 0).holder = none ∧
    (raised.removeById .main 7).2.succeeded = false ∧
    ¬ (raised.removeById .main 7).1.Unqueued oneTask.roster 0 ∧
    (raised.removeById .main 7).1.task? 7 = none ∧ ((raised.removeById .main 7).1.group 0).size = 1 := by
  refine ⟨reachable_raised, scheduler_raised, rfl, found_raised, rfl, refused_raised, fun unqueued => ?_,
    rfl, rfl⟩
  exact unqueued 0 (by decide) ⟨0, by decide⟩ (by decide)

end Outside

end CoopSched
