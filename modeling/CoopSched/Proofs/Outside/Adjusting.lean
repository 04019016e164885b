import CoopSched.Proofs.Outside.Machine
import CoopSched.Proofs.Tasks.Start
import CoopSched.Proofs.Turns.Tables
/-!
# Live routines are queued somewhere

A routine is queued where its priority and its group say when it is dispatched. Its removal looks for it where
they say then, and takes away the slot of the first routine with its id there (`Removes`).

If somebody changes priority or group in between, the table and the queues no longer agree on places. What is
left is `Registered`: every live routine has a slot in some group. Runs in which anybody may change priorities
and groups at any time keep that (`Reachable.listed`).
-/

namespace CoopSched

namespace System

variable {κ β : Type} {s s' : System κ} {sched : Scheduler} {roster : Roster} {tasks : TaskTable}
  {id : UInt64} {r : RoutineRef} {g : GroupRef} {view : Routine κ → β}

/-! ## 1. What a removal takes away -/

theorem id_ignoresStatus : IgnoresStatus (@Routine.id κ) :=
  ⟨fun _ _ => rfl, fun _ _ => rfl, fun _ _ => rfl, fun _ _ => rfl⟩

theorem id_ignoresHolder : IgnoresHolder (@Routine.id κ) := fun _ _ => rfl

theorem id_ignoresPlace : IgnoresPlace (@Routine.id κ) := fun _ _ _ => rfl

/-- The first routine with the id of `r` in the queue of a group at the level of `r`. -/
def first? (s : System κ) (g : GroupRef) (r : RoutineRef) : Option RoutineRef :=
  ((s.group g).queue (levelOf (s.routine r).priority)).find? fun x => (s.routine x).id == (s.routine r).id

theorem slotOf?_of_first? {target : RoutineRef} (first : s.first? g r = some target) :
    ∃ position, s.slotOf? g r = some (levelOf (s.routine r).priority, position, target) ∧
      ((s.group g).queue (levelOf (s.routine r).priority))[position]? = some target := by
  have found := first
  rw [first?, List.find?_eq_bind_findIdx?_getElem?, Option.bind_eq_some_iff] at found
  obtain ⟨position, index, there⟩ := found
  rw [first?] at first
  refine ⟨position, ?_, there⟩
  simp only [slotOf?, index, first]

theorem id_of_first? {target : RoutineRef} (first : s.first? g r = some target) :
    (s.routine target).id = (s.routine r).id :=
  eq_of_beq (List.find?_some (p := fun x => (s.routine x).id == (s.routine r).id) first)

theorem slotOf?_of_absent (absent : s.first? g r = none) : s.slotOf? g r = none := by
  rw [first?] at absent
  simp only [slotOf?, absent]
  split
  · next missing => cases missing
  · rfl

/-- A group that is not there has no slots. -/
theorem lt_of_slot {l : Priority} {position : Nat} (there : ((s.group g).queue l)[position]? = some r) :
    g < s.groups.size := by
  by_contra outside
  have unknown : s.group g = {} := Arena.get_of_size_le s.groups (Nat.le_of_not_lt outside)
  rw [unknown, queue_new] at there
  cases there

/-- All that a removal can do: it finds nothing, or it waits for the routine that it has found, or it takes that
routine's slot away. -/
inductive Removes (view : Routine κ → β) (s : System κ) (g : GroupRef) (r : RoutineRef) :
    System κ → Removal → Prop
  | absent (first : s.first? g r = none) : Removes view s g r s .absent
  | waits {s' : System κ} {target : RoutineRef} (first : s.first? g r = some target)
      (held : (s.routine target).holder ≠ none) (frame : Frame view s s') :
      Removes view s g r s' (.waits g r target)
  | removed {s' : System κ} {target : RoutineRef} {position : Nat} (first : s.first? g r = some target)
      (free : (s.routine target).holder = none)
      (there : ((s.group g).queue (levelOf (s.routine r).priority))[position]? = some target)
      (frame : Frame view (s.modifyGroup g (·.eraseAt (levelOf (s.routine r).priority) position)) s') :
      Removes view s g r s' .removed

theorem removes (hv : IgnoresStatus view) (hh : IgnoresHolder view) (s : System κ) (t : Thread)
    (g : GroupRef) (r : RoutineRef) :
    Removes view s g r (s.removeRoutine t g r).1 (s.removeRoutine t g r).2 := by
  cases first : s.first? g r with
  | none =>
    rw [removeRoutine_of_absent (slotOf?_of_absent first)]
    exact .absent first
  | some target =>
    obtain ⟨position, slot, there⟩ := slotOf?_of_first? first
    by_cases free : (s.routine target).holder = none
    · rw [removeRoutine_of_free slot free]
      -- The slot may as well be taken away before the routine is stopped and held.
      have taken := frame_seized hv hh
        (s.modifyGroup g (·.eraseAt (levelOf (s.routine r).priority) position)) t target
      exact .removed first free there (taken.trans (frame_release hh _ target))
    · rw [removeRoutine_of_held slot free]
      exact .waits first free ((frame_seized hv hh s t target).trans (frame_report _ t _))

/-! ## 2. Live routines have slots -/

/-- The table has known routines under their own ids, and each of them is queued somewhere. -/
structure Registered (s : System κ) (roster : Roster) (tasks : TaskTable) : Prop where
  hosts : s.Hosts roster
  nodup : tasks.ids.Nodup
  task : ∀ {id r}, tasks.find? id = some r → r < s.routines.size ∧ (s.routine r).id = id
  queued : ∀ {id r}, tasks.find? id = some r → ∃ g ∈ roster.refs, ∃ l, r ∈ (s.group g).queue l

theorem Consistent.registered (h : s.Consistent roster tasks) : s.Registered roster tasks where
  hosts := h.hosts
  nodup := h.nodup
  task found := ⟨(h.task found).bound, (h.task found).id⟩
  queued found := by
    obtain ⟨g, hg, -, home⟩ := h.home?_of_find? found
    exact ⟨g, hg, _, h.mem_of_home? hg home⟩

namespace Registered

theorem of_keeps (h : s.Registered roster tasks) (slots : KeepsSlots s s') (keeps : Keeps Routine.id s s') :
    s'.Registered roster tasks where
  hosts := h.hosts.of_names slots.size slots.name
  nodup := h.nodup
  task found := by
    obtain ⟨bound, own⟩ := h.task found
    exact ⟨Nat.lt_of_lt_of_le bound keeps.size, (keeps.routine _ bound).trans own⟩
  queued found := by
    obtain ⟨g, hg, l, mem⟩ := h.queued found
    exact ⟨g, hg, l, slots.queue g l ▸ mem⟩

theorem of_frame (h : s.Registered roster tasks) (frame : Frame Routine.id s s') :
    s'.Registered roster tasks :=
  h.of_keeps frame.slots frame.routines

theorem dismissed (h : s.Registered roster tasks) (id : UInt64) (r : RoutineRef) :
    (s.dismissed id r).Registered roster tasks := by
  have erased : Keeps Routine.id s
      (s.modifyScheduler fun sched => { sched with tasks := sched.tasks.erase id }) := .of_routines_eq rfl
  exact h.of_keeps (.of_groups_eq rfl) (erased.trans (.modifyRoutine _ r id_ignoresStatus.stop))

theorem erase (h : s.Registered roster tasks) (id : UInt64) : s.Registered roster (tasks.erase id) := by
  have before : ∀ {other r}, (tasks.erase id).find? other = some r → tasks.find? other = some r := by
    intro other r found
    rw [TaskTable.find?_erase] at found
    split at found
    · cases found
    · exact found
  exact ⟨h.hosts, TaskTable.nodup_erase h.nodup id, fun found => h.task (before found),
    fun found => h.queued (before found)⟩

/-- A slot may be taken away if the id of its routine is not live. -/
theorem eraseAt (h : s.Registered roster tasks) (hg : g < s.groups.size) {level : Priority} {position : Nat}
    {target : RoutineRef} (there : ((s.group g).queue level)[position]? = some target)
    (gone : tasks.find? (s.routine target).id = none) :
    (s.modifyGroup g (·.eraseAt level position)).Registered roster tasks where
  hosts := h.hosts.of_names (Arena.size_modify ..) fun g' => group_eraseAt_name s g g' level position
  nodup := h.nodup
  task found := h.task found
  queued {id r} found := by
    obtain ⟨g', hg', l, mem⟩ := h.queued found
    have other : r ≠ target := by
      rintro rfl
      rw [(h.task found).2, found] at gone
      cases gone
    refine ⟨g', hg', l, ?_⟩
    rw [queue_eraseAt s hg]
    split
    · next same =>
      obtain ⟨rfl, rfl⟩ := Prod.mk.inj same
      obtain ⟨inside, at_position⟩ := List.getElem?_eq_some_iff.mp there
      have perm := List.getElem_cons_eraseIdx_perm inside
      rw [at_position] at perm
      exact (List.mem_cons.mp (perm.mem_iff.mpr mem)).resolve_left other
    · exact mem

theorem removeRoutine (h : s.Registered roster tasks) (hg : g < s.groups.size)
    (gone : tasks.find? (s.routine r).id = none) (t : Thread) :
    (s.removeRoutine t g r).1.Registered roster tasks := by
  have removes := removes id_ignoresStatus id_ignoresHolder s t g r
  generalize (s.removeRoutine t g r).1 = s', (s.removeRoutine t g r).2 = outcome at removes
  cases removes with
  | absent => exact h
  | waits _ _ frame => exact h.of_frame frame
  | removed first _ there frame =>
    exact (h.eraseAt hg there ((id_of_first? first).symm ▸ gone)).of_frame frame

/-- A new slot for a routine whose id is entered. -/
theorem enter (h : s.Registered roster tasks) (new : tasks.find? (s.routine r).id = none)
    (hr : r < s.routines.size) (hg : g ∈ roster.refs) :
    (s.enqueue g r).Registered roster (tasks.insert (s.routine r).id r) where
  hosts := h.hosts.of_names (Arena.size_modify ..) fun g' => group_enqueue_name s g g' r
  nodup := TaskTable.nodup_insert h.nodup new r
  task found := by
    rw [TaskTable.find?_insert new] at found
    split at found
    · next same =>
      cases found
      exact ⟨hr, same.symm⟩
    · exact h.task found
  queued found := by
    have queue := queue_enqueue s (h.hosts.bound g hg) r
    rw [TaskTable.find?_insert new] at found
    split at found
    · cases found
      refine ⟨g, hg, levelOf (s.routine r).priority, ?_⟩
      rw [queue, if_pos rfl]
      exact List.mem_append_right _ List.mem_cons_self
    · obtain ⟨g', hg', l, mem⟩ := h.queued found
      refine ⟨g', hg', l, ?_⟩
      rw [queue]
      split
      · exact List.mem_append_left _ mem
      · exact mem

/-- Placing a routine changes its place, and then makes its slot. -/
theorem place (h : s.Registered sched.roster tasks) (new : tasks.find? (s.routine r).id = none)
    (hr : r < s.routines.size) (t : Thread) :
    (s.place t sched r).Registered sched.roster (tasks.insert (s.routine r).id r) := by
  have moved := relocates_settled s t sched r
  have keeps : Keeps Routine.id s (s.settled t sched r).1 := keeps_settled id_ignoresPlace s t sched r
  have home := Roster.mem_refs_of_find? (find?_settled h.hosts t hr)
  have entered := (h.of_keeps moved.slots keeps).enter (moved.id.symm ▸ new)
    (moved.size.symm ▸ hr) home
  rw [moved.id] at entered
  rw [place_eq]
  exact entered.of_frame (frame_notifyGroup _ _)

end Registered

/-- There is a scheduler, and every routine of its table has a slot. -/
def Listed (s : System κ) : Prop :=
  ∃ sched, s.scheduler = some sched ∧ s.Registered sched.roster sched.tasks

namespace Listed

theorem of_frame (h : s.Listed) (frame : Frame Routine.id s s') : s'.Listed := by
  obtain ⟨sched, hs, listed⟩ := h
  exact ⟨sched, frame.scheduler.trans hs, listed.of_frame frame⟩

theorem modifyScheduler (h : s.Listed) {f : Scheduler → Scheduler} (roster : ∀ x, (f x).roster = x.roster)
    (tasks : ∀ x, (f x).tasks = x.tasks) : (s.modifyScheduler f).Listed := by
  obtain ⟨sched, hs, listed⟩ := h
  refine ⟨f sched, congrArg (Option.map f) hs, ?_⟩
  rw [roster, tasks]
  exact listed.of_keeps (.of_groups_eq rfl) (.of_routines_eq rfl)

theorem addRoutine (h : s.Listed) (id : UInt64) (name : String) (work : Work κ) :
    (s.addRoutine id name work).1.Listed := by
  obtain ⟨sched, hs, listed⟩ := h
  exact ⟨sched, hs, listed.of_keeps (.of_groups_eq rfl) (.addRoutine s id name work)⟩

theorem addGroup (h : s.Listed) (name : String) : (s.addGroup name).1.Listed := by
  obtain ⟨sched, hs, listed⟩ := h
  refine ⟨sched, hs, listed.hosts.addGroup name, listed.nodup, listed.task, fun found => ?_⟩
  obtain ⟨g, hg, l, mem⟩ := listed.queued found
  exact ⟨g, hg, l, (listed.hosts.group_addGroup name hg).symm ▸ mem⟩

theorem dispatch (h : s.Listed) (t : Thread) (hr : r < s.routines.size) : (s.dispatch t r).1.Listed := by
  rcases dispatch_cases s t r with same | ⟨n, refused⟩ | ⟨sched, hs, new, placed⟩
  · rw [same]
    exact h
  · rw [refused]
    exact h.of_frame (frame_report s t n)
  · obtain ⟨current, there, listed⟩ := h
    cases hs.symm.trans there
    rw [placed]
    refine ⟨{ sched with tasks := sched.tasks.insert (s.routine r).id r }, ?_, ?_⟩
    · rw [place_scheduler]
      exact congrArg (Option.map _) hs
    · have claimed : (s.modifyScheduler fun sched =>
          { sched with tasks := sched.tasks.insert (s.routine r).id r }).Registered sched.roster sched.tasks :=
        listed.of_keeps (.of_groups_eq rfl) (.of_routines_eq rfl)
      exact claimed.place new hr t

theorem createTask (h : s.Listed) (t : Thread) (work : Work κ) (name : String)
    (source : Option QueueRef) : (s.createTask t work name source).1.Listed := by
  rcases createTask_cases s t work name source with same | ⟨n, refused⟩ | ⟨sched, after, went, done⟩
  · rw [same]
    exact h
  · rw [refused]
    exact h.of_frame (frame_report s t n)
  · have named : (s.modifyScheduler fun x => { x with names := (sched.names.register name).1 }).Listed :=
      h.modifyScheduler (fun _ => rfl) fun _ => rfl
    have enrolled : (s.enrolled t sched name work).1.Listed :=
      (named.addRoutine _ name work).of_frame (frame_report _ t _)
    have dispatched := enrolled.dispatch t (enrolled_lt s t sched name work)
    rw [went] at dispatched
    rcases done with whole | ⟨q, f, installed⟩
    · rw [whole]
      exact dispatched
    · rw [installed]
      exact dispatched.of_frame (frame_modifyQueue after q f)

/-- A removal takes the id out of the table, and at most one slot away, of a routine with that id. -/
theorem removeById (h : s.Listed) (t : Thread) (id : UInt64) : (s.removeById t id).1.Listed := by
  obtain ⟨sched, hs, listed⟩ := h
  cases found : sched.tasks.find? id with
  | none =>
    rw [removeById_of_absent hs found]
    exact ⟨sched, hs, listed⟩
  | some r =>
    rw [removeById_eq_dismissed hs found t]
    have dismissed := listed.dismissed id r
    refine ⟨_, (scheduler_removeRoutine _ t _ r).trans (scheduler_dismissed hs id r),
      (dismissed.erase id).removeRoutine (dismissed.hosts.bound _ ?_) ?_ t⟩
    · exact Roster.findOrDefault_mem listed.hosts.default _
    · rw [(dismissed.task found).2, TaskTable.find?_erase, if_pos rfl]

theorem removeTask (h : s.Listed) (t : Thread) (name : String) : (s.removeTask t name).1.Listed := by
  unfold System.removeTask
  split
  · exact h
  · split
    · exact h
    · exact h.removeById t (taskId name)

theorem removeFromBody (h : s.Listed) (t : Thread) (name : String) : (s.removeFromBody t name).1.Listed := by
  unfold System.removeFromBody
  split
  · exact h
  · exact h.removeTask t name

end Listed

theorem kept_listed : Kept Routine.id (@Listed κ) where
  status := id_ignoresStatus
  holder := id_ignoresHolder
  work _ _ := rfl
  routine r _ hf h := h.of_frame (.modifyRoutine _ r hf)
  group g _ signal h := by
    cases signal with
    | notify => exact h.of_frame (frame_notifyGroup _ g)
    | wait => exact h.of_frame (frame_waitGroup _ g)
    | shutdown => exact h.of_frame (frame_shutdownGroup _ g)
  processor p _ _ h := h.of_frame (frame_modifyProcessor _ p _)
  same h same := h.of_frame (.of_eq same.routines same.groups same.scheduler)
  create t work name source h := h.createTask t work name source
  remove t name h := h.removeFromBody t name

theorem Listed.shutdown (h : s.Listed) (t : Thread) : (s.shutdown t).Listed := by
  unfold System.shutdown
  split
  · exact h
  · split
    · exact h
    · next sched _ _ =>
      have raised : (s.modifyScheduler fun sched => { sched with stopped := true }).Listed :=
        h.modifyScheduler (fun _ => rfl) fun _ => rfl
      have silent := kept_listed.foldl (fun g h => kept_listed.group g .shutdown h)
        (sched.processors.filterMap fun p => (s.processor p).group) (kept_listed.report raised t .shuttingDown)
      have empty := kept_listed.foldl (fun id h => Listed.removeById h t id) (s.listed sched) silent
      have cleared : (System.modifyScheduler _ fun sched => { sched with processors := [] }).Listed :=
        empty.modifyScheduler (fun _ => rfl) fun _ => rfl
      exact kept_listed.foldl (fun p h => kept_listed.stopProcessor h t p) sched.processors cleared

end System

namespace Outside

open CoopSched.System (Listed)
open CoopSched.Turns (Operation)

variable {κ : Type} {s : System κ}

/-! ## 3. Runs in which places change -/

/-- Only routines that are there are dispatched, the scheduler is not replaced, and its queues are left to it,
except that a removal that has waited takes its slot. Priority and group of any routine may be changed at any
time. -/
def Adjusting (s : System κ) : Step κ → Prop
  | .operate (.dispatch r) => r < s.routines.size
  | .operate (.start _) | .operate .forget | .operate (.insert ..) | .operate (.unlink ..) => False
  | .conclude g l position r =>
    ((s.group g).queue l)[position]? = some r ∧ s.task? (s.routine r).id = none
  | _ => True

theorem listed_apply [Program κ] (h : s.Listed) (t : Thread) (a : Step κ)
    (allowed : Adjusting s a) : (a.apply s t).Listed := by
  have kept := @System.kept_listed κ
  cases a with
  | operate o =>
    cases o with
    | dispatch r => exact h.dispatch t allowed
    | newRoutine id name work => exact h.addRoutine id name work
    | newGroup name => exact h.addGroup name
    | start conf => exact allowed.elim
    | forget => exact allowed.elim
    | insert g r => exact allowed.elim
    | unlink g r => exact allowed.elim
    | _ => exact keeps_plain kept System.id_ignoresPlace h t trivial
  | remove id => exact h.removeById t id
  | removeTask name => exact h.removeTask t name
  | conclude g l position r =>
    obtain ⟨sched, hs, listed⟩ := h
    obtain ⟨there, gone⟩ := allowed
    have absent := (System.task?_eq hs _).symm.trans gone
    have erased : (s.modifyGroup g (·.eraseAt l position)).Listed :=
      ⟨sched, hs, listed.eraseAt (System.lt_of_slot there) there absent⟩
    exact kept.release erased r
  | shutdown => exact h.shutdown t
  | resume r => exact kept.resume h t r
  | move r => exact kept.move h t r
  | serve p => exact kept.serveStep h p

theorem Reachable.listed [Program κ] (run : Reachable Adjusting s) : s.Listed := by
  obtain ⟨s₀, t, conf, run⟩ := run
  refine run.keeps (fun t a h allowed => listed_apply h t a allowed) ?_
  obtain ⟨sched, hs, agree⟩ := System.startScheduler_sound s₀ t conf
  exact ⟨sched, hs, agree.registered⟩

end Outside

end CoopSched
