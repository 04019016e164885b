import CoopSched.Proofs.Pipelines.Effects
import CoopSched.Proofs.Posts
import CoopSched.Proofs.Wakeup.Effects
/-!
# How a pipeline begins

A scheduler is at work as soon as it has been started (`startScheduler_atWork`). When it creates the stages of
a pipeline, in any order, each of them becomes a live task with a routine of its own that nobody has run yet,
and the messages in the queues stay where they are (`Begins.established`).
-/

namespace CoopSched

variable {κ : Type}

namespace System

variable {s s' : System κ} {sched : Scheduler} {t : Thread} {work : Work κ} {name : String}
  {q : QueueRef}

/-! ## 1. What a creation does -/

theorem settled_rest (s : System κ) (t : Thread) (sched : Scheduler) (r : RoutineRef) :
    (s.settled t sched r).1.groups = s.groups ∧ (s.settled t sched r).1.labels = s.labels := by
  obtain ⟨_, _, settled⟩ := settled_eq s t sched r
  rw [settled]
  exact ⟨rfl, rfl⟩

theorem stopped_place (s : System κ) (t : Thread) (sched : Scheduler) (r : RoutineRef) (g : GroupRef) :
    ((s.place t sched r).group g).stopped = (s.group g).stopped := by
  have told : ∀ (s : System κ) (g' : GroupRef),
      ((s.modifyGroup g' Group.notify).group g).stopped = (s.group g).stopped :=
    fun s g' => stopped_modifyGroup s g' Group.notify (fun _ => rfl) g
  have queued : ∀ (s : System κ) (g' : GroupRef),
      ((s.enqueue g' r).group g).stopped = (s.group g).stopped :=
    fun s g' => stopped_modifyGroup s g' (·.insert (levelOf (s.routine r).priority) r) (fun _ => rfl) g
  rw [place_eq, told, queued]
  exact congrArg (fun a : Arena Group => (a.get g).stopped) (settled_rest s t sched r).1

theorem labels_place (s : System κ) (t : Thread) (sched : Scheduler) (r : RoutineRef) :
    (s.place t sched r).labels = s.labels := by
  have rest : ∀ (s : System κ) (g : GroupRef) (f : Group → Group),
      (s.modifyGroup g f).labels = s.labels := fun _ _ _ => rfl
  rw [place_eq, rest, enqueue, rest]
  exact (settled_rest s t sched r).2

theorem routine_place (s : System κ) (t : Thread) (sched : Scheduler) {r other : RoutineRef}
    (h : other ≠ r) : (s.place t sched r).routine other = s.routine other := by
  rw [place_eq, routine_modifyGroup, enqueue, routine_modifyGroup]
  exact (relocates_settled s t sched r).others other h

/-- What a dispatch has done that was not refused: the id of the routine was not live, and now it is. -/
structure Dispatches (sched : Scheduler) (r : RoutineRef) (s s' : System κ) : Prop where
  new : sched.tasks.find? (s.routine r).id = none
  scheduler : s'.scheduler =
    some { sched with tasks := sched.tasks.insert (s.routine r).id r }
  agree : s'.Consistent sched.roster (sched.tasks.insert (s.routine r).id r)
  keeps : Keeps Wakeup.Task.unplaced s s'
  others : ∀ other, other ≠ r → s'.routine other = s.routine other
  queues : s'.queues = s.queues
  audible : ∀ g, (s'.group g).stopped = (s.group g).stopped
  labels : s'.labels = s.labels

theorem dispatch_of_granted {r : RoutineRef} (hs : s.scheduler = some sched)
    (agree : s.Consistent sched.roster sched.tasks) (bound : r < s.routines.size)
    (granted : (s.dispatch t r).2 = true) : Dispatches sched r s (s.dispatch t r).1 := by
  obtain ⟨running, new⟩ := (dispatch_granted_iff hs t r).mp granted
  let entered := s.modifyScheduler fun x =>
    { x with tasks := x.tasks.insert (s.routine r).id r }
  have here : entered.scheduler =
      some { sched with tasks := sched.tasks.insert (s.routine r).id r } :=
    congrArg (Option.map _) hs
  have agreed : entered.Consistent sched.roster sched.tasks := agree.modifyScheduler _
  have unmoved : Keeps Wakeup.Task.unplaced s entered := .of_routines_eq rfl
  have dispatched : s.dispatch t r = (entered.place t sched r, true) := dispatch_eq hs running new t
  rw [dispatched]
  exact {
    new
    scheduler := (place_scheduler entered t sched r).trans here
    agree := place_consistent agreed new bound t
    keeps := unmoved.trans (keeps_place (fun _ _ _ => rfl) entered t sched r)
    others := fun other h => routine_place entered t sched h
    queues := place_queues entered t sched r
    audible := fun g => stopped_place entered t sched r g
    labels := labels_place entered t sched r }

/-- What a creation has done that was not refused: there is one more routine, under an id that was not live,
and the arrivals of the source are announced to it. -/
structure Creates (sched : Scheduler) (name : String) (work : Work κ) (q : QueueRef)
    (s s' : System κ) : Prop where
  new : sched.tasks.find? (taskId name) = none
  scheduler : ∃ names, s'.scheduler = some { sched with
    names, tasks := sched.tasks.insert (taskId name) s.routines.size }
  agree : s'.Consistent sched.roster (sched.tasks.insert (taskId name) s.routines.size)
  size : s.routines.size < s'.routines.size
  routine : Wakeup.Task.unplaced (s'.routine s.routines.size) =
    { id := taskId name, name, work, wakeAt := s.now }
  others : ∀ r, r ≠ s.routines.size → s'.routine r = s.routine r
  queues : s'.queues =
    s.queues.modify q (·.install [.notifyTask sched.serial (taskId name)])
  audible : ∀ g, (s'.group g).stopped = (s.group g).stopped
  labels : s'.labels = s.labels

theorem Creates.queue_eq (h : Creates sched name work q s s') (q' : QueueRef) :
    s'.queue q' = if q = q' ∧ q' < s.queues.size then
      (s.queue q').install [.notifyTask sched.serial (taskId name)] else s.queue q' := by
  have modified := Arena.get_modify s.queues q q' (·.install [.notifyTask sched.serial (taskId name)])
  rw [← h.queues] at modified
  exact modified

theorem createTask_of_granted (hs : s.scheduler = some sched) (running : sched.stopped = false)
    (agree : s.Consistent sched.roster sched.tasks)
    (created : s.createTask t work name (some q) = (s', true)) : Creates sched name work q s s' := by
  rw [createTask_eq hs running] at created
  obtain ⟨current, there, agreed⟩ := Sound.enrolled ⟨sched, hs, agree⟩ t sched name work
  have bound := enrolled_lt s t sched name work
  have here : (s.enrolled t sched name work).1.scheduler =
      some { sched with names := (sched.names.register name).1 } := congrArg (Option.map _) hs
  obtain rfl := Option.some.inj (here.symm.trans there)
  have routines : ∀ r, (s.enrolled t sched name work).1.routine r = if r = s.routines.size then
      { id := taskId name, name, work, wakeAt := s.now } else s.routine r :=
    fun r => Arena.get_add ..
  have own : (s.enrolled t sched name work).1.routine (s.enrolled t sched name work).2 =
      { id := taskId name, name, work, wakeAt := s.now } := (routines _).trans (if_pos rfl)
  -- The creation is not refused, so neither is the dispatch.
  rcases outcome : (s.enrolled t sched name work).1.dispatch t (s.enrolled t sched name work).2
    with ⟨d, granted⟩
  rw [outcome] at created
  cases granted with
  | false => cases created
  | true =>
    have made := dispatch_of_granted there agreed bound (congrArg Prod.snd outcome)
    rw [outcome] at made
    cases created
    have scheduler := made.scheduler
    have agree := made.agree
    have new := made.new
    rw [own] at scheduler agree new
    exact {
      new
      scheduler := ⟨_, scheduler⟩
      agree := agree.of_frame (frame_modifyQueue d q _)
      size := Nat.lt_of_lt_of_le bound made.keeps.size
      routine := (made.keeps.routine _ bound).trans (congrArg Wakeup.Task.unplaced own)
      others := fun r other => (made.others r other).trans ((routines r).trans (if_neg other))
      queues := congrArg (fun a : Arena MessageQueue => a.modify q _) made.queues
      audible := made.audible
      labels := made.labels }

end System

namespace Pipelines

open CoopSched.Turns (World)
open Function (update)

variable {p : Pipeline κ} {ref : Nat → RoutineRef} {sched : Scheduler} {before s s' : System κ}
  {t : Thread} {i : Nat} {done rest : List Nat} {name : String} {body : Work κ} {q : QueueRef}

/-! ## 2. A scheduler that was just started -/

/-- Every configuration, and every system, gives a scheduler at work. -/
theorem startScheduler_atWork (s : System κ) (t : Thread) (conf : SchedulerConf) :
    ∃ sched, AtWork sched (s.startScheduler t conf) := by
  obtain ⟨sched, hs, agree⟩ := System.startScheduler_sound s t conf
  obtain ⟨running, audible⟩ := System.audible_startScheduler s t conf hs
  exact ⟨sched, hs, running, agree, audible⟩

/-! ## 3. The creation of a pipeline -/

/-- The routine of a stage that nobody has run yet. -/
structure Fresh (p : Pipeline κ) (i : Nat) (x : Routine κ) : Prop where
  state : x.state = .ready
  holder : x.holder = none
  alive : x.stopped = false
  work : x.work = .reader (p.queue i) .parking (p.callback i)

/-- Some stages have been created, and nobody has run them yet. -/
structure Made (p : Pipeline κ) (before : System κ) (done : List Nat) (ref : Nat → RoutineRef)
    (sched : Scheduler) (s : System κ) : Prop where
  served : p.Served done ref sched s
  fresh : ∀ i ∈ done, Fresh p i (s.routine (ref i))
  outside : ∀ i ∈ done, before.routines.size ≤ ref i
  grown : before.routines.size ≤ s.routines.size
  size : s.queues.size = before.queues.size
  messages : ∀ q, (s.queue q).messages = (before.queue q).messages
  labels : s.labels = before.labels

theorem Made.nil (work : AtWork sched s) (p : Pipeline κ) (ref : Nat → RoutineRef) :
    Made p s [] ref sched s :=
  ⟨⟨work, nofun, nofun, nofun, nofun⟩, nofun, nofun, Nat.le_refl _, rfl, fun _ => rfl, rfl⟩

theorem AtWork.created (work : AtWork sched s) (made : System.Creates sched name body q s s') :
    ∃ names, AtWork { sched with
      names, tasks := sched.tasks.insert (taskId name) s.routines.size } s' := by
  obtain ⟨names, scheduler⟩ := made.scheduler
  refine ⟨names, scheduler, work.running, made.agree, fun g hg => ?_⟩
  rw [made.audible]
  exact work.audible g hg

/-- One more stage is served. -/
theorem Pipeline.Served.cons (h : p.Served done ref sched s) (new : i ∉ done)
    (bound : p.queue i < s.queues.size) (apart : ∀ j ∈ done, p.queue j ≠ p.queue i)
    (made : System.Creates sched (p.name i) body (p.queue i) s s') :
    ∃ sched', p.Served (i :: done) (update ref i s.routines.size) sched' s' := by
  obtain ⟨names, work⟩ := h.work.created made
  have found := TaskTable.find?_insert made.new s.routines.size
  have here : update ref i s.routines.size i = s.routines.size := Function.update_self ..
  have there : ∀ j ∈ done, update ref i s.routines.size j = ref j :=
    fun j hj => Function.update_of_ne (ne_of_mem_of_not_mem hj new) ..
  have own : ∀ j ∈ done, ref j ≠ s.routines.size := fun j hj => Nat.ne_of_lt (h.lt hj)
  refine ⟨_, work, ?_, ?_, ?_, ?_⟩
  · refine List.forall_mem_cons.mpr ⟨?_, fun j hj => ?_⟩
    · rw [here]
      exact (found _).trans (if_pos rfl)
    · have live := h.live j hj
      have other : taskId (p.name j) ≠ taskId (p.name i) := by
        intro same
        rw [same, made.new] at live
        cases live
      rw [there j hj]
      exact (found _).trans ((if_neg other).trans live)
  · refine List.forall_mem_cons.mpr ⟨?_, fun j hj => ?_⟩
    · refine List.forall_mem_cons.mpr ⟨fun _ => rfl, fun k hk same => ?_⟩
      rw [here, there k hk] at same
      exact absurd same.symm (own k hk)
    · refine List.forall_mem_cons.mpr ⟨fun same => ?_, fun k hk same => ?_⟩
      · rw [here, there j hj] at same
        exact absurd same (own j hj)
      · rw [there j hj, there k hk] at same
        exact h.own j hj k hk same
  · rw [made.queues, Arena.size_modify]
    exact List.forall_mem_cons.mpr ⟨bound, h.bound⟩
  · refine List.forall_mem_cons.mpr ⟨?_, fun j hj => ?_⟩
    · rw [made.queue_eq, if_pos ⟨rfl, bound⟩]
      rfl
    · rw [made.queue_eq, if_neg fun hc => apart j hj hc.1.symm]
      exact h.callback j hj

/-- One more stage. -/
theorem Made.cons (h : Made p before done ref sched s) (new : i ∉ done)
    (bound : p.queue i < before.queues.size) (apart : ∀ j ∈ done, p.queue j ≠ p.queue i)
    (created : s.createFrom t (.ofReader (p.queue i) (p.callback i)) (p.name i) = (s', true)) :
    ∃ ref' sched', Made p before (i :: done) ref' sched' s' := by
  have work := h.served.work
  have made := System.createTask_of_granted work.scheduler work.running work.agree created
  obtain ⟨sched', served⟩ := h.served.cons new (h.size ▸ bound) apart made
  have here : update ref i s.routines.size i = s.routines.size := Function.update_self ..
  have there : ∀ j ∈ done, update ref i s.routines.size j = ref j :=
    fun j hj => Function.update_of_ne (ne_of_mem_of_not_mem hj new) ..
  refine ⟨_, sched', served, ?_, ?_, ?_, ?_, ?_, ?_⟩
  · refine List.forall_mem_cons.mpr ⟨?_, fun j hj => ?_⟩
    · rw [here]
      have same := made.routine
      exact ⟨congrArg (·.state) same, congrArg (·.holder) same, congrArg (·.stopped) same,
        congrArg (·.work) same⟩
    · rw [there j hj, made.others _ (Nat.ne_of_lt (h.served.lt hj))]
      exact h.fresh j hj
  · refine List.forall_mem_cons.mpr ⟨?_, fun j hj => ?_⟩
    · rw [here]
      exact h.grown
    · rw [there j hj]
      exact h.outside j hj
  · exact Nat.le_trans h.grown (Nat.le_of_lt made.size)
  · rw [made.queues, Arena.size_modify]
    exact h.size
  · intro q
    rw [made.queue_eq, ← h.messages]
    split <;> rfl
  · exact made.labels.trans h.labels

/-- All stages of a list. -/
theorem Made.create (order : List Nat) (h : Made p before done ref sched s)
    (distinct : (order.reverse ++ done).Nodup)
    (bound : ∀ i ∈ order.reverse ++ done, p.queue i < before.queues.size)
    (apart : ∀ i ∈ order.reverse ++ done, ∀ j ∈ order.reverse ++ done,
      p.queue i = p.queue j → i = j)
    (created : p.create t order s = some s') :
    ∃ ref' sched', Made p before (order.reverse ++ done) ref' sched' s' := by
  induction order generalizing done ref sched s with
  | nil =>
    cases created
    exact ⟨ref, sched, h⟩
  | cons i rest ih =>
    have shift : (i :: rest).reverse ++ done = rest.reverse ++ i :: done := by
      rw [List.reverse_cons, List.append_assoc, List.singleton_append]
    rw [shift] at distinct bound apart ⊢
    have mem : i ∈ rest.reverse ++ i :: done := List.mem_append_right _ List.mem_cons_self
    have new : i ∉ done :=
      (List.nodup_cons.mp (List.Nodup.of_append_right distinct)).1
    rw [Pipeline.create] at created
    split at created
    · next s₁ first =>
      have others : ∀ j ∈ done, p.queue j ≠ p.queue i := by
        intro j hj same
        have mem' : j ∈ rest.reverse ++ i :: done :=
          List.mem_append_right _ (List.mem_cons_of_mem i hj)
        exact new (apart j mem' i mem same ▸ hj)
      obtain ⟨ref₁, sched₁, made⟩ := h.cons new (bound i mem) others first
      exact ih made distinct bound apart created
    · cases created

variable [Program κ]

/-- When the stages have been created they are all served, and nobody has run any of them. -/
theorem Pipeline.Begins.established {w : World κ} (begins : p.Begins before w) :
    ∃ ref sched, Made p before p.stages ref sched w.sys := by
  obtain ⟨formed, ⟨sched, work⟩, ⟨t, order, perm, created⟩, -⟩ := begins
  have mem : ∀ i, i ∈ order.reverse ++ [] ↔ i < p.length := by
    intro i
    rw [List.append_nil, List.mem_reverse, perm.mem_iff, Pipeline.mem_stages]
  have distinct : (order.reverse ++ []).Nodup := by
    rw [List.append_nil, List.nodup_reverse]
    exact perm.nodup_iff.mpr List.nodup_range
  obtain ⟨ref, sched', made⟩ := (Made.nil work p fun _ => 0).create order distinct
    (fun i hi => formed.bound i ((mem i).mp hi))
    (fun i hi j hj => formed.distinct i ((mem i).mp hi) j ((mem j).mp hj)) created
  have listed : ∀ i ∈ p.stages, i ∈ order.reverse ++ [] :=
    fun i hi => (mem i).mpr (Pipeline.mem_stages.mp hi)
  have served := made.served
  exact ⟨ref, sched', ⟨⟨served.work, fun i hi => served.live i (listed i hi),
    fun i hi j hj => served.own i (listed i hi) j (listed j hj),
    fun i hi => served.bound i (listed i hi), fun i hi => served.callback i (listed i hi)⟩,
    fun i hi => made.fresh i (listed i hi), fun i hi => made.outside i (listed i hi), made.grown,
    made.size, made.messages, made.labels⟩⟩

end Pipelines

end CoopSched
