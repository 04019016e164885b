import CoopSched.Proofs.Turns.Notified
import CoopSched.Proofs.Turns.Removal
/-!
# Notifications reach their group

A notification finds the routine of a task in the table, and its group by the name that is stored in the routine.
A name that nothing has would be passed over in silence. In a scheduler that is left to itself this never happens:
the table and the queues agree, so the name stored in a live routine is that of the group whose queues hold it.

* What a notification of a live task does is `Tells`: one flag, one count, and nothing else.
* A scheduler keeps its number as long as it is there (`Run.serial?`), so the callback that was installed when a
  task was created still finds it.
* Both calls and the callback do the same, for every id and at any time (`notifications_alike`).
-/

namespace CoopSched

variable {κ : Type}

namespace System

variable {s s' : System κ} {sched : Scheduler} {roster : Roster} {tasks : TaskTable} {id : UInt64}
  {r : RoutineRef} {g : GroupRef}

/-! ## 1. One notification -/

/-- The routine has one slot in the groups of a roster: in this group, at the level of its priority. -/
structure OnlyIn (s : System κ) (roster : Roster) (r : RoutineRef) (g : GroupRef) : Prop where
  known : g ∈ roster.refs
  slots : ∀ h ∈ roster.refs, ∀ l, ((s.group h).queue l).count r =
    if h = g ∧ l = levelOf (s.routine r).priority then 1 else 0

/-- The flag of a routine is up if it was up or the routine waits, a group counts one notification more, and
nothing else has changed. -/
structure Tells (s s' : System κ) (r : RoutineRef) (g : GroupRef) : Prop where
  flag : s'.routine r =
    { s.routine r with recheck := (s.routine r).recheck || (s.routine r).state.isWaiting }
  others : ∀ q ≠ r, s'.routine q = s.routine q
  count : s'.group g = { s.group g with pending := min ((s.group g).pending + 1) maxPending }
  elsewhere : ∀ h ≠ g, s'.group h = s.group h
  rest : s' = { s with routines := s'.routines, groups := s'.groups }

theorem Consistent.onlyIn (h : s.Consistent roster tasks) (found : tasks.find? id = some r)
    (group : roster.find? (s.routine r).group = some g) : s.OnlyIn roster r g where
  known := Roster.mem_refs_of_find? group
  slots h' hh l := by
    have live : tasks.find? (s.routine r).id = some r := (h.task found).id.symm ▸ found
    rw [h.slots h' hh l r, home?_eq_some live group]
    refine if_congr ?_ rfl rfl
    rw [Option.some.injEq, Prod.mk.injEq]
    exact ⟨fun same => ⟨same.1.symm, same.2.symm⟩, fun same => ⟨same.1.symm, same.2.symm⟩⟩

/-- A notification of a live task whose group is known. -/
theorem notifyProcessor_of_group (hs : s.scheduler = some sched) (running : sched.stopped = false)
    (live : sched.tasks.find? id = some r) (group : sched.roster.find? (s.routine r).group = some g) :
    s.notifyProcessor id = ((s.modifyRoutine r Routine.notified).modifyGroup g Group.notify, true) := by
  have same : ((s.flagIfWaiting r).routine r).group = (s.routine r).group :=
    congrArg (fun place => place.2.1) ((frame_flagIfWaiting Routine.placement_ignoresStatus s r).view_eq r)
  simp only [notifyProcessor, hs, running, live, Bool.false_eq_true, if_false]
  rw [notifyGroupNamed, same, group, flagIfWaiting_eq]

theorem tells_notified (hr : r < s.routines.size) (hg : g < s.groups.size) :
    Tells s ((s.modifyRoutine r Routine.notified).modifyGroup g Group.notify) r g where
  flag := by
    rw [routine_modifyGroup, routine_modifyRoutine, if_pos ⟨rfl, hr⟩, recheck_notified]
  others q other := by
    rw [routine_modifyGroup, routine_modifyRoutine, if_neg fun hc => other hc.1.symm]
  count := by
    rw [group_modifyGroup, if_pos ⟨rfl, hg⟩, group_modifyRoutine, Group.notify]
  elsewhere h other := by
    rw [group_modifyGroup, if_neg fun hc => other hc.1.symm, group_modifyRoutine]
  rest := rfl

/-! ## 2. Notifications and the queues of messages -/

theorem notifyProcessor_of_stopped (hs : s.scheduler = some sched) (stopped : sched.stopped = true) :
    s.notifyProcessor id = (s, true) := by
  simp only [notifyProcessor, hs, stopped, if_true]

theorem notifyTask_eq_notifyProcessor (hs : s.scheduler = some sched) :
    s.notifyTask id = s.notifyProcessor id := by
  cases running : sched.stopped with
  | true =>
    rw [notifyProcessor_of_stopped hs running]
    simp only [notifyTask, hs, running, if_true]
  | false => exact notifyTask_eq hs running

/-- A notification does not look at the messages. -/
theorem notifyProcessor_modifyQueue (s : System κ) (q : QueueRef) (f : MessageQueue → MessageQueue)
    (id : UInt64) :
    ((s.modifyQueue q f).notifyProcessor id).1 = (s.notifyProcessor id).1.modifyQueue q f := by
  have flagged : ∀ r, (s.modifyQueue q f).flagIfWaiting r = (s.flagIfWaiting r).modifyQueue q f := by
    intro r
    rw [flagIfWaiting_eq, flagIfWaiting_eq]
    rfl
  have told : ∀ (s : System κ) (roster : Roster) (name : String),
      ((s.modifyQueue q f).notifyGroupNamed roster name).1 =
        (s.notifyGroupNamed roster name).1.modifyQueue q f := by
    intro s roster name
    unfold notifyGroupNamed
    split <;> rfl
  have same : (s.modifyQueue q f).scheduler = s.scheduler := rfl
  unfold notifyProcessor
  rw [same]
  split
  · rfl
  · split
    · rfl
    · split
      · rfl
      · rw [flagged, told]
        rfl

end System

namespace Turns

open CoopSched.Lifecycle (isStopped stopProcessors)
open CoopSched.System (Frame OnlyIn Tells)

/-! ## 3. The number of a scheduler -/

/-- The number of the scheduler, if there is one. -/
def serial? (s : System κ) : Option Nat := s.scheduler.map (·.serial)

variable {s s' : System κ}

theorem serial?_of_eq (h : s'.scheduler = s.scheduler) : serial? s' = serial? s :=
  congrArg (fun scheduler => scheduler.map (·.serial)) h

theorem serial?_modifyScheduler (s : System κ) {f : Scheduler → Scheduler}
    (same : ∀ x, (f x).serial = x.serial) : serial? (s.modifyScheduler f) = serial? s := by
  show (s.scheduler.map f).map _ = s.scheduler.map _
  rw [Option.map_map]
  exact congrArg (fun g => s.scheduler.map g) (funext same)

theorem serial?_dispatch (s : System κ) (t : Thread) (r : RoutineRef) :
    serial? (s.dispatch t r).1 = serial? s := by
  rcases System.dispatch_cases s t r with same | ⟨n, refused⟩ | ⟨sched, -, -, placed⟩
  · rw [same]
  · rw [refused]
    rfl
  · rw [placed]
    exact (serial?_of_eq (System.place_scheduler ..)).trans (serial?_modifyScheduler s fun _ => rfl)

theorem serial?_createTask (s : System κ) (t : Thread) (work : Work κ) (name : String)
    (source : Option QueueRef) : serial? (s.createTask t work name source).1 = serial? s := by
  have enrolled : ∀ sched, serial? (s.enrolled t sched name work).1 = serial? s :=
    fun sched => serial?_modifyScheduler s fun _ => rfl
  rcases System.createTask_cases s t work name source with
    same | ⟨n, refused⟩ | ⟨sched, after, rfl, dispatched | ⟨q, f, installed⟩⟩
  · rw [same]
  · rw [refused]
    rfl
  · rw [dispatched]
    exact (serial?_dispatch _ t _).trans (enrolled sched)
  · rw [installed]
    exact (serial?_dispatch _ t _).trans (enrolled sched)

theorem serial?_removeById (s : System κ) (t : Thread) (id : UInt64) :
    serial? (s.removeById t id).1 = serial? s := by
  cases hs : s.scheduler with
  | none =>
    simp only [System.removeById, hs]
  | some sched =>
    cases found : sched.tasks.find? id with
    | none => rw [System.removeById_of_absent hs found]
    | some r =>
      rw [System.removeById_eq_dismissed hs found]
      refine (serial?_of_eq (System.scheduler_removeRoutine ..)).trans ?_
      exact (serial?_of_eq rfl).trans (serial?_modifyScheduler s fun _ => rfl)

theorem serial?_removeTask (s : System κ) (t : Thread) (name : String) :
    serial? (s.removeTask t name).1 = serial? s := by
  unfold System.removeTask
  split
  · rfl
  · split
    · rfl
    · exact serial?_removeById s t _

open Routine (placement_ignoresStatus placement_ignoresHolder)

theorem serial?_serve (s : System κ) (t : Thread) (r : RoutineRef) (request : Request κ) :
    serial? (s.serve t r request).1 = serial? s := by
  cases request with
  | trace text => rfl
  | identity => rfl
  | setState state => rfl
  | push q message => exact serial?_of_eq (System.frame_push placement_ignoresStatus s t q message).scheduler
  | fetch q => rfl
  | onRoutine x op =>
    have framed := System.frame_applyOp placement_ignoresStatus placement_ignoresHolder s t x op
    exact serial?_of_eq framed.scheduler
  | create name body source =>
    simp only [System.serve]
    split
    · rfl
    · exact serial?_createTask s t _ name source
  | remove name =>
    simp only [System.serve, System.removeFromBody]
    split
    · rfl
    · split
      · rfl
      · exact serial?_removeTask s t name
  | notify name =>
    simp only [System.serve]
    split
    · rfl
    · exact serial?_of_eq (System.frame_notifyTask placement_ignoresStatus s _).scheduler
  | stopProcessor =>
    cases t with
    | processor p =>
      have frame : System.Frame Routine.placement s (s.stopProcessor (.processor p) p) := System.frame_stopProcessor ..
      exact serial?_of_eq frame.scheduler
    | main => rfl
    | helper => rfl

variable [Program κ]

theorem serial?_move (s : System κ) (t : Thread) (r : RoutineRef) :
    serial? (s.move t r).1 = serial? s := by
  unfold System.move
  dsimp only
  cases (s.routine r).work.next s.labels with
  | ask request rest => exact serial?_serve s t r request
  | await gate rest =>
    dsimp only
    split <;> split <;> rfl
  | _ => rfl

omit [Program κ] in
/-- Orderly calls do not replace the scheduler. -/
theorem serial?_apply (s : System κ) (t : Thread) {o : Operation κ} (orderly : o.Orderly s) :
    serial? (o.apply s t) = serial? s := by
  have framed : ∀ {s'}, Frame Routine.placement s s' → serial? s' = serial? s :=
    fun frame => serial?_of_eq frame.scheduler
  cases o with
  | create work name source => exact serial?_createTask s t work name source
  | dispatch r => exact serial?_dispatch s t r
  | notifyTask id => exact framed (System.frame_notifyTask placement_ignoresStatus s id)
  | notifyProcessor id => exact framed (System.frame_notifyProcessor placement_ignoresStatus s id)
  | next g =>
    exact framed (System.frame_nextRoutine placement_ignoresStatus placement_ignoresHolder s t g)
  | onRoutine r op =>
    exact framed (System.frame_applyOp placement_ignoresStatus placement_ignoresHolder s t r op)
  | push q message => exact framed (System.frame_push placement_ignoresStatus s t q message)
  | stopProcessor p => exact framed (System.frame_stopProcessor s t p)
  | openGate gate =>
    simp only [Operation.apply, System.openGate]
    split <;> rfl
  | start conf => exact orderly.elim
  | forget => exact orderly.elim
  | insert g r => exact orderly.elim
  | unlink g r => exact orderly.elim
  | setPriority r priority => exact orderly.elim
  | setGroup r name => exact orderly.elim
  | _ => rfl

namespace World

variable {v w : World κ}

omit [Program κ] in
theorem serial?_remove (w : World κ) (t : Thread) (id : UInt64) :
    serial? (w.remove t id).sys = serial? w.sys := by
  have removed := serial?_removeById w.sys t id
  unfold remove
  split
  · rfl
  · revert removed
    rcases w.sys.removeById t id with ⟨s, outcome⟩
    intro removed
    cases outcome <;> exact removed

omit [Program κ] in
theorem serial?_conclude (w : World κ) (t : Thread) (id : UInt64) :
    serial? (w.conclude t id).sys = serial? w.sys := by
  unfold conclude
  split
  · rfl
  · next p _ =>
    have removed := serial?_of_eq (System.scheduler_removeRoutine w.sys t p.group p.routine)
    revert removed
    rcases w.sys.removeRoutine t p.group p.routine with ⟨s, outcome⟩
    intro removed
    cases outcome with
    | waits => rfl
    | absent => exact removed
    | removed => exact removed

omit [Program κ] in
theorem serial?_shut (w : World κ) (t : Thread) : serial? (w.shut t).sys = serial? w.sys := by
  unfold shut
  split
  · rfl
  · split
    · rfl
    · next sched _ _ =>
      let raised := w.sys.modifyScheduler fun sched => { sched with stopped := true }
      have silent : Frame Routine.placement (raised.report t .shuttingDown) (w.sys.silenced t sched) :=
        System.frame_stopServedGroups _ _
      exact (serial?_of_eq silent.scheduler).trans (serial?_modifyScheduler w.sys fun _ => rfl)

omit [Program κ] in
theorem serial?_sweep (w : World κ) (t : Thread) : serial? (w.sweep t).sys = serial? w.sys := by
  unfold sweep
  split
  · rfl
  · split <;> rfl
  · split
    · rfl
    · exact serial?_remove w t _
  · let emptied := w.sys.modifyScheduler fun sched => { sched with processors := [] }
    have stopped : Frame Routine.placement emptied (stopProcessors w.sys t) :=
      .foldl (fun s p => System.frame_stopProcessor s t p) _ _
    exact (serial?_of_eq stopped.scheduler).trans (serial?_modifyScheduler w.sys fun _ => rfl)

theorem serial?_perform (w : World κ) {a : Action κ} (orderly : Orderly w a) :
    serial? (w.perform a).sys = serial? w.sys := by
  cases a with
  | enter t r =>
    rw [perform]
    rcases w.enter_cases t r with same | ⟨-, finished⟩ | ⟨n, refused⟩ | ⟨-, -, -, -, entered⟩
    · rw [same]
    · rw [finished]
      rfl
    · rw [refused]
      rfl
    · rw [entered]
  | move t =>
    rw [perform]
    rcases w.move_cases t with same | ⟨r, -, -, moved⟩
    · rw [same]
    · rw [moved]
      exact serial?_move w.sys t r
  | operate t o =>
    simp only [perform, operate]
    split
    · rfl
    · exact serial?_apply w.sys t orderly
  | remove t id => exact serial?_remove w t id
  | removeTask t name =>
    simp only [perform, removeTask]
    split
    · rfl
    · exact serial?_remove w t _
  | conclude t id => exact serial?_conclude w t id
  | shut t => exact serial?_shut w t
  | sweep t => exact serial?_sweep w t

/-- A scheduler that is left to itself stays the same one. -/
theorem Run.serial? (run : Run Orderly v w) : Turns.serial? w.sys = Turns.serial? v.sys := by
  induction run with
  | refl => rfl
  | step _ a orderly ih => exact (serial?_perform _ orderly).trans ih

end World

/-! ## 4. All notifications -/

section Main

variable {v w : World κ} {sched : Scheduler}

/-- What the two calls do that notify the task of an id, in a world that has come from an earlier one, and what
the callback does that was installed there when a task of that id was created. -/
structure Informs (v w : World κ) (sched : Scheduler) (id : UInt64) : Prop where
  alike : w.sys.notifyTask id = w.sys.notifyProcessor id
  arrival : ∀ t work name q, taskId name = id → q < v.sys.queues.size →
    (v.sys.createTask t work name (some q)).2 = true →
    ∃ callback, ((v.sys.createTask t work name (some q)).1.queue q).callback = some callback ∧
      ∀ u, callback.foldl (fun s a => s.announce u a) w.sys = (w.sys.notifyTask id).1 ∧
        ∀ p message, (w.sys.queue p).callback = some callback →
          w.sys.push u p message = (w.sys.notifyTask id).1.modifyQueue p (·.push message)
  stopped : sched.stopped = true → w.sys.notifyTask id = (w.sys, true)
  unknown : sched.stopped = false → sched.tasks.find? id = none → w.sys.notifyTask id = (w.sys, false)
  live : sched.stopped = false → ∀ r, sched.tasks.find? id = some r →
    ∃ s g, w.sys.notifyTask id = (s, true) ∧ w.sys.OnlyIn sched.roster r g ∧ Tells w.sys s r g

omit [Program κ] in
/-- A creation that is granted is a dispatch that is granted, and the installation of a callback. -/
theorem createTask_of_true {s : System κ} (hs : s.scheduler = some sched) {t : Thread} {work : Work κ}
    {name : String} {q : QueueRef} (created : (s.createTask t work name (some q)).2 = true) :
    (s.createTask t work name (some q)).1 =
      ((s.enrolled t sched name work).1.dispatch t s.routines.size).1.modifyQueue q
        (·.install [.notifyTask sched.serial (taskId name)]) := by
  cases running : sched.stopped with
  | true =>
    simp only [System.createTask, hs, running, if_true] at created
    cases created
  | false =>
    have number : (s.enrolled t sched name work).2 = s.routines.size := rfl
    rw [System.createTask_eq hs running, number] at created ⊢
    revert created
    rcases (s.enrolled t sched name work).1.dispatch t s.routines.size with ⟨after, granted⟩
    intro created
    cases granted with
    | false => cases created
    | true => rfl

omit [Program κ] in
/-- The callback of a new task notifies it, at the scheduler that made it. -/
theorem callback_createTask {s : System κ} (hs : s.scheduler = some sched) (t : Thread) (work : Work κ)
    (name : String) {q : QueueRef} (hq : q < s.queues.size)
    (created : (s.createTask t work name (some q)).2 = true) :
    ((s.createTask t work name (some q)).1.queue q).callback =
      some [.notifyTask sched.serial (taskId name)] := by
  have queues := System.queues_dispatch (s.enrolled t sched name work).1 t s.routines.size
  rw [createTask_of_true hs created, System.queue_modifyQueue, if_pos]
  · rfl
  · rw [queues]
    exact ⟨rfl, hq⟩

omit [Program κ] in
/-- A notification by callback is a notification. -/
theorem announce_notifyTask {s : System κ} (hs : s.scheduler = some sched) (u : Thread) (id : UInt64) :
    s.announce u (.notifyTask sched.serial id) = (s.notifyTask id).1 := by
  rw [System.notifyTask_eq_notifyProcessor hs]
  simp only [System.announce, hs, Option.any_some, beq_self_eq_true, if_true]

/-- In every world that a scheduler comes to, all notifications of an id do the same: nothing after a shutdown,
nothing for an id that is not live, and else they flag the routine if it waits and tell the one group that has
it queued. -/
theorem notifications_alike (reachable : v.Reachable) (run : World.Run World.Orderly v w) :
    ∃ sched, w.sys.scheduler = some sched ∧ ∀ id, Informs v w sched id := by
  obtain ⟨sched₀, _, before⟩ := reachable.kept
  obtain ⟨sched, queued, kept⟩ := run.kept reachable.kept
  have hs := kept.scheduler
  have number : sched.serial = sched₀.serial := by
    have same := run.serial?
    rw [serial?, serial?, hs, before.scheduler] at same
    exact Option.some.inj same
  refine ⟨sched, hs, fun id => ?_⟩
  have alike : w.sys.notifyTask id = w.sys.notifyProcessor id := System.notifyTask_eq_notifyProcessor hs
  refine ⟨alike, ?_, ?_, ?_, ?_⟩
  · rintro t work name q rfl hq created
    refine ⟨_, callback_createTask before.scheduler t work name hq created, fun u => ?_⟩
    rw [← number]
    refine ⟨announce_notifyTask hs u _, fun p message installed => ?_⟩
    let put := w.sys.modifyQueue p (·.push message)
    have kept : (put.queue p).callback = (w.sys.queue p).callback := by
      rw [System.queue_modifyQueue]
      split <;> rfl
    rw [System.push, System.fireCallback, kept, installed, Option.getD_some, List.foldl_cons, List.foldl_nil,
      announce_notifyTask (s := put) hs u, System.notifyTask_eq_notifyProcessor (s := put) hs,
      System.notifyProcessor_modifyQueue, alike]
  · intro stopped
    rw [alike, System.notifyProcessor_of_stopped hs stopped]
  · intro running absent
    simp only [alike, System.notifyProcessor, hs, running, absent, Bool.false_eq_true, if_false]
  · intro running r live
    have there := (kept.of_live live).2
    have task := kept.agree.task there
    obtain ⟨g, group⟩ := task.group
    refine ⟨_, g, alike.trans (System.notifyProcessor_of_group hs running live group),
      kept.agree.onlyIn there group, System.tells_notified task.bound ?_⟩
    exact kept.agree.hosts.bound g (Roster.mem_refs_of_find? group)

end Main

/-- A scheduler has been started, and there is a queue. -/
def withQueue : World Script := started.perform (.operate .main .newQueue)

/-- A task that reads the queue has been created, and waits. -/
def waitingReader : World Script :=
  (withQueue.perform (.operate .main (.create (.reader 0 .parking (.ofActions [])) "t" (some 0)))).perform
    (.operate .main (.onRoutine 0 .hangUp))

theorem reachable_withQueue : withQueue.Reachable := by
  have begins : started.Begins := ⟨_, _, _, rfl, rfl, rfl⟩
  have nothing : World.Run World.Orderly started started := .refl started
  exact ⟨started, begins, nothing.step (.operate .main .newQueue) trivial⟩

theorem run_waitingReader : World.Run World.Orderly withQueue waitingReader := by
  have nothing : World.Run World.Orderly withQueue withQueue := .refl withQueue
  have created := nothing.step
    (.operate .main (.create (.reader 0 .parking (.ofActions [])) "t" (some 0))) trivial
  exact created.step (.operate .main (.onRoutine 0 .hangUp)) trivial

/-- A message that arrives for the waiting task flags its routine, and one notification more is pending. -/
theorem arrival_waitingReader :
    withQueue.Reachable ∧ World.Run World.Orderly withQueue waitingReader ∧
      ∃ s g, waitingReader.sys.notifyTask (taskId "t") = (s, true) ∧ Tells waitingReader.sys s 0 g ∧
        (s.routine 0).recheck = true ∧
        waitingReader.sys.push .helper 0 5 = s.modifyQueue 0 (·.push 5) := by
  obtain ⟨sched, hs, informs⟩ := notifications_alike reachable_withQueue run_waitingReader
  have informs := informs (taskId "t")
  have live : sched.tasks.find? (taskId "t") = some 0 := by
    have found : waitingReader.sys.task? (taskId "t") = some 0 := by decide +kernel
    exact (System.task?_eq hs _).symm.trans found
  have running : sched.stopped = false := by
    have undisturbed : isStopped waitingReader.sys = false := rfl
    rw [isStopped, hs, Option.any_some] at undisturbed
    exact undisturbed
  obtain ⟨s, g, notified, -, tells⟩ := informs.live running 0 live
  obtain ⟨callback, installed, does⟩ := informs.arrival .main (.reader 0 .parking (.ofActions [])) "t" 0 rfl
    Nat.one_pos rfl
  have pushed := (does .helper).2 0 5 installed
  rw [notified] at pushed
  refine ⟨reachable_withQueue, run_waitingReader, s, g, notified, tells, ?_, pushed⟩
  rw [tells.flag]
  rfl

end Turns

end CoopSched
