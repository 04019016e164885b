import CoopSched.Proofs.Tasks.Start
import CoopSched.Proofs.Tasks.Turns
import CoopSched.Script
/-!
# What holds of the tasks after every run

`Call` lists what callers, processors and bodies do to a system after its scheduler was started. A run is
any sequence of calls by any threads, in which a removal happens only while nobody holds the routine
(`Allowed`). After every run the table and the queues represent the same tasks (`Represents`):

* each live id belongs to one routine with that id, whose priority is a level;
* that routine has exactly one slot, in the group of its name, at the level of its priority;
* every queued routine is live;
* so the counts agree, a removal succeeds exactly on live ids, and a dispatch exactly on the others.
-/

namespace CoopSched.System

variable {κ : Type}

/-! ## 1. Calls -/

/-- What can be done to a system with a scheduler. `move` is a single move of the body of a routine, so
that turns may be interleaved with everything else; `serve` is one phase of the loop of a processor. -/
inductive Call (κ : Type) where
  | newRoutine (id : UInt64) (name : String) (work : Work κ)
  | create (work : Work κ) (name : String) (source : Option QueueRef)
  | createFrom (factory : Factory κ) (name : String)
  | dispatch (r : RoutineRef)
  | removeTask (name : String)
  | remove (id : UInt64)
  | notifyTask (id : UInt64)
  | notifyProcessor (id : UInt64)
  | shutdown
  | next (g : GroupRef)
  | resume (r : RoutineRef)
  | move (r : RoutineRef)
  | operate (r : RoutineRef) (op : RoutineOp)
  | push (q : QueueRef) (message : Int)
  | serve (p : Nat)
  | openGate (gate : String)
  | elapse (millis : Nat)

variable [Program κ]

/-- The system after a call by a thread. -/
def perform (s : System κ) (t : Thread) : Call κ → System κ
  | .newRoutine id name work => (s.addRoutine id name work).1
  | .create work name source => (s.createTask t work name source).1
  | .createFrom factory name => (s.createFrom t factory name).1
  | .dispatch r => (s.dispatch t r).1
  | .removeTask name => (s.removeTask t name).1
  | .remove id => (s.removeById t id).1
  | .notifyTask id => (s.notifyTask id).1
  | .notifyProcessor id => (s.notifyProcessor id).1
  | .shutdown => s.shutdown t
  | .next g => (s.nextRoutine t g).1
  | .resume r => (s.resume t r).1
  | .move r => (s.move t r).1
  | .operate r op => (s.applyOp t r op).1
  | .push q message => s.push t q message
  | .serve p => s.serveStep p
  | .openGate gate => s.openGate gate
  | .elapse millis => s.elapse millis

omit [Program κ] in
/-- A dispatched routine exists, and nobody holds a task that is removed. -/
def Allowed (s : System κ) : Call κ → Prop
  | .dispatch r => r < s.routines.size
  | .removeTask name => s.FreeTask (taskId name)
  | .remove id => s.FreeTask id
  | .shutdown => ∀ id, s.FreeTask id
  | _ => True

/-- The systems that a run comes to, from the start of a scheduler of any configuration in any system. -/
inductive Reachable : System κ → Prop
  | start (s : System κ) (t : Thread) (conf : SchedulerConf) : Reachable (s.startScheduler t conf)
  | call {s : System κ} (run : Reachable s) (t : Thread) (c : Call κ) (allowed : s.Allowed c) :
      Reachable (s.perform t c)

/-! ## 2. Every call keeps the agreement -/

open Routine (placement_ignoresStatus placement_ignoresHolder)

theorem Sound.perform {s : System κ} (h : s.Sound) (t : Thread) (c : Call κ)
    (allowed : s.Allowed c) : (s.perform t c).Sound := by
  cases c with
  | newRoutine id name work => exact h.addRoutine id name work
  | create work name source => exact h.createTask t work name source
  | createFrom factory name => exact h.createTask t factory.work name factory.source
  | dispatch r => exact h.dispatch t allowed
  | removeTask name => exact h.removeTask allowed t
  | remove id => exact h.removeById allowed t
  | notifyTask id => exact h.of_frame (frame_notifyTask placement_ignoresStatus s id)
  | notifyProcessor id => exact h.of_frame (frame_notifyProcessor placement_ignoresStatus s id)
  | shutdown => exact h.shutdown allowed t
  | next g =>
    exact h.of_frame (frame_nextRoutine placement_ignoresStatus placement_ignoresHolder s t g)
  | resume r => exact kept_sound.resume h t r
  | move r => exact kept_sound.move h t r
  | operate r op =>
    exact h.of_frame (frame_applyOp placement_ignoresStatus placement_ignoresHolder s t r op)
  | push q message => exact h.of_frame (frame_push placement_ignoresStatus s t q message)
  | serve p => exact kept_sound.serveStep h p
  | openGate gate => exact kept_sound.openGate h gate
  | elapse millis => exact h.of_frame (.of_eq rfl rfl rfl)

theorem Reachable.sound {s : System κ} (h : Reachable s) : s.Sound := by
  induction h with
  | start s t conf => exact startScheduler_sound s t conf
  | call run t c allowed ih => exact ih.perform t c allowed

/-! ## 3. What the agreement says -/

omit [Program κ] in
/-- The table of a scheduler and the queues of its groups represent the same tasks. -/
structure Represents (s : System κ) (sched : Scheduler) : Prop where
  /-- Every id of the table maps to a routine with that id, whose priority is a level. -/
  entry : ∀ id r, sched.tasks.find? id = some r →
    (s.routine r).id = id ∧ (s.routine r).priority < maxPrio
  /-- It has one slot over all levels of all groups: in the group that has its group name, at the level
  of its priority. -/
  slot : ∀ id r, sched.tasks.find? id = some r →
    ∃ home ∈ sched.roster.refs, sched.roster.find? (s.routine r).group = some home ∧
      (s.group home).name = (s.routine r).group ∧
      ∀ g ∈ sched.roster.refs, ∀ l : Priority, ((s.group g).queue l).count r =
        if g = home ∧ l.val = (s.routine r).priority then 1 else 0
  /-- Every queued routine is in the table under its own id. -/
  queued : ∀ g ∈ sched.roster.refs, ∀ l, ∀ r ∈ (s.group g).queue l,
    sched.tasks.find? (s.routine r).id = some r
  /-- There are as many live tasks as slots. -/
  count : sched.tasks.size = (sched.roster.refs.map fun g => (s.group g).size).sum
  /-- Unless somebody holds the task, a removal by id succeeds exactly if the id is in the table. -/
  removal : ∀ t id, s.FreeTask id →
    ((s.removeById t id).2.succeeded = true ↔ sched.tasks.contains id = true)
  /-- A dispatch succeeds exactly if the scheduler is not stopped and the id is not in the table. -/
  dispatch : ∀ t r, (s.dispatch t r).2 = true ↔
    sched.stopped = false ∧ sched.tasks.contains (s.routine r).id = false

omit [Program κ] in
theorem Consistent.represents {s : System κ} {sched : Scheduler}
    (hs : s.scheduler = some sched) (h : s.Consistent sched.roster sched.tasks) :
    s.Represents sched where
  entry id r found := ⟨(h.task found).id, (h.task found).priority⟩
  slot id r found := by
    have task := h.task found
    obtain ⟨home, mem, group, place⟩ := h.home?_of_find? found
    refine ⟨home, mem, group, h.hosts.name group, ?_⟩
    intro g hg l
    rw [h.slots g hg l r, place]
    have level : some (home, levelOf (s.routine r).priority) = some (g, l) ↔
        g = home ∧ l.val = (s.routine r).priority := by
      rw [Option.some.injEq, Prod.mk.injEq, Fin.ext_iff, levelOf_val task.priority]
      exact and_congr eq_comm eq_comm
    exact if_congr level rfl rfl
  queued g hg l r mem := h.find?_of_mem hg mem
  count := h.size_eq_sum
  removal t id free := by
    rw [removeById_succeeded hs h (fun r found => free r ((task?_eq hs id).trans found)) t]
  dispatch t r := by
    rw [dispatch_snd hs t r, Bool.and_eq_true, Bool.not_eq_true', Bool.not_eq_true']

/-- After every run of calls the table and the queues represent the same tasks. -/
theorem reachable_represents {s : System κ} (h : Reachable s) :
    ∃ sched, s.scheduler = some sched ∧ s.Represents sched := by
  obtain ⟨sched, hs, agree⟩ := h.sound
  exact ⟨sched, hs, agree.represents hs⟩

/-- Two groups, and a task whose priority is out of range. -/
def twoGroups : SchedulerConf :=
  { groups := [{ name := "first" }, { name := "second", tasks := [{ name := "t", prio := 25 }] }] }

/-- Two routines are dispatched, the first into the second group. -/
def twoTasks : System Script :=
  ((((System.startScheduler {} .main twoGroups).perform .main (.newRoutine 7 "t" .finished)).perform
    .main (.dispatch 0)).perform .main (.newRoutine 8 "u" .finished)).perform .main (.dispatch 1)

theorem reachable_twoTasks : Reachable twoTasks := by
  have started := Reachable.start ({} : System Script) .main twoGroups
  have added := started.call .main (.newRoutine 7 "t" .finished) trivial
  have dispatched := added.call .main (.dispatch 0) (show 0 < 1 from Nat.one_pos)
  have addedNext := dispatched.call .main (.newRoutine 8 "u" .finished) trivial
  exact addedNext.call .main (.dispatch 1) (show 1 < 2 from Nat.one_lt_two)

theorem freeTask_twoTasks : twoTasks.FreeTask 7 := by
  intro r live
  have first : twoTasks.task? 7 = some 0 := rfl
  cases first.symm.trans live
  rfl

/-- The first of the two tasks is removed again. -/
theorem represents_removed_twoTasks :
    twoTasks.task? 7 = some 0 ∧ (twoTasks.perform .main (.remove 7)).task? 7 = none ∧
      ∃ sched, (twoTasks.perform .main (.remove 7)).scheduler = some sched ∧
        (twoTasks.perform .main (.remove 7)).Represents sched :=
  ⟨rfl, rfl, reachable_represents (.call reachable_twoTasks .main (.remove 7) freeTask_twoTasks)⟩

end CoopSched.System
