import CoopSched.Proofs.Pipelines.Machine
import CoopSched.Proofs.Selection
/-!
# What the actions around a pipeline do

Each operation that a pipeline is made of has an equation here, or a lemma that lists all that it can do.

* A message that is put into the queue of a stage flags the routine of the stage if it waits, and changes
  nothing else that matters (`Served.push`).
* The moves of a body that reads a queue are changes of its own routine, except for the look into the queue
  and for the messages that its callback puts elsewhere (`move_parking` and what follows it).

`Steady` says of two systems that whatever serves a pipeline in the one serves it in the other.
-/

namespace CoopSched

variable {κ : Type}

namespace Routine

theorem stopped_update (x : Routine κ) (now : Nat) : (x.update now).stopped = x.stopped := by
  have waiting : x.state.isWaiting = true → (x.update now).stopped = x.stopped := by
    intro waits
    rw [update_of_waiting waits]
    split <;> rfl
  cases state : x.state with
  | ioWait => exact waiting (congrArg State.isWaiting state)
  | dataWait => exact waiting (congrArg State.isWaiting state)
  | ready => simp only [update, state]
  | finished => simp only [update, state]
  | sleep =>
    simp only [update, state]
    split <;> rfl

theorem work_update (x : Routine κ) (now : Nat) : (x.update now).work = x.work := by
  have ignores : IgnoresStatus fun x : Routine κ => x.work :=
    ⟨fun _ _ => rfl, fun _ _ => rfl, fun _ _ => rfl, fun _ _ => rfl⟩
  exact ignores.update x now

/-- What an arrival makes of a routine: one that waits has its flag put up. -/
def notified (x : Routine κ) : Routine κ := if x.state.isWaiting then x.requestRecheck else x

end Routine

namespace System

variable {s s' s'' : System κ} {r : RoutineRef} {q : QueueRef} {t : Thread}

theorem stopped_modifyGroup (s : System κ) (g : GroupRef) (f : Group → Group)
    (h : ∀ x, (f x).stopped = x.stopped) (g' : GroupRef) :
    ((s.modifyGroup g f).group g').stopped = (s.group g').stopped := by
  rw [group_modifyGroup]
  split
  · exact h _
  · rfl

/-! ## 1. The moves of a body that reads a queue -/

section Moves

theorem modifyRoutine_work (s : System κ) (r : RoutineRef) (f : Routine κ → Routine κ) (work : Work κ) :
    (s.modifyRoutine r f).modifyRoutine r (fun x => { x with work }) =
      s.modifyRoutine r fun x => { f x with work } :=
  modifyRoutine_modifyRoutine s r f _

variable [Program κ] {c : κ}

/-- The body declares itself waiting. -/
theorem move_parking (h : (s.routine r).work = .reader q .parking c) (t : Thread) :
    s.move t r = (s.modifyRoutine r fun x =>
      { x with state := .dataWait, work := .reader q .fetching c }, .going) := by
  simp only [move, h, Work.next, serve, modifyRoutine_work]
  rfl

/-- What the body goes on with when it has looked into its queue. -/
def looked (q : QueueRef) (c : κ) : Option Int → Work κ
  | some m => .reader q .handling (Program.deliver c m)
  | none => .reader q .idle c

/-- The body looks into its queue. -/
theorem move_fetching (h : (s.routine r).work = .reader q .fetching c) (t : Thread) :
    s.move t r = ((s.modifyQueue q (·.pop.1)).modifyRoutine r fun x =>
      { x with work := looked q c (s.queue q).messages.head? }, .going) := by
  simp only [move, h, Work.next, serve, fetch, MessageQueue.pop_eq_head?]
  cases (s.queue q).messages.head? <;> rfl

/-- The body leaves its turn as it is. -/
theorem move_idle (h : (s.routine r).work = .reader q .idle c) (t : Thread) :
    s.move t r = (s.modifyRoutine r fun x => { x with work := .reader q .parking c }, .paused) := by
  simp only [move, h, Work.next]
  refine Prod.ext ?_ rfl
  exact modifyRoutine_eq_self _ rfl

/-- The body leaves its turn to come back soon. -/
theorem move_handled (h : (s.routine r).work = .reader q .handled c) (t : Thread) :
    s.move t r = (s.modifyRoutine r fun x =>
      { x with state := .ready, work := .reader q .parking c }, .paused) := by
  simp only [move, h, Work.next, modifyRoutine_modifyRoutine]
  rfl

theorem move_finish (h : (s.routine r).work = .reader q .handling c) {rest : κ}
    (next : Program.next s.labels c = .finish rest) (t : Thread) :
    s.move t r = (s.modifyRoutine r fun x => { x with work := .reader q .handled rest }, .going) := by
  simp only [move, h, Work.next, next, Move.bind]

theorem move_skip (h : (s.routine r).work = .reader q .handling c) {rest : κ}
    (next : Program.next s.labels c = .skip rest) (t : Thread) :
    s.move t r = (s.modifyRoutine r fun x => { x with work := .reader q .handling rest }, .going) := by
  simp only [move, h, Work.next, next, Move.bind]

theorem move_ask (h : (s.routine r).work = .reader q .handling c) {request : Request κ}
    {rest : Reply → κ} (next : Program.next s.labels c = .ask request rest) (t : Thread) :
    s.move t r = ((s.serve t r request).1.modifyRoutine r fun x =>
      { x with work := .reader q .handling (rest (s.serve t r request).2) }, .going) := by
  simp only [move, h, Work.next, next, Move.bind]

/-- A gate that is closed is noted down, and the body stays where it is. -/
theorem move_await (h : (s.routine r).work = .reader q .handling c) {gate : String} {rest : κ}
    (next : Program.next s.labels c = .await gate rest) (t : Thread) :
    ∃ gates, s.move t r = ({ s with reachedGates := gates }, .atGate gate) ∨
      s.move t r = ({ s with reachedGates := gates }.modifyRoutine r fun x =>
        { x with work := .reader q .handling rest }, .going) := by
  simp only [move, h, Work.next, next, Move.bind]
  split
  · refine ⟨s.reachedGates, ?_⟩
    split
    · exact .inr rfl
    · exact .inl rfl
  · refine ⟨gate :: s.reachedGates, ?_⟩
    split
    · exact .inr rfl
    · exact .inl rfl

end Moves

theorem callback_pop (x : MessageQueue) : x.pop.1.callback = x.callback := by
  unfold MessageQueue.pop
  split
  · rfl
  · split <;> rfl

end System

namespace Pipelines

open CoopSched.System (Frame)

variable {p : Pipeline κ} {stages : List Nat} {ref : Nat → RoutineRef} {sched : Scheduler}
  {s s' s'' : System κ} {t : Thread} {i : Nat}

/-! ## 2. What keeps a pipeline served -/

/-- Whatever serves a pipeline in `s` serves it in `s'`. -/
structure Steady (s s' : System κ) : Prop where
  frame : Frame Routine.placement s s'
  audible : ∀ g, (s'.group g).stopped = (s.group g).stopped
  size : s'.queues.size = s.queues.size
  callback : ∀ q, (s'.queue q).callback = (s.queue q).callback
  labels : s'.labels = s.labels

namespace Steady

theorem refl (s : System κ) : Steady s s := ⟨.refl _ s, fun _ => rfl, rfl, fun _ => rfl, rfl⟩

theorem trans (h₁ : Steady s s') (h₂ : Steady s' s'') : Steady s s'' where
  frame := h₁.frame.trans h₂.frame
  audible g := (h₂.audible g).trans (h₁.audible g)
  size := h₂.size.trans h₁.size
  callback q := (h₂.callback q).trans (h₁.callback q)
  labels := h₂.labels.trans h₁.labels

/-- The clock, the gates and the record do not matter. -/
theorem of_eq (routines : s'.routines = s.routines) (groups : s'.groups = s.groups)
    (queues : s'.queues = s.queues) (scheduler : s'.scheduler = s.scheduler)
    (labels : s'.labels = s.labels) : Steady s s' where
  frame := .of_eq routines groups scheduler
  audible g := congrArg (fun a : Arena Group => (a.get g).stopped) groups
  size := congrArg Arena.size queues
  callback q := congrArg (fun a : Arena MessageQueue => (a.get q).callback) queues
  labels := labels

theorem modifyRoutine (s : System κ) (r : RoutineRef) {f : Routine κ → Routine κ}
    (h : ∀ x, (f x).placement = x.placement) : Steady s (s.modifyRoutine r f) :=
  ⟨.modifyRoutine s r h, fun _ => rfl, rfl, fun _ => rfl, rfl⟩

theorem modifyQueue (s : System κ) (q : QueueRef) {f : MessageQueue → MessageQueue}
    (h : ∀ x, (f x).callback = x.callback) : Steady s (s.modifyQueue q f) where
  frame := System.frame_modifyQueue s q f
  audible _ := rfl
  size := Arena.size_modify ..
  callback a := by
    rw [System.queue_modifyQueue]
    split
    · exact h _
    · rfl
  labels := rfl

theorem notifyGroup (s : System κ) (g : GroupRef) : Steady s (s.modifyGroup g Group.notify) where
  frame := System.frame_notifyGroup s g
  audible := System.stopped_modifyGroup s g _ fun _ => rfl
  size := rfl
  callback _ := rfl
  labels := rfl

end Steady

theorem AtWork.of_steady (h : AtWork sched s) (steady : Steady s s') : AtWork sched s' where
  scheduler := steady.frame.scheduler.trans h.scheduler
  running := h.running
  agree := h.agree.of_frame steady.frame
  audible g hg := (steady.audible g).trans (h.audible g hg)

namespace Pipeline.Served

theorem of_steady (h : p.Served stages ref sched s) (steady : Steady s s') :
    p.Served stages ref sched s' where
  work := h.work.of_steady steady
  live := h.live
  own := h.own
  bound i hi := Nat.lt_of_lt_of_eq (h.bound i hi) steady.size.symm
  callback i hi := (steady.callback _).trans (h.callback i hi)

theorem lt (h : p.Served stages ref sched s) (hi : i ∈ stages) : ref i < s.routines.size :=
  (h.work.agree.task (h.live i hi)).bound

theorem routine_eq (h : p.Served stages ref sched s) (hi : i ∈ stages) : p.routine s i = ref i := by
  rw [Pipeline.routine, System.task?_eq h.work.scheduler, h.live i hi, Option.getD_some]

/-- A change of the routine of a stage. -/
theorem routine_modifyRoutine (h : p.Served stages ref sched s) (hi : i ∈ stages)
    (f : Routine κ → Routine κ) :
    (s.modifyRoutine (ref i) f).routine (ref i) = f (s.routine (ref i)) := by
  rw [System.routine_modifyRoutine, if_pos ⟨rfl, h.lt hi⟩]

/-! ## 3. Arrivals -/

/-- A message that arrives in the queue of a stage. -/
theorem push_eq (h : p.Served stages ref sched s) (hi : i ∈ stages) (t : Thread) (m : Int) :
    s.push t (p.queue i) m = (((s.modifyQueue (p.queue i) (·.push m)).flagIfWaiting
      (ref i)).notifyGroupNamed sched.roster (s.routine (ref i)).group).1 := by
  let put := s.modifyQueue (p.queue i) (·.push m)
  have served : p.Served stages ref sched put := h.of_steady (.modifyQueue s _ fun _ => rfl)
  have same : ((put.flagIfWaiting (ref i)).routine (ref i)).group = (s.routine (ref i)).group := by
    have framed : Frame Routine.placement put (put.flagIfWaiting (ref i)) :=
      System.frame_flagIfWaiting Routine.placement_ignoresStatus put _
    exact congrArg (fun place => place.2.1) (framed.routines.routine _ (served.lt hi))
  have own : put.scheduler.any (·.serial == sched.serial) = true := by
    rw [served.work.scheduler, Option.any_some, beq_self_eq_true]
  have told : (put.notifyProcessor (taskId (p.name i))).1 =
      ((put.flagIfWaiting (ref i)).notifyGroupNamed sched.roster (s.routine (ref i)).group).1 := by
    simp only [System.notifyProcessor, served.work.scheduler, h.work.running, Bool.false_eq_true,
      if_false, h.live i hi, same]
  show put.fireCallback t (p.queue i) = _
  rw [System.fireCallback, served.callback i hi, Option.getD_some]
  simp only [List.foldl_cons, List.foldl_nil, System.announce, own, if_true]
  exact told

/-- What arrives flags the routine of the stage if it waits, and that is all that it does to routines. -/
theorem push (h : p.Served stages ref sched s) (hi : i ∈ stages) (t : Thread) (m : Int) :
    Steady s (s.push t (p.queue i) m) ∧
      (∀ r, (s.push t (p.queue i) m).routine r =
        if r = ref i then (s.routine r).notified else s.routine r) ∧
      ∀ q, ((s.push t (p.queue i) m).queue q).messages =
        if q = p.queue i then (s.queue q).messages ++ [m] else (s.queue q).messages := by
  let put := s.modifyQueue (p.queue i) (·.push m)
  let flagged := put.flagIfWaiting (ref i)
  have putSteady : Steady s put := .modifyQueue s _ fun _ => rfl
  have flagSteady : Steady put flagged := by
    unfold flagged System.flagIfWaiting
    split
    · exact .modifyRoutine put _ fun _ => rfl
    · exact .refl put
  have routines : ∀ r, flagged.routine r = if r = ref i then (s.routine r).notified else s.routine r := by
    intro r
    unfold flagged System.flagIfWaiting
    by_cases own : r = ref i
    · subst own
      rw [if_pos rfl, Routine.notified]
      show (if (s.routine (ref i)).state.isWaiting = true then _ else put).routine (ref i) = _
      split
      · exact (h.of_steady putSteady).routine_modifyRoutine hi _
      · rfl
    · rw [if_neg own]
      split
      · rw [System.routine_modifyRoutine, if_neg fun hc => own hc.1.symm]
        rfl
      · rfl
  have queues : ∀ q, (flagged.queue q).messages =
      if q = p.queue i then (s.queue q).messages ++ [m] else (s.queue q).messages := by
    intro q
    have same : flagged.queue q = put.queue q := by
      unfold flagged System.flagIfWaiting
      split <;> rfl
    rw [same, System.queue_modifyQueue]
    by_cases own : q = p.queue i
    · subst own
      rw [if_pos ⟨rfl, h.bound i hi⟩, if_pos rfl, MessageQueue.messages_push]
    · rw [if_neg fun hc => own hc.1.symm, if_neg own]
  rw [h.push_eq hi]
  unfold System.notifyGroupNamed
  split
  · exact ⟨(putSteady.trans flagSteady).trans (.notifyGroup flagged _), routines, queues⟩
  · exact ⟨putSteady.trans flagSteady, routines, queues⟩

end Pipeline.Served

end Pipelines

end CoopSched
