import CoopSched.Proofs.Wakeup.Machine
/-!
# What the steps do to the task

Of the system only a few things matter to the task of a reader: the state, the flag and the holder of its
routine, the stage its body is at, and the messages in its queue. `Task.view` shows these, and `Stands`
says that the task is connected to its queue and to its scheduler as its creation left it. Each operation
of the machine has one lemma here about both.
-/

namespace CoopSched.Wakeup

open CoopSched.System (Delivery Look Check)

variable {κ : Type} {T : Task} {s s' s'' : System κ} {creation : Creation}

/-! ## 1. The view -/

/-- The stage of a body that reads a queue. -/
def stageOf : Work κ → Option ReaderPhase
  | .reader _ stage _ => some stage
  | _ => none

/-- What matters of the system. -/
structure View (κ : Type) where
  state : State
  recheck : Bool
  holder : Option Thread
  work : Work κ
  messages : List Int

/-- The stage of the body. -/
def View.stage (v : View κ) : Option ReaderPhase := stageOf v.work

namespace Task

def view (T : Task) (s : System κ) : View κ where
  state := (s.routine T.routine).state
  recheck := (s.routine T.routine).recheck
  holder := (s.routine T.routine).holder
  work := (s.routine T.routine).work
  messages := (s.queue T.queue).messages

/-- The body reads the queue of the task, or is at its end. -/
def Reads (T : Task) (s : System κ) : Prop :=
  (s.routine T.routine).work = .finished ∨
    ∃ stage c, (s.routine T.routine).work = .reader T.queue stage c

/-- The task is there, and it is connected as far as its creation has come. -/
structure Stands (T : Task) (creation : Creation) (s : System κ) : Prop where
  routine : T.routine < s.routines.size
  queue : T.queue < s.queues.size
  id : (s.routine T.routine).id = T.id
  stopped : (s.routine T.routine).stopped = false
  serial : s.scheduler.map (·.serial) = some T.serial
  reads : T.Reads s
  live : creation ≠ .begun → T.Live s
  callback : (s.queue T.queue).callback = if creation = .returned then some T.callback else none

theorem Stands.of_spares (h : T.Stands creation s) (spares : T.Spares s s') (reads : T.Reads s') :
    T.Stands creation s' where
  routine := Nat.lt_of_lt_of_le h.routine spares.routines
  queue := Nat.lt_of_lt_of_le h.queue spares.queues
  id := spares.id.trans h.id
  stopped := spares.stopped.trans h.stopped
  serial := spares.serial.trans h.serial
  reads := reads
  live began := spares.live (h.live began)
  callback := spares.callback.trans h.callback

namespace Spares

theorem refl (T : Task) (s : System κ) : T.Spares s s :=
  ⟨Nat.le_refl _, Nat.le_refl _, rfl, rfl, rfl, rfl, fun live => live⟩

theorem trans (h₁ : T.Spares s s') (h₂ : T.Spares s' s'') : T.Spares s s'' where
  routines := Nat.le_trans h₁.routines h₂.routines
  queues := Nat.le_trans h₁.queues h₂.queues
  id := h₂.id.trans h₁.id
  stopped := h₂.stopped.trans h₁.stopped
  callback := h₂.callback.trans h₁.callback
  serial := h₂.serial.trans h₁.serial
  live live := h₂.live (h₁.live live)

theorem modifyRoutine (T : Task) (s : System κ) (r : RoutineRef) {f : Routine κ → Routine κ}
    (id : ∀ x, (f x).id = x.id) (stopped : ∀ x, (f x).stopped = x.stopped) :
    T.Spares s (s.modifyRoutine r f) where
  routines := Nat.le_of_eq (System.size_modifyRoutine ..).symm
  queues := Nat.le_refl _
  id := by
    rw [System.routine_modifyRoutine]
    split
    · exact id _
    · rfl
  stopped := by
    rw [System.routine_modifyRoutine]
    split
    · exact stopped _
    · rfl
  callback := rfl
  serial := rfl
  live live := live

theorem modifyQueue (T : Task) (s : System κ) (q : QueueRef) {f : MessageQueue → MessageQueue}
    (callback : ∀ x, (f x).callback = x.callback) : T.Spares s (s.modifyQueue q f) where
  routines := Nat.le_refl _
  queues := Nat.le_of_eq (Arena.size_modify ..).symm
  id := rfl
  stopped := rfl
  callback := by
    rw [System.queue_modifyQueue]
    split
    · exact callback _
    · rfl
  serial := rfl
  live live := live

end Spares

/-- What is true of the routine of the task after a change of it. -/
theorem routine_modifyRoutine (h : T.Stands creation s) (f : Routine κ → Routine κ) :
    (s.modifyRoutine T.routine f).routine T.routine = f (s.routine T.routine) := by
  rw [System.routine_modifyRoutine, if_pos ⟨rfl, h.routine⟩]

theorem queue_modifyQueue (h : T.Stands creation s) (f : MessageQueue → MessageQueue) :
    (s.modifyQueue T.queue f).queue T.queue = f (s.queue T.queue) := by
  rw [System.queue_modifyQueue, if_pos ⟨rfl, h.queue⟩]

theorem view_modifyRoutine (h : T.Stands creation s) (f : Routine κ → Routine κ) :
    T.view (s.modifyRoutine T.routine f) =
      { state := (f (s.routine T.routine)).state
        recheck := (f (s.routine T.routine)).recheck
        holder := (f (s.routine T.routine)).holder
        work := (f (s.routine T.routine)).work
        messages := (s.queue T.queue).messages } := by
  rw [view, routine_modifyRoutine h]
  rfl

/-- A change of the routine of the task that leaves its id, its stop flag and its work alone. -/
theorem Stands.modifyRoutine (h : T.Stands creation s) {f : Routine κ → Routine κ}
    (id : ∀ x, (f x).id = x.id) (stopped : ∀ x, (f x).stopped = x.stopped)
    (work : ∀ x, (f x).work = x.work) : T.Stands creation (s.modifyRoutine T.routine f) := by
  refine h.of_spares (.modifyRoutine T s T.routine id stopped) ?_
  unfold Reads
  rw [routine_modifyRoutine h, work]
  exact h.reads

/-! ## 2. Arrivals -/

theorem stands_push (h : T.Stands creation s) (message : Int) :
    T.Stands creation (s.modifyQueue T.queue (·.push message)) :=
  h.of_spares (.modifyQueue T s T.queue fun _ => rfl) h.reads

theorem view_push (h : T.Stands creation s) (message : Int) :
    T.view (s.modifyQueue T.queue (·.push message)) =
      { T.view s with messages := (T.view s).messages ++ [message] } := by
  rw [view, queue_modifyQueue h, MessageQueue.messages_push]
  rfl

/-- Where the announcement of an arrival can stand. Before the creation has returned, no announcement
finds a callback. -/
inductive Expects (T : Task) (creation : Creation) : Delivery → Prop
  | calling : T.Expects creation .calling
  | announcing : creation = .returned → T.Expects creation (.announcing T.callback)
  | reading : creation = .returned → T.Expects creation (.reading T.routine [])
  | flagging : creation = .returned → T.Expects creation (.flagging T.routine [])
  | telling : creation = .returned → T.Expects creation (.telling T.routine [])
  | told : creation = .returned → T.Expects creation (.announcing [])

theorem deliver_calling_of_returned (h : T.Stands .returned s) (t : Thread) :
    s.deliver t T.queue .calling = (s, .inl (.announcing T.callback)) := by
  have installed : (s.queue T.queue).callback = some T.callback := h.callback
  simp only [System.deliver, installed]

theorem deliver_calling_of_not_returned (h : T.Stands creation s) (early : creation ≠ .returned)
    (t : Thread) : s.deliver t T.queue .calling = (s, .inr ()) := by
  have missing : (s.queue T.queue).callback = none := h.callback.trans (if_neg early)
  simp only [System.deliver, missing]

theorem deliver_announcing (h : T.Stands .returned s) (t : Thread) :
    s.deliver t T.queue (.announcing T.callback) = (s, .inl (.reading T.routine [])) := by
  have live : s.notified? T.serial T.id = some T.routine := h.live nofun
  simp only [System.deliver, callback, live]

theorem stands_tellGroup (h : T.Stands creation s) : T.Stands creation (s.tellGroup T.routine) := by
  unfold System.tellGroup
  split
  · exact h
  · unfold System.notifyGroupNamed
    split
    · exact h.of_spares ⟨Nat.le_refl _, Nat.le_refl _, rfl, rfl, rfl, rfl, fun live => live⟩ h.reads
    · exact h

theorem view_tellGroup (s : System κ) (r : RoutineRef) : T.view (s.tellGroup r) = T.view s := by
  unfold System.tellGroup
  split
  · rfl
  · unfold System.notifyGroupNamed
    split <;> rfl

theorem stands_requestRecheck (h : T.Stands creation s) :
    T.Stands creation (s.modifyRoutine T.routine Routine.requestRecheck) :=
  h.modifyRoutine (fun _ => rfl) (fun _ => rfl) fun _ => rfl

theorem view_requestRecheck (h : T.Stands creation s) :
    T.view (s.modifyRoutine T.routine Routine.requestRecheck) =
      { T.view s with recheck := true } :=
  view_modifyRoutine h _

/-! ## 3. Processors -/

theorem acquire_of_free (h : T.Stands creation s) (free : (T.view s).holder = none) (t : Thread) :
    (s.acquire t T.routine).2 = true ∧ T.Stands creation (s.acquire t T.routine).1 ∧
      T.view (s.acquire t T.routine).1 = { T.view s with holder := some t } := by
  have granted : (s.routine T.routine).acquire t =
      ({ s.routine T.routine with holder := some t }, true) := Routine.acquire_of_free free t
  refine ⟨congrArg Prod.snd granted, ?_, ?_⟩
  · refine h.modifyRoutine ?_ ?_ ?_ <;> intro x <;> unfold Routine.acquire <;> split <;> rfl
  · unfold System.acquire
    rw [view_modifyRoutine h, granted]
    rfl

theorem acquire_of_held {u : Thread} (held : (T.view s).holder = some u) (t : Thread) :
    s.acquire t T.routine = (s, false) := by
  have held : (s.routine T.routine).holder = some u := held
  have refused : (s.routine T.routine).acquire t = (s.routine T.routine, false) := by
    simp only [Routine.acquire, held]
  unfold System.acquire
  rw [System.modifyRoutine_eq_self s (congrArg Prod.fst refused), refused]

theorem stands_release (h : T.Stands creation s) : T.Stands creation (s.release T.routine) :=
  h.modifyRoutine (fun _ => rfl) (fun _ => rfl) fun _ => rfl

theorem view_release (h : T.Stands creation s) :
    T.view (s.release T.routine) = { T.view s with holder := none } :=
  view_modifyRoutine h _

theorem stands_takeRecheck (h : T.Stands creation s) :
    T.Stands creation (s.modifyRoutine T.routine (·.takeRecheck.1)) :=
  h.modifyRoutine (fun _ => rfl) (fun _ => rfl) fun _ => rfl

theorem view_takeRecheck (h : T.Stands creation s) :
    T.view (s.modifyRoutine T.routine (·.takeRecheck.1)) = { T.view s with recheck := false } :=
  view_modifyRoutine h _

theorem stands_setState (h : T.Stands creation s) (state : State) :
    T.Stands creation (s.modifyRoutine T.routine (·.setState state)) :=
  h.modifyRoutine (fun _ => rfl) (fun _ => rfl) fun _ => rfl

theorem view_setState (h : T.Stands creation s) (state : State) :
    T.view (s.modifyRoutine T.routine (·.setState state)) = { T.view s with state } :=
  view_modifyRoutine h _

/-- The checks of a resume by the thread that holds the routine are passed. -/
theorem check_of_held (h : T.Stands creation s) (ready : (T.view s).state = .ready) {t : Thread}
    (held : (T.view s).holder = some t) (c : Check) :
    s.check t T.routine c = (s, match c with
      | .stopFlag => .inl .state
      | .state => .inl .holder
      | .holder => .inr true) := by
  have ready : (s.routine T.routine).state = .ready := ready
  have held : (s.routine T.routine).holder = some t := held
  cases c with
  | stopFlag => simp [System.check, h.stopped]
  | state => simp [System.check, ready]
  | holder => simp [System.check, held]

/-! ## 4. The body -/

/-- A change of the work of the routine of the task. -/
theorem stands_setWork (h : T.Stands creation s) {work : Work κ}
    (reads : work = .finished ∨ ∃ stage c, work = .reader T.queue stage c) :
    T.Stands creation (s.modifyRoutine T.routine fun x => { x with work }) := by
  refine h.of_spares (.modifyRoutine T s T.routine (fun _ => rfl) fun _ => rfl) ?_
  unfold Reads
  rw [routine_modifyRoutine h]
  exact reads

theorem view_setWork (h : T.Stands creation s) (work : Work κ) :
    T.view (s.modifyRoutine T.routine fun x => { x with work }) =
      { T.view s with work } :=
  view_modifyRoutine h _

/-- After a fetch the oldest message is gone. -/
theorem stands_fetch (h : T.Stands creation s) :
    T.Stands creation (s.modifyQueue T.queue (·.pop.1)) := by
  have callback : ∀ x : MessageQueue, x.pop.1.callback = x.callback := by
    intro x
    unfold MessageQueue.pop
    split
    · rfl
    · split <;> rfl
  exact h.of_spares (.modifyQueue T s T.queue callback) h.reads

theorem view_fetch (h : T.Stands creation s) :
    T.view (s.modifyQueue T.queue (·.pop.1)) =
      { T.view s with messages := (T.view s).messages.tail } := by
  rw [view, queue_modifyQueue h, MessageQueue.messages_pop]
  rfl

variable [Program κ] {c : κ} (t : Thread)

/-- The body declares itself waiting. -/
theorem move_parking (h : T.Stands creation s)
    (work : (s.routine T.routine).work = .reader T.queue .parking c) :
    (s.move t T.routine).2 = .going ∧ T.Stands creation (s.move t T.routine).1 ∧
      T.view (s.move t T.routine).1 =
        { T.view s with state := .dataWait, work := .reader T.queue .fetching c } := by
  have moved : s.move t T.routine = ((s.modifyRoutine T.routine (·.setState .dataWait)).modifyRoutine
      T.routine fun x => { x with work := .reader T.queue .fetching c }, .going) := by
    simp only [System.move, work, Work.next, System.serve]
  have waiting := stands_setState h .dataWait
  rw [moved]
  refine ⟨rfl, stands_setWork waiting (.inr ⟨_, _, rfl⟩), ?_⟩
  rw [view_setWork waiting, view_setState h]

/-- The body looks into its queue and finds nothing. -/
theorem move_fetching_of_empty (h : T.Stands creation s)
    (work : (s.routine T.routine).work = .reader T.queue .fetching c)
    (empty : (T.view s).messages = []) :
    (s.move t T.routine).2 = .going ∧ T.Stands creation (s.move t T.routine).1 ∧
      T.view (s.move t T.routine).1 = { T.view s with work := .reader T.queue .idle c } := by
  have fetched := stands_fetch h
  have none : (s.queue T.queue).pop.2 = none :=
    (s.queue T.queue).pop_eq_head?.trans (congrArg List.head? empty)
  have moved : s.move t T.routine = ((s.modifyQueue T.queue (·.pop.1)).modifyRoutine T.routine
      fun x => { x with work := .reader T.queue .idle c }, .going) := by
    simp only [System.move, work, Work.next, System.serve, System.fetch, none]
  rw [moved]
  refine ⟨rfl, stands_setWork fetched (.inr ⟨_, _, rfl⟩), ?_⟩
  rw [view_setWork fetched, view_fetch h, empty, List.tail_nil, ← empty]

/-- The body looks into its queue and finds a message. -/
theorem move_fetching_of_cons (h : T.Stands creation s)
    (work : (s.routine T.routine).work = .reader T.queue .fetching c) {message : Int}
    {rest : List Int} (full : (T.view s).messages = message :: rest) :
    (s.move t T.routine).2 = .going ∧ T.Stands creation (s.move t T.routine).1 ∧
      T.view (s.move t T.routine).1 =
        { T.view s with
          work := .reader T.queue .handling (Program.deliver c message), messages := rest } := by
  have fetched := stands_fetch h
  have head : (s.queue T.queue).pop.2 = some message :=
    (s.queue T.queue).pop_eq_head?.trans (congrArg List.head? full)
  have moved : s.move t T.routine = ((s.modifyQueue T.queue (·.pop.1)).modifyRoutine T.routine
      fun x => { x with work := .reader T.queue .handling (Program.deliver c message) },
      .going) := by
    simp only [System.move, work, Work.next, System.serve, System.fetch, head]
  rw [moved]
  refine ⟨rfl, stands_setWork fetched (.inr ⟨_, _, rfl⟩), ?_⟩
  rw [view_setWork fetched, view_fetch h, full, List.tail_cons]

/-- The body leaves its turn as it is. -/
theorem move_idle (h : T.Stands creation s)
    (work : (s.routine T.routine).work = .reader T.queue .idle c) :
    (s.move t T.routine).2 = .paused ∧ T.Stands creation (s.move t T.routine).1 ∧
      T.view (s.move t T.routine).1 = { T.view s with work := .reader T.queue .parking c } := by
  have left : T.Stands creation
      (s.modifyRoutine T.routine fun x => { x with work := .reader T.queue .parking c }) :=
    stands_setWork h (.inr ⟨_, _, rfl⟩)
  have moved : s.move t T.routine =
      ((s.modifyRoutine T.routine fun x => { x with work := .reader T.queue .parking c }),
        .paused) := by
    simp only [System.move, work, Work.next]
    refine Prod.ext ?_ rfl
    exact System.modifyRoutine_eq_self _ rfl
  rw [moved]
  exact ⟨rfl, left, view_setWork h _⟩

/-- The body leaves its turn to come back soon. -/
theorem move_handled (h : T.Stands creation s)
    (work : (s.routine T.routine).work = .reader T.queue .handled c) :
    (s.move t T.routine).2 = .paused ∧ T.Stands creation (s.move t T.routine).1 ∧
      T.view (s.move t T.routine).1 =
        { T.view s with state := .ready, work := .reader T.queue .parking c } := by
  have left : T.Stands creation
      (s.modifyRoutine T.routine fun x => { x with work := .reader T.queue .parking c }) :=
    stands_setWork h (.inr ⟨_, _, rfl⟩)
  have moved : s.move t T.routine =
      ((s.modifyRoutine T.routine fun x => { x with work := .reader T.queue .parking c }).modifyRoutine
        T.routine (·.setState .ready), .paused) := by
    simp only [System.move, work, Work.next, Routine.pause]
  rw [moved]
  refine ⟨rfl, stands_setState left .ready, ?_⟩
  rw [view_setState left, view_setWork h]

omit [Program κ] in
theorem work_setWork {r : RoutineRef} (hr : r < s.routines.size) (work : Work κ) :
    ((s.modifyRoutine r fun x => { x with work }).routine r).work = work := by
  rw [System.routine_modifyRoutine, if_pos ⟨rfl, hr⟩]

/-- What a move of a message callback makes of the body, and where it leaves the turn. -/
inductive CallbackMove (labels : Labels) (q : QueueRef) (c : κ) : Work κ → System.Progress → Prop
  | skip {k : κ} : Program.next labels c = .skip k →
      CallbackMove labels q c (.reader q .handling k) .going
  | ask {request : Request κ} {rest : Reply → κ} (reply : Reply) :
      Program.next labels c = .ask request rest →
      CallbackMove labels q c (.reader q .handling (rest reply)) .going
  | pause {how : Pause} {k : κ} : Program.next labels c = .pause how k →
      CallbackMove labels q c (.reader q .handling k) .paused
  | await {gate : String} {k : κ} : Program.next labels c = .await gate k →
      CallbackMove labels q c (.reader q .handling k) .going
  | blocked {gate : String} {k : κ} : Program.next labels c = .await gate k →
      CallbackMove labels q c (.reader q .handling c) (.atGate gate)
  | finish {k : κ} : Program.next labels c = .finish k →
      CallbackMove labels q c (.reader q .handled k) .going
  | panic {reason : String} : Program.next labels c = .panic reason →
      CallbackMove labels q c .finished .paused

theorem CallbackMove.reads {labels : Labels} {q : QueueRef} {work : Work κ}
    {progress : System.Progress} (h : CallbackMove labels q c work progress) :
    work = .finished ∨ ∃ stage c, work = .reader q stage c := by
  cases h with
  | panic next => exact .inl rfl
  | skip next => exact .inr ⟨_, _, rfl⟩
  | ask reply next => exact .inr ⟨_, _, rfl⟩
  | pause next => exact .inr ⟨_, _, rfl⟩
  | await next => exact .inr ⟨_, _, rfl⟩
  | blocked next => exact .inr ⟨_, _, rfl⟩
  | finish next => exact .inr ⟨_, _, rfl⟩

/-- After a turn that a callback gave up the body is at its end, or still in the callback. -/
theorem CallbackMove.paused_stage {labels : Labels} {q : QueueRef} {work : Work κ}
    (h : CallbackMove labels q c work .paused) :
    stageOf work = none ∨ stageOf work = some .handling := by
  cases h with
  | panic next => exact .inl rfl
  | pause next => exact .inr rfl

/-- In a turn that goes on the callback is not at its end, or has just come there. -/
theorem CallbackMove.going_stage {labels : Labels} {q : QueueRef} {work : Work κ}
    {progress : System.Progress} (h : CallbackMove labels q c work progress)
    (goes : progress ≠ .paused) :
    stageOf work = some .handled ∨ stageOf work = some .handling := by
  cases h with
  | panic next => exact absurd rfl goes
  | pause next => exact absurd rfl goes
  | finish next => exact .inl rfl
  | skip next => exact .inr rfl
  | ask reply next => exact .inr rfl
  | await next => exact .inr rfl
  | blocked next => exact .inr rfl

theorem move_handling (hr : T.routine < s.routines.size)
    (grows : s.routines.size ≤ (s.move t T.routine).1.routines.size)
    (work : (s.routine T.routine).work = .reader T.queue .handling c) :
    CallbackMove s.labels T.queue c ((s.move t T.routine).1.routine T.routine).work
      (s.move t T.routine).2 := by
  have inside := Nat.lt_of_lt_of_le hr grows
  revert inside
  unfold System.move
  rw [work, Work.next]
  cases next : Program.next s.labels c with
  | skip k =>
    intro _
    simp only [Move.bind]
    rw [work_setWork hr]
    exact .skip next
  | ask request rest =>
    simp only [Move.bind, System.size_modifyRoutine]
    intro inside
    rw [work_setWork inside]
    exact .ask _ next
  | pause how k =>
    intro _
    simp only [Move.bind]
    have paused : ∀ (x : Routine κ) (now : Nat), (x.pause now how).work = x.work := by
      intro x now
      cases how <;> rfl
    rw [System.routine_modifyRoutine, if_pos ⟨rfl, by rw [System.size_modifyRoutine]; exact hr⟩,
      paused, work_setWork hr]
    exact .pause next
  | await gate k =>
    intro _
    simp only [Move.bind]
    have reached : ∀ s' : System κ, s'.routines = s.routines →
        CallbackMove s.labels T.queue c ((if s'.openGates.contains gate then
          (s'.modifyRoutine T.routine fun x => { x with work := .reader T.queue .handling k }, .going)
          else (s', .atGate gate) : System κ × System.Progress).1.routine T.routine).work
        (if s'.openGates.contains gate then
          (s'.modifyRoutine T.routine fun x => { x with work := .reader T.queue .handling k }, .going)
          else (s', .atGate gate) : System κ × System.Progress).2 := by
      intro s' same
      split
      · rw [work_setWork (same ▸ hr)]
        exact .await next
      · have blocked : (s'.routine T.routine).work = .reader T.queue .handling c := by
          rw [System.routine, same]
          exact work
        rw [blocked]
        exact .blocked next
    apply reached
    split <;> rfl
  | finish k =>
    intro _
    simp only [Move.bind]
    rw [work_setWork hr]
    exact .finish next
  | panic reason =>
    intro _
    simp only [Move.bind]
    have closed : ((System.modifyRoutine (s.report t (.panicked (s.routine T.routine).name reason))
        T.routine fun x => { x with work := .finished, state := .finished }).routine
          T.routine).work = .finished := by
      rw [System.routine_modifyRoutine, if_pos ⟨rfl, hr⟩]
    rw [closed]
    exact .panic next

/-! ## 5. The creation -/

/-- A routine without its group and its priority. -/
def unplaced (x : Routine κ) : Routine κ := { x with group := "", priority := 0 }

omit [Program κ] in
/-- A dispatch that is granted makes the task live and leaves its routine and its queue as they were. -/
theorem dispatch_of_granted (h : T.Stands .begun s)
    (granted : (s.dispatch t T.routine).2 = true) :
    T.Stands .dispatched (s.dispatch t T.routine).1 ∧
      T.view (s.dispatch t T.routine).1 = T.view s := by
  have keeps : System.Keeps unplaced s (s.dispatch t T.routine).1 :=
    System.keeps_dispatch (fun _ _ _ => rfl) s t T.routine
  have same := keeps.routine T.routine h.routine
  have work : ((s.dispatch t T.routine).1.routine T.routine).work = (s.routine T.routine).work :=
    congrArg (fun x => x.work) same
  have state : ((s.dispatch t T.routine).1.routine T.routine).state = (s.routine T.routine).state :=
    congrArg (fun x => x.state) same
  have recheck : ((s.dispatch t T.routine).1.routine T.routine).recheck =
      (s.routine T.routine).recheck := congrArg (fun x => x.recheck) same
  have holder : ((s.dispatch t T.routine).1.routine T.routine).holder =
      (s.routine T.routine).holder := congrArg (fun x => x.holder) same
  obtain ⟨sched, hs, serial⟩ := Option.map_eq_some_iff.mp h.serial
  obtain ⟨running, new⟩ := (System.dispatch_granted_iff hs t T.routine).mp granted
  have dispatched := System.dispatch_eq hs running new t
  have queues : (s.dispatch t T.routine).1.queues = s.queues := by
    rw [dispatched, System.place_queues]
    rfl
  have scheduler : (s.dispatch t T.routine).1.scheduler =
      some { sched with tasks := sched.tasks.insert (s.routine T.routine).id T.routine } := by
    rw [dispatched, System.place_scheduler]
    exact congrArg (Option.map _) hs
  have queue : (s.dispatch t T.routine).1.queue T.queue = s.queue T.queue :=
    congrArg (fun a : Arena MessageQueue => a.get T.queue) queues
  refine ⟨⟨Nat.lt_of_lt_of_le h.routine keeps.size, ?_, ?_, ?_, ?_, ?_, fun _ => ?_, ?_⟩, ?_⟩
  · rw [queues]
    exact h.queue
  · exact (congrArg (fun x => x.id) same).trans h.id
  · exact (congrArg (fun x => x.stopped) same).trans h.stopped
  · rw [scheduler]
    exact congrArg some serial
  · unfold Reads
    rw [work]
    exact h.reads
  · simp only [Live, System.notified?, scheduler]
    rw [if_pos ⟨serial, running⟩, TaskTable.find?_insert new, if_pos h.id.symm]
  · rw [queue]
    exact h.callback
  · rw [view, view, state, recheck, holder, work, queue]

omit [Program κ] in
theorem stands_install (h : T.Stands .dispatched s) :
    T.Stands .returned (s.modifyQueue T.queue (·.install T.callback)) where
  routine := h.routine
  queue := Nat.lt_of_lt_of_eq h.queue (Arena.size_modify ..).symm
  id := h.id
  stopped := h.stopped
  serial := h.serial
  reads := h.reads
  live _ := h.live nofun
  callback := by
    rw [queue_modifyQueue h]
    rfl

omit [Program κ] in
theorem view_install (h : T.Stands creation s) :
    T.view (s.modifyQueue T.queue (·.install T.callback)) = T.view s := by
  rw [view, queue_modifyQueue h, MessageQueue.messages_install]
  rfl

end Task

end CoopSched.Wakeup
