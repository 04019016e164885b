import CoopSched.Proofs.Wakeup.Calm
import CoopSched.Proofs.Wakeup.Hearing
import CoopSched.Script
import CoopSched.System.Startup
/-!
# Messages in the queue of a task at rest

A task is at rest when no announcement of an arrival is under way and nobody holds its routine. Nothing
but an examination can then run the body again, so a message in the queue is stranded unless the routine
is due: ready, or waiting with its recheck flag up.

Results:
1. `createTask_eq_perform`, `World.Begins.created`: the creation of a task is the dispatch and the
   registration of the machine, and it leads to a world that is created.
2. `due_of_created`: after the creation no message is ever stranded.
3. `due_iff_told_of_missed`: if arrivals and turns overlap the creation, messages are stranded between two
   turns of the body in exactly the runs in which an arrival found no callback after the body had parked
   (`World.missed`), and nothing has put up the flag since (`World.told`).
-/

namespace CoopSched.Wakeup

variable {κ : Type} {T : Task} {c : κ} {w₀ w : World κ} {s : System κ} {creation : Creation}

/-! ## 1. Rest -/

/-- No announcement is under way, and nobody holds the routine. -/
structure World.AtRest (T : Task) (w : World κ) : Prop where
  announced : ∀ t since inside d, w.doing t ≠ .delivering since inside d
  free : (w.sys.routine T.routine).holder = none

/-- The next examination finds the routine ready, or makes it ready. -/
def Task.Due (T : Task) (s : System κ) : Prop :=
  (s.routine T.routine).state = .ready ∨
    (s.routine T.routine).state.isWaiting = true ∧ (s.routine T.routine).recheck = true

/-- At rest the routine of a parked body is due, or nothing has reached it since it parked. -/
theorem due_or_quiet (control : Control T w) (heard : Heard T w) (rest : w.AtRest T)
    (between : (T.view w.sys).stage = some .parking) :
    ((T.view w.sys).state = .ready ∨
        (T.view w.sys).state = .dataWait ∧ (T.view w.sys).recheck = true) ∧
      (0 < w.empties → w.told = true) ∨
    Quiet T w := by
  rcases heard.resting (.inl between) with ⟨promise, told⟩ | quiet
  · refine .inl ⟨?_, told⟩
    rcases promise with ready | flag | ⟨t, promoting⟩
    · exact .inl ready
    · rcases control.status (.inl between) with ready | waits
      · exact .inl ready
      · exact .inr ⟨waits, flag⟩
    · -- A thread that is promoting holds the routine.
      have held := control.holder_of promoting id
      exact absurd (held.symm.trans rest.free) nofun
  · exact .inr quiet

/-- A quiet task at rest has a message in its queue exactly if an arrival was missed. -/
theorem Quiet.full_iff_missed (h : Quiet T w) (rest : w.AtRest T) :
    (T.view w.sys).messages ≠ [] ↔ w.missed = true := by
  refine ⟨fun full => ?_, fun missed => h.present (.inl missed)⟩
  rcases h.awaited full with missed | ⟨t, inside, d, doing, -⟩
  · exact missed
  · exact absurd doing (rest.announced t _ inside d)

/-! ## 2. Beginnings -/

theorem Task.Fresh.control (fresh : T.Fresh c s) (stands : T.Stands creation s) :
    Control T { sys := s, creation } where
  stands := stands
  held t held := absurd (fresh.holder.symm.trans held) nofun
  outside t _ := trivial
  free _ := .inr (.inl (congrArg stageOf fresh.work))
  status _ := .inl fresh.state
  announces doing := by cases doing

theorem Task.Fresh.heard (fresh : T.Fresh c s) : Heard T { sys := s, creation } where
  resting _ := .inl ⟨.inl fresh.state, fun emptied => absurd emptied (Nat.lt_irrefl 0)⟩
  busy busy := absurd (.inl (congrArg stageOf fresh.work)) busy
  late missed := by cases missed

theorem World.Begins.stands (begins : w.Begins T c) : T.Stands .begun w.sys where
  routine := begins.fresh.routine
  queue := begins.fresh.queue
  id := begins.fresh.id
  stopped := begins.fresh.stopped
  serial := begins.fresh.serial
  reads := .inr ⟨_, _, begins.fresh.work⟩
  live began := absurd rfl began
  callback := begins.callback

theorem World.Created.stands (created : w.Created T c) : T.Stands .returned w.sys where
  routine := created.fresh.routine
  queue := created.fresh.queue
  id := created.fresh.id
  stopped := created.fresh.stopped
  serial := created.fresh.serial
  reads := .inr ⟨_, _, created.fresh.work⟩
  live _ := created.live
  callback := created.callback

/-- The task that a creation makes. -/
def Task.ofName (s : System κ) (sched : Scheduler) (q : QueueRef) (name : String) : Task where
  routine := s.routines.size
  queue := q
  serial := sched.serial
  id := (sched.names.register name).2

/-- A creation up to its dispatch. -/
def World.enrolling (s : System κ) (t : Thread) (sched : Scheduler) (q : QueueRef) (name : String)
    (c : κ) : World κ where
  sys := (s.enrolled t sched name (.reader q .parking c)).1
  creation := .begun

theorem begins_enrolling {sched : Scheduler} (hs : s.scheduler = some sched) {q : QueueRef}
    (hq : q < s.queues.size) (callback : (s.queue q).callback = none) (t : Thread) (name : String)
    (c : κ) : (World.enrolling s t sched q name c).Begins (.ofName s sched q name) c := by
  have new : (World.enrolling s t sched q name c).sys.routine s.routines.size =
      { id := (sched.names.register name).2, name, work := .reader q .parking c,
        wakeAt := s.now } := (Arena.get_add ..).trans (if_pos rfl)
  refine ⟨⟨System.enrolled_lt .., hq, ?_, ?_, ?_, ?_, ?_, ?_, ?_⟩, callback, rfl⟩
  · exact congrArg (fun x => x.id) new
  · show (s.scheduler.map _).map _ = _
    rw [hs]
    rfl
  · exact congrArg (fun x => x.state) new
  · exact congrArg (fun x => x.holder) new
  · exact congrArg (fun x => x.recheck) new
  · exact congrArg (fun x => x.stopped) new
  · exact congrArg (fun x => x.work) new

variable [Program κ]

theorem World.Begins.perform_dispatch (begins : w.Begins T c) {t : Thread}
    (granted : (w.sys.dispatch t T.routine).2 = true) :
    (w.perform T (.dispatch t)).perform T .register =
      { sys := (w.sys.dispatch t T.routine).1.modifyQueue T.queue (·.install T.callback)
        creation := .returned } := by
  obtain ⟨-, view⟩ := Task.dispatch_of_granted t begins.stands granted
  have down : ((w.sys.dispatch t T.routine).1.routine T.routine).recheck = false :=
    (congrArg View.recheck view).trans begins.fresh.recheck
  rw [begins.world] at granted down ⊢
  cases outcome : w.sys.dispatch t T.routine with
  | mk s' yes =>
    rw [outcome] at granted down
    cases granted
    simp only [World.perform, World.become, outcome]
    simp [down]

/-- Once the dispatch has granted it, the task is created by the registration. -/
theorem World.Begins.created (begins : w.Begins T c) {t : Thread}
    (granted : (w.sys.dispatch t T.routine).2 = true) :
    ((w.perform T (.dispatch t)).perform T .register).Created T c := by
  obtain ⟨dispatched, view⟩ := Task.dispatch_of_granted t begins.stands granted
  have stands := Task.stands_install dispatched
  have same := (Task.view_install dispatched).trans view
  rw [begins.perform_dispatch granted]
  refine ⟨⟨stands.routine, stands.queue, stands.id, stands.serial, ?_, ?_, ?_, stands.stopped, ?_⟩,
    stands.live nofun, stands.callback, rfl⟩
  · exact (congrArg View.state same).trans begins.fresh.state
  · exact (congrArg View.holder same).trans begins.fresh.holder
  · exact (congrArg View.recheck same).trans begins.fresh.recheck
  · exact (congrArg View.work same).trans begins.fresh.work

/-- A creation that nothing interrupts is the dispatch and the registration of the machine. -/
theorem createTask_eq_perform {sched : Scheduler} (hs : s.scheduler = some sched)
    (running : sched.stopped = false) {q : QueueRef} (hq : q < s.queues.size)
    (callback : (s.queue q).callback = none) (t : Thread) (name : String) (c : κ)
    (granted : (s.createTask t (.reader q .parking c) name (some q)).2 = true) :
    (((World.enrolling s t sched q name c).perform (.ofName s sched q name) (.dispatch t)).perform
      (.ofName s sched q name) .register).sys =
        (s.createTask t (.reader q .parking c) name (some q)).1 := by
  have begins := begins_enrolling hs hq callback t name c
  rw [System.createTask_eq hs running] at granted ⊢
  cases outcome : (s.enrolled t sched name (.reader q .parking c)).1.dispatch t
      (s.enrolled t sched name (.reader q .parking c)).2 with
  | mk s' yes =>
    rw [outcome] at granted
    cases yes with
    | false => cases granted
    | true =>
      have same : (World.enrolling s t sched q name c).sys.dispatch t
          (Task.ofName s sched q name).routine = (s', true) := outcome
      rw [begins.perform_dispatch (congrArg Prod.snd same), same]
      rfl

/-! ## 3. Runs -/

theorem Control.run (h : Control T w₀) (run : World.Run T w₀ w) : Control T w := by
  induction run with
  | refl => exact h
  | step run a allowed ih => exact ih.effect (ih.perform_effect a allowed)

theorem Heard.run (h : Heard T w₀) (control : Control T w₀) (run : World.Run T w₀ w) :
    Heard T w := by
  induction run with
  | refl => exact h
  | step run a allowed ih =>
    have before := control.run run
    exact ih.effect before (before.perform_effect a allowed)

theorem Calm.run {calm : κ → Prop} (h : Calm T calm w₀) (steady : Steady calm)
    (control : Control T w₀) (run : World.Run T w₀ w) : Calm T calm w := by
  induction run with
  | refl => exact h
  | step run a allowed ih => exact ih.effect steady ((control.run run).perform_effect a allowed)

theorem World.Begins.invariants (begins : w₀.Begins T c) (run : World.Run T w₀ w) :
    Control T w ∧ Heard T w := by
  have control : Control T w₀ := by
    rw [begins.world]
    exact begins.fresh.control begins.stands
  have heard : Heard T w₀ := by
    rw [begins.world]
    exact begins.fresh.heard
  exact ⟨control.run run, heard.run control run⟩

theorem World.Created.invariants (created : w₀.Created T c) {calm : κ → Prop}
    (steady : Steady calm) (calms : ∀ message, calm (Program.deliver c message))
    (run : World.Run T w₀ w) : Control T w ∧ Heard T w ∧ Calm T calm w := by
  have control : Control T w₀ := by
    rw [created.world]
    exact created.fresh.control created.stands
  have heard : Heard T w₀ := by
    rw [created.world]
    exact created.fresh.heard
  have mild : Calm T calm w₀ := by
    have work : (T.view w₀.sys).work = .reader T.queue .parking c := created.fresh.work
    refine ⟨congrArg World.creation created.world, congrArg World.missed created.world, ?_, ?_⟩
    · rw [work]
      exact .between nofun calms
    · intro handling
      exact absurd ((congrArg stageOf work).symm.trans handling) nofun
  exact ⟨control.run run, heard.run control run, mild.run steady control run⟩

/-! ## 4. No message is stranded after the creation -/

/-- The creation of the task has returned, and its callback neither gives up its turn nor panics. Then,
whatever producers, processors and the body do, a message in the queue of the task at rest finds its
routine ready, or waiting with the recheck flag up. -/
theorem due_of_created {calm : κ → Prop} (steady : Steady calm)
    (calms : ∀ message, calm (Program.deliver c message)) (created : w₀.Created T c)
    (run : World.Run T w₀ w) (rest : w.AtRest T) (full : (w.sys.queue T.queue).messages ≠ []) :
    (w.sys.routine T.routine).state = .ready ∨
      (w.sys.routine T.routine).state = .dataWait ∧ (w.sys.routine T.routine).recheck = true := by
  obtain ⟨control, heard, mild⟩ := created.invariants steady calms run
  have between := mild.stage_of_free control rest.free
  rcases due_or_quiet control heard rest between with ⟨due, -⟩ | quiet
  · exact due
  · -- A quiet task with a message would have missed its arrival, but the callback was there.
    have missed := (quiet.full_iff_missed rest).mp full
    exact absurd (missed.symm.trans mild.found) nofun

/-- A scheduler with one group, and a queue with a new reader whose callback does nothing. -/
def newReader : System Script :=
  ((System.startScheduler {} .main { groups := [{ name := "group" }] }).addQueue.1.addRoutine 7
    "reader" (.reader 0 .parking (.ofActions []))).1

def reader : Task := { routine := 0, queue := 0, serial := 0, id := 7 }

/-- The creation of the reader has only begun. -/
def readerBegun : World Script := { sys := newReader, creation := .begun }

theorem begins_readerBegun : readerBegun.Begins reader (.ofActions []) :=
  ⟨⟨Nat.one_pos, Nat.one_pos, rfl, rfl, rfl, rfl, rfl, rfl, rfl⟩, rfl, rfl⟩

/-- A turn that finds the queue empty. -/
def parkingTurn (t : Thread) : List (Action Script) :=
  [.take t, .examine t, .enter t, .enter t, .enter t, .move t, .move t, .move t, .leave t]

/-- A message is pushed and announced to a task that waits. -/
def wakingPush (t : Thread) (message : Int) : List (Action Script) :=
  [.push t message, .deliver t, .deliver t, .deliver t, .deliver t, .deliver t, .deliver t]

/-- Its routine is dispatched, but no callback is registered yet. -/
def readerDispatched : World Script := readerBegun.perform reader (.dispatch .main)

/-- The creation of the reader has returned. -/
def readerCreated : World Script := readerDispatched.perform reader .register

/-- The body of the reader has parked before a message came. -/
def readerWoken : World Script :=
  (readerCreated.performAll reader (parkingTurn (.processor 0))).performAll reader
    (wakingPush .main 5)

theorem allowed_parkingTurn_created :
    readerCreated.AllowedAll reader (parkingTurn (.processor 0)) :=
  ⟨trivial, trivial, trivial, trivial, trivial, fun _ ⟨_, _, work⟩ => absurd work nofun,
    fun _ ⟨_, _, work⟩ => absurd work nofun, fun _ ⟨_, _, work⟩ => absurd work nofun, trivial, trivial⟩

theorem run_readerWoken : World.Run reader readerCreated readerWoken := by
  have parked := (World.Run.refl readerCreated).performAll allowed_parkingTurn_created
  refine parked.performAll ?_
  exact ⟨trivial, trivial, trivial, trivial, trivial, trivial, trivial, trivial⟩

theorem atRest_readerWoken : readerWoken.AtRest reader := by
  refine ⟨fun t => ?_, rfl⟩
  by_cases pushes : t = .main
  · subst pushes
    exact nofun
  · by_cases runs : t = .processor 0
    · subst runs
      exact nofun
    · have away : readerWoken.doing t = .away := by
        refine (World.doing_performAll_of_ne reader _ ?_).trans
          (World.doing_performAll_of_ne reader readerCreated ?_)
        · simp [wakingPush, Action.thread?, Ne.symm pushes]
        · simp [parkingTurn, Action.thread?, Ne.symm runs]
      rw [away]
      exact nofun

/-- Callbacks without anything to do. -/
def Script.IsIdle (c : Script) : Prop := c.actions = [] ∧ c.todo = []

theorem steady_isIdle : Steady Script.IsIdle := by
  have next : ∀ {labels : Labels} {c : Script}, Script.IsIdle c →
      Program.next labels c = .finish c := by
    rintro labels ⟨actions, counter, message, todo⟩ ⟨-, rfl⟩
    rfl
  refine ⟨fun idle step => ?_, fun reply idle step => ?_, fun idle step => ?_,
    fun message idle step => ?_, fun idle step => ?_, fun idle step => ?_⟩
  · cases (next idle).symm.trans step
  · cases (next idle).symm.trans step
  · cases (next idle).symm.trans step
  · cases (next idle).symm.trans step
    exact ⟨idle.1, idle.1⟩
  · cases (next idle).symm.trans step
  · cases (next idle).symm.trans step

/-- The message that came after the body had parked will be looked for. -/
theorem due_readerWoken : (readerWoken.sys.queue 0).messages = [5] ∧
    ((readerWoken.sys.routine 0).state = .ready ∨
      (readerWoken.sys.routine 0).state = .dataWait ∧
        (readerWoken.sys.routine 0).recheck = true) :=
  ⟨rfl, due_of_created (T := reader) steady_isIdle (fun _ => ⟨rfl, rfl⟩)
    (begins_readerBegun.created (t := .main) rfl) run_readerWoken atRest_readerWoken nofun⟩

/-! ## 5. Messages that a creation strands -/

/-- The task is at rest, and its body is between two of its turns, not in the middle of one. The run has recorded
whether, since the body last found the queue empty, an arrival found no callback (`missed`), and whether since
then the recheck flag was up at any time (`told`). A message in the queue leaves the routine due in all the runs
but those that have missed an arrival and were never told. -/
theorem due_iff_told_of_missed (begins : w₀.Begins T c) (run : World.Run T w₀ w)
    (rest : w.AtRest T) (between : stageOf (w.sys.routine T.routine).work = some .parking) :
    ((w.sys.queue T.queue).messages ≠ [] → T.Due w.sys) ↔ (w.missed = true → w.told = true) := by
  obtain ⟨control, heard⟩ := begins.invariants run
  rcases due_or_quiet control heard rest between with ⟨due, told⟩ | quiet
  · refine ⟨fun _ missed => told (heard.late missed), fun _ _ => ?_⟩
    rcases due with ready | ⟨waits, flag⟩
    · exact .inl ready
    · exact .inr ⟨congrArg State.isWaiting waits, flag⟩
  · have undue : ¬ T.Due w.sys := by
      rintro (ready | ⟨-, flag⟩)
      · exact absurd (ready.symm.trans quiet.state) nofun
      · exact absurd (flag.symm.trans quiet.recheck) nofun
    rw [quiet.untold, ← quiet.full_iff_missed rest]
    refine ⟨fun due full => absurd (due full) undue, fun told full => absurd (told full) nofun⟩

/-- Run and parked, then pushed to without a callback, and only then registered. -/
def readerLate : World Script :=
  ((readerDispatched.performAll reader (parkingTurn (.processor 0))).performAll reader
    [.push .helper 5, .deliver .helper]).perform reader .register

theorem allowed_parkingTurn_dispatched :
    readerDispatched.AllowedAll reader (parkingTurn (.processor 0)) :=
  ⟨trivial, trivial, trivial, trivial, trivial, fun _ ⟨_, _, work⟩ => absurd work nofun,
    fun _ ⟨_, _, work⟩ => absurd work nofun, fun _ ⟨_, _, work⟩ => absurd work nofun, trivial, trivial⟩

theorem run_readerLate : World.Run reader readerBegun readerLate := by
  have dispatched := (World.Run.refl (T := reader) readerBegun).step (.dispatch .main) trivial
  have parked := dispatched.performAll allowed_parkingTurn_dispatched
  refine (parked.performAll ?_).step .register trivial
  exact ⟨trivial, trivial, trivial⟩

theorem atRest_readerLate : readerLate.AtRest reader := by
  refine ⟨fun t => ?_, rfl⟩
  by_cases pushes : t = .helper
  · subst pushes
    exact nofun
  · by_cases runs : t = .processor 0
    · subst runs
      exact nofun
    · have away : readerLate.doing t = .away := by
        refine (World.doing_perform_of_ne reader _ ?_).trans
          ((World.doing_performAll_of_ne reader _ ?_).trans
            (World.doing_performAll_of_ne reader _ ?_))
        · simp [Action.thread?]
        · simp [Action.thread?, Ne.symm pushes]
        · simp [parkingTurn, Action.thread?, Ne.symm runs]
      rw [away]
      exact nofun

/-- The arrival was missed and nothing else has reached the task, so it is not due. -/
theorem undue_readerLate : readerLate.missed = true ∧ readerLate.told = false ∧
    ¬ ((readerLate.sys.queue 0).messages ≠ [] → reader.Due readerLate.sys) := by
  refine ⟨rfl, rfl, fun due => ?_⟩
  have told := (due_iff_told_of_missed begins_readerBegun run_readerLate atRest_readerLate rfl).mp due
  exact absurd (told rfl) nofun

/-- A creation that has returned, after which the task lives on with a message in its queue that nothing
will make it look for. -/
theorem stranded_by_creation :
    readerBegun.Begins reader (.ofActions []) ∧ World.Run reader readerBegun readerLate ∧
      readerLate.creation = .returned ∧ readerLate.AtRest reader ∧
      reader.Live readerLate.sys ∧ (readerLate.sys.routine 0).stopped = false ∧
      (readerLate.sys.routine 0).work = .reader 0 .parking (.ofActions []) ∧
      (readerLate.sys.queue 0).messages = [5] ∧
      (readerLate.sys.routine 0).state = .dataWait ∧ (readerLate.sys.routine 0).recheck = false :=
  ⟨begins_readerBegun, run_readerLate, rfl, atRest_readerLate, rfl, rfl, rfl, rfl, rfl, rfl⟩

end CoopSched.Wakeup
