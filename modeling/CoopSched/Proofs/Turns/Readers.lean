import CoopSched.Proofs.Turns.Causes
import CoopSched.Proofs.Turns.Finished
import CoopSched.Proofs.Turns.Messages
import CoopSched.Proofs.Wakeup.Calm
/-!
# Where a reader stands

A task reads a queue with a callback that neither gives up its turn nor panics. Nobody touches its state and its
flag but its own body, the searches, and the callback that announces the arrivals of its queue (`Private`), and it
is released only between its turns (`Restrained`). Whoever does whatever else, the task is in one of four stages:

* ready, between two turns;
* parked, between two turns, waiting or finished;
* looking, in a turn that has not found a message yet;
* busy, in a turn that has found one.

`Stands.perform` lists the ways from one stage to another. There are two into the ready one: a promotion, and the end
of a turn that was busy.
-/

namespace CoopSched.Turns

open CoopSched.Wakeup (CalmBody Steady Task)

variable {κ : Type}

/-! ## 1. Stages -/

/-- The state of a task that has no reason to run. -/
def IsIdle (state : State) : Prop := state = .dataWait ∨ state = .finished

/-- How far a task is with its messages. -/
inductive Stage where
  | ready
  | parked
  | looking
  | busy
  deriving DecidableEq, Repr, Inhabited

/-- The stage of a task, known from whether a thread is in a turn of it, from where its body stands, and from its
state. A body that has begun its turn has not declared itself waiting yet. -/
inductive Stage.Fits (inside : Prop) : Stage → ReaderPhase → State → Prop
  | ready {state : State} : ¬inside → state = .ready → Fits inside .ready .parking state
  | parked {state : State} : ¬inside → IsIdle state → Fits inside .parked .parking state
  | begun {state : State} : inside → Fits inside .looking .parking state
  | looking {phase : ReaderPhase} {state : State} : inside → phase = .fetching ∨ phase = .idle → IsIdle state →
      Fits inside .looking phase state
  | busy {phase : ReaderPhase} {state : State} : inside → phase = .handling ∨ phase = .handled →
      Fits inside .busy phase state

theorem Stage.Fits.congr {inside inside' : Prop} {stage : Stage} {phase : ReaderPhase} {state : State}
    (h : stage.Fits inside phase state) (same : inside' ↔ inside) : stage.Fits inside' phase state := by
  cases h with
  | ready away ready => exact .ready (mt same.mp away) ready
  | parked away idle => exact .parked (mt same.mp away) idle
  | begun there => exact .begun (same.mpr there)
  | looking there looks idle => exact .looking (same.mpr there) looks idle
  | busy there has => exact .busy (same.mpr there) has

theorem Stage.Fits.inside_iff {inside : Prop} {stage : Stage} {phase : ReaderPhase} {state : State}
    (h : stage.Fits inside phase state) : inside ↔ stage = .looking ∨ stage = .busy := by
  cases h with
  | ready away _ => simp [away]
  | parked away _ => simp [away]
  | begun there => simp [there]
  | looking there _ _ => simp [there]
  | busy there _ => simp [there]

/-- Between two turns a task is ready or parked, and its body is about to begin. -/
theorem Stage.Fits.of_vacant {inside : Prop} {stage : Stage} {phase : ReaderPhase} {state : State}
    (h : stage.Fits inside phase state) (vacant : ¬inside) :
    phase = .parking ∧ (stage = .ready ∧ state = .ready ∨ stage = .parked ∧ IsIdle state) := by
  cases h with
  | ready _ ready => exact ⟨rfl, .inl ⟨rfl, ready⟩⟩
  | parked _ idle => exact ⟨rfl, .inr ⟨rfl, idle⟩⟩
  | begun there => exact absurd there vacant
  | looking there _ _ => exact absurd there vacant
  | busy there _ => exact absurd there vacant

theorem Stage.Fits.of_ready {inside : Prop} {stage : Stage} {phase : ReaderPhase}
    (h : stage.Fits inside phase .ready) (vacant : ¬inside) : phase = .parking ∧ stage = .ready := by
  obtain ⟨parks, ⟨ready, -⟩ | ⟨-, idle⟩⟩ := h.of_vacant vacant
  · exact ⟨parks, ready⟩
  · rcases idle with absurd | absurd <;> cases absurd

section Rules

variable [Program κ]

/-- Is it the arrival callback that the creation of a task has installed, which announces the message of an action? -/
def announces (T : Task) (w : World κ) (a : Action κ) : Bool :=
  (pushed? T.queue w a).isSome && decide ((w.sys.queue T.queue).callback = some T.callback)

/-- State and flag of a task are touched only by its own body, by searches, and by its arrival callback. -/
structure Private (T : Task) (w : World κ) (a : Action κ) : Prop where
  calls : ∀ op, op = .wake ∨ op = .hangUp ∨ op = .recheck ∨ op = .update →
    World.Applies T.routine op w a → w.turnOf? a = some T.routine
  sets : ¬World.Sets T.routine a
  requests : 0 < asked T.routine w a → w.turnOf? a = some T.routine ∨ announces T w a = true

/-- Besides, nobody releases the task while a thread is in a turn of it. -/
structure Restrained (T : Task) (w : World κ) (a : Action κ) : Prop extends Private T w a where
  release : World.Applies T.routine .release w a → ¬InTurn w T.routine

/-- The body of a task and its state are those of a stage. -/
def Poised (T : Task) (calm : κ → Prop) (w : World κ) (stage : Stage) : Prop :=
  ∃ phase c, (w.sys.routine T.routine).work = .reader T.queue phase c ∧
    CalmBody T calm (.reader T.queue phase c) ∧
    stage.Fits (InTurn w T.routine) phase (w.sys.routine T.routine).state

/-- Where a task stands. A thread that is in a turn of it holds it. -/
structure Stands (T : Task) (calm : κ → Prop) (w : World κ) (stage : Stage) : Prop where
  routine : T.routine < w.sys.routines.size
  queue : T.queue < w.sys.queues.size
  holds : Holds w T.routine
  poised : Poised T calm w stage

/-- The ways from one stage to another. -/
inductive Goes (T : Task) (w : World κ) (a : Action κ) : Stage → Stage → Prop
  | stays (stage : Stage) : Goes T w a stage stage
  | promoted : promotes T.routine w a = true → Goes T w a .parked .ready
  | entered : Goes T w a .ready .looking
  | dropped : Goes T w a .ready .parked
  | found : ((w.perform a).sys.queue T.queue).messages.length < (w.sys.queue T.queue).messages.length →
      Goes T w a .looking .busy
  | left : Goes T w a .looking .parked
  | handled : Goes T w a .busy .ready

end Rules

/-! ## 2. The moves of a reader -/

section Moves

variable [Program κ] {w : World κ} {t : Thread} {r : RoutineRef} {q : QueueRef} {c : κ}

theorem perform_parking (inside : w.turn t = some r) (work : (w.sys.routine r).work = .reader q .parking c) :
    w.perform (.move t) = { w with
      sys := w.sys.modifyRoutine r fun x => { x with state := .dataWait, work := .reader q .fetching c } } := by
  have unlocked : lockOfMove? w.sys ((w.sys.routine r).work.next w.sys.labels) = none := by
    rw [work]
    rfl
  rw [World.perform, World.move_of_unlocked inside unlocked, System.move_parking work]
  rfl

theorem turn_fetching (inside : w.turn t = some r) (work : (w.sys.routine r).work = .reader q .fetching c) :
    (w.perform (.move t)).turn = w.turn := by
  have unlocked : lockOfMove? w.sys ((w.sys.routine r).work.next w.sys.labels) = none := by
    rw [work]
    rfl
  rw [World.perform, World.move_of_unlocked inside unlocked, System.move_fetching work]
  rfl

theorem perform_idle (inside : w.turn t = some r) (work : (w.sys.routine r).work = .reader q .idle c) :
    w.perform (.move t) = { w with
      sys := w.sys.modifyRoutine r fun x => { x with work := .reader q .parking c }
      turn := w.without t } := by
  have unlocked : lockOfMove? w.sys ((w.sys.routine r).work.next w.sys.labels) = none := by
    rw [work]
    rfl
  rw [World.perform, World.move_of_unlocked inside unlocked, System.move_idle work]
  rfl

theorem perform_handled (inside : w.turn t = some r) (work : (w.sys.routine r).work = .reader q .handled c) :
    w.perform (.move t) = { w with
      sys := w.sys.modifyRoutine r fun x => { x with state := .ready, work := .reader q .parking c }
      turn := w.without t } := by
  have unlocked : lockOfMove? w.sys ((w.sys.routine r).work.next w.sys.labels) = none := by
    rw [work]
    rfl
  rw [World.perform, World.move_of_unlocked inside unlocked, System.move_handled work]
  rfl

end Moves

section Steps

variable [Program κ] {T : Task} {calm : κ → Prop} {w : World κ} {a : Action κ} {t : Thread} {stage : Stage}

/-- A callback stays in its turn, or comes to its end there. -/
theorem perform_handling (steady : Steady calm) (bound : T.routine < w.sys.routines.size)
    (inside : w.turn t = some T.routine) {c : κ}
    (work : (w.sys.routine T.routine).work = .reader T.queue .handling c) (mild : calm c) :
    (w.perform (.move t)).turn = w.turn ∧ ∃ phase c',
      ((w.perform (.move t)).sys.routine T.routine).work = .reader T.queue phase c' ∧
      CalmBody T calm (.reader T.queue phase c') ∧ (phase = .handling ∨ phase = .handled) := by
  rw [World.perform]
  rcases w.move_cases t with blocked | ⟨r, there, -, moved⟩
  · rw [blocked]
    exact ⟨rfl, _, c, work, .handling mild, .inl rfl⟩
  · cases inside.symm.trans there
    have grows : w.sys.routines.size ≤ (w.sys.move t T.routine).1.routines.size := by
      have grown := (World.bounds_perform w (.move t)).1
      rwa [World.perform, moved] at grown
    have move := Task.move_handling (T := T) (t := t) bound grows work
    rw [moved]
    generalize ((w.sys.move t T.routine).1.routine T.routine).work = after at move ⊢
    generalize (w.sys.move t T.routine).2 = progress at move ⊢
    cases move with
    | skip next => exact ⟨rfl, _, _, rfl, .handling (steady.skip mild next), .inl rfl⟩
    | ask reply next => exact ⟨rfl, _, _, rfl, .handling (steady.ask reply mild next), .inl rfl⟩
    | pause next => exact absurd next (steady.pause mild)
    | await next => exact ⟨rfl, _, _, rfl, .handling (steady.await mild next), .inl rfl⟩
    | blocked next => exact ⟨rfl, _, _, rfl, .handling mild, .inl rfl⟩
    | finish next =>
      exact ⟨rfl, _, _, rfl, .between (by decide) fun message => steady.finish message mild next, .inr rfl⟩
    | panic next => exact absurd next (steady.panic mild)

/-- After a move of a thread that is in a turn of it. -/
theorem Stands.move (h : Stands T calm w stage) (steady : Steady calm) (inside : w.turn t = some T.routine) :
    ∃ stage', Poised T calm (w.perform (.move t)) stage' ∧ Goes T w (.move t) stage stage' := by
  obtain ⟨phase, c, work, body, fits⟩ := h.poised
  have there : InTurn w T.routine := ⟨t, inside⟩
  have vacant : ¬∃ u, w.without t u = some T.routine := by
    rintro ⟨u, left⟩
    rw [World.without] at left
    split at left
    · cases left
    · next other => exact other (Option.some.inj ((h.holds u left).symm.trans (h.holds t inside)))
  have changed : ∀ f, (w.sys.modifyRoutine T.routine f).routine T.routine = f (w.sys.routine T.routine) :=
    fun f => (System.routine_modifyRoutine ..).trans (if_pos ⟨rfl, h.routine⟩)
  have waits : phase ≠ .handling → ∀ message, calm (Program.deliver c message) := (body.of_between ·)
  cases fits with
  | ready away _ => exact absurd there away
  | parked away _ => exact absurd there away
  | begun =>
    refine ⟨.looking, ?_, .stays _⟩
    rw [perform_parking inside work]
    refine ⟨.fetching, c, ?_, .between (by decide) (waits (by decide)), .looking there (.inl rfl) (.inl ?_)⟩
    · exact congrArg Routine.work (changed _)
    · exact congrArg Routine.state (changed _)
  | looking _ looks idle =>
    rcases looks with rfl | rfl
    · have performed := perform_fetching inside work
      have kept : InTurn (w.perform (.move t)) T.routine := ⟨t, by rwa [turn_fetching inside work]⟩
      have state : ((w.perform (.move t)).sys.routine T.routine).state = (w.sys.routine T.routine).state := by
        rw [performed, System.routine_modifyRoutine]
        split <;> rfl
      have reached := work_of_reading h.routine inside work
      cases first : (w.sys.queue T.queue).messages with
      | nil =>
        rw [first] at reached
        exact ⟨.looking, ⟨.idle, c, reached, .between (by decide) (waits (by decide)),
          .looking kept (.inr rfl) (state ▸ idle)⟩, .stays _⟩
      | cons m rest =>
        rw [first] at reached
        have fewer : ((w.perform (.move t)).sys.queue T.queue).messages = rest := by
          rw [performed, System.queue_modifyRoutine, System.queue_modifyQueue, if_pos ⟨rfl, h.queue⟩,
            MessageQueue.messages_pop, first, List.tail_cons]
        refine ⟨.busy, ⟨.handling, _, reached, .handling (waits (by decide) m), .busy kept (.inl rfl)⟩,
          .found ?_⟩
        rw [fewer, first]
        exact Nat.lt_succ_self _
    · refine ⟨.parked, ?_, .left⟩
      rw [perform_idle inside work]
      refine ⟨.parking, c, ?_, .between (by decide) (waits (by decide)), .parked vacant ?_⟩
      · exact congrArg Routine.work (changed _)
      · exact (congrArg Routine.state (changed _)).symm ▸ idle
  | busy _ has =>
    rcases has with rfl | rfl
    · obtain ⟨turn, phase, c', reached, after, has⟩ :=
        perform_handling steady h.routine inside work body.of_handling
      exact ⟨.busy, ⟨phase, c', reached, after, .busy ⟨t, by rwa [turn]⟩ has⟩, .stays _⟩
    · refine ⟨.ready, ?_, .handled⟩
      rw [perform_handled inside work]
      refine ⟨.parking, c, ?_, .between (by decide) (waits (by decide)), .ready vacant ?_⟩
      · exact congrArg Routine.work (changed _)
      · exact congrArg Routine.state (changed _)

/-! ## 3. What others do -/

/-- Others leave the state of a task alone, unless they search for it or enter a turn of it. -/
theorem state_perform (rule : Private T w a) (other : w.turnOf? a ≠ some T.routine)
    (unentered : ∀ t, a ≠ .enter t T.routine) (unsearched : ∀ t g, a ≠ .operate t (.next g))
    (bound : T.routine < w.sys.routines.size) :
    ((w.perform a).sys.routine T.routine).state = (w.sys.routine T.routine).state := by
  have lenient : (World.only T.routine fun x y : Routine κ => y.state = x.state).Lenient :=
    { refl := fun _ _ _ => rfl
      trans := fun first second same => (second same).trans (first same)
      refl_queue := fun _ _ => trivial
      trans_queue := fun _ _ => trivial
      place := fun _ _ _ _ _ => rfl
      flag := fun _ _ _ => rfl
      stop := fun _ _ _ => rfl
      install := fun _ _ _ => trivial }
  have call : ∀ (op : RoutineOp) (t : Thread) (now : Nat) (x : Routine κ),
      World.Applies T.routine op w a → (op.change t now x).state = x.state := by
    intro op t now x applied
    have spared : op ≠ .wake ∧ op ≠ .hangUp ∧ op ≠ .update :=
      ⟨fun same => other (rule.calls op (.inl same) applied),
        fun same => other (rule.calls op (.inr (.inl same)) applied),
        fun same => other (rule.calls op (.inr (.inr (.inr same))) applied)⟩
    cases op with
    | wake => exact absurd rfl spared.1
    | hangUp => exact absurd rfl spared.2.1
    | update => exact absurd rfl spared.2.2
    | acquire =>
      simp only [RoutineOp.change, Routine.acquire]
      split <;> rfl
    | _ => rfl
  have covered : w.CoveredBy (World.only T.routine fun x y : Routine κ => y.state = x.state) a := by
    cases a with
    | enter t r => exact fun _ _ same => absurd (same ▸ rfl) (unentered t)
    | move t =>
      intro r inside
      have apart : r ≠ T.routine := by
        rintro rfl
        exact other inside
      refine ⟨fun _ _ _ => rfl, ?_⟩
      cases next : (w.sys.routine r).work.next w.sys.labels with
      | ask request rest =>
        cases request with
        | onRoutine x op => exact fun y now same => call op t now y ⟨r, rest, inside, same ▸ next⟩
        | setState state => exact fun _ same => absurd same apart
        | push p message => exact fun _ => trivial
        | fetch p => exact fun _ => trivial
        | _ => trivial
      | pause how rest => exact fun _ _ same => absurd same apart
      | finish rest => exact fun _ same => absurd same apart
      | panic reason => exact fun _ same => absurd same apart
      | skip rest => trivial
      | await gate rest => trivial
    | operate t o =>
      cases o with
      | next g => exact absurd rfl (unsearched t g)
      | onRoutine r op => exact fun x now same => call op t now x ⟨same, rfl⟩
      | setState r state => exact fun _ same => absurd same rule.sets
      | push p message => exact fun _ => trivial
      | fetch p => exact fun _ => trivial
      | _ => trivial
    | _ => trivial
  exact (World.within_perform lenient w covered).routine T.routine bound rfl

omit [Program κ] in
/-- If the holder of a routine is in no turn, nobody is in a turn of it. -/
theorem Holds.vacant {r : RoutineRef} (h : Holds w r) (free : w.turn t = none)
    (holder : (w.sys.routine r).holder = some t) : ¬InTurn w r := by
  rintro ⟨u, inside⟩
  cases (h u inside).symm.trans holder
  cases inside.symm.trans free

theorem inTurn_perform {r : RoutineRef} (other : w.turnOf? a ≠ some r) (unentered : ∀ t, a ≠ .enter t r) :
    InTurn (w.perform a) r ↔ InTurn w r := by
  constructor
  · rintro ⟨t, inside⟩
    rcases World.turn_perform_cases inside with before | ⟨enters, -⟩
    · exact ⟨t, before⟩
    · exact absurd enters (unentered t)
  · rintro ⟨t, inside⟩
    refine ⟨t, World.turn_perform_of_inside inside ?_⟩
    rintro rfl
    exact other inside

theorem Poised.of_same {w' : World κ} (h : Poised T calm w stage)
    (work : (w'.sys.routine T.routine).work = (w.sys.routine T.routine).work)
    (state : (w'.sys.routine T.routine).state = (w.sys.routine T.routine).state)
    (inTurn : InTurn w' T.routine ↔ InTurn w T.routine) : Poised T calm w' stage := by
  obtain ⟨phase, c, before, body, fits⟩ := h
  exact ⟨phase, c, work.trans before, body, state ▸ fits.congr inTurn⟩

/-- After an attempt to enter a turn of it. -/
theorem Stands.enter (h : Stands T calm w stage) (t : Thread) :
    ∃ stage', Poised T calm (w.perform (.enter t T.routine)) stage' ∧
      Goes T w (.enter t T.routine) stage stage' := by
  rw [World.perform]
  rcases w.enter_cases t T.routine with same | ⟨-, finished⟩ | ⟨n, refused⟩ | ⟨free, -, ready, holder, entered⟩
  · rw [same]
    exact ⟨stage, h.poised, .stays _⟩
  · obtain ⟨phase, c, work, body, fits⟩ := h.poised
    have changed := (w.sys.routine_modifyRoutine T.routine T.routine (·.setState .finished)).trans
      (if_pos ⟨rfl, h.routine⟩)
    have idle : IsIdle ((w.sys.modifyRoutine T.routine (·.setState .finished)).routine T.routine).state := by
      rw [changed]
      exact .inr rfl
    have poised : ∀ stage', Stage.Fits (InTurn w T.routine) stage' phase
        ((w.sys.modifyRoutine T.routine (·.setState .finished)).routine T.routine).state →
        Poised T calm { w with sys := w.sys.modifyRoutine T.routine (·.setState .finished) } stage' :=
      fun stage' fits => ⟨phase, c, (congrArg Routine.work changed).trans work, body, fits⟩
    rw [finished]
    cases fits with
    | ready away _ => exact ⟨.parked, poised _ (.parked away idle), .dropped⟩
    | parked away _ => exact ⟨.parked, poised _ (.parked away idle), .stays _⟩
    | begun there => exact ⟨.looking, poised _ (.begun there), .stays _⟩
    | looking there looks _ => exact ⟨.looking, poised _ (.looking there looks idle), .stays _⟩
    | busy there has => exact ⟨.busy, poised _ (.busy there has), .stays _⟩
  · rw [refused]
    exact ⟨stage, h.poised.of_same rfl rfl Iff.rfl, .stays _⟩
  · obtain ⟨phase, c, work, body, fits⟩ := h.poised
    have vacant := h.holds.vacant free holder
    have inside : InTurn { w with turn := fun u => if u = t then some T.routine else w.turn u } T.routine :=
      ⟨t, if_pos rfl⟩
    rw [ready] at fits
    obtain ⟨rfl, rfl⟩ := fits.of_ready vacant
    rw [entered]
    exact ⟨.looking, ⟨.parking, c, work, body, .begun inside⟩, .entered⟩

/-- After a search. -/
theorem Stands.search (h : Stands T calm w stage) (t : Thread) (g : GroupRef) :
    ∃ stage', Poised T calm (w.perform (.operate t (.next g))) stage' ∧
      Goes T w (.operate t (.next g)) stage stage' := by
  have other : w.turnOf? (.operate t (.next g)) ≠ some T.routine := nofun
  have work := (w.rests_perform (.operate t (.next g))).work T.routine h.routine other
  have inTurn : InTurn (w.perform (.operate t (.next g))) T.routine ↔ InTurn w T.routine :=
    inTurn_perform other fun _ => nofun
  obtain ⟨holder, searched⟩ := System.routine_nextRoutine h.routine t g
  have state : ((w.perform (.operate t (.next g))).sys.routine T.routine).state =
      if T.routine ∈ w.sys.inspected t g then ((w.sys.routine T.routine).update w.sys.now).state
      else (w.sys.routine T.routine).state := by
    refine (congrArg Routine.state searched).trans ?_
    split <;> rfl
  by_cases looked : T.routine ∈ w.sys.inspected t g
  · rw [if_pos looked] at state
    by_cases ready : ((w.sys.routine T.routine).update w.sys.now).state = .ready
    · obtain ⟨phase, c, before, body, fits⟩ := h.poised
      have vacant : ¬InTurn w T.routine := by
        rintro ⟨u, inside⟩
        cases (System.free_of_inspected looked).symm.trans (h.holds u inside)
      rw [ready] at state
      have poised : ∀ stage', Stage.Fits (InTurn (w.perform (.operate t (.next g))) T.routine) stage' phase
          ((w.perform (.operate t (.next g))).sys.routine T.routine).state →
          Poised T calm (w.perform (.operate t (.next g))) stage' :=
        fun stage' fits => ⟨phase, c, work.trans before, body, fits⟩
      obtain ⟨rfl, ⟨rfl, -⟩ | ⟨rfl, waits | finished⟩⟩ := fits.of_vacant vacant
      · exact ⟨.ready, poised _ (.ready (mt inTurn.mp vacant) state), .stays _⟩
      · have updated : updates T.routine w (.operate t (.next g)) = true := decide_eq_true looked
        have promoted : promotes T.routine w (.operate t (.next g)) = true := by
          rw [promotes, updated, waits, decide_eq_true state]
          rfl
        exact ⟨.ready, poised _ (.ready (mt inTurn.mp vacant) state), .promoted promoted⟩
      · rw [update_of_finished finished, finished] at ready
        cases ready
    · rw [Routine.update_eq_self ready] at state
      exact ⟨stage, h.poised.of_same work state inTurn, .stays _⟩
  · rw [if_neg looked] at state
    exact ⟨stage, h.poised.of_same work state inTurn, .stays _⟩

/-! ## 4. Whatever happens next -/

/-- All that an action can do to a task: it leaves the task in its stage, or leads it to another one. -/
theorem Stands.perform (h : Stands T calm w stage) (steady : Steady calm) (rule : Restrained T w a) :
    ∃ stage', Stands T calm (w.perform a) stage' ∧ Goes T w a stage stage' := by
  have bounds := w.bounds_perform a
  have goes : ∃ stage', Poised T calm (w.perform a) stage' ∧ Goes T w a stage stage' := by
    by_cases own : w.turnOf? a = some T.routine
    · cases a with
      | move t => exact h.move steady own
      | _ => cases own
    · by_cases enters : ∃ t, a = .enter t T.routine
      · obtain ⟨t, rfl⟩ := enters
        exact h.enter t
      · by_cases searches : ∃ t g, a = .operate t (.next g)
        · obtain ⟨t, g, rfl⟩ := searches
          exact h.search t g
        · have unentered : ∀ t, a ≠ .enter t T.routine := fun t same => enters ⟨t, same⟩
          have state := state_perform rule.toPrivate own unentered (fun t g same => searches ⟨t, g, same⟩) h.routine
          have work := (w.rests_perform a).work T.routine h.routine own
          exact ⟨stage, h.poised.of_same work state (inTurn_perform own unentered), .stays _⟩
  obtain ⟨stage', poised, goes⟩ := goes
  exact ⟨stage', ⟨Nat.lt_of_lt_of_le h.routine bounds.1, Nat.lt_of_lt_of_le h.queue bounds.2,
    h.holds.of_unreleased rule.release, poised⟩, goes⟩

end Steps

end CoopSched.Turns
