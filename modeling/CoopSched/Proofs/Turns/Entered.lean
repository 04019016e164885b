import CoopSched.Proofs.Turns.Readers
import CoopSched.Proofs.Turns.Told
/-!
# How often a reader is run

A task that reads a queue becomes ready when it is built, when a promotion uses up its flag, and when it has handled
a message. Each promotion has its own request: a message that was announced, or a request of the body of the task
itself. So the number of turns of the task is at most 1, and 2 for each message, and 1 for each request of its own
(`Tallied.balance`). The potential that carries the proof is what the task may still be run for without a further
message: `Stage.owed`, its flag, and the messages in its queue.

If nothing is pushed any more, the requests of its own do not matter either: a body asks for another look only while
it has a message (`Goes.load_le`).
-/

namespace CoopSched.Turns

open CoopSched.Wakeup (CalmBody Steady Task)

variable {κ : Type} [Program κ] {T : Task} {calm : κ → Prop} {w w₀ : World κ} {a : Action κ} {stage stage' : Stage}

/-! ## 1. Tallies -/

/-- Does a thread enter a turn of the routine? -/
def enters (r : RoutineRef) (w : World κ) : Action κ → Bool
  | .enter t q => (w.turn t).isNone && decide ((w.enter t q).turn t = some r)
  | _ => false

/-- How often the body of a task asks for another look at the task, other than with a message that is announced. -/
def requestsOwn (T : Task) (w : World κ) (a : Action κ) : Nat :=
  if w.turnOf? a = some T.routine ∧ announces T w a = false then asked T.routine w a else 0

/-- How many turns of a task were entered, how many messages were put into its queue, and how often its own body has
asked for another look. -/
structure Tally where
  entered : Nat := 0
  messages : Nat
  requests : Nat := 0
  deriving DecidableEq, Repr

/-- The tally after an action. -/
def Tally.after (C : Tally) (T : Task) (w : World κ) (a : Action κ) : Tally where
  entered := C.entered + (enters T.routine w a).toNat
  messages := C.messages + (pushed? T.queue w a).isSome.toNat
  requests := C.requests + requestsOwn T w a

/-- Any number of actions that obey a rule, in any order, and the tally of them. What is in the queue at the beginning
counts as put in. -/
inductive Tallied (T : Task) (rule : World κ → Action κ → Prop) (w₀ : World κ) : World κ → Tally → Prop
  | start : Tallied T rule w₀ w₀ { messages := (w₀.sys.queue T.queue).messages.length }
  | step {w : World κ} {C : Tally} (run : Tallied T rule w₀ w C) (a : Action κ) (allowed : rule w a) :
      Tallied T rule w₀ (w.perform a) (C.after T w a)

/-- A task has just been built, with a callback that neither gives up its turn nor panics. -/
structure Built (T : Task) (calm : κ → Prop) (w : World κ) : Prop where
  fresh : ∃ c, T.Fresh c w.sys ∧ ∀ message, calm (Program.deliver c message)
  vacant : ∀ t, w.turn t ≠ some T.routine

theorem Built.stands (built : Built T calm w) : Stands T calm w .ready := by
  obtain ⟨c, fresh, calms⟩ := built.fresh
  have vacant : ¬InTurn w T.routine := fun ⟨t, inside⟩ => built.vacant t inside
  exact ⟨fresh.routine, fresh.queue, fun t inside => absurd inside (built.vacant t),
    .parking, c, fresh.work, .between nofun calms, .ready vacant fresh.state⟩

omit [Program κ] in
/-- The fresh routine of a creation is still fresh when the creation has been granted. -/
theorem fresh_createTask {s : System κ} {sched : Scheduler} (hs : s.scheduler = some sched) (t : Thread) {c : κ}
    (name : String) {q : QueueRef} (hq : q < s.queues.size)
    (created : (s.createTask t (.reader q .parking c) name (some q)).2 = true) :
    Task.Fresh { routine := s.routines.size, queue := q, serial := sched.serial, id := taskId name } c
      (s.createTask t (.reader q .parking c) name (some q)).1 := by
  let added := s.enrolled t sched name (.reader q .parking c)
  let dispatched := (added.1.dispatch t s.routines.size).1
  have queues : dispatched.queues = s.queues := System.queues_dispatch added.1 t s.routines.size
  have serial : serial? dispatched = some sched.serial := by
    refine (serial?_dispatch added.1 t s.routines.size).trans ?_
    show (s.scheduler.map _).map _ = _
    rw [hs]
    rfl
  have bound : s.routines.size < added.1.routines.size := System.enrolled_lt ..
  have keeps : System.Keeps Task.unplaced added.1 dispatched :=
    System.keeps_dispatch (fun _ _ _ => rfl) added.1 t s.routines.size
  have new : added.1.routine s.routines.size =
      { id := taskId name, name, work := .reader q .parking c, wakeAt := s.now } :=
    (Arena.get_add ..).trans (if_pos rfl)
  have same := (keeps.routine s.routines.size bound).trans (congrArg Task.unplaced new)
  rw [createTask_of_true hs created]
  exact {
    routine := Nat.lt_of_lt_of_le bound keeps.size
    queue := by
      rw [System.modifyQueue, Arena.size_modify, queues]
      exact hq
    id := congrArg (fun x => x.id) same
    serial := serial
    state := congrArg (fun x => x.state) same
    holder := congrArg (fun x => x.holder) same
    recheck := congrArg (fun x => x.recheck) same
    stopped := congrArg (fun x => x.stopped) same
    work := congrArg (fun x => x.work) same }

/-- What a creation makes is a task that has just been built. -/
theorem Built.of_create {sched : Scheduler} (hs : w.sys.scheduler = some sched) (t : Thread) (name : String) {c : κ}
    {q : QueueRef} (hq : q < w.sys.queues.size) (calms : ∀ message, calm (Program.deliver c message))
    (vacant : ∀ t, w.turn t ≠ some w.sys.routines.size)
    (created : (w.sys.createTask t (.reader q .parking c) name (some q)).2 = true) :
    Built { routine := w.sys.routines.size, queue := q, serial := sched.serial, id := taskId name } calm
      { w with sys := (w.sys.createTask t (.reader q .parking c) name (some q)).1 } :=
  ⟨⟨c, fresh_createTask hs t name hq created, calms⟩, vacant⟩

/-! ## 2. Turns that are entered -/

theorem of_enters {r : RoutineRef} (entered : enters r w a = true) :
    InTurn (w.perform a) r ∧ ∃ t, a = .enter t r ∧ w.turn t = none ∧ (w.sys.routine r).state = .ready ∧
      (w.sys.routine r).holder = some t := by
  cases a with
  | enter t q =>
    rw [enters, Bool.and_eq_true, Option.isNone_iff_eq_none, decide_eq_true_eq] at entered
    obtain ⟨free, inside⟩ := entered
    rcases World.turn_perform_cases (a := .enter t q) inside with before | ⟨same, -, -, ready, holder⟩
    · cases free.symm.trans before
    · exact ⟨⟨t, inside⟩, t, same, free, ready, holder⟩
  | _ => cases entered

/-- A task that is ready and in no turn is in the ready stage. -/
theorem Stands.eq_ready (h : Stands T calm w stage) (vacant : ¬InTurn w T.routine)
    (ready : (w.sys.routine T.routine).state = .ready) : stage = .ready := by
  obtain ⟨phase, c, -, -, fits⟩ := h.poised
  rw [ready] at fits
  exact (fits.of_ready vacant).2

/-- Turns are entered from the ready stage. -/
theorem Goes.of_enters (goes : Goes T w a stage stage') (h : Stands T calm w stage)
    (h' : Stands T calm (w.perform a) stage') (entered : enters T.routine w a = true) :
    stage = .ready ∧ stage' = .looking := by
  obtain ⟨inside, t, -, free, ready, holder⟩ := Turns.of_enters entered
  obtain ⟨phase, c, -, -, fits⟩ := h'.poised
  have first := h.eq_ready (h.holds.vacant free holder) ready
  have second := fits.inside_iff.mp inside
  subst first
  cases goes with
  | entered => exact ⟨rfl, rfl⟩
  | stays => exact absurd second (by decide)
  | dropped => exact absurd second (by decide)

/-! ## 3. Balances -/

/-- Whether a task is to be run once more, for what it has been told or has done. -/
def Stage.owed : Stage → Nat
  | .ready | .busy => 1
  | .parked | .looking => 0

/-- What the stages and the queue give for a turn that is entered. -/
theorem Goes.balance (goes : Goes T w a stage stage') (h : Stands T calm w stage)
    (h' : Stands T calm (w.perform a) stage') :
    (enters T.routine w a).toNat + stage'.owed + ((w.perform a).sys.queue T.queue).messages.length ≤
      stage.owed + (promotes T.routine w a).toNat + (w.sys.queue T.queue).messages.length +
        (pushed? T.queue w a).isSome.toNat := by
  have grows := length_perform (a := a) h.queue
  have counted : (enters T.routine w a).toNat ≤ if stage = .ready ∧ stage' = .looking then 1 else 0 := by
    cases entered : enters T.routine w a with
    | false => exact Nat.zero_le _
    | true =>
      rw [if_pos (goes.of_enters h h' entered)]
      exact Nat.le_refl _
  cases goes with
  | stays =>
    have apart : ¬(stage = .ready ∧ stage = .looking) := fun ⟨ready, looking⟩ => nomatch ready.symm.trans looking
    rw [if_neg apart] at counted
    omega
  | promoted promoted =>
    simp only [promoted, Stage.owed, reduceCtorEq, false_and, if_false, Bool.toNat_true] at counted ⊢
    omega
  | entered =>
    simp only [Stage.owed, and_self, if_true] at counted ⊢
    omega
  | found | dropped | left | handled =>
    simp only [Stage.owed, reduceCtorEq, and_false, if_false] at counted ⊢
    omega

/-- Who asks for another look is the body itself, or announces a message. -/
theorem Private.asked_le (rule : Private T w a) :
    (decide (0 < asked T.routine w a)).toNat ≤ requestsOwn T w a + (pushed? T.queue w a).isSome.toNat := by
  by_cases asks : 0 < asked T.routine w a
  · rw [decide_eq_true asks]
    cases announced : announces T w a with
    | true =>
      rw [announces, Bool.and_eq_true] at announced
      rw [announced.1]
      exact Nat.le_add_left _ _
    | false =>
      have own := (rule.requests asks).resolve_right (Bool.eq_false_iff.mp announced)
      rw [requestsOwn, if_pos ⟨own, announced⟩]
      exact Nat.le_trans asks (Nat.le_add_right _ _)
  · rw [decide_eq_false asks]
    exact Nat.zero_le _

/-- A turn that was entered, or may be entered without a further message, is accounted for: by the creation of the
task, a message, or a request of its own. -/
theorem Tallied.balance {C : Tally} (steady : Steady calm) (built : Built T calm w₀)
    (run : Tallied T (Restrained T) w₀ w C) : ∃ stage, Stands T calm w stage ∧
      C.entered + stage.owed + (w.sys.routine T.routine).recheck.toNat + (w.sys.queue T.queue).messages.length ≤
        1 + 2 * C.messages + C.requests := by
  induction run with
  | start =>
    obtain ⟨c, fresh, -⟩ := built.fresh
    refine ⟨.ready, built.stands, ?_⟩
    rw [fresh.recheck]
    simp only [Stage.owed, Bool.toNat_false]
    omega
  | @step w C _ a rule ih =>
    obtain ⟨stage, stands, balance⟩ := ih
    obtain ⟨stage', stands', goes⟩ := stands.perform steady rule
    refine ⟨stage', stands', ?_⟩
    have turns := goes.balance stands stands'
    have flags := recheck_balance w a stands.routine
    have asks := rule.asked_le
    simp only [Tally.after]
    omega

/-! ## 4. Without messages -/

/-- Outside its callback a reader makes no calls that have to do with flags. -/
theorem silent_of_phase {t : Thread} {r : RoutineRef} {q : QueueRef} {phase : ReaderPhase} {c : κ}
    (inside : w.turn t = some r) (work : (w.sys.routine r).work = .reader q phase c) (outside : phase ≠ .handling) :
    callOf? w (.move t) = none := by
  rw [callOf?, inside, Option.bind_some, work]
  cases phase with
  | handling => exact absurd rfl outside
  | _ => rfl

/-- A body that has no message asks for nothing. -/
theorem Stands.unasked (h : Stands T calm w stage) (idle : stage ≠ .busy)
    (own : w.turnOf? a = some T.routine) : asked T.routine w a = 0 := by
  obtain ⟨phase, c, work, -, fits⟩ := h.poised
  cases a with
  | move t =>
    have inside : w.turn t = some T.routine := own
    have outside : phase ≠ .handling := by
      rintro rfl
      cases fits with
      | looking _ looks _ => rcases looks with absurd | absurd <;> cases absurd
      | busy _ _ => exact idle rfl
    have calls := silent_of_phase inside work outside
    rw [asked, calls]
    rfl
  | _ => cases own

/-- How often a task may still be run without a further message. A flag that comes up while it has a message is paid
for by that message. -/
def load (T : Task) (w : World κ) (stage : Stage) : Nat :=
  stage.owed + (if stage = .busy then 1 else (w.sys.routine T.routine).recheck.toNat) +
    2 * (w.sys.queue T.queue).messages.length

/-- Without messages the load does not grow, and to leave the ready stage costs one. -/
theorem Goes.load_le (goes : Goes T w a stage stage') (h : Stands T calm w stage) (rule : Private T w a)
    (unpushed : pushed? T.queue w a = none) :
    load T (w.perform a) stage' + (if stage = .ready ∧ stage' ≠ .ready then 1 else 0) ≤ load T w stage := by
  have grows := length_perform (a := a) h.queue
  have flags := recheck_balance w a h.routine
  have once := Bool.toNat_le ((w.perform a).sys.routine T.routine).recheck
  have unasked : stage ≠ .busy → asked T.routine w a = 0 := by
    intro idle
    by_contra asks
    rcases rule.requests (Nat.pos_of_ne_zero asks) with own | announced
    · exact asks (h.unasked idle own)
    · rw [announces, unpushed] at announced
      cases announced
  have silent : stage ≠ .busy → (decide (0 < asked T.routine w a)).toNat = 0 := by
    intro idle
    rw [unasked idle]
    rfl
  rw [unpushed, Option.isSome_none, Bool.toNat_false] at grows
  unfold load
  cases goes with
  | stays =>
    have apart : ¬(stage = .ready ∧ stage ≠ .ready) := fun ⟨ready, other⟩ => other ready
    rw [if_neg apart]
    by_cases busy : stage = .busy
    · rw [if_pos busy, if_pos busy]
      omega
    · have flag := silent busy
      rw [if_neg busy, if_neg busy]
      omega
  | promoted promoted =>
    have flag := silent nofun
    simp only [promoted, Stage.owed, reduceCtorEq, if_false, false_and, Bool.toNat_true] at flags ⊢
    omega
  | entered | dropped =>
    have flag := silent nofun
    simp only [Stage.owed, reduceCtorEq, if_false, ne_eq, not_false_eq_true, and_self, if_true]
    omega
  | left =>
    have flag := silent nofun
    simp only [Stage.owed, reduceCtorEq, if_false, false_and]
    omega
  | found | handled =>
    simp only [Stage.owed, reduceCtorEq, if_false, if_true, false_and]
    omega

end CoopSched.Turns
