import CoopSched.Proofs.Wakeup.Effects
/-!
# Who may be where

The first invariant of the machine: the thread that holds the routine, and no other, is in the middle of
an examination, a turn or a release, and the stage of the body and the state of its routine fit to what
this thread is about to do (`Holding`).

While it holds, `Effect` lists all that an action can do (`perform_effect`). This list is what the
invariants are proved from, `Control` itself (`Control.effect`) and those of the later modules.
-/

namespace CoopSched.Wakeup

open CoopSched.System (Delivery Look Check)

variable {κ : Type} {T : Task} {w : World κ} {s : System κ} {t : Thread} {next : Activity}

/-! ## 1. The invariant -/

/-- The body is not in the middle of a turn, unless it is its callback that is. -/
def Settled (stage : Option ReaderPhase) : Prop :=
  stage = none ∨ stage = some .parking ∨ stage = some .handling

/-- The body looks for messages. -/
def Looking (stage : Option ReaderPhase) : Prop :=
  stage = some .parking ∨ stage = some .fetching ∨ stage = some .idle

/-- What holds while the thread that holds the routine is in the middle of something. -/
def Holding (v : View κ) : Activity → Prop
  | .away => False
  | .delivering _ inside _ => inside = true ∧ v.stage = some .handling
  | .examining _ => Settled v.stage
  | .entering _ => Settled v.stage ∧ v.state = .ready
  | .running => (v.stage = some .parking → v.state = .ready) ∧
      (v.stage = some .fetching ∨ v.stage = some .idle → v.state = .dataWait)
  | .leaving => Settled v.stage

/-- What a thread may be in the middle of without holding the routine. -/
def Activity.IsOutside : Activity → Prop
  | .away => True
  | .delivering _ inside _ => inside = false
  | _ => False

theorem not_looking {stage : Option ReaderPhase}
    (away : stage = none ∨ stage = some .handling ∨ stage = some .handled) : ¬ Looking stage := by
  rcases away with rfl | rfl | rfl <;> simp [Looking]

theorem not_settled {stage : Option ReaderPhase} (busy : stage = some .fetching ∨ stage = some .idle) :
    ¬ Settled stage := by
  rcases busy with rfl | rfl <;> simp [Settled]

/-- In a turn nothing is asked of the state while the body does not look for messages. -/
theorem holding_of_unlooking {v : View κ} (away : ¬ Looking v.stage) : Holding v .running :=
  ⟨fun parking => absurd (.inl parking) away, fun busy => absurd (.inr busy) away⟩

/-- A place of the announcement of an arrival that can be. -/
structure Announces (T : Task) (creation : Creation) (empties since : Nat) (d : Delivery) : Prop where
  place : T.Expects creation d
  since : since ≤ empties

structure Control (T : Task) (w : World κ) : Prop where
  stands : T.Stands w.creation w.sys
  held : ∀ t, (T.view w.sys).holder = some t → Holding (T.view w.sys) (w.doing t)
  outside : ∀ t, (T.view w.sys).holder ≠ some t → (w.doing t).IsOutside
  free : (T.view w.sys).holder = none → Settled (T.view w.sys).stage
  status : Looking (T.view w.sys).stage →
    (T.view w.sys).state = .ready ∨ (T.view w.sys).state = .dataWait
  announces : ∀ {t since inside d}, w.doing t = .delivering since inside d →
    Announces T w.creation w.empties since d

open World (doing_turn_self doing_turn_of_ne doing_turn_eq)

namespace Control

/-- A thread whose activity is not open to outsiders holds the routine. -/
theorem holds (h : Control T w) (inside : ¬ (w.doing t).IsOutside) :
    (T.view w.sys).holder = some t := by
  by_contra free
  exact inside (h.outside t free)

/-- A thread that is away, or announces from outside, does not hold the routine. -/
theorem not_holds (h : Control T w) (outside : ¬ Holding (T.view w.sys) (w.doing t)) :
    (T.view w.sys).holder ≠ some t :=
  fun held => outside (h.held t held)

/-- The step of a thread that holds the routine afterwards, while before it nobody else did. -/
theorem turn_of_alone (h : Control T w) (alone : ∀ u, (T.view w.sys).holder = some u → u = t)
    (stands : T.Stands w.creation s) (keeps : (T.view s).holder = some t)
    (mine : Holding (T.view s) next)
    (status : Looking (T.view s).stage → (T.view s).state = .ready ∨ (T.view s).state = .dataWait)
    (announces : ∀ {since inside d}, next = .delivering since inside d →
      Announces T w.creation w.empties since d) : Control T (w.turn T t s next) where
  stands := stands
  held u hu := by
    cases Option.some.inj (keeps.symm.trans hu)
    rw [doing_turn_self]
    exact mine
  outside u hu := by
    have ne : u ≠ t := fun heq => hu (heq ▸ keeps)
    rw [doing_turn_of_ne w ne]
    exact h.outside u fun hu' => ne (alone u hu')
  free none := absurd (keeps.symm.trans none) nofun
  status := status
  announces doing := by
    rcases doing_turn_eq doing with ⟨-, goes⟩ | ⟨-, before⟩
    · exact announces goes
    · exact h.announces before

theorem turn_of_held (h : Control T w) (held : (T.view w.sys).holder = some t)
    (stands : T.Stands w.creation s) (keeps : (T.view s).holder = some t)
    (mine : Holding (T.view s) next)
    (status : Looking (T.view s).stage → (T.view s).state = .ready ∨ (T.view s).state = .dataWait)
    (announces : ∀ {since inside d}, next = .delivering since inside d →
      Announces T w.creation w.empties since d) : Control T (w.turn T t s next) :=
  h.turn_of_alone (fun _ hu => Option.some.inj (hu.symm.trans held)) stands keeps mine status announces

/-- The step of a thread that does not hold the routine, neither before nor after. -/
theorem turn_of_outside (h : Control T w) (outside : (T.view w.sys).holder ≠ some t)
    (stands : T.Stands w.creation s) (holder : (T.view s).holder = (T.view w.sys).holder)
    (stage : (T.view s).stage = (T.view w.sys).stage)
    (state : (T.view s).state = (T.view w.sys).state) (mine : next.IsOutside)
    (announces : ∀ {since inside d}, next = .delivering since inside d →
      Announces T w.creation w.empties since d) : Control T (w.turn T t s next) where
  stands := stands
  held u hu := by
    have hu : (T.view w.sys).holder = some u := holder ▸ hu
    have ne : u ≠ t := fun heq => outside (heq ▸ hu)
    have theirs := h.held u hu
    rw [doing_turn_of_ne w ne]
    show Holding (T.view s) (w.doing u)
    revert theirs
    cases w.doing u <;> simp only [Holding, stage, state] <;> exact id
  outside u hu := by
    by_cases ne : u = t
    · subst ne
      rw [doing_turn_self]
      exact mine
    · rw [doing_turn_of_ne w ne]
      exact h.outside u fun hu' => hu (holder.trans hu')
  free none := by
    show Settled (T.view s).stage
    rw [stage]
    exact h.free (holder.symm.trans none)
  status looking := by
    show (T.view s).state = _ ∨ (T.view s).state = _
    rw [state]
    exact h.status (stage ▸ looking)
  announces doing := by
    rcases doing_turn_eq doing with ⟨-, goes⟩ | ⟨-, before⟩
    · exact announces goes
    · exact h.announces before

end Control

/-! ## 2. What an action can do -/

/-- The flag of the task is still to be put up if the announcement finds it waiting. -/
def IsPending : Delivery → Prop
  | .telling _ _ | .announcing [] => False
  | _ => True

/-- What a thread does next that has examined the routine without changing it. -/
inductive Judged (v : View κ) : Activity → Prop
  | swapping : v.state.isWaiting = true → Judged v (.examining .swapping)
  | ready : v.state = .ready → Judged v (.entering .stopFlag)
  | awake : v.state = .sleep → Judged v (.examining .promoting)
  | unready : v.state ≠ .ready → Judged v .leaving

variable [Program κ]

/-- All that an action can do to a world, by what it does to the view of the task. -/
inductive Effect (T : Task) (w : World κ) : World κ → Prop
  | idle : Effect T w w
  | pushed {t : Thread} {message : Int} {s : System κ} (doing : w.doing t = .away)
      (stands : T.Stands w.creation s)
      (view : T.view s =
        { T.view w.sys with messages := (T.view w.sys).messages ++ [message] }) :
      Effect T w (w.turn T t s (.delivering w.empties false .calling))
  | pushedInside {t : Thread} {message : Int} {s : System κ} {c : κ} {rest : Reply → κ}
      (doing : w.doing t = .running)
      (work : (T.view w.sys).work = .reader T.queue .handling c)
      (asks : Program.next w.sys.labels c = .ask (.push T.queue message) rest)
      (stands : T.Stands w.creation s)
      (view : T.view s =
        { T.view w.sys with
          work := .reader T.queue .handling (rest .nothing)
          messages := (T.view w.sys).messages ++ [message] }) :
      Effect T w (w.turn T t s (.delivering w.empties true .calling))
  | missed {t : Thread} {since : Nat} {inside : Bool}
      (doing : w.doing t = .delivering since inside .calling) (early : w.creation ≠ .returned) :
      Effect T w
        { w.turn T t w.sys (if inside then .running else .away) with
          missed := w.missed || decide (0 < w.empties ∧ since = w.empties) }
  | delivered {t : Thread} {since : Nat} {inside : Bool} {d d' : Delivery} {s : System κ}
      (doing : w.doing t = .delivering since inside d) (stands : T.Stands w.creation s)
      (view : T.view s = T.view w.sys) (place : T.Expects w.creation d')
      (pending : IsPending d → IsPending d' ∨ (T.view w.sys).state.isWaiting = false) :
      Effect T w (w.turn T t s (.delivering since inside d'))
  | flagged {t : Thread} {since : Nat} {inside : Bool} {s : System κ}
      (doing : w.doing t = .delivering since inside (.flagging T.routine []))
      (stands : T.Stands w.creation s) (view : T.view s = { T.view w.sys with recheck := true })
      (returned : w.creation = .returned) :
      Effect T w (w.turn T t s (.delivering since inside (.telling T.routine [])))
  | announced {t : Thread} {since : Nat} {inside : Bool}
      (doing : w.doing t = .delivering since inside (.announcing [])) :
      Effect T w (w.turn T t w.sys (if inside then .running else .away))
  | taken {t : Thread} {s : System κ} (doing : w.doing t = .away)
      (free : (T.view w.sys).holder = none) (stands : T.Stands w.creation s)
      (view : T.view s = { T.view w.sys with holder := some t }) :
      Effect T w (w.turn T t s (.examining .reading))
  | refused {t : Thread} (doing : w.doing t = .away) : Effect T w (w.turn T t w.sys .away)
  | examined {t : Thread} {l : Look} {next : Activity} {s : System κ}
      (doing : w.doing t = .examining l) (plain : l ≠ .promoting)
      (stands : T.Stands w.creation s) (view : T.view s = T.view w.sys)
      (judged : l = .reading → Judged (T.view w.sys) next)
      (swapped : l = .swapping → next = .leaving) : Effect T w (w.turn T t s next)
  | swapped {t : Thread} {s : System κ} (doing : w.doing t = .examining .swapping)
      (flag : (T.view w.sys).recheck = true) (stands : T.Stands w.creation s)
      (view : T.view s = { T.view w.sys with recheck := false }) :
      Effect T w (w.turn T t s (.examining .promoting))
  | promoted {t : Thread} {s : System κ} (doing : w.doing t = .examining .promoting)
      (stands : T.Stands w.creation s) (view : T.view s = { T.view w.sys with state := .ready }) :
      Effect T w (w.turn T t s (.entering .stopFlag))
  | checked {t : Thread} {c : Check} {next : Activity} (doing : w.doing t = .entering c)
      (goes : next = .running ∨ ∃ c', next = .entering c') : Effect T w (w.turn T t w.sys next)
  | parked {t : Thread} {s : System κ} {c : κ} (doing : w.doing t = .running)
      (work : (T.view w.sys).work = .reader T.queue .parking c) (stands : T.Stands w.creation s)
      (view : T.view s =
        { T.view w.sys with state := .dataWait, work := .reader T.queue .fetching c }) :
      Effect T w (w.turn T t s .running)
  | emptied {t : Thread} {s : System κ} {c : κ} (doing : w.doing t = .running)
      (work : (T.view w.sys).work = .reader T.queue .fetching c)
      (empty : (T.view w.sys).messages = []) (stands : T.Stands w.creation s)
      (view : T.view s = { T.view w.sys with work := .reader T.queue .idle c }) :
      Effect T w
        { w.turn T t s .running with
          empties := w.empties + 1, missed := false, told := (T.view s).recheck }
  | fetched {t : Thread} {s : System κ} {c : κ} {message : Int} {rest : List Int}
      (doing : w.doing t = .running)
      (work : (T.view w.sys).work = .reader T.queue .fetching c)
      (full : (T.view w.sys).messages = message :: rest) (stands : T.Stands w.creation s)
      (view : T.view s =
        { T.view w.sys with
          work := .reader T.queue .handling (Program.deliver c message), messages := rest }) :
      Effect T w (w.turn T t s .running)
  | idled {t : Thread} {s : System κ} {c : κ} (doing : w.doing t = .running)
      (work : (T.view w.sys).work = .reader T.queue .idle c) (stands : T.Stands w.creation s)
      (view : T.view s = { T.view w.sys with work := .reader T.queue .parking c }) :
      Effect T w (w.turn T t s .leaving)
  | handled {t : Thread} {s : System κ} {c : κ} (doing : w.doing t = .running)
      (work : (T.view w.sys).work = .reader T.queue .handled c) (stands : T.Stands w.creation s)
      (view : T.view s =
        { T.view w.sys with state := .ready, work := .reader T.queue .parking c }) :
      Effect T w (w.turn T t s .leaving)
  | called {t : Thread} {s : System κ} {c : κ} {progress : System.Progress}
      (doing : w.doing t = .running)
      (work : (T.view w.sys).work = .reader T.queue .handling c)
      (move : Task.CallbackMove w.sys.labels T.queue c (T.view s).work progress)
      (stands : T.Stands w.creation s)
      (holder : (T.view s).holder = (T.view w.sys).holder) :
      Effect T w (w.turn T t s (if progress = .paused then .leaving else .running))
  | ended {t : Thread} {s : System κ} (doing : w.doing t = .running)
      (work : (T.view w.sys).work = .finished) (stands : T.Stands w.creation s)
      (view : T.view s = T.view w.sys) : Effect T w (w.turn T t s .leaving)
  | released {t : Thread} {s : System κ} (doing : w.doing t = .leaving)
      (stands : T.Stands w.creation s) (view : T.view s = { T.view w.sys with holder := none }) :
      Effect T w (w.turn T t s .away)
  | dispatched {s : System κ} (begun : w.creation = .begun) (stands : T.Stands .dispatched s)
      (view : T.view s = T.view w.sys) :
      Effect T w { w.become T s with creation := .dispatched }
  | registered {s : System κ} (dispatched : w.creation = .dispatched)
      (stands : T.Stands .returned s) (view : T.view s = T.view w.sys) :
      Effect T w { w.become T s with creation := .returned }
  | elsewhere {s : System κ} (stands : T.Stands w.creation s) {recheck : Bool}
      (view : T.view s = { T.view w.sys with recheck })
      (mono : (T.view w.sys).recheck = true → recheck = true) : Effect T w (w.become T s)

/-! ## 3. Every action has its effect -/

open CoopSched.Wakeup.Task

namespace Control

omit [Program κ] in
theorem holder_of (h : Control T w) {a : Activity} (doing : w.doing t = a)
    (inside : ¬ a.IsOutside) : (T.view w.sys).holder = some t :=
  h.holds (doing ▸ inside)

theorem effect_deliver (h : Control T w) {since : Nat} {inside : Bool} {d : Delivery}
    (doing : w.doing t = .delivering since inside d) :
    Effect T w (w.deliver T t since inside d) := by
  have stands := h.stands
  have place := (h.announces doing).place
  unfold World.deliver
  cases place with
  | calling =>
    by_cases returned : w.creation = .returned
    · have standing : T.Stands .returned w.sys := returned ▸ stands
      rw [deliver_calling_of_returned standing t]
      exact .delivered doing stands rfl (.announcing returned) fun _ => .inl trivial
    · rw [deliver_calling_of_not_returned stands returned t]
      have missed : Effect T w _ := .missed doing returned
      simp only [true_and]
      exact missed
  | announcing returned =>
    have standing : T.Stands .returned w.sys := returned ▸ stands
    rw [deliver_announcing standing t]
    exact .delivered doing stands rfl (.reading returned) fun _ => .inl trivial
  | reading returned =>
    simp only [System.deliver]
    split
    · exact .delivered doing stands rfl (.flagging returned) fun _ => .inl trivial
    · next active =>
      refine .delivered doing stands rfl (.telling returned) fun _ => .inr ?_
      exact Bool.eq_false_iff.mpr active
  | flagging returned =>
    exact .flagged doing (stands_requestRecheck stands) (view_requestRecheck stands) returned
  | telling returned =>
    exact .delivered doing (stands_tellGroup stands) (view_tellGroup w.sys T.routine)
      (.told returned) False.elim
  | told returned =>
    have announced : Effect T w _ := .announced doing
    simp only [System.deliver, reduceCtorEq, false_and, decide_false, Bool.or_false]
    exact announced

theorem effect_take (h : Control T w) (doing : w.doing t = .away) :
    Effect T w (match w.sys.acquire t T.routine with
      | (s, true) => w.turn T t s (.examining .reading)
      | (s, false) => w.turn T t s .away) := by
  cases holder : (T.view w.sys).holder with
  | none =>
    obtain ⟨granted, stands, view⟩ := acquire_of_free h.stands holder t
    have taken : w.sys.acquire t T.routine = ((w.sys.acquire t T.routine).1, true) :=
      Prod.ext rfl granted
    rw [taken]
    exact .taken doing holder stands view
  | some u =>
    rw [acquire_of_held holder t]
    exact .refused doing

theorem effect_examine (h : Control T w) {l : Look} (doing : w.doing t = .examining l) :
    Effect T w (w.examine T t l) := by
  have stands := h.stands
  unfold World.examine
  cases l with
  | reading =>
    have plain : Look.reading ≠ .promoting := by decide
    have reads : ∀ {P : Prop}, Look.reading = .swapping → P := fun swaps => absurd swaps (by decide)
    simp only [System.look]
    cases state : (w.sys.routine T.routine).state with
    | ready => exact .examined doing plain stands rfl (fun _ => .ready state) reads
    | finished =>
      have unready : (T.view w.sys).state ≠ .ready := ne_of_eq_of_ne state (by decide)
      exact .examined doing plain stands rfl (fun _ => .unready unready) reads
    | sleep =>
      by_cases due : (w.sys.routine T.routine).wakeAt ≤ w.sys.now
      · simp only [due, if_true]
        exact .examined doing plain stands rfl (fun _ => .awake state) reads
      · have unready : (T.view w.sys).state ≠ .ready := ne_of_eq_of_ne state (by decide)
        simp only [due, if_false]
        exact .examined doing plain stands rfl (fun _ => .unready unready) reads
    | ioWait =>
      have waiting : (T.view w.sys).state.isWaiting = true := congrArg State.isWaiting state
      exact .examined doing plain stands rfl (fun _ => .swapping waiting) reads
    | dataWait =>
      have waiting : (T.view w.sys).state.isWaiting = true := congrArg State.isWaiting state
      exact .examined doing plain stands rfl (fun _ => .swapping waiting) reads
  | swapping =>
    have taken := stands_takeRecheck stands
    have view := view_takeRecheck stands
    simp only [System.look]
    cases flag : (w.sys.routine T.routine).recheck with
    | true => exact .swapped doing flag taken view
    | false =>
      -- The exchange of a flag that is down changes nothing.
      have same : T.view (w.sys.modifyRoutine T.routine (·.takeRecheck.1)) = T.view w.sys := by
        have down : (T.view w.sys).recheck = false := flag
        rw [view, ← down]
      have plain : Look.swapping ≠ .promoting := by decide
      exact .examined doing plain taken same (fun reads => absurd reads (by decide)) fun _ => rfl
  | promoting => exact .promoted doing (stands_setState stands .ready) (view_setState stands .ready)

theorem effect_enter (h : Control T w) {c : Check} (doing : w.doing t = .entering c) :
    Effect T w (w.enter T t c) := by
  have held := h.holder_of doing id
  have ready : (T.view w.sys).state = .ready := by
    have holding := h.held t held
    rw [doing] at holding
    exact holding.2
  unfold World.enter
  rw [check_of_held h.stands ready held c]
  cases c with
  | stopFlag => exact .checked doing (.inr ⟨_, rfl⟩)
  | state => exact .checked doing (.inr ⟨_, rfl⟩)
  | holder => exact .checked doing (.inl rfl)

theorem moveOn_eq (T : Task) (w : World κ) (t : Thread) (going : T.findsEmpty w.sys = false) :
    w.moveOn T t = w.turn T t (w.sys.move t T.routine).1
      (if (w.sys.move t T.routine).2 = .paused then .leaving else .running) := by
  simp [World.moveOn, going]

/-- A move of a message callback that is not a push into the queue of the task. -/
theorem effect_called (h : Control T w) (doing : w.doing t = .running) {c : κ}
    (work : (w.sys.routine T.routine).work = .reader T.queue .handling c)
    (minds : T.Minds w.sys (w.sys.move t T.routine).1) : Effect T w (w.moveOn T t) := by
  have move := move_handling t h.stands.routine minds.routines work
  have going : T.findsEmpty w.sys = false := by simp only [findsEmpty, work]
  rw [moveOn_eq T w t going]
  exact .called doing work move (h.stands.of_spares minds.toSpares move.reads) minds.holder

theorem effect_move_of_handling (h : Control T w) (doing : w.doing t = .running) {c : κ}
    (work : (w.sys.routine T.routine).work = .reader T.queue .handling c)
    (minds : T.Minds w.sys (w.sys.move t T.routine).1) : Effect T w (w.move T t) := by
  have called := h.effect_called doing work minds
  unfold World.move
  rw [work, Work.next]
  cases next : Program.next w.sys.labels c with
  | ask request rest =>
    cases request with
    | push q message =>
      simp only [Move.bind]
      split
      · next same =>
        subst same
        have pushed := stands_push h.stands message
        have stands : T.Stands w.creation ((w.sys.modifyQueue T.queue (·.push message)).modifyRoutine
            T.routine fun x => { x with work := .reader T.queue .handling (rest .nothing) }) :=
          stands_setWork pushed (.inr ⟨_, _, rfl⟩)
        refine .pushedInside doing work next stands ?_
        rw [view_setWork pushed, view_push h.stands]
      · exact called
    | _ => exact called
  | _ => exact called

theorem effect_move (h : Control T w) (doing : w.doing t = .running)
    (allowed : w.Allowed T (.move t)) : Effect T w (w.move T t) := by
  have stands := h.stands
  rcases stands.reads with finished | ⟨stage, c, work⟩
  · have moved : w.sys.move t T.routine =
        ((w.sys.modifyRoutine T.routine fun x => { x with work := .finished }), .paused) := by
      simp only [System.move, finished, Work.next]
      refine Prod.ext ?_ rfl
      exact System.modifyRoutine_eq_self _ rfl
    have going : T.findsEmpty w.sys = false := by simp only [findsEmpty, finished]
    have whole : w.move T t = w.moveOn T t := by simp only [World.move, finished, Work.next]
    rw [whole, moveOn_eq T w t going, moved]
    refine .ended doing finished (stands_setWork stands (.inl rfl)) ?_
    rw [view_setWork stands, ← finished]
    rfl
  · cases stage with
    | parking =>
      obtain ⟨progress, stands', view⟩ := move_parking t stands work
      have going : T.findsEmpty w.sys = false := by simp only [findsEmpty, work]
      have whole : w.move T t = w.moveOn T t := by simp only [World.move, work, Work.next]
      rw [whole, moveOn_eq T w t going, progress]
      exact .parked doing work stands' view
    | fetching =>
      have whole : w.move T t = w.moveOn T t := by simp only [World.move, work, Work.next]
      cases messages : (w.sys.queue T.queue).messages with
      | nil =>
        obtain ⟨progress, stands', view⟩ := move_fetching_of_empty t stands work messages
        have empty : T.findsEmpty w.sys = true := by simp [findsEmpty, work, messages]
        have emptied : Effect T w _ := .emptied doing work messages stands' view
        rw [whole]
        simp only [World.moveOn, empty, progress]
        exact emptied
      | cons message rest =>
        obtain ⟨progress, stands', view⟩ := move_fetching_of_cons t stands work messages
        have going : T.findsEmpty w.sys = false := by simp [findsEmpty, work, messages]
        rw [whole, moveOn_eq T w t going, progress]
        exact .fetched doing work messages stands' view
    | idle =>
      obtain ⟨progress, stands', view⟩ := move_idle t stands work
      have going : T.findsEmpty w.sys = false := by simp only [findsEmpty, work]
      have whole : w.move T t = w.moveOn T t := by simp only [World.move, work, Work.next]
      rw [whole, moveOn_eq T w t going, progress]
      exact .idled doing work stands' view
    | handling => exact h.effect_move_of_handling doing work (allowed doing ⟨_, c, work⟩)
    | handled =>
      obtain ⟨progress, stands', view⟩ := move_handled t stands work
      have going : T.findsEmpty w.sys = false := by simp only [findsEmpty, work]
      have whole : w.move T t = w.moveOn T t := by simp only [World.move, work, Work.next]
      rw [whole, moveOn_eq T w t going, progress]
      exact .handled doing work stands' view

theorem effect_dispatch (h : Control T w) (begun : w.creation = .begun) (t : Thread) :
    Effect T w (match w.sys.dispatch t T.routine with
      | (s, true) => { w.become T s with creation := .dispatched }
      | (_, false) => w) := by
  have stands : T.Stands .begun w.sys := begun ▸ h.stands
  cases outcome : w.sys.dispatch t T.routine with
  | mk s granted =>
    cases granted with
    | false => exact .idle
    | true =>
      obtain ⟨stands', view⟩ := dispatch_of_granted t stands (congrArg Prod.snd outcome)
      rw [outcome] at stands' view
      exact .dispatched begun stands' view

/-- While the invariant holds, every action that is allowed has one of the effects. -/
theorem perform_effect (h : Control T w) (a : Action κ) (allowed : w.Allowed T a) :
    Effect T w (w.perform T a) := by
  have stands := h.stands
  cases a with
  | push t message =>
    simp only [World.perform]
    split
    · next doing => exact .pushed doing (stands_push stands message) (view_push stands message)
    · exact .idle
  | deliver t =>
    simp only [World.perform]
    split
    · next doing => exact h.effect_deliver doing
    · exact .idle
  | take t =>
    simp only [World.perform]
    split
    · next doing => exact h.effect_take doing.1
    · exact .idle
  | examine t =>
    simp only [World.perform]
    split
    · next doing => exact h.effect_examine doing
    · exact .idle
  | enter t =>
    simp only [World.perform]
    split
    · next doing => exact h.effect_enter doing
    · exact .idle
  | move t =>
    simp only [World.perform]
    split
    · next doing => exact h.effect_move doing allowed
    · exact .idle
  | leave t =>
    simp only [World.perform]
    split
    · next doing => exact .released doing (stands_release stands) (view_release stands)
    · exact .idle
  | dispatch t =>
    simp only [World.perform]
    split
    · next begun => exact h.effect_dispatch begun t
    · exact .idle
  | register =>
    simp only [World.perform]
    split
    · next dispatched =>
      have standing : T.Stands .dispatched w.sys := dispatched ▸ stands
      exact .registered dispatched (stands_install standing) (view_install standing)
    · exact .idle
  | elsewhere s =>
    have ignores : T.Ignores w.sys s := allowed
    have reads : T.Reads s := by
      unfold Reads
      rw [ignores.work]
      exact stands.reads
    refine .elsewhere (stands.of_spares ignores.toSpares reads) ?_ ignores.recheck
    rw [view, ignores.state, ignores.holder, ignores.work, ignores.messages]
    rfl

/-! ## 4. Every effect keeps the invariant -/

omit [Program κ] in
/-- What holds of the thread that holds the routine, by what it is doing. -/
theorem holding (h : Control T w) {a : Activity} (doing : w.doing t = a) (inside : ¬ a.IsOutside) :
    Holding (T.view w.sys) a := by
  have holding := h.held t (h.holder_of doing inside)
  rwa [doing] at holding

omit [Program κ] in
theorem not_holds_of_away (h : Control T w) (doing : w.doing t = .away) :
    (T.view w.sys).holder ≠ some t := by
  refine h.not_holds ?_
  rw [doing]
  exact id

omit [Program κ] in
/-- A step of an announcement that leaves the stage and the state alone. -/
theorem turn_of_delivering (h : Control T w) {since : Nat} {inside : Bool} {d : Delivery}
    (doing : w.doing t = .delivering since inside d) (stands : T.Stands w.creation s)
    (holder : (T.view s).holder = (T.view w.sys).holder)
    (work : (T.view s).work = (T.view w.sys).work)
    (state : (T.view s).state = (T.view w.sys).state)
    (mine : next = (if inside then .running else .away) ∨
      ∃ d', next = .delivering since inside d' ∧ T.Expects w.creation d') :
    Control T (w.turn T t s next) := by
  have stage : (T.view s).stage = (T.view w.sys).stage := congrArg stageOf work
  have old := h.announces doing
  have announces : ∀ {since' inside' d'}, next = .delivering since' inside' d' →
      Announces T w.creation w.empties since' d' := by
    intro since' inside' d' goes
    rcases mine with ends | ⟨d'', goesOn, place⟩
    · rw [ends] at goes
      cases inside <;> cases goes
    · rw [goesOn] at goes
      cases goes
      exact ⟨place, old.since⟩
  -- The callback of the body announces while it holds the routine, a producer while it does not.
  cases inside with
  | true =>
    have held : (T.view w.sys).holder = some t := h.holder_of doing nofun
    have handling : (T.view s).stage = some .handling := by
      rw [stage]
      exact (h.holding doing nofun).2
    refine h.turn_of_held held stands (holder.trans held) ?_ ?_ announces
    · rcases mine with ends | ⟨d', goesOn, -⟩
      · rw [ends]
        simp [Holding, handling]
      · rw [goesOn]
        exact ⟨rfl, handling⟩
    · intro looking
      simp [Looking, handling] at looking
  | false =>
    have outside : (T.view w.sys).holder ≠ some t := by
      refine h.not_holds ?_
      rw [doing]
      simp [Holding]
    refine h.turn_of_outside outside stands holder stage state ?_ announces
    rcases mine with ends | ⟨d', goesOn, -⟩
    · rw [ends]
      trivial
    · rw [goesOn]
      rfl

omit [Program κ] in
/-- What is remembered does not matter, and the body may have found the queue empty more often. -/
theorem of_history (h : Control T w) {empties : Nat} (more : w.empties ≤ empties)
    (missed told : Bool) : Control T { w with empties, missed, told } where
  stands := h.stands
  held := h.held
  outside := h.outside
  free := h.free
  status := h.status
  announces doing :=
    ⟨(h.announces doing).place, Nat.le_trans (h.announces doing).since more⟩

omit [Program κ] in
/-- Nobody takes a step, but the creation may come on. -/
theorem of_same_holding (h : Control T w) {creation : Creation} (stands : T.Stands creation s)
    (holder : (T.view s).holder = (T.view w.sys).holder)
    (work : (T.view s).work = (T.view w.sys).work)
    (state : (T.view s).state = (T.view w.sys).state)
    (place : ∀ {d}, T.Expects w.creation d → T.Expects creation d) :
    Control T { w.become T s with creation } where
  stands := stands
  held u hu := by
    have theirs := h.held u (holder ▸ hu)
    show Holding (T.view s) (w.doing u)
    revert theirs
    cases w.doing u <;> simp only [Holding, View.stage, work, state] <;> exact id
  outside u hu := h.outside u (holder ▸ hu)
  free none := by
    show Settled (stageOf (T.view s).work)
    rw [work]
    exact h.free (holder.symm.trans none)
  status looking := by
    have stage : (T.view s).stage = (T.view w.sys).stage := congrArg stageOf work
    have looking : Looking (T.view s).stage := looking
    show (T.view s).state = _ ∨ (T.view s).state = _
    rw [state]
    exact h.status (stage ▸ looking)
  announces doing := ⟨place (h.announces doing).place, (h.announces doing).since⟩

omit [Program κ] in
theorem expects_of_not_returned {creation creation' : Creation} (early : creation ≠ .returned)
    {d : Delivery} (place : T.Expects creation d) : T.Expects creation' d := by
  cases place with
  | calling => exact .calling
  | announcing returned => exact absurd returned early
  | reading returned => exact absurd returned early
  | flagging returned => exact absurd returned early
  | telling returned => exact absurd returned early
  | told returned => exact absurd returned early

omit [Program κ] in
/-- A step of the thread that holds the routine and announces nothing, by what it makes of the view. -/
theorem turn_of_view (h : Control T w) {a : Activity} (doing : w.doing t = a) (inside : ¬ a.IsOutside)
    {v : View κ} (stands : T.Stands w.creation s) (view : T.view s = v)
    (keeps : v.holder = (T.view w.sys).holder) (mine : Holding v next)
    (status : Looking v.stage → v.state = .ready ∨ v.state = .dataWait)
    (silent : ∀ {since inside d}, next ≠ .delivering since inside d) : Control T (w.turn T t s next) := by
  have held := h.holder_of doing inside
  subst view
  exact h.turn_of_held held stands (keeps.trans held) mine status fun goes => absurd goes silent

omit [Program κ] in
/-- An examination leads into a turn only if it has found the routine ready. -/
theorem turn_of_examined (h : Control T w) {l : Look} (doing : w.doing t = .examining l) (plain : l ≠ .promoting)
    (stands : T.Stands w.creation s) (view : T.view s = T.view w.sys)
    (judged : l = .reading → Judged (T.view w.sys) next) (swapped : l = .swapping → next = .leaving) :
    Control T (w.turn T t s next) := by
  have settled : Settled (T.view w.sys).stage := h.holding doing id
  have mine : Holding (T.view w.sys) next ∧ ∀ since inside d, next ≠ .delivering since inside d := by
    cases l with
    | reading =>
      cases judged rfl with
      | swapping waiting => exact ⟨settled, nofun⟩
      | ready ready => exact ⟨⟨settled, ready⟩, nofun⟩
      | awake asleep => exact ⟨settled, nofun⟩
      | unready unready => exact ⟨settled, nofun⟩
    | swapping =>
      rw [swapped rfl]
      exact ⟨settled, nofun⟩
    | promoting => exact absurd rfl plain
  exact h.turn_of_view doing id stands view rfl mine.1 h.status (mine.2 _ _ _)

/-- A move of the callback ends the turn only when the body has ended or is still in its callback. -/
theorem turn_of_called (h : Control T w) {c : κ} {progress : System.Progress} (doing : w.doing t = .running)
    (move : Task.CallbackMove w.sys.labels T.queue c (T.view s).work progress)
    (stands : T.Stands w.creation s) (holder : (T.view s).holder = (T.view w.sys).holder) :
    Control T (w.turn T t s (if progress = .paused then .leaving else .running)) := by
  by_cases paused : progress = .paused
  · subst paused
    have stage := move.paused_stage
    have unlooking : ¬ Looking (T.view s).stage := not_looking (stage.imp_right .inl)
    exact h.turn_of_view doing id stands rfl holder (stage.imp_right .inr)
      (fun looking => absurd looking unlooking) nofun
  · rw [if_neg paused]
    have unlooking : ¬ Looking (T.view s).stage := not_looking (.inr (move.going_stage paused).symm)
    exact h.turn_of_view doing id stands rfl holder (holding_of_unlooking unlooking)
      (fun looking => absurd looking unlooking) nofun

omit [Program κ] in
/-- The holder gives the routine back. -/
theorem turn_of_released (h : Control T w) (doing : w.doing t = .leaving) (stands : T.Stands w.creation s)
    (view : T.view s = { T.view w.sys with holder := none }) : Control T (w.turn T t s .away) := by
  have held := h.holder_of doing id
  have nobody : (T.view s).holder = none := congrArg View.holder view
  have settled : Settled (T.view s).stage := by
    rw [view]
    exact h.holding doing id
  have status : Looking (T.view s).stage → (T.view s).state = .ready ∨ (T.view s).state = .dataWait := by
    rw [view]
    exact h.status
  refine ⟨stands, fun u hu => absurd (nobody.symm.trans hu) nofun, fun u _ => ?_, fun _ => settled, status, ?_⟩
  · by_cases hu : u = t
    · subst hu
      rw [doing_turn_self]
      trivial
    · rw [doing_turn_of_ne w hu]
      exact h.outside u fun hu' => hu (Option.some.inj (hu'.symm.trans held))
  · intro u since inside d doing'
    rcases doing_turn_eq doing' with ⟨-, goes⟩ | ⟨-, before⟩
    · cases goes
    · exact h.announces before

/-- Every effect keeps the invariant. -/
theorem effect (h : Control T w) {w' : World κ} (e : Effect T w w') : Control T w' := by
  have handling : ¬ Looking (some ReaderPhase.handling) := not_looking (.inr (.inl rfl))
  cases e with
  | idle => exact h
  | pushed doing stands view =>
    refine h.turn_of_outside (h.not_holds_of_away doing) stands ?_ ?_ ?_ rfl ?_
    · rw [view]
    · rw [view]
      rfl
    · rw [view]
    · intro since inside d goes
      cases goes
      exact ⟨.calling, Nat.le_refl _⟩
  | pushedInside doing work asks stands view =>
    have held := h.holder_of doing id
    have stage : (T.view _).stage = some .handling := congrArg View.stage view
    refine h.turn_of_held held stands ((congrArg View.holder view).trans held) ⟨rfl, stage⟩
      (fun looking => absurd (stage ▸ looking) handling) ?_
    intro since inside d goes
    cases goes
    exact ⟨.calling, Nat.le_refl _⟩
  | missed doing early =>
    have moved := h.turn_of_delivering doing h.stands rfl rfl rfl (.inl rfl)
    exact moved.of_history (Nat.le_refl _) _ _
  | delivered doing stands view place pending =>
    refine h.turn_of_delivering doing stands ?_ ?_ ?_ (.inr ⟨_, rfl, place⟩) <;> rw [view]
  | flagged doing stands view returned =>
    refine h.turn_of_delivering doing stands ?_ ?_ ?_ (.inr ⟨_, rfl, .telling returned⟩) <;> rw [view]
  | announced doing => exact h.turn_of_delivering doing h.stands rfl rfl rfl (.inl rfl)
  | taken doing free stands view =>
    have settled := h.free free
    refine h.turn_of_alone (fun u hu => nomatch free.symm.trans hu) stands ?_ ?_ ?_ nofun
    · rw [view]
    · rw [view]
      exact settled
    · rw [view]
      exact h.status
  | refused doing =>
    exact h.turn_of_outside (h.not_holds_of_away doing) h.stands rfl rfl rfl trivial nofun
  | examined doing plain stands view judged swapped =>
    exact h.turn_of_examined doing plain stands view judged swapped
  | swapped doing flag stands view =>
    exact h.turn_of_view doing id stands view rfl (h.holding doing id) h.status nofun
  | promoted doing stands view =>
    have settled : Settled (T.view w.sys).stage := h.holding doing id
    exact h.turn_of_view doing id stands view rfl ⟨settled, rfl⟩ (fun _ => .inl rfl) nofun
  | checked doing goes =>
    obtain ⟨settled, ready⟩ : Settled (T.view w.sys).stage ∧ _ := h.holding doing id
    rcases goes with rfl | ⟨c', rfl⟩
    · have begins : Holding (T.view w.sys) .running :=
        ⟨fun _ => ready, fun busy => absurd settled (not_settled busy)⟩
      exact h.turn_of_view doing id h.stands rfl rfl begins h.status nofun
    · exact h.turn_of_view doing id h.stands rfl rfl ⟨settled, ready⟩ h.status nofun
  | parked doing work stands view =>
    exact h.turn_of_view doing id stands view rfl ⟨nofun, fun _ => rfl⟩ (fun _ => .inr rfl) nofun
  | @emptied t s c doing work empty stands view =>
    have waits : (T.view w.sys).state = .dataWait :=
      (h.holding doing id).2 (.inl (congrArg stageOf work))
    have moved : Control T (w.turn T t s .running) :=
      h.turn_of_view doing id stands view rfl ⟨nofun, fun _ => waits⟩ (fun _ => .inr waits) nofun
    exact moved.of_history (Nat.le_succ _) _ _
  | fetched doing work full stands view =>
    exact h.turn_of_view doing id stands view rfl (holding_of_unlooking handling)
      (fun looking => absurd looking handling) nofun
  | idled doing work stands view =>
    exact h.turn_of_view doing id stands view rfl (.inr (.inl rfl))
      (fun _ => h.status (.inr (.inr (congrArg stageOf work)))) nofun
  | handled doing work stands view =>
    exact h.turn_of_view doing id stands view rfl (.inr (.inl rfl)) (fun _ => .inl rfl) nofun
  | called doing work move stands holder => exact h.turn_of_called doing move stands holder
  | ended doing work stands view =>
    have stage : (T.view w.sys).stage = none := congrArg stageOf work
    exact h.turn_of_view doing id stands view rfl (.inl stage) h.status nofun
  | released doing stands view => exact h.turn_of_released doing stands view
  | dispatched begun stands view =>
    refine h.of_same_holding stands ?_ ?_ ?_ (expects_of_not_returned (begun ▸ nofun)) <;> rw [view]
  | registered dispatched stands view =>
    refine h.of_same_holding stands ?_ ?_ ?_ (expects_of_not_returned (dispatched ▸ nofun)) <;>
      rw [view]
  | elsewhere stands view mono =>
    refine h.of_same_holding stands ?_ ?_ ?_ id <;> rw [view]

end Control

end CoopSched.Wakeup
