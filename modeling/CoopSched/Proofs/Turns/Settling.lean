import CoopSched.Proofs.Tasks.Consistency
import CoopSched.Proofs.Turns.Entered
import CoopSched.Proofs.Wakeup.Stranding
import Mathlib.Algebra.Order.BigOperators.Group.List
import Mathlib.Algebra.Order.Group.Nat
/-!
# Readers come to rest

Tasks read queues, in any groups and at any priorities, and nothing is pushed any more. A round is a search, a resume of
the routine that was found, and its release (`Round`). Each round takes away from what is due to the task that was
found, and adds nothing to what is due to any other (`Stood.round`). Other threads may still be in the middle of turns.

* However pushes and turns were interleaved before, the turns of each task that were entered are at most 1, and 2 for
  each message, and 1 for each request of its own body.
* There are at most two rounds for each task, and two for each message that is in its queue. If the callbacks return,
  the rounds go on until no group has anything to run (`readers_come_to_rest`).

Without the requests of its own body the bound is wrong, and it is wrong as well if a task is released while a thread
is in a turn of it (`entered_beyond`). Callbacks do not resume routines: one that does would keep its own turn from
ever ending.
-/

namespace CoopSched.Turns

open CoopSched.System (KeepsSlots)
open CoopSched.Wakeup (CalmBody Steady Task Script.IsIdle steady_isIdle)

section Rounds

variable {κ : Type} [Program κ] {tasks : List Task} {groups : List GroupRef} {T : Task} {calm : κ → Prop}
  {u v w w₀ : World κ} {a : Action κ} {t : Thread} {g : GroupRef} {r : RoutineRef} {stage stage' : Stage} {n m : Nat}

/-! ## 1. Rounds -/

/-- Nothing is pushed to the tasks, and no routine is put into the groups. -/
structure Still (tasks : List Task) (groups : List GroupRef) (w : World κ) (a : Action κ) : Prop where
  restrained : ∀ T ∈ tasks, Restrained T w a
  unpushed : ∀ T ∈ tasks, pushed? T.queue w a = none
  slots : ∀ g ∈ groups, ∀ r ∈ ((w.perform a).sys.group g).slots, r ∈ (w.sys.group g).slots

/-- A thread makes a move. -/
def Moves (tasks : List Task) (groups : List GroupRef) (t : Thread) (w : World κ) (a : Action κ) : Prop :=
  a = .move t ∧ Still tasks groups w a

/-- A thread has searched a group, and has tried to enter a turn of a routine. -/
def World.begun (w : World κ) (t : Thread) (g : GroupRef) (r : RoutineRef) : World κ :=
  (w.perform (.operate t (.next g))).perform (.enter t r)

/-- A thread searches a group, resumes the routine that it finds, and releases it. -/
inductive Round (tasks : List Task) (groups : List GroupRef) (w : World κ) : World κ → Prop
  | take (t : Thread) (g : GroupRef) (r : RoutineRef) {v : World κ} (free : w.turn t = none) (mem : g ∈ groups)
      (found : (w.sys.nextRoutine t g).2 = some r) (moves : World.Run (Moves tasks groups t) (w.begun t g r) v)
      (left : v.turn t = none) : Round tasks groups w (v.perform (.operate t (.onRoutine r .release)))

/-- A number of rounds. -/
inductive Rounds (tasks : List Task) (groups : List GroupRef) (w : World κ) : Nat → World κ → Prop
  | none : Rounds tasks groups w 0 w
  | one {n : Nat} {v v' : World κ} (rounds : Rounds tasks groups w n v) (round : Round tasks groups v v') :
      Rounds tasks groups w (n + 1) v'

theorem Rounds.trans (rounds : Rounds tasks groups u n v) (more : Rounds tasks groups v m w) :
    Rounds tasks groups u (n + m) w := by
  induction more with
  | none => exact rounds
  | one _ round ih => exact ih.one round

/-- A callback that has been entered in the turn of a thread comes to its end. -/
def Returns (tasks : List Task) (groups : List GroupRef) (t : Thread) (u : World κ) : Prop :=
  ∀ v, World.Run (Moves tasks groups t) u v → ∀ T ∈ tasks, ∀ c, v.turn t = some T.routine →
    (v.sys.routine T.routine).work = .reader T.queue .handling c →
    ∃ v' c', World.Run (Moves tasks groups t) v v' ∧ v'.turn t = some T.routine ∧
      (v'.sys.routine T.routine).work = .reader T.queue .handled c'

/-- In all rounds the callbacks return. -/
def Returning (tasks : List Task) (groups : List GroupRef) (w : World κ) : Prop :=
  ∀ n v, Rounds tasks groups w n v → ∀ t g r, v.turn t = none → g ∈ groups →
    (v.sys.nextRoutine t g).2 = some r → Returns tasks groups t (v.begun t g r)

/-- The groups have no other routines than those of the tasks. -/
def Gathered (tasks : List Task) (groups : List GroupRef) (w : World κ) : Prop :=
  ∀ g ∈ groups, ∀ r ∈ (w.sys.group g).slots, ∃ T ∈ tasks, T.routine = r

/-! ## 2. What the parts of a round leave alone -/

/-- An action without a call that has to do with flags obeys the rules of every task. -/
theorem restrained_of_silent (silent : callOf? w a = none) : Restrained T w a := by
  have unapplied : ∀ op, ¬World.Applies T.routine op w a := by
    intro op applied
    cases a with
    | operate t o => cases silent
    | move t =>
      obtain ⟨q, rest, inside, next⟩ := applied
      rw [callOf?, inside, Option.bind_some, next] at silent
      cases silent
    | _ => exact applied
  have unset : ¬World.Sets T.routine a := by
    intro sets
    cases a with
    | operate t o => cases silent
    | _ => exact sets
  refine ⟨⟨fun op _ applied => absurd applied (unapplied op), unset, fun asks => ?_⟩,
    fun applied => absurd applied (unapplied _)⟩
  rw [asked, silent] at asks
  cases asks

theorem unpushed_of_silent (silent : callOf? w a = none) (q : QueueRef) : pushed? q w a = none := by
  refine Option.eq_none_iff_forall_ne_some.mpr fun message pushed => ?_
  rcases pushed?_cases pushed with ⟨t, rfl⟩ | ⟨t, r, rest, rfl, inside, next⟩
  · cases silent
  · rw [callOf?, inside, Option.bind_some, next] at silent
    cases silent

theorem still_of_silent (silent : callOf? w a = none) (groups' : (w.perform a).sys.groups = w.sys.groups) :
    Still tasks groups w a where
  restrained _ _ := restrained_of_silent silent
  unpushed T _ := unpushed_of_silent silent T.queue
  slots g _ r mem := by
    rw [System.group, groups'] at mem
    exact mem

omit [Program κ] in
theorem slots_of_keeps {s s' : System κ} (keeps : KeepsSlots s s') (g : GroupRef) :
    (s'.group g).slots = (s.group g).slots :=
  congrArg (Group.order.flatMap ·) (funext (keeps.queue g))

theorem restrained_next (T : Task) (w : World κ) (t : Thread) (g : GroupRef) :
    Restrained T w (.operate t (.next g)) :=
  ⟨⟨fun _ _ => nofun, nofun, fun asks => absurd asks (Nat.lt_irrefl 0)⟩, nofun⟩

theorem private_release (T : Task) (w : World κ) (t : Thread) (r : RoutineRef) :
    Private T w (.operate t (.onRoutine r .release)) := by
  refine ⟨fun op touches applied => ?_, nofun, fun asks => absurd asks (Nat.lt_irrefl 0)⟩
  obtain ⟨-, rfl⟩ := applied
  rcases touches with absurd | absurd | absurd | absurd <;> cases absurd

theorem restrained_release (vacant : ¬InTurn w r) (T : Task) (t : Thread) :
    Restrained T w (.operate t (.onRoutine r .release)) := by
  refine ⟨private_release T w t r, fun applied => ?_⟩
  obtain ⟨rfl, -⟩ := applied
  exact vacant

theorem restrained_push {q : QueueRef} {m : Int} (announced : announces T w (.operate t (.push q m)) = true) :
    Restrained T w (.operate t (.push q m)) :=
  ⟨⟨fun _ _ => nofun, nofun, fun _ => .inr announced⟩, nofun⟩

theorem still_next (w : World κ) (t : Thread) (g : GroupRef) : Still tasks groups w (.operate t (.next g)) where
  restrained T _ := restrained_next T w t g
  unpushed _ _ := rfl
  slots h _ r mem := by
    have frame := System.frame_nextRoutine Routine.placement_ignoresStatus Routine.placement_ignoresHolder w.sys t g
    exact slots_of_keeps frame.slots h ▸ mem

theorem still_enter (w : World κ) (t : Thread) (r : RoutineRef) : Still tasks groups w (.enter t r) := by
  refine still_of_silent rfl ?_
  rw [World.perform]
  rcases w.enter_cases t r with same | ⟨-, finished⟩ | ⟨n, refused⟩ | ⟨-, -, -, -, entered⟩
  · rw [same]
  · rw [finished]
    rfl
  · rw [refused]
    rfl
  · rw [entered]

theorem still_release (vacant : ¬InTurn w r) (t : Thread) :
    Still tasks groups w (.operate t (.onRoutine r .release)) where
  restrained T _ := restrained_release vacant T t
  unpushed _ _ := rfl
  slots _ _ _ mem := mem

/-- Outside its callback a reader does nothing to other tasks or to the groups. -/
theorem moves_of_phase {q : QueueRef} {phase : ReaderPhase} {c : κ} (inside : w.turn t = some r)
    (work : (w.sys.routine r).work = .reader q phase c) (outside : phase ≠ .handling) :
    Moves tasks groups t w (.move t) := by
  refine ⟨rfl, still_of_silent (silent_of_phase inside work outside) ?_⟩
  cases phase with
  | parking => rw [perform_parking inside work]; rfl
  | fetching => rw [perform_fetching inside work]; rfl
  | idle => rw [perform_idle inside work]; rfl
  | handled => rw [perform_handled inside work]; rfl
  | handling => exact absurd rfl outside

/-- In its round a thread enters and leaves turns by itself. -/
theorem turn_of_moves (moves : World.Run (Moves tasks groups t) (w.begun t g r) v) {x : Thread} (other : x ≠ t) :
    v.turn x = w.turn x := by
  induction moves with
  | refl =>
    have searched : (w.perform (.operate t (.next g))).turn = w.turn := World.turn_perform_of_aside trivial
    have unentered : ∀ q, Action.enter (κ := κ) t r ≠ .enter x q := by
      rintro q ⟨⟩
      exact other rfl
    have unmoved : Action.enter (κ := κ) t r ≠ .move x := nofun
    exact (World.turn_perform_of_other unentered unmoved).trans (congrFun searched x)
  | step _ a moves ih =>
    obtain ⟨rfl, -⟩ := moves
    have unentered : ∀ q, Action.move (κ := κ) t ≠ .enter x q := fun q => nofun
    have unmoved : Action.move (κ := κ) t ≠ .move x := by
      rintro ⟨⟩
      exact other rfl
    exact (World.turn_perform_of_other unentered unmoved).trans ih

theorem turn_of_round (free : w.turn t = none) (moves : World.Run (Moves tasks groups t) (w.begun t g r) v)
    (left : v.turn t = none) : v.turn = w.turn := by
  funext x
  by_cases own : x = t
  · rw [own, left, free]
  · exact turn_of_moves moves own

theorem still_begun (w : World κ) (t : Thread) (g : GroupRef) (r : RoutineRef) :
    World.Run (Still tasks groups) w (w.begun t g r) :=
  have searched : World.Run (Still tasks groups) w (w.perform (.operate t (.next g))) :=
    (World.Run.refl w).step (.operate t (.next g)) (still_next w t g)
  searched.step (.enter t r) (still_enter _ t r)

theorem still_rest (moves : World.Run (Moves tasks groups t) u v) (vacant : ¬InTurn v r) :
    World.Run (Still tasks groups) u (v.perform (.operate t (.onRoutine r .release))) :=
  (moves.mono fun _ _ moves => moves.2).step _ (still_release vacant t)

theorem slots_of_still (run : World.Run (Still tasks groups) w v) (mem : g ∈ groups)
    (queued : r ∈ (v.sys.group g).slots) : r ∈ (w.sys.group g).slots := by
  induction run with
  | refl => exact queued
  | step _ a still ih => exact ih (still.slots g mem r queued)

/-! ## 3. What is due -/

/-- Nothing becomes due while nothing is pushed. -/
theorem Stands.of_still (h : Stands T calm w stage) (steady : Steady calm) (mem : T ∈ tasks)
    (run : World.Run (Still tasks groups) w v) : ∃ stage', Stands T calm v stage' ∧ load T v stage' ≤ load T w stage := by
  induction run with
  | refl => exact ⟨stage, h, Nat.le_refl _⟩
  | step _ a still ih =>
    obtain ⟨stage', stands, less⟩ := ih
    obtain ⟨stage'', stands', goes⟩ := stands.perform steady (still.restrained T mem)
    have step := goes.load_le stands (still.restrained T mem).toPrivate (still.unpushed T mem)
    exact ⟨stage'', stands', by omega⟩

/-- Who holds a ready task enters a turn of it, or finds it stopped. -/
theorem Stands.leaves_ready (h : Stands T calm w stage) (free : w.turn t = none)
    (ready : (w.sys.routine T.routine).state = .ready) (holder : (w.sys.routine T.routine).holder = some t)
    (h' : Stands T calm (w.perform (.enter t T.routine)) stage') : stage' ≠ .ready := by
  rintro rfl
  obtain ⟨phase, c, -, -, fits⟩ := h'.poised
  cases fits with
  | ready vacant still =>
    rw [World.perform, World.enter, if_neg (not_not.mpr free)] at vacant still
    by_cases stopped : (w.sys.routine T.routine).stopped = true
    · rw [if_pos stopped] at still
      have finished : ((w.sys.modifyRoutine T.routine (·.setState .finished)).routine T.routine).state =
          .finished := by
        rw [System.routine_modifyRoutine, if_pos ⟨rfl, h.routine⟩]
        rfl
      cases finished.symm.trans still
    · rw [if_neg stopped, if_neg (not_not.mpr ready), if_neg (not_not.mpr holder)] at vacant
      exact vacant ⟨t, if_pos rfl⟩

omit [Program κ] in
/-- No thread is in a turn of a task that a search hands out. -/
theorem Holds.vacant_of_found (holds : Holds w r) (found : (w.sys.nextRoutine t g).2 = some r) : ¬InTurn w r := by
  rintro ⟨u, inside⟩
  obtain ⟨-, ⟨free, -⟩, -⟩ := System.of_nextRoutine_some found
  cases (holds u inside).symm.trans free

/-- To find a task and to enter a turn of it takes away from what is due to it. -/
theorem Stands.begun (h : Stands T calm w stage) (steady : Steady calm) (free : w.turn t = none)
    (found : (w.sys.nextRoutine t g).2 = some T.routine) :
    ∃ stage', Stands T calm (w.begun t g T.routine) stage' ∧
      load T (w.begun t g T.routine) stage' < load T w stage := by
  have search := restrained_next T w t g
  have enter : Restrained T (w.perform (.operate t (.next g))) (.enter t T.routine) := restrained_of_silent rfl
  obtain ⟨stage₁, searched, goes₁⟩ := h.perform steady search
  obtain ⟨stage₂, entered, goes₂⟩ := searched.perform steady enter
  obtain ⟨-, ⟨-, ready⟩, picked⟩ := System.of_nextRoutine_some found
  have handed : (w.perform (.operate t (.next g))).sys.routine T.routine =
      { (w.sys.routine T.routine).update w.sys.now with holder := some t } := by
    show (w.sys.nextRoutine t g).1.routine T.routine = _
    rw [picked, System.pick, System.routine_modifyRoutine, if_pos ⟨rfl, h.routine⟩]
  have away : (w.perform (.operate t (.next g))).turn t = none := free
  have ready : ((w.perform (.operate t (.next g))).sys.routine T.routine).state = .ready := by
    rw [handed]
    exact ready
  have holder : ((w.perform (.operate t (.next g))).sys.routine T.routine).holder = some t := by
    rw [handed]
  have first := searched.eq_ready (searched.holds.vacant away holder) ready
  have second := searched.leaves_ready away ready holder entered
  have less₁ := goes₁.load_le h search.toPrivate rfl
  have less₂ := goes₂.load_le searched enter.toPrivate rfl
  rw [if_pos ⟨first, second⟩] at less₂
  exact ⟨stage₂, entered, Nat.lt_of_lt_of_le less₂ (Nat.le_trans (Nat.le_add_right _ _) less₁)⟩

/-- The groups have no other routines than those of the tasks, and it is known where the tasks stand. -/
structure Stood (tasks : List Task) (calm : κ → Prop) (groups : List GroupRef) (w : World κ) (stage : Task → Stage) :
    Prop where
  gathered : Gathered tasks groups w
  stands : ∀ T ∈ tasks, Stands T calm w (stage T)

/-- What is due to all tasks. -/
def due (tasks : List Task) (w : World κ) (stage : Task → Stage) : Nat :=
  (tasks.map fun T => load T w (stage T)).sum

omit [Program κ] in
theorem load_le (T : Task) (w : World κ) (stage : Stage) :
    load T w stage ≤ 2 + 2 * (w.sys.queue T.queue).messages.length := by
  have flag := Bool.toNat_le (w.sys.routine T.routine).recheck
  have owed : stage.owed ≤ 1 := by cases stage <;> decide
  unfold load
  split <;> omega

/-- Each round takes away from what is due. -/
theorem Stood.round {stage : Task → Stage} (h : Stood tasks calm groups w stage) (steady : Steady calm)
    (round : Round tasks groups w v) :
    ∃ stage', Stood tasks calm groups v stage' ∧ v.turn = w.turn ∧ due tasks v stage' < due tasks w stage := by
  obtain @⟨t, g, r, x, free, mem, found, moves, left⟩ := round
  obtain ⟨T₀, listed, rfl⟩ := h.gathered g mem r (System.of_nextRoutine_some found).1
  have turn : (x.perform (.operate t (.onRoutine T₀.routine .release))).turn = w.turn :=
    (turn_of_round free moves left :)
  have vacant : ¬InTurn x T₀.routine := by
    rintro ⟨u, inside⟩
    exact (h.stands T₀ listed).holds.vacant_of_found found ⟨u, turn ▸ inside⟩
  have rest := still_rest moves vacant
  have run := (still_begun w t g T₀.routine).trans rest
  generalize x.perform (.operate t (.onRoutine T₀.routine .release)) = v at rest run turn
  -- Nothing becomes due to any task, and the one that was found has left the stage in which it was ready.
  have less : ∀ T ∈ tasks, ∃ stage', Stands T calm v stage' ∧ load T v stage' ≤ load T w (stage T) ∧
      (T = T₀ → load T v stage' < load T w (stage T)) := by
    intro T mem
    by_cases same : T = T₀
    · subst same
      obtain ⟨stage₁, begun, fewer⟩ := (h.stands T mem).begun steady free found
      obtain ⟨stage', stands, less⟩ := begun.of_still steady mem rest
      have fewer := Nat.lt_of_le_of_lt less fewer
      exact ⟨stage', stands, fewer.le, fun _ => fewer⟩
    · obtain ⟨stage', stands, less⟩ := (h.stands T mem).of_still steady mem run
      exact ⟨stage', stands, less, fun absurd => (same absurd).elim⟩
  choose! stage' stands le lt using less
  refine ⟨stage', ⟨fun g mem r queued => h.gathered g mem r (slots_of_still run mem queued), stands⟩, turn, ?_⟩
  exact List.sum_lt_sum _ _ le ⟨T₀, listed, lt T₀ listed rfl⟩

theorem Stood.rounds {stage : Task → Stage} (h : Stood tasks calm groups w stage) (steady : Steady calm)
    (rounds : Rounds tasks groups w n v) :
    ∃ stage', Stood tasks calm groups v stage' ∧ v.turn = w.turn ∧ n + due tasks v stage' ≤ due tasks w stage := by
  induction rounds with
  | none => exact ⟨stage, h, rfl, Nat.le_of_eq (Nat.zero_add _)⟩
  | one _ round ih =>
    obtain ⟨stage₁, stood, turn, less⟩ := ih
    obtain ⟨stage₂, stood', turn', fewer⟩ := stood.round steady round
    exact ⟨stage₂, stood', turn'.trans turn, by omega⟩

/-! ## 4. Rounds to the end -/

/-- A thread can leave its turn. -/
def Leaves (tasks : List Task) (groups : List GroupRef) (t : Thread) (u : World κ) : Prop :=
  ∃ v, World.Run (Moves tasks groups t) u v ∧ v.turn t = none

theorem Leaves.of_run (run : World.Run (Moves tasks groups t) u v) (h : Leaves tasks groups t v) :
    Leaves tasks groups t u := by
  obtain ⟨x, moves, left⟩ := h
  exact ⟨x, run.trans moves, left⟩

theorem Leaves.of_move (moves : Moves tasks groups t w (.move t)) (h : Leaves tasks groups t (w.perform (.move t))) :
    Leaves tasks groups t w :=
  h.of_run ((World.Run.refl w).step (.move t) moves)

theorem Returns.of_move (returns : Returns tasks groups t w) (moves : Moves tasks groups t w (.move t)) :
    Returns tasks groups t (w.perform (.move t)) :=
  fun v run => returns v (((World.Run.refl w).step (.move t) moves).trans run)

/-- At the end of its body a reader leaves its turn. -/
theorem leaves_of_ending {phase : ReaderPhase} {c : κ} (inside : w.turn t = some T.routine)
    (work : (w.sys.routine T.routine).work = .reader T.queue phase c) (ends : phase = .idle ∨ phase = .handled) :
    Leaves tasks groups t w := by
  have left : (w.perform (.move t)).turn t = none := by
    rcases ends with rfl | rfl
    · rw [perform_idle inside work]
      exact if_pos rfl
    · rw [perform_handled inside work]
      exact if_pos rfl
  have outside : phase ≠ .handling := by
    rcases ends with rfl | rfl <;> decide
  have moves : Moves tasks groups t w (.move t) := moves_of_phase inside work outside
  exact .of_move moves ⟨_, .refl _, left⟩

theorem leaves_of_handling {c : κ} (returns : Returns tasks groups t w) (mem : T ∈ tasks)
    (inside : w.turn t = some T.routine)
    (work : (w.sys.routine T.routine).work = .reader T.queue .handling c) : Leaves tasks groups t w := by
  obtain ⟨v, c', run, inside', work'⟩ := returns w (.refl w) T mem c inside work
  exact .of_run run (leaves_of_ending inside' work' (.inr rfl))

theorem leaves_of_fetching {c : κ} (bound : T.routine < w.sys.routines.size) (returns : Returns tasks groups t w)
    (mem : T ∈ tasks) (inside : w.turn t = some T.routine)
    (work : (w.sys.routine T.routine).work = .reader T.queue .fetching c) : Leaves tasks groups t w := by
  have moves : Moves tasks groups t w (.move t) := moves_of_phase inside work (by decide)
  have inside' : (w.perform (.move t)).turn t = some T.routine := by rwa [turn_fetching inside work]
  have reached := work_of_reading bound inside work
  refine .of_move moves ?_
  cases first : (w.sys.queue T.queue).messages.head? with
  | none =>
    rw [first] at reached
    exact leaves_of_ending inside' reached (.inl rfl)
  | some message =>
    rw [first] at reached
    exact leaves_of_handling (returns.of_move moves) mem inside' reached

/-- If its callback returns, a reader leaves its turn. -/
theorem Stands.leaves (h : Stands T calm w stage) (mem : T ∈ tasks) (returns : Returns tasks groups t w)
    (inside : w.turn t = some T.routine) : Leaves tasks groups t w := by
  obtain ⟨phase, c, work, -, -⟩ := h.poised
  cases phase with
  | parking =>
    have moves : Moves tasks groups t w (.move t) := moves_of_phase inside work (by decide)
    have bound := (w.bounds_perform (.move t)).1
    have later := returns.of_move moves
    refine .of_move moves (leaves_of_fetching (c := c) (Nat.lt_of_lt_of_le h.routine bound) later mem ?_ ?_)
    · rw [perform_parking inside work]
      exact inside
    · rw [perform_parking inside work]
      exact congrArg Routine.work ((System.routine_modifyRoutine ..).trans (if_pos ⟨rfl, h.routine⟩))
  | fetching => exact leaves_of_fetching h.routine returns mem inside work
  | idle => exact leaves_of_ending inside work (.inl rfl)
  | handling => exact leaves_of_handling returns mem inside work
  | handled => exact leaves_of_ending inside work (.inr rfl)

/-- As long as a group has something to run, there is another round. -/
theorem Stood.exists_round {stage : Task → Stage} (h : Stood tasks calm groups w stage) (steady : Steady calm)
    (free : w.turn t = none) (mem : g ∈ groups) (found : (w.sys.nextRoutine t g).2 = some r)
    (returns : Returns tasks groups t (w.begun t g r)) : ∃ v, Round tasks groups w v := by
  obtain ⟨T, listed, rfl⟩ := h.gathered g mem r (System.of_nextRoutine_some found).1
  obtain ⟨stage', begun, -⟩ := (h.stands T listed).begun steady free found
  have leaves : Leaves tasks groups t (w.begun t g T.routine) := by
    cases inside : (w.begun t g T.routine).turn t with
    | none => exact ⟨_, .refl _, inside⟩
    | some r =>
      rcases World.turn_perform_cases inside with before | ⟨same, -⟩
      · cases free.symm.trans before
      · cases same
        exact begun.leaves listed returns inside
  obtain ⟨v, moves, left⟩ := leaves
  exact ⟨_, .take t g T.routine free mem found moves left⟩

/-- If the callbacks return, the rounds come to an end. -/
theorem Stood.comes_to_rest {stage : Task → Stage} (h : Stood tasks calm groups w stage) (steady : Steady calm)
    (free : w.turn t = none) (returning : Returning tasks groups w) :
    ∃ n v, Rounds tasks groups w n v ∧ ∀ g ∈ groups, ∀ u, (v.sys.nextRoutine u g).2 = none := by
  induction remains : due tasks w stage using Nat.strong_induction_on generalizing w stage with
  | _ d ih =>
    by_cases rest : ∀ g ∈ groups, (w.sys.nextRoutine t g).2 = none
    · exact ⟨0, w, .none, fun g mem u => System.nextRoutine_none (rest g mem) u⟩
    · push Not at rest
      obtain ⟨g, mem, found⟩ := rest
      obtain ⟨r, found⟩ := Option.ne_none_iff_exists'.mp found
      have returns := returning 0 w .none t g r free mem found
      obtain ⟨v, round⟩ := h.exists_round steady free mem found returns
      obtain ⟨stage', stood, turn, fewer⟩ := h.round steady round
      have one : Rounds tasks groups w 1 v := .one .none round
      have later : Returning tasks groups v := fun n x rounds => returning (1 + n) x (one.trans rounds)
      obtain ⟨n, x, rounds, idle⟩ := ih _ (remains ▸ fewer) stood (turn ▸ free) later rfl
      exact ⟨1 + n, x, one.trans rounds, idle⟩

/-- Callbacks that have nothing to do return. -/
theorem Stood.returning {stage : Task → Stage} (h : Stood tasks calm groups w stage) (steady : Steady calm)
    (prompt : ∀ labels c, calm c → ∃ k, Program.next labels c = .finish k) : Returning tasks groups w := by
  intro n v rounds t g r _ _ _ x moves T listed c inside work
  obtain ⟨stage', stood, -, -⟩ := h.rounds steady rounds
  have run : World.Run (Still tasks groups) v x :=
    (still_begun v t g r).trans (moves.mono fun _ _ moves => moves.2)
  obtain ⟨stage₁, stands, -⟩ := (stood.stands T listed).of_still steady listed run
  obtain ⟨phase, c', reads, body, -⟩ := stands.poised
  cases reads.symm.trans work
  obtain ⟨k, next⟩ := prompt x.sys.labels c body.of_handling
  have skips : (x.sys.routine T.routine).work.next x.sys.labels = .skip (.reader T.queue .handled k) := by
    rw [work, Work.next, next]
    rfl
  have silent : callOf? x (.move t) = none := by
    rw [callOf?, inside, Option.bind_some, skips]
    rfl
  have moved : x.perform (.move t) = { x with
      sys := x.sys.modifyRoutine T.routine fun y => { y with work := .reader T.queue .handled k } } := by
    have unlocked : lockOfMove? x.sys ((x.sys.routine T.routine).work.next x.sys.labels) = none := by
      rw [skips]
      rfl
    rw [World.perform, World.move_of_unlocked inside unlocked, System.move_finish work next]
    rfl
  have still : Still tasks groups x (.move t) := still_of_silent silent (by rw [moved]; rfl)
  refine ⟨x.perform (.move t), k, (World.Run.refl x).step (.move t) ⟨rfl, still⟩, ?_, ?_⟩
  · rw [moved]
    exact inside
  · rw [moved]
    exact congrArg Routine.work ((System.routine_modifyRoutine ..).trans (if_pos ⟨rfl, stands.routine⟩))

/-- Rounds come to an end: there are at most two for each task, and two for each message in its queue. If the
callbacks return, they go on until no group has anything to run. -/
structure ComesToRest (tasks : List Task) (groups : List GroupRef) (w : World κ) : Prop where
  bounded : ∀ n v, Rounds tasks groups w n v →
    n ≤ (tasks.map fun T => 2 + 2 * (w.sys.queue T.queue).messages.length).sum
  -- A callback that loops for ever neither gives up its turn nor panics.
  rests : Returning tasks groups w → ∀ t, w.turn t = none → ∀ n v, Rounds tasks groups w n v →
    ∃ m v', Rounds tasks groups v m v' ∧ ∀ g ∈ groups, ∀ u, (v'.sys.nextRoutine u g).2 = none

/-- Whatever was pushed, searched, entered, moved and released before, and in whatever order: each turn of each task
is accounted for, and the rounds come to an end. -/
theorem readers_come_to_rest {C : Task → Tally} (steady : Steady calm)
    (tallied : ∀ T ∈ tasks, ∃ w₀, Built T calm w₀ ∧ Tallied T (Restrained T) w₀ w (C T)) :
    (∀ T ∈ tasks, (C T).entered ≤ 1 + 2 * (C T).messages + (C T).requests) ∧
      ∀ groups, Gathered tasks groups w → ComesToRest tasks groups w := by
  have balances : ∀ T ∈ tasks, ∃ stage, Stands T calm w stage ∧
      (C T).entered ≤ 1 + 2 * (C T).messages + (C T).requests := by
    intro T mem
    obtain ⟨w₀, built, run⟩ := tallied T mem
    obtain ⟨stage, stands, balance⟩ := run.balance steady built
    exact ⟨stage, stands, by omega⟩
  choose! stage stands entered using balances
  refine ⟨entered, fun groups gathered => ?_⟩
  have stood : Stood tasks calm groups w stage := ⟨gathered, stands⟩
  refine ⟨fun n v rounds => ?_, fun returning t free n v rounds => ?_⟩
  · obtain ⟨stage', -, -, less⟩ := stood.rounds steady rounds
    calc n ≤ due tasks w stage := Nat.le_of_add_right_le less
      _ ≤ (tasks.map fun T => 2 + 2 * (w.sys.queue T.queue).messages.length).sum :=
        List.sum_le_sum fun T _ => load_le T w (stage T)
  · obtain ⟨stage', stood', turn, -⟩ := stood.rounds steady rounds
    have later : Returning tasks groups v := fun m x more => returning (n + m) x (rounds.trans more)
    exact stood'.comes_to_rest steady (turn ▸ free) later

end Rounds

/-! ## 5. Runs that can be checked -/

section Checks

variable {κ : Type} [Program κ] {T : Task} {calm : κ → Prop} {w w₀ : World κ} {a : Action κ} {t : Thread}

omit [Program κ] in
/-- Does a call release a routine? -/
def Operation.releases : Operation κ → Bool
  | .onRoutine _ .release => true
  | _ => false

/-- Does an action plainly obey the rules of a task? It is a search or an arrival, or a move without a call, or one of
the body of the task. -/
def plain (T : Task) (w : World κ) : Action κ → Bool
  | .operate _ (.next _) => true
  | .operate t (.push q m) => announces T w (.operate t (.push q m))
  | .operate _ _ => false
  | .move t => (callOf? w (.move t)).all fun (_, o) => decide (w.turn t = some T.routine) && !o.releases
  | _ => true

theorem restrained_of_own (own : w.turn t = some T.routine)
    (unreleased : ∀ u o, callOf? w (.move t) = some (u, o) → o.releases = false) : Restrained T w (.move t) := by
  refine ⟨⟨fun _ _ _ => own, nofun, fun _ => .inl own⟩, fun applied => ?_⟩
  obtain ⟨q, rest, inside, next⟩ := applied
  have calls : callOf? w (.move t) = some (t, .onRoutine T.routine .release) := by
    rw [callOf?, inside, Option.bind_some, next]
    rfl
  cases unreleased _ _ calls

theorem restrained_of_plain (plainly : plain T w a = true) : Restrained T w a := by
  cases a with
  | operate t o =>
    cases o with
    | next g => exact restrained_next T w t g
    | push q m => exact restrained_push plainly
    | _ => cases plainly
  | move t =>
    cases calls : callOf? w (.move t) with
    | none => exact restrained_of_silent calls
    | some call =>
      obtain ⟨u, o⟩ := call
      rw [plain, calls, Option.all_some, Bool.and_eq_true, decide_eq_true_eq, Bool.not_eq_true'] at plainly
      refine restrained_of_own plainly.1 fun u' o' same => ?_
      cases calls.symm.trans same
      exact plainly.2
  | _ => exact restrained_of_silent rfl

/-- Do some actions plainly obey the rules, each when its turn has come? -/
def plainAll (T : Task) : World κ → List (Action κ) → Bool
  | _, [] => true
  | w, a :: as => plain T w a && plainAll T (w.perform a) as

/-- The tally after some actions. -/
def Tally.afterAll (C : Tally) (T : Task) : World κ → List (Action κ) → Tally
  | _, [] => C
  | w, a :: as => (C.after T w a).afterAll T (w.perform a) as

theorem Tallied.all {C : Tally} (run : Tallied T (Restrained T) w₀ w C) (as : List (Action κ))
    (plainly : plainAll T w as = true) :
    Tallied T (Restrained T) w₀ (as.foldl World.perform w) (C.afterAll T w as) := by
  induction as generalizing w C with
  | nil => exact run
  | cons a as ih =>
    rw [plainAll, Bool.and_eq_true] at plainly
    exact ih (run.step a (restrained_of_plain plainly.1)) plainly.2

theorem Tallied.of_eq {rule : World κ → Action κ → Prop} {C C' : Tally} (run : Tallied T rule w₀ w C)
    (same : C = C') : Tallied T rule w₀ w C' := same ▸ run

/-- A thread that has left its turn of the task releases it. -/
theorem Tallied.release {C : Tally} (run : Tallied T (Restrained T) w₀ w C) (steady : Steady calm)
    (built : Built T calm w₀) (free : w.turn t = none) (holder : (w.sys.routine T.routine).holder = some t) :
    Tallied T (Restrained T) w₀ (w.perform (.operate t (.onRoutine T.routine .release)))
      (C.after T w (.operate t (.onRoutine T.routine .release))) := by
  obtain ⟨stage, stands, -⟩ := run.balance steady built
  exact run.step _ (restrained_release (stands.holds.vacant free holder) T t)

end Checks

/-! ## 6. A task that listens -/

/-- A task that reads a queue has been created. -/
def listening (actions : List CoopSched.Action) : World Script :=
  withQueue.perform (.operate .main (.create (.reader 0 .parking (.ofActions actions)) "t" (some 0)))

/-- The task. -/
def listener : Task where
  routine := 0
  queue := 0
  serial := 0
  id := taskId "t"

theorem built_listening {calm : Script → Prop} {actions : List CoopSched.Action}
    (calms : ∀ message, calm (Program.deliver (Script.ofActions actions) message)) :
    Built listener calm (listening actions) := by
  obtain ⟨sched, hs, serial⟩ : ∃ sched, withQueue.sys.scheduler = some sched ∧ sched.serial = 0 := ⟨_, rfl, rfl⟩
  have built := Built.of_create (w := withQueue) hs .main "t" (q := 0) Nat.one_pos calms nofun rfl
  rw [serial] at built
  exact built

/-- A processor searches for it, enters a turn of it, and makes some moves. -/
def visit (moves : Nat) : List (Action Script) :=
  .operate (.processor 0) (.next 0) :: .enter (.processor 0) 0 :: List.replicate moves (.move (.processor 0))

/-- The processor releases it. -/
def released (w : World Script) : World Script := w.perform (.operate (.processor 0) (.onRoutine 0 .release))

/-- A processor takes a turn of it, and releases it. -/
theorem run_visit {calm : Script → Prop} {w₀ w : World Script} {C : Tally} (steady : Steady calm)
    (built : Built listener calm w₀) (run : Tallied listener (Restrained listener) w₀ w C) (moves : Nat)
    (plainly : plainAll listener w (visit moves) = true ∧
      ((visit moves).foldl World.perform w).turn (.processor 0) = none ∧
      (((visit moves).foldl World.perform w).sys.routine 0).holder = some (.processor 0)) :
    Tallied listener (Restrained listener) w₀ (released ((visit moves).foldl World.perform w))
      ((C.afterAll listener w (visit moves)).after listener ((visit moves).foldl World.perform w)
        (.operate (.processor 0) (.onRoutine 0 .release))) :=
  (run.all (visit moves) plainly.1).release steady built plainly.2.1 plainly.2.2

/-- It has found its queue empty, and then a message has come. -/
def notified (actions : List CoopSched.Action) : World Script :=
  (released ((visit 3).foldl World.perform (listening actions))).perform (.operate .main (.push 0 5))

theorem built_silent : Built listener Script.IsIdle (listening []) := built_listening fun _ => ⟨rfl, rfl⟩

theorem run_notified : Tallied listener (Restrained listener) (listening []) (notified [])
    { entered := 1, messages := 1 } := by
  have visited := run_visit steady_isIdle built_silent .start 3 (by decide +kernel)
  exact (visited.all [.operate .main (.push 0 5)] (by decide +kernel)).of_eq (by decide +kernel)

/-- The task handles the message, and then rests. -/
theorem rest_notified :
    Steady Script.IsIdle ∧ Built listener Script.IsIdle (listening []) ∧
      Tallied listener (Restrained listener) (listening []) (notified []) { entered := 1, messages := 1 } ∧
      ∃ n v, n ≤ 4 ∧ Rounds [listener] [0] (notified []) n v ∧ ∀ u, (v.sys.nextRoutine u 0).2 = none := by
  have tallied : ∀ T ∈ [listener], ∃ w₀, Built T Script.IsIdle w₀ ∧
      Tallied T (Restrained T) w₀ (notified []) { entered := 1, messages := 1 } := by
    intro T mem
    rw [List.mem_singleton.mp mem]
    exact ⟨listening [], built_silent, run_notified⟩
  obtain ⟨-, rest⟩ := readers_come_to_rest (C := fun _ => { entered := 1, messages := 1 }) steady_isIdle tallied
  have slots : ((notified []).sys.group 0).slots = [0] := by decide +kernel
  have gathered : Gathered [listener] [0] (notified []) := by
    intro g first r mem
    rw [List.mem_singleton.mp first, slots, List.mem_singleton] at mem
    exact ⟨listener, List.mem_singleton_self listener, mem.symm⟩
  obtain ⟨stage, stands, -⟩ := run_notified.balance steady_isIdle built_silent
  have stood : Stood [listener] Script.IsIdle [0] (notified []) fun _ => stage := by
    refine ⟨gathered, fun T mem => ?_⟩
    rw [List.mem_singleton.mp mem]
    exact stands
  have returning : Returning [listener] [0] (notified []) := by
    refine stood.returning steady_isIdle fun labels c idle => ⟨c, ?_⟩
    show Script.next labels c = _
    rw [Script.next, idle.2]
  obtain ⟨bounded, rests⟩ := rest [0] gathered
  obtain ⟨n, v, rounds, idle⟩ := rests returning (.processor 0) (by decide +kernel) 0 _ .none
  have due : ([listener].map fun T => 2 + 2 * ((notified []).sys.queue T.queue).messages.length).sum = 4 := by
    decide +kernel
  exact ⟨steady_isIdle, built_silent, run_notified, n, v, due ▸ bounded n v rounds, rounds,
    idle 0 (List.mem_singleton_self 0)⟩

/-! ## 7. A task that asks for another look at itself -/

/-- Actions that say something or are about a single routine. -/
def IsPlain : CoopSched.Action → Prop
  | .log _ | .routine .. => True
  | _ => False

/-- Callbacks with such actions only. -/
def Script.IsPlain (c : Script) : Prop := (∀ a ∈ c.actions, Turns.IsPlain a) ∧ ∀ a ∈ c.todo, Turns.IsPlain a

theorem Script.IsPlain.next {c : Script} (mild : Script.IsPlain c) (labels : Labels) :
    Program.next labels c = .finish c ∨ (∃ k, Program.next labels c = .skip k ∧ Script.IsPlain k) ∨
      ∃ request rest, Program.next labels c = .ask request rest ∧ ∀ reply, Script.IsPlain (rest reply) := by
  obtain ⟨actions, counter, message, todo⟩ := c
  obtain ⟨all, left⟩ := mild
  cases todo with
  | nil => exact .inl rfl
  | cons action todo =>
    have first := left action List.mem_cons_self
    have after : ∀ a ∈ todo, Turns.IsPlain a := fun a mem => left a (List.mem_cons_of_mem action mem)
    cases action with
    | log text => exact .inr (.inr ⟨_, _, rfl, fun _ => ⟨all, after⟩⟩)
    | routine name op =>
      let c : Script := { actions, counter, message, todo }
      have said : ∀ text, Script.IsPlain (c.say text) := by
        refine fun text => ⟨all, fun a mem => ?_⟩
        rcases List.mem_cons.mp mem with rfl | mem
        · trivial
        · exact after a mem
      have step : Program.next labels (Script.mk actions counter message (.routine name op :: todo)) =
          Script.perform labels c (.routine name op) := rfl
      rw [step, Script.perform]
      cases labels.routine? name with
      | none => exact .inr (.inl ⟨c, rfl, all, after⟩)
      | some r =>
        refine .inr (.inr ⟨_, _, rfl, fun reply => ?_⟩)
        cases reply with
        | flag granted => exact said _
        | state state => cases op <;> exact said _
        | _ => exact ⟨all, after⟩
    | _ => exact first.elim

theorem steady_isPlain : Steady Script.IsPlain := by
  refine ⟨fun mild step => ?_, fun reply mild step => ?_, fun mild step => ?_, fun message mild step => ?_,
    fun mild step => ?_, fun mild step => ?_⟩
  all_goals
    rcases mild.next _ with next | ⟨k, next, more⟩ | ⟨request, rest, next, more⟩ <;> cases next.symm.trans step
  · exact more
  · exact more reply
  · exact ⟨mild.1, mild.1⟩

/-- What the callback does: it asks for another look at its own task. -/
def asking : List CoopSched.Action := [.routine "own" .recheck]

/-- The task has handled its message, and has found its queue empty again. -/
def searchedAgain : World Script :=
  released ((visit 3).foldl World.perform (released ((visit 5).foldl World.perform (notified asking))))

theorem built_asking : Built listener Script.IsPlain (listening asking) :=
  have plain : ∀ a ∈ asking, IsPlain a := fun _ mem => List.mem_singleton.mp mem ▸ trivial
  built_listening fun _ => ⟨plain, plain⟩

/-- Four turns for one message and one request. -/
def fourTurns : Tally := { entered := 4, messages := 1, requests := 1 }

/-- Its own request has it run once more. -/
theorem run_searchedAgain : Tallied listener (Restrained listener) (listening asking)
    ((visit 0).foldl World.perform searchedAgain) fourTurns := by
  have parked := run_visit steady_isPlain built_asking .start 3 (by decide +kernel)
  have told := parked.all [.operate .main (.push 0 5)] (by decide +kernel)
  have handled := run_visit steady_isPlain built_asking told 5 (by decide +kernel)
  have idle := run_visit steady_isPlain built_asking handled 3 (by decide +kernel)
  exact (idle.all (visit 0) (by decide +kernel)).of_eq (by decide +kernel)

/-- The task is released while a processor is in a turn of it, and another processor enters a turn as well. -/
def overlapping : World Script :=
  ((((listening []).perform (.operate (.processor 0) (.next 0))).perform (.enter (.processor 0) 0)).perform
    (.operate .main (.onRoutine 0 .release))).perform (.operate (.processor 1) (.next 0))

/-- Two turns without any message or request. -/
def twoTurns : Tally := { entered := 2, messages := 0 }

theorem run_overlapping : Tallied listener (Private listener) (listening [])
    (overlapping.perform (.enter (.processor 1) 0)) twoTurns := by
  have fresh : Tallied listener (Private listener) (listening []) (listening []) _ := .start
  have first := fresh.step (.operate (.processor 0) (.next 0)) (restrained_next ..).toPrivate
  have inside := first.step (.enter (.processor 0) 0) (restrained_of_silent rfl).toPrivate
  have left := inside.step (.operate .main (.onRoutine 0 .release)) (private_release ..)
  have second := left.step (.operate (.processor 1) (.next 0)) (restrained_next ..).toPrivate
  exact (second.step (.enter (.processor 1) 0) (restrained_of_silent rfl).toPrivate).of_eq (by decide +kernel)

/-- Four turns for one message, if a callback asks for another look at its own task. Two turns without any message,
if the task is released in the middle of a turn. -/
theorem entered_beyond :
    (Steady Script.IsPlain ∧ Built listener Script.IsPlain (listening asking) ∧
      Tallied listener (Restrained listener) (listening asking) ((visit 0).foldl World.perform searchedAgain)
        fourTurns ∧ ¬fourTurns.entered ≤ 1 + 2 * fourTurns.messages) ∧
    Steady Script.IsIdle ∧ Built listener Script.IsIdle (listening []) ∧
      Tallied listener (Private listener) (listening []) (overlapping.perform (.enter (.processor 1) 0)) twoTurns ∧
      ¬twoTurns.entered ≤ 1 + 2 * twoTurns.messages :=
  ⟨⟨steady_isPlain, built_asking, run_searchedAgain, by decide⟩, steady_isIdle, built_silent, run_overlapping,
    by decide⟩

end CoopSched.Turns
