import CoopSched.Proofs.Parking.Watching
import CoopSched.Script
/-!
# Routines that every processor passes

A notification can be consumed by a processor whose search then passes the very routine that it was for, because
another processor holds it and has already looked at its flag. When the notifiers are through, this is the only
way in which a routine can be left waiting with its flag up (`answers_iff_not_overlooked`). A processor that
serves the group alone overlooks nothing, as long as nobody else holds a routine (`Lone`).
-/

namespace CoopSched.Parking

open CoopSched.System (Search)
open CoopSched.Exclusion (Deed Does Spares acquire_of_refused does_move)

variable {κ : Type} {s : System κ} {g : GroupRef} {t : Thread} {x r : RoutineRef} {w w₀ : World κ}

/-! ## 1. A processor alone -/

/-- The routine that a processor holds. -/
def Station.keeps? : Station → Option RoutineRef
  | .searching (.examining r ..) | .searching (.dropping r ..) => some r
  | .entering r _ | .running r | .leaving r => some r
  | _ => none

/-- A routine that a search passes is held. -/
theorem Station.passes_eq_some {a : Station} (passes : a.passes? s = some x) :
    ∃ levels slots, a = .searching (.passing levels (x :: slots)) ∧ (s.routine x).isHeld = true := by
  unfold passes? at passes
  split at passes
  · split at passes
    · next held =>
      cases passes
      exact ⟨_, _, rfl, held⟩
    · cases passes
  · cases passes

/-- Notifiers hold nothing, and release nothing. -/
theorem Errand.holder_advance (e : Errand) (g : GroupRef) (s : System κ) (x : RoutineRef) :
    ((e.advance g s).1.routine x).holder = (s.routine x).holder := by
  cases e with
  | flagging r =>
    simp only [advance, System.routine_modifyRoutine]
    split <;> rfl
  | _ => rfl

/-- What somebody holds after an acquire was held before, or acquired. -/
theorem holder_of_acquire (held : ((s.acquire t r).1.routine x).holder ≠ none) :
    (s.routine x).holder ≠ none ∨ x = r := by
  change ((s.modifyRoutine r _).routine x).holder ≠ none at held
  rw [System.routine_modifyRoutine] at held
  split at held
  · next same => exact .inr same.1.symm
  · exact .inl held

/-- What somebody holds after a release was held before, and not released. -/
theorem holder_of_release (held : ((s.release r).routine x).holder ≠ none) :
    (s.routine x).holder ≠ none ∧ x ≠ r := by
  have dropped : ((s.release r).routine x).holder = if r = x then none else (s.routine x).holder :=
    (Does.release .main r).holder x
  rw [dropped] at held
  split at held
  · exact absurd rfl held
  · next other => exact ⟨held, Ne.symm other⟩

/-- If a search holds whatever is held, it does so after its next step, or the processor that it was for. -/
theorem keeps_search {step : Search} (kept : (s.routine x).holder ≠ none → (Station.searching step).keeps? = some x)
    (held : ((s.search t g step).1.routine x).holder ≠ none) :
    match (s.search t g step).2 with
    | .inl next => (Station.searching next).keeps? = some x
    | .inr found => found = some x := by
  cases step with
  | opening =>
    simp only [System.search] at held
    split at held <;> exact absurd (kept held) (Option.some_ne_none x).symm
  | passing levels slots =>
    cases slots with
    | nil => cases levels <;> exact absurd (kept held) (Option.some_ne_none x).symm
    | cons r slots =>
      simp only [System.search] at held ⊢
      rcases outcome : s.acquire t r with ⟨s', granted⟩
      rw [outcome] at held
      cases granted with
      | true =>
        have acquired : ((s.acquire t r).1.routine x).holder ≠ none := outcome ▸ held
        rcases holder_of_acquire acquired with before | rfl
        · exact absurd (kept before) (Option.some_ne_none x).symm
        · rfl
      | false =>
        rw [acquire_of_refused outcome] at held
        exact absurd (kept held) (Option.some_ne_none x).symm
  | examining r step levels slots =>
    have looked := (Spares.look s r step).holder x
    simp only [System.search] at held ⊢
    rcases outcome : s.look r step with ⟨s', next | ready⟩
    · rw [outcome] at looked held
      exact kept (looked ▸ held)
    · rw [outcome] at looked held
      cases ready with
      | true => exact kept (looked ▸ held)
      | false => exact kept (looked ▸ held)
  | dropping r levels slots =>
    obtain ⟨before, other⟩ := holder_of_release held
    exact absurd (Option.some.inj (kept before)).symm other

variable [Program κ]

/-- If a processor holds whatever is held, it does so after its next step, unless a body acquires a routine or
releases one. -/
theorem Station.keeps_advance (a : Station)
    (spares : ∀ r, a = .running r → Deed.ofMove ((s.routine r).work.next s.labels) = .neither)
    (kept : (s.routine x).holder ≠ none → a.keeps? = some x)
    (held : ((a.advance g t s).1.routine x).holder ≠ none) : (a.advance g t s).2.keeps? = some x := by
  cases a with
  | searching step =>
    rw [fst_advance_searching] at held
    have keeps := keeps_search kept held
    simp only [advance]
    rcases outcome : s.search t g step with ⟨s', next | found⟩
    · rw [outcome] at keeps
      exact keeps
    · rw [outcome] at keeps
      subst keeps
      rfl
  | entering r step =>
    rw [fst_advance_entering, (Spares.check s t r step).holder] at held
    obtain rfl := Option.some.inj (kept held)
    simp only [advance]
    split <;> rfl
  | running r =>
    have moved := does_move t r fun y tries => by
      cases (spares r rfl).symm.trans tries
    rw [spares r rfl] at moved
    rw [fst_advance_running, moved.holder] at held
    obtain rfl := Option.some.inj (kept held)
    simp only [advance]
    split <;> rfl
  | leaving r =>
    obtain ⟨before, other⟩ := holder_of_release held
    exact absurd (Option.some.inj (kept before)).symm other
  | waiting =>
    simp only [advance] at held
    split at held <;> exact absurd (kept held) (Option.some_ne_none x).symm

/-- At most one processor serves the group, it holds whatever is held, and nothing was overlooked. -/
structure Lone (w : World κ) : Prop where
  alone : w.stations.length ≤ 1
  keeps : ∀ x, (w.sys.routine x).holder ≠ none → ∃ a ∈ w.stations, a.keeps? = some x
  overlooked : ∀ x, w.overlooked x = false

namespace Lone

omit [Program κ] in
/-- Whatever is held is held by the only processor, at the only place. -/
theorem station (h : Lone w) {p : Nat} {a : Station} (there : w.stations[p]? = some a) :
    w.stations = [a] ∧ p = 0 := by
  match stations : w.stations with
  | [] => rw [stations] at there; cases there
  | [b] =>
    rw [stations] at there
    cases p with
    | zero => exact ⟨congrArg (fun c => [c]) (Option.some.inj there), rfl⟩
    | succ p => cases there
  | _ :: _ :: _ =>
    have alone := h.alone
    rw [stations] at alone
    exact absurd alone (by simp)

omit [Program κ] in
/-- Nothing is overlooked in a step that passes nothing. -/
theorem overlooked_become (h : Lone w) {passed : Option RoutineRef} (passes : ∀ x, passed ≠ some x)
    (s : System κ) (x : RoutineRef) : (w.become passed s).overlooked x = false := by
  rw [Bool.eq_false_iff, Ne, World.overlooked_become]
  rintro ⟨overlooked | passed, -⟩
  · exact absurd ((h.overlooked x).symm.trans overlooked) Bool.false_ne_true
  · exact passes x passed

theorem perform (h : Lone w) {a : Action} (allowed : w.Modest g a) : Lone (w.perform g a) := by
  cases a with
  | serve p =>
    cases there : w.stations[p]? with
    | none => simpa only [World.perform, there] using h
    | some a =>
      obtain ⟨only, rfl⟩ := h.station there
      have kept (x : RoutineRef) (held : (w.sys.routine x).holder ≠ none) : a.keeps? = some x := by
        obtain ⟨b, mem, keeps⟩ := h.keeps x held
        rw [only, List.mem_singleton] at mem
        exact mem ▸ keeps
      simp only [World.perform, there]
      refine ⟨?_, fun x held => ⟨_, mem_set_self there, ?_⟩, h.overlooked_become (fun x passes => ?_) _⟩
      · rw [List.length_set]
        exact h.alone
      · exact a.keeps_advance (fun r here => allowed.spares 0 r rfl (here ▸ there)) (kept x) held
      · -- The processor would have to hold what is in the way of its search.
        obtain ⟨levels, slots, rfl, held⟩ := Station.passes_eq_some passes
        refine Option.some_ne_none x (kept x fun free => ?_).symm
        rw [Routine.isHeld, free] at held
        cases held
  | notify r => exact ⟨h.alone, h.keeps, h.overlooked⟩
  | proceed n =>
    cases there : w.errands[n]? with
    | none => simpa only [World.perform, there] using h
    | some e =>
      simp only [World.perform, there]
      exact ⟨h.alone, fun x held => h.keeps x (e.holder_advance g w.sys x ▸ held),
        h.overlooked_become (fun x => (Option.some_ne_none x).symm) _⟩
  | elapse millis =>
    exact ⟨h.alone, h.keeps, h.overlooked_become (fun x => (Option.some_ne_none x).symm) _⟩

end Lone

/-! ## 2. What a group answers -/

/-- A routine comes to be overlooked only when a search passes it, because somebody holds it, while it waits with
its flag up. -/
theorem passes_of_overlooked {a : Action} (before : w.overlooked x = false)
    (after : (w.perform g a).overlooked x = true) : flagged w.sys x = true ∧
      ∃ p levels slots, a = .serve p ∧ w.stations[p]? = some (.searching (.passing levels (x :: slots))) ∧
        (w.sys.routine x).isHeld = true := by
  have newly {passed : Option RoutineRef} {s : System κ} (after : (w.become passed s).overlooked x = true) :
      passed = some x ∧ flagged s x = true := by
    obtain ⟨was | passed, flag⟩ := World.overlooked_become.mp after
    · exact absurd (before.symm.trans was) Bool.false_ne_true
    · exact ⟨passed, flag⟩
  cases a with
  | serve p =>
    cases there : w.stations[p]? with
    | none =>
      simp only [World.perform, there] at after
      exact absurd (before.symm.trans after) Bool.false_ne_true
    | some b =>
      simp only [World.perform, there] at after
      obtain ⟨passes, flag⟩ := newly after
      obtain ⟨levels, slots, rfl, held⟩ := Station.passes_eq_some passes
      rw [Station.fst_advance_searching] at flag
      exact ⟨(Calms.search ..).flagged x flag, p, levels, slots, rfl, there, held⟩
  | notify r => exact absurd (before.symm.trans after) Bool.false_ne_true
  | proceed n =>
    cases there : w.errands[n]? with
    | none =>
      simp only [World.perform, there] at after
      exact absurd (before.symm.trans after) Bool.false_ne_true
    | some e =>
      simp only [World.perform, there] at after
      cases (newly after).1
  | elapse millis => cases (newly after).1

/-- What is known of a run that began with the processors about to search. -/
structure Accounted (g : GroupRef) (w₀ w : World κ) : Prop where
  /-- When every notifier is through, the group answers exactly if somebody is awake or none of the queued
  routines that nobody holds was overlooked. -/
  answers : (∀ e ∈ w.errands, e = .done) → (w.Answers g ↔
    w.Awake g ∨ ∀ x ∈ (w.sys.group g).slots, (w.sys.routine x).holder = none → w.overlooked x = false)
  /-- What was overlooked still waits with its flag up. -/
  flagged : ∀ x, w.overlooked x = true → flagged w.sys x = true
  /-- It was in the way of a search at a moment at which somebody held it, and it waited with its flag up. -/
  passed : ∀ a x, w.overlooked x = false → (w.perform g a).overlooked x = true →
    Parking.flagged w.sys x = true ∧ ∃ p levels slots, a = .serve p ∧
      w.stations[p]? = some (.searching (.passing levels (x :: slots))) ∧ (w.sys.routine x).isHeld = true
  /-- A processor that serves the group alone overlooks nothing, if nobody held a routine before and bodies
  neither acquire nor release routines. -/
  alone : w₀.stations.length ≤ 1 → (∀ x, (w₀.sys.routine x).holder = none) → World.Run g (World.Modest g) w₀ w →
    ∀ x, w.overlooked x = false

omit [Program κ] in
/-- Nobody is awake only if no notification is pending and every processor waits. -/
theorem Watched.overlooked (h : Watched g w) (through : ∀ e ∈ w.errands, e = .done) (asleep : ¬w.Awake g)
    (queued : x ∈ (w.sys.group g).slots) (flag : Parking.flagged w.sys x = true) : w.overlooked x = true := by
  rcases h.heeds x queued flag with overlooked | ⟨a, there, sees⟩ | pending | telling
  · exact overlooked
  · refine absurd (.inr ⟨a, there, ?_⟩) asleep
    rintro rfl
    exact sees
  · exact absurd (.inl pending) asleep
  · cases through .telling telling

theorem answers_iff_not_overlooked (begins : w₀.Begins g) (run : World.Run g (World.Audible g) w₀ w) :
    Accounted g w₀ w := by
  have watched : Watched g w := run.keeps (fun _ h allowed => h.perform allowed) (.of_begins begins)
  refine ⟨fun through => ⟨fun answers => ?_, ?_⟩, watched.flagged,
    fun _ _ => passes_of_overlooked, fun alone free modest => ?_⟩
  · refine Classical.or_iff_not_imp_left.mpr fun asleep x queued unheld => Bool.eq_false_iff.mpr ?_
    exact fun overlooked => asleep (answers x queued unheld (watched.flagged x overlooked))
  · rintro (awake | seen) x queued unheld flag
    · exact awake
    · by_contra asleep
      have overlooked := watched.overlooked through asleep queued flag
      exact absurd ((seen x queued unheld).symm.trans overlooked) Bool.false_ne_true
  · have lone : Lone w₀ := by
      refine ⟨alone, fun x held => absurd (free x) held, fun x => ?_⟩
      rw [begins.world]
    exact (modest.keeps (fun _ h allowed => h.perform allowed) lone).overlooked

/-! ## 3. A notification that is lost -/

namespace World

/-- The group stays unstopped, and no body makes a move. -/
def quietly (g : GroupRef) (w : World κ) (a : Action) : Bool :=
  !((w.perform g a).sys.group g).stopped &&
    match a with
    | .serve p =>
      match w.stations[p]? with
      | some (.running _) => false
      | _ => true
    | _ => true

/-- It is so for each of some actions in turn. -/
def follows (g : GroupRef) : List Action → World κ → Bool
  | [], _ => true
  | a :: as, w => w.quietly g a && follows g as (w.perform g a)

theorem modest_of_quietly {a : Action} (quiet : w.quietly g a = true) : w.Modest g a := by
  obtain ⟨unstopped, still⟩ := Bool.and_eq_true_iff.mp quiet
  refine ⟨(Bool.not_eq_true' _).mp unstopped, ?_⟩
  rintro p r rfl turn
  simp only [turn] at still
  cases still

theorem Run.follows {as : List Action} (follows : w.follows g as = true) (run : Run g (Modest g) w₀ w) :
    Run g (Modest g) w₀ (as.foldl (perform g) w) := by
  induction as generalizing w with
  | nil => exact run
  | cons a as ih =>
    obtain ⟨quiet, rest⟩ := Bool.and_eq_true_iff.mp follows
    exact ih rest (run.step a (modest_of_quietly quiet))

theorem Run.audible (run : Run g (Modest g) w₀ w) : Run g (Audible g) w₀ w := by
  induction run with
  | refl => exact .refl
  | step _ a allowed ih => exact ih.step a allowed.audible

end World

/-- A group with a single routine, which waits for data. -/
def oneWaiting : System Script :=
  (((System.addGroup {} "group").1.addRoutine 7 "task" (.body (.ofActions []))).1.modifyRoutine 0
    Routine.hangUp).enqueue 0 0

/-- So many processors are about to search it. -/
def staffed (processors : Nat) : World Script :=
  { sys := oneWaiting, stations := List.replicate processors (.searching .opening) }

theorem begins_staffed (n : Nat) : (staffed (n + 1)).Begins 0 where
  bound := Nat.one_pos
  audible := rfl
  starts _ there := List.eq_of_mem_replicate there
  served := nofun
  world := rfl

theorem free_staffed (n : Nat) (x : RoutineRef) : ((staffed n).sys.routine x).holder = none := by
  cases x with
  | zero => rfl
  | succ x => exact Exclusion.holder_of_size_le _ (Nat.succ_le_succ (Nat.zero_le x))

/-- A processor goes through all levels, to the routine at the lowest one, and has examined it. -/
def examination (p : Nat) : List Action := List.replicate 24 (.serve p)

/-- It releases the routine, has nothing left to search, and waits. -/
def ending (p : Nat) : List Action := List.replicate 2 (.serve p)

/-- A notifier comes, and tells of the routine. -/
def telling : List Action := [.notify 0, .proceed 0, .proceed 0, .proceed 0]

/-- The only processor is told of the routine when it has examined it in vain, but not released it. -/
def toldAlone : World Script := (examination 0 ++ telling ++ ending 0).foldl (World.perform 0) (staffed 1)

/-- The processor waits now, but there is a notification to answer. -/
theorem answers_toldAlone : toldAlone.stations = [.waiting] ∧ (toldAlone.sys.routine 0).holder = none ∧
    flagged toldAlone.sys 0 = true ∧ toldAlone.Awake 0 := by
  have run : World.Run 0 (World.Modest 0) (staffed 1) toldAlone := .follows rfl .refl
  have accounted := answers_iff_not_overlooked (begins_staffed 0) run.audible
  have through : ∀ e ∈ toldAlone.errands, e = .done := fun e there => List.mem_singleton.mp there
  have seen := accounted.alone (Nat.le_refl 1) (free_staffed 1) run
  have answers := (accounted.answers through).mpr (.inr fun x _ _ => seen x)
  exact ⟨rfl, rfl, rfl, answers 0 (List.mem_singleton_self 0) rfl rfl⟩

/-- A second processor waits already, and searches when it is told, before the first one has released the routine:
the levels, the slot that it passes, and the end. -/
def vainSearch : List Action := List.replicate 24 (.serve 1)

/-- Then the first one goes on. -/
def toldBoth : World Script :=
  (examination 1 ++ ending 1 ++ examination 0 ++ telling ++ vainSearch ++ ending 0).foldl
    (World.perform 0) (staffed 2)

/-- Nobody holds the routine, which waits with its flag up, and nobody will look at it: the notification has been
used, and both processors wait. -/
theorem unanswered_toldBoth :
    (staffed 2).Begins 0 ∧ World.Run 0 (World.Audible 0) (staffed 2) toldBoth ∧
      (∀ e ∈ toldBoth.errands, e = .done) ∧ ¬toldBoth.Answers 0 := by
  have run : World.Run 0 (World.Modest 0) (staffed 2) toldBoth := .follows rfl .refl
  refine ⟨begins_staffed 1, run.audible, fun e there => List.mem_singleton.mp there, fun answers => ?_⟩
  rcases answers 0 (List.mem_singleton_self 0) rfl rfl with pending | ⟨a, there, awake⟩
  · exact Nat.lt_irrefl 0 pending
  · have there : a ∈ [Station.waiting, Station.waiting] := there
    exact awake (List.eq_of_mem_replicate (n := 2) there)

end CoopSched.Parking
