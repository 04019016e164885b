import CoopSched.Proofs.Exclusion.Deeds
import CoopSched.Script
import Mathlib.Data.List.FinRange
/-!
# Selection

A search passes the slots of a group from the highest level down, and within a level in the order of insertion.
It holds each routine for a moment and looks whether what the routine waits for has come. It keeps the first
one that is ready then, and leaves the others as it found them.

* A search takes the first slot whose routine is due (`scan_eq`). It makes that routine ready and hands it out,
  or it changes nothing at all (`scan_cases`).
* `Eligible` says in terms of state, flag and wake time which routines can be handed out. The search hands out
  the first eligible one of the highest level that has any, and nothing but this routine changes
  (`nextRoutine_selects`). The flag is used up only if the routine has waited.
-/

namespace CoopSched

variable {κ : Type}

namespace Routine

/-- Whoever is not ready after an update has not been changed by it. -/
theorem update_eq_self {x : Routine κ} {now : Nat} (h : (x.update now).state ≠ .ready) :
    x.update now = x := by
  have waiting : x.state.isWaiting = true → x.update now = x := by
    intro waits
    rw [update_of_waiting waits] at h ⊢
    cases flag : x.recheck with
    | true =>
      rw [flag, if_pos rfl] at h
      exact absurd rfl h
    | false =>
      rw [if_neg Bool.false_ne_true, takeRecheck, ← flag]
  cases state : x.state with
  | ioWait => exact waiting (congrArg State.isWaiting state)
  | dataWait => exact waiting (congrArg State.isWaiting state)
  | ready => simp only [update, state]
  | finished => simp only [update, state]
  | sleep =>
    simp only [update, state] at h ⊢
    split
    · next due =>
      rw [if_pos due] at h
      exact absurd rfl h
    · rfl

/-- What the routine waits for has come by now: it is ready, its sleep is over, or it waits and was told to look
again. -/
def Runnable (x : Routine κ) (now : Nat) : Prop :=
  x.state = .ready ∨ (x.state = .sleep ∧ x.wakeAt ≤ now) ∨
    ((x.state = .dataWait ∨ x.state = .ioWait) ∧ x.recheck = true)

/-- The routine made ready. If it has waited, its flag is used up. -/
def promoted (x : Routine κ) : Routine κ :=
  { x with state := .ready, recheck := if x.state = .dataWait ∨ x.state = .ioWait then false else x.recheck }

theorem update_of_runnable {x : Routine κ} {now : Nat} (h : x.Runnable now) : x.update now = x.promoted := by
  rcases h with ready | ⟨sleeps, due⟩ | ⟨data | io, told⟩
  · simp only [update, promoted, ready]
    rw [if_neg (by decide), ← ready]
  · simp only [update, promoted, sleeps, if_pos due]
    rfl
  · simp only [update, promoted, data, takeRecheck, told]
    rfl
  · simp only [update, promoted, io, takeRecheck, told]
    rfl

/-- An update makes exactly the runnable ones ready. -/
theorem state_update_iff (x : Routine κ) (now : Nat) : (x.update now).state = .ready ↔ x.Runnable now := by
  refine ⟨fun ready => ?_, fun h => congrArg Routine.state (update_of_runnable h)⟩
  have waiting : x.state.isWaiting = true → x.recheck = true := by
    intro waits
    by_contra untold
    rw [update_of_waiting waits, if_neg untold] at ready
    have kept : x.takeRecheck.1.state = x.state := rfl
    rw [← kept, ready] at waits
    cases waits
  cases state : x.state with
  | ready => exact .inl state
  | finished =>
    simp only [update, state] at ready
    cases ready
  | sleep =>
    simp only [update, state] at ready
    split at ready
    · next due => exact .inr (.inl ⟨state, due⟩)
    · rw [state] at ready
      cases ready
  | ioWait => exact .inr (.inr ⟨.inr state, waiting (congrArg State.isWaiting state)⟩)
  | dataWait => exact .inr (.inr ⟨.inl state, waiting (congrArg State.isWaiting state)⟩)

end Routine

namespace System

open Exclusion (acquire_snd_iff acquire_of_refused)

variable {s : System κ} {r : RoutineRef} {g : GroupRef} {t : Thread}

/-! ## 1. Searching -/

/-- A routine that nobody holds and that is ready, or becomes ready when it is looked at. -/
def Due (s : System κ) (r : RoutineRef) : Prop :=
  (s.routine r).holder = none ∧ ((s.routine r).update s.now).state = .ready

/-- A routine that is due, made ready and held. -/
def pick (s : System κ) (t : Thread) (r : RoutineRef) : System κ :=
  s.modifyRoutine r fun x => { x.update s.now with holder := some t }

theorem update_acquired {x : Routine κ} (free : x.holder = none) (t : Thread) (now : Nat) :
    (x.acquire t).1.update now = { x.update now with holder := some t } := by
  rw [Routine.acquire_of_free free]
  have same : ∀ y : Routine κ, { y with holder := some t }.update now =
      { y.update now with holder := some t } := by
    intro y
    cases state : y.state with
    | ready => simp only [Routine.update, state]
    | finished => simp only [Routine.update, state]
    | sleep =>
      simp only [Routine.update, state]
      split
      · rfl
      · rw [← state]
    | ioWait =>
      simp only [Routine.update, state, Routine.takeRecheck]
      cases y.recheck <;> rfl
    | dataWait =>
      simp only [Routine.update, state, Routine.takeRecheck]
      cases y.recheck <;> rfl
  exact same x

/-- To hold a routine that nobody holds, and to look at it. -/
theorem update_acquire (free : (s.routine r).holder = none) (t : Thread) :
    (s.acquire t r).1.update r = s.pick t r := by
  show (s.modifyRoutine r fun x => (x.acquire t).1).modifyRoutine r (·.update s.now) = _
  rw [modifyRoutine_modifyRoutine]
  exact modifyRoutine_congr s (update_acquired free t s.now)

theorem state_pick (s : System κ) (t : Thread) (r : RoutineRef) :
    ((s.pick t r).routine r).state = ((s.routine r).update s.now).state := by
  unfold pick
  rw [routine_modifyRoutine]
  split
  · rfl
  · next outside =>
    -- A number that was never given out stands for a routine that is ready.
    have beyond : s.routines.size ≤ r := Nat.le_of_not_lt fun inside => outside ⟨rfl, inside⟩
    rw [routine, Arena.get_of_size_le _ beyond]
    rfl

/-- A routine that is not due is left as it was. -/
theorem release_pick (free : (s.routine r).holder = none)
    (idle : ((s.routine r).update s.now).state ≠ .ready) (t : Thread) :
    (s.pick t r).release r = s := by
  show (s.modifyRoutine r _).modifyRoutine r Routine.release = s
  rw [modifyRoutine_modifyRoutine]
  -- To hold what nobody holds, and to let it go, leaves no trace.
  refine modifyRoutine_eq_self s ?_
  rw [Routine.update_eq_self idle, Routine.release, ← free]

theorem scan_of_due (due : s.Due r) (t : Thread) (rest : List RoutineRef) :
    scan t (r :: rest) s = (s.pick t r, some r) := by
  obtain ⟨free, ready⟩ := due
  rcases outcome : s.acquire t r with ⟨s₁, granted⟩
  have granted : granted = true := by
    rw [← acquire_snd_iff s t r, outcome] at free
    exact free
  have looked : s₁.update r = s.pick t r := by
    rw [← update_acquire free t, outcome]
  subst granted
  rw [scan, outcome]
  simp only [looked, state_pick, ready, if_true]

/-- A routine that is not due is passed, whether or not somebody holds it. -/
theorem scan_of_not_due (idle : ¬s.Due r) (t : Thread) (rest : List RoutineRef) :
    scan t (r :: rest) s = scan t rest s := by
  rcases outcome : s.acquire t r with ⟨s₁, granted⟩
  rw [scan, outcome]
  cases granted with
  | false => exact congrArg (scan t rest) (acquire_of_refused outcome)
  | true =>
    have free := (acquire_snd_iff s t r).mp (congrArg Prod.snd outcome)
    have looked : s₁.update r = s.pick t r := by
      rw [← update_acquire free t, outcome]
    have early : ((s.routine r).update s.now).state ≠ .ready := fun ready => idle ⟨free, ready⟩
    simp only [looked, state_pick, early, if_false, release_pick free early]

instance (s : System κ) (r : RoutineRef) : Decidable (s.Due r) := inferInstanceAs (Decidable (_ ∧ _))

/-- A search takes the first slot whose routine is due. -/
theorem scan_eq (t : Thread) (rs : List RoutineRef) (s : System κ) :
    scan t rs s = match rs.find? fun r => s.Due r with
      | some r => (s.pick t r, some r)
      | none => (s, none) := by
  induction rs with
  | nil => rfl
  | cons r rest ih =>
    rw [List.find?_cons]
    by_cases due : s.Due r
    · rw [scan_of_due due, decide_eq_true due]
    · rw [scan_of_not_due due, decide_eq_false due, ih]

/-- All that a search can do: find a routine that is due, or find that none is. -/
theorem scan_cases (t : Thread) (rs : List RoutineRef) (s : System κ) :
    (∃ r, s.Due r ∧ scan t rs s = (s.pick t r, some r)) ∨
      ((∀ r ∈ rs, ¬s.Due r) ∧ scan t rs s = (s, none)) := by
  rw [scan_eq]
  cases first : rs.find? fun r => s.Due r with
  | some r =>
    have due := List.find?_some first
    exact .inl ⟨r, of_decide_eq_true due, rfl⟩
  | none => exact .inr ⟨fun r mem due => List.find?_eq_none.mp first r mem (decide_eq_true due), rfl⟩

theorem nextRoutine_cases (s : System κ) (t : Thread) (g : GroupRef) :
    (s.nextRoutine t g).1 = s ∨ ∃ r, s.Due r ∧ (s.nextRoutine t g).1 = s.pick t r := by
  unfold nextRoutine
  split
  · exact .inl rfl
  · rcases scan_cases t (s.group g).slots s with ⟨r, due, found⟩ | ⟨-, nothing⟩
    · exact .inr ⟨r, due, congrArg Prod.fst found⟩
    · exact .inl (congrArg Prod.fst nothing)

/-- If a group that is not silenced has nothing to run, none of its routines is due. -/
theorem not_due_of_nextRoutine {g : GroupRef} (audible : (s.group g).stopped = false)
    (nothing : (s.nextRoutine t g).2 = none) (mem : r ∈ (s.group g).slots) : ¬s.Due r := by
  rw [nextRoutine, audible, if_neg Bool.false_ne_true] at nothing
  rcases scan_cases t (s.group g).slots s with ⟨q, -, found⟩ | ⟨idle, -⟩
  · rw [found] at nothing
    cases nothing
  · exact idle r mem

end System

/-! ## 2. Levels and positions -/

namespace Group

theorem pairwise_order : order.Pairwise fun l m => m < l :=
  List.pairwise_reverse.mpr (List.pairwise_lt_finRange maxPrio)

/-- Before a level come the higher ones. -/
theorem mem_before_iff {before after : List Priority} {l m : Priority} (split : order = before ++ l :: after) :
    m ∈ before ↔ l < m := by
  have sorted := pairwise_order
  rw [split] at sorted
  obtain ⟨-, below, across⟩ := List.pairwise_append.mp sorted
  refine ⟨fun mem => across m mem l List.mem_cons_self, fun higher => ?_⟩
  have all : m ∈ order := List.mem_reverse.mpr (List.mem_finRange m)
  rw [split] at all
  rcases List.mem_append.mp all with mem | rest
  · exact mem
  · rcases List.mem_cons.mp rest with same | lower
    · exact absurd higher (same ▸ Nat.lt_irrefl _)
    · exact absurd higher (Nat.lt_asymm ((List.pairwise_cons.mp below).1 m lower))

end Group

namespace System

variable {s : System κ} {r : RoutineRef} {g : GroupRef} {t : Thread}

/-- Nobody holds the routine, and it can run. -/
def Eligible (s : System κ) (r : RoutineRef) : Prop :=
  (s.routine r).holder = none ∧ (s.routine r).Runnable s.now

theorem due_iff_eligible (s : System κ) (r : RoutineRef) : s.Due r ↔ s.Eligible r :=
  and_congr_right fun _ => (s.routine r).state_update_iff s.now

/-- The slot at a position of a level holds an eligible routine. There is none at any higher level, and none
before it at its own. -/
structure FirstEligible (s : System κ) (g : GroupRef) (l : Priority) (i : Nat) (r : RoutineRef) : Prop where
  slot : ((s.group g).queue l)[i]? = some r
  eligible : s.Eligible r
  above : ∀ m, l < m → ∀ q ∈ (s.group g).queue m, ¬s.Eligible q
  before : ∀ j < i, ∀ q, ((s.group g).queue l)[j]? = some q → ¬s.Eligible q

theorem find?_queue_iff {l : Priority} :
    ((s.group g).queue l).find? (fun r => s.Due r) = some r ↔ s.Eligible r ∧
      ∃ i : Nat, ((s.group g).queue l)[i]? = some r ∧
        ∀ j < i, ∀ q, ((s.group g).queue l)[j]? = some q → ¬s.Eligible q := by
  rw [List.find?_eq_some_iff_getElem, decide_eq_true_iff, due_iff_eligible]
  refine and_congr_right fun _ => exists_congr fun i => ?_
  constructor
  · rintro ⟨inside, here, idle⟩
    refine ⟨List.getElem?_eq_some_iff.mpr ⟨inside, here⟩, fun j earlier q there => ?_⟩
    obtain ⟨_, rfl⟩ := List.getElem?_eq_some_iff.mp there
    have passed := idle j earlier
    rwa [Bool.not_eq_true', decide_eq_false_iff_not, due_iff_eligible] at passed
  · rintro ⟨slot, idle⟩
    obtain ⟨inside, here⟩ := List.getElem?_eq_some_iff.mp slot
    refine ⟨inside, here, fun j earlier => ?_⟩
    rw [Bool.not_eq_true', decide_eq_false_iff_not, due_iff_eligible]
    exact idle j earlier _ (List.getElem?_eq_getElem (Nat.lt_trans earlier inside))

theorem find?_queue_eq_none_iff {l : Priority} :
    ((s.group g).queue l).find? (fun r => s.Due r) = none ↔ ∀ q ∈ (s.group g).queue l, ¬s.Eligible q := by
  simp only [List.find?_eq_none, decide_eq_true_iff, due_iff_eligible]

/-- The first slot with a routine that is due is the first eligible one of the highest level that has any. -/
theorem find?_slots_iff :
    (s.group g).slots.find? (fun r => s.Due r) = some r ↔ ∃ l i, s.FirstEligible g l i r := by
  rw [Group.slots, List.find?_flatMap, List.findSome?_eq_some_iff]
  constructor
  · rintro ⟨before, l, after, split, found, nothing⟩
    -- The levels passed before this one are exactly the higher ones.
    obtain ⟨eligible, i, slot, idle⟩ := find?_queue_iff.mp found
    refine ⟨l, i, slot, eligible, fun m higher => ?_, idle⟩
    exact find?_queue_eq_none_iff.mp (nothing m ((Group.mem_before_iff split).mpr higher))
  · rintro ⟨l, i, first⟩
    obtain ⟨before, after, split⟩ := List.append_of_mem (List.mem_reverse.mpr (List.mem_finRange l))
    refine ⟨before, l, after, split, find?_queue_iff.mpr ⟨first.eligible, i, first.slot, first.before⟩, ?_⟩
    intro m mem
    exact find?_queue_eq_none_iff.mpr (first.above m ((Group.mem_before_iff split).mp mem))

/-! ## 3. What is handed out -/

/-- A routine is handed out to a thread: it is ready and held, and nothing else has changed. -/
structure Grants (t : Thread) (r : RoutineRef) (s s' : System κ) : Prop where
  own : s'.routine r = { (s.routine r).promoted with holder := some t }
  others : ∀ q, q ≠ r → s'.routine q = s.routine q
  size : s'.routines.size = s.routines.size
  rest : s' = { s with routines := s'.routines }

theorem grants_pick (there : r < s.routines.size) (eligible : s.Eligible r) (t : Thread) :
    Grants t r s (s.pick t r) where
  own := by
    rw [pick, routine_modifyRoutine, if_pos ⟨rfl, there⟩, Routine.update_of_runnable eligible.2]
  others q other := by rw [pick, routine_modifyRoutine, if_neg fun same => other same.1.symm]
  size := size_modifyRoutine ..
  rest := rfl

theorem nextRoutine_of_audible (audible : (s.group g).stopped = false) (t : Thread) :
    s.nextRoutine t g = match (s.group g).slots.find? fun r => s.Due r with
      | some r => (s.pick t r, some r)
      | none => (s, none) := by
  rw [nextRoutine, audible, if_neg Bool.false_ne_true, scan_eq]

/-- What a search hands out has a slot in the group and is due. It is made ready and held, and nothing else happens. -/
theorem of_nextRoutine_some (found : (s.nextRoutine t g).2 = some r) :
    r ∈ (s.group g).slots ∧ s.Due r ∧ (s.nextRoutine t g).1 = s.pick t r := by
  cases stopped : (s.group g).stopped with
  | true =>
    rw [nextRoutine, if_pos stopped] at found
    cases found
  | false =>
    rw [nextRoutine_of_audible stopped] at found ⊢
    cases first : (s.group g).slots.find? fun r => s.Due r with
    | none =>
      rw [first] at found
      cases found
    | some q =>
      rw [first] at found
      cases found
      have due := List.find?_some first
      exact ⟨List.mem_of_find?_eq_some first, of_decide_eq_true due, rfl⟩

/-- If one thread finds nothing, none does. -/
theorem nextRoutine_none (nothing : (s.nextRoutine t g).2 = none) (u : Thread) : (s.nextRoutine u g).2 = none := by
  cases stopped : (s.group g).stopped with
  | true => rw [nextRoutine, if_pos stopped]
  | false =>
    rw [nextRoutine_of_audible stopped] at nothing ⊢
    cases first : (s.group g).slots.find? fun r => s.Due r with
    | none => rfl
    | some q =>
      rw [first] at nothing
      cases nothing

/-- A stopped group hands out nothing. From any other group, whatever is queued there, a search hands out the
first eligible routine of the highest level that has any, and none exactly if there is no eligible one. The
routine that is handed out is held and ready, with its flag used up only if it has waited. Nothing else has
changed, and nothing at all if none is handed out. -/
theorem nextRoutine_selects (t : Thread) (there : ∀ l, ∀ r ∈ (s.group g).queue l, r < s.routines.size) :
    ((s.group g).stopped = true → s.nextRoutine t g = (s, none)) ∧
    ((s.group g).stopped = false →
      (∀ r, (s.nextRoutine t g).2 = some r ↔ ∃ l i, s.FirstEligible g l i r) ∧
      ((s.nextRoutine t g).2 = none ↔ ∀ l, ∀ r ∈ (s.group g).queue l, ¬s.Eligible r)) ∧
    ((s.nextRoutine t g).2 = none → (s.nextRoutine t g).1 = s) ∧
    ∀ r, (s.nextRoutine t g).2 = some r → Grants t r s (s.nextRoutine t g).1 := by
  cases stopped : (s.group g).stopped with
  | true =>
    have silent : s.nextRoutine t g = (s, none) := by rw [nextRoutine, if_pos stopped]
    rw [silent]
    refine ⟨fun _ => rfl, fun running => absurd running.symm Bool.false_ne_true, fun _ => rfl, ?_⟩
    exact fun r handed => absurd handed.symm (Option.some_ne_none r)
  | false =>
    have search := nextRoutine_of_audible stopped t
    refine ⟨fun halted => absurd halted Bool.false_ne_true, fun _ => ?_, ?_⟩
    · have found : (s.nextRoutine t g).2 = (s.group g).slots.find? fun r => s.Due r := by
        rw [search]
        cases (s.group g).slots.find? fun r => s.Due r <;> rfl
      refine ⟨fun r => found ▸ find?_slots_iff, ?_⟩
      rw [found, Group.slots, List.find?_flatMap, List.findSome?_eq_none_iff]
      simp only [find?_queue_eq_none_iff]
      exact ⟨fun idle l => idle l (List.mem_reverse.mpr (List.mem_finRange l)), fun idle l _ => idle l⟩
    · cases found : (s.group g).slots.find? fun r => s.Due r with
      | none =>
        rw [found] at search
        rw [search]
        exact ⟨fun _ => rfl, fun r handed => absurd handed.symm (Option.some_ne_none r)⟩
      | some r =>
        rw [found] at search
        obtain ⟨l, i, first⟩ := find?_slots_iff.mp found
        rw [search]
        refine ⟨fun nothing => absurd nothing (Option.some_ne_none r), fun q handed => ?_⟩
        cases handed
        exact grants_pick (there l r (List.mem_of_getElem? first.slot)) first.eligible t

/-- Four routines at two levels: a held one and one that waits untold above, and one that was told and one that
is ready below. -/
def crowded : System Script where
  routines := ⟨#[{ holder := some .helper }, { state := .ioWait }, { state := .dataWait, recheck := true }, {}]⟩
  groups := ⟨#[[(3, 0), (3, 1), (2, 2), (2, 3)].foldl (fun g slot => g.insert (levelOf slot.1) slot.2) {}]⟩

/-- The waiting one that was told is handed out, and its flag is used up. -/
theorem selects_crowded : (∀ l, ∀ r ∈ (crowded.group 0).queue l, r < crowded.routines.size) ∧
    (crowded.group 0).stopped = false ∧ (crowded.nextRoutine .main 0).2 = some 2 ∧
    (∃ l i, crowded.FirstEligible 0 l i 2) ∧ Grants .main 2 crowded (crowded.nextRoutine .main 0).1 ∧
    ((crowded.nextRoutine .main 0).1.routine 2).recheck = false := by
  have there : ∀ l, ∀ r ∈ (crowded.group 0).queue l, r < crowded.routines.size := by decide
  have found : (crowded.nextRoutine .main 0).2 = some 2 := rfl
  obtain ⟨-, selects, -, grants⟩ := nextRoutine_selects .main there
  exact ⟨there, rfl, found, ((selects rfl).1 2).mp found, grants 2 found, rfl⟩

end System

end CoopSched
