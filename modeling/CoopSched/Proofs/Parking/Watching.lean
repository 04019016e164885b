import CoopSched.Proofs.Parking.Machine
/-!
# Who watches a routine that was told

A queued routine that waits with its recheck flag up is not forgotten unless it is overlooked:

1. a step of a search leaves the groups alone, flags nothing, and goes on seeing what it saw, except for the
   routine that it passes (`sees_search`, `Station.sees_or_passes`);
2. the routine was overlooked, or a processor will come to it before it waits, or a notification is pending or
   about to be told (`Watched`), and every step keeps it so (`Watched.perform`).
-/

namespace CoopSched.Parking

open CoopSched.System (Look Search)

variable {κ : Type} {s s' : System κ} {g : GroupRef} {t : Thread} {x r : RoutineRef}

/-! ## 1. What a search sees -/

/-- The groups are the same, and no routine is newly flagged. -/
structure Calms (s s' : System κ) : Prop where
  groups : s'.groups = s.groups
  flagged : ∀ x, flagged s' x = true → flagged s x = true

namespace Calms

theorem refl (s : System κ) : Calms s s := ⟨rfl, fun _ => id⟩

theorem modifyRoutine (s : System κ) (r : RoutineRef) {f : Routine κ → Routine κ}
    (calms : ∀ x, (f x).state.isWaiting = true → (f x).recheck = true →
      x.state.isWaiting = true ∧ x.recheck = true) : Calms s (s.modifyRoutine r f) where
  groups := rfl
  flagged x flag := by
    rw [Parking.flagged, System.routine_modifyRoutine] at flag
    split at flag
    · rw [Bool.and_eq_true] at flag
      rw [Parking.flagged, Bool.and_eq_true]
      exact calms _ flag.1 flag.2
    · exact flag

theorem acquire (s : System κ) (t : Thread) (r : RoutineRef) : Calms s (s.acquire t r).1 := by
  refine modifyRoutine s r fun x waits flag => ?_
  have same : (x.acquire t).1.state = x.state ∧ (x.acquire t).1.recheck = x.recheck := by
    unfold Routine.acquire
    split <;> exact ⟨rfl, rfl⟩
  exact ⟨same.1 ▸ waits, same.2 ▸ flag⟩

theorem release (s : System κ) (r : RoutineRef) : Calms s (s.release r) :=
  modifyRoutine s r fun _ waits flag => ⟨waits, flag⟩

theorem look (s : System κ) (r : RoutineRef) (step : Look) : Calms s (s.look r step).1 := by
  cases step with
  | reading =>
    simp only [System.look]
    split <;> exact refl s
  | swapping => exact modifyRoutine s r fun _ _ flag => absurd flag Bool.false_ne_true
  | promoting => exact modifyRoutine s r fun _ waits => absurd waits Bool.false_ne_true

theorem search (s : System κ) (t : Thread) (g : GroupRef) (step : Search) :
    Calms s (s.search t g step).1 := by
  cases step with
  | opening =>
    simp only [System.search]
    split <;> exact refl s
  | passing levels slots =>
    cases slots with
    | nil => cases levels <;> exact refl s
    | cons r slots =>
      have acquired := acquire s t r
      simp only [System.search]
      rcases outcome : s.acquire t r with ⟨s', granted⟩
      rw [outcome] at acquired
      cases granted with
      | true => exact acquired
      | false => exact acquired
  | examining r step levels slots =>
    have looked := look s r step
    simp only [System.search]
    rcases outcome : s.look r step with ⟨s', next | ready⟩
    · rw [outcome] at looked
      exact looked
    · rw [outcome] at looked
      cases ready with
      | true => exact looked
      | false => exact looked
  | dropping r levels slots => exact release s r

end Calms

/-- An examination that ends with a routine that is not ready has found it without its flag, or not waiting. -/
theorem flagged_of_look {step : Look} (looked : s.look r step = (s', .inr false)) :
    flagged s' r = false := by
  cases step with
  | reading =>
    simp only [System.look] at looked
    split at looked
    · cases looked
    · next state =>
      cases looked
      simp [flagged, state, State.isWaiting]
    · next state =>
      split at looked
      · cases looked
      · cases looked
        simp [flagged, state, State.isWaiting]
    · cases looked
    · cases looked
  | swapping =>
    simp only [System.look] at looked
    split at looked
    · cases looked
    · next down =>
      cases looked
      have taken : ((s.modifyRoutine r (·.takeRecheck.1)).routine r).recheck = false := by
        rw [System.routine_modifyRoutine]
        split
        · rfl
        · exact eq_false_of_ne_true down
      rw [flagged, taken, Bool.and_false]
  | promoting => cases looked

/-- The slots that a search has still to pass. -/
def Ahead (s : System κ) (g : GroupRef) (x : RoutineRef) (levels : List Priority)
    (slots : List RoutineRef) : Prop :=
  x ∈ slots ∨ ∃ l ∈ levels, x ∈ (s.group g).queue l

theorem Ahead.congr {levels : List Priority} {slots : List RoutineRef} (ahead : Ahead s g x levels slots)
    (groups : s'.groups = s.groups) : Ahead s' g x levels slots := by
  rw [Ahead, System.group, groups]
  exact ahead

theorem ahead_order (queued : x ∈ (s.group g).slots) : Ahead s g x Group.order [] :=
  .inr (List.mem_flatMap.mp queued)

/-- Will the processor come to the routine before it waits? After a turn it searches again from the start. -/
def Station.Sees (s : System κ) (g : GroupRef) (x : RoutineRef) : Station → Prop
  | .searching (.passing levels slots) => Ahead s g x levels slots
  | .searching (.examining r _ levels slots) => x = r ∨ Ahead s g x levels slots
  | .searching (.dropping _ levels slots) => Ahead s g x levels slots
  | .waiting => False
  | _ => True

theorem Station.Sees.congr {a : Station} (sees : a.Sees s g x) (groups : s'.groups = s.groups) :
    a.Sees s' g x := by
  cases a with
  | searching step =>
    cases step with
    | opening => trivial
    | passing levels slots => exact Ahead.congr sees groups
    | examining r step levels slots => exact sees.imp_right fun ahead => ahead.congr groups
    | dropping r levels slots => exact Ahead.congr sees groups
  | waiting => exact sees
  | _ => trivial

/-- What a search saw it sees after the next step too, unless it passes it. Nothing that waits with its flag up
was seen by a search that ends without a routine. -/
theorem sees_search (t : Thread) (step : Search) (audible : (s.group g).stopped = false)
    (queued : x ∈ (s.group g).slots) (flag : flagged (s.search t g step).1 x = true)
    (sees : (Station.searching step).Sees s g x) :
    match (s.search t g step).2 with
    | .inl next => (Station.searching next).Sees s g x ∨ (Station.searching step).passes? s = some x
    | .inr found => found ≠ none := by
  cases step with
  | opening =>
    simp only [System.search, audible]
    exact .inl (ahead_order queued)
  | passing levels slots =>
    cases slots with
    | nil =>
      rcases sees with none | ⟨l, further, there⟩
      · cases none
      · cases levels with
        | nil => cases further
        | cons m levels =>
          rcases List.mem_cons.mp further with rfl | further
          · exact .inl (.inl there)
          · exact .inl (.inr ⟨l, further, there⟩)
    | cons r slots =>
      have ahead : x = r ∨ Ahead s g x levels slots := by
        rcases sees with slot | further
        · exact (List.mem_cons.mp slot).imp_right .inl
        · exact .inr (.inr further)
      simp only [System.search]
      rcases outcome : s.acquire t r with ⟨s', granted⟩
      cases granted with
      | true => exact .inl ahead
      | false =>
        have held : (s.routine r).isHeld = true := by
          have refused : ((s.routine r).acquire t).2 = false := congrArg Prod.snd outcome
          rwa [Routine.acquire_snd, Bool.not_eq_false'] at refused
        rcases ahead with rfl | further
        · exact .inr (if_pos held)
        · exact .inl further
  | examining r step levels slots =>
    simp only [System.search] at flag ⊢
    rcases outcome : s.look r step with ⟨s', next | ready⟩
    · exact .inl sees
    · cases ready with
      | true => exact Option.some_ne_none r
      | false =>
        rw [outcome] at flag
        rcases sees with rfl | further
        · exact absurd ((flagged_of_look outcome).symm.trans flag) Bool.false_ne_true
        · exact .inl further
  | dropping r levels slots => exact .inl sees

variable [Program κ]

/-- A processor that takes a step sees a queued routine afterwards that waits with its flag up, unless the step
has changed nothing for it. Then it did not see it before, or it passes it because it is held. -/
theorem Station.sees_or_passes (a : Station) (audible : (s.group g).stopped = false)
    (queued : x ∈ ((a.advance g t s).1.group g).slots) (flag : flagged (a.advance g t s).1 x = true) :
    (a.advance g t s).2.Sees (a.advance g t s).1 g x ∨
      Calms s (a.advance g t s).1 ∧ (a.Sees s g x → a.passes? s = some x) := by
  cases a with
  | searching step =>
    have calms := Calms.search s t g step
    have sees := sees_search (x := x) t step audible
    simp only [Station.advance] at queued flag ⊢
    rcases outcome : s.search t g step with ⟨s', next | found⟩
    · rw [outcome] at calms sees queued flag
      have before : x ∈ (s.group g).slots := by
        rwa [System.group, ← calms.groups]
      by_cases seen : (Station.searching step).Sees s g x
      · rcases sees before flag seen with sees | passes
        · exact .inl (sees.congr calms.groups)
        · exact .inr ⟨calms, fun _ => passes⟩
      · exact .inr ⟨calms, fun sees => absurd sees seen⟩
    · rw [outcome] at calms sees queued flag
      cases found with
      | some r => exact .inl trivial
      | none =>
        have before : x ∈ (s.group g).slots := by
          rwa [System.group, ← calms.groups]
        exact .inr ⟨calms, fun seen => absurd rfl (sees before flag seen)⟩
  | entering r step =>
    simp only [Station.advance]
    split <;> exact .inl trivial
  | running r =>
    simp only [Station.advance]
    split <;> exact .inl trivial
  | leaving r => exact .inl trivial
  | waiting =>
    simp only [Station.advance]
    split
    · exact .inr ⟨.refl s, False.elim⟩
    · exact .inl trivial

/-! ## 2. Who tends a routine -/

/-- No step takes groups away. -/
theorem Station.groups_advance (a : Station) (g : GroupRef) (t : Thread) (s : System κ) :
    s.groups.size ≤ (a.advance g t s).1.groups.size := by
  cases a with
  | searching step =>
    have same : ((searching step).advance g t s).1.groups = s.groups := by
      rw [fst_advance_searching, (Calms.search s t g step).groups]
    exact Nat.le_of_eq (congrArg Arena.size same).symm
  | entering r step =>
    have same : ((entering r step).advance g t s).1.groups = s.groups := by
      rw [fst_advance_entering]
      cases step <;> simp only [System.check] <;> split <;> rfl
    exact Nat.le_of_eq (congrArg Arena.size same).symm
  | running r =>
    rw [fst_advance_running]
    exact ((System.kept_attends s).move (.refl _ s) t r).groups
  | leaving r => exact Nat.le_refl _
  | waiting =>
    simp only [advance]
    split
    · exact Nat.le_refl _
    · exact Nat.le_of_eq (System.size_modifyGroup ..).symm

omit [Program κ] in
/-- A notifier that takes a step is about to tell the group then, or has told it, unless the step has changed
nothing. -/
theorem Errand.tells_or_rests (e : Errand) (bound : g < s.groups.size) :
    ((e.advance g s).2 = .telling ∨ 0 < ((e.advance g s).1.group g).pending) ∨
      (e.advance g s).1 = s ∧ e ≠ .telling := by
  cases e with
  | reading r => exact .inr ⟨rfl, nofun⟩
  | flagging r => exact .inl (.inl rfl)
  | telling =>
    refine .inl (.inr ?_)
    show 0 < ((s.modifyGroup g Group.notify).group g).pending
    rw [System.group_modifyGroup, if_pos ⟨rfl, bound⟩]
    exact Nat.lt_min.mpr ⟨Nat.succ_pos _, by decide⟩
  | done => exact .inr ⟨rfl, nofun⟩

/-- Some processor will come to the routine, or a notification is pending or about to be told. -/
def World.Tended (g : GroupRef) (w : World κ) (x : RoutineRef) : Prop :=
  (∃ a ∈ w.stations, a.Sees w.sys g x) ∨ 0 < (w.sys.group g).pending ∨ .telling ∈ w.errands

/-- A queued routine that waits with its flag up was overlooked or is tended. -/
structure Watched (g : GroupRef) (w : World κ) : Prop where
  bound : g < w.sys.groups.size
  audible : (w.sys.group g).stopped = false
  heeds : ∀ x ∈ (w.sys.group g).slots, flagged w.sys x = true → w.overlooked x = true ∨ w.Tended g x
  flagged : ∀ x, w.overlooked x = true → flagged w.sys x = true

/-- What is in a list stays in it when something else is replaced. -/
theorem mem_set_of_ne {α : Type} {as : List α} {n : Nat} {a b c : α} (there : as[n]? = some a) (mem : b ∈ as)
    (ne : b ≠ a) : b ∈ as.set n c := by
  obtain ⟨m, place⟩ := List.mem_iff_getElem?.mp mem
  have other : n ≠ m := by
    rintro rfl
    exact ne (Option.some.inj (place.symm.trans there))
  refine List.mem_iff_getElem?.mpr ⟨m, ?_⟩
  rw [List.getElem?_set_ne other, place]

theorem mem_set_self {α : Type} {as : List α} {n : Nat} {a c : α} (there : as[n]? = some a) :
    c ∈ as.set n c :=
  List.mem_set (List.getElem?_eq_some_iff.mp there).1 c

namespace Watched

variable {w w₀ : World κ}

omit [Program κ] in
theorem of_begins (begins : w.Begins g) : Watched g w where
  bound := begins.bound
  audible := begins.audible
  heeds x queued flag := by
    cases stations : w.stations with
    | nil => exact absurd ((begins.served stations x queued).symm.trans flag) Bool.false_ne_true
    | cons a rest =>
      have there : a ∈ w.stations := stations ▸ List.mem_cons_self
      refine .inr (.inl ⟨a, there, ?_⟩)
      rw [begins.starts a there]
      trivial
  flagged x overlooked := by
    rw [begins.world] at overlooked
    cases overlooked

theorem serve (h : Watched g w) {p : Nat} {a : Station} (there : w.stations[p]? = some a)
    (audible : w.Audible g (.serve p)) : Watched g (w.perform g (.serve p)) := by
  simp only [World.Audible, World.perform, there] at audible ⊢
  refine ⟨Nat.lt_of_lt_of_le h.bound (a.groups_advance ..), audible, fun x queued flag => ?_,
    fun x overlooked => (World.overlooked_become.mp overlooked).2⟩
  rcases a.sees_or_passes h.audible queued flag with sees | ⟨calms, passes⟩
  · exact .inr (.inl ⟨_, mem_set_self there, sees⟩)
  · have before : x ∈ (w.sys.group g).slots := by
      rwa [System.group, ← calms.groups]
    rcases h.heeds x before (calms.flagged x flag) with overlooked | ⟨b, mem, sees⟩ | pending | telling
    · exact .inl (World.overlooked_become.mpr ⟨.inl overlooked, flag⟩)
    · by_cases same : b = a
      · subst same
        exact .inl (World.overlooked_become.mpr ⟨.inr (passes sees), flag⟩)
      · exact .inr (.inl ⟨b, mem_set_of_ne there mem same, sees.congr calms.groups⟩)
    · refine .inr (.inr (.inl ?_))
      rw [World.become, System.group, calms.groups]
      exact pending
    · exact .inr (.inr (.inr telling))

theorem proceed (h : Watched g w) {n : Nat} {e : Errand} (there : w.errands[n]? = some e)
    (audible : w.Audible g (.proceed n)) : Watched g (w.perform g (.proceed n)) := by
  have size : w.sys.groups.size ≤ (e.advance g w.sys).1.groups.size := by
    cases e with
    | telling => exact Nat.le_of_eq (System.size_modifyGroup ..).symm
    | _ => exact Nat.le_refl _
  simp only [World.Audible, World.perform, there] at audible ⊢
  refine ⟨Nat.lt_of_lt_of_le h.bound size, audible, fun x queued flag => ?_,
    fun x overlooked => (World.overlooked_become.mp overlooked).2⟩
  rcases e.tells_or_rests h.bound with (telling | pending) | ⟨same, ne⟩
  · exact .inr (.inr (.inr (telling ▸ mem_set_self there)))
  · exact .inr (.inr (.inl pending))
  · rw [World.become, same] at queued flag ⊢
    rcases h.heeds x queued flag with overlooked | sees | pending | telling
    · exact .inl (World.overlooked_become.mpr ⟨.inl overlooked, flag⟩)
    · exact .inr (.inl sees)
    · exact .inr (.inr (.inl pending))
    · exact .inr (.inr (.inr (mem_set_of_ne there telling ne.symm)))

theorem perform (h : Watched g w) {a : Action} (allowed : w.Audible g a) : Watched g (w.perform g a) := by
  cases a with
  | serve p =>
    cases there : w.stations[p]? with
    | none => simpa only [World.perform, there] using h
    | some a => exact h.serve there allowed
  | notify r =>
    refine { h with heeds := fun x queued flag => ?_ }
    exact (h.heeds x queued flag).imp_right
      (Or.imp_right (Or.imp_right fun telling => List.mem_append_left _ telling))
  | proceed n =>
    cases there : w.errands[n]? with
    | none => simpa only [World.perform, there] using h
    | some e => exact h.proceed there allowed
  | elapse millis =>
    refine ⟨h.bound, h.audible, fun x queued flag => ?_,
      fun x overlooked => (World.overlooked_become.mp overlooked).2⟩
    refine (h.heeds x queued flag).imp (fun overlooked => ?_) (Or.imp_left ?_)
    · exact World.overlooked_become.mpr ⟨.inl overlooked, flag⟩
    · rintro ⟨a, there, sees⟩
      exact ⟨a, there, sees.congr rfl⟩

end Watched

end CoopSched.Parking
