import CoopSched.Proofs.Exclusion.Machine
import CoopSched.Proofs.Tasks.Operations
/-!
# What a step does to holders and bodies

A step of a thread changes the holder of at most one routine, as its deed says, and advances the body of at
most one, that of the turn it is in (`does_advance`). Most of what a body may ask for spares holders and
bodies altogether. A removal by a body does too: what it acquires it releases in the same step.
-/

namespace CoopSched.Exclusion

open CoopSched.System (Check Frame Keeps Look Search Unlinking)

variable {κ : Type} {s s' s'' : System κ} {t : Thread} {deed : Deed} {turn : Option RoutineRef}

/-! ## 1. Sparing holders and bodies -/

/-- Who holds a routine, and what it has still to do. -/
def standing (x : Routine κ) : Option Thread × Work κ := (x.holder, x.work)

theorem standing_ignoresStatus : IgnoresStatus (standing (κ := κ)) :=
  ⟨fun _ _ => rfl, fun _ _ => rfl, fun _ _ => rfl, fun _ _ => rfl⟩

theorem standing_ignoresPlace : IgnoresPlace (standing (κ := κ)) := fun _ _ _ => rfl

/-- Nobody holds a routine that is not there. -/
theorem holder_of_size_le (s : System κ) {x : RoutineRef} (hx : s.routines.size ≤ x) :
    (s.routine x).holder = none :=
  congrArg Routine.holder (Arena.get_of_size_le s.routines hx)

theorem acquire_snd_iff (s : System κ) (t : Thread) (r : RoutineRef) :
    (s.acquire t r).2 = true ↔ (s.routine r).holder = none := by
  show ((s.routine r).acquire t).2 = true ↔ _
  rw [Routine.acquire_snd, Bool.not_eq_true', Routine.isHeld, Option.isSome_eq_false_iff,
    Option.isNone_iff_eq_none]

/-- An acquire that is refused does nothing. -/
theorem acquire_of_refused {r : RoutineRef} (refused : s.acquire t r = (s', false)) : s' = s := by
  have held : (s.routine r).holder ≠ none := by
    rw [Ne, ← acquire_snd_iff s t r, refused]
    exact Bool.false_ne_true
  obtain ⟨u, holder⟩ := Option.ne_none_iff_exists'.mp held
  have same : ((s.routine r).acquire t).1 = s.routine r := by
    simp only [Routine.acquire, holder]
  exact (congrArg Prod.fst refused).symm.trans (System.modifyRoutine_eq_self s same)

/-- A routine is as it was when it is released by the one who has just acquired it. -/
theorem release_of_acquired {r : RoutineRef} (acquired : s.acquire t r = (s', true))
    (same : s''.routines = s'.routines) : (s''.release r).routines = s.routines := by
  have free : (s.routine r).holder = none :=
    (acquire_snd_iff s t r).mp (congrArg Prod.snd acquired)
  have back : (((s.routine r).acquire t).1).release = s.routine r := by
    rw [Routine.acquire_of_free free]
    show { s.routine r with holder := none } = s.routine r
    rw [← free]
  have routines : s'.routines = s.routines.modify r fun x => (x.acquire t).1 :=
    congrArg (fun x => x.1.routines) acquired.symm
  show s''.routines.modify r Routine.release = s.routines
  rw [same, routines, Arena.modify_modify, Arena.modify_congr (g := fun x => x) s.routines back,
    Arena.modify_id]

namespace Spares

theorem refl (s : System κ) : Spares s s := ⟨Nat.le_refl _, fun _ => rfl, fun _ _ => rfl⟩

theorem trans (h₁ : Spares s s') (h₂ : Spares s' s'') : Spares s s'' where
  size := Nat.le_trans h₁.size h₂.size
  holder x := (h₂.holder x).trans (h₁.holder x)
  work x hx := (h₂.work x (Nat.lt_of_lt_of_le hx h₁.size)).trans (h₁.work x hx)

/-- Nothing was added, and of what is there holders and bodies are kept. -/
theorem of_keeps (keeps : Keeps standing s s') (size : s'.routines.size = s.routines.size) :
    Spares s s' where
  size := keeps.size
  holder x := by
    by_cases hx : x < s.routines.size
    · exact congrArg Prod.fst (keeps.routine x hx)
    · rw [holder_of_size_le s (Nat.le_of_not_lt hx), holder_of_size_le s']
      exact size ▸ Nat.le_of_not_lt hx
  work x hx := congrArg Prod.snd (keeps.routine x hx)

theorem of_frame (frame : Frame standing s s') : Spares s s' := of_keeps frame.routines frame.size

theorem of_routines_eq (h : s'.routines = s.routines) : Spares s s' :=
  of_keeps (.of_routines_eq h) (congrArg Arena.size h)

theorem addRoutine (s : System κ) (id : UInt64) (name : String) (work : Work κ) :
    Spares s (s.addRoutine id name work).1 := by
  have kept : Keeps standing s (s.addRoutine id name work).1 := .addRoutine s id name work
  -- The new routine is held by nobody, and so was the name before it stood for one.
  have holder (x : RoutineRef) :
      ((s.addRoutine id name work).1.routine x).holder = (s.routine x).holder := by
    show ((s.routines.add _).get x).holder = _
    rw [Arena.get_add]
    split
    · next new => exact (holder_of_size_le s (Nat.le_of_eq new.symm)).symm
    · rfl
  exact ⟨kept.size, holder, fun x hx => congrArg Prod.snd (kept.routine x hx)⟩

theorem dispatch (s : System κ) (t : Thread) (r : RoutineRef) : Spares s (s.dispatch t r).1 := by
  refine of_keeps (System.keeps_dispatch standing_ignoresPlace s t r) ?_
  rcases System.dispatch_cases s t r with same | ⟨n, refused⟩ | ⟨sched, -, -, placed⟩
  · rw [same]
  · rw [refused]
    rfl
  · rw [placed, System.place_eq, System.routines_modifyGroup, System.enqueue,
      System.routines_modifyGroup]
    exact (System.relocates_settled _ t sched r).size

theorem createTask (s : System κ) (t : Thread) (work : Work κ) (name : String)
    (source : Option QueueRef) : Spares s (s.createTask t work name source).1 := by
  rcases System.createTask_cases s t work name source with
    same | ⟨n, refused⟩ | ⟨sched, after, went, done⟩
  · rw [same]
    exact .refl s
  · rw [refused]
    exact .of_frame (System.frame_report s t n)
  · have named : Spares s (s.modifyScheduler fun x =>
        { x with names := (sched.names.register name).1 }) := of_routines_eq rfl
    have enrolled : Spares s (s.enrolled t sched name work).1 :=
      named.trans ((addRoutine _ _ name work).trans (of_routines_eq rfl))
    have dispatched := enrolled.trans (dispatch _ t (s.enrolled t sched name work).2)
    rw [went] at dispatched
    rcases done with whole | ⟨q, f, installed⟩
    · rw [whole]
      exact dispatched
    · rw [installed]
      exact dispatched.trans (.of_frame (System.frame_modifyQueue after q f))

/-- A removal in one step ends with the holders it began with. -/
theorem removeRoutine (s : System κ) (t : Thread) (g : GroupRef) (r : RoutineRef) :
    Spares s (s.removeRoutine t g r).1 := by
  unfold System.removeRoutine
  split
  · exact .refl s
  · next level position target _ =>
    have stopped : Spares s (s.modifyRoutine target Routine.stop) :=
      .of_frame (.modifyRoutine s target standing_ignoresStatus.stop)
    split
    · next s₁ outcome =>
      rw [acquire_of_refused outcome]
      exact stopped.trans (of_routines_eq rfl)
    · next s₁ outcome => exact stopped.trans (of_routines_eq (release_of_acquired outcome rfl))

theorem removeById (s : System κ) (t : Thread) (id : UInt64) : Spares s (s.removeById t id).1 := by
  unfold System.removeById
  split
  · exact .refl s
  · split
    · exact .refl s
    · next sched _ r _ =>
      have erased : Spares s (s.modifyScheduler fun sched =>
          { sched with tasks := sched.tasks.erase id }) := of_routines_eq rfl
      have stopped := erased.trans
        (of_frame (.modifyRoutine _ r standing_ignoresStatus.stop))
      exact stopped.trans (removeRoutine _ t _ r)

theorem removeTask (s : System κ) (t : Thread) (name : String) :
    Spares s (s.removeTask t name).1 := by
  unfold System.removeTask
  split
  · exact .refl s
  · split
    · exact .refl s
    · exact removeById s t (taskId name)

theorem removeFromBody (s : System κ) (t : Thread) (name : String) :
    Spares s (s.removeFromBody t name).1 := by
  unfold System.removeFromBody
  split
  · exact .refl s
  · exact removeTask s t name

/-- The answer to a request that is neither to acquire nor to release. -/
theorem serve {σ : Type} (s : System κ) (t : Thread) (r : RoutineRef) {request : Request κ}
    {rest : Reply → σ} (plain : Deed.ofMove (.ask request rest) = .neither) :
    Spares s (s.serve t r request).1 := by
  cases request with
  | trace text => exact of_routines_eq rfl
  | identity => exact .refl s
  | setState state =>
    exact of_frame (.modifyRoutine s r fun x => standing_ignoresStatus.setState x state)
  | push q message => exact of_frame (System.frame_push standing_ignoresStatus s t q message)
  | fetch q => exact of_routines_eq rfl
  | onRoutine x op =>
    cases op with
    | acquire => cases plain
    | release => cases plain
    | stop => exact of_frame (.modifyRoutine s x standing_ignoresStatus.stop)
    | wake => exact of_frame (.modifyRoutine s x standing_ignoresStatus.wake)
    | hangUp => exact of_frame (.modifyRoutine s x standing_ignoresStatus.hangUp)
    | recheck => exact of_frame (.modifyRoutine s x standing_ignoresStatus.requestRecheck)
    | update => exact of_frame (System.frame_update standing_ignoresStatus s x)
    | look => exact .refl s
  | create name body source =>
    simp only [System.serve]
    split
    · exact .refl s
    · exact createTask s t (.body body) name source
  | remove name =>
    simp only [System.serve]
    split
    · exact .refl s
    · exact removeFromBody s t name
  | notify name =>
    simp only [System.serve]
    split
    · exact .refl s
    · exact of_frame (System.frame_notifyTask standing_ignoresStatus s (taskId name))
  | stopProcessor =>
    cases t with
    | processor p => exact of_frame (System.frame_stopProcessor s (.processor p) p)
    | main => exact .refl s
    | helper => exact .refl s

end Spares

/-! ## 2. Deeds -/

/-- The holder of a routine after a step of a thread. -/
def Deed.holder (deed : Deed) (t : Thread) (x : RoutineRef) (before : Option Thread) :
    Option Thread :=
  match deed with
  | .neither => before
  | .tries r => if r = x ∧ before = none then some t else before
  | .drops r => if r = x then none else before

/-- The routine whose body is advanced. -/
def Activity.turn? : Activity → Option RoutineRef
  | .running r => some r
  | _ => none

/-- A step of a thread does its deed to the holders, and advances no body but that of its turn. -/
structure Does (deed : Deed) (t : Thread) (turn : Option RoutineRef) (s s' : System κ) : Prop where
  size : s.routines.size ≤ s'.routines.size
  holder : ∀ x, (s'.routine x).holder = deed.holder t x (s.routine x).holder
  work : ∀ x < s.routines.size, turn ≠ some x → (s'.routine x).work = (s.routine x).work

theorem Spares.does (h : Spares s s') (t : Thread) (turn : Option RoutineRef) :
    Does .neither t turn s s' :=
  ⟨h.size, h.holder, fun x hx _ => h.work x hx⟩

namespace Does

theorem trans (h : Does deed t turn s s') (spares : Spares s' s'') : Does deed t turn s s'' where
  size := Nat.le_trans h.size spares.size
  holder x := (spares.holder x).trans (h.holder x)
  work x hx ne := (spares.work x (Nat.lt_of_lt_of_le hx h.size)).trans (h.work x hx ne)

/-- After the deed, the body of the turn advances. -/
theorem modifyWork (h : Does deed t none s s') {r : RoutineRef} {f : Routine κ → Routine κ}
    (holder : ∀ x, (f x).holder = x.holder) : Does deed t (some r) s (s'.modifyRoutine r f) where
  size := Nat.le_trans h.size (Nat.le_of_eq (System.size_modifyRoutine ..).symm)
  holder x := by
    refine Eq.trans ?_ (h.holder x)
    rw [System.routine_modifyRoutine]
    split
    · exact holder _
    · rfl
  work x hx ne := by
    have other : ¬ (r = x ∧ x < s'.routines.size) := fun same => ne (congrArg some same.1)
    rw [System.routine_modifyRoutine, if_neg other]
    exact h.work x hx nofun

theorem acquire (t : Thread) {r : RoutineRef} (hr : r < s.routines.size) :
    Does (.tries r) t none s (s.acquire t r).1 where
  size := Nat.le_of_eq (System.size_modifyRoutine ..).symm
  holder x := by
    show ((s.modifyRoutine r _).routine x).holder = if _ then _ else _
    rw [System.routine_modifyRoutine]
    by_cases same : r = x
    · subst same
      rw [if_pos ⟨rfl, hr⟩, Routine.acquire]
      cases held : (s.routine r).holder with
      | none => simp
      | some u => simp [held]
    · rw [if_neg fun both => same both.1, if_neg fun both => same both.1]
  work x _ _ := by
    show ((s.modifyRoutine r _).routine x).work = _
    rw [System.routine_modifyRoutine]
    split
    · unfold Routine.acquire
      split <;> rfl
    · rfl

theorem release (t : Thread) (r : RoutineRef) : Does (.drops r) t none s (s.release r) where
  size := Nat.le_of_eq (System.size_modifyRoutine ..).symm
  holder x := by
    show ((s.modifyRoutine r _).routine x).holder = if _ then _ else _
    rw [System.routine_modifyRoutine]
    by_cases same : r = x
    · subst same
      by_cases hr : r < s.routines.size
      · rw [if_pos ⟨rfl, hr⟩, if_pos rfl]
        rfl
      · rw [if_neg fun both => hr both.2, if_pos rfl]
        exact holder_of_size_le s (Nat.le_of_not_lt hr)
    · rw [if_neg fun both => same both.1, if_neg same]
  work x _ _ := by
    show ((s.modifyRoutine r _).routine x).work = _
    rw [System.routine_modifyRoutine]
    split <;> rfl

/-- What the answer to a request does. -/
theorem serve {σ : Type} (t : Thread) (r : RoutineRef) {request : Request κ} {rest : Reply → σ}
    (inside : ∀ x, Deed.ofMove (.ask request rest) = .tries x → x < s.routines.size) :
    Does (.ofMove (.ask request rest)) t none s (s.serve t r request).1 := by
  have spares (plain : Deed.ofMove (.ask request rest) = .neither) :
      Does (.ofMove (.ask request rest)) t none s (s.serve t r request).1 := by
    rw [plain]
    exact (Spares.serve s t r plain).does t none
  cases request with
  | onRoutine x op =>
    cases op with
    | acquire => exact acquire t (inside x rfl)
    | release => exact release t x
    | _ => exact spares rfl
  | _ => exact spares rfl

end Does

/-! ## 3. Every step does its deed -/

theorem Spares.look (s : System κ) (r : RoutineRef) (step : Look) : Spares s (s.look r step).1 := by
  cases step with
  | reading =>
    simp only [System.look]
    split <;> exact .refl s
  | swapping => exact .of_frame (.modifyRoutine s r standing_ignoresStatus.takeRecheck)
  | promoting =>
    exact .of_frame (.modifyRoutine s r fun x => standing_ignoresStatus.setState x .ready)

theorem Spares.check (s : System κ) (t : Thread) (r : RoutineRef) (step : Check) :
    Spares s (s.check t r step).1 := by
  cases step with
  | stopFlag =>
    simp only [System.check]
    split
    · exact .of_frame (.modifyRoutine s r fun x => standing_ignoresStatus.setState x .finished)
    · exact .refl s
  | state =>
    simp only [System.check]
    split
    · exact .of_routines_eq rfl
    · exact .refl s
  | holder =>
    simp only [System.check]
    split
    · exact .of_routines_eq rfl
    · exact .refl s

variable [Program κ]

theorem does_search (t : Thread) (g : GroupRef) (step : Search)
    (inside : ∀ x, (Activity.searching g step).deed s = .tries x → x < s.routines.size) :
    Does ((Activity.searching g step).deed s) t none s (s.search t g step).1 := by
  cases step with
  | opening =>
    simp only [System.search]
    split <;> exact (Spares.refl s).does t none
  | passing levels slots =>
    cases slots with
    | nil => cases levels <;> exact (Spares.refl s).does t none
    | cons r slots =>
      have acquired : Does (.tries r) t none s (s.acquire t r).1 := .acquire t (inside r rfl)
      simp only [System.search]
      rcases outcome : s.acquire t r with ⟨s', granted⟩
      rw [outcome] at acquired
      cases granted with
      | true => exact acquired
      | false => exact acquired
  | examining r step levels slots =>
    have looked := (Spares.look s r step).does t none
    simp only [System.search]
    rcases outcome : s.look r step with ⟨s', next | ready⟩
    · rw [outcome] at looked
      exact looked
    · rw [outcome] at looked
      cases ready with
      | true => exact looked
      | false => exact looked
  | dropping r levels slots => exact .release t r

theorem does_unlink (t : Thread) (g : GroupRef) (r : RoutineRef) (step : Unlinking)
    (inside : ∀ x, (Activity.removing g r step).deed s = .tries x → x < s.routines.size) :
    Does ((Activity.removing g r step).deed s) t none s (s.unlink t g r step).1 := by
  cases step with
  | finding =>
    simp only [System.unlink]
    split <;> exact (Spares.refl s).does t none
  | stopping level position target =>
    have stopped : Spares s (s.modifyRoutine target Routine.stop) :=
      .of_frame (.modifyRoutine s target standing_ignoresStatus.stop)
    exact stopped.does t none
  | acquiring level position target =>
    have acquired : Does (.tries target) t none s (s.acquire t target).1 :=
      .acquire t (inside target rfl)
    simp only [System.unlink]
    rcases outcome : s.acquire t target with ⟨s', granted⟩
    rw [outcome] at acquired
    cases granted with
    | true => exact acquired
    | false => exact acquired.trans (.of_routines_eq rfl)
  | erasing level position target =>
    have erased : Spares s (s.modifyGroup g (·.eraseAt level position)) := .of_routines_eq rfl
    exact erased.does t none
  | releasing target => exact .release t target

theorem does_move (t : Thread) (r : RoutineRef)
    (inside : ∀ x, Deed.ofMove ((s.routine r).work.next s.labels) = .tries x → x < s.routines.size) :
    Does (.ofMove ((s.routine r).work.next s.labels)) t (some r) s (s.move t r).1 := by
  unfold System.move
  cases next : (s.routine r).work.next s.labels with
  | skip rest => exact ((Spares.refl s).does t none).modifyWork fun _ => rfl
  | ask request rest =>
    rw [next] at inside
    exact (Does.serve t r inside).modifyWork fun _ => rfl
  | pause how rest =>
    have gone : Does .neither t (some r) s (s.modifyRoutine r fun x => { x with work := rest }) :=
      ((Spares.refl s).does t none).modifyWork fun _ => rfl
    exact gone.trans (.of_frame (.modifyRoutine _ r fun x => standing_ignoresStatus.pause x s.now how))
  | await gate rest =>
    have reached : Spares s (if s.reachedGates.contains gate then s
        else { s with reachedGates := gate :: s.reachedGates }) := by
      split
      · exact .refl s
      · exact .of_routines_eq rfl
    revert reached
    dsimp only
    generalize (if s.reachedGates.contains gate then s
        else { s with reachedGates := gate :: s.reachedGates }) = s'
    intro reached
    split
    · exact (reached.does t none).modifyWork fun _ => rfl
    · exact reached.does t (some r)
  | finish rest => exact ((Spares.refl s).does t none).modifyWork fun _ => rfl
  | panic reason =>
    have reported : Spares s (s.report t (.panicked (s.routine r).name reason)) := .of_routines_eq rfl
    exact (reported.does t none).modifyWork fun _ => rfl

/-- Every step does its deed, and advances no body but that of the turn it is in. -/
theorem does_advance (t : Thread) (a : Activity)
    (inside : ∀ x, a.deed s = .tries x → x < s.routines.size) :
    Does (a.deed s) t a.turn? s (a.advance t s).1 := by
  cases a with
  | idle => exact (Spares.refl s).does t none
  | acquiring r => exact .acquire t (inside r rfl)
  | releasing r => exact .release t r
  | searching g step =>
    have searched := does_search t g step inside
    simp only [Activity.advance]
    rcases outcome : s.search t g step with ⟨s', next⟩
    rw [outcome] at searched
    cases next with
    | inl next => exact searched
    | inr found => exact searched
  | entering r step =>
    have checked := (Spares.check s t r step).does t none
    simp only [Activity.advance]
    rcases outcome : s.check t r step with ⟨s', next | passed⟩
    · rw [outcome] at checked
      exact checked
    · rw [outcome] at checked
      cases passed with
      | true => exact checked
      | false => exact checked
  | running r =>
    have moved := does_move t r inside
    simp only [Activity.advance]
    rcases outcome : s.move t r with ⟨s', progress⟩
    rw [outcome] at moved
    cases progress with
    | going => exact moved
    | paused => exact moved
    | atGate gate => exact moved
  | removing g r step =>
    have unlinked := does_unlink t g r step inside
    simp only [Activity.advance]
    rcases outcome : s.unlink t g r step with ⟨s', next⟩
    rw [outcome] at unlinked
    cases next with
    | inl next => exact unlinked
    | inr found => exact unlinked

end CoopSched.Exclusion
