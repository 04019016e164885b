import CoopSched.Proofs.Exclusion.Grants
import CoopSched.Script
/-!
# Exclusive execution

What follows of the agreement between threads and holders. In every run a routine is held by at most one thread,
no operation grants a routine that is held, and a body advances only in a turn that was begun by a thread that
held the routine (`Exclusive`). That it still holds the routine is lost exactly when the body releases the
routine that it belongs to: then the body goes on without a holder, and another thread can be granted the
routine and enter the same body (`turns_shared`). In every run in which no body does that, at most one thread is
in a turn of a routine, and a body advances only by the thread that holds it (`Undivided`).

`exclusive_of_run` says both.
-/

namespace CoopSched.Exclusion

open CoopSched.System (Check Look Search Unlinking)

variable {κ : Type} {w w₀ : World κ} {n m : Nat} {a b : Worker} {r : RoutineRef}
  {s : System κ} {t : Thread}

/-! ## 1. Whole operations -/

/-- A scan does not find a routine that somebody holds, wherever it is queued. -/
theorem scan_of_held {u : Thread} (held : (s.routine r).holder = some u) (t : Thread)
    (slots : List RoutineRef) : (System.scan t slots s).2 ≠ some r := by
  induction slots generalizing s with
  | nil => exact nofun
  | cons q slots ih =>
    unfold System.scan
    split
    · next s₁ outcome =>
      rw [acquire_of_refused outcome]
      exact ih held
    · next s₁ outcome =>
      -- What the scan has acquired was free, so it is another routine.
      have free : (s.routine q).holder = none := (acquire_snd_iff s t q).mp (congrArg Prod.snd outcome)
      have other : q ≠ r := by
        rintro rfl
        exact absurd (free.symm.trans held) nofun
      have apart : ∀ (s : System κ) (f : Routine κ → Routine κ),
          (s.modifyRoutine q f).routine r = s.routine r := by
        intro s f
        rw [System.routine_modifyRoutine, if_neg fun same => other same.1]
      have same : (s₁.routine r).holder = some u := by
        have acquired : s₁ = s.modifyRoutine q fun x => (x.acquire t).1 :=
          (congrArg Prod.fst outcome).symm
        rw [acquired, apart]
        exact held
      dsimp only
      split
      · exact fun found => other (Option.some.inj found)
      · refine ih ?_
        rw [System.release, apart, System.update, apart]
        exact same

theorem nextRoutine_of_held {u : Thread} (held : (s.routine r).holder = some u) (t : Thread)
    (g : GroupRef) : (s.nextRoutine t g).2 ≠ some r := by
  unfold System.nextRoutine
  split
  · exact nofun
  · exact scan_of_held held t _

variable [Program κ]

/-- A resume by a thread that is not the holder leaves holders and bodies alone. -/
theorem resume_of_not_holder (unheld : (s.routine r).holder ≠ some t) :
    Spares s (s.resume t r).1 := by
  unfold System.resume
  dsimp only
  split
  · exact .of_frame (.modifyRoutine s r fun x => standing_ignoresStatus.setState x .finished)
  · split
    · exact .of_routines_eq rfl
    · exact .of_routines_eq rfl

/-! ## 2. The next action -/

/-- The thread is in the middle of a turn of the routine. -/
def World.InTurn (w : World κ) (n : Nat) (r : RoutineRef) : Prop :=
  ∃ a, w.workers n = some a ∧ a.doing.turn? = some r

/-- Every turn is one of a routine that its thread holds. -/
def World.TurnsHeld (w : World κ) : Prop := ∀ n r, w.InTurn n r → w.holds n r

omit [Program κ] in
theorem turn?_eq_some_iff {doing : Activity} : doing.turn? = some r ↔ doing = .running r := by
  cases doing with
  | running q =>
    exact ⟨fun same => congrArg Activity.running (Option.some.inj same), fun same => congrArg _ (Activity.running.inj same)⟩
  | _ => exact ⟨nofun, nofun⟩

omit [Program κ] in
theorem turn?_activity (operation : Operation) : operation.activity.turn? = none := by
  cases operation <;> rfl

/-- After a step a thread is in a turn that it was in before, or has just begun, as the holder. -/
theorem turn?_advance {doing : Activity} (after : (doing.advance t s).2.turn? = some r) :
    doing = .running r ∨ (s.routine r).holder = some t ∧ doing.deed s = .neither := by
  cases doing with
  | idle => cases after
  | acquiring q => cases after
  | releasing q => cases after
  | searching g step =>
    simp only [Activity.advance] at after
    split at after <;> cases after
  | entering q step =>
    simp only [Activity.advance] at after
    split at after
    · cases after
    · next passed =>
      cases after
      exact .inr ⟨holder_of_check passed, rfl⟩
    · cases after
  | running q =>
    simp only [Activity.advance] at after
    split at after
    · cases after
    · exact .inl (congrArg Activity.running (Option.some.inj after))
  | removing g q step =>
    simp only [Activity.advance] at after
    split at after <;> cases after

/-- After a release its turn goes on. -/
theorem advance_of_drops {x : RoutineRef} (drops : (Activity.running r).deed s = .drops x) :
    ((Activity.running r).advance t s).2 = .running r := by
  have drops : Deed.ofMove ((s.routine r).work.next s.labels) = .drops x := drops
  simp only [Activity.advance, System.move]
  cases next : (s.routine r).work.next s.labels with
  | ask request rest => rfl
  | _ =>
    have silent := (congrArg Deed.ofMove next).symm.trans drops
    cases silent

/-- What an action leaves that is no step of a thread: nobody holds more or less, no turn is begun, and no body
advances. -/
structure World.Beside (w : World κ) (action : Action κ) : Prop where
  holds : (w.perform action).holds = w.holds
  turns : ∀ n r, (w.perform action).InTurn n r → w.InTurn n r
  work : w.Allowed action → ∀ r < w.sys.routines.size,
    ((w.perform action).sys.routine r).work = (w.sys.routine r).work

namespace World.Beside

variable {action : Action κ}

theorem of_eq (same : w.perform action = w) : w.Beside action := by
  refine ⟨congrArg World.holds same, fun n r after => ?_, fun _ r _ => ?_⟩
  · rw [same] at after
    exact after
  · rw [same]

/-- A thread comes, goes, or begins with something that is not a turn. -/
theorem of_setWorker {worker : Option Worker} (outside : ∀ b, worker = some b → b.doing.turn? = none)
    (same : w.perform action = { w with workers := w.setWorker n worker }) : w.Beside action := by
  refine ⟨by rw [same], fun m r after => ?_, fun _ r _ => ?_⟩
  · rw [same] at after
    obtain ⟨b, there, turn⟩ := after
    rcases World.setWorker_eq_some there with ⟨-, mine⟩ | ⟨-, there⟩
    · exact absurd (turn.symm.trans (outside b mine)) (Option.some_ne_none r)
    · exact ⟨b, there, turn⟩
  · rw [same]

end World.Beside

/-- An action is a step of a thread that is there, or beside all steps. -/
theorem World.perform_cases (w : World κ) (action : Action κ) :
    (∃ n a, action = .step n ∧ w.workers n = some a ∧ w.perform action = w.advance n a) ∨
      w.Beside action := by
  cases action with
  | start n t =>
    have comes : w.perform (.start n t) = { w with workers := w.setWorker n (some ⟨t, .idle⟩) } ∨
        w.perform (.start n t) = w := by
      simp only [World.perform]
      split
      · exact .inl rfl
      · exact .inr rfl
    refine .inr (comes.elim (.of_setWorker fun b same => ?_) .of_eq)
    cases same
    rfl
  | finish n =>
    have ends : w.perform (.finish n) = { w with workers := w.setWorker n none } ∨
        w.perform (.finish n) = w := by
      simp only [World.perform]
      split
      · exact .inl rfl
      · exact .inr rfl
    refine .inr (ends.elim (.of_setWorker fun b same => ?_) .of_eq)
    cases same
  | begin n operation =>
    have begins : (∃ t, w.perform (.begin n operation) =
          { w with workers := w.setWorker n (some ⟨t, operation.activity⟩) }) ∨
        w.perform (.begin n operation) = w := by
      simp only [World.perform]
      split
      · next t there => exact .inl ⟨t, rfl⟩
      · exact .inr rfl
    rcases begins with ⟨t, same⟩ | same
    · refine .inr (.of_setWorker (fun b mine => ?_) same)
      cases mine
      exact turn?_activity operation
    · exact .inr (.of_eq same)
  | step n =>
    cases there : w.workers n with
    | none => exact .inr (.of_eq (by simp only [World.perform, there]))
    | some a => exact .inl ⟨n, a, rfl, there, by simp only [World.perform, there]⟩
  | elsewhere s => exact .inr ⟨rfl, fun _ _ after => after, fun spares => Spares.work spares⟩

/-- A thread goes on to hold a routine, unless its own step drops it. -/
theorem holds_perform {action : Action κ} (held : w.holds n r) :
    (w.perform action).holds n r ∨
      ∃ a, action = .step n ∧ w.workers n = some a ∧ a.doing.deed w.sys = .drops r := by
  rcases w.perform_cases action with ⟨i, a, rfl, there, stepped⟩ | beside
  · rw [stepped]
    by_cases mine : n = i
    · subst mine
      by_cases drops : a.doing.deed w.sys = .drops r
      · exact .inr ⟨a, rfl, there, drops⟩
      · exact .inl ((if_pos rfl).mpr (Deed.holds_of_ne _ drops held))
    · exact .inl ((if_neg mine).mpr held)
  · rw [beside.holds]
    exact .inl held

/-- A body advances only by a step of a thread that is in a turn of it. -/
theorem inTurn_of_advanced {action : Action κ} (allowed : w.Allowed action)
    (hr : r < w.sys.routines.size)
    (moved : ((w.perform action).sys.routine r).work ≠ (w.sys.routine r).work) :
    ∃ n, action = .step n ∧ w.InTurn n r := by
  rcases w.perform_cases action with ⟨i, a, rfl, there, stepped⟩ | beside
  · rw [stepped] at moved
    have does := does_advance a.token a.doing (allowed a there).inside
    refine ⟨i, rfl, a, there, ?_⟩
    by_contra other
    exact moved (does.work r hr other)
  · exact absurd (beside.work allowed r hr) moved

namespace Agreement

/-- A thread comes to hold only what nobody holds. -/
theorem granted (h : Agreement w) {action : Action κ} (new : ¬ w.holds n r)
    (held : (w.perform action).holds n r) : ∀ m, ¬ w.holds m r := by
  rcases w.perform_cases action with ⟨i, a, rfl, there, stepped⟩ | beside
  · rw [h.free_iff]
    rw [stepped] at held
    by_cases hn : n = i
    · subst hn
      have held : (a.doing.deed w.sys).holds r ((w.sys.routine r).holder = none) (w.holds n r) :=
        (if_pos rfl).mp held
      exact Deed.free_of_holds _ new held
    · have held : w.holds n r := (if_neg hn).mp held
      exact absurd held new
  · rw [beside.holds] at held
    exact absurd held new

/-- A thread in a turn was in it before, or has just begun it by a step that left it the holder. -/
theorem inTurn_perform (h : Agreement w) {action : Action κ} (after : (w.perform action).InTurn n r) :
    w.InTurn n r ∨ ∃ a, action = .step n ∧ w.workers n = some a ∧ w.holds n r ∧
      a.doing.deed w.sys = .neither := by
  rcases w.perform_cases action with ⟨i, a, rfl, there, stepped⟩ | beside
  · rw [stepped] at after
    obtain ⟨b, second, turn⟩ := after
    rcases World.setWorker_eq_some second with ⟨rfl, mine⟩ | ⟨-, second⟩
    · cases mine
      rcases turn?_advance turn with same | ⟨held, neither⟩
      · exact .inl ⟨a, there, turn?_eq_some_iff.mpr same⟩
      · exact .inr ⟨a, rfl, there, (h.agrees there r).mpr held, neither⟩
    · exact .inl ⟨b, second, turn⟩
  · exact .inl (beside.turns n r after)

/-- A turn is begun only by a thread that holds the routine. -/
theorem entered (h : Agreement w) {action : Action κ} (before : ¬ w.InTurn n r)
    (after : (w.perform action).InTurn n r) : w.holds n r := by
  obtain ⟨-, -, -, held, -⟩ := (h.inTurn_perform after).resolve_left before
  exact held

/-- A turn comes to be without its holder exactly by a body that releases its own routine. -/
theorem turnsHeld_perform_iff (h : Agreement w) (held : w.TurnsHeld) (action : Action κ) :
    (w.perform action).TurnsHeld ↔ ¬ w.LetsGo action := by
  constructor
  · intro after letsGo
    cases action with
    | step n =>
      obtain ⟨⟨t, doing⟩, r, there, rfl, drops⟩ := letsGo
      have stepped : w.perform (.step n) = w.advance n ⟨t, .running r⟩ := by
        simp only [World.perform, there]
      rw [stepped] at after
      have turn : (w.advance n ⟨t, .running r⟩).InTurn n r :=
        ⟨_, w.setWorker_self n _, turn?_eq_some_iff.mpr (advance_of_drops drops)⟩
      have still := (if_pos rfl).mp (after n r turn)
      rw [drops] at still
      exact still.2 rfl
    | _ => exact letsGo
  · intro keeps n r after
    rcases h.inTurn_perform after with before | ⟨a, rfl, there, mine, neither⟩
    · refine (holds_perform (held n r before)).resolve_right ?_
      rintro ⟨a, rfl, there, drops⟩
      obtain ⟨b, same, turn⟩ := before
      cases there.symm.trans same
      exact keeps ⟨a, r, there, turn?_eq_some_iff.mp turn, drops⟩
    · refine (holds_perform mine).resolve_right ?_
      rintro ⟨b, -, same, drops⟩
      cases there.symm.trans same
      cases neither.symm.trans drops

omit [Program κ] in
/-- What a search has found is held by its thread. -/
theorem found (h : Agreement w) {g : GroupRef} {step : Search} (there : w.workers n = some a)
    (doing : a.doing = .searching g step)
    (found : (w.sys.search a.token g step).2 = .inr (some r)) : w.holds n r := by
  have possesses := h.possesses there
  rw [doing] at possesses
  cases step with
  | opening =>
    simp only [System.search] at found
    split at found <;> cases found
  | passing levels slots =>
    cases slots with
    | nil => cases levels <;> cases found
    | cons q slots =>
      simp only [System.search] at found
      split at found <;> cases found
  | examining q step levels slots =>
    simp only [System.search] at found
    split at found <;> cases found
    exact possesses
  | dropping q levels slots => cases found

end Agreement

/-! ## 3. Every run -/

/-- What holds after every run. -/
structure Exclusive (w : World κ) : Prop where
  /-- At most one thread holds a routine. -/
  alone : ∀ n m r, w.holds n r → w.holds m r → n = m
  /-- Whatever comes next, a thread comes to hold only what nobody holds. -/
  granted : ∀ action, w.Allowed action → ∀ n r, ¬ w.holds n r → (w.perform action).holds n r →
    ∀ m, ¬ w.holds m r
  /-- An acquire is granted exactly if nobody holds the routine. -/
  acquired : ∀ t r, (w.sys.acquire t r).2 = true ↔ ∀ n, ¬ w.holds n r
  /-- A search without interruption finds only what nobody holds. -/
  next : ∀ t g r, (w.sys.nextRoutine t g).2 = some r → ∀ n, ¬ w.holds n r
  /-- What a search with interruptions has found is held by its thread, and so by nobody else. -/
  found : ∀ n a g step r, w.workers n = some a → a.doing = .searching g step →
    (w.sys.search a.token g step).2 = .inr (some r) → w.holds n r
  /-- A turn is begun only by a thread that holds the routine. -/
  entered : ∀ action, w.Allowed action → ∀ n r, ¬ w.InTurn n r → (w.perform action).InTurn n r →
    w.holds n r
  /-- A resume by a thread that does not hold the routine leaves every body where it was. -/
  resumed : ∀ n a r, w.workers n = some a → ¬ w.holds n r → ∀ x < w.sys.routines.size,
    ((w.sys.resume a.token r).1.routine x).work = (w.sys.routine x).work
  /-- A body advances only by a step of a thread that is in a turn of it. -/
  advanced : ∀ action, w.Allowed action → ∀ r < w.sys.routines.size,
    ((w.perform action).sys.routine r).work ≠ (w.sys.routine r).work →
      ∃ n, action = .step n ∧ w.InTurn n r
  /-- As long as every turn is with its holder, the next action leaves it so exactly if no body releases by it
  the routine that it belongs to. -/
  kept : w.TurnsHeld → ∀ action, w.Allowed action → ((w.perform action).TurnsHeld ↔ ¬ w.LetsGo action)

/-- What holds besides after every run in which no body releases the routine that it belongs to. -/
structure Undivided (w : World κ) : Prop where
  /-- A thread in a turn holds the routine. -/
  held : w.TurnsHeld
  /-- At most one thread is in a turn of a routine. -/
  alone : ∀ n m r, w.InTurn n r → w.InTurn m r → n = m
  /-- A body advances only by a step of the thread that is in a turn of it and holds it. -/
  advanced : ∀ action, w.Allowed action → ∀ r < w.sys.routines.size,
    ((w.perform action).sys.routine r).work ≠ (w.sys.routine r).work →
      ∃ n, action = .step n ∧ w.InTurn n r ∧ w.holds n r

theorem Agreement.exclusive (h : Agreement w) : Exclusive w where
  alone _ _ _ := h.alone
  granted _ _ _ _ := h.granted
  acquired t r := by rw [acquire_snd_iff, h.free_iff]
  next t g r found := by
    rw [h.free_iff]
    cases holder : (w.sys.routine r).holder with
    | none => rfl
    | some u => exact absurd found (nextRoutine_of_held holder t g)
  found _ _ _ _ _ := h.found
  entered _ _ _ _ := h.entered
  resumed n a r there unheld := by
    rw [h.agrees there] at unheld
    exact (resume_of_not_holder unheld).work
  advanced _ allowed _ := inTurn_of_advanced allowed
  kept held action _ := h.turnsHeld_perform_iff held action

theorem Agreement.undivided (h : Agreement w) (held : w.TurnsHeld) : Undivided w where
  held := held
  alone n m r first second := h.alone (held n r first) (held m r second)
  advanced action allowed r hr moved := by
    obtain ⟨n, step, turn⟩ := inTurn_of_advanced allowed hr moved
    exact ⟨n, step, turn, held n r turn⟩

/-- From where nobody is there yet: every run is exclusive, and undivided if no body releases in it the routine
that it belongs to. -/
theorem exclusive_of_run (begins : w₀.Begins) :
    (∀ w, World.Run World.Allowed w₀ w → Exclusive w) ∧
      ∀ w, World.Run World.Keeping w₀ w → Undivided w := by
  have start := Agreement.of_begins begins
  refine ⟨fun w run => (start.run run).exclusive, fun w run => ?_⟩
  refine (start.run (run.mono fun _ _ keeping => keeping.1)).undivided ?_
  induction run with
  | refl =>
    rintro n r ⟨a, there, -⟩
    rw [begins.world] at there
    cases there
  | step run action keeping held =>
    have h := start.run (run.mono fun _ _ keeping => keeping.1)
    exact (h.turnsHeld_perform_iff held action).mpr keeping.2

/-- One routine with a body, known to it as "own", and no thread yet. -/
def deserted (body : List CoopSched.Action) : World Script :=
  { sys := (System.addRoutine { labels := { routines := [("own", 0)] } } 7 "routine"
      (.body (.ofActions body))).1 }

/-- Two threads have come. -/
def manned (body : List CoopSched.Action) : World Script :=
  ((deserted body).perform (.start 0 .main)).perform (.start 1 .helper)

/-- A thread acquires the routine and enters a turn of it. -/
def entering (n : Nat) : List (Action Script) :=
  [.begin n (.acquire 0), .step n, .begin n (.resume 0), .step n, .step n, .step n]

/-- The first thread is in a turn, and the second begins to resume the routine. -/
def contended : World Script :=
  (((entering 0).foldl World.perform (manned [.log "line"])).perform (.begin 1 (.resume 0))).perform (.step 1)

theorem begins_deserted (body : List CoopSched.Action) : (deserted body).Begins := by
  refine ⟨fun x => ?_, rfl⟩
  cases x with
  | zero => rfl
  | succ x => exact holder_of_size_le _ (Nat.succ_le_succ (Nat.zero_le x))

theorem allowed_step (there : w.workers n = some a) (obeys : w.Obeys n a.doing) :
    w.Allowed (.step n) := by
  intro b same
  cases there.symm.trans same
  exact obeys

/-- Outside of a turn no body releases anything. -/
theorem keeping_step (there : w.workers n = some a) (obeys : w.Obeys n a.doing)
    (outside : a.doing.turn? = none) : w.Keeping (.step n) := by
  refine ⟨allowed_step there obeys, ?_⟩
  rintro ⟨b, r, same, doing, -⟩
  cases there.symm.trans same
  rw [doing] at outside
  cases outside

theorem run_manned (body : List CoopSched.Action) :
    World.Run World.Keeping (deserted body) (manned body) := by
  have alone : (deserted body).Keeping (.start 0 .main) := by
    refine ⟨fun m a there => ?_, id⟩
    cases there
  refine (World.Run.refl.step _ alone).step (.start 1 .helper) ⟨fun m a there => ?_, id⟩
  rcases World.setWorker_eq_some (w := deserted body) (n := 0) there with ⟨-, mine⟩ | ⟨-, there⟩
  · cases mine
    exact nofun
  · cases there

theorem run_entering (body : List CoopSched.Action) :
    World.Run World.Keeping (deserted body) ((entering 0).foldl World.perform (manned body)) := by
  have acquired := ((run_manned body).step (.begin 0 (.acquire 0)) ⟨trivial, id⟩).step (.step 0)
    (keeping_step rfl Nat.one_pos rfl)
  have checked := (acquired.step (.begin 0 (.resume 0)) ⟨trivial, id⟩).step (.step 0)
    (keeping_step rfl trivial rfl)
  exact (checked.step (.step 0) (keeping_step rfl trivial rfl)).step (.step 0)
    (keeping_step rfl trivial rfl)

/-- The first thread is in a turn and holds the routine, alone in both, and another acquire is refused. -/
theorem exclusive_contended : (deserted [.log "line"]).Begins ∧ (contended.sys.acquire .helper 0).2 = false ∧
    (∃ n, contended.holds n 0 ∧ ∀ m, contended.holds m 0 → m = n) ∧
    contended.InTurn 0 0 ∧ ∀ m, contended.InTurn m 0 → m = 0 := by
  have begins := begins_deserted [.log "line"]
  have run : World.Run World.Keeping (deserted [.log "line"]) contended :=
    ((run_entering [.log "line"]).step (.begin 1 (.resume 0)) ⟨trivial, id⟩).step (.step 1)
      (keeping_step rfl trivial rfl)
  obtain ⟨general, strict⟩ := exclusive_of_run begins
  have exclusive := general contended (run.mono fun _ _ keeping => keeping.1)
  have undivided := strict contended run
  have turn : contended.InTurn 0 0 := ⟨⟨.main, .running 0⟩, rfl, rfl⟩
  have held := undivided.held 0 0 turn
  refine ⟨begins, rfl, ⟨0, held, fun m other => exclusive.alone m 0 0 other held⟩, turn, fun m other => ?_⟩
  exact undivided.alone m 0 0 other turn

/-- A body that releases its own routine and then says a line. -/
def careless : List CoopSched.Action := [.routine "own" .release, .log "line"]

/-- The first thread is in a turn, and the body has released the routine. -/
def released : World Script := ((entering 0).foldl World.perform (manned careless)).perform (.step 0)

/-- The second thread has acquired the routine and entered a turn of it as well. -/
def divided : World Script := (entering 1).foldl World.perform released

theorem run_divided : World.Run World.Allowed (deserted careless) divided := by
  have entered := (run_entering careless).mono fun _ _ keeping => keeping.1
  have agreement := (Agreement.of_begins (begins_deserted careless)).run entered
  have mine : ((entering 0).foldl World.perform (manned careless)).holds 0 0 :=
    (agreement.agrees (a := ⟨.main, .running 0⟩) rfl 0).mpr rfl
  have released := entered.step (.step 0) (allowed_step rfl mine)
  have acquired := (released.step (.begin 1 (.acquire 0)) trivial).step (.step 1)
    (allowed_step rfl Nat.one_pos)
  have checked := (acquired.step (.begin 1 (.resume 0)) trivial).step (.step 1) (allowed_step rfl trivial)
  exact (checked.step (.step 1) (allowed_step rfl trivial)).step (.step 1) (allowed_step rfl trivial)

/-- Two threads are in a turn of one routine. The first does not hold it, and advances its body all the same. -/
theorem turns_shared :
    (deserted careless).Begins ∧ World.Run World.Allowed (deserted careless) divided ∧
      divided.InTurn 0 0 ∧ divided.InTurn 1 0 ∧ ¬ divided.holds 0 0 ∧
      divided.Allowed (.step 0) ∧ (divided.perform (.step 0)).sys.log.back? = some ⟨.main, .trace "line"⟩ ∧
      ((divided.perform (.step 0)).sys.routine 0).work ≠ (divided.sys.routine 0).work := by
  have agreement := (Agreement.of_begins (begins_deserted careless)).run run_divided
  refine ⟨begins_deserted careless, run_divided, ⟨⟨.main, .running 0⟩, rfl, rfl⟩,
    ⟨⟨.helper, .running 0⟩, rfl, rfl⟩, fun held => ?_, allowed_step rfl trivial, rfl, fun same => ?_⟩
  · have holder : (divided.sys.routine 0).holder = some .helper := rfl
    cases holder.symm.trans ((agreement.agrees (a := ⟨.main, .running 0⟩) rfl 0).mp held)
  · have scripts := Work.body.inj same
    exact List.cons_ne_nil _ _ (congrArg Script.todo scripts).symm

end CoopSched.Exclusion
