import CoopSched.Proofs.Frame
/-!
# Operations in indivisible steps

Several threads work on a system at once, and only some operations are indivisible. Those that are not
are cut here into the steps between which other threads may act.

* `look`: the examination of a routine that `update` makes. The state is read, the recheck flag is
  exchanged, the state is written.
* `check`: the checks at the begin of `resume`. The stop flag, the state and the holder are read.
* `deliver`: what `push` does after the message is in the queue. The callback is read; for every task it
  notifies, the table and the state are read, the flag is put up, and the group is told.
* `search`: how `nextRoutine` passes the slots of a group. Each routine is acquired, examined, and released
  again if it is not ready.
* `unlink`: how `removeRoutine` takes a slot away. The slot is found, its routine is stopped and acquired,
  the slot is erased, and the routine is released.

Run without interruption the steps do what the operations do (`runSteps_look`, `resume_eq_check`,
`runSteps_deliver`, `runSteps_search`, `runSteps_unlink`).
-/

namespace CoopSched

namespace Arena

variable {α : Type}

theorem modify_congr [Inhabited α] (a : Arena α) {i : Nat} {f g : α → α} (h : f (a.get i) = g (a.get i)) :
    a.modify i f = a.modify i g := by
  obtain ⟨items⟩ := a
  simp only [modify, get] at h ⊢
  congr 1
  refine Array.ext (by rw [Array.size_modify, Array.size_modify]) fun j hj _ => ?_
  rw [Array.size_modify] at hj
  rw [Array.getElem_modify, Array.getElem_modify]
  split
  · next heq =>
    subst heq
    rw [Array.getD_eq_getD_getElem?, Array.getElem?_eq_getElem hj, Option.getD_some] at h
    exact h
  · rfl

theorem modify_modify (a : Arena α) (i : Nat) (f g : α → α) :
    (a.modify i f).modify i g = a.modify i fun x => g (f x) := by
  obtain ⟨items⟩ := a
  simp only [modify]
  congr 1
  refine Array.ext (by simp only [Array.size_modify]) fun j hj _ => ?_
  rw [Array.getElem_modify, Array.getElem_modify, Array.getElem_modify]
  split <;> rfl

theorem get_of_size_le [Inhabited α] (a : Arena α) {i : Nat} (h : a.size ≤ i) : a.get i = default := by
  simp only [get, Array.getD_eq_getD_getElem?]
  rw [Array.getElem?_eq_none h]
  rfl

theorem get_modify_of_lt [Inhabited α] (a : Arena α) {i : Nat} (h : i < a.size) (j : Nat) (f : α → α) :
    (a.modify i f).get j = if j = i then f (a.get j) else a.get j := by
  rw [get_modify]
  by_cases same : j = i
  · rw [if_pos same, if_pos ⟨same.symm, same ▸ h⟩]
  · rw [if_neg same, if_neg fun both => same both.1.symm]

theorem modify_id (a : Arena α) (i : Nat) : a.modify i (fun x => x) = a := by
  obtain ⟨items⟩ := a
  simp only [modify]
  congr 1
  refine Array.ext (by rw [Array.size_modify]) fun j hj _ => ?_
  rw [Array.getElem_modify]
  split <;> rfl

end Arena

namespace System

variable {κ α β : Type}

theorem modifyRoutine_congr (s : System κ) {r : RoutineRef} {f g : Routine κ → Routine κ}
    (h : f (s.routine r) = g (s.routine r)) : s.modifyRoutine r f = s.modifyRoutine r g := by
  rw [modifyRoutine, Arena.modify_congr s.routines h]
  rfl

theorem modifyRoutine_modifyRoutine (s : System κ) (r : RoutineRef)
    (f g : Routine κ → Routine κ) :
    (s.modifyRoutine r f).modifyRoutine r g = s.modifyRoutine r fun x => g (f x) := by
  simp only [modifyRoutine, Arena.modify_modify]

/-- A change that changes nothing. -/
theorem modifyRoutine_eq_self (s : System κ) {r : RoutineRef} {f : Routine κ → Routine κ}
    (h : f (s.routine r) = s.routine r) : s.modifyRoutine r f = s := by
  rw [modifyRoutine_congr (g := fun x => x) s h, modifyRoutine, Arena.modify_id]

/-- So many steps without interruption, from a place between two steps to another one or to the end. -/
def runSteps (step : System κ → α → System κ × (α ⊕ β)) :
    Nat → System κ → α → System κ × (α ⊕ β)
  | 0, s, a => (s, .inl a)
  | n + 1, s, a =>
    match step s a with
    | (s, .inl a) => runSteps step n s a
    | (s, .inr b) => (s, .inr b)

theorem runSteps_add {step : System κ → α → System κ × (α ⊕ β)} {n m : Nat} {s s' : System κ}
    {a a' : α} (h : runSteps step n s a = (s', .inl a')) :
    runSteps step (n + m) s a = runSteps step m s' a' := by
  induction n generalizing s a with
  | zero =>
    cases h
    rw [Nat.zero_add]
  | succ n ih =>
    rw [Nat.succ_add, runSteps]
    rw [runSteps] at h
    split
    · next heq =>
      rw [heq] at h
      exact ih h
    · next heq =>
      rw [heq] at h
      cases h

/-! ## 1. Examining a routine -/

/-- Where an examination stands: about to read the state, to exchange the recheck flag, or to write
the state. -/
inductive Look where
  | reading
  | swapping
  | promoting
  deriving DecidableEq, Repr

/-- One step of an examination. At its end it is known whether the routine is ready. -/
def look (r : RoutineRef) (s : System κ) : Look → System κ × (Look ⊕ Bool)
  | .reading =>
    match (s.routine r).state with
    | .ready => (s, .inr true)
    | .finished => (s, .inr false)
    | .sleep => (s, if (s.routine r).wakeAt ≤ s.now then .inl .promoting else .inr false)
    | .ioWait | .dataWait => (s, .inl .swapping)
  | .swapping =>
    (s.modifyRoutine r (·.takeRecheck.1),
      if (s.routine r).recheck then .inl .promoting else .inr false)
  | .promoting => (s.modifyRoutine r (·.setState .ready), .inr true)

theorem look_of_waiting {r : RoutineRef} {s : System κ} (h : (s.routine r).state.isWaiting = true) :
    look r s .reading = (s, .inl .swapping) := by
  unfold look
  cases hx : (s.routine r).state with
  | ioWait => rfl
  | dataWait => rfl
  | ready => rw [hx] at h; cases h
  | finished => rw [hx] at h; cases h
  | sleep => rw [hx] at h; cases h

/-- The examination of a waiting routine, without interruption. -/
theorem runSteps_look_of_waiting {r : RoutineRef} {s : System κ}
    (h : (s.routine r).state.isWaiting = true) :
    runSteps (look r) 3 s .reading =
      (s.update r, .inr (decide (((s.routine r).update s.now).state = .ready))) := by
  have updated := Routine.update_of_waiting h s.now
  have waiting : (s.routine r).state ≠ .ready := by
    intro ready
    rw [ready] at h
    cases h
  rw [runSteps, look_of_waiting h]
  cases flag : (s.routine r).recheck with
  | true =>
    rw [flag, if_pos rfl] at updated
    have twice : s.update r = (s.modifyRoutine r (·.takeRecheck.1)).modifyRoutine r
        (·.setState .ready) := by
      rw [modifyRoutine_modifyRoutine]
      exact modifyRoutine_congr s updated
    rw [twice, updated]
    simp [runSteps, look, flag, Routine.setState]
  | false =>
    rw [flag, if_neg nofun] at updated
    have once : s.update r = s.modifyRoutine r (·.takeRecheck.1) := modifyRoutine_congr s updated
    rw [once, updated]
    simp [runSteps, look, flag, Routine.takeRecheck, waiting]

/-- An examination without interruption is an update. -/
theorem runSteps_look (r : RoutineRef) (s : System κ) :
    runSteps (look r) 3 s .reading =
      (s.update r, .inr (decide (((s.update r).routine r).state = .ready))) := by
  have after : ((s.update r).routine r).state = ((s.routine r).update s.now).state := by
    rw [update, routine_modifyRoutine]
    split
    · rfl
    · next outside =>
      -- A name that stands for no routine reads as the default one, whose state no update changes.
      have absent : s.routine r = default :=
        Arena.get_of_size_le s.routines (Nat.le_of_not_lt fun inside => outside ⟨rfl, inside⟩)
      rw [absent]
      rfl
  have idle : (s.routine r).update s.now = s.routine r → s.update r = s := fun same =>
    modifyRoutine_eq_self s (f := fun x => x.update s.now) same
  rw [after]
  cases hx : (s.routine r).state with
  | ready =>
    have same : (s.routine r).update s.now = s.routine r := by simp only [Routine.update, hx]
    rw [idle same, same]
    simp [runSteps, look, hx]
  | finished =>
    have same : (s.routine r).update s.now = s.routine r := by simp only [Routine.update, hx]
    rw [idle same, same]
    simp [runSteps, look, hx]
  | sleep =>
    by_cases due : (s.routine r).wakeAt ≤ s.now
    · have woken : (s.routine r).update s.now = (s.routine r).setState .ready := by
        simp only [Routine.update, hx, if_pos due]
      have written : s.update r = s.modifyRoutine r (·.setState .ready) :=
        modifyRoutine_congr s woken
      rw [written, woken]
      simp [runSteps, look, hx, due, Routine.setState]
    · have same : (s.routine r).update s.now = s.routine r := by
        simp only [Routine.update, hx, if_neg due]
      rw [idle same, same]
      simp [runSteps, look, hx, due]
  | ioWait => exact runSteps_look_of_waiting (by rw [hx]; rfl)
  | dataWait => exact runSteps_look_of_waiting (by rw [hx]; rfl)

/-! ## 2. Entering a turn -/

/-- Where the begin of a resume stands: about to read the stop flag, the state, or the holder. -/
inductive Check where
  | stopFlag
  | state
  | holder
  deriving DecidableEq, Repr

/-- One step of the begin of a resume. At its end it is known whether the body is entered. -/
def check (t : Thread) (r : RoutineRef) (s : System κ) : Check → System κ × (Check ⊕ Bool)
  | .stopFlag =>
    if (s.routine r).stopped then (s.modifyRoutine r (·.setState .finished), .inr false)
    else (s, .inl .state)
  | .state =>
    if (s.routine r).state ≠ .ready then
      (s.report t (.resumedInState (s.routine r).state (s.routine r).name), .inr false)
    else (s, .inl .holder)
  | .holder =>
    if (s.routine r).holder ≠ some t then
      (s.report t (.resumedWithoutHolding (s.routine r).name), .inr false)
    else (s, .inr true)

/-- A resume is its three checks, and a turn of the body if all of them were passed. -/
theorem resume_eq_check [Program κ] (s : System κ) (t : Thread) (r : RoutineRef) :
    s.resume t r =
      match runSteps (check t r) 3 s .stopFlag with
      | (s, .inr true) => ((runBody t r turnFuel s).1, .ran (runBody t r turnFuel s).2)
      | (s, _) => (s, .refused) := by
  unfold resume
  by_cases stopped : (s.routine r).stopped = true
  · simp [runSteps, check, stopped]
  · by_cases ready : (s.routine r).state = .ready
    · by_cases held : (s.routine r).holder = some t
      · simp [runSteps, check, stopped, ready, held]
      · simp [runSteps, check, stopped, ready, held]
    · simp [runSteps, check, stopped, ready]

/-! ## 3. Delivering an arrival -/

/-- Where the announcement of an arrival stands: about to read the callback, about to do the next thing
in it, about to read the state of a routine, to put its flag up, or to tell its group. -/
inductive Delivery where
  | calling
  | announcing (todo : List Announcement)
  | reading (r : RoutineRef) (todo : List Announcement)
  | flagging (r : RoutineRef) (todo : List Announcement)
  | telling (r : RoutineRef) (todo : List Announcement)
  deriving DecidableEq, Repr

/-- The routine that a notification reaches, if its scheduler is there and not stopped. -/
def notified? (s : System κ) (serial : Nat) (id : UInt64) : Option RoutineRef :=
  match s.scheduler with
  | none => none
  | some sched =>
    if sched.serial = serial ∧ sched.stopped = false then sched.tasks.find? id else none

/-- Tell the group of a routine. -/
def tellGroup (s : System κ) (r : RoutineRef) : System κ :=
  match s.scheduler with
  | none => s
  | some sched => (s.notifyGroupNamed sched.roster (s.routine r).group).1

/-- One step of the announcement of an arrival. -/
def deliver (t : Thread) (q : QueueRef) (s : System κ) : Delivery → System κ × (Delivery ⊕ Unit)
  | .calling =>
    match (s.queue q).callback with
    | none => (s, .inr ())
    | some todo => (s, .inl (.announcing todo))
  | .announcing [] => (s, .inr ())
  | .announcing (.notifyTask serial id :: todo) =>
    match s.notified? serial id with
    | none => (s, .inl (.announcing todo))
    | some r => (s, .inl (.reading r todo))
  | .announcing (a :: todo) => (s.announce t a, .inl (.announcing todo))
  | .reading r todo =>
    (s, .inl (if (s.routine r).state.isWaiting then .flagging r todo else .telling r todo))
  | .flagging r todo => (s.modifyRoutine r Routine.requestRecheck, .inl (.telling r todo))
  | .telling r todo => (s.tellGroup r, .inl (.announcing todo))

/-- A notification of a task, from the look into the table to the bump of the group. -/
theorem runSteps_deliver_notifyTask (t : Thread) (q : QueueRef) (s : System κ) (serial : Nat)
    (id : UInt64) (todo : List Announcement) :
    ∃ n, runSteps (deliver t q) n s (.announcing (.notifyTask serial id :: todo)) =
      (s.announce t (.notifyTask serial id), .inl (.announcing todo)) := by
  cases hs : s.scheduler with
  | none => exact ⟨1, by simp [runSteps, deliver, announce, notified?, hs]⟩
  | some sched =>
    by_cases serves : sched.serial = serial ∧ sched.stopped = false
    · obtain ⟨rfl, running⟩ := serves
      cases found : sched.tasks.find? id with
      | none =>
        exact ⟨1, by simp [runSteps, deliver, announce, notified?, notifyProcessor, hs, running, found]⟩
      | some r =>
        by_cases waiting : (s.routine r).state.isWaiting = true
        · refine ⟨4, ?_⟩
          simp [runSteps, deliver, announce, notified?, notifyProcessor, flagIfWaiting, tellGroup, hs,
            running, found, waiting, modifyRoutine]
        · refine ⟨3, ?_⟩
          simp [runSteps, deliver, announce, notified?, notifyProcessor, flagIfWaiting, tellGroup, hs,
            running, found, waiting]
    · -- The scheduler that was to be told is gone or stopped.
      have unheard : s.announce t (.notifyTask serial id) = s := by
        simp only [announce, hs, Option.any_some]
        split
        · next same =>
          have stopped : sched.stopped = true := by
            rw [← Bool.not_eq_false]
            exact fun running => serves ⟨eq_of_beq same, running⟩
          simp only [notifyProcessor, hs, stopped, if_true]
        · rfl
      rw [unheard]
      exact ⟨1, by simp [runSteps, deliver, notified?, hs, serves]⟩

/-- The announcement of an arrival, without interruption, runs the callback. -/
theorem runSteps_deliver (t : Thread) (q : QueueRef) (s : System κ) :
    ∃ n, runSteps (deliver t q) n s .calling = (s.fireCallback t q, .inr ()) := by
  have announces : ∀ (todo : List Announcement) (s : System κ), ∃ n,
      runSteps (deliver t q) n s (.announcing todo) =
        (todo.foldl (fun s a => s.announce t a) s, .inr ()) := by
    intro todo
    induction todo with
    | nil => exact fun s => ⟨1, rfl⟩
    | cons a todo ih =>
      intro s
      obtain ⟨n, rest⟩ := ih (s.announce t a)
      have first : ∃ m, runSteps (deliver t q) m s (.announcing (a :: todo)) =
          (s.announce t a, .inl (.announcing todo)) := by
        cases a with
        | notifyTask serial id => exact runSteps_deliver_notifyTask t q s serial id todo
        | trace text => exact ⟨1, rfl⟩
        | recheck r => exact ⟨1, rfl⟩
        | notifyGroup g => exact ⟨1, rfl⟩
      obtain ⟨m, first⟩ := first
      exact ⟨m + n, (runSteps_add first).trans rest⟩
  unfold fireCallback
  cases called : (s.queue q).callback with
  | none => exact ⟨1, by simp [runSteps, deliver, called]⟩
  | some todo =>
    obtain ⟨n, whole⟩ := announces todo s
    have begun : runSteps (deliver t q) 1 s .calling = (s, .inl (.announcing todo)) := by
      simp [runSteps, deliver, called]
    exact ⟨1 + n, (runSteps_add begun).trans whole⟩

/-! ## 4. Searching a group -/

/-- Where a search for the next routine stands: about to read the stop flag of the group, to pass the
next slot of a level or go to the next level, in the middle of an examination, or about to release a
routine that is not ready. -/
inductive Search where
  | opening
  | passing (levels : List Priority) (slots : List RoutineRef)
  | examining (r : RoutineRef) (step : Look) (levels : List Priority) (slots : List RoutineRef)
  | dropping (r : RoutineRef) (levels : List Priority) (slots : List RoutineRef)
  deriving DecidableEq, Repr

/-- One step of a search. At its end it is known which routine was found. -/
def search (t : Thread) (g : GroupRef) (s : System κ) :
    Search → System κ × (Search ⊕ Option RoutineRef)
  | .opening =>
    if (s.group g).stopped then (s, .inr none) else (s, .inl (.passing Group.order []))
  | .passing [] [] => (s, .inr none)
  | .passing (l :: levels) [] => (s, .inl (.passing levels ((s.group g).queue l)))
  | .passing levels (r :: slots) =>
    match s.acquire t r with
    | (s, true) => (s, .inl (.examining r .reading levels slots))
    | (s, false) => (s, .inl (.passing levels slots))
  | .examining r step levels slots =>
    match s.look r step with
    | (s, .inl step) => (s, .inl (.examining r step levels slots))
    | (s, .inr true) => (s, .inr (some r))
    | (s, .inr false) => (s, .inl (.dropping r levels slots))
  | .dropping r levels slots => (s.release r, .inl (.passing levels slots))

/-- The examination of a routine in the middle of a search. -/
theorem runSteps_search_examining (t : Thread) (g : GroupRef) (r : RoutineRef)
    (levels : List Priority) (slots : List RoutineRef) {n : Nat} {s s' : System κ} {step : Look}
    {ready : Bool} (looked : runSteps (look r) n s step = (s', .inr ready)) :
    ∃ m, runSteps (search t g) m s (.examining r step levels slots) =
      (s', if ready then .inr (some r) else .inl (.dropping r levels slots)) := by
  induction n generalizing s step with
  | zero => cases looked
  | succ n ih =>
    rw [runSteps] at looked
    cases outcome : look r s step with
    | mk s₁ place =>
      rw [outcome] at looked
      cases place with
      | inl next =>
        obtain ⟨m, rest⟩ := ih looked
        refine ⟨m + 1, ?_⟩
        rw [runSteps, search, outcome]
        exact rest
      | inr found =>
        cases looked
        refine ⟨1, ?_⟩
        rw [runSteps, search, outcome]
        cases ready <;> rfl

/-- A search passes one slot, or finds the routine in it. -/
theorem runSteps_search_slot (t : Thread) (g : GroupRef) (r : RoutineRef) (levels : List Priority)
    (slots : List RoutineRef) (s : System κ) :
    ∃ n, runSteps (search t g) n s (.passing levels (r :: slots)) =
      match s.acquire t r with
      | (s, false) => (s, .inl (.passing levels slots))
      | (s, true) =>
        if ((s.update r).routine r).state = .ready then (s.update r, .inr (some r))
        else ((s.update r).release r, .inl (.passing levels slots)) := by
  cases outcome : s.acquire t r with
  | mk s₁ granted =>
    cases granted with
    | false => exact ⟨1, by simp [runSteps, search, outcome]⟩
    | true =>
      have acquired : runSteps (search t g) 1 s (.passing levels (r :: slots)) =
          (s₁, .inl (.examining r .reading levels slots)) := by
        simp [runSteps, search, outcome]
      obtain ⟨m, examined⟩ := runSteps_search_examining t g r levels slots (runSteps_look r s₁)
      by_cases ready : ((s₁.update r).routine r).state = .ready
      · refine ⟨1 + m, (runSteps_add acquired).trans ?_⟩
        rw [examined]
        simp [ready]
      · have dropping : runSteps (search t g) m s₁ (.examining r .reading levels slots) =
            (s₁.update r, .inl (.dropping r levels slots)) := by
          rw [examined]
          simp [ready]
        refine ⟨1 + (m + 1), (runSteps_add acquired).trans ((runSteps_add dropping).trans ?_)⟩
        simp [runSteps, search, ready]

/-- Without interruption a search passes these slots as a scan does. -/
def ScansAll (t : Thread) (g : GroupRef) (queue : Priority → List RoutineRef)
    (levels : List Priority) (slots : List RoutineRef) : Prop :=
  ∀ s : System κ, (s.group g).queue = queue → ∃ n,
    runSteps (search t g) n s (.passing levels slots) =
      ((scan t (slots ++ levels.flatMap queue) s).1,
        .inr (scan t (slots ++ levels.flatMap queue) s).2)

theorem ScansAll.cons {t : Thread} {g : GroupRef} {queue : Priority → List RoutineRef}
    {levels : List Priority} {slots : List RoutineRef}
    (h : ScansAll (κ := κ) t g queue levels slots) (r : RoutineRef) :
    ScansAll (κ := κ) t g queue levels (r :: slots) := by
  intro s same
  obtain ⟨n, first⟩ := runSteps_search_slot t g r levels slots s
  rw [List.cons_append, scan]
  cases outcome : s.acquire t r with
  | mk s₁ granted =>
    have groups : s₁.groups = s.groups := congrArg (fun x => x.1.groups) outcome.symm
    -- An acquire touches no group, so the same slots are still to be passed.
    have same₁ : (s₁.group g).queue = queue := by
      rw [group, groups]
      exact same
    rw [outcome] at first
    cases granted with
    | false =>
      obtain ⟨m, rest⟩ := h s₁ same₁
      exact ⟨n + m, (runSteps_add first).trans rest⟩
    | true =>
      by_cases ready : ((s₁.update r).routine r).state = .ready
      · refine ⟨n, first.trans ?_⟩
        simp only [ready, if_true]
      · obtain ⟨m, rest⟩ := h ((s₁.update r).release r) same₁
        simp only [ready, if_false] at first ⊢
        exact ⟨n + m, (runSteps_add first).trans rest⟩

theorem scansAll (t : Thread) (g : GroupRef) (queue : Priority → List RoutineRef)
    (levels : List Priority) (slots : List RoutineRef) :
    ScansAll (κ := κ) t g queue levels slots := by
  -- The outer induction is on the levels to come, the inner ones on the slots left of this level.
  induction levels generalizing slots with
  | nil =>
    induction slots with
    | nil => exact fun s _ => ⟨1, rfl⟩
    | cons r slots ih => exact ih.cons r
  | cons l levels ih =>
    induction slots with
    | nil =>
      intro s same
      obtain ⟨n, rest⟩ := ih (queue l) s same
      refine ⟨n + 1, ?_⟩
      rw [runSteps, search, same]
      exact rest
    | cons r slots below => exact below.cons r

/-- A search without interruption finds the next routine. -/
theorem runSteps_search (t : Thread) (g : GroupRef) (s : System κ) :
    ∃ n, runSteps (search t g) n s .opening =
      ((s.nextRoutine t g).1, .inr (s.nextRoutine t g).2) := by
  by_cases stopped : (s.group g).stopped = true
  · exact ⟨1, by simp [runSteps, search, nextRoutine, stopped]⟩
  · obtain ⟨n, rest⟩ := scansAll t g (s.group g).queue Group.order [] s rfl
    have begun : runSteps (search t g) 1 s .opening = (s, .inl (.passing Group.order [])) := by
      simp [runSteps, search, stopped]
    refine ⟨1 + n, (runSteps_add begun).trans ?_⟩
    rw [rest, nextRoutine, if_neg stopped]
    rfl

/-! ## 5. Taking a routine out of a group -/

/-- Where the removal of a routine stands: about to look for its slot, or, with the slot it found, about to
stop the routine in it, to try to hold it, to take the slot away, or to release the routine. -/
inductive Unlinking where
  | finding
  | stopping (level : Priority) (position : Nat) (target : RoutineRef)
  | acquiring (level : Priority) (position : Nat) (target : RoutineRef)
  | erasing (level : Priority) (position : Nat) (target : RoutineRef)
  | releasing (target : RoutineRef)
  deriving DecidableEq, Repr

/-- One step of a removal. It tries again and again to hold the routine. At its end it is known whether
there was a slot. -/
def unlink (t : Thread) (g : GroupRef) (r : RoutineRef) (s : System κ) :
    Unlinking → System κ × (Unlinking ⊕ Bool)
  | .finding =>
    match s.slotOf? g r with
    | none => (s, .inr false)
    | some (level, position, target) => (s, .inl (.stopping level position target))
  | .stopping level position target =>
    (s.modifyRoutine target Routine.stop, .inl (.acquiring level position target))
  | .acquiring level position target =>
    match s.acquire t target with
    | (s, true) => (s, .inl (.erasing level position target))
    | (s, false) =>
      (s.report t (.waitingToRemove (s.group g).name (s.routine target).name),
        .inl (.acquiring level position target))
  | .erasing level position target =>
    (s.modifyGroup g (·.eraseAt level position), .inl (.releasing target))
  | .releasing target => (s.release target, .inr true)

/-- Where the steps of a removal have come to when the removal comes to its outcome. -/
inductive Reaches : Unlinking ⊕ Bool → Removal → Prop
  | absent : Reaches (.inr false) .absent
  | removed : Reaches (.inr true) .removed
  | waits {level : Priority} {position : Nat} (g : GroupRef) (r : RoutineRef) {target : RoutineRef} :
      Reaches (.inl (.acquiring level position target)) (.waits g r target)

/-- A removal without interruption. One that has to wait has tried once to hold the routine. -/
theorem runSteps_unlink (t : Thread) (g : GroupRef) (r : RoutineRef) (s : System κ) :
    ∃ n place, runSteps (unlink t g r) n s .finding = ((s.removeRoutine t g r).1, place) ∧
      Reaches place (s.removeRoutine t g r).2 := by
  unfold removeRoutine
  cases slot : s.slotOf? g r with
  | none => exact ⟨1, .inr false, by simp [runSteps, unlink, slot], .absent⟩
  | some found =>
    obtain ⟨level, position, target⟩ := found
    have stopped : runSteps (unlink t g r) 2 s .finding =
        (s.modifyRoutine target Routine.stop, .inl (.acquiring level position target)) := by
      simp [runSteps, unlink, slot]
    simp only
    cases outcome : (s.modifyRoutine target Routine.stop).acquire t target with
    | mk s₁ granted =>
      cases granted with
      | false =>
        -- However long it has to wait, its steps stay where they are.
        refine ⟨2 + 1, .inl (.acquiring level position target), (runSteps_add stopped).trans ?_,
          .waits g r⟩
        simp [runSteps, unlink, outcome]
      | true =>
        refine ⟨2 + 3, .inr true, (runSteps_add stopped).trans ?_, .removed⟩
        simp [runSteps, unlink, outcome]

end System

end CoopSched
