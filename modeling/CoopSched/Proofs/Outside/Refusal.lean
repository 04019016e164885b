import CoopSched.Proofs.Outside.Silence
/-!
# What a refusal leaves

A task can be refused: at the first look at the stop flag, at the second one, or because its id is live
(`Offer.refused_iff`). Then everything is as it was, but for the names and the record (`Unaffected`). A routine may
have been made, but it is nowhere queued and in no table, so that every arrival does what it would have done
(`Unaffected.push`).

A creation is not indivisible. It is cut into stages (`Offer.advance`), between which others do whatever they do,
and no stage of a call that is refused affects anything (`refused_changes_nothing`).
-/

namespace CoopSched

namespace System

variable {κ : Type} {s s' s'' : System κ}

/-! ## 1. What a refusal leaves -/

/-- Everything is as it was, but for the names and the record. There may be new routines, which nobody waits for
and which belong to no group. -/
structure Unaffected (s s' : System κ) : Prop where
  scheduler : ∀ sched, s.scheduler = some sched → ∃ names, s'.scheduler = some { sched with names }
  none : s.scheduler = none → s'.scheduler = none
  size : s.routines.size ≤ s'.routines.size
  routine : ∀ r < s.routines.size, s'.routine r = s.routine r
  added : ∀ r, s.routines.size ≤ r → (s'.routine r).state = .ready ∧ (s'.routine r).group = ""
  rest : s' = { s with routines := s'.routines, scheduler := s'.scheduler, log := s'.log }

namespace Unaffected

/-- Only the record differs. -/
theorem of_log (log : s' = { s with log := s'.log }) : Unaffected s s' := by
  have scheduler : s'.scheduler = s.scheduler := by rw [log]
  have routines : s'.routines = s.routines := by rw [log]
  refine ⟨fun sched hs => ⟨sched.names, scheduler.trans hs⟩, scheduler.trans, Nat.le_of_eq (routines ▸ rfl),
    fun r _ => ?_, fun r beyond => ?_, ?_⟩
  · rw [System.routine, routines, System.routine]
  · rw [System.routine, routines, Arena.get_of_size_le _ beyond]
    exact ⟨rfl, rfl⟩
  · rw [scheduler, routines]
    exact log

theorem refl (s : System κ) : Unaffected s s := .of_log rfl

theorem report (s : System κ) (t : Thread) (n : Notice) : Unaffected s (s.report t n) := .of_log rfl

theorem trans (h : Unaffected s s') (h' : Unaffected s' s'') : Unaffected s s'' where
  scheduler sched hs := by
    obtain ⟨names, there⟩ := h.scheduler sched hs
    obtain ⟨names', there'⟩ := h'.scheduler _ there
    exact ⟨names', there'⟩
  none hs := h'.none (h.none hs)
  size := Nat.le_trans h.size h'.size
  routine r there := (h'.routine r (Nat.lt_of_lt_of_le there h.size)).trans (h.routine r there)
  added r beyond := by
    by_cases there : r < s'.routines.size
    · rw [h'.routine r there]
      exact h.added r beyond
    · exact h'.added r (Nat.le_of_not_lt there)
  rest := h'.rest.trans (congrArg
    (fun x : System κ => { x with routines := s''.routines, scheduler := s''.scheduler, log := s''.log }) h.rest)

theorem state (h : Unaffected s s') (r : RoutineRef) : (s'.routine r).state = (s.routine r).state := by
  by_cases there : r < s.routines.size
  · rw [h.routine r there]
  · rw [(h.added r (Nat.le_of_not_lt there)).1, System.routine,
      Arena.get_of_size_le _ (Nat.le_of_not_lt there)]
    rfl

theorem group (h : Unaffected s s') (r : RoutineRef) : (s'.routine r).group = (s.routine r).group := by
  by_cases there : r < s.routines.size
  · rw [h.routine r there]
  · rw [(h.added r (Nat.le_of_not_lt there)).2, System.routine,
      Arena.get_of_size_le _ (Nat.le_of_not_lt there)]
    rfl

/-! ## 2. Arrivals after a refusal -/

theorem modifyRoutine (h : Unaffected s s') (r : RoutineRef) {f : Routine κ → Routine κ}
    (kept : ∀ x, (f x).state = x.state ∧ (f x).group = x.group) :
    Unaffected (s.modifyRoutine r f) (s'.modifyRoutine r f) where
  scheduler := h.scheduler
  none := h.none
  size := by
    rw [size_modifyRoutine, size_modifyRoutine]
    exact h.size
  routine q there := by
    rw [size_modifyRoutine] at there
    rw [routine_modifyRoutine, routine_modifyRoutine, h.routine q there]
    have there' := Nat.lt_of_lt_of_le there h.size
    simp only [there, there']
  added q beyond := by
    rw [size_modifyRoutine] at beyond
    obtain ⟨state, group⟩ := h.added q beyond
    rw [routine_modifyRoutine]
    split
    · exact ⟨(kept _).1.trans state, (kept _).2.trans group⟩
    · exact ⟨state, group⟩
  rest := congrArg (fun x : System κ => { x with routines := s'.routines.modify r f }) h.rest

theorem groups_eq (h : Unaffected s s') : s'.groups = s.groups := by rw [h.rest]

theorem queues_eq (h : Unaffected s s') : s'.queues = s.queues := by rw [h.rest]

theorem modifyGroup (h : Unaffected s s') (g : GroupRef) (f : Group → Group) :
    Unaffected (s.modifyGroup g f) (s'.modifyGroup g f) :=
  { scheduler := h.scheduler, none := h.none, size := h.size, routine := h.routine, added := h.added
    rest := by
      rw [System.modifyGroup, h.groups_eq]
      exact congrArg (fun x : System κ => { x with groups := s.groups.modify g f }) h.rest }

theorem modifyQueue (h : Unaffected s s') (q : QueueRef) (f : MessageQueue → MessageQueue) :
    Unaffected (s.modifyQueue q f) (s'.modifyQueue q f) :=
  { scheduler := h.scheduler, none := h.none, size := h.size, routine := h.routine, added := h.added
    rest := by
      rw [System.modifyQueue, h.queues_eq]
      exact congrArg (fun x : System κ => { x with queues := s.queues.modify q f }) h.rest }

theorem trace (h : Unaffected s s') (t : Thread) (text : String) :
    Unaffected (s.trace t text) (s'.trace t text) :=
  { scheduler := h.scheduler, none := h.none, size := h.size, routine := h.routine, added := h.added
    rest := congrArg (fun x : System κ => { x with log := (s'.trace t text).log }) h.rest }

theorem flagIfWaiting (h : Unaffected s s') (r : RoutineRef) :
    Unaffected (s.flagIfWaiting r) (s'.flagIfWaiting r) := by
  unfold System.flagIfWaiting
  rw [h.state]
  split
  · exact h.modifyRoutine r fun _ => ⟨rfl, rfl⟩
  · exact h

theorem notifyGroupNamed (h : Unaffected s s') (roster : Roster) (name : String) :
    Unaffected (s.notifyGroupNamed roster name).1 (s'.notifyGroupNamed roster name).1 := by
  unfold System.notifyGroupNamed
  split
  · exact h.modifyGroup _ _
  · exact h

theorem notifyProcessor (h : Unaffected s s') (id : UInt64) :
    Unaffected (s.notifyProcessor id).1 (s'.notifyProcessor id).1 := by
  unfold System.notifyProcessor
  cases hs : s.scheduler with
  | none =>
    rw [h.none hs]
    exact h
  | some sched =>
    obtain ⟨names, hs'⟩ := h.scheduler sched hs
    rw [hs']
    dsimp only
    split
    · exact h
    · split
      · exact h
      · next r _ =>
        have flagged := h.flagIfWaiting r
        rw [flagged.group]
        exact flagged.notifyGroupNamed _ _

theorem announce (h : Unaffected s s') (t : Thread) (a : Announcement) :
    Unaffected (s.announce t a) (s'.announce t a) := by
  cases a with
  | trace text => exact h.trace t text
  | recheck r => exact h.modifyRoutine r fun _ => ⟨rfl, rfl⟩
  | notifyGroup g => exact h.modifyGroup g _
  | notifyTask serial id =>
    have same : (s'.scheduler.any fun x => x.serial == serial) = s.scheduler.any fun x => x.serial == serial := by
      cases hs : s.scheduler with
      | none => rw [h.none hs]
      | some sched =>
        obtain ⟨names, hs'⟩ := h.scheduler sched hs
        rw [hs']
        rfl
    show Unaffected (if s.scheduler.any (fun x => x.serial == serial) then _ else _)
      (if s'.scheduler.any (fun x => x.serial == serial) then _ else _)
    rw [same]
    split
    · exact h.notifyProcessor id
    · exact h

/-- An arrival does to the one what it does to the other. -/
theorem push (h : Unaffected s s') (t : Thread) (q : QueueRef) (message : Int) :
    Unaffected (s.push t q message) (s'.push t q message) := by
  have arrived := h.modifyQueue q (·.push message)
  have same : (s'.modifyQueue q (·.push message)).queue q = (s.modifyQueue q (·.push message)).queue q :=
    congrArg (·.get q) arrived.queues_eq
  unfold System.push System.fireCallback
  rw [same]
  -- The same announcements are made in both, one after the other.
  generalize ((s.modifyQueue q _).queue q).callback.getD [] = todo
  generalize s.modifyQueue q _ = before, s'.modifyQueue q _ = after at arrived
  induction todo generalizing before after with
  | nil => exact arrived
  | cons a todo ih => exact ih _ _ (arrived.announce t a)

/-- A notification reaches the same task. -/
theorem notified? (h : Unaffected s s') (serial : Nat) (id : UInt64) :
    s'.notified? serial id = s.notified? serial id := by
  unfold System.notified?
  cases hs : s.scheduler with
  | none => rw [h.none hs]
  | some sched =>
    obtain ⟨names, hs'⟩ := h.scheduler sched hs
    rw [hs']

/-! ## 3. Refusals -/

/-- A new routine, and the name of its task, affect nothing else. -/
theorem enrolled (s : System κ) (t : Thread) (sched : Scheduler) (name : String) (work : Work κ) :
    Unaffected s (s.enrolled t sched name work).1 where
  scheduler current here := by
    refine ⟨(sched.names.register name).1, ?_⟩
    show Option.map _ s.scheduler = _
    rw [here, Option.map_some]
  none nobody := by
    show Option.map _ s.scheduler = _
    rw [nobody, Option.map_none]
  size := by
    show s.routines.size ≤ (s.routines.add _).size
    rw [Arena.size_add]
    exact Nat.le_succ _
  routine r there := by
    show (s.routines.add _).get r = _
    rw [Arena.get_add, if_neg (Nat.ne_of_lt there)]
    rfl
  added r beyond := by
    show ((s.routines.add _).get r).state = _ ∧ ((s.routines.add _).get r).group = _
    rw [Arena.get_add]
    split
    · exact ⟨rfl, rfl⟩
    · rw [Arena.get_of_size_le _ beyond]
      exact ⟨rfl, rfl⟩
  rest := rfl

end Unaffected

/-- A dispatch that is refused only says so. -/
theorem dispatch_refused {t : Thread} {r : RoutineRef} (refused : (s.dispatch t r).2 = false) :
    (s.dispatch t r).1 = { s with log := (s.dispatch t r).1.log } := by
  rcases dispatch_cases s t r with same | ⟨n, said⟩ | ⟨sched, hs, new, -⟩
  · rw [same]
  · rw [said]
    rfl
  -- The id was not live, so it is the stop flag that refuses.
  · cases running : sched.stopped with
    | true =>
      have same : s.dispatch t r = (s, false) := by simp only [dispatch, hs, running, if_true]
      rw [same]
    | false =>
      rw [(dispatch_granted_iff hs t r).mpr ⟨running, new⟩] at refused
      cases refused

theorem scheduler_dispatch {t : Thread} {r : RoutineRef} (refused : (s.dispatch t r).2 = false) :
    (s.dispatch t r).1.scheduler = s.scheduler := by
  rw [dispatch_refused refused]

/-- A name is registered. -/
def registered (s : System κ) (name : String) : Option Scheduler :=
  s.scheduler.map fun sched => { sched with names := (sched.names.register name).1 }

/-- A creation that is refused registers the name at most. -/
theorem createTask_refused {t : Thread} {work : Work κ} {name : String} {source : Option QueueRef}
    (refused : (s.createTask t work name source).2 = false) :
    (s.createTask t work name source).1.scheduler = s.scheduler ∨
      (s.createTask t work name source).1.scheduler = s.registered name := by
  cases hs : s.scheduler with
  | none => exact .inl (by simp only [createTask, hs])
  | some sched =>
    cases running : sched.stopped with
    | true =>
      left
      simp only [createTask, hs, running, if_true]
      exact hs
    | false =>
      rw [createTask_eq hs running] at refused ⊢
      have unheard := scheduler_dispatch (s := (s.enrolled t sched name work).1) (t := t)
        (r := (s.enrolled t sched name work).2)
      rcases outcome : (s.enrolled t sched name work).1.dispatch t (s.enrolled t sched name work).2 with
        ⟨s', _ | _⟩
      · rw [outcome] at unheard
        refine .inr ((unheard rfl).trans ?_)
        show Option.map _ s.scheduler = _
        rw [registered, hs]
        rfl
      · rw [outcome] at refused
        cases source <;> cases refused

/-- A creation is granted exactly if the scheduler is not stopped and no task of that name is live. -/
theorem createTask_snd {sched : Scheduler} (hs : s.scheduler = some sched) (t : Thread) (work : Work κ)
    (name : String) (source : Option QueueRef) :
    (s.createTask t work name source).2 = (!sched.stopped && !sched.tasks.contains (taskId name)) := by
  cases running : sched.stopped with
  | true => simp [createTask, hs, running]
  | false =>
    have named : (s.enrolled t sched name work).1.scheduler =
        some { sched with names := (sched.names.register name).1 } := congrArg (Option.map _) hs
    have new : (s.enrolled t sched name work).1.routine (s.enrolled t sched name work).2 =
        { id := taskId name, name, work, wakeAt := s.now } := (Arena.get_add ..).trans (if_pos rfl)
    have granted := dispatch_snd named t (s.enrolled t sched name work).2
    rw [new] at granted
    dsimp only at granted
    rw [running] at granted
    rw [createTask_eq hs running, ← granted]
    rcases (s.enrolled t sched name work).1.dispatch t (s.enrolled t sched name work).2 with ⟨s', _ | _⟩
    · rfl
    · cases source <;> rfl

end System

namespace Outside

variable {κ : Type} {s : System κ}

/-! ## 4. The stages of a call -/

/-- A call that asks for a new task. -/
inductive Offer (κ : Type) where
  | dispatch (r : RoutineRef)
  | create (work : Work κ) (name : String) (source : Option QueueRef)
  | createFrom (f : Factory κ) (name : String)

namespace Offer

/-- The call, and whether the task is taken. -/
def make (s : System κ) (t : Thread) : Offer κ → System κ × Bool
  | .dispatch r => s.dispatch t r
  | .create work name source => s.createTask t work name source
  | .createFrom f name => s.createFrom t f name

/-- The id of the task. -/
def id (s : System κ) : Offer κ → UInt64
  | .dispatch r => (s.routine r).id
  | .create _ name _ => taskId name
  | .createFrom _ name => taskId name

/-- The name that is registered. -/
def name? : Offer κ → Option String
  | .dispatch _ => none
  | .create _ name _ => some name
  | .createFrom _ name => some name

/-- The stages of a call: to read the stop flag, to make a routine, to dispatch it, and to install the arrival
callback. -/
inductive Stage (κ : Type) where
  | checking (work : Work κ) (name : String) (source : Option QueueRef)
  | enrolling (work : Work κ) (name : String) (source : Option QueueRef)
  | dispatching (r : RoutineRef) (arrival : Option (QueueRef × List Announcement))
  | installing (q : QueueRef) (callback : List Announcement)

/-- The first stage. -/
def start : Offer κ → Stage κ
  | .dispatch r => .dispatching r none
  | .create work name source => .checking work name source
  | .createFrom f name => .checking f.work name f.source

/-- One stage. At the end it is known whether the task is taken. -/
def advance (t : Thread) (s : System κ) : Stage κ → System κ × (Stage κ ⊕ Bool)
  | .checking work name source =>
    match s.scheduler with
    | none => (s, .inr false)
    | some sched =>
      if sched.stopped then (s.report t (.createAfterStop name), .inr false)
      else (s, .inl (.enrolling work name source))
  | .enrolling work name source =>
    match s.scheduler with
    | none => (s, .inr false)
    | some sched =>
      ((s.enrolled t sched name work).1, .inl (.dispatching (s.enrolled t sched name work).2
        (source.map fun q => (q, [.notifyTask sched.serial (sched.names.register name).2]))))
  | .dispatching r arrival =>
    match s.dispatch t r with
    | (s, false) => (s, .inr false)
    | (s, true) =>
      match arrival with
      | none => (s, .inr true)
      | some (q, callback) => (s, .inl (.installing q callback))
  | .installing q callback => (s.modifyQueue q (·.install callback), .inr true)

/-- The stages of a creation, without interruption. -/
theorem runSteps_create (s : System κ) (t : Thread) (work : Work κ) (name : String) (source : Option QueueRef) :
    ∃ n, System.runSteps (advance t) n s (.checking work name source) =
      ((s.createTask t work name source).1, .inr (s.createTask t work name source).2) := by
  cases hs : s.scheduler with
  | none => exact ⟨1, by simp [System.runSteps, advance, System.createTask, hs]⟩
  | some sched =>
    cases running : sched.stopped with
    | true => exact ⟨1, by simp [System.runSteps, advance, System.createTask, hs, running]⟩
    | false =>
      rw [System.createTask_eq hs running]
      rcases outcome : (s.enrolled t sched name work).1.dispatch t (s.enrolled t sched name work).2 with
        ⟨s', granted⟩
      cases granted with
      | false => exact ⟨3, by simp [System.runSteps, advance, hs, running, outcome]⟩
      | true =>
        cases source with
        | none => exact ⟨3, by simp [System.runSteps, advance, hs, running, outcome]⟩
        | some q => exact ⟨4, by simp [System.runSteps, advance, hs, running, outcome]⟩

/-- The stages of a call, without interruption, are the call. -/
theorem runSteps_make (s : System κ) (t : Thread) (offer : Offer κ) :
    ∃ n, System.runSteps (advance t) n s offer.start = ((offer.make s t).1, .inr (offer.make s t).2) := by
  cases offer with
  | dispatch r =>
    refine ⟨1, ?_⟩
    rcases outcome : s.dispatch t r with ⟨s', granted⟩
    cases granted <;> simp [System.runSteps, advance, start, make, outcome]
  | create work name source => exact runSteps_create s t work name source
  | createFrom f name => exact runSteps_create s t f.work name f.source

/-- A call is refused exactly if there is no scheduler that is not stopped, or the id is live. -/
theorem refused_iff (s : System κ) (t : Thread) (offer : Offer κ) :
    (offer.make s t).2 = false ↔
      ∀ sched, s.scheduler = some sched → sched.stopped = true ∨ sched.tasks.contains (offer.id s) = true := by
  cases hs : s.scheduler with
  | none =>
    refine iff_of_true ?_ nofun
    cases offer <;> simp [make, System.dispatch, System.createTask, System.createFrom, hs]
  | some sched =>
    have granted : (offer.make s t).2 = (!sched.stopped && !sched.tasks.contains (offer.id s)) := by
      cases offer with
      | dispatch r => exact System.dispatch_snd hs t r
      | create work name source => exact System.createTask_snd hs t work name source
      | createFrom f name => exact System.createTask_snd hs t f.work name f.source
    rw [granted, Bool.and_eq_false_iff, Bool.not_eq_false', Bool.not_eq_false']
    exact ⟨fun either _ same => Option.some.inj same ▸ either, fun all => all sched rfl⟩

/-- A refused call registers its name at most. -/
theorem scheduler_make {s : System κ} {t : Thread} {offer : Offer κ} (refused : (offer.make s t).2 = false) :
    (offer.make s t).1.scheduler = s.scheduler ∨
      ∃ name ∈ offer.name?, (offer.make s t).1.scheduler = s.registered name := by
  cases offer with
  | dispatch r => exact .inl (System.scheduler_dispatch refused)
  | create work name source =>
    exact (System.createTask_refused refused).imp_right fun named => ⟨name, rfl, named⟩
  | createFrom f name =>
    exact (System.createTask_refused refused).imp_right fun named => ⟨name, rfl, named⟩

/-- The task is not taken: it was refused, or may still be. -/
def Undecided : Stage κ ⊕ Bool → Prop
  | .inl (.installing _ _) | .inr true => False
  | _ => True

/-- A stage that does not take the task affects nothing. The one that takes it is the dispatch. -/
theorem unaffected_advance (t : Thread) (s : System κ) (stage : Stage κ)
    (undecided : Undecided (advance t s stage).2) :
    Undecided (.inl stage) ∧ s.Unaffected (advance t s stage).1 := by
  unfold advance at undecided ⊢
  cases stage with
  | checking work name source =>
    refine ⟨trivial, ?_⟩
    dsimp only
    split
    · exact .refl s
    · split
      · exact .report s t _
      · exact .refl s
  | enrolling work name source =>
    refine ⟨trivial, ?_⟩
    dsimp only
    split
    · exact .refl s
    · exact .enrolled s t _ name work
  | dispatching r arrival =>
    refine ⟨trivial, ?_⟩
    dsimp only at undecided ⊢
    rcases outcome : s.dispatch t r with ⟨s', granted⟩
    cases granted with
    | false =>
      have unheard := System.dispatch_refused (congrArg Prod.snd outcome)
      rw [outcome] at unheard
      exact .of_log unheard
    | true =>
      rw [outcome] at undecided
      cases arrival <;> exact undecided.elim
  | installing q callback => exact undecided.elim

theorem unaffected_runSteps {t : Thread} {n : Nat} {s s' : System κ} {stage : Stage κ}
    (refused : System.runSteps (advance t) n s stage = (s', .inr false)) :
    Undecided (.inl stage) ∧ s.Unaffected s' := by
  induction n generalizing s stage with
  | zero => cases refused
  | succ n ih =>
    have first := unaffected_advance t s stage
    rw [System.runSteps] at refused
    rcases outcome : advance t s stage with ⟨s₁, next | taken⟩
    · rw [outcome] at refused first
      obtain ⟨undecided, rest⟩ := ih refused
      exact ⟨(first undecided).1, (first undecided).2.trans rest⟩
    · rw [outcome] at refused first
      cases refused
      exact first trivial

/-- Others do whatever they do between the stages of a call. Its stages so far are listed, each with the system
before and after it. -/
inductive Attempt [Program κ] (offer : Offer κ) (t : Thread) (s₀ : System κ) :
    System κ → Stage κ ⊕ Bool → List (System κ × System κ) → Prop
  | start : Attempt offer t s₀ s₀ (.inl offer.start) []
  | own {s : System κ} {stage : Stage κ} {done : List (System κ × System κ)}
      (attempt : Attempt offer t s₀ s (.inl stage) done) :
      Attempt offer t s₀ (advance t s stage).1 (advance t s stage).2 (done ++ [(s, (advance t s stage).1)])
  | other {s : System κ} {place : Stage κ ⊕ Bool} {done : List (System κ × System κ)}
      (attempt : Attempt offer t s₀ s place done) (u : Thread) (a : Step κ) (allowed : Standing s a) :
      Attempt offer t s₀ (a.apply s u) place done

theorem Attempt.unaffected [Program κ] {offer : Offer κ} {t : Thread} {s₀ : System κ} {place : Stage κ ⊕ Bool}
    {done : List (System κ × System κ)} (attempt : Attempt offer t s₀ s place done)
    (undecided : Undecided place) : ∀ step ∈ done, step.1.Unaffected step.2 := by
  induction attempt with
  | start => exact nofun
  | @own s stage done _ ih =>
    -- If this stage has not taken the task, none before it has.
    obtain ⟨before, unaffected⟩ := unaffected_advance t s stage undecided
    intro step mem
    rcases List.mem_append.mp mem with earlier | last
    · exact ih before step earlier
    · cases List.mem_singleton.mp last
      exact unaffected
  -- What others do is no stage of the call.
  | other _ _ _ _ ih => exact ih undecided

end Offer

/-! ## 5. Refused calls -/

/-- A refusal affects nothing, neither at once nor later: every arrival does what it would have done, and a
notification reaches the task that it would have reached. -/
structure Unnoticed (s s' : System κ) : Prop extends s.Unaffected s' where
  pushes : ∀ t q message, (s.push t q message).Unaffected (s'.push t q message)
  notified? : ∀ serial id, s'.notified? serial id = s.notified? serial id

theorem unnoticed {s s' : System κ} (h : s.Unaffected s') : Unnoticed s s' :=
  { h with pushes := h.push, notified? := h.notified? }

variable [Program κ]

/-- A call that asks for a task is refused exactly after a shutdown or while the id is live. It has changed nothing
then, but that a creation may have registered its name. None of its stages has, if others do whatever they do
between them. -/
theorem refused_changes_nothing (offer : Offer κ) (t : Thread) :
    (∀ s, (offer.make s t).2 = false ↔
      ∀ sched, s.scheduler = some sched → sched.stopped = true ∨ sched.tasks.contains (offer.id s) = true) ∧
    (∀ s, (offer.make s t).2 = false → Unnoticed s (offer.make s t).1 ∧
      ((offer.make s t).1.scheduler = s.scheduler ∨
        ∃ name ∈ offer.name?, (offer.make s t).1.scheduler = s.registered name)) ∧
    ∀ s₀ s done, Offer.Attempt offer t s₀ s (.inr false) done → ∀ step ∈ done, Unnoticed step.1 step.2 := by
  refine ⟨fun s => offer.refused_iff s t, fun s refused => ⟨?_, Offer.scheduler_make refused⟩,
    fun s₀ s done attempt step mem => ?_⟩
  · obtain ⟨n, whole⟩ := offer.runSteps_make s t
    rw [refused] at whole
    exact unnoticed (Offer.unaffected_runSteps whole).2
  · exact unnoticed (attempt.unaffected trivial step mem)

/-- A task that reads from a queue. -/
def reading : System Script :=
  Step.apply (Step.apply (System.startScheduler {} .main uneven) .main (.operate .newQueue)) .main
    (.operate (.create (.reader 0 .parking (.ofActions [])) "t" (some 0)))

/-- A call that asks for another task of its name, with the same queue. -/
def again : Offer Script := .create .finished "t" (some 0)

/-- It is refused, and the arrivals of the queue are still announced to the first task. -/
theorem refused_while_live :
    (again.make reading .main).2 = false ∧ Unnoticed reading (again.make reading .main).1 ∧
      (reading.queue 0).callback = some [.notifyTask 0 (taskId "t")] ∧
      (again.make reading .main).1.notified? 0 (taskId "t") = some 0 := by
  obtain ⟨-, unnoticed, -⟩ := refused_changes_nothing again .main
  have refused : (again.make reading .main).2 = false := by decide +kernel
  have live : reading.notified? 0 (taskId "t") = some 0 := by decide +kernel
  obtain ⟨unnoticed, -⟩ := unnoticed reading refused
  exact ⟨refused, unnoticed, rfl, (unnoticed.notified? 0 _).trans live⟩

end Outside

end CoopSched
