import CoopSched.Proofs.Lifecycle.Ledger
/-!
# Calls and their turns

`Recorded` ties the phase of every call to what was called and to the turns that were recorded:

* a dispatch or a removal has one turn with the mutex of its id, unless the dispatch was refused by the stop
  flag, and returns how this turn went;
* the turns of a shutdown are removals, made after it has raised the stop flag;
* the flag is up exactly if some shutdown has raised it.

Every step keeps this (`World.Run.recorded`).
-/

namespace CoopSched.Lifecycle

open CoopSched.System (Stage Frame)

variable {κ : Type} {sched : Scheduler} {queued : TaskTable} {first : UInt64 → Bool} {w w' : World κ}
  {n : Nat} {t : Thread} {p : Phase}

/-- The turns of a call. -/
def turnsOf (n : Nat) (turns : List Turn) : List Turn := turns.filter fun turn => turn.call = n

theorem turnsOf_append (n : Nat) (turns : List Turn) (turn : Turn) :
    turnsOf n (turns ++ [turn]) =
      if turn.call = n then turnsOf n turns ++ [turn] else turnsOf n turns := by
  rw [turnsOf, List.filter_append, List.filter_cons, List.filter_nil]
  simp only [decide_eq_true_eq]
  split
  · rfl
  · exact List.append_nil _

/-! ## 1. What is recorded of a call -/

/-- What was called leads to work on the id with this errand. Only a shutdown has had turns before. -/
def Purpose.Sends (w : World κ) (n : Nat) (id : UInt64) : Purpose → Errand → Prop
  | .dispatch r, .dispatch r' => r' = r ∧ w.sys.Owns id r ∧ turnsOf n w.turns = []
  | .remove id', .remove => id' = id ∧ turnsOf n w.turns = []
  | .shutdown, .sweep _ => w.raised = some n
  | _, _ => False

/-- What was called may end like this. -/
def Purpose.Ends (w : World κ) (n : Nat) (ok : Bool) : Purpose → Prop
  | .dispatch r =>
    (∃ id, w.sys.Owns id r ∧ turnsOf n w.turns = [⟨n, id, .dispatch, ok⟩]) ∨
      ok = false ∧ turnsOf n w.turns = [] ∧ w.raised ≠ none
  | .remove id => turnsOf n w.turns = [⟨n, id, .remove, ok⟩]
  | .shutdown => ok = true → w.raised = some n

/-- What was called may have such a turn. -/
def Purpose.Took (w : World κ) (turn : Turn) : Purpose → Prop
  | .dispatch r => w.sys.Owns turn.id r ∧ turn.deed = .dispatch
  | .remove id => turn.id = id ∧ turn.deed = .remove
  | .shutdown => turn.deed = .remove ∧ w.raised = some turn.call

/-- What is recorded of a call at a phase. -/
def Phase.Records (w : World κ) (n : Nat) (purpose : Purpose) : Phase → Prop
  | .joining r | .checking r =>
    purpose = .dispatch r ∧ r < w.sys.routines.size ∧ turnsOf n w.turns = []
  | .finding id e _ | .locking id e _ | .inside id e _ _ | .unlocking id e _ _ =>
    purpose.Sends w n id e
  | .leaving ok => (∃ r, purpose = .dispatch r) ∧ purpose.Ends w n ok
  | .excluding | .raising | .opening false => purpose = .shutdown
  | .opening true | .silencing | .listing | .ending => purpose = .shutdown ∧ w.raised = some n
  | .returned ok => purpose.Ends w n ok

structure Recorded (w : World κ) : Prop where
  flag : isStopped w.sys = w.raised.isSome
  calls : ∀ n c, w.calls n = some c → c.phase.Records w n c.purpose
  turns : ∀ turn ∈ w.turns, ∃ c, w.calls turn.call = some c ∧ c.purpose.Took w turn

/-! ## 2. What stays recorded -/

/-- No routine goes away or gets another id, and what has raised the flag has raised it for good. -/
structure Later (w w' : World κ) : Prop where
  grows : Grows w.sys w'.sys
  raised : ∀ k, w.raised = some k → w'.raised = some k

theorem Later.owns {id : UInt64} {r : RoutineRef} (h : Later w w') (owns : w.sys.Owns id r) :
    w'.sys.Owns id r :=
  ⟨Nat.lt_of_lt_of_le owns.1 h.grows.size, (h.grows.ids r owns.1).trans owns.2⟩

theorem Later.raised_ne_none (h : Later w w') (raised : w.raised ≠ none) : w'.raised ≠ none := by
  obtain ⟨k, hk⟩ := Option.ne_none_iff_exists'.mp raised
  rw [h.raised k hk]
  exact Option.some_ne_none k

theorem Purpose.Sends.later {purpose : Purpose} {id : UInt64} {e : Errand}
    (h : purpose.Sends w n id e) (later : Later w w') (turns : turnsOf n w'.turns = turnsOf n w.turns) :
    purpose.Sends w' n id e := by
  unfold Sends at h ⊢
  split at h
  · exact ⟨h.1, later.owns h.2.1, turns.trans h.2.2⟩
  · exact ⟨h.1, turns.trans h.2⟩
  · exact later.raised n h
  · exact h.elim

theorem Purpose.Ends.later {purpose : Purpose} {ok : Bool} (h : purpose.Ends w n ok)
    (later : Later w w') (turns : turnsOf n w'.turns = turnsOf n w.turns) : purpose.Ends w' n ok := by
  cases purpose with
  | dispatch r =>
    rcases h with ⟨id, owns, turn⟩ | ⟨refused, none, raised⟩
    · exact .inl ⟨id, later.owns owns, turns.trans turn⟩
    · exact .inr ⟨refused, turns.trans none, later.raised_ne_none raised⟩
  | remove id => exact turns.trans h
  | shutdown => exact fun won => later.raised n (h won)

theorem Purpose.Took.later {purpose : Purpose} {turn : Turn} (h : purpose.Took w turn)
    (later : Later w w') : purpose.Took w' turn := by
  cases purpose with
  | dispatch r => exact ⟨later.owns h.1, h.2⟩
  | remove id => exact h
  | shutdown => exact ⟨h.1, later.raised _ h.2⟩

theorem Phase.Records.later {purpose : Purpose} (h : p.Records w n purpose) (later : Later w w')
    (turns : turnsOf n w'.turns = turnsOf n w.turns) : p.Records w' n purpose := by
  cases p with
  | joining r => exact ⟨h.1, Nat.lt_of_lt_of_le h.2.1 later.grows.size, turns.trans h.2.2⟩
  | checking r => exact ⟨h.1, Nat.lt_of_lt_of_le h.2.1 later.grows.size, turns.trans h.2.2⟩
  | finding id e step => exact Purpose.Sends.later h later turns
  | locking id e m => exact Purpose.Sends.later h later turns
  | inside id e m stage => exact Purpose.Sends.later h later turns
  | unlocking id e m ok => exact Purpose.Sends.later h later turns
  | leaving ok => exact ⟨h.1, h.2.later later turns⟩
  | excluding => exact h
  | raising => exact h
  | opening won =>
    cases won with
    | false => exact h
    | true => exact ⟨h.1, later.raised n h.2⟩
  | silencing => exact ⟨h.1, later.raised n h.2⟩
  | listing => exact ⟨h.1, later.raised n h.2⟩
  | ending => exact ⟨h.1, later.raised n h.2⟩
  | returned ok => exact Purpose.Ends.later h later turns

/-! ## 3. The stop flag -/

theorem isStopped_congr {s s' : System κ} (h : s'.scheduler = s.scheduler) :
    isStopped s' = isStopped s := by
  rw [isStopped, isStopped, h]

theorem isStopped_modifyScheduler (s : System κ) {f : Scheduler → Scheduler}
    (h : ∀ x, (f x).stopped = x.stopped) : isStopped (s.modifyScheduler f) = isStopped s := by
  rw [isStopped, isStopped, System.modifyScheduler]
  cases s.scheduler with
  | none => rfl
  | some sched => exact h sched

/-- Only a shutdown that finds the flag down changes it. -/
theorem flag_advance (h : Ledger first w sched queued) (there : w.phase? n = some p) :
    ((w.advance n t p).1.raised = w.raised ∧ isStopped (w.advance n t p).1.sys = isStopped w.sys) ∨
    (p = .raising ∧ isStopped w.sys = false ∧ (w.advance n t p).1.raised = some n ∧
      isStopped (w.advance n t p).1.sys = true) := by
  cases p with
  | finding id e step =>
    obtain ⟨issued, -, found⟩ := w.find_eq n e id step
    rw [World.advance, found]
    exact .inl ⟨rfl, rfl⟩
  | inside id e m stage =>
    rcases w.attend_cases n t e m id stage with waits | ⟨sched', hs, -, stepped⟩
    · rw [World.advance, waits]
      exact .inl ⟨rfl, rfl⟩
    · cases h.scheduler.symm.trans hs
      obtain ⟨_, _, works, -⟩ := System.attend_works (t := t) hs h.agree h.nodup (h.calls n _ there).1
      rw [World.advance, stepped]
      refine .inl ⟨rfl, ?_⟩
      rw [isStopped, isStopped, works.scheduler, hs]
      rfl
  | raising =>
    rw [World.advance]
    split
    · exact .inl ⟨rfl, rfl⟩
    · next running =>
      refine .inr ⟨rfl, Bool.eq_false_iff.mpr running, rfl, ?_⟩
      rw [isStopped, System.modifyScheduler, h.scheduler]
      rfl
  | silencing =>
    have silent : Frame id (w.sys.report t .shuttingDown) _ :=
      System.frame_stopServedGroups _ (processorsOf w.sys)
    exact .inl ⟨rfl, isStopped_congr silent.scheduler⟩
  | ending =>
    have stopped : Frame id _ (stopProcessors w.sys t) :=
      .foldl (fun s p => System.frame_stopProcessor s t p) (processorsOf w.sys)
        (w.sys.modifyScheduler fun sched => { sched with processors := [] })
    exact .inl ⟨rfl, (isStopped_congr stopped.scheduler).trans
      (isStopped_modifyScheduler w.sys fun _ => rfl)⟩
  | _ =>
    rw [World.advance]
    (repeat' split) <;> exact .inl ⟨rfl, rfl⟩

/-- Every step comes later. -/
theorem later_advance (h : Ledger first w sched queued) (there : w.phase? n = some p)
    (flag : isStopped w.sys = w.raised.isSome) : Later w (w.advance n t p).1 := by
  refine ⟨h.grows there, fun k raised => ?_⟩
  rcases flag_advance (n := n) (t := t) h there with ⟨same, -⟩ | ⟨-, running, -⟩
  · exact same.trans raised
  · rw [running, raised] at flag
    cases flag

/-! ## 4. Steps -/

theorem records_sweep {ids : List UInt64} (raised : w.raised = some n) :
    (Phase.sweep ids).Records w n .shutdown := by
  cases ids with
  | nil => exact ⟨rfl, raised⟩
  | cons id rest => exact raised

/-- A call takes its own step on record. -/
theorem records_advance {purpose : Purpose} (records : p.Records w n purpose)
    (later : Later w (w.advance n t p).1) (flag : isStopped w.sys = w.raised.isSome) :
    (w.advance n t p).2.Records (w.advance n t p).1 n purpose := by
  cases p with
  | joining r =>
    simp only [World.advance]
    split <;> exact records
  | checking r =>
    obtain ⟨rfl, bound, fresh⟩ := records
    simp only [World.advance]
    split
    · next stopped =>
      -- The scheduler is stopped, so somebody has raised the flag.
      refine ⟨⟨r, rfl⟩, .inr ⟨rfl, fresh, fun none => ?_⟩⟩
      rw [stopped, none] at flag
      cases flag
    · exact ⟨rfl, ⟨bound, rfl⟩, fresh⟩
  | finding id e step =>
    obtain ⟨issued, -, found⟩ := w.find_eq n e id step
    rw [World.advance, found]
    rcases (w.locks.find n id step).2 with next | m
    · exact records
    · exact records
  | locking id e m =>
    simp only [World.advance]
    split <;> exact records
  | inside id e m stage =>
    rcases w.attend_cases n t e m id stage with waits | ⟨sched', hs, -, stepped⟩
    · rw [World.advance, waits]
      exact records
    · rw [World.advance, stepped] at later ⊢
      have kept := Purpose.Sends.later records later rfl
      rcases (w.sys.attend t sched' id stage).2 with next | ok
      · exact kept
      · exact kept
  | unlocking id e m ok =>
    rw [World.advance]
    have turn : turnsOf n w.turns = [] →
        turnsOf n (w.turns ++ [⟨n, id, e.deed, ok⟩]) = [⟨n, id, e.deed, ok⟩] := by
      intro fresh
      rw [turnsOf_append, if_pos rfl, fresh]
      rfl
    cases e with
    | dispatch r' =>
      cases purpose with
      | dispatch r =>
        obtain ⟨-, owns, fresh⟩ := records
        exact ⟨⟨r, rfl⟩, .inl ⟨id, owns, turn fresh⟩⟩
      | remove id' => exact (records : False).elim
      | shutdown => exact (records : False).elim
    | remove =>
      cases purpose with
      | dispatch r => exact (records : False).elim
      | remove id' =>
        obtain ⟨rfl, fresh⟩ := records
        exact turn fresh
      | shutdown => exact (records : False).elim
    | sweep rest =>
      cases purpose with
      | dispatch r => exact (records : False).elim
      | remove id' => exact (records : False).elim
      | shutdown =>
        have raised : w.raised = some n := records
        exact records_sweep raised
  | leaving ok => exact records.2
  | excluding =>
    simp only [World.advance]
    split <;> exact records
  | raising =>
    simp only [World.advance]
    split
    · exact records
    · exact ⟨records, rfl⟩
  | opening won =>
    cases won with
    | false =>
      cases (records : purpose = .shutdown)
      rintro ⟨⟩
    | true => exact records
  | silencing => exact records
  | listing =>
    obtain ⟨rfl, raised⟩ := records
    exact records_sweep raised
  | ending =>
    obtain ⟨rfl, raised⟩ := records
    exact fun _ => raised
  | returned ok => exact records

/-- A step ends at most the turn of the call that takes it. -/
theorem turns_advance (w : World κ) (n : Nat) (t : Thread) (p : Phase) :
    (w.advance n t p).1.turns = w.turns ∨
    ∃ id e m ok, p = .unlocking id e m ok ∧
      (w.advance n t p).1.turns = w.turns ++ [⟨n, id, e.deed, ok⟩] := by
  cases p with
  | inside id e m stage =>
    rcases w.attend_cases n t e m id stage with waits | ⟨sched', hs, -, stepped⟩
    · exact .inl (by rw [World.advance, waits])
    · exact .inl (by rw [World.advance, stepped])
  | unlocking id e m ok => exact .inr ⟨id, e, m, ok, rfl, rfl⟩
  | _ => exact .inl (Ledger.quiet_advance w n t rfl).2

/-- Who works on an id takes the turns that fit what was called. -/
theorem Purpose.Sends.took {purpose : Purpose} {id : UInt64} {e : Errand} (h : purpose.Sends w n id e)
    (ok : Bool) : purpose.Took w ⟨n, id, e.deed, ok⟩ := by
  unfold Purpose.Sends at h
  split at h
  · exact ⟨h.2.1, rfl⟩
  · exact ⟨h.1.symm, rfl⟩
  · exact ⟨rfl, h⟩
  · exact h.elim

namespace Recorded

theorem begins (begins : w.Begins) : Recorded w := by
  have fresh := begins.world
  refine ⟨?_, fun n c called => ?_, fun turn mem => ?_⟩
  · rw [begins.running, fresh]
    rfl
  · rw [fresh] at called
    cases called
  · rw [fresh] at mem
    cases mem

/-- A call that has not begun has had no turn. -/
theorem turnsOf_unused (h : Recorded w) (unused : w.calls n = none) : turnsOf n w.turns = [] := by
  refine List.filter_eq_nil_iff.mpr fun turn mem own => ?_
  obtain ⟨c, called, -⟩ := h.turns turn mem
  rw [of_decide_eq_true own, unused] at called
  cases called

/-- A call has come to another phase, and at most one turn of its own is over. -/
theorem tread (h : Recorded w) {c : Call} (called : w.calls n = some c) (later : Later w w')
    (flag : isStopped w'.sys = w'.raised.isSome) (own : p.Records w' n c.purpose)
    (turned : w'.turns = w.turns ∨
      ∃ turn, turn.call = n ∧ c.purpose.Took w turn ∧ w'.turns = w.turns ++ [turn]) :
    Recorded (w.tread w' n c p) := by
  have still : Later w' (w.tread w' n c p) :=
    ⟨⟨Nat.le_refl _, fun _ _ => rfl, fun _ h => h⟩, fun _ h => h⟩
  refine ⟨flag, fun k c' called' => ?_, fun turn mem => ?_⟩
  · simp only [World.tread, World.put] at called'
    split at called'
    · next same =>
      cases called'
      exact same ▸ own.later still rfl
    · next ne =>
      refine ((h.calls k c' called').later later ?_).later still rfl
      rcases turned with same | ⟨turn, rfl, -, turned⟩
      · exact congrArg (turnsOf k) same
      · exact (congrArg (turnsOf k) turned).trans ((turnsOf_append ..).trans (if_neg (Ne.symm ne)))
  · have mine : (w.tread w' n c p).calls n = some { c with phase := p } := if_pos rfl
    have earlier : turn ∈ w.turns → ∃ c', (w.tread w' n c p).calls turn.call = some c' ∧
        c'.purpose.Took (w.tread w' n c p) turn := by
      intro mem
      obtain ⟨c', called', took⟩ := h.turns turn mem
      have took := (took.later later).later still
      by_cases same : turn.call = n
      · rw [same] at called' ⊢
        cases called.symm.trans called'
        exact ⟨_, mine, took⟩
      · exact ⟨c', (if_neg same).trans called', took⟩
    rcases turned with same | ⟨turn', rfl, took, turned⟩
    · exact earlier (same ▸ mem)
    · rcases List.mem_append.mp (turned ▸ mem : turn ∈ w.turns ++ [turn']) with old | new
      · exact earlier old
      · cases List.mem_singleton.mp new
        exact ⟨_, mine, (took.later later).later still⟩

theorem step (h : Recorded w) (ledger : Ledger first w sched queued) {c : Call}
    (called : w.calls n = some c) (there : w.phase? n = some c.phase) :
    Recorded (w.tread (w.advance n c.token c.phase).1 n c (w.advance n c.token c.phase).2) := by
  have later := later_advance (t := c.token) ledger there h.flag
  have records := h.calls n c called
  refine h.tread called later ?_ (records_advance records later h.flag) ?_
  · rcases flag_advance (n := n) (t := c.token) ledger there with
      ⟨raised, stopped⟩ | ⟨-, -, raised, stopped⟩
    · rw [raised, stopped]
      exact h.flag
    · rw [raised, stopped]
      rfl
  · rcases turns_advance w n c.token c.phase with same | ⟨id, e, m, ok, unlocking, turned⟩
    · exact .inl same
    · rw [unlocking] at records
      exact .inr ⟨_, rfl, Purpose.Sends.took records ok, turned⟩

theorem begin (h : Recorded w) {token : Thread} {purpose : Purpose} (unused : w.calls n = none)
    (allowed : w.Allowed (.begin n token purpose)) :
    Recorded (w.put n ⟨token, purpose, purpose.start⟩) := by
  have fresh := h.turnsOf_unused unused
  refine ⟨h.flag, fun k c called => ?_, fun turn mem => ?_⟩
  · simp only [World.put] at called
    split at called
    · next same =>
      subst same
      cases called
      cases purpose with
      | dispatch r => exact ⟨rfl, allowed, fresh⟩
      | remove id => exact ⟨rfl, fresh⟩
      | shutdown => exact rfl
    · exact h.calls k c called
  · obtain ⟨c, called, took⟩ := h.turns turn mem
    have other : turn.call ≠ n := by
      intro same
      rw [same, unused] at called
      cases called
    exact ⟨c, (if_neg other).trans called, took⟩

theorem elsewhere (h : Recorded w) {s : System κ} (spares : Spares w.sys s) :
    Recorded { w with sys := s } := by
  have later : Later w { w with sys := s } :=
    ⟨(Quiet.of_spares spares).grows, fun _ raised => raised⟩
  refine ⟨?_, fun n c called => (h.calls n c called).later later rfl, fun turn mem => ?_⟩
  · obtain ⟨names, scheduler⟩ := spares.scheduler
    refine Eq.trans ?_ h.flag
    rw [isStopped, scheduler]
    exact isStopped_modifyScheduler w.sys fun _ => rfl
  · obtain ⟨c, called, took⟩ := h.turns turn mem
    exact ⟨c, called, took.later later⟩

end Recorded

/-- In every run the turns of the calls are on record. -/
theorem World.Run.recorded (run : w.Run w') (begins : w.Begins) : Recorded w' := by
  refine run.keeps (.begins begins) (fun _ h unused allowed => h.begin unused allowed)
    (fun run h called there => ?_) fun _ h spares => h.elsewhere spares
  obtain ⟨sched, queued, ledger⟩ := run.ledger begins
  exact h.step ledger called there

end CoopSched.Lifecycle
