import CoopSched.Proofs.Lifecycle.History
/-!
# A shutdown among dispatches and removals

The shutdown that raises the stop flag has the lifecycle lock for itself while it does so. No dispatch is
then between its look at the flag and its end, so from then on nothing is entered into the table, and what the
shutdown still has to remove covers what is live (`Phase.Sweeps`). A routine whose dispatch has succeeded is
live until somebody stops it (`Cared`). So when all calls have returned (`shutdown_complete`):

* the table is empty, and so is every level of every group;
* every routine whose dispatch returned true is stopped;
* every dispatch that read the flag after it was raised returned false and has changed nothing.
-/

namespace CoopSched.System

variable {κ : Type} {s : System κ} {sched : Scheduler} {id i : UInt64} {t : Thread} {r : RoutineRef}

/-! ## 1. What the work on an id does to the table -/

/-- The first stage of a dispatch or of a removal. -/
def Stage.Entry : Stage → Prop
  | .claiming _ | .erasing => True
  | _ => False

/-- No stage leads back to a first one. -/
theorem not_entry_attend (s : System κ) (t : Thread) (sched : Scheduler) (id : UInt64) (stage : Stage)
    {next : Stage} (outcome : (s.attend t sched id stage).2 = .inl next) : ¬next.Entry := by
  revert outcome
  cases stage with
  | claiming r =>
    simp only [attend]
    split
    · rintro ⟨⟩
    · rintro ⟨⟩
      exact fun h => h
  | placing r =>
    rintro ⟨⟩
    exact fun h => h
  | queueing g r =>
    rintro ⟨⟩
    exact fun h => h
  | telling g => rintro ⟨⟩
  | erasing =>
    simp only [attend]
    split
    · rintro ⟨⟩
    · rintro ⟨⟩
      exact fun h => h
  | halting r =>
    rintro ⟨⟩
    exact fun h => h
  | seeking r =>
    rintro ⟨⟩
    exact fun h => h
  | unlinking g l r step =>
    simp only [attend]
    split
    · rintro ⟨⟩
      exact fun h => h
    · rintro ⟨⟩
      exact fun h => h
  | closing g l ok => rintro ⟨⟩

theorem task?_congr {s s' : System κ} (h : s'.scheduler = s.scheduler) (i : UInt64) :
    s'.task? i = s.task? i := by
  rw [task?, task?, h]

theorem scheduler_unlink (s : System κ) (t : Thread) (g : GroupRef) (r : RoutineRef)
    (step : Unlinking) : (s.unlink t g r step).1.scheduler = s.scheduler := by
  cases step with
  | finding =>
    simp only [unlink]
    split <;> rfl
  | acquiring level position target =>
    simp only [unlink]
    split
    · next outcome => exact congrArg (fun o => o.1.scheduler) outcome.symm
    · next outcome => exact congrArg (fun o => o.1.scheduler) outcome.symm
  | _ => rfl

/-- The first stage of a removal takes its id out of the table, and stops the routine next. No other stage
takes anything out. -/
theorem task?_attend (hs : s.scheduler = some sched) (stage : Stage) (found : s.task? i = some r) :
    (s.attend t sched id stage).1.task? i = some r ∨
      stage = .erasing ∧ i = id ∧ (s.attend t sched id stage).2 = .inl (.halting r) := by
  have live : sched.tasks.find? i = some r := (task?_eq hs i).symm.trans found
  cases stage with
  | claiming q =>
    refine .inl ?_
    simp only [attend]
    cases known : sched.tasks.contains (s.routine q).id with
    | true =>
      have refused : s.claim sched q = (s, false) := by simp [claim, known]
      rw [refused]
      exact found
    | false =>
      have granted : s.claim sched q = (s.modifyScheduler fun sched =>
          { sched with tasks := sched.tasks.insert (s.routine q).id q }, true) := by
        simp [claim, known]
      have new : sched.tasks.find? (s.routine q).id = none := by
        rw [TaskTable.contains, Option.isSome_eq_false_iff, Option.isNone_iff_eq_none] at known
        exact known
      rw [granted]
      refine (task?_eq (congrArg (Option.map _) hs) i).trans ?_
      -- A claim is granted for an id that is not live, and this one is.
      have other : i ≠ (s.routine q).id := by
        rintro rfl
        cases new.symm.trans live
      exact (TaskTable.find?_insert new q i).trans ((if_neg other).trans live)
  | placing q =>
    have kept := (task?_congr (relocates_settled s t sched q).scheduler i).trans found
    simp only [attend]
    exact .inl kept
  | erasing =>
    simp only [attend]
    cases here : sched.tasks.find? id with
    | none => exact .inl found
    | some q =>
      by_cases own : i = id
      · subst own
        cases here.symm.trans live
        exact .inr ⟨trivial, rfl, rfl⟩
      · refine .inl ((task?_eq (congrArg (Option.map _) hs) i).trans ?_)
        exact (TaskTable.find?_erase ..).trans ((if_neg own).trans live)
  | unlinking g l q step =>
    refine .inl ?_
    have kept := (task?_congr (scheduler_unlink s t g q step) i).trans found
    simp only [attend]
    split
    · next outcome =>
      rw [outcome] at kept
      exact kept
    · next outcome =>
      rw [outcome] at kept
      exact kept
  | _ => exact .inl found

/-- A removal makes nothing live. -/
theorem task?_of_removal (hs : s.scheduler = some sched) {stage : Stage} (removal : stage.deed = .remove)
    (live : ((s.attend t sched id stage).1.task? i).isSome = true) :
    (s.task? i).isSome = true ∧ (stage = .erasing → i ≠ id) := by
  revert live
  cases stage with
  | erasing =>
    simp only [attend]
    cases here : sched.tasks.find? id with
    | none =>
      refine fun live => ⟨live, ?_⟩
      rintro - rfl
      rw [task?_eq hs, here] at live
      cases live
    | some q =>
      rw [task?_eq (congrArg (Option.map _) hs), task?_eq hs]
      intro live
      have left : ((sched.tasks.erase id).find? i).isSome = true := live
      rw [TaskTable.find?_erase] at left
      split at left
      · cases left
      · next other => exact ⟨left, fun _ => other⟩
  | halting q => exact fun live => ⟨live, by rintro ⟨⟩⟩
  | seeking q => exact fun live => ⟨live, by rintro ⟨⟩⟩
  | unlinking g l q step =>
    have kept := task?_congr (scheduler_unlink s t g q step) i
    simp only [attend]
    split
    · next outcome =>
      rw [outcome] at kept
      exact fun live => ⟨kept ▸ live, by rintro ⟨⟩⟩
    · next outcome =>
      rw [outcome] at kept
      exact fun live => ⟨kept ▸ live, by rintro ⟨⟩⟩
  | closing g l ok => exact fun live => ⟨live, by rintro ⟨⟩⟩
  | _ => cases removal

end CoopSched.System

namespace CoopSched.Lifecycle

open CoopSched.System (Stage Agreed task?_eq task?_congr task?_attend task?_of_removal not_entry_attend)

variable {κ : Type} {sched : Scheduler} {queued : TaskTable} {first : UInt64 → Bool} {w w' : World κ}
  {n : Nat} {t : Thread} {p : Phase}

/-! ## 2. No dispatch after the flag is up -/

/-- Does the call work for a dispatch that has found the flag down? -/
def Phase.Dispatches : Phase → Prop
  | .finding _ e _ | .locking _ e _ | .inside _ e _ _ | .unlocking _ e _ _ => e.deed = .dispatch
  | _ => False

theorem Phase.Dispatches.shares (h : p.Dispatches) : p.Shares := by
  cases p with
  | finding id e step => exact h
  | locking id e m => exact h
  | inside id e m stage => exact h
  | unlocking id e m ok => exact h
  | _ => exact h.elim

theorem not_dispatches_sweep (ids : List UInt64) : ¬(Phase.sweep ids).Dispatches := by
  cases ids <;> exact nofun

theorem dispatches_advance (w : World κ) (n : Nat) (t : Thread)
    (dispatches : (w.advance n t p).2.Dispatches) : p.Dispatches ∨ isStopped w.sys = false := by
  revert dispatches
  cases p with
  | joining r =>
    simp only [World.advance]
    split <;> exact False.elim
  | checking r =>
    simp only [World.advance]
    split
    · exact False.elim
    · next running => exact fun _ => .inr (Bool.eq_false_iff.mpr running)
  | finding id e step =>
    obtain ⟨issued, -, found⟩ := w.find_eq n e id step
    rw [World.advance, found]
    rcases (w.locks.find n id step).2 with next | m
    · exact .inl
    · exact .inl
  | locking id e m =>
    simp only [World.advance]
    split <;> exact .inl
  | inside id e m stage =>
    rcases w.attend_cases n t e m id stage with waits | ⟨sched', hs, -, stepped⟩
    · rw [World.advance, waits]
      exact .inl
    · rw [World.advance, stepped]
      rcases (w.sys.attend t sched' id stage).2 with next | ok
      · exact .inl
      · exact .inl
  | unlocking id e m ok =>
    cases e with
    | dispatch r => exact False.elim
    | remove => exact False.elim
    | sweep rest => exact fun dispatches => absurd dispatches (not_dispatches_sweep rest)
  | listing => exact fun dispatches => absurd dispatches (not_dispatches_sweep (idsOf w.sys))
  | _ =>
    simp only [World.advance]
    (repeat' split) <;> exact False.elim

/-- Once the flag is up, no call works for a dispatch. -/
theorem World.Run.shut (run : w.Run w') (begins : w.Begins) :
    w'.raised ≠ none → ∀ n p, w'.phase? n = some p → ¬p.Dispatches := by
  refine run.keeps (motive := fun v => v.raised ≠ none → ∀ n p, v.phase? n = some p → ¬p.Dispatches)
    ?_ ?_ ?_ fun _ h _ => h
  · rw [begins.world]
    exact fun raised => absurd rfl raised
  · intro v n token purpose run h unused allowed raised k q there
    rw [World.phase?_put] at there
    split at there
    · cases there
      cases purpose <;> rintro ⟨⟩
    · exact h raised k q there
  · intro v n c run h called there raised k q there'
    obtain ⟨sched, queued, ledger⟩ := run.ledger begins
    have flag := (run.recorded begins).flag
    rw [World.phase?_tread] at there'
    rcases flag_advance (n := n) (t := c.token) ledger there with ⟨same, -⟩ | ⟨phase, -, -, -⟩
    · have before : v.raised ≠ none := fun none => raised (same.trans none)
      split at there'
      · cases there'
        intro dispatches
        rcases dispatches_advance v n c.token dispatches with already | running
        · exact h before n _ there already
        · rw [running] at flag
          exact before (Option.isNone_iff_eq_none.mp (Option.isSome_eq_false_iff.mp flag.symm))
      · exact h before k q there'
    · -- Whoever raises the flag has the lifecycle lock for itself, and a dispatch would share it.
      rw [phase] at there there'
      split at there'
      · cases there'
        simp only [World.advance]
        split <;> exact id
      · intro dispatches
        exact (run.guarded begins).unshared there there' trivial dispatches.shares

/-! ## 3. What the shutdown still has to remove -/

/-- Where the shutdown that has raised the flag may stand, if these ids are live. -/
def Phase.Sweeps (live : UInt64 → Prop) : Phase → Prop
  | .opening true | .silencing | .listing => True
  | .finding id (.sweep rest) _ | .locking id (.sweep rest) _ | .inside id (.sweep rest) _ .erasing =>
    ∀ i, live i → i ∈ id :: rest
  | .inside _ (.sweep rest) _ _ | .unlocking _ (.sweep rest) _ _ => ∀ i, live i → i ∈ rest
  | .ending | .returned true => ∀ i, ¬live i
  | _ => False

/-- A shutdown is done with the ids that are not live any more. -/
theorem Phase.Sweeps.mono {live live' : UInt64 → Prop} (h : p.Sweeps live)
    (fewer : ∀ i, live' i → live i) : p.Sweeps live' := by
  unfold Sweeps at h ⊢
  split at h
  all_goals first
    | exact h
    | exact fun i now => h i (fewer i now)

theorem Quiet.task?_eq {s s' : System κ} (h : Quiet s s') (i : UInt64) : s'.task? i = s.task? i := by
  obtain ⟨f, scheduler, same⟩ := h.scheduler
  rw [System.task?, System.task?, scheduler]
  cases s.scheduler with
  | none => rfl
  | some sched => exact congrArg (·.find? i) (same sched).2

/-- Only a dispatch makes an id live. -/
theorem live_of_advance (ledger : Ledger first w sched queued) (there : w.phase? n = some p)
    (removal : ¬p.Dispatches) {i : UInt64}
    (live : ((w.advance n t p).1.sys.task? i).isSome = true) : (w.sys.task? i).isSome = true := by
  cases p with
  | inside id e m stage =>
    have deed := (ledger.calls n _ there).2
    rcases w.attend_cases n t e m id stage with waits | ⟨sched', hs, -, stepped⟩
    · rw [World.advance, waits] at live
      exact live
    · rw [World.advance, stepped] at live
      refine (task?_of_removal hs ?_ live).1
      cases e with
      | dispatch r => exact absurd rfl removal
      | remove => exact deed
      | sweep rest => exact deed
  | unlocking id e m ok => exact live
  | _ =>
    rw [(Ledger.quiet_advance w n t rfl).1.task?_eq] at live
    exact live

theorem sweeps_sweep {live : UInt64 → Prop} {ids : List UInt64} (h : ∀ i, live i → i ∈ ids) :
    (Phase.sweep ids).Sweeps live := by
  cases ids with
  | nil => exact fun i now => nomatch h i now
  | cons id rest => exact h

theorem mem_idsOf {s : System κ} {i : UInt64} (live : (s.task? i).isSome = true) : i ∈ idsOf s := by
  rw [System.task?] at live
  rw [idsOf]
  cases hs : s.scheduler with
  | none =>
    rw [hs] at live
    cases live
  | some sched =>
    rw [hs] at live
    obtain ⟨r, found⟩ := Option.isSome_iff_exists.mp live
    refine (TaskTable.mem_listed _ _).mpr ?_
    exact List.mem_map.mpr ⟨(i, r), TableLemmas.lookup_mem found, rfl⟩

/-- The shutdown stays ahead of what is live. -/
theorem sweeps_advance (ledger : Ledger first w sched queued) (there : w.phase? n = some p)
    (h : p.Sweeps fun i => (w.sys.task? i).isSome = true) :
    (w.advance n t p).2.Sweeps fun i => (w.sys.task? i).isSome = true ∧
      ((w.advance n t p).1.sys.task? i).isSome = true := by
  have kept : p.Sweeps fun i => (w.sys.task? i).isSome = true ∧
      ((w.advance n t p).1.sys.task? i).isSome = true := h.mono fun _ => And.left
  cases p with
  | finding id e step =>
    cases e with
    | sweep rest =>
      obtain ⟨issued, -, found⟩ := w.find_eq n (.sweep rest) id step
      revert kept
      rw [World.advance, found]
      rcases (w.locks.find n id step).2 with next | m
      · exact fun kept => kept
      · exact fun kept => kept
    | _ => exact h.elim
  | locking id e m =>
    cases e with
    | sweep rest =>
      revert kept
      simp only [World.advance]
      split <;> exact fun kept => kept
    | _ => exact h.elim
  | inside id e m stage =>
    cases e with
    | sweep rest =>
      have deed : stage.deed = .remove := (ledger.calls n _ there).2
      rcases w.attend_cases n t (.sweep rest) m id stage with waits | ⟨sched', hs, -, stepped⟩
      · revert kept
        rw [World.advance, waits]
        exact fun kept => kept
      · rw [World.advance, stepped]
        -- The first stage takes its own id out of the table, so what is live now is in the rest.
        have left : ∀ i, (w.sys.task? i).isSome = true ∧
            ((w.sys.attend t sched' id stage).1.task? i).isSome = true → i ∈ rest := by
          rintro i ⟨before, now⟩
          cases stage with
          | erasing =>
            rcases List.mem_cons.mp (h i before) with rfl | mem
            · exact absurd rfl ((task?_of_removal hs deed now).2 rfl)
            · exact mem
          | _ => exact h i before
        have later : ∀ next, (w.sys.attend t sched' id stage).2 = .inl next → ¬next.Entry :=
          fun next => not_entry_attend w.sys t sched' id stage
        revert left later
        rcases w.sys.attend t sched' id stage with ⟨s, next | ok⟩
        · intro left later
          cases next with
          | erasing => exact absurd trivial (later _ rfl)
          | _ => exact left
        · exact fun left _ => left
    | _ => cases stage <;> exact h.elim
  | unlocking id e m ok =>
    cases e with
    | sweep rest => exact sweeps_sweep kept
    | _ => exact h.elim
  | opening won =>
    cases won with
    | true => exact trivial
    | false => exact h.elim
  | silencing => exact trivial
  | listing => exact sweeps_sweep fun i live => mem_idsOf live.1
  | ending => exact kept
  | returned ok =>
    cases ok with
    | true => exact kept
    | false => exact h.elim
  | _ => exact h.elim

/-- In every run the shutdown that has raised the flag stays ahead of what is live. -/
theorem World.Run.sweeps (run : w.Run w') (begins : w.Begins) :
    ∀ k, w'.raised = some k → ∃ p, w'.phase? k = some p ∧
      p.Sweeps fun i => (w'.sys.task? i).isSome = true := by
  refine run.keeps (motive := fun v => ∀ k, v.raised = some k → ∃ p, v.phase? k = some p ∧
    p.Sweeps fun i => (v.sys.task? i).isSome = true) ?_ ?_ ?_ ?_
  · rw [begins.world]
    rintro k ⟨⟩
  · intro v n token purpose run h unused allowed k raised
    obtain ⟨p, there, sweeps⟩ := h k raised
    have other : k ≠ n := by
      rintro rfl
      rw [World.phase?, unused] at there
      cases there
    exact ⟨p, (World.phase?_put ..).trans ((if_neg other).trans there), sweeps⟩
  · intro v n c run h called there k raised
    obtain ⟨sched, queued, ledger⟩ := run.ledger begins
    rcases flag_advance (n := n) (t := c.token) ledger there with
      ⟨same, -⟩ | ⟨phase, running, mine, -⟩
    · have before : v.raised = some k := same.symm.trans raised
      have up : v.raised ≠ none := by
        rw [before]
        exact Option.some_ne_none k
      have shut := run.shut begins up n _ there
      obtain ⟨p, there', sweeps⟩ := h k before
      by_cases own : k = n
      · subst own
        cases there.symm.trans there'
        refine ⟨_, (World.phase?_tread ..).trans (if_pos rfl), ?_⟩
        exact (sweeps_advance ledger there sweeps).mono fun i now =>
          ⟨live_of_advance ledger there shut now, now⟩
      · refine ⟨p, (World.phase?_tread ..).trans ((if_neg own).trans there'), ?_⟩
        exact sweeps.mono fun i now => live_of_advance ledger there shut now
    · cases mine.symm.trans raised
      refine ⟨_, (World.phase?_tread ..).trans (if_pos rfl), ?_⟩
      rw [phase, World.advance, running]
      exact trivial
  · intro v s run h spares k raised
    obtain ⟨p, there, sweeps⟩ := h k raised
    exact ⟨p, there, sweeps.mono fun i now => (Quiet.of_spares spares).task?_eq i ▸ now⟩

/-! ## 4. Routines whose dispatch has succeeded -/

/-- Where a dispatch stands after it has entered its routine into the table. -/
def Phase.Claimed : Phase → Prop
  | .inside _ _ _ (.claiming _) => False
  | .inside _ _ _ _ => True
  | .unlocking _ _ _ ok | .leaving ok | .returned ok => ok = true
  | _ => False

/-- A dispatch has entered its routine. -/
def Call.Claimed (c : Call) (r : RoutineRef) : Prop := c.purpose = .dispatch r ∧ c.phase.Claimed

/-- A routine is stopped, or still in the table, or about to be stopped. -/
def Cared (w : World κ) (r : RoutineRef) : Prop :=
  (w.sys.routine r).stopped = true ∨ w.sys.task? (w.sys.routine r).id = some r ∨
    ∃ k id e m, w.phase? k = some (.inside id e m (.halting r))

/-- A dispatch begins its work with the routine that it was called for. -/
def Phase.Straight : Phase → Prop
  | .inside _ e _ (.claiming r) => e = .dispatch r
  | _ => True

theorem straight_sweep (ids : List UInt64) : (Phase.sweep ids).Straight := by
  cases ids <;> exact trivial

theorem straight_advance (w : World κ) (n : Nat) (t : Thread) (h : p.Straight) :
    (w.advance n t p).2.Straight := by
  cases p with
  | finding id e step =>
    obtain ⟨issued, -, found⟩ := w.find_eq n e id step
    rw [World.advance, found]
    rcases (w.locks.find n id step).2 with next | m
    · exact trivial
    · exact trivial
  | locking id e m =>
    simp only [World.advance]
    split
    · cases e with
      | dispatch r => exact rfl
      | remove => exact trivial
      | sweep rest => exact trivial
    · exact trivial
  | inside id e m stage =>
    rcases w.attend_cases n t e m id stage with waits | ⟨sched', hs, -, stepped⟩
    · rw [World.advance, waits]
      exact h
    · rw [World.advance, stepped]
      have later : ∀ next, (w.sys.attend t sched' id stage).2 = .inl next → ¬next.Entry :=
        fun next => not_entry_attend w.sys t sched' id stage
      revert later
      rcases (w.sys.attend t sched' id stage).2 with next | ok
      · intro later
        cases next with
        | claiming r => exact absurd trivial (later _ rfl)
        | _ => exact trivial
      · exact fun _ => trivial
  | unlocking id e m ok =>
    cases e with
    | sweep rest => exact straight_sweep rest
    | _ => exact trivial
  | listing => exact straight_sweep (idsOf w.sys)
  | _ =>
    simp only [World.advance]
    (repeat' split) <;> exact trivial

theorem World.Run.straight (run : w.Run w') (begins : w.Begins) :
    ∀ n p, w'.phase? n = some p → p.Straight := by
  refine run.keeps (motive := fun v => ∀ n p, v.phase? n = some p → p.Straight) ?_ ?_ ?_
    fun _ h _ => h
  · rw [begins.world]
    exact fun n p there => nomatch there
  · intro v n token purpose run h unused allowed k p there
    rw [World.phase?_put] at there
    split at there
    · cases there
      cases purpose <;> exact trivial
    · exact h k p there
  · intro v n c run h called there k p there'
    rw [World.phase?_tread] at there'
    split at there'
    · cases there'
      exact straight_advance v n c.token (h n _ there)
    · exact h k p there'

/-- A claimed routine is there. -/
theorem Recorded.bound (h : Recorded w) {c : Call} {r : RoutineRef} (called : w.calls n = some c)
    (claimed : c.Claimed r) : r < w.sys.routines.size := by
  have records := h.calls n c called
  obtain ⟨token, purpose, phase⟩ := c
  obtain ⟨rfl, claimed⟩ := claimed
  cases phase with
  | inside id e m stage =>
    cases e with
    | dispatch r' => exact records.2.1.1
    | remove => exact (records : False).elim
    | sweep rest => exact (records : False).elim
  | unlocking id e m ok =>
    cases e with
    | dispatch r' => exact records.2.1.1
    | remove => exact (records : False).elim
    | sweep rest => exact (records : False).elim
  | leaving ok =>
    rcases records.2 with ⟨id, owns, -⟩ | ⟨refused, -, -⟩
    · exact owns.1
    · exact absurd (refused.symm.trans claimed) nofun
  | returned ok =>
    rcases records with ⟨id, owns, -⟩ | ⟨refused, -, -⟩
    · exact owns.1
    · exact absurd (refused.symm.trans claimed) nofun
  | _ => exact claimed.elim

/-- Only the first stage of a dispatch claims a routine. -/
theorem claimed_of_advance {c : Call} {r : RoutineRef} (records : c.phase.Records w n c.purpose)
    (straight : c.phase.Straight)
    (claimed : { c with phase := (w.advance n t c.phase).2 : Call }.Claimed r) :
    c.Claimed r ∨ ∃ id m, c.phase = .inside id (.dispatch r) m (.claiming r) ∧
      (w.advance n t c.phase).2 = .inside id (.dispatch r) m (.placing r) := by
  obtain ⟨token, purpose, phase⟩ := c
  obtain ⟨called, claimed⟩ := claimed
  dsimp only at called claimed records straight ⊢
  subst called
  revert claimed
  cases phase with
  | joining r' =>
    simp only [World.advance]
    split <;> exact False.elim
  | checking r' =>
    simp only [World.advance]
    split
    · rintro ⟨⟩
    · exact False.elim
  | finding id e step =>
    obtain ⟨issued, -, found⟩ := w.find_eq n e id step
    rw [World.advance, found]
    rcases (w.locks.find n id step).2 with next | m
    · exact False.elim
    · exact False.elim
  | locking id e m =>
    cases e with
    | dispatch r' =>
      simp only [World.advance]
      split <;> exact False.elim
    | remove => exact (records : False).elim
    | sweep rest => exact (records : False).elim
  | inside id e m stage =>
    rcases w.attend_cases n t e m id stage with waits | ⟨sched', hs, -, stepped⟩
    · rw [World.advance, waits]
      exact fun claimed => .inl ⟨rfl, claimed⟩
    · rw [World.advance, stepped]
      cases stage with
      | claiming r' =>
        cases (straight : e = .dispatch r')
        obtain ⟨rfl, -⟩ := records
        simp only [System.attend]
        split
        · rintro ⟨⟩
        · exact fun _ => .inr ⟨id, m, rfl, rfl⟩
      | _ => exact fun _ => .inl ⟨rfl, trivial⟩
  | unlocking id e m ok =>
    cases e with
    | dispatch r' => exact fun claimed => .inl ⟨rfl, claimed⟩
    | remove => exact (records : False).elim
    | sweep rest => exact (records : False).elim
  | leaving ok => exact fun claimed => .inl ⟨rfl, claimed⟩
  | excluding => cases records
  | raising => cases records
  | opening won =>
    cases won with
    | false => cases records
    | true => cases records.1
  | silencing => cases records.1
  | listing => cases records.1
  | ending => cases records.1
  | returned ok => exact fun claimed => .inl ⟨rfl, claimed⟩

/-- Nobody forgets a routine that is to be stopped. -/
theorem Cared.step (ledger : Ledger first w sched queued) (c : Call) (there : w.phase? n = some p)
    {r : RoutineRef} (bound : r < w.sys.routines.size) (h : Cared w r) :
    Cared (w.tread (w.advance n t p).1 n c (w.advance n t p).2) r := by
  have grows := ledger.grows (n := n) (t := t) there
  have mine : (w.tread (w.advance n t p).1 n c (w.advance n t p).2).phase? n =
      some (w.advance n t p).2 := (World.phase?_tread ..).trans (if_pos rfl)
  have sameId : ((w.advance n t p).1.sys.routine r).id = (w.sys.routine r).id := grows.ids r bound
  rcases h with stopped | found | ⟨k, id, e, m, there'⟩
  · exact .inl (grows.stopped r stopped)
  · -- A live task is taken out of the table by a removal only, which stops it next.
    suffices kept : (w.advance n t p).1.sys.task? (w.sys.routine r).id = some r ∨
        ∃ id e m, (w.advance n t p).2 = .inside id e m (.halting r) by
      rcases kept with kept | ⟨id, e, m, halting⟩
      · refine .inr (.inl ?_)
        show (w.advance n t p).1.sys.task? ((w.advance n t p).1.sys.routine r).id = some r
        rw [sameId, kept]
      · exact .inr (.inr ⟨n, id, e, m, mine.trans (congrArg some halting)⟩)
    cases p with
    | inside id e m stage =>
      rcases w.attend_cases n t e m id stage with waits | ⟨sched', hs, -, stepped⟩
      · rw [World.advance, waits]
        exact .inl found
      · rw [World.advance, stepped]
        rcases task?_attend (t := t) hs stage found with kept | ⟨-, -, outcome⟩
        · exact .inl kept
        · exact .inr ⟨id, e, m, congrArg (World.proceed id e m) outcome⟩
    | unlocking id e m ok => exact .inl found
    | _ => exact .inl (((Ledger.quiet_advance w n t rfl).1.task?_eq _).trans found)
  · by_cases own : k = n
    · subst own
      cases there.symm.trans there'
      rcases w.attend_cases k t e m id (.halting r) with waits | ⟨sched', hs, -, stepped⟩
      · refine .inr (.inr ⟨k, id, e, m, mine.trans (congrArg some ?_)⟩)
        rw [World.advance, waits]
      · refine .inl ?_
        show ((w.advance k t (.inside id e m (.halting r))).1.sys.routine r).stopped = true
        rw [World.advance, stepped]
        simp only [System.attend]
        rw [System.routine_modifyRoutine, if_pos ⟨rfl, bound⟩]
        rfl
    · exact .inr (.inr ⟨k, id, e, m, (World.phase?_tread ..).trans ((if_neg own).trans there')⟩)

/-- A routine whose dispatch has succeeded is cared for. -/
theorem World.Run.cared (run : w.Run w') (begins : w.Begins) :
    ∀ n c r, w'.calls n = some c → c.Claimed r → Cared w' r := by
  refine run.keeps (motive := fun v => ∀ n c r, v.calls n = some c → c.Claimed r → Cared v r)
    ?_ ?_ ?_ ?_
  · rw [begins.world]
    exact fun n c r called => nomatch called
  · intro v n token purpose run h unused allowed k c r called claimed
    have kept : Cared v r → Cared (v.put n ⟨token, purpose, purpose.start⟩) r := by
      rintro (stopped | found | ⟨k', id, e, m, there⟩)
      · exact .inl stopped
      · exact .inr (.inl found)
      · have other : k' ≠ n := by
          rintro rfl
          rw [World.phase?, unused] at there
          cases there
        exact .inr (.inr ⟨k', id, e, m, (World.phase?_put ..).trans ((if_neg other).trans there)⟩)
    simp only [World.put] at called
    split at called
    · cases called
      cases purpose <;> exact claimed.2.elim
    · exact kept (h k c r called claimed)
  · intro v n c run h called there k c' r called' claimed
    obtain ⟨sched, queued, ledger⟩ := run.ledger begins
    have recorded := run.recorded begins
    simp only [World.tread, World.put] at called'
    split at called'
    · cases called'
      rcases claimed_of_advance (recorded.calls n c called) (run.straight begins n _ there) claimed with
        before | ⟨id, m, phase, next⟩
      · exact (h n c r called before).step ledger c there (recorded.bound called before)
      · -- The routine has just been entered.
        have mine : (v.tread (v.advance n c.token c.phase).1 n c (v.advance n c.token c.phase).2).phase? n =
            some (.inside id (.dispatch r) m (.placing r)) :=
          (World.phase?_tread ..).trans ((if_pos rfl).trans (congrArg some next))
        obtain ⟨sched', queued', ledger'⟩ := ledger.step (run.guarded begins) c.token c there
        obtain ⟨owns, entered⟩ := (ledger'.calls n _ mine).1
        refine .inr (.inl ?_)
        rw [task?_eq ledger'.scheduler, owns.2]
        exact entered.2.1
    · exact (h k c' r called' claimed).step ledger c there (recorded.bound called' claimed)
  · intro v s run h spares n c r called claimed
    have quiet := Quiet.of_spares spares
    have bound := (run.recorded begins).bound called claimed
    have sameId : (s.routine r).id = (v.sys.routine r).id := quiet.grows.ids r bound
    rcases h n c r called claimed with stopped | found | halting
    · exact .inl (quiet.stopped r stopped)
    · refine .inr (.inl ?_)
      show s.task? (s.routine r).id = some r
      rw [sameId, quiet.task?_eq, found]
    · exact .inr (.inr halting)

/-! ## 5. Dispatches that come late -/

/-- A dispatch has not read the stop flag yet. -/
def Phase.Unread : Phase → Prop
  | .joining _ | .checking _ => True
  | _ => False

/-- A dispatch has been refused. -/
def Phase.Refused : Phase → Prop
  | .leaving false | .returned false => True
  | _ => False

/-- A call that does not go on has not changed the system. -/
theorem sys_advance (w : World κ) (n : Nat) (t : Thread) (h : p.Unread ∨ p.Refused) :
    (w.advance n t p).1.sys = w.sys := by
  cases p with
  | joining r =>
    rw [World.advance]
    split <;> rfl
  | checking r => rfl
  | leaving ok => rfl
  | returned ok => rfl
  | _ => exact h.elim False.elim False.elim

theorem unread_advance (w : World κ) (n : Nat) (t : Thread) (h : (w.advance n t p).2.Unread) :
    p.Unread := by
  revert h
  cases p with
  | joining r => exact fun _ => trivial
  | checking r => exact fun _ => trivial
  | finding id e step =>
    obtain ⟨issued, -, found⟩ := w.find_eq n e id step
    rw [World.advance, found]
    rcases (w.locks.find n id step).2 with next | m
    · exact fun h => h
    · exact fun h => h
  | inside id e m stage =>
    rcases w.attend_cases n t e m id stage with waits | ⟨sched', hs, -, stepped⟩
    · rw [World.advance, waits]
      exact fun h => h
    · rw [World.advance, stepped]
      rcases (w.sys.attend t sched' id stage).2 with next | ok
      · exact fun h => h
      · exact fun h => h
  | unlocking id e m ok =>
    rcases e with r | _ | rest
    · exact fun h => h
    · exact fun h => h
    · cases rest <;> exact fun h => h
  | listing =>
    simp only [World.advance]
    cases idsOf w.sys <;> exact fun h => h
  | _ =>
    simp only [World.advance]
    (repeat' split) <;> exact fun h => h

theorem late_advance (w : World κ) (n : Nat) (t : Thread) {k : Nat} (late : (w.advance n t p).1.late k) :
    w.late k ∨ k = n ∧ w.raised ≠ none ∧ ∃ r, p = .checking r := by
  revert late
  cases p with
  | checking r =>
    rintro (before | ⟨own, raised⟩)
    · exact .inl before
    · exact .inr ⟨own, raised, r, rfl⟩
  | finding id e step =>
    obtain ⟨issued, -, found⟩ := w.find_eq n e id step
    rw [World.advance, found]
    exact .inl
  | inside id e m stage =>
    rcases w.attend_cases n t e m id stage with waits | ⟨sched', hs, -, stepped⟩
    · rw [World.advance, waits]
      exact .inl
    · rw [World.advance, stepped]
      exact .inl
  | _ =>
    simp only [World.advance]
    (repeat' split) <;> exact .inl

/-- A dispatch that reads the flag late is refused, and no call has changed the system that has not read the
flag yet. -/
structure Punctual (w : World κ) : Prop where
  late : ∀ n, w.late n → ∃ p, w.phase? n = some p ∧ p.Refused ∧ ¬w.active n
  active : ∀ n, w.active n → ∃ p, w.phase? n = some p ∧ ¬p.Unread

namespace Punctual

theorem begin (h : Punctual w) (unused : w.calls n = none) (token : Thread) (purpose : Purpose) :
    Punctual (w.put n ⟨token, purpose, purpose.start⟩) := by
  have kept : ∀ {k p}, w.phase? k = some p →
      (w.put n ⟨token, purpose, purpose.start⟩).phase? k = some p := by
    intro k p there
    have other : k ≠ n := by
      rintro rfl
      rw [World.phase?, unused] at there
      cases there
    exact (World.phase?_put ..).trans ((if_neg other).trans there)
  refine ⟨fun k late => ?_, fun k active => ?_⟩
  · obtain ⟨p, there, refused⟩ := h.late k late
    exact ⟨p, kept there, refused⟩
  · obtain ⟨p, there, read⟩ := h.active k active
    exact ⟨p, kept there, read⟩

theorem step (h : Punctual w) (flag : isStopped w.sys = w.raised.isSome) (t : Thread) (c : Call)
    (there : w.phase? n = some p) :
    Punctual (w.tread (w.advance n t p).1 n c (w.advance n t p).2) := by
  have mine : (w.tread (w.advance n t p).1 n c (w.advance n t p).2).phase? n =
      some (w.advance n t p).2 := (World.phase?_tread ..).trans (if_pos rfl)
  have others : ∀ {k}, k ≠ n →
      (w.tread (w.advance n t p).1 n c (w.advance n t p).2).phase? k = w.phase? k := fun other =>
    (World.phase?_tread ..).trans (if_neg other)
  have idle : p.Unread ∨ p.Refused → ¬w.active n →
      ¬(w.tread (w.advance n t p).1 n c (w.advance n t p).2).active n := by
    rintro still inactive (active | ⟨-, changed⟩)
    · exact inactive active
    · exact changed (sys_advance w n t still)
  refine ⟨fun k late => ?_, fun k active => ?_⟩
  · rcases late_advance w n t late with before | ⟨rfl, raised, r, rfl⟩
    · obtain ⟨q, there', refused, inactive⟩ := h.late k before
      by_cases own : k = n
      · subst own
        cases there.symm.trans there'
        refine ⟨_, mine, ?_, idle (.inr refused) inactive⟩
        cases p with
        | leaving ok =>
          cases ok with
          | false => exact trivial
          | true => exact refused.elim
        | returned ok => exact refused
        | _ => exact refused.elim
      · refine ⟨q, (others own).trans there', refused, ?_⟩
        rintro (active | ⟨same, -⟩)
        · exact inactive active
        · exact own same
    · -- It finds the flag up.
      have stopped : isStopped w.sys = true := flag.trans (Option.isSome_iff_ne_none.mpr raised)
      have inactive : ¬w.active k := fun active => by
        obtain ⟨q, there', read⟩ := h.active k active
        cases there.symm.trans there'
        exact read trivial
      refine ⟨_, mine, ?_, idle (.inl trivial) inactive⟩
      rw [World.advance, stopped]
      exact trivial
  · by_cases own : k = n
    · subst own
      refine ⟨_, mine, fun unread => ?_⟩
      have before := unread_advance w k t unread
      rcases active with active | ⟨-, changed⟩
      · obtain ⟨q, there', read⟩ := h.active k active
        cases there.symm.trans there'
        exact read before
      · exact changed (sys_advance w k t (.inl before))
    · rcases active with active | ⟨same, -⟩
      · obtain ⟨q, there', read⟩ := h.active k active
        exact ⟨q, (others own).trans there', read⟩
      · exact absurd same own

end Punctual

theorem World.Run.punctual (run : w.Run w') (begins : w.Begins) : Punctual w' := by
  refine run.keeps (motive := Punctual) ?_ (fun _ h unused _ => h.begin unused _ _)
    (fun run h _ there => h.step (run.recorded begins).flag _ _ there) fun _ h _ => ⟨h.late, h.active⟩
  rw [begins.world]
  exact ⟨fun _ => False.elim, fun _ => False.elim⟩

/-! ## 6. Completeness -/

/-- What a shutdown leaves behind. -/
structure Complete (w : World κ) (sched : Scheduler) : Prop where
  /-- The table is empty. -/
  table : sched.tasks.entries = []
  /-- No level of any group has a routine. -/
  queues : ∀ g ∈ sched.roster.refs, ∀ l, (w.sys.group g).queue l = []
  /-- Every routine whose dispatch returned true is stopped. -/
  dispatched : ∀ n c r, w.calls n = some c → c.purpose = .dispatch r → c.phase = .returned true →
    (w.sys.routine r).stopped = true
  /-- Every dispatch that read the flag after it was raised returned false and has changed nothing. -/
  late : ∀ n, w.late n → w.phase? n = some (.returned false) ∧ ¬w.active n

/-- When the stop flag is up and all calls have returned, the shutdown is complete. -/
theorem shutdown_complete (begins : w.Begins) (run : w.Run w') (stopped : isStopped w'.sys = true)
    (rest : w'.AtRest) : ∃ sched, w'.sys.scheduler = some sched ∧ Complete w' sched := by
  obtain ⟨sched, queued, ledger⟩ := run.ledger begins
  have recorded := run.recorded begins
  obtain ⟨k, raised⟩ := Option.isSome_iff_exists.mp (recorded.flag.symm.trans stopped)
  -- The shutdown has returned, so nothing is live.
  have dead : ∀ i, sched.tasks.find? i = none := by
    intro i
    obtain ⟨p, there, sweeps⟩ := run.sweeps begins k raised
    obtain ⟨ok, rfl⟩ := rest k p there
    cases ok with
    | true =>
      have none := Bool.not_eq_true _ ▸ sweeps i
      rw [task?_eq ledger.scheduler] at none
      exact Option.isNone_iff_eq_none.mp (Option.isSome_eq_false_iff.mp none)
    | false => exact sweeps.elim
  have nobody : ∀ i n p, w'.phase? n = some p → p.holds? ≠ some i := by
    rintro i n p there holding
    obtain ⟨ok, rfl⟩ := rest n p there
    cases holding
  refine ⟨sched, ledger.scheduler, ?_, fun g hg l => ?_, fun n c r called dispatch returned => ?_,
    fun n late => ?_⟩
  · refine List.eq_nil_iff_forall_not_mem.mpr fun entry mem => ?_
    exact absurd ((TaskTable.mem_entries_iff ledger.nodup).mp mem) (dead entry.1 ▸ nofun)
  · refine List.eq_nil_iff_forall_not_mem.mpr fun r mem => ?_
    have found := ledger.agree.find?_of_mem hg mem
    rw [(ledger.free _ (nobody _)).1, dead] at found
    cases found
  · have claimed : c.Claimed r := ⟨dispatch, returned ▸ rfl⟩
    rcases run.cared begins n c r called claimed with stopped | found | ⟨k', id, e, m, there⟩
    · exact stopped
    · rw [task?_eq ledger.scheduler, dead] at found
      cases found
    · obtain ⟨ok, same⟩ := rest k' _ there
      cases same
  · obtain ⟨p, there, refused, inactive⟩ := (run.punctual begins).late n late
    obtain ⟨ok, rfl⟩ := rest n p there
    cases ok with
    | false => exact ⟨there, inactive⟩
    | true => exact refused.elim

/-- The first of the twins is dispatched, a shutdown follows before the second one, and the id is removed in
between. -/
def closed : World Script :=
  ((((twins.perform (.begin 0 .main (.dispatch 0))).perform (.begin 1 .main (.dispatch 1))).perform
    (.begin 2 .main .shutdown)).perform (.begin 3 .main (.remove 7))).steps
      (List.replicate 14 0 ++ List.replicate 5 2 ++ List.replicate 4 1 ++ List.replicate 12 3 ++
        List.replicate 6 2)

theorem run_closed : twins.Run closed := by
  have first := (World.Run.refl twins).step (.begin 0 .main (.dispatch 0)) (show 0 < 2 from Nat.two_pos)
  have second := first.step (.begin 1 .main (.dispatch 1)) (show 1 < 2 from Nat.one_lt_two)
  have third := second.step (.begin 2 .main .shutdown) trivial
  exact (third.step (.begin 3 .main (.remove 7)) trivial).steps _

/-- A call that has not begun takes no steps. -/
theorem World.calls_steps (ns : List Nat) (unused : w.calls n = none) : (w.steps ns).calls n = none := by
  induction ns generalizing w with
  | nil => exact unused
  | cons k ns ih =>
    refine ih ?_
    simp only [World.perform]
    split
    · exact unused
    · next c called =>
      have other : n ≠ k := by
        rintro rfl
        rw [unused] at called
        cases called
      exact (if_neg other).trans unused

theorem atRest_closed : closed.AtRest := by
  have returned : closed.phase? 0 = some (.returned true) ∧ closed.phase? 1 = some (.returned false) ∧
      closed.phase? 2 = some (.returned true) ∧ closed.phase? 3 = some (.returned true) :=
    ⟨rfl, rfl, rfl, rfl⟩
  rintro (_ | _ | _ | _ | k) p there
  · exact ⟨_, Option.some.inj (there.symm.trans returned.1)⟩
  · exact ⟨_, Option.some.inj (there.symm.trans returned.2.1)⟩
  · exact ⟨_, Option.some.inj (there.symm.trans returned.2.2.1)⟩
  · exact ⟨_, Option.some.inj (there.symm.trans returned.2.2.2)⟩
  · have unused : closed.calls (k + 4) = none := World.calls_steps _ rfl
    rw [World.phase?, unused] at there
    cases there

/-- The removal is before the shutdown at the mutex, and the second dispatch comes late. -/
theorem complete_closed :
    closed.turns = [⟨0, 7, .dispatch, true⟩, ⟨3, 7, .remove, true⟩, ⟨2, 7, .remove, false⟩] ∧
      closed.phase? 1 = some (.returned false) ∧
      ∃ sched, closed.sys.scheduler = some sched ∧ Complete closed sched :=
  ⟨rfl, rfl, shutdown_complete begins_twins run_closed rfl atRest_closed⟩

end CoopSched.Lifecycle
