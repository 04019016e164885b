import CoopSched.Proofs.Directory
import CoopSched.Proofs.Lifecycle.Machine
/-!
# Who has which lock

`Guarded` says which locks the calls have at their phases. Every run keeps it (`World.Run.guarded`).
It follows that

* all mutexes that were ever given out for an id are the same one (`Guarded.same_mutex`);
* at most one call at a time works on an id (`Guarded.alone`);
* no dispatch is past the lifecycle lock while a shutdown has it (`Guarded.unshared`).
-/

namespace CoopSched.Lifecycle

open CoopSched.System (Stage)

variable {κ : Type} {n : Nat} {id : UInt64} {k : IdLocks}

/-! ## 1. The search for a mutex -/

/-- What a call knows about the directory at a step of its search. -/
def Finding.Knows (k : IdLocks) (n : Nat) (id : UInt64) : Finding → Prop
  | .looking | .waiting => True
  | .lookingAgain => k.maker = some n
  | .making => k.maker = some n ∧ k.directory.get? id = none
  | .leaving m => k.maker = some n ∧ k.directory.get? id = some m

namespace IdLocks

/-- What a call knows after a step of its search. -/
def Knows (k : IdLocks) (n : Nat) (id : UInt64) : Finding ⊕ Nat → Prop
  | .inl next => next.Knows k n id
  | .inr m => k.directory.get? id = some m

theorem knows_find {step : Finding} (knows : step.Knows k n id) :
    (k.find n id step).1.Knows n id (k.find n id step).2 := by
  cases step with
  | looking =>
    simp only [find]
    cases found : k.directory.get? id with
    | none => exact trivial
    | some m => exact found
  | waiting =>
    simp only [find]
    cases k.maker with
    | none => exact rfl
    | some _ => exact trivial
  | lookingAgain =>
    simp only [find]
    cases found : k.directory.get? id with
    | none => exact ⟨knows, found⟩
    | some m => exact ⟨knows, found⟩
  | making => exact ⟨knows.1, (Directory.get?_set ..).trans (if_pos rfl)⟩
  | leaving m => exact knows.2

/-- A mutex that stands in the directory stays there. -/
theorem get?_find {step : Finding} (knows : step.Knows k n id) {other : UInt64} {m : Nat}
    (found : k.directory.get? other = some m) :
    (k.find n id step).1.directory.get? other = some m := by
  cases step with
  | looking =>
    simp only [find]
    split <;> exact found
  | waiting =>
    simp only [find]
    split <;> exact found
  | lookingAgain =>
    simp only [find]
    split <;> exact found
  | making =>
    have missing : other ≠ id := by
      rintro rfl
      exact absurd (knows.2.symm.trans found) nofun
    exact (Directory.get?_set ..).trans ((if_neg missing).trans found)
  | leaving m => exact found

/-- While another call has the creation lock, a search changes nothing. -/
theorem find_of_maker {step : Finding} (knows : step.Knows k n id) {other : Nat}
    (maker : k.maker = some other) (ne : other ≠ n) : (k.find n id step).1 = k := by
  have own : k.maker ≠ some n := fun own => ne (Option.some.inj (maker.symm.trans own))
  cases step with
  | looking =>
    simp only [find]
    split <;> rfl
  | waiting => simp only [find, maker]
  | lookingAgain => exact absurd knows own
  | making => exact absurd knows.1 own
  | leaving m => exact absurd knows.1 own

end IdLocks

/-! ## 2. What a call has -/

namespace Phase

/-- What a call at a phase knows about mutexes. -/
def Keys (k : IdLocks) (owners : Nat → Option Nat) (n : Nat) : Phase → Prop
  | .finding id _ step => step.Knows k n id
  | .locking id _ m => k.directory.get? id = some m
  | .inside id _ m _ | .unlocking id _ m _ => k.directory.get? id = some m ∧ owners m = some n
  | _ => True

/-- The id whose mutex the call has. -/
def holds? : Phase → Option UInt64
  | .inside id _ _ _ | .unlocking id _ _ _ => some id
  | _ => none

/-- The level whose lock the call has. -/
def level? : Phase → Option (GroupRef × Priority)
  | .inside _ _ _ stage => stage.level?
  | _ => none

/-- Does the call share the lifecycle lock? -/
def Shares : Phase → Prop
  | .checking _ | .leaving _ => True
  | .finding _ e _ | .locking _ e _ | .inside _ e _ _ | .unlocking _ e _ _ => e.deed = .dispatch
  | _ => False

/-- Does the call have the lifecycle lock for itself? -/
def Excludes : Phase → Prop
  | .raising | .opening _ => True
  | _ => False

/-- What a call has at a phase. -/
structure Has (w : World κ) (n : Nat) (p : Phase) : Prop where
  keys : p.Keys w.locks w.owners n
  level : ∀ g l, p.level? = some (g, l) → w.levels g l = some n
  shares : p.Shares → n ∈ w.sharing
  excludes : p.Excludes → w.exclusive = some n

/-- A phase at which a call has no lock. -/
def Idle : Phase → Prop
  | .joining _ | .finding _ .remove .looking | .finding _ (.sweep _) .looking | .excluding
  | .silencing | .listing | .ending | .returned _ => True
  | _ => False

theorem Idle.has {p : Phase} (idle : p.Idle) (w : World κ) (n : Nat) : p.Has w n := by
  cases p with
  | finding id e step =>
    cases e with
    | dispatch r => cases step <;> exact False.elim idle
    | remove =>
      cases step with
      | looking => exact ⟨trivial, nofun, nofun, nofun⟩
      | _ => exact False.elim idle
    | sweep rest =>
      cases step with
      | looking => exact ⟨trivial, nofun, nofun, nofun⟩
      | _ => exact False.elim idle
  | joining r => exact ⟨trivial, nofun, nofun, nofun⟩
  | excluding => exact ⟨trivial, nofun, nofun, nofun⟩
  | silencing => exact ⟨trivial, nofun, nofun, nofun⟩
  | listing => exact ⟨trivial, nofun, nofun, nofun⟩
  | ending => exact ⟨trivial, nofun, nofun, nofun⟩
  | returned ok => exact ⟨trivial, nofun, nofun, nofun⟩
  | _ => exact False.elim idle

theorem idle_sweep (ids : List UInt64) : (Phase.sweep ids).Idle := by
  cases ids <;> exact trivial

theorem idle_start (purpose : Purpose) : purpose.start.Idle := by
  cases purpose <;> exact trivial

end Phase

/-- Every call has what its phase asks for, the mutexes that were given out stand in the directory, and the
lifecycle lock is not both shared and had alone. -/
structure Guarded (w : World κ) : Prop where
  calls : ∀ n p, w.phase? n = some p → p.Has w n
  issued : ∀ id m, (id, m) ∈ w.issued → w.locks.directory.get? id = some m
  apart : w.exclusive ≠ none → w.sharing = []

namespace Guarded

variable {w : World κ}

/-- All mutexes that were given out for an id are the same. -/
theorem same_mutex (h : Guarded w) {m m' : Nat} (first : (id, m) ∈ w.issued)
    (second : (id, m') ∈ w.issued) : m = m' :=
  Option.some.inj ((h.issued id m first).symm.trans (h.issued id m' second))

/-- A call that has the mutex of an id owns the mutex that stands in the directory. -/
theorem owner (h : Guarded w) {p : Phase} (there : w.phase? n = some p) (holds : p.holds? = some id) :
    ∃ m, w.locks.directory.get? id = some m ∧ w.owners m = some n := by
  have keys := (h.calls n p there).keys
  cases p with
  | inside id' e m stage =>
    cases holds
    exact ⟨m, keys⟩
  | unlocking id' e m ok =>
    cases holds
    exact ⟨m, keys⟩
  | _ => cases holds

/-- At most one call has the mutex of an id. -/
theorem alone (h : Guarded w) {n' : Nat} {p p' : Phase} (there : w.phase? n = some p)
    (there' : w.phase? n' = some p') (holds : p.holds? = some id) (holds' : p'.holds? = some id) :
    n = n' := by
  obtain ⟨m, found, owner⟩ := h.owner there holds
  obtain ⟨m', found', owner'⟩ := h.owner there' holds'
  cases found.symm.trans found'
  exact Option.some.inj (owner.symm.trans owner')

/-- While a call has the lifecycle lock for itself, nobody shares it. -/
theorem unshared (h : Guarded w) {n' : Nat} {p p' : Phase} (there : w.phase? n = some p)
    (there' : w.phase? n' = some p') (excludes : p.Excludes) : ¬p'.Shares := by
  intro shares
  have taken := (h.calls n p there).excludes excludes
  have empty := h.apart (taken ▸ nofun)
  exact absurd ((h.calls n' p' there').shares shares) (empty ▸ nofun)

end Guarded

/-! ## 3. One step -/

namespace World

variable (w : World κ) (n : Nat) (t : Thread) (e : Errand) (m : Nat)

/-- The phase after a step of the work on an id. -/
def proceed (id : UInt64) (e : Errand) (m : Nat) (outcome : Stage ⊕ Bool) : Phase :=
  outcome.elim (.inside id e m) (.unlocking id e m)

/-- The level whose lock a call has after a step of its work on an id. -/
def levelAfter (outcome : Stage ⊕ Bool) : Option (GroupRef × Priority) :=
  outcome.elim Stage.level? fun _ => none

/-- A call that works on an id waits, or takes a step for which the lock of the level is free. -/
theorem attend_cases (id : UInt64) (stage : Stage) :
    w.attend n t id e m stage = (w, .inside id e m stage) ∨
    ∃ sched, w.sys.scheduler = some sched ∧
      (∀ g l, stage.needs? w.sys sched = some (g, l) → w.levels g l = none) ∧
      w.attend n t id e m stage =
        ({ w with
            sys := (w.sys.attend t sched id stage).1
            levels := w.relock n stage.level? (levelAfter (w.sys.attend t sched id stage).2) },
          proceed id e m (w.sys.attend t sched id stage).2) := by
  unfold attend
  split
  · exact .inl rfl
  · next sched hs =>
    split
    · exact .inl rfl
    · next free =>
      refine .inr ⟨sched, hs, fun g l needs => ?_, ?_⟩
      · rw [needs] at free
        exact Option.not_isSome_iff_eq_none.mp free
      · rcases w.sys.attend t sched id stage with ⟨sys, next | ok⟩ <;> rfl

theorem find_eq (id : UInt64) (step : Finding) :
    ∃ issued, (∀ im ∈ issued, im ∈ w.issued ∨ ∃ m, (w.locks.find n id step).2 = .inr m ∧ im = (id, m)) ∧
      w.find n id e step = ({ w with locks := (w.locks.find n id step).1, issued },
        (w.locks.find n id step).2.elim (.finding id e) (.locking id e)) := by
  unfold find
  rcases w.locks.find n id step with ⟨locks, next | m⟩
  · exact ⟨w.issued, fun _ => .inl, rfl⟩
  · refine ⟨(id, m) :: w.issued, fun im mem => ?_, rfl⟩
    rcases List.mem_cons.mp mem with rfl | mem
    · exact .inr ⟨m, rfl, rfl⟩
    · exact .inl mem

end World

/-- A call that comes to a level's lock had it or needed it. -/
theorem level?_attend (s : System κ) (t : Thread) (sched : Scheduler) (id : UInt64) (stage : Stage)
    {place : GroupRef × Priority} (level : World.levelAfter (s.attend t sched id stage).2 = some place) :
    stage.level? = some place ∨ stage.needs? s sched = some place := by
  cases stage with
  | claiming r =>
    revert level
    simp only [System.attend]
    split <;> rintro ⟨⟩
  | erasing =>
    revert level
    simp only [System.attend]
    split <;> rintro ⟨⟩
  | seeking r => exact .inr level
  | unlinking g l r step =>
    revert level
    simp only [System.attend]
    split <;> exact .inl
  | _ => cases level

theorem Phase.Keys.find {owners : Nat → Option Nat} {j : Nat} {p : Phase} (h : p.Keys k owners j)
    {step : Finding} (knows : step.Knows k n id) (ne : j ≠ n) :
    p.Keys (k.find n id step).1 owners j := by
  have kept : ∀ {other m}, k.directory.get? other = some m →
      (k.find n id step).1.directory.get? other = some m := IdLocks.get?_find knows
  have same : k.maker = some j → (k.find n id step).1 = k := fun maker =>
    IdLocks.find_of_maker knows maker ne
  cases p with
  | finding id' e step' =>
    cases step' with
    | lookingAgain => exact (same h).symm ▸ h
    | making => exact (same h.1).symm ▸ h
    | leaving m => exact (same h.1).symm ▸ h
    | _ => exact trivial
  | locking id' e m => exact kept h
  | inside id' e m stage => exact ⟨kept h.1, h.2⟩
  | unlocking id' e m ok => exact ⟨kept h.1, h.2⟩
  | _ => exact trivial

theorem Phase.Keys.owners {owners owners' : Nat → Option Nat} {p : Phase} (h : p.Keys k owners n)
    (same : ∀ m, owners m = some n → owners' m = some n) : p.Keys k owners' n := by
  cases p with
  | inside id' e m stage => exact ⟨h.1, same m h.2⟩
  | unlocking id' e m ok => exact ⟨h.1, same m h.2⟩
  | _ => exact h

/-- A level whose lock another call has keeps it. -/
theorem World.relock_other (w : World κ) {old new needs : Option (GroupRef × Priority)}
    (own : ∀ g l, old = some (g, l) → w.levels g l = some n)
    (comes : ∀ {place}, new = some place → old = some place ∨ needs = some place)
    (free : ∀ g l, needs = some (g, l) → w.levels g l = none) {j : Nat} {g : GroupRef} {l : Priority}
    (taken : w.levels g l = some j) (ne : j ≠ n) : w.relock n old new g l = some j := by
  have mine : old ≠ some (g, l) := fun same =>
    ne (Option.some.inj (taken.symm.trans (own g l same)))
  have theirs : new ≠ some (g, l) := by
    intro same
    rcases comes same with same | same
    · exact mine same
    · exact absurd (free g l same) (taken ▸ nofun)
  rw [relock, if_neg theirs, if_neg mine, taken]

namespace Phase.Has

variable {w : World κ} {t : Thread} {p : Phase}

/-- After its step a call has what its new phase asks for. -/
theorem advance (h : p.Has w n) : (w.advance n t p).2.Has (w.advance n t p).1 n := by
  cases p with
  | joining r =>
    simp only [World.advance]
    split
    · exact ⟨trivial, nofun, fun _ => List.mem_cons_self, nofun⟩
    · exact h
  | checking r =>
    have shared : n ∈ w.sharing := h.shares trivial
    simp only [World.advance]
    split
    · exact ⟨trivial, nofun, fun _ => shared, nofun⟩
    · exact ⟨trivial, nofun, fun _ => shared, nofun⟩
  | finding id e step =>
    obtain ⟨issued, -, found⟩ := w.find_eq n e id step
    have knows := IdLocks.knows_find (h.keys : step.Knows w.locks n id)
    simp only [World.advance, found]
    rcases outcome : w.locks.find n id step with ⟨locks, next | m⟩
    · rw [outcome] at knows
      exact ⟨knows, nofun, h.shares, nofun⟩
    · rw [outcome] at knows
      exact ⟨knows, nofun, h.shares, nofun⟩
  | locking id e m =>
    simp only [World.advance]
    split
    · refine ⟨⟨h.keys, if_pos rfl⟩, ?_, h.shares, nofun⟩
      cases e <;> exact nofun
    · exact h
  | inside id e m stage =>
    rcases w.attend_cases n t e m id stage with waits | ⟨sched, hs, free, stepped⟩
    · simp only [World.advance, waits]
      exact h
    · simp only [World.advance, stepped]
      rcases outcome : w.sys.attend t sched id stage with ⟨sys, next | ok⟩
      · exact ⟨h.keys, fun g l level => if_pos level, h.shares, nofun⟩
      · exact ⟨h.keys, nofun, h.shares, nofun⟩
  | unlocking id e m ok =>
    have shares := h.shares
    simp only [World.advance]
    cases e with
    | dispatch r => exact ⟨trivial, nofun, fun _ => shares rfl, nofun⟩
    | remove => exact Idle.has (p := .returned ok) trivial _ n
    | sweep rest => exact (idle_sweep rest).has _ n
  | leaving ok => exact Idle.has (p := .returned ok) trivial _ n
  | excluding =>
    simp only [World.advance]
    split
    · exact ⟨trivial, nofun, nofun, fun _ => rfl⟩
    · exact h
  | raising =>
    have excludes := h.excludes trivial
    simp only [World.advance]
    split
    · exact ⟨trivial, nofun, nofun, fun _ => excludes⟩
    · exact ⟨trivial, nofun, nofun, fun _ => excludes⟩
  | opening first =>
    simp only [World.advance]
    split
    · exact Idle.has (p := .silencing) trivial _ n
    · exact Idle.has (p := .returned false) trivial _ n
  | silencing => exact Idle.has (p := .listing) trivial _ n
  | listing => exact (idle_sweep (idsOf w.sys)).has _ n
  | ending => exact Idle.has (p := .returned true) trivial _ n
  | returned ok => exact h

/-- The step of a call takes nothing away from another call. -/
theorem advance_other (own : p.Has w n) {k : Nat} {q : Phase} (h : q.Has w k) (ne : k ≠ n) :
    q.Has (w.advance n t p).1 k := by
  cases p with
  | joining r =>
    simp only [World.advance]
    split
    · exact ⟨h.keys, h.level, fun shares => List.mem_cons_of_mem n (h.shares shares), h.excludes⟩
    · exact h
  | finding id e step =>
    obtain ⟨issued, -, found⟩ := w.find_eq n e id step
    simp only [World.advance, found]
    exact ⟨h.keys.find own.keys ne, h.level, h.shares, h.excludes⟩
  | locking id e m =>
    simp only [World.advance]
    split
    · next free =>
      refine ⟨h.keys.owners fun m' mine => ?_, h.level, h.shares, h.excludes⟩
      have other : m' ≠ m := by
        rintro rfl
        exact absurd (mine.symm.trans free) nofun
      exact (if_neg other).trans mine
    · exact h
  | inside id e m stage =>
    rcases w.attend_cases n t e m id stage with waits | ⟨sched, hs, free, stepped⟩
    · simp only [World.advance, waits]
      exact h
    · simp only [World.advance, stepped]
      refine ⟨h.keys, fun g l level => ?_, h.shares, h.excludes⟩
      exact w.relock_other own.level (level?_attend w.sys t sched id stage) free (h.level g l level) ne
  | unlocking id e m ok =>
    refine ⟨h.keys.owners fun m' mine => ?_, h.level, h.shares, h.excludes⟩
    have other : m' ≠ m := by
      rintro rfl
      exact ne (Option.some.inj (mine.symm.trans own.keys.2))
    exact (if_neg other).trans mine
  | leaving ok =>
    exact ⟨h.keys, h.level, fun shares => (List.mem_erase_of_ne ne).mpr (h.shares shares), h.excludes⟩
  | excluding =>
    simp only [World.advance]
    split
    · next free =>
      exact ⟨h.keys, h.level, h.shares, fun excludes => absurd (h.excludes excludes) (free.2 ▸ nofun)⟩
    · exact h
  | raising =>
    simp only [World.advance]
    split <;> exact ⟨h.keys, h.level, h.shares, h.excludes⟩
  | opening first =>
    have mine := own.excludes trivial
    refine ⟨h.keys, h.level, h.shares, fun excludes => absurd ?_ ne⟩
    exact Option.some.inj ((h.excludes excludes).symm.trans mine)
  | _ => exact ⟨h.keys, h.level, h.shares, h.excludes⟩

/-- What happens elsewhere takes no lock away. -/
theorem elsewhere (h : p.Has w n) (s : System κ) : p.Has { w with sys := s } n :=
  ⟨h.keys, h.level, h.shares, h.excludes⟩

end Phase.Has

/-! ## 4. Runs -/

namespace World

variable (w : World κ)

theorem phase?_tread (w' : World κ) (n : Nat) (c : Call) (p : Phase) (j : Nat) :
    (w.tread w' n c p).phase? j = if j = n then some p else w.phase? j := by
  simp only [phase?, tread, put]
  split <;> rfl

theorem phase?_put (n : Nat) (c : Call) (j : Nat) :
    (w.put n c).phase? j = if j = n then some c.phase else w.phase? j := by
  simp only [phase?, put]
  split <;> rfl

theorem phase?_eq_some {n : Nat} {p : Phase} :
    w.phase? n = some p ↔ ∃ c, w.calls n = some c ∧ c.phase = p := by
  rw [phase?, Option.map_eq_some_iff]

/-- What holds in the beginning holds in every run, if a call that begins, a step of a call, and what happens
elsewhere keep it. -/
theorem Run.keeps {w w' : World κ} {motive : World κ → Prop} (run : w.Run w') (start : motive w)
    (begin : ∀ {v n token purpose}, w.Run v → motive v → v.calls n = none →
      v.Allowed (.begin n token purpose) → motive (v.put n ⟨token, purpose, purpose.start⟩))
    (step : ∀ {v n c}, w.Run v → motive v → v.calls n = some c → v.phase? n = some c.phase →
      motive (v.tread (v.advance n c.token c.phase).1 n c (v.advance n c.token c.phase).2))
    (elsewhere : ∀ {v s}, w.Run v → motive v → Spares v.sys s → motive { v with sys := s }) :
    motive w' := by
  induction run with
  | refl => exact start
  | @step v run a allowed ih =>
    cases a with
    | begin n token purpose =>
      cases unused : v.calls n with
      | none =>
        simp only [perform, unused]
        exact begin run ih unused allowed
      | some c =>
        simp only [perform, unused]
        exact ih
    | step n =>
      cases called : v.calls n with
      | none =>
        simp only [perform, called]
        exact ih
      | some c =>
        simp only [perform, called]
        exact step run ih called (v.phase?_eq_some.mpr ⟨c, called, rfl⟩)
    | elsewhere s => exact elsewhere run ih allowed

end World

namespace Guarded

variable {w : World κ}

theorem issued_advance (h : Guarded w) (n : Nat) (t : Thread) {p : Phase} (there : w.phase? n = some p)
    {id : UInt64} {m : Nat} (mem : (id, m) ∈ (w.advance n t p).1.issued) :
    (w.advance n t p).1.locks.directory.get? id = some m := by
  have has := h.calls n p there
  cases p with
  | finding id' e step =>
    have knows := IdLocks.knows_find (has.keys : step.Knows w.locks n id')
    obtain ⟨issued, new, found⟩ := w.find_eq n e id' step
    simp only [World.advance, found] at mem ⊢
    rcases new _ mem with old | ⟨m', outcome, same⟩
    · exact IdLocks.get?_find has.keys (h.issued id m old)
    · cases same
      rw [outcome] at knows
      exact knows
  | inside id' e m' stage =>
    rcases w.attend_cases n t e m' id' stage with waits | ⟨sched, -, -, stepped⟩
    · simp only [World.advance, waits] at mem ⊢
      exact h.issued id m mem
    · simp only [World.advance, stepped] at mem ⊢
      exact h.issued id m mem
  | _ =>
    revert mem
    simp only [World.advance]
    (repeat' split) <;> exact h.issued id m

theorem apart_advance (h : Guarded w) (n : Nat) (t : Thread) {p : Phase} (there : w.phase? n = some p)
    (taken : (w.advance n t p).1.exclusive ≠ none) : (w.advance n t p).1.sharing = [] := by
  cases p with
  | joining r =>
    revert taken
    simp only [World.advance]
    split
    · next free => exact fun taken => absurd free taken
    · exact h.apart
  | finding id e step =>
    obtain ⟨issued, -, found⟩ := w.find_eq n e id step
    simp only [World.advance, found] at taken ⊢
    exact h.apart taken
  | inside id e m stage =>
    rcases w.attend_cases n t e m id stage with waits | ⟨sched, -, -, stepped⟩
    · simp only [World.advance, waits] at taken ⊢
      exact h.apart taken
    · simp only [World.advance, stepped] at taken ⊢
      exact h.apart taken
  | leaving ok =>
    have empty := h.apart taken
    show w.sharing.erase n = []
    rw [empty]
    rfl
  | excluding =>
    revert taken
    simp only [World.advance]
    split
    · next free => exact fun _ => free.1
    · exact h.apart
  | opening first => exact absurd rfl taken
  | _ =>
    revert taken
    simp only [World.advance]
    (repeat' split) <;> exact h.apart

theorem begins (begins : w.Begins) : Guarded w := by
  have world := begins.world
  refine ⟨fun n p there => ?_, fun id m mem => ?_, fun taken => ?_⟩
  · rw [world] at there
    cases there
  · rw [world] at mem
    cases mem
  · rw [world]

theorem begin (h : Guarded w) (n : Nat) (token : Thread) (purpose : Purpose) :
    Guarded (w.put n ⟨token, purpose, purpose.start⟩) := by
  refine ⟨fun j p there => ?_, h.issued, h.apart⟩
  rw [World.phase?_put] at there
  split at there
  · cases there
    exact (Phase.idle_start purpose).has _ j
  · have has := h.calls j p there
    exact ⟨has.keys, has.level, has.shares, has.excludes⟩

theorem step (h : Guarded w) (t : Thread) (c : Call) {p : Phase} (there : w.phase? n = some p) :
    Guarded (w.tread (w.advance n t p).1 n c (w.advance n t p).2) := by
  refine ⟨fun j q there' => ?_, fun id m => h.issued_advance n t there, h.apart_advance n t there⟩
  rw [World.phase?_tread] at there'
  split at there'
  · next same =>
    subst same
    cases there'
    have has := (h.calls j p there).advance (t := t)
    exact ⟨has.keys, has.level, has.shares, has.excludes⟩
  · next ne =>
    have has := (h.calls n p there).advance_other (t := t) (h.calls j q there') ne
    exact ⟨has.keys, has.level, has.shares, has.excludes⟩

end Guarded

/-- In every run the calls have the locks that their phases ask for. -/
theorem World.Run.guarded {w w' : World κ} (run : w.Run w') (begins : w.Begins) : Guarded w' :=
  run.keeps (.begins begins) (fun _ h _ _ => h.begin _ _ _) (fun _ h _ there => h.step _ _ there)
    fun _ h _ => ⟨fun n p there => (h.calls n p there).elsewhere _, h.issued, h.apart⟩

end CoopSched.Lifecycle
