import CoopSched.Proofs.Lifecycle.Locks
import CoopSched.Proofs.Lifecycle.Stages
/-!
# The tables in the middle of calls

`Ledger` says what the table of the scheduler and the table of the queues know of every id, whoever works on
it: about an id that nobody works on they agree, and it is live exactly if its last turn was a dispatch. The
stage of a call that works on an id fits the tables (`Stage.Fits`).

A step of one call does not disturb the others (`Phase.Fits.mono`), because no two calls work on the same id
(`Guarded.alone`) and no queue changes whose lock somebody else has. So every run keeps the ledger
(`World.Run.ledger`).
-/

namespace CoopSched.Lifecycle

open CoopSched.System (Stage Resolved Agreed Consistent Keeps KeepsSlots Frame)

variable {κ : Type} {s s' : System κ} {sched : Scheduler} {queued : TaskTable} {was : UInt64 → Bool}
  {n : Nat} {t : Thread} {p : Phase}

/-- Is an id live after some turns? Its last turn has made it so, whether it succeeded or not. -/
def liveAfter (was : Bool) (id : UInt64) (turns : List Turn) : Bool :=
  turns.foldl (fun live turn => if turn.id = id then turn.deed.wants else live) was

theorem liveAfter_append (was : Bool) (id : UInt64) (turns : List Turn) (turn : Turn) :
    liveAfter was id (turns ++ [turn]) =
      if turn.id = id then turn.deed.wants else liveAfter was id turns := by
  rw [liveAfter, List.foldl_append]
  rfl

/-! ## 1. Changes that leave table and queues alone -/

/-- The table, the queues, and the ids and places of routines stay, and what is stopped stays stopped. -/
structure Quiet (s s' : System κ) : Prop where
  scheduler : ∃ f : Scheduler → Scheduler, s'.scheduler = s.scheduler.map f ∧
    ∀ x, (f x).roster = x.roster ∧ (f x).tasks = x.tasks
  slots : KeepsSlots s s'
  routines : Keeps Routine.placement s s'
  stopped : ∀ r, (s.routine r).stopped = true → (s'.routine r).stopped = true

namespace Quiet

theorem refl (s : System κ) : Quiet s s :=
  ⟨⟨id, by rw [Option.map_id, id_eq], fun _ => ⟨rfl, rfl⟩⟩, .refl s, .refl _ s, fun _ h => h⟩

theorem of_frame (frame : Frame (fun x : Routine κ => (x.placement, x.stopped)) s s') :
    Quiet s s' where
  scheduler := ⟨id, frame.scheduler.trans (by rw [Option.map_id, id_eq]), fun _ => ⟨rfl, rfl⟩⟩
  slots := frame.slots
  routines := ⟨frame.routines.size, fun r hr => congrArg Prod.fst (frame.routines.routine r hr)⟩
  stopped r h := (congrArg Prod.snd (frame.view_eq r)).trans h

theorem modifyScheduler (s : System κ) {f : Scheduler → Scheduler}
    (h : ∀ x, (f x).roster = x.roster ∧ (f x).tasks = x.tasks) : Quiet s (s.modifyScheduler f) :=
  ⟨⟨f, rfl, h⟩, .of_groups_eq rfl, .of_routines_eq rfl, fun _ h => h⟩

theorem trans {s'' : System κ} (h : Quiet s s') (h' : Quiet s' s'') : Quiet s s'' := by
  obtain ⟨f, hf, same⟩ := h.scheduler
  obtain ⟨f', hf', same'⟩ := h'.scheduler
  refine ⟨⟨f' ∘ f, ?_, fun x => ?_⟩, h.slots.trans h'.slots, h.routines.trans h'.routines,
    fun r stopped => h'.stopped r (h.stopped r stopped)⟩
  · rw [hf', hf, Option.map_map]
  · exact ⟨(same' (f x)).1.trans (same x).1, (same' (f x)).2.trans (same x).2⟩

theorem of_spares (h : Spares s s') : Quiet s s' := by
  obtain ⟨names, hs⟩ := h.scheduler
  exact ⟨⟨_, hs, fun _ => ⟨rfl, rfl⟩⟩, h.slots, h.routines, h.stopped⟩

theorem silenced (s : System κ) (t : Thread) (n : Notice) (processors : List Nat) :
    Quiet s ((s.report t n).stopServedGroups processors) :=
  .of_frame ((System.frame_report s t n).trans (System.frame_stopServedGroups _ processors))

theorem stopProcessors (s : System κ) (t : Thread) : Quiet s (stopProcessors s t) := by
  have emptied : Quiet s (s.modifyScheduler fun sched => { sched with processors := [] }) :=
    .modifyScheduler s fun _ => ⟨rfl, rfl⟩
  exact emptied.trans (.of_frame (.foldl (fun s p => System.frame_stopProcessor s t p) _ _))

end Quiet

/-! ## 2. What fits at a phase -/

/-- A dispatch on an id is one of a routine with this id. -/
def Errand.Owns (s : System κ) (id : UInt64) : Errand → Prop
  | .dispatch r => s.Owns id r
  | .remove | .sweep _ => True

/-- What holds while a call is at a phase. `was` says which ids were live before the turns that are not over
yet. -/
def Phase.Fits (s : System κ) (sched : Scheduler) (queued : TaskTable) (was : UInt64 → Bool) :
    Phase → Prop
  | .joining r | .checking r => r < s.routines.size
  | .finding id e _ | .locking id e _ => e.Owns s id
  | .inside id e _ stage => stage.Fits s sched queued id (was id) ∧ stage.deed = e.deed
  | .unlocking id e _ ok => Resolved sched queued id (was id) e.deed ok
  | _ => True

theorem Errand.Owns.mono {id : UInt64} {e : Errand} (owns : e.Owns s id)
    (size : s.routines.size ≤ s'.routines.size)
    (ids : ∀ r < s.routines.size, (s'.routine r).id = (s.routine r).id) : e.Owns s' id := by
  cases e with
  | dispatch r => exact ⟨Nat.lt_of_lt_of_le owns.1 size, (ids r owns.1).trans owns.2⟩
  | remove => exact trivial
  | sweep rest => exact trivial

/-- What others do does not disturb a call, if they leave alone the id that it works on and the queue of the
level whose lock it has. -/
theorem Phase.Fits.mono (fits : p.Fits s sched queued was) {sched' : Scheduler} {queued' : TaskTable}
    {was' : UInt64 → Bool} (agree : s.Consistent sched.roster queued)
    (size : s.routines.size ≤ s'.routines.size) (roster : sched'.roster = sched.roster)
    (ids : ∀ r < s.routines.size, (s'.routine r).id = (s.routine r).id)
    (places : ∀ id, p.holds? = some id → ∀ r < s.routines.size, (s.routine r).id = id →
      (s'.routine r).placement = (s.routine r).placement)
    (tasks : ∀ id, p.holds? = some id → sched'.tasks.find? id = sched.tasks.find? id)
    (queues : ∀ id, p.holds? = some id → queued'.find? id = queued.find? id)
    (lives : ∀ id, p.holds? = some id → was' id = was id)
    (queue : ∀ g l, p.level? = some (g, l) → (s'.group g).queue l = (s.group g).queue l) :
    p.Fits s' sched' queued' was' := by
  cases p with
  | joining r => exact Nat.lt_of_lt_of_le fits size
  | checking r => exact Nat.lt_of_lt_of_le fits size
  | finding id e step => exact fits.mono size ids
  | locking id e m => exact fits.mono size ids
  | inside id e m stage =>
    refine ⟨?_, fits.2⟩
    rw [lives id rfl]
    exact fits.1.mono agree size roster (places id rfl) (tasks id rfl) (queues id rfl) queue
  | unlocking id e m ok =>
    rw [Phase.Fits, Resolved, queues id rfl, tasks id rfl, lives id rfl, TaskTable.contains,
      tasks id rfl]
    exact fits
  | _ => exact trivial

theorem Phase.Fits.quiet (fits : p.Fits s sched queued was) (quiet : Quiet s s')
    {sched' : Scheduler} (roster : sched'.roster = sched.roster) (tasks : sched'.tasks = sched.tasks)
    (agree : s.Consistent sched.roster queued) : p.Fits s' sched' queued was :=
  fits.mono agree quiet.routines.size roster
    (fun r hr => congrArg Prod.fst (quiet.routines.routine r hr))
    (fun _ _ r hr _ => quiet.routines.routine r hr) (fun _ _ => by rw [tasks]) (fun _ _ => rfl)
    (fun _ _ => rfl) fun g l _ => quiet.slots.queue g l

/-! ## 3. The ledger -/

/-- `sched` is the scheduler, `queued` the table that the queues show, and `first` says which ids were live in
the beginning. -/
structure Ledger (first : UInt64 → Bool) (w : World κ) (sched : Scheduler) (queued : TaskTable) :
    Prop where
  scheduler : w.sys.scheduler = some sched
  agree : w.sys.Consistent sched.roster queued
  nodup : sched.tasks.ids.Nodup
  calls : ∀ n p, w.phase? n = some p →
    p.Fits w.sys sched queued fun id => liveAfter (first id) id w.turns
  free : ∀ id, (∀ n p, w.phase? n = some p → p.holds? ≠ some id) →
    Agreed sched queued id (liveAfter (first id) id w.turns)

namespace Ledger

variable {first : UInt64 → Bool} {w w' : World κ}

/-- The table, the queues and the turns stay, and at most one call comes to another phase. -/
theorem quiet (h : Ledger first w sched queued) (quiet : Quiet w.sys w'.sys)
    (turns : w'.turns = w.turns)
    (calls : ∀ k q, w'.phase? k = some q → w.phase? k = some q ∨
      q.Fits w.sys sched queued fun id => liveAfter (first id) id w.turns)
    (holds : ∀ k q id, w.phase? k = some q → q.holds? = some id →
      ∃ k' q', w'.phase? k' = some q' ∧ q'.holds? = some id) :
    ∃ sched', Ledger first w' sched' queued := by
  obtain ⟨f, scheduler, same⟩ := quiet.scheduler
  obtain ⟨roster, tasks⟩ := same sched
  refine ⟨f sched, ?_, ?_, ?_, fun k q there => ?_, fun id nobody => ?_⟩
  · rw [scheduler, h.scheduler, Option.map_some]
  · rw [roster]
    exact h.agree.of_keeps quiet.slots quiet.routines
  · rw [tasks]
    exact h.nodup
  · rw [turns]
    rcases calls k q there with old | new
    · exact (h.calls k q old).quiet quiet roster tasks h.agree
    · exact new.quiet quiet roster tasks h.agree
  · rw [Agreed, turns, tasks]
    refine h.free id fun k q there holding => ?_
    obtain ⟨k', q', there', holding'⟩ := holds k q id there holding
    exact nobody k' q' there' holding'

/-! ## 4. Steps -/

/-- A step of a call that has no mutex leaves table and queues alone. -/
theorem quiet_advance (w : World κ) (n : Nat) (t : Thread) (idle : p.holds? = none) :
    Quiet w.sys (w.advance n t p).1.sys ∧ (w.advance n t p).1.turns = w.turns := by
  cases p with
  | finding id e step =>
    obtain ⟨issued, -, found⟩ := w.find_eq n e id step
    rw [World.advance, found]
    exact ⟨.refl w.sys, rfl⟩
  | inside id e m stage => cases idle
  | unlocking id e m ok => cases idle
  | raising =>
    rw [World.advance]
    split
    · exact ⟨.refl w.sys, rfl⟩
    · exact ⟨.modifyScheduler w.sys fun _ => ⟨rfl, rfl⟩, rfl⟩
  | silencing => exact ⟨.silenced w.sys t _ _, rfl⟩
  | ending => exact ⟨.stopProcessors w.sys t, rfl⟩
  | _ =>
    rw [World.advance]
    (repeat' split) <;> exact ⟨.refl w.sys, rfl⟩

theorem fits_sweep (ids : List UInt64) : (Phase.sweep ids).Fits s sched queued was := by
  cases ids <;> exact trivial

/-- It comes to a phase that fits. One that takes the mutex of an id finds that the tables agree about it. -/
theorem fits_advance {w : World κ} (fits : p.Fits w.sys sched queued was) (idle : p.holds? = none)
    (free : ∀ id e m, p = .locking id e m → w.owners m = none → Agreed sched queued id (was id)) :
    (w.advance n t p).2.Fits w.sys sched queued was := by
  cases p with
  | joining r =>
    simp only [World.advance]
    split <;> exact fits
  | checking r =>
    simp only [World.advance]
    split
    · exact trivial
    · exact ⟨fits, rfl⟩
  | finding id e step =>
    obtain ⟨issued, -, found⟩ := w.find_eq n e id step
    simp only [World.advance, found]
    rcases w.locks.find n id step with ⟨locks, next | m⟩
    · exact fits
    · exact fits
  | locking id e m =>
    simp only [World.advance]
    split
    · next unowned =>
      have agreed := free id e m rfl unowned
      cases e with
      | dispatch r => exact ⟨⟨fits, agreed⟩, rfl⟩
      | remove => exact ⟨agreed, rfl⟩
      | sweep rest => exact ⟨agreed, rfl⟩
    · exact fits
  | inside id e m stage => cases idle
  | unlocking id e m ok => cases idle
  | listing => exact fits_sweep (idsOf w.sys)
  | _ =>
    simp only [World.advance]
    (repeat' split) <;> exact trivial

/-- The level whose queue a stage may change is one whose lock the call has or needs. -/
theorem touches?_cases {stage : Stage} {place : GroupRef × Priority}
    (touches : stage.touches? s = some place) :
    stage.level? = some place ∨ stage.needs? s sched = some place := by
  cases stage with
  | queueing g r => exact .inr touches
  | unlinking g l r step => exact .inl touches
  | _ => cases touches

theorem holds?_proceed (id : UInt64) (e : Errand) (m : Nat) (outcome : Stage ⊕ Bool) :
    (World.proceed id e m outcome).holds? = some id := by
  cases outcome <;> rfl

/-- A call that works on an id changes what the tables know of it, and nothing else. -/
theorem attend (h : Ledger first w sched queued) (guarded : Guarded w) {c : Call} {id : UInt64}
    {e : Errand} {m : Nat} {stage : Stage} (there : w.phase? n = some (.inside id e m stage)) :
    ∃ sched' queued', Ledger first (w.tread (w.attend n t id e m stage).1 n c
      (w.attend n t id e m stage).2) sched' queued' := by
  rcases w.attend_cases n t e m id stage with waits | ⟨sched', hs, free, stepped⟩
  · rw [waits]
    have kept : ∃ sched', Ledger first (w.tread w n c (.inside id e m stage)) sched' queued := by
      refine h.quiet (.refl w.sys) rfl (fun k q there' => ?_) fun k q id' there' holding => ?_
      · rw [World.phase?_tread] at there'
        split at there'
        · next same =>
          cases there'
          exact .inl (same ▸ there)
        · exact .inl there'
      · by_cases same : k = n
        · subst same
          cases there.symm.trans there'
          exact ⟨k, _, (World.phase?_tread ..).trans (if_pos rfl), holding⟩
        · exact ⟨k, q, (World.phase?_tread ..).trans ((if_neg same).trans there'), holding⟩
    exact kept.imp fun _ kept => ⟨queued, kept⟩
  · cases h.scheduler.symm.trans hs
    obtain ⟨fits, deed⟩ := h.calls n _ there
    obtain ⟨tasks', queued', works, next⟩ := System.attend_works (t := t) hs h.agree h.nodup fits
    rw [stepped]
    refine ⟨{ sched with tasks := tasks' }, queued', works.scheduler, works.consistent, works.nodup,
      fun k q there' => ?_, fun id' nobody => ?_⟩
    · rw [World.phase?_tread] at there'
      split at there'
      · cases there'
        revert next
        rcases (w.sys.attend t sched id stage).2 with following | ok
        · exact fun next => ⟨next.1, next.2.trans deed⟩
        · intro next
          rw [deed] at next
          exact next
      · next ne =>
        have apart : ∀ id', q.holds? = some id' → id' ≠ id := by
          rintro id' holding rfl
          exact ne (guarded.alone there' there holding rfl)
        refine (h.calls k q there').mono h.agree (Nat.le_of_eq works.size.symm) rfl
          (fun r _ => works.ids r)
          (fun id' holding r _ own => works.places r (own.symm ▸ apart id' holding))
          (fun id' holding => works.others id' (apart id' holding))
          (fun id' holding => works.othersQueued id' (apart id' holding)) (fun _ _ => rfl)
          fun g l level => works.queue g l fun touches => ?_
        -- The other call has the lock of the level, so this one neither has nor gets it.
        have taken := (guarded.calls k q there').level g l level
        rcases touches?_cases touches with mine | needed
        · exact ne (Option.some.inj (taken.symm.trans ((guarded.calls n _ there).level g l mine)))
        · exact absurd (taken.symm.trans (free g l needed)) nofun
    · have apart : id' ≠ id := by
        rintro rfl
        exact nobody n _ ((World.phase?_tread ..).trans (if_pos rfl)) (holds?_proceed id' e m _)
      have agreed := h.free id' fun k q there' holding => by
        by_cases same : k = n
        · subst same
          cases there.symm.trans there'
          exact apart (Option.some.inj holding).symm
        · exact nobody k q ((World.phase?_tread ..).trans ((if_neg same).trans there')) holding
      rw [Agreed, works.othersQueued id' apart, TaskTable.contains, works.others id' apart]
      exact agreed

/-- When a call gives the mutex of an id back, the tables agree about it, and the turn is over. -/
theorem unlock (h : Ledger first w sched queued) (guarded : Guarded w) {c : Call} {id : UInt64}
    {e : Errand} {m : Nat} {ok : Bool} (there : w.phase? n = some (.unlocking id e m ok))
    (sys : w'.sys = w.sys) (turns : w'.turns = w.turns ++ [⟨n, id, e.deed, ok⟩]) :
    Ledger first (w.tread w' n c (e.exit ok)) sched queued := by
  have resolved : Resolved sched queued id (liveAfter (first id) id w.turns) e.deed ok :=
    h.calls n _ there
  have others : ∀ id', id' ≠ id →
      liveAfter (first id') id' w'.turns = liveAfter (first id') id' w.turns := by
    intro id' ne
    rw [turns, liveAfter_append]
    exact if_neg ne.symm
  have own : liveAfter (first id) id w'.turns = e.deed.wants := by
    rw [turns, liveAfter_append]
    exact if_pos rfl
  refine ⟨sys ▸ h.scheduler, ?_, h.nodup, fun k q there' => ?_, fun id' nobody => ?_⟩
  · show w'.sys.Consistent _ _
    rw [sys]
    exact h.agree
  · show q.Fits w'.sys _ _ fun id => liveAfter (first id) id w'.turns
    rw [World.phase?_tread] at there'
    split at there'
    · cases there'
      cases e with
      | dispatch r => exact trivial
      | remove => exact trivial
      | sweep rest => exact fits_sweep rest
    · next ne =>
      rw [sys]
      refine (h.calls k q there').mono h.agree (Nat.le_refl _) rfl (fun _ _ => rfl)
        (fun _ _ _ _ _ => rfl) (fun _ _ => rfl) (fun _ _ => rfl) (fun id' holding => ?_)
        fun _ _ _ => rfl
      refine others id' ?_
      rintro rfl
      exact ne (guarded.alone there' there holding rfl)
  · show Agreed sched queued id' (liveAfter (first id') id' w'.turns)
    by_cases same : id' = id
    · subst same
      exact ⟨resolved.1, own.trans resolved.2.1.symm⟩
    · rw [others id' same]
      refine h.free id' fun k q there' holding => ?_
      by_cases mine : k = n
      · subst mine
        cases there.symm.trans there'
        exact same (Option.some.inj holding).symm
      · exact nobody k q ((World.phase?_tread ..).trans ((if_neg mine).trans there')) holding

/-- A call that is about to take a free mutex finds that the tables agree about the id. -/
theorem agreed_of_unowned (h : Ledger first w sched queued) (guarded : Guarded w) {id : UInt64}
    {e : Errand} {m : Nat} (there : w.phase? n = some (.locking id e m)) (unowned : w.owners m = none) :
    Agreed sched queued id (liveAfter (first id) id w.turns) := by
  refine h.free id fun k q there' holding => ?_
  obtain ⟨m', found, owner⟩ := guarded.owner there' holding
  cases found.symm.trans (guarded.calls n _ there).keys
  exact absurd (unowned.symm.trans owner) nofun

theorem step (h : Ledger first w sched queued) (guarded : Guarded w) (t : Thread) (c : Call)
    (there : w.phase? n = some p) :
    ∃ sched' queued', Ledger first (w.tread (w.advance n t p).1 n c (w.advance n t p).2)
      sched' queued' := by
  cases idle : p.holds? with
  | none =>
    obtain ⟨changed, turns⟩ := quiet_advance w n t idle
    have fits := fits_advance (n := n) (t := t) (h.calls n _ there) idle
      fun id e m locking unowned => h.agreed_of_unowned guarded (locking ▸ there) unowned
    have kept : ∃ sched', Ledger first (w.tread (w.advance n t p).1 n c (w.advance n t p).2)
        sched' queued := by
      refine h.quiet changed turns (fun k q there' => ?_) fun k q id there' holding => ?_
      · rw [World.phase?_tread] at there'
        split at there'
        · cases there'
          exact .inr fits
        · exact .inl there'
      · have other : k ≠ n := by
          rintro rfl
          cases there.symm.trans there'
          exact absurd (idle.symm.trans holding) nofun
        exact ⟨k, q, (World.phase?_tread ..).trans ((if_neg other).trans there'), holding⟩
    exact kept.imp fun _ kept => ⟨queued, kept⟩
  | some id =>
    cases p with
    | inside id' e m stage => exact h.attend guarded there
    | unlocking id' e m ok => exact ⟨sched, queued, h.unlock guarded there rfl rfl⟩
    | _ => exact nomatch idle

theorem begin (h : Ledger first w sched queued) {token : Thread} {purpose : Purpose}
    (unused : w.calls n = none) (allowed : w.Allowed (.begin n token purpose)) :
    ∃ sched', Ledger first (w.put n ⟨token, purpose, purpose.start⟩) sched' queued := by
  have nowhere : w.phase? n = none := by rw [World.phase?, unused, Option.map_none]
  refine h.quiet (.refl w.sys) rfl (fun k q there => ?_) fun k q id there holding => ?_
  · rw [World.phase?_put] at there
    split at there
    · cases there
      refine .inr ?_
      cases purpose with
      | dispatch r => exact allowed
      | remove id => exact trivial
      | shutdown => exact trivial
    · exact .inl there
  · have other : k ≠ n := by
      rintro rfl
      cases nowhere.symm.trans there
    exact ⟨k, q, (World.phase?_put ..).trans ((if_neg other).trans there), holding⟩

theorem elsewhere (h : Ledger first w sched queued) {s : System κ} (spares : Spares w.sys s) :
    ∃ sched', Ledger first { w with sys := s } sched' queued :=
  h.quiet (.of_spares spares) rfl (fun _ _ there => .inl there) fun k q _ there holding =>
    ⟨k, q, there, holding⟩

theorem begins (begins : w.Begins) :
    ∃ sched, Ledger (fun id => (w.sys.task? id).isSome) w sched sched.tasks := by
  obtain ⟨sched, hs, agree⟩ := begins.sound
  have fresh := begins.world
  refine ⟨sched, hs, agree, agree.nodup, fun n p there => ?_, fun id _ => ⟨rfl, ?_⟩⟩
  · rw [fresh] at there
    cases there
  · have turns : w.turns = [] := by rw [fresh]
    rw [turns, System.task?, hs]
    rfl

end Ledger

/-- In every run there are tables that fit the phases of all calls. -/
theorem World.Run.ledger {w w' : World κ} (run : w.Run w') (begins : w.Begins) :
    ∃ sched queued, Ledger (fun id => (w.sys.task? id).isSome) w' sched queued := by
  refine run.keeps (motive := fun v => ∃ sched queued, Ledger _ v sched queued) ?_
    (fun _ h unused allowed => ?_) (fun run h _ there => ?_) fun _ h spares => ?_
  · obtain ⟨sched, h⟩ := Ledger.begins begins
    exact ⟨sched, sched.tasks, h⟩
  · obtain ⟨sched, queued, h⟩ := h
    exact (h.begin unused allowed).imp fun _ h => ⟨queued, h⟩
  · obtain ⟨sched, queued, h⟩ := h
    exact h.step (run.guarded begins) _ _ there
  · obtain ⟨sched, queued, h⟩ := h
    exact (h.elsewhere spares).imp fun _ h => ⟨queued, h⟩

/-- No routine goes away or gets another id, and what is stopped stays stopped. -/
structure Grows (s s' : System κ) : Prop where
  size : s.routines.size ≤ s'.routines.size
  ids : ∀ r < s.routines.size, (s'.routine r).id = (s.routine r).id
  stopped : ∀ r, (s.routine r).stopped = true → (s'.routine r).stopped = true

theorem Quiet.grows (h : Quiet s s') : Grows s s' :=
  ⟨h.routines.size, fun r hr => congrArg Prod.fst (h.routines.routine r hr), h.stopped⟩

theorem Ledger.grows {first : UInt64 → Bool} {w : World κ} (h : Ledger first w sched queued)
    (there : w.phase? n = some p) : Grows w.sys (w.advance n t p).1.sys := by
  cases p with
  | inside id e m stage =>
    rcases w.attend_cases n t e m id stage with waits | ⟨sched', hs, -, stepped⟩
    · rw [World.advance, waits]
      exact (Quiet.refl w.sys).grows
    · cases h.scheduler.symm.trans hs
      obtain ⟨_, _, works, -⟩ := System.attend_works (t := t) hs h.agree h.nodup (h.calls n _ there).1
      rw [World.advance, stepped]
      exact ⟨Nat.le_of_eq works.size.symm, fun r _ => works.ids r, works.stopped⟩
  | unlocking id e m ok => exact (Quiet.refl w.sys).grows
  | _ => exact (quiet_advance w n t rfl).1.grows

end CoopSched.Lifecycle
