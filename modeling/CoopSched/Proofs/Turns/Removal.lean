import CoopSched.Proofs.Turns.Tables
import CoopSched.Script
/-!
# Removal is final

A scheduler runs, with turns, calls, removals and shutdowns in any order. In every world that it comes to:

* a removal by id of a live task that nobody holds succeeds, and afterwards the routine is in no queue and not
  in the table, is stopped, and is held by nobody (`Kept.removed_remove`). The same holds of a removal by
  name, unless a shutdown is under way, and of a removal that had to wait (`Kept.removed_conclude`);
* when a shutdown has returned, the same has become of every task that was live when it began
  (`Kept.out_shut`);
* from then on the body of the routine is never advanced again, whatever is done with handles that were kept
  (`over_iff`), if and only if no thread is in the middle of a turn of it. A body that releases its own
  routine can be removed in the middle of its turn, and goes on (`removed_inTurn`).
-/

namespace CoopSched.Turns

open CoopSched.Lifecycle (isStopped stopProcessors)
open CoopSched.System (Frame Keeps Out Gone)

variable {κ : Type} {w w' : World κ} {sched sched' : Scheduler} {queued queued' : TaskTable}
  {id : UInt64} {r : RoutineRef} {t : Thread}

/-! ## 1. What every action keeps -/

/-- Table, queues and waiting removals fit together, what is being removed is stopped, and a shutdown has still
to remove whatever is live. -/
structure Kept (w : World κ) (sched : Scheduler) (queued : TaskTable) : Prop extends
    Fits w.sys w.waiting sched queued where
  halted : ∀ p ∈ w.waiting, (w.sys.routine p.routine).stopped = true
  ahead : sched.stopped = true → ∀ id r, sched.tasks.find? id = some r →
    ∃ c, w.closing = some c ∧ id ∈ c.rest

/-- What an action does to the routines with slots: nothing, or one is entered while the scheduler is not
stopped, or one goes. -/
inductive Deals (w' : World κ) (sched : Scheduler) (queued queued' : TaskTable) : Prop
  | keeps (same : queued' = queued)
  | enters (running : sched.stopped = false)
  | takes (id : UInt64) (r : RoutineRef) (found : queued.find? id = some r)
      (erased : queued' = queued.erase id) (gone : Gone w'.sys r)

/-- The world after an action. -/
def Stepped (w' : World κ) (sched : Scheduler) (queued : TaskTable) : Prop :=
  ∃ sched' queued', Kept w' sched' queued' ∧ (sched.stopped = true → sched'.stopped = true) ∧
    Deals w' sched queued queued'

namespace Kept

theorem same (h : Kept w sched queued) : Stepped w sched queued :=
  ⟨sched, queued, h, fun stopped => stopped, .keeps rfl⟩

/-- The removals go on waiting, and the shutdown stays where it is. -/
theorem altered (h : Kept w sched queued) (altered : Alters w.waiting w.sys w'.sys sched queued)
    {busy : Option RoutineRef} (rests : Rests busy w.sys w'.sys) (waiting : w'.waiting = w.waiting)
    (closing : w'.closing = w.closing) : Stepped w' sched queued := by
  have halted : ∀ p ∈ w'.waiting, (w'.sys.routine p.routine).stopped = true := by
    intro p mem
    have mem : p ∈ w.waiting := waiting ▸ mem
    exact rests.stopped _ (h.agree.task (h.waits p mem).1).bound (h.halted p mem)
  cases altered with
  | keeps sched' fits tasks stopped =>
    refine ⟨sched', queued, ⟨waiting.symm ▸ fits, halted, ?_⟩, stopped.trans, .keeps rfl⟩
    rw [closing, stopped, tasks]
    exact h.ahead
  | enters sched' queued' fits running stopped =>
    refine ⟨sched', queued', ⟨waiting.symm ▸ fits, halted, ?_⟩, ?_, .enters running⟩
    · exact fun absurd => nomatch stopped.symm.trans absurd
    · exact fun absurd => nomatch running.symm.trans absurd
  | takes sched' id r found fits tasks stopped gone =>
    refine ⟨sched', queued.erase id, ⟨waiting.symm ▸ fits, halted, ?_⟩, stopped.trans,
      .takes id r (h.of_live found).2 rfl gone⟩
    intro raised other q live
    rw [tasks, TaskTable.find?_erase] at live
    split at live
    · cases live
    · rw [closing]
      exact h.ahead (stopped.symm.trans raised) other q live

/-- What a removal comes to: it is over or waits, and its id is not live any more. -/
theorem removes (h : Kept w sched queued) (t : Thread) (unlocked : isLocked w.waiting id = false) :
    ∃ sched' queued', Fits (w.remove t id).sys (w.remove t id).waiting sched' queued' ∧
      (∀ p ∈ (w.remove t id).waiting, ((w.remove t id).sys.routine p.routine).stopped = true) ∧
      sched'.stopped = sched.stopped ∧
      (∀ other q, sched'.tasks.find? other = some q → other ≠ id ∧ sched.tasks.find? other = some q) ∧
      Deals (w.remove t id) sched queued queued' := by
  have halted : ∀ p ∈ w.waiting, ((w.remove t id).sys.routine p.routine).stopped = true := fun p mem =>
    (w.rests_remove t id).stopped _ (h.agree.task (h.waits p mem).1).bound (h.halted p mem)
  have erased : ∀ other q, (sched.tasks.erase id).find? other = some q →
      other ≠ id ∧ sched.tasks.find? other = some q := by
    intro other q live
    rw [TaskTable.find?_erase] at live
    split at live
    · cases live
    · next ne => exact ⟨ne, live⟩
  cases found : sched.tasks.find? id with
  | none =>
    have absent : w.remove t id = w := by
      rw [World.remove, if_neg (Bool.eq_false_iff.mp unlocked),
        System.removeById_of_absent h.scheduler found]
    rw [absent] at halted ⊢
    refine ⟨sched, queued, h.toFits, halted, rfl, fun other q live => ⟨?_, live⟩, .keeps rfl⟩
    rintro rfl
    cases found.symm.trans live
  | some r =>
    by_cases free : (w.sys.routine r).holder = none
    · obtain ⟨s', removed, fits, gone⟩ := h.removed found free t
      have went : w.remove t id = { w with sys := s' } := by
        rw [World.remove, if_neg (Bool.eq_false_iff.mp unlocked), removed]
      rw [went] at halted ⊢
      exact ⟨_, _, fits, halted, rfl, erased, .takes id r (h.of_live found).2 rfl gone⟩
    · obtain ⟨s', g, waits, fits, stopped⟩ := h.begun found free t
      have went : w.remove t id = { w with sys := s', waiting := ⟨id, g, r⟩ :: w.waiting } := by
        rw [World.remove, if_neg (Bool.eq_false_iff.mp unlocked), waits]
      rw [went] at halted ⊢
      refine ⟨_, _, fits, fun p mem => ?_, rfl, erased, .keeps rfl⟩
      rcases List.mem_cons.mp mem with rfl | mem
      · exact stopped
      · exact halted p mem

theorem remove (h : Kept w sched queued) (t : Thread) (id : UInt64) :
    Stepped (w.remove t id) sched queued := by
  by_cases locked : isLocked w.waiting id = true
  · rw [World.remove, if_pos locked]
    exact h.same
  · obtain ⟨sched', queued', fits, halted, stopped, live, deals⟩ :=
      h.removes t (Bool.eq_false_iff.mpr locked)
    have closing : (w.remove t id).closing = w.closing := by
      rw [World.remove, if_neg locked]
      split <;> rfl
    refine ⟨sched', queued', ⟨fits, halted, ?_⟩, stopped.trans, deals⟩
    intro raised other q found
    rw [closing]
    exact h.ahead (stopped.symm.trans raised) other q (live other q found).2

theorem conclude (h : Kept w sched queued) (t : Thread) (id : UInt64) :
    Stepped (w.conclude t id) sched queued := by
  unfold World.conclude
  cases found : w.waiting.find? (·.id == id) with
  | none => exact h.same
  | some p =>
    have mem := List.mem_of_find?_eq_some found
    have matching := List.find?_some found
    have own : p.id = id := eq_of_beq matching
    obtain ⟨there, group⟩ := h.waits p mem
    dsimp only
    by_cases free : (w.sys.routine p.routine).holder = none
    · obtain ⟨s', removed, fits, gone⟩ := h.concluded mem free (h.halted p mem) t
      have rests : Rests none w.sys (w.sys.removeRoutine t p.group p.routine).1 := .removeRoutine ..
      rw [removed] at rests ⊢
      rw [own] at fits there
      refine ⟨sched, queued.erase id, ⟨fits, ?_, h.ahead⟩, fun stopped => stopped,
        .takes id p.routine there rfl gone⟩
      intro q mem
      have mem := (List.mem_filter.mp mem).1
      exact rests.stopped _ (h.agree.task (h.waits q mem).1).bound (h.halted q mem)
    · obtain ⟨s', waits, -⟩ := System.removeRoutine_held h.agree there group free t
      rw [waits]
      exact h.same

/-- The begin of a shutdown. -/
theorem shuts (h : Kept w sched queued) (running : sched.stopped = false) (t : Thread) :
    Kept (w.shut t) { sched with stopped := true } queued ∧
      (w.shut t).closing = some { rest := w.sys.listed sched } := by
  have closing : (w.shut t).closing = some { rest := w.sys.listed sched } := by
    simp only [World.shut, h.scheduler, running, Bool.false_eq_true, if_false]
  refine ⟨?_, closing⟩
  have rests := w.rests_shut t
  simp only [World.shut, h.scheduler, running, Bool.false_eq_true, if_false] at rests ⊢
  have raised : Fits (w.sys.modifyScheduler fun sched => { sched with stopped := true }) w.waiting
      { sched with stopped := true } queued := h.modifyScheduler rfl rfl
  refine ⟨?_, ?_, ?_⟩
  · exact raised.of_frame
      ((System.frame_report _ t .shuttingDown).trans (System.frame_stopServedGroups _ _))
  · intro p mem
    exact rests.stopped _ (h.agree.task (h.waits p mem).1).bound (h.halted p mem)
  · intro _ id r live
    refine ⟨_, rfl, (TaskTable.mem_listed _ _).mpr ?_⟩
    exact List.mem_map.mpr ⟨(id, r), TableLemmas.lookup_mem live, rfl⟩

theorem shut (h : Kept w sched queued) (t : Thread) : Stepped (w.shut t) sched queued := by
  cases running : sched.stopped with
  | true =>
    have same : w.shut t = w := by simp only [World.shut, h.scheduler, running, if_true]
    rw [same]
    exact h.same
  | false => exact ⟨_, queued, (h.shuts running t).1, fun _ => rfl, .keeps rfl⟩

theorem sweep (h : Kept w sched queued) (t : Thread) : Stepped (w.sweep t) sched queued := by
  unfold World.sweep
  split
  · exact h.same
  · next rest id closing =>
    split
    · exact h.same
    · refine ⟨sched, queued, ⟨h.toFits, h.halted, ?_⟩, fun stopped => stopped, .keeps rfl⟩
      intro raised other q live
      obtain ⟨c, there, mem⟩ := h.ahead raised other q live
      cases closing.symm.trans there
      exact ⟨_, rfl, mem⟩
  · next id rest closing =>
    split
    · exact h.same
    · next unlocked =>
      obtain ⟨sched', queued', fits, halted, stopped, live, deals⟩ :=
        h.removes t (Bool.eq_false_iff.mpr unlocked)
      refine ⟨sched', queued', ⟨fits, halted, ?_⟩, stopped.trans, ?_⟩
      · intro raised other q found
        obtain ⟨ne, before⟩ := live other q found
        obtain ⟨c, there, mem⟩ := h.ahead (stopped.symm.trans raised) other q before
        cases closing.symm.trans there
        exact ⟨_, rfl, (List.mem_cons.mp mem).resolve_left ne⟩
      · cases deals with
        | keeps same => exact .keeps same
        | enters running => exact .enters running
        | takes id r found erased gone => exact .takes id r found erased gone
  · next closing =>
    have rests := w.rests_sweep t
    simp only [World.sweep, closing] at rests
    have emptied : Fits (w.sys.modifyScheduler fun sched => { sched with processors := [] }) w.waiting
        { sched with processors := [] } queued := h.modifyScheduler rfl rfl
    refine ⟨{ sched with processors := [] }, queued, ⟨?_, ?_, ?_⟩, fun stopped => stopped, .keeps rfl⟩
    · exact emptied.of_frame (.foldl (fun s p => System.frame_stopProcessor s t p) _ _)
    · intro p mem
      exact rests.stopped _ (h.agree.task (h.waits p mem).1).bound (h.halted p mem)
    · -- Nothing is live any more: it would still have to be removed.
      intro raised other q live
      obtain ⟨c, there, mem⟩ := h.ahead raised other q live
      cases closing.symm.trans there
      cases mem

variable [Program κ]

theorem perform (h : Kept w sched queued) (a : Action κ) (orderly : World.Orderly w a) :
    Stepped (w.perform a) sched queued := by
  have rests := w.rests_perform a
  have quiet : ∀ {s'}, Frame Routine.placement w.sys s' → Alters w.waiting w.sys s' sched queued :=
    fun frame => .of_frame h.toFits frame
  cases a with
  | enter t r =>
    rw [World.perform] at rests ⊢
    rcases w.enter_cases t r with same | ⟨-, finished⟩ | ⟨n, refused⟩ | ⟨-, -, -, -, entered⟩
    · rw [same]
      exact h.same
    · rw [finished] at rests ⊢
      have framed := Frame.modifyRoutine w.sys r fun x =>
        Routine.placement_ignoresStatus.setState x .finished
      exact h.altered (quiet framed) rests rfl rfl
    · rw [refused] at rests ⊢
      exact h.altered (quiet (System.frame_report w.sys t n)) rests rfl rfl
    · rw [entered] at rests ⊢
      exact h.altered (quiet (.refl _ w.sys)) rests rfl rfl
  | move t =>
    rw [World.perform] at rests ⊢
    rcases w.move_cases t with same | ⟨r, -, free, moved⟩
    · rw [same]
      exact h.same
    · rw [moved] at rests ⊢
      exact h.altered (h.toFits.move t r free) rests rfl rfl
  | operate t o =>
    simp only [World.perform, World.operate] at rests ⊢
    split
    · exact h.same
    · next free =>
      rw [if_neg free] at rests
      exact h.altered (h.toFits.apply t o (Bool.eq_false_iff.mpr free) orderly) rests rfl rfl
  | remove t id => exact h.remove t id
  | removeTask t name =>
    simp only [World.perform, World.removeTask]
    split
    · exact h.same
    · exact h.remove t (taskId name)
  | conclude t id => exact h.conclude t id
  | shut t => exact h.shut t
  | sweep t => exact h.sweep t

end Kept

namespace World

variable [Program κ]

omit [Program κ] in
theorem Begins.kept (h : w.Begins) : ∃ sched, Kept w sched sched.tasks := by
  obtain ⟨s, t, conf, started, waiting, closing⟩ := h
  obtain ⟨sched, hs, agree⟩ := System.startScheduler_sound s t conf
  have running : isStopped (s.startScheduler t conf) = false := by
    unfold System.startScheduler
    rfl
  rw [isStopped, hs, Option.any_some] at running
  refine ⟨sched, ⟨⟨started ▸ hs, started ▸ agree, ?_, ?_, ?_⟩, ?_, ?_⟩⟩
  · intro id
    rw [waiting]
    rfl
  · rw [waiting]
    rintro _ ⟨⟩
  · rw [waiting]
    exact List.nodup_nil
  · rw [waiting]
    rintro _ ⟨⟩
  · intro stopped
    cases running.symm.trans stopped

theorem Run.kept (run : Run Orderly w w') (h : ∃ sched queued, Kept w sched queued) :
    ∃ sched queued, Kept w' sched queued := by
  induction run with
  | refl => exact h
  | step _ a orderly ih =>
    obtain ⟨sched, queued, kept⟩ := ih
    obtain ⟨sched', queued', kept', -⟩ := kept.perform a orderly
    exact ⟨sched', queued', kept'⟩

theorem Reachable.kept (h : w.Reachable) : ∃ sched queued, Kept w sched queued := by
  obtain ⟨w₀, begins, run⟩ := h
  obtain ⟨sched, kept⟩ := begins.kept
  exact run.kept ⟨sched, _, kept⟩

/-! ## 2. Rest -/

/-- It is over with a routine: whatever is done, no thread is in a turn of it any more, and its body stays
where it is. -/
def Over (w : World κ) (r : RoutineRef) : Prop :=
  ∀ w', Run Free w w' → (∀ t, w'.turn t ≠ some r) ∧ (w'.sys.routine r).work = (w.sys.routine r).work

/-- It is over with a stopped routine exactly if no thread is in a turn of it. -/
theorem over_iff (bound : r < w.sys.routines.size) (stopped : (w.sys.routine r).stopped = true) :
    w.Over r ↔ ∀ t, w.turn t ≠ some r := by
  constructor
  · exact fun done => (done w (.refl w)).1
  · intro away w' run
    obtain ⟨rest, work⟩ := run.rests ⟨bound, stopped, away⟩
    exact ⟨rest.away, work⟩

end World

/-! ## 3. Removal of one task -/

section One

variable [Program κ]

/-- A routine has been removed: it is gone, and it is over with it exactly if no thread is in a turn of it. -/
structure Removed (w : World κ) (r : RoutineRef) : Prop where
  gone : Gone w.sys r
  ended : w.Over r ↔ ∀ t, w.turn t ≠ some r

theorem Removed.of_gone (bound : r < w.sys.routines.size) (gone : Gone w.sys r) : Removed w r :=
  ⟨gone, World.over_iff bound gone.stopped⟩

/-- The removal of a live task that nobody holds. -/
theorem Kept.removed_remove (h : Kept w sched queued) (live : w.sys.task? id = some r)
    (free : (w.sys.routine r).holder = none) (t : Thread) :
    (w.sys.removeById t id).2 = .removed ∧ Removed (w.remove t id) r := by
  rw [System.task?_eq h.scheduler] at live
  obtain ⟨unlocked, there⟩ := h.of_live live
  obtain ⟨s', removed, -, gone⟩ := h.removed live free t
  have rests := w.rests_remove t id
  have went : w.remove t id = { w with sys := s' } := by
    rw [World.remove, if_neg (Bool.eq_false_iff.mp unlocked), removed]
  rw [went] at rests ⊢
  rw [removed]
  exact ⟨rfl, .of_gone (Nat.lt_of_lt_of_le (h.agree.task there).bound rests.size) gone⟩

/-- The end of a removal that had to wait. -/
theorem Kept.removed_conclude (h : Kept w sched queued) {p : Waiting} (mem : p ∈ w.waiting)
    (free : (w.sys.routine p.routine).holder = none) (t : Thread) :
    Removed (w.conclude t p.id) p.routine := by
  obtain ⟨q, found⟩ : ∃ q, w.waiting.find? (·.id == p.id) = some q := by
    refine Option.isSome_iff_exists.mp ?_
    rw [List.find?_isSome]
    exact ⟨p, mem, beq_self_eq_true _⟩
  have matching := List.find?_some found
  have same : q = p :=
    List.inj_on_of_nodup_map h.distinct (List.mem_of_find?_eq_some found) mem (eq_of_beq matching)
  obtain ⟨s', removed, -, gone⟩ := h.concluded mem free (h.halted p mem) t
  have rests := w.rests_conclude t p.id
  have went : w.conclude t p.id =
      { w with sys := s', waiting := w.waiting.filter (·.id != p.id) } := by
    simp only [World.conclude, found, same, removed]
  rw [went] at rests ⊢
  exact .of_gone (Nat.lt_of_lt_of_le (h.agree.task (h.waits p mem).1).bound rests.size) gone

end One

/-! ## 4. Removal by a shutdown -/

section Shutdown

/-- The shutdown that is under way has still to remove the id, or has begun to. -/
def World.Covers (w : World κ) (id : UInt64) : Prop :=
  ∃ c, w.closing = some c ∧ (id ∈ c.rest ∨ c.current = some id)

/-- The shutdown does not leave an id behind whose routine has a slot. -/
theorem Kept.covers_sweep (h : Kept w sched queued) (stopped : sched.stopped = true)
    (found : queued.find? id = some r) (covers : w.Covers id) (t : Thread) : (w.sweep t).Covers id := by
  obtain ⟨c, closing, left⟩ := covers
  unfold World.sweep
  split
  · next none => cases none.symm.trans closing
  · next rest current there =>
    cases there.symm.trans closing
    split
    · exact ⟨_, there, left⟩
    · next unlocked =>
      refine ⟨_, rfl, .inl ?_⟩
      rcases left with mem | same
      · exact mem
      · -- Its removal has returned, so that it is live if its routine has a slot.
        cases same
        have live : sched.tasks.find? id = some r := by
          rw [h.live id, if_neg unlocked]
          exact found
        obtain ⟨c, there', mem⟩ := h.ahead stopped id r live
        cases there.symm.trans there'
        exact mem
  · next first rest there =>
    cases there.symm.trans closing
    split
    · exact ⟨_, there, left⟩
    · refine ⟨_, rfl, ?_⟩
      rcases left with mem | same
      · rcases List.mem_cons.mp mem with rfl | mem
        · exact .inr rfl
        · exact .inl mem
      · cases same
  · next there =>
    cases there.symm.trans closing
    rcases left with mem | same
    · cases mem
    · cases same

variable [Program κ]

theorem Kept.covers (h : Kept w sched queued) (stopped : sched.stopped = true)
    (found : queued.find? id = some r) (covers : w.Covers id) (a : Action κ) :
    (w.perform a).Covers id := by
  have same : ∀ {v : World κ}, v.closing = w.closing → v.Covers id := by
    intro v closing
    obtain ⟨c, there, left⟩ := covers
    exact ⟨c, closing.trans there, left⟩
  have closing_remove : ∀ t id, (w.remove t id).closing = w.closing := by
    intro t id
    unfold World.remove
    split
    · rfl
    · split <;> rfl
  cases a with
  | enter t r =>
    refine same ?_
    rw [World.perform]
    rcases w.enter_cases t r with same | ⟨-, finished⟩ | ⟨n, refused⟩ | ⟨-, -, -, -, entered⟩
    · rw [same]
    · rw [finished]
    · rw [refused]
    · rw [entered]
  | move t =>
    refine same ?_
    rw [World.perform]
    rcases w.move_cases t with same | ⟨r, -, -, moved⟩
    · rw [same]
    · rw [moved]
  | operate t o =>
    refine same ?_
    simp only [World.perform, World.operate]
    split <;> rfl
  | remove t id => exact same (closing_remove t id)
  | removeTask t name =>
    refine same ?_
    simp only [World.perform, World.removeTask]
    split
    · rfl
    · exact closing_remove t _
  | conclude t id =>
    refine same ?_
    simp only [World.perform, World.conclude]
    split
    · rfl
    · split <;> rfl
  | shut t =>
    refine same ?_
    simp only [World.perform, World.shut, h.scheduler, stopped, if_true]
  | sweep t => exact h.covers_sweep stopped found covers t

/-- Since a shutdown has begun, the routine of a task has a slot and the shutdown will come to it, or it has gone. -/
def Swept (w₁ w : World κ) (queued : TaskTable) (id : UInt64) (r : RoutineRef) : Prop :=
  queued.find? id = some r ∧ w.Covers id ∨
    (∀ other, queued.find? other ≠ some r) ∧ (w.sys.routine r).stopped = true ∧
      ∃ u, World.Run World.Orderly w₁ u ∧ World.Run World.Orderly u w ∧ Removed u r

theorem Swept.step {w₁ : World κ} (h : Kept w sched queued) (stopped : sched.stopped = true)
    (swept : Swept w₁ w queued id r) (bound : r < w.sys.routines.size)
    (run : World.Run World.Orderly w₁ w) (a : Action κ) (orderly : World.Orderly w a)
    (deals : Deals (w.perform a) sched queued queued') :
    Swept w₁ (w.perform a) queued' id r := by
  have forth := run.step a orderly
  rcases swept with ⟨found, covers⟩ | ⟨absent, halted, u, before, after, gone⟩
  · cases deals with
    | keeps same => exact .inl ⟨same ▸ found, h.covers stopped found covers a⟩
    | enters running => cases running.symm.trans stopped
    | takes other q there erased gone =>
      by_cases same : id = other
      · subst same
        cases found.symm.trans there
        rw [erased]
        have bound' := Nat.lt_of_lt_of_le bound (w.rests_perform a).size
        exact .inr ⟨h.agree.find?_erase_ne found, gone.stopped, _, forth, .refl _, .of_gone bound' gone⟩
      · rw [erased, Swept, TaskTable.find?_erase, if_neg same]
        exact .inl ⟨found, h.covers stopped found covers a⟩
  · refine .inr ⟨?_, (w.rests_perform a).stopped r bound halted, u, before, after.step a orderly, gone⟩
    cases deals with
    | keeps same => exact same ▸ absent
    | enters running => cases running.symm.trans stopped
    | takes other q there erased gone =>
      intro id live
      rw [erased, TaskTable.find?_erase] at live
      split at live
      · cases live
      · exact absent id live

theorem Kept.swept (h : Kept w sched queued) (running : sched.stopped = false) (t : Thread)
    (live : sched.tasks.find? id = some r) (run : World.Run World.Orderly (w.shut t) w') :
    ∃ sched' queued', Kept w' sched' queued' ∧ sched'.stopped = true ∧
      r < w'.sys.routines.size ∧ Swept (w.shut t) w' queued' id r := by
  induction run with
  | refl =>
    obtain ⟨kept, closing⟩ := h.shuts running t
    obtain ⟨-, there⟩ := h.of_live live
    have bound := Nat.lt_of_lt_of_le (h.agree.task there).bound (w.rests_shut t).size
    have listed : id ∈ w.sys.listed sched := by
      refine (TaskTable.mem_listed _ _).mpr ?_
      exact List.mem_map.mpr ⟨(id, r), TableLemmas.lookup_mem live, rfl⟩
    exact ⟨_, queued, kept, rfl, bound, .inl ⟨there, _, closing, .inl listed⟩⟩
  | @step v run a orderly ih =>
    obtain ⟨sched', queued', kept, stopped, bound, swept⟩ := ih
    obtain ⟨sched'', queued'', kept', raised, deals⟩ := kept.perform a orderly
    have bound' := Nat.lt_of_lt_of_le bound (v.rests_perform a).size
    exact ⟨sched'', queued'', kept', raised stopped, bound', swept.step kept stopped bound run a orderly deals⟩

/-- When a shutdown has returned, every task that was live when it began is out. It was gone at some time since
then, and nobody held it then. -/
theorem Kept.out_shut (h : Kept w sched queued) (running : sched.stopped = false) (t : Thread)
    (live : sched.tasks.find? id = some r) (run : World.Run World.Orderly (w.shut t) w')
    (returned : w'.closing = none) :
    (∃ u, World.Run World.Orderly (w.shut t) u ∧ World.Run World.Orderly u w' ∧ Removed u r) ∧
      Out w'.sys r ∧ (w'.Over r ↔ ∀ u, w'.turn u ≠ some r) := by
  obtain ⟨sched', queued', kept, -, bound, swept⟩ := h.swept running t live run
  rcases swept with ⟨-, c, closing, -⟩ | ⟨absent, stopped, gone⟩
  · cases returned.symm.trans closing
  · exact ⟨gone, kept.out absent stopped, World.over_iff bound stopped⟩

end Shutdown

/-! ## 5. Removal in every world -/

section Main

variable [Program κ]

/-- What is removed from a world is removed for good. -/
structure RemovesForGood (w : World κ) : Prop where
  /-- The removal by id of a live task that nobody holds. -/
  byId : ∀ t id r, w.sys.task? id = some r → (w.sys.routine r).holder = none →
    (w.sys.removeById t id).2.succeeded = true ∧ Removed (w.perform (.remove t id)) r
  /-- The removal by name, unless a shutdown is under way. -/
  byName : ∀ t name r, w.sys.task? (taskId name) = some r → (w.sys.routine r).holder = none →
    w.closing = none →
    (w.sys.removeTask t name).2.succeeded = true ∧ Removed (w.perform (.removeTask t name)) r
  /-- The end of a removal that had to wait until nobody held the routine. -/
  atLast : ∀ t, ∀ p ∈ w.waiting, (w.sys.routine p.routine).holder = none →
    Removed (w.perform (.conclude t p.id)) p.routine
  /-- The tasks that were live when a shutdown began, after its return. -/
  byShutdown : ∀ t id r w', isStopped w.sys = false → w.sys.task? id = some r →
    World.Run World.Orderly (w.perform (.shut t)) w' → w'.closing = none →
    (∃ u, World.Run World.Orderly (w.perform (.shut t)) u ∧ World.Run World.Orderly u w' ∧ Removed u r) ∧
      Out w'.sys r ∧ (w'.Over r ↔ ∀ u, w'.turn u ≠ some r)

/-- In every world that a scheduler comes to, what is removed is removed for good. -/
theorem removal_final (reachable : w.Reachable) : RemovesForGood w := by
  obtain ⟨sched, queued, kept⟩ := reachable.kept
  have stopped : isStopped w.sys = sched.stopped := by
    rw [isStopped, kept.scheduler, Option.any_some]
  refine ⟨?_, ?_, ?_, ?_⟩
  · intro t id r live free
    obtain ⟨removed, ended⟩ := kept.removed_remove live free t
    exact ⟨congrArg System.Removal.succeeded removed, ended⟩
  · intro t name r live free closing
    obtain ⟨removed, ended⟩ := kept.removed_remove live free t
    have running : sched.stopped = false := by
      refine Bool.eq_false_iff.mpr fun raised => ?_
      obtain ⟨c, there, -⟩ := kept.ahead raised _ r ((System.task?_eq kept.scheduler _).symm.trans live)
      cases closing.symm.trans there
    have byId : w.sys.removeTask t name = w.sys.removeById t (taskId name) := by
      simp only [System.removeTask, kept.scheduler, running, Bool.false_eq_true, if_false]
    have went : w.perform (.removeTask t name) = w.remove t (taskId name) := by
      rw [World.perform, World.removeTask, stopped, running, if_neg Bool.false_ne_true]
    rw [byId, went]
    exact ⟨congrArg System.Removal.succeeded removed, ended⟩
  · exact fun t p mem free => kept.removed_conclude mem free t
  · intro t id r w' running live run returned
    have live : sched.tasks.find? id = some r := (System.task?_eq kept.scheduler id).symm.trans live
    exact kept.out_shut (stopped.symm.trans running) t live run returned

end Main

/-- A body that releases its own routine and then says a line. -/
def releasing : Script := Script.ofActions [.routine "own" .release, .log "after"]

/-- A scheduler has been started, and its first routine will be known as "own". -/
def started : World Script :=
  { sys := System.startScheduler { labels := { routines := [("own", 0)] } } .main {} }

/-- It has one task, with the body that releases its own routine. -/
def oneTask : World Script :=
  (started.perform (.operate .main (.newRoutine 7 "t" (.body releasing)))).perform
    (.operate .main (.dispatch 0))

theorem reachable_oneTask : oneTask.Reachable := by
  have begins : started.Begins := ⟨_, _, _, rfl, rfl, rfl⟩
  have nothing : World.Run World.Orderly started started := .refl started
  have added := nothing.step (.operate .main (.newRoutine 7 "t" (.body releasing))) trivial
  exact ⟨started, begins, added.step (.operate .main (.dispatch 0)) (show 0 < 1 from Nat.one_pos)⟩

/-- The task is removed while nobody runs it, and it is over with its routine. -/
theorem over_removed_oneTask :
    oneTask.Reachable ∧ oneTask.sys.task? 7 = some 0 ∧ (oneTask.sys.routine 0).holder = none ∧
      (oneTask.sys.removeById .main 7).2.succeeded = true ∧
      Gone (oneTask.perform (.remove .main 7)).sys 0 ∧
      (oneTask.perform (.remove .main 7)).Over 0 := by
  obtain ⟨succeeded, removed⟩ := (removal_final reachable_oneTask).byId .main 7 0 rfl rfl
  refine ⟨reachable_oneTask, rfl, rfl, succeeded, removed.gone, removed.ended.mpr fun t => ?_⟩
  exact nofun

/-- A processor is in the middle of a turn of the task, whose body has released its routine. -/
def inTurn : World Script :=
  ((oneTask.perform (.operate (.processor 0) (.next 0))).perform (.enter (.processor 0) 0)).perform
    (.move (.processor 0))

theorem reachable_inTurn : inTurn.Reachable := by
  obtain ⟨w₀, begins, run⟩ := reachable_oneTask
  have found := run.step (.operate (.processor 0) (.next 0)) trivial
  have entered := found.step (.enter (.processor 0) 0) trivial
  exact ⟨w₀, begins, entered.step (.move (.processor 0)) trivial⟩

/-- Nobody holds the task any more, and its removal succeeds, but its body goes on. -/
theorem removed_inTurn :
    inTurn.Reachable ∧ inTurn.sys.task? 7 = some 0 ∧ (inTurn.sys.routine 0).holder = none ∧
      (inTurn.sys.removeById .main 7).2.succeeded = true ∧
      ¬(inTurn.perform (.remove .main 7)).Over 0 ∧
      ((inTurn.perform (.remove .main 7)).perform (.move (.processor 0))).sys.log.back? =
        some ⟨.processor 0, .trace "after"⟩ := by
  refine ⟨reachable_inTurn, rfl, rfl, rfl, fun done => ?_, rfl⟩
  have inside : (inTurn.perform (.remove .main 7)).turn (.processor 0) = some 0 := rfl
  exact (done _ (.refl _)).1 _ inside

end CoopSched.Turns
