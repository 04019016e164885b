import CoopSched.Proofs.Lifecycle.Records
import CoopSched.Proofs.Tasks.Start
import CoopSched.Script
/-!
# Dispatch and removal of one id are atomic

Whatever else is going on, the calls on one id behave as if they were made one after the other, in the order
in which they have the mutex of the id: each succeeds exactly if it makes a difference (`Judged`). So on a
scheduler that is not stopped (`run_atomic`):

* all searches for the mutex of the id come to the same one;
* the calls that succeed alternate between dispatch and removal, beginning with a dispatch if the id was not
  live;
* of several dispatches of an id that was not live, and that nobody removes, exactly one succeeds;
* whenever nobody has the mutex, the table knows the id and exactly one slot has a routine with it, the same
  one, or neither does.
-/

namespace CoopSched.Lifecycle

open CoopSched.System (Consistent Agreed Resolved)

variable {κ : Type} {sched : Scheduler} {queued : TaskTable} {first : UInt64 → Bool} {w w' : World κ}
  {id : UInt64} {live : Bool} {turns : List Turn} {n : Nat}

/-! ## 1. One id on its own -/

/-- Each turn of an id succeeds exactly if it makes a difference. -/
def Judged (id : UInt64) : Bool → List Turn → Prop
  | _, [] => True
  | live, turn :: rest =>
    if turn.id = id then turn.ok = (live != turn.deed.wants) ∧ Judged id turn.deed.wants rest
    else Judged id live rest

/-- The successful turns of an id. -/
def wins (id : UInt64) (turns : List Turn) : List Turn := turns.filter fun turn => turn.id = id ∧ turn.ok

/-- A live id is removed next, and one that is not live is dispatched next. -/
def Alternates : Bool → List Deed → Prop
  | _, [] => True
  | live, deed :: rest => deed.wants = !live ∧ Alternates (!live) rest

theorem Judged.append (h : Judged id live turns) {turn : Turn}
    (judged : turn.id = id → turn.ok = (liveAfter live id turns != turn.deed.wants)) :
    Judged id live (turns ++ [turn]) := by
  induction turns generalizing live with
  | nil =>
    simp only [List.nil_append, Judged]
    split
    · next own => exact ⟨judged own, trivial⟩
    · exact trivial
  | cons earlier rest ih =>
    simp only [Judged, liveAfter, List.foldl_cons] at h judged
    simp only [List.cons_append, Judged]
    split
    · next own =>
      rw [if_pos own] at h
      simp only [if_pos own] at judged
      exact ⟨h.1, ih h.2 judged⟩
    · next other =>
      rw [if_neg other] at h
      simp only [if_neg other] at judged
      exact ih h judged

theorem wins_cons_of_ok {turn : Turn} (own : turn.id = id) (ok : turn.ok = true) (rest : List Turn) :
    wins id (turn :: rest) = turn :: wins id rest :=
  List.filter_cons_of_pos (decide_eq_true ⟨own, ok⟩)

theorem wins_cons_of_not {turn : Turn} (lost : ¬(turn.id = id ∧ turn.ok = true)) (rest : List Turn) :
    wins id (turn :: rest) = wins id rest :=
  List.filter_cons_of_neg (by simpa using lost)

theorem mem_wins {turn : Turn} : turn ∈ wins id turns ↔ turn ∈ turns ∧ turn.id = id ∧ turn.ok = true := by
  rw [wins, List.mem_filter, decide_eq_true_eq]

/-- The deeds that succeed alternate. -/
theorem Judged.alternates (h : Judged id live turns) :
    Alternates live ((wins id turns).map (·.deed)) := by
  induction turns generalizing live with
  | nil => exact trivial
  | cons turn rest ih =>
    unfold Judged at h
    split at h
    · next own =>
      obtain ⟨judged, later⟩ := h
      cases ok : turn.ok with
      | true =>
        have wants : turn.deed.wants = !live := by
          rw [ok] at judged
          exact (Bool.eq_not_of_ne (bne_iff_ne.mp judged.symm)).symm ▸ by rw [Bool.not_not]
        rw [wins_cons_of_ok own ok]
        exact ⟨wants, wants ▸ ih later⟩
      | false =>
        have wants : live = turn.deed.wants := by
          rw [ok] at judged
          exact bne_eq_false_iff_eq.mp judged.symm
        rw [wins_cons_of_not (by rw [ok]; exact nofun), wants]
        exact ih later
    · next other =>
      rw [wins_cons_of_not fun both => other both.1]
      exact ih h

/-- Without a removal nothing succeeds while the id is live. -/
theorem Judged.no_win (h : Judged id true turns)
    (dispatches : ∀ turn ∈ turns, turn.id = id → turn.deed = .dispatch) : wins id turns = [] := by
  induction turns with
  | nil => exact rfl
  | cons turn rest ih =>
    have later := fun turn mem => dispatches turn (List.mem_cons_of_mem _ mem)
    unfold Judged at h
    split at h
    · next own =>
      rw [dispatches turn List.mem_cons_self own] at h
      rw [wins_cons_of_not (by rw [h.1]; exact nofun)]
      exact ih h.2 later
    · next other =>
      rw [wins_cons_of_not fun both => other both.1]
      exact ih h later

/-- Without a removal the first dispatch of an id that is not live is the only one that succeeds. -/
theorem Judged.one_win (h : Judged id false turns)
    (dispatches : ∀ turn ∈ turns, turn.id = id → turn.deed = .dispatch)
    {turn : Turn} (mem : turn ∈ turns) (own : turn.id = id) : ∃ winner, wins id turns = [winner] := by
  induction turns with
  | nil => cases mem
  | cons earliest rest ih =>
    have later := fun turn mem => dispatches turn (List.mem_cons_of_mem _ mem)
    unfold Judged at h
    split at h
    · next same =>
      rw [dispatches earliest List.mem_cons_self same] at h
      refine ⟨earliest, ?_⟩
      rw [wins_cons_of_ok same h.1, Judged.no_win h.2 later]
    · next other =>
      rw [wins_cons_of_not fun both => other both.1]
      rcases List.mem_cons.mp mem with rfl | mem
      · exact absurd own other
      · exact ih h later mem

/-! ## 2. The turns of a run -/

theorem Ledger.judged (ledger : Ledger first w sched queued) (h : Judged id (first id) w.turns)
    (t : Thread) {p : Phase} (there : w.phase? n = some p) :
    Judged id (first id) (w.advance n t p).1.turns := by
  rcases turns_advance w n t p with same | ⟨id', e, m, ok, rfl, turned⟩
  · rw [same]
    exact h
  · have resolved : Resolved sched queued id' (liveAfter (first id') id' w.turns) e.deed ok :=
      ledger.calls n _ there
    rw [turned]
    refine h.append fun own => ?_
    cases own
    exact resolved.2.2

/-- In every run the calls on an id go as if they were made one after the other. -/
theorem World.Run.judged (run : w.Run w') (begins : w.Begins) (id : UInt64) :
    Judged id (w.sys.task? id).isSome w'.turns := by
  refine run.keeps (motive := fun v => Judged id _ v.turns) ?_ (fun _ h _ _ => h)
    (fun run h _ there => ?_) fun _ h _ => h
  · rw [begins.world]
    exact trivial
  · obtain ⟨sched, queued, ledger⟩ := run.ledger begins
    exact ledger.judged h _ there

/-! ## 3. Table and slots -/

/-- The routines with an id that have slots, each as often as it has one. -/
def slotsOf (s : System κ) (roster : Roster) (id : UInt64) : List RoutineRef :=
  (Consistent.allSlots s roster).filter fun r => (s.routine r).id = id

/-- The table knows the id and exactly one slot has a routine with it, the same one, or neither does. -/
def Settled (s : System κ) (id : UInt64) : Prop :=
  ∃ sched, s.scheduler = some sched ∧
    ((∃ r, sched.tasks.find? id = some r ∧ slotsOf s sched.roster id = [r]) ∨
      sched.tasks.find? id = none ∧ slotsOf s sched.roster id = [])

theorem mem_slotsOf {s : System κ} {roster : Roster} {tasks : TaskTable}
    (agree : s.Consistent roster tasks) (id : UInt64) (r : RoutineRef) :
    r ∈ slotsOf s roster id ↔ tasks.find? id = some r := by
  rw [slotsOf, List.mem_filter, decide_eq_true_eq]
  constructor
  · rintro ⟨mem, own⟩
    obtain ⟨id', found⟩ := agree.mem_allSlots_iff.mp mem
    rw [← own, (agree.task found).id]
    exact found
  · intro found
    exact ⟨agree.mem_allSlots_iff.mpr ⟨id, found⟩, (agree.task found).id⟩

/-- Where the two tables agree about an id, its slots are those of its routine. -/
theorem settled_of_agree {s : System κ} (hs : s.scheduler = some sched)
    (agree : s.Consistent sched.roster queued) (same : queued.find? id = sched.tasks.find? id) :
    Settled s id := by
  refine ⟨sched, hs, ?_⟩
  rw [← same]
  cases found : queued.find? id with
  | none =>
    refine .inr ⟨rfl, List.eq_nil_iff_forall_not_mem.mpr fun r mem => ?_⟩
    exact absurd (found.symm.trans ((mem_slotsOf agree id r).mp mem)) nofun
  | some r =>
    have nodup : (slotsOf s sched.roster id).Nodup := agree.nodup_allSlots.filter _
    refine .inl ⟨r, rfl, List.perm_singleton.mp ?_⟩
    refine (List.perm_ext_iff_of_nodup nodup (List.nodup_singleton r)).mpr fun q => ?_
    rw [mem_slotsOf agree, found, Option.some.injEq, List.mem_singleton, eq_comm]

/-! ## 4. Atomicity -/

/-- What was called is a dispatch of a routine with the id, or a removal of the id. -/
def Purpose.Does (s : System κ) (id : UInt64) (deed : Deed) : Purpose → Prop
  | .dispatch r => s.Owns id r ∧ deed = .dispatch
  | .remove id' => id' = id ∧ deed = .remove
  | .shutdown => False

/-- The calls on an id are atomic. `live` says whether it was live in the beginning. -/
structure Atomic (live : Bool) (id : UInt64) (w : World κ) : Prop where
  /-- All searches for the mutex of the id have come to the same one. -/
  mutex : ∀ m m', (id, m) ∈ w.issued → (id, m') ∈ w.issued → m = m'
  /-- A call on the id that has returned has had the mutex once, and returned how this turn went. -/
  outcome : ∀ n c deed ok, w.calls n = some c → c.purpose.Does w.sys id deed →
    c.phase = .returned ok → turnsOf n w.turns = [⟨n, id, deed, ok⟩]
  /-- Every turn of the id was had by a call on it. -/
  caller : ∀ turn ∈ w.turns, turn.id = id →
    ∃ c, w.calls turn.call = some c ∧ c.purpose.Does w.sys id turn.deed
  /-- The turns that succeeded, in the order in which the mutex was had, alternate between dispatch and
  removal, and begin with a dispatch unless the id was live. -/
  alternates : Alternates live ((wins id w.turns).map (·.deed))
  /-- If the id was not live and nobody removes it, one of its dispatches succeeds, and no other one. -/
  winner : live = false → (∀ n c, w.calls n = some c → ¬c.purpose.Does w.sys id .remove) → w.AtRest →
    (∃ n c, w.calls n = some c ∧ c.purpose.Does w.sys id .dispatch) →
    ∃! n, ∃ c, w.calls n = some c ∧ c.purpose.Does w.sys id .dispatch ∧ c.phase = .returned true
  /-- Whenever nobody has the mutex, in particular when no call is under way, table and slots agree. -/
  settled : (∀ n p, w.phase? n = some p → p.holds? ≠ some id) → Settled w.sys id

namespace Recorded

theorem outcome (h : Recorded w) (unraised : w.raised = none) {c : Call} {deed : Deed} {ok : Bool}
    (called : w.calls n = some c) (does : c.purpose.Does w.sys id deed)
    (returned : c.phase = .returned ok) : turnsOf n w.turns = [⟨n, id, deed, ok⟩] := by
  have records := h.calls n c called
  rw [returned] at records
  obtain ⟨token, purpose, phase⟩ := c
  cases purpose with
  | dispatch r =>
    obtain ⟨owns, rfl⟩ := does
    rcases records with ⟨id', owns', turn⟩ | ⟨-, -, raised⟩
    · cases owns.2.symm.trans owns'.2
      exact turn
    · exact absurd unraised raised
  | remove id' =>
    obtain ⟨rfl, rfl⟩ := does
    exact records
  | shutdown => exact does.elim

theorem caller (h : Recorded w) (unraised : w.raised = none) {turn : Turn} (mem : turn ∈ w.turns)
    (own : turn.id = id) : ∃ c, w.calls turn.call = some c ∧ c.purpose.Does w.sys id turn.deed := by
  obtain ⟨⟨token, purpose, phase⟩, called, took⟩ := h.turns turn mem
  refine ⟨_, called, ?_⟩
  cases purpose with
  | dispatch r => exact ⟨own ▸ took.1, took.2⟩
  | remove id' => exact ⟨took.1.symm.trans own, took.2⟩
  | shutdown => exact absurd (unraised.symm.trans took.2) nofun

/-- A call on an id that has returned has won if and only if its turn is among the successful ones. -/
theorem returned_of_win (h : Recorded w) (unraised : w.raised = none) (rest : w.AtRest) {turn : Turn}
    (win : turn ∈ wins id w.turns) :
    ∃ c, w.calls turn.call = some c ∧ c.purpose.Does w.sys id turn.deed ∧ c.phase = .returned true := by
  obtain ⟨mem, own, ok⟩ := mem_wins.mp win
  obtain ⟨c, called, does⟩ := h.caller unraised mem own
  obtain ⟨ok', returned⟩ := rest turn.call c.phase (w.phase?_eq_some.mpr ⟨c, called, rfl⟩)
  have only := h.outcome unraised called does returned
  have listed : turn ∈ turnsOf turn.call w.turns := List.mem_filter.mpr ⟨mem, decide_eq_true rfl⟩
  rw [only, List.mem_singleton] at listed
  refine ⟨c, called, does, ?_⟩
  rw [returned, ← ok, listed]

end Recorded

/-- On a scheduler that is not stopped, the calls on an id are atomic. -/
theorem run_atomic (begins : w.Begins) (run : w.Run w') (running : isStopped w'.sys = false)
    (id : UInt64) : Atomic (w.sys.task? id).isSome id w' := by
  obtain ⟨sched, queued, ledger⟩ := run.ledger begins
  have recorded := run.recorded begins
  have judged := run.judged begins id
  have unraised : w'.raised = none := by
    have flag := recorded.flag
    rw [running] at flag
    exact Option.isSome_eq_false_iff.mp flag.symm |> Option.isNone_iff_eq_none.mp
  refine ⟨fun m m' => (run.guarded begins).same_mutex, fun n c deed ok => recorded.outcome unraised,
    fun turn => recorded.caller unraised, judged.alternates, ?_, fun nobody => ?_⟩
  · intro fresh unremoved rest dispatched
    rw [fresh] at judged
    have dispatches : ∀ turn ∈ w'.turns, turn.id = id → turn.deed = .dispatch := by
      intro turn mem own
      obtain ⟨c, called, does⟩ := recorded.caller unraised mem own
      cases deed : turn.deed with
      | dispatch => rfl
      | remove => exact absurd (deed ▸ does) (unremoved _ c called)
    -- Some dispatch has had a turn, so one turn has succeeded.
    obtain ⟨n, c, called, does⟩ := dispatched
    obtain ⟨ok, returned⟩ := rest n c.phase (w'.phase?_eq_some.mpr ⟨c, called, rfl⟩)
    have turn := recorded.outcome unraised called does returned
    have mem : (⟨n, id, .dispatch, ok⟩ : Turn) ∈ turnsOf n w'.turns := turn ▸ List.mem_singleton_self _
    obtain ⟨winner, only⟩ := judged.one_win dispatches (List.mem_filter.mp mem).1 rfl
    have won : winner ∈ wins id w'.turns := only ▸ List.mem_singleton_self winner
    obtain ⟨c', called', does', returned'⟩ := recorded.returned_of_win unraised rest won
    obtain ⟨mem', own', -⟩ := mem_wins.mp won
    refine ⟨winner.call, ⟨c', called', dispatches winner mem' own' ▸ does', returned'⟩, ?_⟩
    -- A call that returned true has had a successful turn, and there is only this one.
    rintro k ⟨c'', called'', does'', returned''⟩
    have turn' := recorded.outcome unraised called'' does'' returned''
    have mem'' : (⟨k, id, .dispatch, true⟩ : Turn) ∈ turnsOf k w'.turns :=
      turn' ▸ List.mem_singleton_self _
    have win : (⟨k, id, .dispatch, true⟩ : Turn) ∈ wins id w'.turns :=
      mem_wins.mpr ⟨(List.mem_filter.mp mem'').1, rfl, rfl⟩
    rw [only, List.mem_singleton] at win
    rw [← win]
  · exact settled_of_agree ledger.scheduler ledger.agree (ledger.free id nobody).1

/-! ## 5. A race -/

/-- Steps of calls, one after the other. -/
def World.steps (w : World κ) (ns : List Nat) : World κ :=
  ns.foldl (fun w n => w.perform (.step n)) w

theorem World.Run.steps (run : w.Run w') (ns : List Nat) : w.Run (w'.steps ns) := by
  induction ns generalizing w' with
  | nil => exact run
  | cons n ns ih => exact ih (run.step (.step n) trivial)

/-- Two routines with the same id. -/
def twins : World Script :=
  { sys := (((System.startScheduler {} .main {}).addRoutine 7 "t" .finished).1.addRoutine 7 "t"
      .finished).1 }

theorem begins_twins : twins.Begins :=
  ⟨((System.startScheduler_sound {} .main {}).addRoutine 7 "t" .finished).addRoutine 7 "t" .finished,
    rfl, rfl⟩

/-- Both are dispatched, step by step in turns, and the id is removed afterwards. -/
def raced : World Script :=
  (((twins.perform (.begin 0 .main (.dispatch 0))).perform (.begin 1 .main (.dispatch 1))).perform
    (.begin 2 .main (.remove 7))).steps ((List.replicate 20 [0, 1]).flatten ++ List.replicate 16 2)

theorem run_raced : twins.Run raced := by
  have first := (World.Run.refl twins).step (.begin 0 .main (.dispatch 0)) (show 0 < 2 from Nat.two_pos)
  have second := first.step (.begin 1 .main (.dispatch 1)) (show 1 < 2 from Nat.one_lt_two)
  exact (second.step (.begin 2 .main (.remove 7)) trivial).steps _

/-- The first dispatch succeeds, the second one does not, and the removal does. -/
theorem atomic_raced :
    raced.turns = [⟨0, 7, .dispatch, true⟩, ⟨1, 7, .dispatch, false⟩, ⟨2, 7, .remove, true⟩] ∧
      Atomic false 7 raced :=
  ⟨rfl, run_atomic begins_twins run_raced rfl 7⟩

end CoopSched.Lifecycle
