import CoopSched.Proofs.Outside.Adjusting
import CoopSched.Script
/-!
# Slots

A routine that is put into a group gets a slot at the end of a level. The routine handed to a removal only names an
id and a level: several routines may have the id, the routine itself may have several slots or be at another level
by now, and the slot that is found may hold another routine.

A `Ledger` has every slot that there ever was, in the order of insertion, and marks those that were taken away.

* A removal succeeds exactly if the level has a routine with the id. It takes the first slot of such a routine and
  stops that routine, and nothing else changes; if it fails nothing changes at all (`RemovesFirst`).
* At any time the queue of a level is what its ledger has without the marked slots (`queues_recorded`).
-/

namespace CoopSched

variable {κ : Type}

namespace System

variable {s : System κ} {g : GroupRef} {r : RoutineRef}

/-! ## 1. One removal -/

/-- A routine that has been taken out of a group. -/
def takenOut (x : Routine κ) : Routine κ := { x with stopped := true, holder := none }

/-- Two systems with different routines and queues in them, and otherwise the same. -/
structure Requeues (s s' : System κ) : Prop where
  routines : s'.routines.size = s.routines.size
  groups : s'.groups.size = s.groups.size
  group : ∀ h, s'.group h = { s.group h with levels := (s'.group h).levels }
  rest : s' = { s with routines := s'.routines, groups := s'.groups }

/-- The removal of the first slot that has a routine with a certain id, at a certain level. -/
structure TakesFirst (s s' : System κ) (g : GroupRef) (level : Priority) (id : UInt64) : Prop where
  slot : ∃ before x after, (s.group g).queue level = before ++ x :: after ∧ (s.routine x).id = id ∧
    (∀ y ∈ before, (s.routine y).id ≠ id) ∧ (s'.group g).queue level = before ++ after ∧
    s'.routine x = takenOut (s.routine x) ∧ ∀ y ≠ x, s'.routine y = s.routine y
  queues : ∀ h l, h ≠ g ∨ l ≠ level → (s'.group h).queue l = (s.group h).queue l
  requeues : Requeues s s'

/-- A removal takes the first slot at the level of the routine whose routine has its id, or there is none and it
leaves everything as it is. -/
structure RemovesFirst (s : System κ) (t : Thread) (g : GroupRef) (r : RoutineRef) : Prop where
  succeeds : (s.removeRoutine t g r).2.succeeded = true ↔
    ∃ x ∈ (s.group g).queue (levelOf (s.routine r).priority), (s.routine x).id = (s.routine r).id
  takes : (s.removeRoutine t g r).2.succeeded = true →
    TakesFirst s (s.removeRoutine t g r).1 g (levelOf (s.routine r).priority) (s.routine r).id
  nothing : (s.removeRoutine t g r).2.succeeded = false → (s.removeRoutine t g r).1 = s

/-- Nobody holds the routine that a removal would find. -/
def Unheld (s : System κ) (g : GroupRef) (r : RoutineRef) : Prop :=
  ∀ x, s.first? g r = some x → (s.routine x).holder = none

/-- Every slot has a routine that is there. -/
def Known (s : System κ) : Prop := ∀ g l, ∀ x ∈ (s.group g).queue l, x < s.routines.size

/-- To stop a routine, to hold it for a while, and to release it, is to have it taken out. -/
theorem release_seized (s : System κ) (t : Thread) (target : RoutineRef) (f : Group → Group) :
    ((s.seized t target).modifyGroup g f).release target =
      (s.modifyRoutine target takenOut).modifyGroup g f := by
  have changed : (s.seized t target).release target = s.modifyRoutine target takenOut := by
    unfold release seized acquire
    rw [modifyRoutine_modifyRoutine, modifyRoutine_modifyRoutine]
    refine modifyRoutine_congr s ?_
    simp only [Routine.acquire, Routine.stop, Routine.release, takenOut]
    split <;> rfl
  exact congrArg (fun s : System κ => s.modifyGroup g f) changed

/-- The slot that a removal means is the first one of a routine with the id. -/
theorem slotOf?_of_append {before after : List RoutineRef} {x : RoutineRef}
    (queue : (s.group g).queue (levelOf (s.routine r).priority) = before ++ x :: after)
    (own : (s.routine x).id = (s.routine r).id) (first : ∀ y ∈ before, (s.routine y).id ≠ (s.routine r).id) :
    s.slotOf? g r = some (levelOf (s.routine r).priority, before.length, x) := by
  have others : ∀ y ∈ before, ((s.routine y).id == (s.routine r).id) = false :=
    fun y mem => beq_false_of_ne (first y mem)
  have index : before.findIdx? (fun y => (s.routine y).id == (s.routine r).id) = none :=
    List.findIdx?_eq_none_iff.mpr others
  have found : before.find? (fun y => (s.routine y).id == (s.routine r).id) = none :=
    List.find?_eq_none.mpr fun y mem => Bool.eq_false_iff.mp (others y mem)
  have self : ((s.routine x).id == (s.routine r).id) = true := beq_iff_eq.mpr own
  simp only [slotOf?, queue, List.findIdx?_append, List.find?_append, index, found, List.findIdx?_cons,
    List.find?_cons, self, if_true, Option.map_some, Option.none_or, Nat.zero_add]

theorem first?_eq_some {x : RoutineRef} (first : s.first? g r = some x) :
    ∃ before after, (s.group g).queue (levelOf (s.routine r).priority) = before ++ x :: after ∧
      (s.routine x).id = (s.routine r).id ∧ ∀ y ∈ before, (s.routine y).id ≠ (s.routine r).id := by
  obtain ⟨own, before, after, queue, others⟩ := List.find?_eq_some_iff_append.mp first
  exact ⟨before, after, queue, eq_of_beq own, fun y mem same => by simpa [same] using others y mem⟩

/-- What a removal does that has found a routine which nobody holds. -/
theorem takesFirst (t : Thread) {before after : List RoutineRef} {x : RoutineRef}
    (queue : (s.group g).queue (levelOf (s.routine r).priority) = before ++ x :: after)
    (own : (s.routine x).id = (s.routine r).id) (first : ∀ y ∈ before, (s.routine y).id ≠ (s.routine r).id)
    (free : (s.routine x).holder = none) (hx : x < s.routines.size) :
    (s.removeRoutine t g r).2 = .removed ∧
      TakesFirst s (s.removeRoutine t g r).1 g (levelOf (s.routine r).priority) (s.routine r).id := by
  have slot := slotOf?_of_append queue own first
  have there : ((s.group g).queue (levelOf (s.routine r).priority))[before.length]? = some x := by
    rw [queue, List.getElem?_append_right (Nat.le_refl _), Nat.sub_self, List.getElem?_cons_zero]
  have hg := lt_of_slot there
  rw [removeRoutine_of_free slot free t, release_seized]
  refine ⟨rfl, ⟨before, x, after, queue, own, first, ?_, ?_, ?_⟩, ?_, ?_⟩
  · rw [queue_eraseAt _ (show g < (s.modifyRoutine x takenOut).groups.size from hg), if_pos rfl,
      group_modifyRoutine, queue, List.eraseIdx_append_of_length_le (Nat.le_refl _), Nat.sub_self,
      List.eraseIdx_cons_zero]
  · rw [routine_modifyGroup, routine_modifyRoutine, if_pos ⟨rfl, hx⟩]
  · intro y other
    rw [routine_modifyGroup, routine_modifyRoutine, if_neg fun hc => other hc.1.symm]
  · intro h l elsewhere
    rw [queue_eraseAt _ (show g < (s.modifyRoutine x takenOut).groups.size from hg), group_modifyRoutine]
    refine if_neg fun same => ?_
    obtain ⟨rfl, rfl⟩ := Prod.mk.inj same
    exact elsewhere.elim (· rfl) (· rfl)
  · refine ⟨size_modifyRoutine .., size_modifyGroup .., fun h => ?_, rfl⟩
    rw [group_modifyGroup, group_modifyRoutine]
    split <;> rfl

theorem removesFirst (known : s.Known) (t : Thread) (unheld : s.Unheld g r) : s.RemovesFirst t g r := by
  cases first : s.first? g r with
  | none =>
    have same := removeRoutine_of_absent (slotOf?_of_absent first) t
    refine ⟨⟨fun succeeded => ?_, ?_⟩, fun succeeded => ?_, fun _ => congrArg Prod.fst same⟩
    · rw [same] at succeeded
      cases succeeded
    · rintro ⟨x, mem, own⟩
      exact absurd (beq_iff_eq.mpr own) (List.find?_eq_none.mp first x mem)
    · rw [same] at succeeded
      cases succeeded
  | some x =>
    obtain ⟨before, after, queue, own, others⟩ := first?_eq_some first
    have mem : x ∈ (s.group g).queue (levelOf (s.routine r).priority) :=
      queue ▸ List.mem_append_right before (List.mem_cons_self ..)
    obtain ⟨removed, takes⟩ := takesFirst t queue own others (unheld x first) (known g _ x mem)
    have succeeded : (s.removeRoutine t g r).2.succeeded = true := congrArg Removal.succeeded removed
    refine ⟨⟨fun _ => ⟨x, mem, own⟩, fun _ => succeeded⟩, fun _ => takes, fun failed => ?_⟩
    cases succeeded.symm.trans failed

end System

namespace Outside

open CoopSched.System (Frame TakesFirst)
open CoopSched.Turns (Operation)

/-! ## 2. Ledgers -/

/-- A slot that was there at some time, and whether it was taken away since. -/
structure Slot where
  routine : RoutineRef
  removed : Bool := false

/-- The routines of the slots that are still there. -/
def standing (slots : List Slot) : List RoutineRef :=
  (slots.filter fun x => !x.removed).map (·.routine)

/-- Mark the first slot that is still there and has one of these routines. -/
def strike (p : RoutineRef → Bool) : List Slot → List Slot
  | [] => []
  | x :: rest => if !x.removed && p x.routine then { x with removed := true } :: rest else x :: strike p rest

theorem standing_fresh (queue : List RoutineRef) : standing (queue.map fun r => { routine := r }) = queue := by
  induction queue with
  | nil => rfl
  | cons r rest ih => exact congrArg (r :: ·) ih

theorem standing_append (slots : List Slot) (r : RoutineRef) :
    standing (slots ++ [{ routine := r }]) = standing slots ++ [r] := by
  rw [standing, List.filter_append, List.map_append]
  rfl

/-- No slot gets lost, and none is moved. -/
theorem routine_strike (p : RoutineRef → Bool) (slots : List Slot) :
    (strike p slots).map (·.routine) = slots.map (·.routine) := by
  induction slots with
  | nil => rfl
  | cons x rest ih =>
    rw [strike]
    split
    · rfl
    · rw [List.map_cons, ih, List.map_cons]

theorem standing_strike (p : RoutineRef → Bool) (slots : List Slot) :
    standing (strike p slots) = (standing slots).eraseP p := by
  induction slots with
  | nil => rfl
  | cons x rest ih =>
    have step : ∀ xs, standing (x :: xs) = if x.removed then standing xs else x.routine :: standing xs := by
      intro xs
      cases gone : x.removed <;> simp [standing, gone]
    rw [strike]
    cases gone : x.removed with
    | true =>
      rw [Bool.not_true, Bool.false_and, if_neg Bool.false_ne_true, step, step, gone, if_pos rfl, if_pos rfl, ih]
    | false =>
      rw [step rest, gone, if_neg Bool.false_ne_true]
      cases match' : p x.routine with
      | true =>
        rw [Bool.not_false, Bool.true_and, if_pos rfl, List.eraseP_cons_of_pos match']
        simp [standing]
      | false =>
        rw [Bool.and_false, if_neg Bool.false_ne_true, step, gone, if_neg Bool.false_ne_true, ih,
          List.eraseP_cons_of_neg (Bool.eq_false_iff.mp match')]

/-- The slots that there ever were at each level of each group, in the order of insertion. -/
abbrev Ledger := GroupRef → Priority → List Slot

/-- The ledger of a system of which nothing else is known: the slots that it has. -/
def Ledger.begin (s : System κ) : Ledger := fun g l => ((s.group g).queue l).map fun r => { routine := r }

/-- Change the ledger of a level. -/
def Ledger.change (L : Ledger) (g : GroupRef) (level : Priority) (f : List Slot → List Slot) : Ledger :=
  fun h l => if h = g ∧ l = level then f (L h l) else L h l

/-- What a call does to the ledger. -/
def Ledger.record (L : Ledger) (s : System κ) : Operation κ → Ledger
  | .insert g r => L.change g (levelOf (s.routine r).priority) (· ++ [{ routine := r }])
  | .unlink g r => L.change g (levelOf (s.routine r).priority)
      (strike fun x => (s.routine x).id == (s.routine r).id)
  | _ => L

theorem Ledger.change_here (L : Ledger) (g : GroupRef) (level : Priority) (f : List Slot → List Slot) :
    L.change g level f g level = f (L g level) :=
  if_pos ⟨rfl, rfl⟩

theorem Ledger.change_elsewhere (L : Ledger) {g h : GroupRef} {level l : Priority}
    (elsewhere : ¬(h = g ∧ l = level)) (f : List Slot → List Slot) : L.change g level f h l = L h l :=
  if_neg elsewhere

/-! ## 3. Calls on groups and their routines -/

/-- The calls that there are on groups and on routines. Only routines that are there are put into groups, and a
routine is taken out only while nobody holds it. -/
def OnGroups (s : System κ) : Operation κ → Prop
  | .insert g r => g < s.groups.size ∧ r < s.routines.size
  | .unlink g r => s.Unheld g r
  | .next _ | .notifyGroup _ | .waitGroup _ | .silenceGroup _ | .onRoutine _ _ | .setState _ _
  | .setPriority _ _ => True
  | _ => False

/-- The routines that a call puts into a level of a group. -/
def inserts (s : System κ) (g : GroupRef) (l : Priority) : Operation κ → List RoutineRef
  | .insert h r => if g = h ∧ l = levelOf (s.routine r).priority then [r] else []
  | _ => []

/-- A system that such calls have led to, with the routines that were put into each level and the ledger. -/
inductive Recorded (s₀ : System κ) : System κ → (GroupRef → Priority → List RoutineRef) → Ledger → Prop
  | start : Recorded s₀ s₀ (fun g l => (s₀.group g).queue l) (.begin s₀)
  | step {s : System κ} {put : GroupRef → Priority → List RoutineRef} {L : Ledger}
      (before : Recorded s₀ s put L) (t : Thread) (o : Operation κ) (allowed : OnGroups s o) :
      Recorded s₀ (o.apply s t) (fun g l => put g l ++ inserts s g l o) (L.record s o)

variable {s s' s₀ : System κ} {L : Ledger} {put : GroupRef → Priority → List RoutineRef}

theorem routines_begin (s : System κ) (g : GroupRef) (l : Priority) :
    (Ledger.begin s g l).map (·.routine) = (s.group g).queue l := by
  rw [Ledger.begin, List.map_map]
  exact List.map_id _

/-- No call moves a slot or takes one out of the ledger, and only insertions add one. -/
theorem routines_record (L : Ledger) (s : System κ) (o : Operation κ) (g : GroupRef) (l : Priority) :
    (L.record s o g l).map (·.routine) = (L g l).map (·.routine) ++ inserts s g l o := by
  cases o with
  | insert h r =>
    rw [Ledger.record, inserts]
    by_cases here : g = h ∧ l = levelOf (s.routine r).priority
    · obtain ⟨rfl, rfl⟩ := here
      rw [Ledger.change_here, if_pos ⟨rfl, rfl⟩, List.map_append]
      rfl
    · rw [Ledger.change_elsewhere L here, if_neg here, List.append_nil]
  | unlink h r =>
    show (L.record s (.unlink h r) g l).map (·.routine) = (L g l).map (·.routine) ++ []
    rw [List.append_nil, Ledger.record]
    by_cases here : g = h ∧ l = levelOf (s.routine r).priority
    · obtain ⟨rfl, rfl⟩ := here
      rw [Ledger.change_here, routine_strike]
    · rw [Ledger.change_elsewhere L here]
  | _ => exact (List.append_nil _).symm

/-- The queues are what the ledger has without the marked slots, and every slot has a routine that is there. -/
structure Agrees (s : System κ) (L : Ledger) : Prop where
  known : s.Known
  queue : ∀ g l, (s.group g).queue l = standing (L g l)

namespace Agrees

theorem of_frame (h : Agrees s L) (frame : Frame Routine.id s s') : Agrees s' L where
  known g l x mem := by
    rw [frame.slots.queue] at mem
    exact Nat.lt_of_lt_of_le (h.known g l x mem) frame.routines.size
  queue g l := (frame.slots.queue g l).trans (h.queue g l)

theorem insert (h : Agrees s L) {g : GroupRef} {r : RoutineRef} (hg : g < s.groups.size)
    (hr : r < s.routines.size) : Agrees (s.enqueue g r) (L.record s (.insert g r)) where
  known h' l x mem := by
    rw [System.queue_enqueue s hg] at mem
    split at mem
    · rcases List.mem_append.mp mem with old | new
      · exact h.known h' l x old
      · exact List.mem_singleton.mp new ▸ hr
    · exact h.known h' l x mem
  queue h' l := by
    rw [System.queue_enqueue s hg, Ledger.record]
    by_cases here : h' = g ∧ l = levelOf (s.routine r).priority
    · obtain ⟨rfl, rfl⟩ := here
      rw [if_pos rfl, Ledger.change_here, standing_append, h.queue]
    · rw [Ledger.change_elsewhere L here, if_neg, h.queue]
      exact fun same => here ⟨(Prod.mk.inj same).1.symm, (Prod.mk.inj same).2.symm⟩

/-- A removal takes away the slot that it marks. -/
theorem unlink (h : Agrees s L) {g : GroupRef} {r : RoutineRef} (unheld : s.Unheld g r) (t : Thread) :
    Agrees (s.removeRoutine t g r).1 (L.record s (.unlink g r)) := by
  have removes := System.removesFirst h.known t unheld
  let p := fun x => (s.routine x).id == (s.routine r).id
  cases outcome : (s.removeRoutine t g r).2.succeeded with
  | false =>
    have nobody : ∀ x ∈ (s.group g).queue (levelOf (s.routine r).priority), ¬p x = true := by
      intro x mem own
      have succeeds := removes.succeeds.mpr ⟨x, mem, eq_of_beq own⟩
      cases outcome.symm.trans succeeds
    rw [removes.nothing outcome]
    refine ⟨h.known, fun h' l => ?_⟩
    rw [Ledger.record]
    by_cases here : h' = g ∧ l = levelOf (s.routine r).priority
    · obtain ⟨rfl, rfl⟩ := here
      rw [Ledger.change_here, standing_strike, ← h.queue, List.eraseP_of_forall_not nobody]
    · rw [Ledger.change_elsewhere L here, h.queue]
  | true =>
    obtain ⟨⟨before, x, after, queue, own, first, left, -, -⟩, elsewhere, requeues⟩ := removes.takes outcome
    have others : ∀ y ∈ before, ¬p y = true := fun y mem same => first y mem (eq_of_beq same)
    have hit : p x = true := beq_iff_eq.mpr own
    have erased : (before ++ x :: after).eraseP p = before ++ after := by
      rw [List.eraseP_append_right _ others, List.eraseP_cons_of_pos hit]
    refine ⟨fun h' l y mem => ?_, fun h' l => ?_⟩
    · rw [requeues.routines]
      by_cases here : h' = g ∧ l = levelOf (s.routine r).priority
      · obtain ⟨rfl, rfl⟩ := here
        have kept : y ∈ before ++ x :: after := by
          rw [left] at mem
          exact (List.sublist_cons_self x after).append_left before |>.subset mem
        exact h.known _ _ y (queue.symm ▸ kept)
      · rw [elsewhere h' l (not_and_or.mp here)] at mem
        exact h.known h' l y mem
    · rw [Ledger.record]
      by_cases here : h' = g ∧ l = levelOf (s.routine r).priority
      · obtain ⟨rfl, rfl⟩ := here
        rw [Ledger.change_here, standing_strike, ← h.queue, left, queue, erased]
      · rw [Ledger.change_elsewhere L here, elsewhere h' l (not_and_or.mp here), h.queue]

theorem apply (h : Agrees s L) (t : Thread) {o : Operation κ} (allowed : OnGroups s o) :
    Agrees (o.apply s t) (L.record s o) := by
  cases o with
  | insert g r => exact h.insert allowed.1 allowed.2
  | unlink g r => exact h.unlink allowed t
  | next g =>
    exact h.of_frame (System.frame_nextRoutine System.id_ignoresStatus System.id_ignoresHolder s t g)
  | notifyGroup g => exact h.of_frame (System.frame_notifyGroup s g)
  | waitGroup g => exact h.of_frame (System.frame_waitGroup s g)
  | silenceGroup g => exact h.of_frame (System.frame_shutdownGroup s g)
  | onRoutine r op =>
    exact h.of_frame (System.frame_applyOp System.id_ignoresStatus System.id_ignoresHolder s t r op)
  | setState r state =>
    exact h.of_frame (.modifyRoutine s r fun x => System.id_ignoresStatus.setState x state)
  | setPriority r priority => exact h.of_frame (.modifyRoutine s r fun _ => rfl)
  | _ => exact allowed.elim

end Agrees

theorem Recorded.routines (h : Recorded s₀ s put L) (g : GroupRef) (l : Priority) :
    (L g l).map (·.routine) = put g l := by
  induction h with
  | start => exact routines_begin s₀ g l
  | step _ _ o _ ih => rw [routines_record, ih]

theorem Recorded.agrees (h : Recorded s₀ s put L) (known : s₀.Known) : Agrees s L := by
  induction h with
  | start => exact ⟨known, fun g l => (standing_fresh _).symm⟩
  | step _ t o allowed ih => exact ih.apply t allowed

/-- Whatever is called, each level has the routines that were put into it, in the order of insertion and without
the slots that were taken away, and a removal takes the first slot that has the id. -/
theorem queues_recorded (known : s₀.Known) (recorded : Recorded s₀ s put L) :
    (∀ g l, (L g l).map (·.routine) = put g l ∧ (s.group g).queue l = standing (L g l)) ∧
      ∀ t g r, s.Unheld g r → s.RemovesFirst t g r := by
  have agrees := recorded.agrees known
  refine ⟨fun g l => ⟨recorded.routines g l, agrees.queue g l⟩, fun t g r unheld => ?_⟩
  exact System.removesFirst agrees.known t unheld

/-- A group, and two routines with one id. -/
def namesakes : System Script :=
  (((({} : System Script).addRoutine 7 "a" .finished).1.addRoutine 7 "b" .finished).1.addGroup "g").1

/-- The first routine has two slots, before and after the one of the second, which has gone to another level. -/
def wandered : System Script :=
  (((namesakes.enqueue 0 0).enqueue 0 1).enqueue 0 0).modifyRoutine 1 fun x => { x with priority := 3 }

/-- It has come back. -/
def returned : System Script :=
  (wandered.removeRoutine .main 0 1).1.modifyRoutine 1 fun x => { x with priority := 0 }

theorem known_namesakes : namesakes.Known := by
  intro g l x mem
  have empty : (namesakes.group g).queue l = [] := by
    rw [namesakes, System.group_addGroup]
    split <;> exact System.queue_new _ l
  rw [empty] at mem
  cases mem

/-- On the level to which the second routine has gone there is nothing to be removed. When it is back, its removal
takes away the first slot of the other routine, and its own one stays. -/
theorem removal_returned :
    namesakes.Known ∧ (∃ put L, Recorded namesakes wandered put L) ∧
      (∃ put L, Recorded namesakes returned put L) ∧
      (wandered.removeRoutine .main 0 1).2.succeeded = false ∧ (wandered.removeRoutine .main 0 1).1 = wandered ∧
      (returned.removeRoutine .main 0 1).2.succeeded = true ∧
      TakesFirst returned (returned.removeRoutine .main 0 1).1 0 (levelOf 0) 7 ∧
      ((returned.removeRoutine .main 0 1).1.group 0).queue (levelOf 0) = [1, 0] := by
  have nothing : Recorded namesakes namesakes _ _ := .start
  have put := ((nothing.step .main (.insert 0 0) ⟨by decide, by decide⟩).step .main (.insert 0 1)
    ⟨by decide, by decide⟩).step .main (.insert 0 0) ⟨by decide, by decide⟩
  have gone := put.step .main (.setPriority 1 3) trivial
  have unheld : wandered.Unheld 0 1 := nofun
  have back := (gone.step .main (.unlink 0 1) unheld).step .main (.setPriority 1 0) trivial
  have free : returned.Unheld 0 1 := by
    rintro x ⟨⟩
    rfl
  have missed := (queues_recorded known_namesakes gone).2 .main 0 1 unheld
  have hit := (queues_recorded known_namesakes back).2 .main 0 1 free
  have failed : (wandered.removeRoutine .main 0 1).2.succeeded = false := rfl
  have succeeded : (returned.removeRoutine .main 0 1).2.succeeded = true := rfl
  exact ⟨known_namesakes, ⟨_, _, gone⟩, ⟨_, _, back⟩, failed, missed.nothing failed, succeeded, hit.takes succeeded, rfl⟩

end Outside

end CoopSched
