import CoopSched.Proofs.Pipelines.Effects
import Mathlib.Logic.Function.Basic
/-!
# The flow of messages

At any time the messages that a stage was handed, those in its queue and those that the stage before it has
still to put there are, in this order, all that has come in so far: what was in the queue at the beginning,
followed by what was pushed from outside or by what the stage before it made of the messages that it was
handed (`Balanced`). And a stage whose body is not in a turn is ready, or has its flag up, or has an empty queue
(`Phase`). Every allowed action preserves both (`Flows.perform`).
-/

namespace CoopSched.Pipelines

open CoopSched.Turns (World lockOfMove? isLocked)
open Function (update)

variable {κ : Type}

/-! ## 1. The books -/

/-- What is to be handed to a stage: what its queue had at the beginning and what has come since. -/
def inflow (init : Nat → List Int) (output : Nat → Int → List Int) (pushed : List Int)
    (handed : Nat → List Int) : Nat → List Int
  | 0 => init 0 ++ pushed
  | i + 1 => init (i + 1) ++ (handed i).flatMap (output i)

/-- What the stage before has still to put into the queue of a stage. -/
def above (todo : Nat → List Int) : Nat → List Int
  | 0 => []
  | i + 1 => todo i

/-- Nothing is lost, doubled or overtaken on the way to any of `n` stages. -/
def Balanced (n : Nat) (init : Nat → List Int) (output : Nat → Int → List Int) (pushed : List Int)
    (handed queued todo : Nat → List Int) : Prop :=
  ∀ i < n, handed i ++ queued i ++ above todo i = inflow init output pushed handed i

namespace Balanced

variable {n i : Nat} {init : Nat → List Int} {output : Nat → Int → List Int} {pushed : List Int}
  {handed handed' queued queued' todo : Nat → List Int} {m : Int} {rest : List Int}

/-- Only the stages that there are matter. -/
theorem congr (h : Balanced n init output pushed handed queued todo)
    (sameHanded : ∀ i < n, handed' i = handed i) (sameQueued : ∀ i < n, queued' i = queued i) :
    Balanced n init output pushed handed' queued' todo := by
  intro i hi
  have before := h i hi
  rw [sameHanded i hi, sameQueued i hi, before]
  cases i with
  | zero => rfl
  | succ i => rw [inflow, inflow, sameHanded i (Nat.lt_of_succ_lt hi)]

/-- A message comes from outside. -/
theorem arrive (h : Balanced n init output pushed handed queued todo) (m : Int) :
    Balanced n init output (pushed ++ [m]) handed (update queued 0 (queued 0 ++ [m])) todo := by
  intro i hi
  have before := h i hi
  cases i with
  | zero =>
    simp only [above, inflow, List.append_nil, Function.update_self] at before ⊢
    rw [← List.append_assoc, before, List.append_assoc]
  | succ i =>
    rw [Function.update_of_ne (Nat.succ_ne_zero i), before]
    rfl

/-- A stage that has put out everything is handed the first message of its queue. -/
theorem deliver (h : Balanced n init output pushed handed queued todo)
    (head : queued i = m :: rest) (idle : todo i = []) :
    Balanced n init output pushed (update handed i (handed i ++ [m])) (update queued i rest)
      (update todo i (output i m)) := by
  intro j hj
  have before := h j hj
  by_cases own : j = i
  · -- The message goes from the front of the queue to the end of what was handed out.
    subst own
    have unmoved : above (update todo j (output j m)) j = above todo j := by
      cases j with
      | zero => rfl
      | succ j => exact Function.update_of_ne (Nat.succ_ne_self j).symm _ _
    have same : inflow init output pushed (update handed j (handed j ++ [m])) j =
        inflow init output pushed handed j := by
      cases j with
      | zero => rfl
      | succ j => rw [inflow, inflow, Function.update_of_ne (Nat.succ_ne_self j).symm]
    rw [same, unmoved, Function.update_self, Function.update_self, ← before, head]
    simp
  · rw [Function.update_of_ne own, Function.update_of_ne own]
    cases j with
    | zero => exact before
    | succ j =>
      by_cases next : j = i
      · -- What is made of the message is now to be put into the queue of the next stage.
        subst next
        simp only [above, inflow, Function.update_self, idle, List.append_nil] at before ⊢
        rw [before, List.flatMap_append, List.append_assoc]
        simp
      · simp only [above, inflow, Function.update_of_ne next] at before ⊢
        exact before

/-- A stage puts the next message into the queue of the stage after it. -/
theorem emit (h : Balanced n init output pushed handed queued todo) (next : todo i = m :: rest) :
    Balanced n init output pushed handed (update queued (i + 1) (queued (i + 1) ++ [m]))
      (update todo i rest) := by
  intro j hj
  have before := h j hj
  cases j with
  | zero =>
    rw [Function.update_of_ne (Nat.succ_ne_zero i).symm]
    exact before
  | succ j =>
    by_cases own : j = i
    · subst own
      simp only [above, Function.update_self, next] at before ⊢
      rw [← before]
      simp
    · simp only [above, Function.update_of_ne own] at before ⊢
      rw [Function.update_of_ne fun same => own (Nat.succ.inj same)]
      exact before

/-- If nothing is on its way, everything that has come in was handed out. -/
theorem settled (h : Balanced n init output pushed handed queued todo) (hi : i < n)
    (empty : ∀ i < n, queued i = []) (idle : ∀ i < n, todo i = []) :
    handed i = inflow init output pushed handed i := by
  have before := h i hi
  have nothing : above todo i = [] := by
    cases i with
    | zero => rfl
    | succ i => exact idle i (Nat.lt_of_succ_lt hi)
  rw [empty i hi, nothing, List.append_nil, List.append_nil] at before
  exact before

end Balanced

/-! ## 2. Where a stage is -/

variable [Program κ] {p : Pipeline κ} {before : System κ} {ref : Nat → RoutineRef}
  {todo : Nat → List Int} {w w' : World κ} {l : Ledger} {t : Thread} {r : RoutineRef} {i : Nat}
  {labels : Labels}

/-- Where the body of a stage is, with the messages `todo` still to be put into the next queue. Outside of a
turn, which `inside` tells, it is always at its beginning. -/
inductive Phase (p : Pipeline κ) (labels : Labels) (i : Nat) (x : Routine κ) (messages : List Int)
    (inside : Prop) (todo : List Int) : Prop
  | parking {c : κ} (work : x.work = .reader (p.queue i) .parking c) (rests : p.rests i c)
      (none : todo = [])
      (state : x.state = .ready ∨ x.state = .dataWait ∧ (x.recheck = true ∨ messages = []))
  | fetching {c : κ} (work : x.work = .reader (p.queue i) .fetching c) (rests : p.rests i c)
      (none : todo = []) (state : x.state = .dataWait) (inside : inside)
  | idle {c : κ} (work : x.work = .reader (p.queue i) .idle c) (rests : p.rests i c)
      (none : todo = []) (state : x.state = .dataWait) (inside : inside)
      (heard : x.recheck = true ∨ messages = [])
  | handling {c : κ} (work : x.work = .reader (p.queue i) .handling c)
      (emits : Emits labels (p.rests i) (p.next? i) c todo) (state : x.state = .dataWait)
      (inside : inside)
  | handled {c : κ} (work : x.work = .reader (p.queue i) .handled c) (rests : p.rests i c)
      (none : todo = []) (state : x.state = .dataWait) (inside : inside)

/-- The stage has not been stopped, and its body is at one of its phases. -/
structure Stands (p : Pipeline κ) (labels : Labels) (i : Nat) (x : Routine κ) (messages : List Int)
    (inside : Prop) (todo : List Int) : Prop where
  alive : x.stopped = false
  phase : Phase p labels i x messages inside todo

section Stands

variable {x : Routine κ} {messages vs : List Int} {inside : Prop}

/-- An arrival makes sure that the stage looks into its queue again. -/
theorem Phase.notified (h : Phase p labels i x messages inside vs) (m : Int) :
    Phase p labels i x.notified (messages ++ [m]) inside vs := by
  have waits : x.state = .dataWait → x.notified = { x with recheck := true } :=
    fun state => if_pos (by rw [state]; rfl)
  cases h with
  | parking work rests none state =>
    rcases state with ready | ⟨state, -⟩
    · have same : x.notified = x := if_neg (by rw [ready]; exact Bool.false_ne_true)
      rw [same]
      exact .parking work rests none (.inl ready)
    · rw [waits state]
      exact .parking work rests none (.inr ⟨state, .inl rfl⟩)
  | fetching work rests none state inside =>
    rw [waits state]
    exact .fetching work rests none state inside
  | idle work rests none state inside _ =>
    rw [waits state]
    exact .idle work rests none state inside (.inl rfl)
  | handling work emits state inside =>
    rw [waits state]
    exact .handling work emits state inside
  | handled work rests none state inside =>
    rw [waits state]
    exact .handled work rests none state inside

theorem Stands.notified (h : Stands p labels i x messages inside vs) (m : Int) :
    Stands p labels i x.notified (messages ++ [m]) inside vs := by
  refine ⟨?_, h.phase.notified m⟩
  unfold Routine.notified
  split
  · exact h.alive
  · exact h.alive

/-- Outside of a turn the body is at its beginning. -/
theorem Phase.parked (h : Phase p labels i x messages inside vs) (outside : ¬inside) :
    ∃ c, x.work = .reader (p.queue i) .parking c ∧ p.rests i c ∧ vs = [] ∧
      (x.state = .ready ∨ x.state = .dataWait ∧ (x.recheck = true ∨ messages = [])) := by
  cases h with
  | parking work rests none state => exact ⟨_, work, rests, none, state⟩
  | fetching _ _ _ _ inside => exact absurd inside outside
  | idle _ _ _ _ inside _ => exact absurd inside outside
  | handling _ _ _ inside => exact absurd inside outside
  | handled _ _ _ _ inside => exact absurd inside outside

/-- Only the beginning of the body is found outside of a turn, and there it does not matter who holds the
routine. -/
theorem Stands.outside (h : Stands p labels i x messages inside vs) (outside : ¬inside)
    (holder : Option Thread) (inside' : Prop) :
    Stands p labels i { x with holder } messages inside' vs := by
  obtain ⟨c, work, rests, none, state⟩ := h.phase.parked outside
  exact ⟨h.alive, .parking work rests none state⟩

/-- A stage that is due is picked outside of a turn. -/
theorem Stands.picked (h : Stands p labels i x messages inside vs) (outside : ¬inside) {now : Nat}
    (due : (x.update now).state = .ready) (holder : Option Thread) (inside' : Prop) :
    Stands p labels i { x.update now with holder } messages inside' vs := by
  obtain ⟨c, work, rests, none, -⟩ := h.phase.parked outside
  exact ⟨(x.stopped_update now).trans h.alive,
    .parking ((x.work_update now).trans work) rests none (.inl due)⟩

end Stands

/-! ## 3. The invariant -/

/-- Is a thread in a turn of the routine? -/
def Inside (w : World κ) (r : RoutineRef) : Prop := ∃ t, w.turn t = some r

/-- The stages are served, whoever is in a turn of a stage holds it, and every body is at one of its
phases. -/
structure Poised (p : Pipeline κ) (labels : Labels) (ref : Nat → RoutineRef) (todo : Nat → List Int)
    (w : World κ) : Prop where
  served : ∃ sched, p.Served p.stages ref sched w.sys
  labelled : w.sys.labels = labels
  held : ∀ i < p.length, ∀ t, w.turn t = some (ref i) → (w.sys.routine (ref i)).holder = some t
  stands : ∀ i < p.length, Stands p labels i (w.sys.routine (ref i))
    (w.sys.queue (p.queue i)).messages (Inside w (ref i)) (todo i)

namespace Poised

theorem own (h : Poised p labels ref todo w) {j : Nat} (hi : i < p.length) (hj : j < p.length)
    (same : ref i = ref j) : i = j := by
  obtain ⟨sched, served⟩ := h.served
  exact served.own i (Pipeline.mem_stages.mpr hi) j (Pipeline.mem_stages.mpr hj) same

theorem routine_eq (h : Poised p labels ref todo w) (hi : i < p.length) :
    p.routine w.sys i = ref i := by
  obtain ⟨sched, served⟩ := h.served
  exact served.routine_eq (Pipeline.mem_stages.mpr hi)

/-- Nobody is in a turn of a stage that nobody holds. -/
theorem outside_of_free (h : Poised p labels ref todo w) (hi : i < p.length)
    (free : (w.sys.routine (ref i)).holder = none) : ¬Inside w (ref i) := by
  rintro ⟨t, inside⟩
  have held := h.held i hi t inside
  rw [free] at held
  cases held

/-- What leaves the pipeline alone. -/
theorem apart (h : Poised p labels ref todo w) (apart : p.Apart ref w w') :
    Poised p labels ref todo w' where
  served := apart.served
  labelled := apart.labels.trans h.labelled
  held i hi t inside := by
    rw [apart.routine i hi]
    exact h.held i hi t ((apart.turn i hi t).mp inside)
  stands i hi := by
    have same : Inside w' (ref i) = Inside w (ref i) :=
      propext (exists_congr (apart.turn i hi))
    rw [apart.routine i hi, apart.messages i hi, same]
    exact h.stands i hi

/-- A change of a routine that is not of a stage. -/
theorem apart_modifyRoutine (h : Poised p labels ref todo w) (other : ∀ i < p.length, ref i ≠ r)
    {f : Routine κ → Routine κ} (placement : ∀ x, (f x).placement = x.placement) :
    p.Apart ref w { w with sys := w.sys.modifyRoutine r f } := by
  obtain ⟨sched, served⟩ := h.served
  refine ⟨⟨sched, served.of_steady (.modifyRoutine w.sys r placement)⟩, rfl, fun i hi => ?_,
    fun _ _ => rfl, fun _ _ _ => Iff.rfl⟩
  exact (System.routine_modifyRoutine ..).trans (if_neg fun hc => other i hi hc.1.symm)

/-- A change of the routine of a stage, and of the turns in which threads are with it. The messages that it
has still to put out may change with it. -/
theorem modifyRoutine (h : Poised p labels ref todo w) (hi : i < p.length)
    {f : Routine κ → Routine κ} {turn : Thread → Option RoutineRef} {todo' : Nat → List Int}
    (placement : ∀ x, (f x).placement = x.placement)
    (others : ∀ u r, r ≠ ref i → (turn u = some r ↔ w.turn u = some r))
    (held : ∀ u, turn u = some (ref i) → (f (w.sys.routine (ref i))).holder = some u)
    (kept : ∀ j, j ≠ i → todo' j = todo j)
    (stands : Stands p labels i (f (w.sys.routine (ref i)))
      (w.sys.queue (p.queue i)).messages (∃ u, turn u = some (ref i)) (todo' i)) :
    Poised p labels ref todo' { w with sys := w.sys.modifyRoutine (ref i) f, turn } := by
  obtain ⟨sched, served⟩ := h.served
  have here : (w.sys.modifyRoutine (ref i) f).routine (ref i) = f (w.sys.routine (ref i)) :=
    served.routine_modifyRoutine (Pipeline.mem_stages.mpr hi) f
  have there : ∀ j < p.length, j ≠ i →
      (w.sys.modifyRoutine (ref i) f).routine (ref j) = w.sys.routine (ref j) := by
    intro j hj other
    rw [System.routine_modifyRoutine, if_neg fun hc => other (h.own hj hi hc.1.symm)]
  refine ⟨⟨sched, served.of_steady (.modifyRoutine w.sys (ref i) placement)⟩, h.labelled, ?_, ?_⟩
  · intro j hj u inside
    by_cases own : j = i
    · subst own
      exact (congrArg (fun x => x.holder) here).trans (held u inside)
    · have away : ref j ≠ ref i := fun same => own (h.own hj hi same)
      exact (congrArg (fun x => x.holder) (there j hj own)).trans
        (h.held j hj u ((others u _ away).mp inside))
  · intro j hj
    dsimp only
    by_cases own : j = i
    · subst own
      rw [here, System.queue_modifyRoutine]
      exact stands
    · have away : ref j ≠ ref i := fun same => own (h.own hj hi same)
      have same : (∃ u, turn u = some (ref j)) = Inside w (ref j) :=
        propext (exists_congr fun u => others u _ away)
      unfold Inside
      dsimp only
      rw [there j hj own, System.queue_modifyRoutine, same, kept j own]
      exact h.stands j hj

/-- A move that does not end the turn. -/
theorem goOn (h : Poised p labels ref todo w) (hi : i < p.length) {f : Routine κ → Routine κ}
    {todo' : Nat → List Int} (placement : ∀ x, (f x).placement = x.placement)
    (holder : ∀ x, (f x).holder = x.holder) (kept : ∀ j, j ≠ i → todo' j = todo j)
    (stands : Stands p labels i (f (w.sys.routine (ref i)))
      (w.sys.queue (p.queue i)).messages (Inside w (ref i)) (todo' i)) :
    Poised p labels ref todo' { w with sys := w.sys.modifyRoutine (ref i) f } :=
  h.modifyRoutine hi placement (fun _ _ _ => Iff.rfl)
    (fun u inside => (holder _).trans (h.held i hi u inside)) kept stands

/-- A change of the queue of a stage that keeps its callback. -/
theorem modifyQueue (h : Poised p labels ref todo w) (formed : p.WellFormed before) (hi : i < p.length)
    {f : MessageQueue → MessageQueue} (callback : ∀ x, (f x).callback = x.callback)
    (stands : Stands p labels i (w.sys.routine (ref i)) (f (w.sys.queue (p.queue i))).messages
      (Inside w (ref i)) (todo i)) :
    Poised p labels ref todo { w with sys := w.sys.modifyQueue (p.queue i) f } ∧
      ∀ j < p.length, ((w.sys.modifyQueue (p.queue i) f).queue (p.queue j)).messages =
        update (fun j => (w.sys.queue (p.queue j)).messages) i
          (f (w.sys.queue (p.queue i))).messages j := by
  obtain ⟨sched, served⟩ := h.served
  have messages : ∀ j < p.length, ((w.sys.modifyQueue (p.queue i) f).queue (p.queue j)).messages =
      update (fun j => (w.sys.queue (p.queue j)).messages) i
        (f (w.sys.queue (p.queue i))).messages j := by
    intro j hj
    rw [System.queue_modifyQueue]
    by_cases own : j = i
    · subst own
      rw [if_pos ⟨rfl, served.bound j (Pipeline.mem_stages.mpr hj)⟩, Function.update_self]
    · rw [if_neg fun hc => own (formed.distinct j hj i hi hc.1.symm), Function.update_of_ne own]
  have steady : Steady w.sys (w.sys.modifyQueue (p.queue i) f) := .modifyQueue w.sys _ callback
  refine ⟨⟨⟨sched, served.of_steady steady⟩, h.labelled, h.held, ?_⟩, messages⟩
  intro j hj
  dsimp only
  rw [messages j hj]
  by_cases own : j = i
  · subst own
    rw [Function.update_self]
    exact stands
  · rw [Function.update_of_ne own]
    exact h.stands j hj

/-- A message that arrives in the queue of a stage. -/
theorem push (h : Poised p labels ref todo w) (formed : p.WellFormed before) (hi : i < p.length)
    (t : Thread) (m : Int) :
    Poised p labels ref todo { w with sys := w.sys.push t (p.queue i) m } ∧
      (∀ j < p.length, j ≠ i →
        (w.sys.push t (p.queue i) m).routine (ref j) = w.sys.routine (ref j)) ∧
      ∀ j < p.length, ((w.sys.push t (p.queue i) m).queue (p.queue j)).messages =
        update (fun j => (w.sys.queue (p.queue j)).messages) i
          ((w.sys.queue (p.queue i)).messages ++ [m]) j := by
  obtain ⟨sched, served⟩ := h.served
  obtain ⟨steady, routines, queues⟩ := served.push (Pipeline.mem_stages.mpr hi) t m
  have messages : ∀ j < p.length, ((w.sys.push t (p.queue i) m).queue (p.queue j)).messages =
      update (fun j => (w.sys.queue (p.queue j)).messages) i
        ((w.sys.queue (p.queue i)).messages ++ [m]) j := by
    intro j hj
    rw [queues]
    by_cases own : j = i
    · rw [own, if_pos rfl, Function.update_self]
    · rw [if_neg fun same => own (formed.distinct j hj i hi same), Function.update_of_ne own]
  have others : ∀ j < p.length, j ≠ i →
      (w.sys.push t (p.queue i) m).routine (ref j) = w.sys.routine (ref j) := by
    intro j hj other
    rw [routines, if_neg fun same => other (h.own hj hi same)]
  have labelled := steady.labels.trans h.labelled
  refine ⟨⟨⟨sched, served.of_steady steady⟩, labelled, ?_, ?_⟩, others, messages⟩
  · intro j hj u inside
    have holder : ∀ x : Routine κ, x.notified.holder = x.holder := by
      intro x
      unfold Routine.notified
      split <;> rfl
    have held := h.held j hj u inside
    dsimp only
    rw [routines]
    split
    · rw [holder]
      exact held
    · exact held
  · intro j hj
    dsimp only
    rw [messages j hj]
    by_cases own : j = i
    · subst own
      rw [routines, if_pos rfl, Function.update_self]
      exact (h.stands j hj).notified m
    · rw [others j hj own, Function.update_of_ne own]
      exact h.stands j hj

end Poised

/-- The books are kept as well. -/
structure Flows (p : Pipeline κ) (before : System κ) (ref : Nat → RoutineRef) (todo : Nat → List Int)
    (w : World κ) (l : Ledger) : Prop where
  poised : Poised p before.labels ref todo w
  balanced : Balanced p.length (fun i => (before.queue (p.queue i)).messages) p.output l.pushed
    (fun i => l.handed (ref i)) (fun i => (w.sys.queue (p.queue i)).messages) todo

namespace Flows

theorem apart (h : Flows p before ref todo w l) (apart : p.Apart ref w w') :
    Flows p before ref todo w' l :=
  ⟨h.poised.apart apart, h.balanced.congr (fun _ _ => rfl) apart.messages⟩

/-- An action that neither brings a message nor hands one to a stage. -/
theorem record (h : Flows p before ref todo w' l) (w : World κ) {a : Turns.Action κ}
    (arrival : p.arrival? a = none) (delivery : ∀ i < p.length, delivery? w (ref i) a = none) :
    Flows p before ref todo w' (p.record l w a) := by
  have pushed : (p.record l w a).pushed = l.pushed := by
    rw [Pipeline.record, arrival, Option.toList_none, List.append_nil]
  refine ⟨h.poised, ?_⟩
  rw [pushed]
  refine h.balanced.congr (fun i hi => ?_) fun _ _ => rfl
  show l.handed (ref i) ++ _ = _
  rw [delivery i hi, Option.toList_none, List.append_nil]

/-- A change of the routine of a stage that leaves the messages where they are. -/
theorem modifyRoutine (h : Flows p before ref todo w l) (hi : i < p.length)
    {f : Routine κ → Routine κ} {turn : Thread → Option RoutineRef}
    (placement : ∀ x, (f x).placement = x.placement)
    (others : ∀ u r, r ≠ ref i → (turn u = some r ↔ w.turn u = some r))
    (held : ∀ u, turn u = some (ref i) → (f (w.sys.routine (ref i))).holder = some u)
    (stands : Stands p before.labels i (f (w.sys.routine (ref i)))
      (w.sys.queue (p.queue i)).messages (∃ u, turn u = some (ref i)) (todo i)) :
    Flows p before ref todo { w with sys := w.sys.modifyRoutine (ref i) f, turn } l :=
  ⟨h.poised.modifyRoutine hi placement others held (fun _ _ => rfl) stands, h.balanced⟩

/-- The record and the gates do not matter. -/
theorem of_eq (h : Flows p before ref todo w l) {s : System κ} (routines : s.routines = w.sys.routines)
    (groups : s.groups = w.sys.groups) (queues : s.queues = w.sys.queues)
    (scheduler : s.scheduler = w.sys.scheduler) (labels : s.labels = w.sys.labels) :
    Flows p before ref todo { w with sys := s } l := by
  obtain ⟨sched, served⟩ := h.poised.served
  refine h.apart ⟨⟨sched, served.of_steady (.of_eq routines groups queues scheduler labels)⟩, labels,
    fun i _ => ?_, fun i _ => ?_, fun _ _ _ => Iff.rfl⟩
  · exact congrArg (fun a : Arena (Routine κ) => a.get (ref i)) routines
  · exact congrArg (fun a : Arena MessageQueue => (a.get (p.queue i)).messages) queues

omit [Program κ] in
/-- Either the routine is that of a stage, or it is that of none. -/
theorem stage_or_not (p : Pipeline κ) (ref : Nat → RoutineRef) (r : RoutineRef) :
    (∃ i < p.length, ref i = r) ∨ ∀ i < p.length, ref i ≠ r := by
  by_cases stage : ∃ i < p.length, ref i = r
  · exact .inl stage
  · exact .inr fun i hi same => stage ⟨i, hi, same⟩

/-! ## 4. Searches, turns and releases -/

theorem next (h : Flows p before ref todo w l) (t : Thread) (g : GroupRef) :
    Flows p before ref todo { w with sys := (w.sys.nextRoutine t g).1 } l := by
  rcases w.sys.nextRoutine_cases t g with same | ⟨r, ⟨free, ready⟩, found⟩
  · rw [same]
    exact h
  · have placement : ∀ x : Routine κ,
        ({ x.update w.sys.now with holder := some t } : Routine κ).placement = x.placement :=
      fun x => Routine.placement_ignoresStatus.update x w.sys.now
    rw [found]
    rcases stage_or_not p ref r with ⟨i, hi, rfl⟩ | other
    · have outside := h.poised.outside_of_free hi free
      exact h.modifyRoutine hi placement (fun _ _ _ => Iff.rfl)
        (fun u inside => absurd ⟨u, inside⟩ outside)
        ((h.poised.stands i hi).picked outside ready (some t) _)
    · exact h.apart (h.poised.apart_modifyRoutine other placement)

theorem release (h : Flows p before ref todo w l) (holder : (w.sys.routine r).holder = some t)
    (away : w.turn t ≠ some r) : Flows p before ref todo { w with sys := w.sys.release r } l := by
  rcases stage_or_not p ref r with ⟨i, hi, rfl⟩ | other
  · -- Whoever is in a turn of the stage holds it, and the one who holds it is not in a turn of it.
    have outside : ¬Inside w (ref i) := by
      rintro ⟨u, inside⟩
      have held := h.poised.held i hi u inside
      rw [holder] at held
      cases held
      exact away inside
    exact h.modifyRoutine hi (fun _ => rfl) (fun _ _ _ => Iff.rfl)
      (fun u inside => absurd ⟨u, inside⟩ outside) ((h.poised.stands i hi).outside outside none _)
  · exact h.apart (h.poised.apart_modifyRoutine other fun _ => rfl)

theorem enter (h : Flows p before ref todo w l) (t : Thread) (r : RoutineRef) :
    Flows p before ref todo (w.enter t r) l := by
  rcases w.enter_cases t r with
    same | ⟨stopped, ended⟩ | ⟨n, refused⟩ | ⟨away, -, ready, holder, entered⟩
  · rw [same]
    exact h
  · have other : ∀ i < p.length, ref i ≠ r := by
      rintro i hi rfl
      rw [(h.poised.stands i hi).alive] at stopped
      cases stopped
    rw [ended]
    exact h.apart (h.poised.apart_modifyRoutine other fun _ => rfl)
  · rw [refused]
    exact h.of_eq rfl rfl rfl rfl rfl
  · have elsewhere : ∀ u q, q ≠ r →
        ((if u = t then some r else w.turn u) = some q ↔ w.turn u = some q) := by
      intro u q other
      split
      · next own =>
        rw [own, away]
        exact ⟨fun same => absurd (Option.some.inj same).symm other, by rintro ⟨⟩⟩
      · exact Iff.rfl
    rw [entered]
    rcases stage_or_not p ref r with ⟨i, hi, rfl⟩ | other
    · have entrant : ∀ u, (if u = t then some (ref i) else w.turn u) = some (ref i) →
          (w.sys.routine (ref i)).holder = some u := by
        intro u inside
        split at inside
        · next own => rw [own, holder]
        · exact h.poised.held i hi u inside
      have outside : ¬Inside w (ref i) := by
        rintro ⟨u, inside⟩
        have held := h.poised.held i hi u inside
        rw [holder] at held
        cases held
        rw [away] at inside
        cases inside
      have unchanged : w.sys.modifyRoutine (ref i) (fun x => x) = w.sys :=
        System.modifyRoutine_eq_self w.sys rfl
      have entered := h.modifyRoutine hi (fun _ => rfl) elsewhere entrant
        ((h.poised.stands i hi).outside outside (w.sys.routine (ref i)).holder _)
      rw [unchanged] at entered
      exact entered
    · obtain ⟨sched, served⟩ := h.poised.served
      exact h.apart ⟨⟨sched, served⟩, rfl, fun _ _ => rfl, fun _ _ => rfl,
        fun i hi u => elsewhere u _ (other i hi)⟩

end Flows

end CoopSched.Pipelines
