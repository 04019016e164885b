import CoopSched.Proofs.Pipelines.Creation
import CoopSched.Proofs.Pipelines.Flow
import CoopSched.Script
/-!
# Pipelines do not depend on the schedule

Every move of a stage keeps the books (`Flows.move`), and so does everything else that may happen around a
pipeline (`Flows.perform`). Whole resumes are among it (`History.resume`). When no routine is held and no group
has one to run, no stage is due, so that every queue is empty and no callback has anything left to put out
(`Flows.settled`).

1. `schedule_independent`: then the first callback has been handed what was in its queue and what was pushed
   from outside, and every other one what was in its queue and what the stage before it made of its messages,
   each in order and once.
2. `handed_eq_of_pushed_eq`: two histories with the same messages from outside have handed the same messages
   to every callback when they come to rest, whatever else was different.
-/

namespace CoopSched.Pipelines

open CoopSched.Turns (World lockOfMove?)
open Function (update)

section Main

variable {κ : Type} [Program κ] {p : Pipeline κ} {before : System κ} {ref : Nat → RoutineRef}
  {todo : Nat → List Int} {w w₀ : World κ} {l : Ledger} {t : Thread} {r : RoutineRef} {i : Nat}

/-! ## 1. The moves of a stage -/

omit [Program κ] in
/-- Where the body of a reader is not about to look into its queue, its move hands out nothing. -/
theorem delivery?_of_phase (inside : w.turn t = some r) {q : QueueRef} {phase : ReaderPhase} {c : κ}
    (work : (w.sys.routine r).work = .reader q phase c) (other : phase ≠ .fetching) (r' : RoutineRef) :
    delivery? w r' (.move t) = none := by
  rw [delivery?]
  split
  · next own =>
    obtain rfl := Option.some.inj (inside.symm.trans own)
    rw [work]
    cases phase with
    | fetching => exact absurd rfl other
    | _ => rfl
  · rfl

omit [Program κ] in
theorem delivery?_of_fetching (inside : w.turn t = some r) {q : QueueRef} {c : κ}
    (work : (w.sys.routine r).work = .reader q .fetching c) (r' : RoutineRef) :
    delivery? w r' (.move t) = if r' = r then (w.sys.queue q).messages.head? else none := by
  rw [delivery?, inside]
  by_cases own : r' = r
  · subst own
    rw [if_pos rfl, if_pos rfl, work]
    exact MessageQueue.pop_eq_head? _
  · rw [if_neg own, if_neg fun same => own (Option.some.inj same).symm]

theorem move_of_going {s : System κ} {progress : System.Progress} (inside : w.turn t = some r)
    (unlocked : lockOfMove? w.sys ((w.sys.routine r).work.next w.sys.labels) = none)
    (moved : w.sys.move t r = (s, progress)) (going : progress ≠ .paused) :
    w.perform (.move t) = { w with sys := s } := by
  rw [World.perform, World.move_of_unlocked inside unlocked, moved]
  dsimp only
  rw [if_neg going]

theorem move_of_paused {s : System κ} (inside : w.turn t = some r)
    (unlocked : lockOfMove? w.sys ((w.sys.routine r).work.next w.sys.labels) = none)
    (moved : w.sys.move t r = (s, .paused)) :
    w.perform (.move t) = { w with sys := s, turn := w.without t } := by
  rw [World.perform, World.move_of_unlocked inside unlocked, moved]
  dsimp only
  rw [if_pos rfl]

/-- A callback needs a lock for what itself needs one for. -/
theorem unlocked_handling {q : QueueRef} {c : κ} (work : (w.sys.routine r).work = .reader q .handling c)
    (free : lockOfMove? w.sys (Program.next w.sys.labels c) = none) :
    lockOfMove? w.sys ((w.sys.routine r).work.next w.sys.labels) = none := by
  rw [work, Work.next]
  cases next : Program.next w.sys.labels c with
  | ask request rest =>
    rw [next] at free
    cases request <;> exact free
  | _ => rfl

namespace Flows

/-- A move that does not end the turn, and leaves the messages where they are. -/
theorem goOn (h : Flows p before ref todo w l) (hi : i < p.length) {f : Routine κ → Routine κ}
    (placement : ∀ x, (f x).placement = x.placement) (holder : ∀ x, (f x).holder = x.holder)
    (stands : Stands p before.labels i (f (w.sys.routine (ref i)))
      (w.sys.queue (p.queue i)).messages (Inside w (ref i)) (todo i)) :
    Flows p before ref todo { w with sys := w.sys.modifyRoutine (ref i) f } l :=
  ⟨h.poised.goOn hi placement holder (fun _ _ => rfl) stands, h.balanced⟩

/-- A move that ends the turn. -/
theorem leave (h : Flows p before ref todo w l) (hi : i < p.length) (inside : w.turn t = some (ref i))
    {f : Routine κ → Routine κ} (placement : ∀ x, (f x).placement = x.placement)
    (holder : ∀ x, (f x).holder = x.holder)
    (stands : ∀ inside, Stands p before.labels i (f (w.sys.routine (ref i)))
      (w.sys.queue (p.queue i)).messages inside (todo i)) :
    Flows p before ref todo
      { w with sys := w.sys.modifyRoutine (ref i) f, turn := w.without t } l := by
  have others : ∀ u r, r ≠ ref i → (w.without t u = some r ↔ w.turn u = some r) := by
    intro u r other
    unfold World.without
    split
    · next own =>
      rw [own, inside]
      exact ⟨nofun, fun same => absurd (Option.some.inj same).symm other⟩
    · exact Iff.rfl
  have held : ∀ u, w.without t u = some (ref i) →
      (f (w.sys.routine (ref i))).holder = some u := by
    intro u still
    unfold World.without at still
    split at still
    · cases still
    · exact (holder _).trans (h.poised.held i hi u still)
  exact h.modifyRoutine hi placement others held (stands _)

/-- The body looks into its queue. A message that it finds is handed to the callback. -/
theorem look (h : Flows p before ref todo w l) (formed : p.WellFormed before) (hi : i < p.length)
    (inside : w.turn t = some (ref i)) (alive : (w.sys.routine (ref i)).stopped = false) {c : κ}
    (work : (w.sys.routine (ref i)).work = .reader (p.queue i) .fetching c) (rests : p.rests i c)
    (nothing : todo i = []) (state : (w.sys.routine (ref i)).state = .dataWait) :
    ∃ todo, Flows p before ref todo (w.perform (.move t)) (p.record l w (.move t)) := by
  have there : Inside w (ref i) := ⟨t, inside⟩
  obtain ⟨popped, messages⟩ := h.poised.modifyQueue formed hi System.callback_pop
    ⟨alive, .fetching work rests nothing state there⟩
  rw [MessageQueue.messages_pop] at messages
  have delivery := delivery?_of_fetching inside work
  rw [move_of_going inside (by rw [work]; rfl) (System.move_fetching work t) nofun]
  cases queued : (w.sys.queue (p.queue i)).messages with
  | nil =>
    rw [queued, List.tail_nil] at messages
    refine ⟨todo, Flows.record ⟨?_, ?_⟩ w rfl fun j hj => ?_⟩
    · have empty := (messages i hi).trans (Function.update_self ..)
      exact popped.goOn hi (fun _ => rfl) (fun _ => rfl) (fun _ _ => rfl)
        ⟨alive, .idle rfl rests nothing state there (.inr empty)⟩
    · exact h.balanced.congr (fun _ _ => rfl) fun j hj => (messages j hj).trans
        (congrFun (Function.update_eq_self_iff.mpr queued.symm) j)
    · rw [delivery, queued]
      split <;> rfl
  | cons m rest =>
    rw [queued, List.tail_cons] at messages
    -- The callback has been handed the message, and has all that it makes of it still to put out.
    refine ⟨update todo i (p.output i m), ?_, ?_⟩
    · have emits := formed.emits i hi c rests m
      refine popped.goOn hi (fun _ => rfl) (fun _ => rfl)
        (fun _ other => Function.update_of_ne other ..) ⟨alive, ?_⟩
      rw [Function.update_self]
      exact .handling rfl emits state there
    · have balanced := h.balanced.deliver queued nothing
      have pushed : (p.record l w (.move t)).pushed = l.pushed := List.append_nil _
      rw [pushed]
      refine balanced.congr (fun j hj => ?_) messages
      show l.handed (ref j) ++ _ = _
      rw [delivery, queued]
      by_cases own : j = i
      · subst own
        rw [if_pos rfl, Function.update_self]
        rfl
      · rw [if_neg fun same => own (h.poised.own hj hi same), Function.update_of_ne own]
        exact List.append_nil _

/-- A move of the callback. -/
theorem handle (h : Flows p before ref todo w l) (formed : p.WellFormed before) (hi : i < p.length)
    (inside : w.turn t = some (ref i)) (alive : (w.sys.routine (ref i)).stopped = false) {c : κ}
    (work : (w.sys.routine (ref i)).work = .reader (p.queue i) .handling c)
    (emits : Emits before.labels (p.rests i) (p.next? i) c (todo i))
    (state : (w.sys.routine (ref i)).state = .dataWait) :
    ∃ todo, Flows p before ref todo (w.perform (.move t)) (p.record l w (.move t)) := by
  have there : Inside w (ref i) := ⟨t, inside⟩
  have silent := delivery?_of_phase inside work nofun
  rw [← h.poised.labelled] at emits
  -- Most moves leave the messages where they are and go on with what the callback does next.
  have goesOn : ∀ {s : System κ} {c' : κ}, s.routines = w.sys.routines → s.groups = w.sys.groups →
      s.queues = w.sys.queues → s.scheduler = w.sys.scheduler → s.labels = w.sys.labels →
      Emits before.labels (p.rests i) (p.next? i) c' (todo i) →
      Flows p before ref todo { w with sys := s.modifyRoutine (ref i) fun x =>
        { x with work := .reader (p.queue i) .handling c' } } l := by
    intro s c' routines groups queues scheduler labels emits
    have base := h.of_eq routines groups queues scheduler labels
    have same : s.routine (ref i) = w.sys.routine (ref i) :=
      congrArg (fun a : Arena (Routine κ) => a.get (ref i)) routines
    exact base.goOn hi (fun _ => rfl) (fun _ => rfl)
      ⟨(congrArg (·.stopped) same).trans alive,
        .handling rfl emits ((congrArg (·.state) same).trans state) there⟩
  generalize left : todo i = vs at emits
  cases emits with
  | @finish c rest next rests =>
    rw [move_of_going inside (unlocked_handling work (by rw [next]; rfl)) (System.move_finish work next t)
      nofun]
    refine ⟨todo, Flows.record ?_ w rfl fun j _ => silent (ref j)⟩
    exact h.goOn hi (fun _ => rfl) (fun _ => rfl) ⟨alive, .handled rfl rests left state there⟩
  | @skip c rest vs next more =>
    rw [move_of_going inside (unlocked_handling work (by rw [next]; rfl)) (System.move_skip work next t)
      nofun]
    refine ⟨todo, Flows.record ?_ w rfl fun j _ => silent (ref j)⟩
    rw [h.poised.labelled, ← left] at more
    exact goesOn rfl rfl rfl rfl rfl more
  | @await c rest vs gate next more =>
    rw [h.poised.labelled, ← left] at more
    have unlocked := unlocked_handling work (by rw [next]; rfl)
    obtain ⟨gates, closed | opened⟩ := System.move_await work next t
    · rw [move_of_going inside unlocked closed nofun]
      refine ⟨todo, Flows.record ?_ w rfl fun j _ => silent (ref j)⟩
      exact h.of_eq rfl rfl rfl rfl rfl
    · rw [move_of_going inside unlocked opened nofun]
      refine ⟨todo, Flows.record ?_ w rfl fun j _ => silent (ref j)⟩
      exact goesOn (s := { w.sys with reachedGates := gates }) rfl rfl rfl rfl rfl more
  | @trace c vs text rest next more =>
    rw [move_of_going inside (unlocked_handling work (by rw [next]; rfl)) (System.move_ask work next t)
      nofun]
    refine ⟨todo, Flows.record ?_ w rfl fun j _ => silent (ref j)⟩
    rw [h.poised.labelled, ← left] at more
    exact goesOn (s := w.sys.trace t text) rfl rfl rfl rfl rfl more
  | @identity c vs rest next more =>
    rw [move_of_going inside (unlocked_handling work (by rw [next]; rfl)) (System.move_ask work next t)
      nofun]
    refine ⟨todo, Flows.record ?_ w rfl fun j _ => silent (ref j)⟩
    rw [h.poised.labelled, ← left] at more
    exact goesOn rfl rfl rfl rfl rfl (more _ _)
  | @push c vs q v rest next out more =>
    rw [move_of_going inside (unlocked_handling work (by rw [next]; rfl)) (System.move_ask work next t)
      nofun]
    -- There is a next stage, and the message is for it.
    have last : i + 1 < p.length ∧ p.queue (i + 1) = q := by
      unfold Pipeline.next? at out
      split at out
      · next after => exact ⟨after, Option.some.inj out⟩
      · cases out
    obtain ⟨after, rfl⟩ := last
    obtain ⟨pushed, others, messages⟩ := h.poised.push formed after t v
    have same := others i hi (Nat.succ_ne_self i).symm
    refine ⟨update todo i vs, Flows.record ⟨?_, ?_⟩ w rfl fun j _ => silent (ref j)⟩
    · refine pushed.goOn hi (fun _ => rfl) (fun _ => rfl)
        (fun _ other => Function.update_of_ne other ..) ⟨(congrArg (·.stopped) same).trans alive, ?_⟩
      rw [Function.update_self, ← h.poised.labelled]
      exact .handling rfl more ((congrArg (·.state) same).trans state) there
    · exact (h.balanced.emit left).congr (fun _ _ => rfl) messages

/-- Every move of a stage keeps the books. -/
theorem move (h : Flows p before ref todo w l) (formed : p.WellFormed before) (hi : i < p.length)
    (inside : w.turn t = some (ref i)) :
    ∃ todo, Flows p before ref todo (w.perform (.move t)) (p.record l w (.move t)) := by
  have there : Inside w (ref i) := ⟨t, inside⟩
  obtain ⟨alive, phase⟩ := h.poised.stands i hi
  cases phase with
  | parking work rests nothing state =>
    rw [move_of_going inside (by rw [work]; rfl) (System.move_parking work t) nofun]
    refine ⟨todo, Flows.record ?_ w rfl fun j _ => delivery?_of_phase inside work nofun (ref j)⟩
    exact h.goOn hi (fun _ => rfl) (fun _ => rfl) ⟨alive, .fetching rfl rests nothing rfl there⟩
  | fetching work rests nothing state => exact h.look formed hi inside alive work rests nothing state
  | idle work rests nothing state _ heard =>
    rw [move_of_paused inside (by rw [work]; rfl) (System.move_idle work t)]
    refine ⟨todo, Flows.record ?_ w rfl fun j _ => delivery?_of_phase inside work nofun (ref j)⟩
    exact h.leave hi inside (fun _ => rfl) (fun _ => rfl)
      fun _ => ⟨alive, .parking rfl rests nothing (.inr ⟨state, heard⟩)⟩
  | handling work emits state => exact h.handle formed hi inside alive work emits state
  | handled work rests nothing state =>
    rw [move_of_paused inside (by rw [work]; rfl) (System.move_handled work t)]
    refine ⟨todo, Flows.record ?_ w rfl fun j _ => delivery?_of_phase inside work nofun (ref j)⟩
    exact h.leave hi inside (fun _ => rfl) (fun _ => rfl)
      fun _ => ⟨alive, .parking rfl rests nothing (.inl rfl)⟩

/-! ## 2. Everything that may happen -/

/-- A message from outside. -/
theorem push (h : Flows p before ref todo w l) (formed : p.WellFormed before) (t : Thread) (m : Int) :
    Flows p before ref todo { w with sys := w.sys.push t (p.queue 0) m }
      (p.record l w (.operate t (.push (p.queue 0) m))) := by
  obtain ⟨pushed, -, messages⟩ := h.poised.push formed formed.nonempty t m
  have arrival : p.arrival? (.operate t (.push (p.queue 0) m) : Turns.Action κ) = some m := if_pos rfl
  have outside : (p.record l w (.operate t (.push (p.queue 0) m))).pushed = l.pushed ++ [m] := by
    rw [Pipeline.record, arrival, Option.toList_some]
  refine ⟨pushed, ?_⟩
  rw [outside]
  exact (h.balanced.arrive m).congr (fun _ _ => List.append_nil _) messages

/-- What does not belong to the work of a pipeline has to leave it alone, so it neither brings a message nor
hands one to a stage. -/
theorem apart_record (h : Flows p before ref todo w l) {a : Turns.Action κ}
    (irregular : p.isRegular w a = false) (apart : p.Apart (p.routine w.sys) w (w.perform a)) :
    Flows p before ref todo (w.perform a) (p.record l w a) := by
  have same : ∀ i < p.length, p.routine w.sys i = ref i := fun i hi => h.poised.routine_eq hi
  have left : p.Apart ref w (w.perform a) := by
    obtain ⟨⟨sched, served⟩, labels, routine, messages, turn⟩ := apart
    refine ⟨⟨sched, served.work, ?_, ?_, served.bound, served.callback⟩, labels, ?_, messages, ?_⟩
    · intro i hi
      rw [← same i (Pipeline.mem_stages.mp hi)]
      exact served.live i hi
    · intro i hi j hj
      rw [← same i (Pipeline.mem_stages.mp hi), ← same j (Pipeline.mem_stages.mp hj)]
      exact served.own i hi j hj
    · intro i hi
      rw [← same i hi]
      exact routine i hi
    · intro i hi
      rw [← same i hi]
      exact turn i hi
  refine (h.apart left).record w ?_ fun i hi => ?_
  · cases a with
    | operate t o =>
      cases o with
      | push q m =>
        have other : ¬q = p.queue 0 := fun own => by
          rw [Pipeline.isRegular, own, beq_self_eq_true] at irregular
          cases irregular
        exact if_neg other
      | _ => rfl
    | _ => rfl
  · cases a with
    | move t =>
      have elsewhere : w.turn t ≠ some (ref i) := by
        intro inside
        have stage : (p.stages.any fun j => ref i == p.routine w.sys j) = true :=
          List.any_eq_true.mpr ⟨i, Pipeline.mem_stages.mpr hi, beq_iff_eq.mpr (same i hi).symm⟩
        rw [Pipeline.isRegular, inside, Option.all_some, stage] at irregular
        cases irregular
      exact if_neg elsewhere
    | _ => rfl

/-- Every allowed action keeps the books. -/
theorem perform (h : Flows p before ref todo w l) (formed : p.WellFormed before) {a : Turns.Action κ}
    (allowed : p.Allowed w a) : ∃ todo, Flows p before ref todo (w.perform a) (p.record l w a) := by
  cases regular : p.isRegular w a with
  | false =>
    have apart := allowed.resolve_left (by rw [regular]; exact Bool.false_ne_true)
    exact ⟨todo, h.apart_record regular apart⟩
  | true =>
    cases a with
    | enter t r => exact ⟨todo, (h.enter t r).record w rfl fun _ _ => rfl⟩
    | move t =>
      cases inside : w.turn t with
      | none =>
        have still : w.perform (.move t) = w := by
          rw [World.perform, World.move, inside]
        have away : ∀ q, w.turn t ≠ some q := by
          intro q there
          cases inside.symm.trans there
        rw [still]
        exact ⟨todo, h.record w rfl fun _ _ => if_neg (away _)⟩
      | some r =>
        rw [Pipeline.isRegular, inside, Option.all_some, List.any_eq_true] at regular
        obtain ⟨i, mem, own⟩ := regular
        have hi := Pipeline.mem_stages.mp mem
        exact h.move formed hi (inside.trans
          (congrArg some ((eq_of_beq own).trans (h.poised.routine_eq hi))))
    | operate t o =>
      cases o with
      | next g => exact ⟨todo, (h.next t g).record w rfl fun _ _ => rfl⟩
      | openGate gate =>
        refine ⟨todo, Flows.record ?_ w rfl fun _ _ => rfl⟩
        show Flows p before ref todo { w with sys := w.sys.openGate gate } l
        unfold System.openGate
        split
        · exact h
        · exact h.of_eq rfl rfl rfl rfl rfl
      | push q m =>
        obtain rfl := eq_of_beq regular
        exact ⟨todo, h.push formed t m⟩
      | onRoutine r op =>
        cases op with
        | release =>
          rw [Pipeline.isRegular, Bool.and_eq_true, bne_iff_ne] at regular
          exact ⟨todo, (h.release (eq_of_beq regular.1) regular.2).record w rfl fun _ _ => rfl⟩
        | _ => cases regular
      | _ => cases regular
    | _ => cases regular

end Flows

/-! ## 3. Histories -/

/-- When the stages have been created the books are balanced. -/
theorem Pipeline.Begins.flows (begins : p.Begins before w) :
    ∃ ref, Flows p before ref (fun _ => []) w {} := by
  obtain ⟨ref, sched, made⟩ := begins.established
  have listed : ∀ i < p.length, i ∈ p.stages := fun i hi => Pipeline.mem_stages.mpr hi
  refine ⟨ref, ⟨⟨sched, made.served⟩, made.labels, ?_, ?_⟩, ?_⟩
  · -- Whoever is in a turn entered it before the stages were there.
    intro i hi t inside
    exact absurd (begins.outside t _ inside) (Nat.not_lt.mpr (made.outside i (listed i hi)))
  · intro i hi
    have fresh := made.fresh i (listed i hi)
    exact ⟨fresh.alive, .parking fresh.work (begins.formed.rests i hi) rfl (.inl fresh.state)⟩
  · intro i hi
    cases i with
    | zero => simp [above, inflow, made.messages]
    | succ i => simp [above, inflow, made.messages]

theorem Pipeline.History.flows (begins : p.Begins before w₀) (history : p.History w₀ w l) :
    ∃ ref todo, Flows p before ref todo w l := by
  induction history with
  | start =>
    obtain ⟨ref, flows⟩ := begins.flows
    exact ⟨ref, _, flows⟩
  | step _ a allowed ih =>
    obtain ⟨ref, todo, flows⟩ := ih
    obtain ⟨todo', after⟩ := flows.perform begins.formed allowed
    exact ⟨ref, todo', after⟩

/-- The moves of a thread that is in a turn of a stage, or in none. -/
theorem Flows.moves (h : Flows p before ref todo w l) (formed : p.WellFormed before)
    (history : p.History w₀ w l) (inside : ∀ r, w.turn t = some r → ∃ i < p.length, ref i = r)
    (n : Nat) : ∃ l, p.History w₀ (World.moves t n w) l := by
  induction n generalizing todo w l with
  | zero => exact ⟨l, history⟩
  | succ n ih =>
    have regular : p.isRegular w (.move t) = true := by
      rw [Pipeline.isRegular, Option.all_eq_true]
      intro r there
      obtain ⟨i, hi, rfl⟩ := inside r there
      exact List.any_eq_true.mpr
        ⟨i, Pipeline.mem_stages.mpr hi, beq_iff_eq.mpr (h.poised.routine_eq hi).symm⟩
    have stays : ∀ r, (w.move t).turn t = some r → w.turn t = some r := by
      intro r still
      rcases w.move_cases t with same | ⟨q, -, -, moved⟩
      · rwa [same] at still
      · rw [moved] at still
        dsimp only at still
        split at still
        · rw [World.without, if_pos rfl] at still
          cases still
        · exact still
    obtain ⟨todo', after⟩ := h.perform formed (.inl regular)
    exact ih after (history.step (.move t) (.inl regular)) fun r still => inside r (stays r still)

/-- A thread that is in no turn may resume a stage as a whole. -/
theorem Pipeline.History.resume (begins : p.Begins before w₀) (history : p.History w₀ w l)
    (away : w.turn t = none) (unlocked : w.waiting = []) (hi : i < p.length) :
    ∃ w' l', p.History w₀ w' l' ∧ w'.sys = (w.sys.resume t (p.routine w.sys i)).1 := by
  obtain ⟨ref, todo, flows⟩ := history.flows begins
  have own := flows.poised.routine_eq hi
  obtain ⟨n, whole⟩ := w.moves_enter t (p.routine w.sys i) away unlocked
  obtain ⟨todo', entered⟩ := flows.perform begins.formed (a := .enter t (p.routine w.sys i)) (.inl rfl)
  have inside : ∀ r, (w.enter t (p.routine w.sys i)).turn t = some r → ∃ j < p.length, ref j = r := by
    intro r there
    have same : r = p.routine w.sys i := by
      rcases w.enter_cases t (p.routine w.sys i) with
        same | ⟨-, ended⟩ | ⟨n, refused⟩ | ⟨-, -, -, -, went⟩
      · rw [same, away] at there
        cases there
      · rw [ended] at there
        cases away.symm.trans there
      · rw [refused] at there
        cases away.symm.trans there
      · rw [went] at there
        exact (Option.some.inj ((if_pos rfl).symm.trans there)).symm
    exact ⟨i, hi, own.symm.trans same.symm⟩
  obtain ⟨l', moved⟩ := entered.moves begins.formed (history.step _ (.inl rfl)) inside n
  exact ⟨_, l', moved, whole⟩

/-! ## 4. At rest -/

/-- A stage is queued in a group of its scheduler, so that at rest it is not due. -/
theorem Flows.not_due (h : Flows p before ref todo w l) (hi : i < p.length) (rest : Resting t w.sys) :
    ¬w.sys.Due (ref i) := by
  obtain ⟨sched, served⟩ := h.poised.served
  have agree := served.work.agree
  obtain ⟨g, listed, -, home⟩ := agree.home?_of_find? (served.live i (Pipeline.mem_stages.mpr hi))
  have queued : ref i ∈ (w.sys.group g).slots :=
    System.Consistent.mem_slots.mpr ⟨_, agree.mem_of_home? listed home⟩
  exact System.not_due_of_nextRoutine (served.work.audible g listed)
    (rest.idle sched served.work.scheduler g listed) queued

/-- At rest every queue is empty, and nothing is left to be put into one. -/
theorem Flows.settled (h : Flows p before ref todo w l) (hi : i < p.length) (rest : Resting t w.sys) :
    (w.sys.queue (p.queue i)).messages = [] ∧ todo i = [] := by
  have outside := h.poised.outside_of_free hi (rest.free _)
  obtain ⟨c, -, -, nothing, state⟩ := (h.poised.stands i hi).phase.parked outside
  refine ⟨?_, nothing⟩
  have idle : ((w.sys.routine (ref i)).update w.sys.now).state ≠ .ready :=
    fun ready => h.not_due hi rest ⟨rest.free _, ready⟩
  rw [Routine.update] at idle
  rcases state with ready | ⟨waits, heard | empty⟩
  · rw [ready] at idle
    exact absurd ready idle
  · rw [waits, Routine.takeRecheck, heard] at idle
    exact absurd rfl idle
  · exact empty

theorem Flows.handed_eq (h : Flows p before ref todo w l) (hi : i < p.length) (rest : Resting t w.sys) :
    l.handed (p.routine w.sys i) = inflow (fun i => (before.queue (p.queue i)).messages) p.output l.pushed
      (fun i => l.handed (p.routine w.sys i)) i := by
  have handed := h.balanced.settled hi (fun j hj => (h.settled hj rest).1) fun j hj => (h.settled hj rest).2
  have same : ∀ j < p.length, p.routine w.sys j = ref j := fun j hj => h.poised.routine_eq hj
  rw [same i hi, handed]
  cases i with
  | zero => rfl
  | succ i => rw [inflow, inflow, same i (Nat.lt_of_succ_lt hi)]

/-- What came from outside alone decides what every callback has been handed. -/
theorem handed_eq_of_pushed_eq {w₀' w' : World κ} {l' : Ledger} {t' : Thread}
    (begins : p.Begins before w₀) (history : p.History w₀ w l) (rest : Resting t w.sys)
    (begins' : p.Begins before w₀') (history' : p.History w₀' w' l') (rest' : Resting t' w'.sys)
    (same : l.pushed = l'.pushed) (hi : i < p.length) :
    l.handed (p.routine w.sys i) = l'.handed (p.routine w'.sys i) := by
  obtain ⟨ref, todo, flows⟩ := history.flows begins
  obtain ⟨ref', todo', flows'⟩ := history'.flows begins'
  induction i with
  | zero => rw [flows.handed_eq hi rest, flows'.handed_eq hi rest', inflow, inflow, same]
  | succ i ih =>
    rw [flows.handed_eq hi rest, flows'.handed_eq hi rest', inflow, inflow,
      ih (Nat.lt_of_succ_lt hi)]

/-- However the stages of a pipeline are scheduled, when they come to rest all queues are empty, and every
callback has been handed what was in its queue at the beginning, followed by what came from outside or from
the stage before it. -/
theorem schedule_independent (begins : p.Begins before w₀) (history : p.History w₀ w l)
    (rest : Resting t w.sys) :
    (∀ i < p.length, (w.sys.queue (p.queue i)).messages = []) ∧
      l.handed (p.routine w.sys 0) = (before.queue (p.queue 0)).messages ++ l.pushed ∧
      ∀ i, i + 1 < p.length → l.handed (p.routine w.sys (i + 1)) =
        (before.queue (p.queue (i + 1))).messages ++
          (l.handed (p.routine w.sys i)).flatMap (p.output i) := by
  obtain ⟨ref, todo, flows⟩ := history.flows begins
  refine ⟨fun i hi => (flows.settled hi rest).1, ?_, fun i hi => ?_⟩
  · exact flows.handed_eq begins.formed.nonempty rest
  · exact flows.handed_eq hi rest

end Main

/-- Of every message the first stage makes two, and the second one makes nothing. -/
def doubling : Pipeline Script where
  length := 2
  name i := if i = 0 then "double" else "sink"
  queue i := i
  callback i := .ofActions (if i = 0 then [.forward "next" 2 0, .forward "next" 2 1] else [])
  output i m :=
    if i = 0 then [(Int64.ofInt (m * 2 + 0)).toInt, (Int64.ofInt (m * 2 + 1)).toInt] else []
  rests i c := c.actions = if i = 0 then [.forward "next" 2 0, .forward "next" 2 1] else []

/-- A scheduler has been started, and a message is there for the first stage. -/
def started : System Script :=
  System.startScheduler
    { queues := ⟨#[{ older := [5] }, {}]⟩, labels := { queues := [("next", 1)] } } .main {}

/-- The second stage has been created before the first one. -/
def began : World Script := { sys := (doubling.create .main [1, 0] started).getD started }

/-- A whole turn of a processor, of so many moves. -/
def wholeTurn (p : Nat) (r : RoutineRef) (moves : Nat) : List (Turns.Action Script) :=
  .operate (.processor p) (.next 0) :: .enter (.processor p) r ::
    (List.replicate moves (.move (.processor p)) ++ [.operate (.processor p) (.onRoutine r .release)])

/-- The first processor serves the second stage while the other one is in the middle of a turn of the first
stage, and then a message comes from outside. -/
def steps : List (Turns.Action Script) :=
  let go := Turns.Action.move (.processor 1)
  wholeTurn 0 0 3 ++
    [.operate (.processor 1) (.next 0), .enter (.processor 1) 1, go, go, go] ++ wholeTurn 0 0 4 ++
    [go, .operate .main (.push 0 7), go, go, .operate (.processor 1) (.onRoutine 1 .release)] ++
    wholeTurn 0 0 4 ++ wholeTurn 0 0 3 ++ wholeTurn 1 1 6 ++ wholeTurn 0 0 4 ++ wholeTurn 0 0 4 ++
    wholeTurn 0 0 3 ++ wholeTurn 1 1 3 ++ wholeTurn 1 1 3

/-- What these steps come to. -/
def ran : World Script × Ledger := doubling.replay steps began {}

theorem doubling_wellFormed : doubling.WellFormed started := by
  have labels : started.labels = { queues := [("next", 1)] } := rfl
  have cases : ∀ {P : Nat → Prop}, P 0 → P 1 → ∀ i < doubling.length, P i := by
    intro P first second i hi
    rcases i with _ | _ | i
    · exact first
    · exact second
    · exact absurd hi (Nat.not_lt.mpr (Nat.le_add_left 2 i))
  refine ⟨Nat.two_pos, fun i hi => hi, fun _ _ _ _ same => same, fun i _ => rfl, ?_⟩
  refine cases ?_ ?_
  · rintro ⟨actions, counter, message, todo⟩ rests m
    obtain rfl : actions = _ := rests
    rw [labels]
    exact .push rfl rfl (.push rfl rfl (.finish rfl rfl))
  · rintro ⟨actions, counter, message, todo⟩ rests m
    obtain rfl : actions = _ := rests
    rw [labels]
    exact .finish rfl rfl

theorem begins_began : doubling.Begins started began := by
  have granted : (doubling.create .main [1, 0] started).isSome = true := by decide +kernel
  obtain ⟨s, created⟩ := Option.isSome_iff_exists.mp granted
  have sys : began.sys = s := by
    rw [began, created, Option.getD_some]
  refine ⟨doubling_wellFormed, startScheduler_atWork _ _ _, ⟨.main, [1, 0], .swap 0 1 [], ?_⟩, nofun⟩
  rw [created, sys]

theorem resting_ran : Resting .main ran.1.sys := by
  have free : ∀ r < ran.1.sys.routines.size, (ran.1.sys.routine r).holder = none := by decide +kernel
  have idle : (ran.1.sys.scheduler.all fun sched =>
      sched.roster.refs.all fun g => (ran.1.sys.nextRoutine .main g).2.isNone) = true := by
    decide +kernel
  refine ⟨fun r => ?_, fun sched hs g hg => ?_⟩
  · by_cases there : r < ran.1.sys.routines.size
    · exact free r there
    · rw [System.routine, Arena.get_of_size_le _ (Nat.not_lt.mp there)]
      rfl
  · rw [hs, Option.all_some, List.all_eq_true] at idle
    exact Option.isNone_iff_eq_none.mp (idle g hg)

/-- Both callbacks were handed everything in order. -/
theorem handed_doubling :
    doubling.Begins started began ∧ doubling.History began ran.1 ran.2 ∧ Resting .main ran.1.sys ∧
      ran.2.pushed = [7] ∧ ran.2.handed (doubling.routine ran.1.sys 0) = [5, 7] ∧
      ran.2.handed (doubling.routine ran.1.sys 1) = [10, 11, 14, 15] := by
  have regular : doubling.areRegular steps began = true := by decide +kernel
  have history : doubling.History began ran.1 ran.2 := Pipeline.History.start.replay regular
  have pushed : ran.2.pushed = [7] := by decide +kernel
  have full : (started.queue (doubling.queue 0)).messages = [5] := rfl
  have empty : (started.queue (doubling.queue 1)).messages = [] := rfl
  have doubled : [5, 7].flatMap (doubling.output 0) = [10, 11, 14, 15] := by decide +kernel
  obtain ⟨-, first, later⟩ := schedule_independent begins_began history resting_ran
  rw [full, pushed] at first
  have second := later 0 (by decide)
  rw [Nat.zero_add, empty, first, List.nil_append, List.singleton_append, doubled] at second
  exact ⟨begins_began, history, resting_ran, pushed, first, second⟩

end CoopSched.Pipelines
