import CoopSched.Proofs.Turns.Resting
import CoopSched.Script
/-!
# No message is lost, doubled or put out of order

Any number of routines read one queue. They come and go: they are created, removed and stopped, between any two
moves of their bodies and in the middle of their turns. Messages are pushed from outside and by bodies, also
after a shutdown, and the arrival callback is replaced at will.

* A callback is entered only by a look into the queue that finds a message, with that message, and in the same
  move (`Conserved.entered`, `Conserved.only`). So there is no moment at which a message has left the queue and
  has not come to a callback.
* At every moment the messages that were handed to callbacks, in the order in which the callbacks were entered,
  followed by what is in the queue, are the messages that were pushed (`messages_conserved`).

Nobody but the readers takes messages out of the queue (`Reserved`). A turn is any number of moves, so whole
resumes, calls and shutdowns are runs of the actions here (`World.moves_enter`, `World.sweeps_shut`).
-/

namespace CoopSched.Turns

open CoopSched.System (Within)

variable {κ : Type} {q : QueueRef}

/-! ## 1. What is pushed and what is handed over -/

/-- The message that a move of a body puts into the queue. -/
def sent? {σ : Type} (q : QueueRef) : Move κ σ → Option Int
  | .ask (.push p message) _ => if p = q then some message else none
  | _ => none

/-- The message that a look into the queue hands to the callback of a reader. -/
def taken? (q : QueueRef) (s : System κ) : Work κ → Option Int
  | .reader p .fetching _ => if p = q then (s.fetch q).2 else none
  | _ => none

variable [Program κ]

/-- The message that an action puts into the queue. -/
def pushed? (q : QueueRef) (w : World κ) : Action κ → Option Int
  | .operate _ (.push p message) => if p = q then some message else none
  | .move t => (w.turn t).bind fun r => sent? q ((w.sys.routine r).work.next w.sys.labels)
  | _ => none

omit [Program κ] in
/-- The message that an action hands to a callback. -/
def handed? (q : QueueRef) (w : World κ) : Action κ → Option Int
  | .move t => (w.turn t).bind fun r => taken? q w.sys (w.sys.routine r).work
  | _ => none

/-- Nobody but the readers of the queue takes messages out of it. -/
def Reserved (q : QueueRef) (w : World κ) : Action κ → Prop
  | .operate _ (.fetch p) => p ≠ q
  | .move t => ∀ r rest, w.turn t = some r →
      (w.sys.routine r).work.next w.sys.labels = .ask (.fetch q) rest →
      ∃ c, (w.sys.routine r).work = .reader q .fetching c
  | _ => True

/-- The messages that were pushed, and those that were handed to callbacks. -/
structure Ledger where
  pushed : List Int
  handed : List Int := []
  deriving DecidableEq, Repr

/-- The ledger after an action. -/
def Ledger.record (l : Ledger) (q : QueueRef) (w : World κ) (a : Action κ) : Ledger where
  pushed := l.pushed ++ (pushed? q w a).toList
  handed := l.handed ++ (handed? q w a).toList

/-- Any number of actions, in any order, and the ledger of them. What is in the queue at the beginning counts as
pushed. -/
inductive History (q : QueueRef) (w₀ : World κ) : World κ → Ledger → Prop
  | start : History q w₀ w₀ { pushed := (w₀.sys.queue q).messages }
  | step {w : World κ} {l : Ledger} (history : History q w₀ w l) (a : Action κ) (reserved : Reserved q w a) :
      History q w₀ (w.perform a) (l.record q w a)

/-! ## 2. What an action does to the queue -/

variable {w w₀ : World κ} {a : Action κ} {l : Ledger}

omit [Program κ] in
/-- A leeway for the messages of one queue. -/
def onQueue (q : QueueRef) (P : List Int → List Int → Prop) : Leeway κ where
  routine _ _ _ := True
  queue p x y := p = q → P x.messages y.messages

omit [Program κ] in
theorem lenient_onQueue {P : List Int → List Int → Prop} (refl : ∀ ms, P ms ms)
    (trans : ∀ {l m n}, P l m → P m n → P l n) : (onQueue (κ := κ) q P).Lenient where
  refl _ _ := trivial
  trans _ _ := trivial
  refl_queue _ _ _ := refl _
  trans_queue first second same := trans (first same) (second same)
  place _ _ _ _ := trivial
  flag _ _ := trivial
  stop _ _ := trivial
  install _ _ _ _ := refl _

omit [Program κ] in
/-- A leeway in which the messages of the queue stay as they are. -/
theorem lenient_same (q : QueueRef) : (onQueue (κ := κ) q fun ms ms' => ms' = ms).Lenient :=
  lenient_onQueue (fun _ => rfl) fun first second => second.trans first

/-- A caller or a body takes a message out of the queue, if there is one. -/
def Fetches (q : QueueRef) (w : World κ) : Action κ → Prop
  | .operate _ (.fetch p) => p = q
  | .move t => ∃ r rest, w.turn t = some r ∧
      (w.sys.routine r).work.next w.sys.labels = .ask (.fetch q) rest
  | _ => False

/-- An action that pushes nothing into the queue takes at most its first message away. -/
theorem covered_onQueue {P : List Int → List Int → Prop} (unpushed : pushed? q w a = none)
    (fetched : Fetches q w a → ∀ ms : List Int, P ms ms.tail) : w.CoveredBy (onQueue q P) a := by
  have taken : Fetches q w a → ∀ x : MessageQueue, P x.messages x.pop.1.messages :=
    fun fetches x => x.messages_pop ▸ fetched fetches x.messages
  cases a with
  | enter t r => exact fun _ _ => trivial
  | move t =>
    intro r inside
    refine ⟨fun _ _ => trivial, ?_⟩
    rw [pushed?, inside, Option.bind_some] at unpushed
    cases next : (w.sys.routine r).work.next w.sys.labels with
    | ask request rest =>
      cases request with
      | push p message =>
        rintro _ rfl
        rw [next, sent?, if_pos rfl] at unpushed
        cases unpushed
      | fetch p =>
        rintro x rfl
        exact taken ⟨r, rest, inside, next⟩ x
      | onRoutine x op => exact fun _ _ => trivial
      | setState state => exact fun _ => trivial
      | _ => trivial
    | pause how rest => exact fun _ _ => trivial
    | finish rest => exact fun _ => trivial
    | panic reason => exact fun _ => trivial
    | skip rest => trivial
    | await gate rest => trivial
  | operate t o =>
    cases o with
    | push p message =>
      rintro _ rfl
      rw [pushed?, if_pos rfl] at unpushed
      cases unpushed
    | fetch p => exact fun x same => taken same x
    | next g => exact fun _ _ _ _ _ _ => trivial
    | onRoutine r op => exact fun _ _ => trivial
    | setState r state => exact fun _ => trivial
    | _ => trivial
  | _ => trivial

omit [Program κ] in
/-- To announce a message does not move any. -/
theorem messages_push {s : System κ} (bound : q < s.queues.size) (t : Thread) (message : Int) :
    ((s.push t q message).queue q).messages = (s.queue q).messages ++ [message] := by
  have size : q < (s.modifyQueue q (·.push message)).queues.size := by
    rwa [System.modifyQueue, Arena.size_modify]
  have announced :=
    (Within.fireCallback (lenient_same q) (s.modifyQueue q (·.push message)) t q).queue q size rfl
  rw [System.push, announced, System.queue_modifyQueue, if_pos ⟨rfl, bound⟩, MessageQueue.messages_push]

/-- The look of a reader into its queue. -/
theorem perform_fetching {t : Thread} {r : RoutineRef} {c : κ} (inside : w.turn t = some r)
    (work : (w.sys.routine r).work = .reader q .fetching c) :
    (w.perform (.move t)).sys = (w.sys.modifyQueue q (·.pop.1)).modifyRoutine r fun x =>
      { x with work := System.looked q c (w.sys.queue q).messages.head? } := by
  have unlocked : lockOfMove? w.sys ((w.sys.routine r).work.next w.sys.labels) = none := by
    rw [work]
    rfl
  rw [World.perform, World.move_of_unlocked inside unlocked, System.move_fetching work]

omit [Program κ] in
theorem handed?_fetching {t : Thread} {r : RoutineRef} {c : κ} (inside : w.turn t = some r)
    (work : (w.sys.routine r).work = .reader q .fetching c) :
    handed? q w (.move t) = (w.sys.queue q).messages.head? := by
  rw [handed?, inside, Option.bind_some, work, taken?, if_pos rfl, System.fetch, MessageQueue.pop_eq_head?]

/-- A message is pushed by a caller or by a body. -/
theorem pushed?_cases {message : Int} (pushed : pushed? q w a = some message) :
    (∃ t, a = .operate t (.push q message)) ∨ ∃ t r rest, a = .move t ∧ w.turn t = some r ∧
      (w.sys.routine r).work.next w.sys.labels = .ask (.push q message) rest := by
  have sender : ∀ {σ : Type} {m : Move κ σ}, sent? q m = some message →
      ∃ rest, m = .ask (.push q message) rest := by
    intro σ m sent
    cases m with
    | ask request rest =>
      cases request with
      | push p value =>
        rw [sent?] at sent
        split at sent
        · next same =>
          cases sent
          exact ⟨rest, same ▸ rfl⟩
        · cases sent
      | _ => cases sent
    | _ => cases sent
  cases a with
  | operate t o =>
    cases o with
    | push p value =>
      rw [pushed?] at pushed
      split at pushed
      · next same =>
        cases pushed
        exact .inl ⟨t, same ▸ rfl⟩
      · cases pushed
    | _ => cases pushed
  | move t =>
    obtain ⟨r, inside, sent⟩ := Option.bind_eq_some_iff.mp pushed
    obtain ⟨rest, next⟩ := sender sent
    exact .inr ⟨t, r, rest, rfl, inside, next⟩
  | _ => cases pushed

omit [Program κ] in
/-- A message is handed over by a look of a reader into the queue. -/
theorem handed?_cases {message : Int} (handed : handed? q w a = some message) :
    ∃ t r c, a = .move t ∧ w.turn t = some r ∧ (w.sys.routine r).work = .reader q .fetching c ∧
      (w.sys.queue q).messages.head? = some message := by
  cases a with
  | move t =>
    obtain ⟨r, inside, taken⟩ := Option.bind_eq_some_iff.mp handed
    cases work : (w.sys.routine r).work with
    | reader p phase c =>
      cases phase with
      | fetching =>
        rw [work, taken?] at taken
        split at taken
        · next same =>
          subst same
          rw [System.fetch, MessageQueue.pop_eq_head?] at taken
          exact ⟨t, r, c, rfl, inside, work, taken⟩
        · cases taken
      | _ =>
        rw [work] at taken
        cases taken
    | _ =>
      rw [work] at taken
      cases taken
  | _ => cases handed

/-- Who pushes does not look. -/
theorem handed?_of_pushed {message : Int} (pushed : pushed? q w a = some message) : handed? q w a = none := by
  refine Option.eq_none_iff_forall_ne_some.mpr fun value handed => ?_
  obtain ⟨t, r, c, rfl, inside, work, -⟩ := handed?_cases handed
  rcases pushed?_cases pushed with ⟨u, other⟩ | ⟨u, x, rest, same, there, next⟩
  · cases other
  · cases same
    cases inside.symm.trans there
    rw [work] at next
    cases next

/-- A message that is pushed comes to the end of the queue. -/
theorem messages_of_pushed (bound : q < w.sys.queues.size) {message : Int}
    (pushed : pushed? q w a = some message) :
    ((w.perform a).sys.queue q).messages = (w.sys.queue q).messages ++ [message] := by
  rcases pushed?_cases pushed with ⟨t, rfl⟩ | ⟨t, r, rest, rfl, inside, next⟩
  · exact messages_push bound t message
  · rw [World.perform_ask inside next rfl, System.queue_modifyRoutine]
    exact messages_push bound t message

/-- What an action hands over is taken from the head of the queue, and what it pushes is put at its end. -/
theorem messages_perform (bound : q < w.sys.queues.size) (reserved : Reserved q w a) :
    (handed? q w a).toList ++ ((w.perform a).sys.queue q).messages =
      (w.sys.queue q).messages ++ (pushed? q w a).toList := by
  cases pushed : pushed? q w a with
  | some message =>
    rw [handed?_of_pushed pushed, messages_of_pushed bound pushed]
    rfl
  | none =>
    rw [Option.toList_none, List.append_nil]
    by_cases reads : ∃ t r c, a = .move t ∧ w.turn t = some r ∧ (w.sys.routine r).work = .reader q .fetching c
    · obtain ⟨t, r, c, rfl, inside, work⟩ := reads
      have rest : ((w.perform (.move t)).sys.queue q).messages = (w.sys.queue q).messages.tail := by
        rw [perform_fetching inside work, System.queue_modifyRoutine, System.queue_modifyQueue,
          if_pos ⟨rfl, bound⟩, MessageQueue.messages_pop]
      rw [handed?_fetching inside work, rest]
      cases (w.sys.queue q).messages <;> rfl
    · have unread : handed? q w a = none := by
        refine Option.eq_none_iff_forall_ne_some.mpr fun message handed => ?_
        obtain ⟨t, r, c, move, inside, work, -⟩ := handed?_cases handed
        exact reads ⟨t, r, c, move, inside, work⟩
      have unfetched : ¬Fetches q w a := by
        intro fetches
        cases a with
        | move t =>
          obtain ⟨r, rest, inside, next⟩ := fetches
          obtain ⟨c, work⟩ := reserved r rest inside next
          exact reads ⟨t, r, c, rfl, inside, work⟩
        | operate t o =>
          cases o with
          | fetch p => exact reserved fetches
          | _ => exact fetches
        | _ => exact fetches
      have covered : w.CoveredBy (onQueue q fun ms ms' => ms' = ms) a :=
        covered_onQueue pushed fun fetches => absurd fetches unfetched
      rw [unread, (World.within_perform (lenient_same q) w covered).queue q bound rfl]
      rfl

/-- A queue gets longer only by a message that is pushed. -/
theorem length_perform (bound : q < w.sys.queues.size) :
    ((w.perform a).sys.queue q).messages.length ≤
      (w.sys.queue q).messages.length + (pushed? q w a).isSome.toNat := by
  cases pushed : pushed? q w a with
  | some message =>
    rw [messages_of_pushed bound pushed, List.length_append]
    rfl
  | none =>
    have covered : w.CoveredBy (onQueue q fun ms ms' => ms'.length ≤ ms.length) a :=
      covered_onQueue pushed fun _ ms => ms.length_tail ▸ Nat.sub_le _ _
    have lenient : (onQueue (κ := κ) q fun ms ms' => ms'.length ≤ ms.length).Lenient :=
      lenient_onQueue (fun _ => Nat.le_refl _) fun first second => Nat.le_trans second first
    exact (World.within_perform lenient w covered).queue q bound rfl

/-! ## 3. Where callbacks are entered -/

/-- Where a body is after its move. -/
inductive Leads : Move κ (Work κ) → Work κ → Prop
  | skip (rest : Work κ) : Leads (.skip rest) rest
  | ask (request : Request κ) (rest : Reply → Work κ) (reply : Reply) : Leads (.ask request rest) (rest reply)
  | pause (how : Pause) (rest : Work κ) : Leads (.pause how rest) rest
  | await (gate : String) (rest : Work κ) : Leads (.await gate rest) rest
  | finish (rest : Work κ) : Leads (.finish rest) .finished
  | panic (reason : String) : Leads (.panic reason) .finished

/-- A move leads its body on, unless it waits at a gate. -/
theorem leads_move {s : System κ} {r : RoutineRef} (bound : r < s.routines.size) (t : Thread) :
    ((s.move t r).1.routine r).work = (s.routine r).work ∨
      Leads ((s.routine r).work.next s.labels) ((s.move t r).1.routine r).work := by
  have goOn : ∀ {s : System κ} (work : Work κ), r < s.routines.size →
      ((s.modifyRoutine r fun x => { x with work }).routine r).work = work := by
    intro s work bound
    rw [System.routine_modifyRoutine, if_pos ⟨rfl, bound⟩]
  have close : ∀ {s : System κ}, r < s.routines.size →
      ((s.modifyRoutine r fun x => { x with work := .finished, state := .finished }).routine r).work =
        .finished := by
    intro s bound
    rw [System.routine_modifyRoutine, if_pos ⟨rfl, bound⟩]
  unfold System.move
  dsimp only
  split
  · next rest next =>
    right
    rw [goOn rest bound, next]
    exact .skip rest
  · next request rest next =>
    right
    have served : Rests none s (s.serve t r request).1 := .serve s t r request
    rw [goOn _ (Nat.lt_of_lt_of_le bound served.size), next]
    exact .ask request rest _
  · next how rest next =>
    right
    have paused : ∀ (x : Routine κ) (now : Nat), (x.pause now how).work = x.work := by
      intro x now
      cases how <;> rfl
    rw [System.routine_modifyRoutine, if_pos ⟨rfl, by rwa [System.size_modifyRoutine]⟩, paused, goOn rest bound,
      next]
    exact .pause how rest
  · next gate rest next =>
    have reached : (if s.reachedGates.contains gate then s
        else { s with reachedGates := gate :: s.reachedGates }).routines = s.routines := by
      split <;> rfl
    revert reached
    generalize (if s.reachedGates.contains gate then s
        else { s with reachedGates := gate :: s.reachedGates }) = s'
    intro reached
    split
    · right
      rw [goOn rest (by rwa [reached]), next]
      exact .await gate rest
    · left
      rw [System.routine, reached]
      rfl
  · next rest next =>
    right
    rw [close bound, next]
    exact .finish rest
  · next reason next =>
    right
    have reported : r < (s.report t (.panicked (s.routine r).name reason)).routines.size := bound
    rw [close reported, next]
    exact .panic reason

/-- Only a look into the queue leads into a callback. -/
theorem reads_of_leads {work : Work κ} {labels : Labels} {c : κ} (outside : ∀ c, work ≠ .reader q .handling c)
    (leads : Leads (work.next labels) (.reader q .handling c)) : ∃ c, work = .reader q .fetching c := by
  generalize after : (Work.reader q .handling c) = rest at leads
  cases work with
  | body k =>
    rw [Work.next] at leads
    cases next : Program.next labels k with
    | _ =>
      rw [next, Move.bind] at leads
      cases leads
      cases after
  | finished =>
    cases leads
    cases after
  | reader p phase callback =>
    cases phase with
    | fetching =>
      rw [Work.next] at leads
      cases leads with
      | ask request rest reply =>
        dsimp only at after
        split at after <;> cases after
        exact ⟨callback, rfl⟩
    | handling =>
      rw [Work.next] at leads
      cases next : Program.next labels callback with
      | _ =>
        rw [next, Move.bind] at leads
        cases leads
        cases after <;> exact absurd rfl (outside _)
    | parking =>
      cases leads
      cases after
    | idle =>
      cases leads
      cases after
    | handled =>
      cases leads
      cases after

/-- What the look of a reader into its queue leads to. -/
theorem work_of_reading {t : Thread} {r : RoutineRef} {c : κ} (bound : r < w.sys.routines.size)
    (inside : w.turn t = some r) (work : (w.sys.routine r).work = .reader q .fetching c) :
    ((w.perform (.move t)).sys.routine r).work = System.looked q c (w.sys.queue q).messages.head? := by
  rw [perform_fetching inside work, System.routine_modifyRoutine, if_pos ⟨rfl, bound⟩]

/-- A callback is entered by the look of its own body into the queue, and by nothing else. -/
theorem reading_of_entered {r : RoutineRef} {c : κ} (bound : r < w.sys.routines.size)
    (outside : ∀ c, (w.sys.routine r).work ≠ .reader q .handling c)
    (entered : ((w.perform a).sys.routine r).work = .reader q .handling c) :
    ∃ t c₀, a = .move t ∧ w.turn t = some r ∧ (w.sys.routine r).work = .reader q .fetching c₀ := by
  by_cases own : w.turnOf? a = some r
  · cases a with
    | move t =>
      have inside : w.turn t = some r := own
      rcases w.move_cases t with blocked | ⟨x, there, -, moved⟩
      · rw [World.perform, blocked] at entered
        exact absurd entered (outside c)
      · cases inside.symm.trans there
        rw [World.perform, moved] at entered
        rcases leads_move bound t with stays | leads
        · exact absurd (stays.symm.trans entered) (outside c)
        · rw [entered] at leads
          obtain ⟨c₀, work⟩ := reads_of_leads outside leads
          exact ⟨t, c₀, rfl, inside, work⟩
    | _ => cases own
  · exact absurd (((w.rests_perform a).work r bound own).symm.trans entered) (outside c)

/-! ## 4. Every history -/

/-- How the messages of a queue are accounted for. -/
structure Conserved (q : QueueRef) (w : World κ) (l : Ledger) : Prop where
  bound : q < w.sys.queues.size
  /-- What was handed over and what is in the queue is what was pushed, in the same order. -/
  balance : l.handed ++ (w.sys.queue q).messages = l.pushed
  /-- What an action hands over is the first message of the queue, and a callback is entered with it. -/
  entered : ∀ a message, handed? q w a = some message → (w.sys.queue q).messages.head? = some message ∧
    ∃ t r c, a = .move t ∧ w.turn t = some r ∧
      ((w.perform a).sys.routine r).work = .reader q .handling (Program.deliver c message)
  /-- A callback is entered in no other way. -/
  only : ∀ a, ∀ r < w.sys.routines.size, (∀ c, (w.sys.routine r).work ≠ .reader q .handling c) →
    ∀ c, ((w.perform a).sys.routine r).work = .reader q .handling c →
      ∃ message c₀, handed? q w a = some message ∧ c = Program.deliver c₀ message

theorem History.balance (history : History q w₀ w l) (bound : q < w₀.sys.queues.size) :
    q < w.sys.queues.size ∧ l.handed ++ (w.sys.queue q).messages = l.pushed := by
  induction history with
  | start => exact ⟨bound, rfl⟩
  | @step w l _ a reserved ih =>
    obtain ⟨bound, balance⟩ := ih
    refine ⟨Nat.lt_of_lt_of_le bound (w.bounds_perform a).2, ?_⟩
    calc l.handed ++ (handed? q w a).toList ++ ((w.perform a).sys.queue q).messages
        = l.handed ++ ((w.sys.queue q).messages ++ (pushed? q w a).toList) := by
          rw [List.append_assoc, messages_perform bound reserved]
      _ = l.pushed ++ (pushed? q w a).toList := by rw [← List.append_assoc, balance]

/-- However many routines read the queue, and whatever becomes of them. -/
theorem messages_conserved (bound : q < w₀.sys.queues.size) (history : History q w₀ w l) : Conserved q w l := by
  obtain ⟨bound, balance⟩ := history.balance bound
  refine ⟨bound, balance, fun a message handed => ?_, fun a r there outside c entered => ?_⟩
  · obtain ⟨t, r, c, rfl, inside, work, first⟩ := handed?_cases handed
    have there : r < w.sys.routines.size := by
      refine Nat.lt_of_not_le fun beyond => ?_
      have finished : (w.sys.routine r).work = .finished := congrArg Routine.work (Arena.get_of_size_le _ beyond)
      cases finished.symm.trans work
    refine ⟨first, t, r, c, rfl, inside, ?_⟩
    rw [work_of_reading there inside work, first]
    rfl
  · obtain ⟨t, c₀, rfl, inside, work⟩ := reading_of_entered there outside entered
    rw [work_of_reading there inside work] at entered
    rw [handed?_fetching inside work]
    cases first : (w.sys.queue q).messages.head? with
    | none =>
      rw [first] at entered
      cases entered
    | some message =>
      rw [first] at entered
      cases entered
      exact ⟨message, c₀, rfl, rfl⟩

/-- A callback that gives up its turn when it has said what it got. -/
def slow : Script := Script.ofActions [.message "got", .pause .keep]

/-- A scheduler and a queue. -/
def opened : World Script := { sys := (System.startScheduler {} .main {}).addQueue.1 }

/-- A reader is created and a message is pushed. While the reader is in its callback its removal begins, and
another message is pushed. -/
def removedInside : World Script :=
  [.operate .main (.newRoutine 7 "t" (.reader 0 .parking slow)), .operate .main (.dispatch 0),
    .operate .main (.push 0 5), .operate (.processor 0) (.next 0), .enter (.processor 0) 0,
    .move (.processor 0), .move (.processor 0), .remove .main 7, .operate .main (.push 0 6)].foldl
    World.perform opened

theorem history_removedInside : History 0 opened removedInside { pushed := [5, 6], handed := [5] } := by
  have nothing : History 0 opened opened { pushed := [] } := .start
  have added := nothing.step (.operate .main (.newRoutine 7 "t" (.reader 0 .parking slow))) trivial
  have pushed := (added.step (.operate .main (.dispatch 0)) trivial).step (.operate .main (.push 0 5)) trivial
  have entered := (pushed.step (.operate (.processor 0) (.next 0)) trivial).step (.enter (.processor 0) 0) trivial
  have parked := entered.step (.move (.processor 0)) fun r rest inside next => by
    cases inside
    cases next
  have handed := parked.step (.move (.processor 0)) fun r rest inside next => by
    cases inside
    exact ⟨slow, rfl⟩
  exact (handed.step (.remove .main 7) trivial).step (.operate .main (.push 0 6)) trivial

/-- The message that the reader has got counts as handed over, and the other one is still in the queue. -/
theorem conserved_removedInside : Conserved 0 removedInside { pushed := [5, 6], handed := [5] } ∧
    (removedInside.sys.queue 0).messages = [6] := by
  have bound : 0 < opened.sys.queues.size := Nat.one_pos
  exact ⟨messages_conserved bound history_removedInside, rfl⟩

end CoopSched.Turns
