import CoopSched.Proofs.Pipelines.Effects
import CoopSched.Proofs.Tasks.Start
/-!
# What may become of routines and queues

A `Leeway` says of every routine and of every queue what may become of it. `Within L s s'` says that nothing
has gone beyond the leeway from the one system to the other; new routines and queues may have come. If the
leeway allows what scheduling does of its own accord (`Leeway.Lenient`), it is kept by every operation, as long
as it covers what the caller has asked for. This is said once for the calls (`Operation.within_apply`), for the
moves of bodies (`System.Within.move`) and for whatever happens next in a world (`World.within_perform`), so that an
invariant of single routines or queues needs no case for each operation.

Of a single routine it is enough to know the calls that are applied to it, the states that callers put it into,
and whether its own body moves (`World.related_perform`).
-/

namespace CoopSched

variable {κ : Type}

/-- What may become of a routine, and of a queue. -/
structure Leeway (κ : Type) where
  routine : RoutineRef → Routine κ → Routine κ → Prop
  queue : QueueRef → MessageQueue → MessageQueue → Prop

/-- What a call does to a routine, at a time. -/
def RoutineOp.change (t : Thread) (now : Nat) (x : Routine κ) : RoutineOp → Routine κ
  | .stop => x.stop
  | .wake => x.wake
  | .hangUp => x.hangUp
  | .recheck => x.requestRecheck
  | .release => x.release
  | .acquire => (x.acquire t).1
  | .update => x.update now
  | .look => x

namespace Leeway

/-- The leeway can be used again and again. It allows to place a routine, to flag it and to stop it, and to
install a callback. -/
structure Lenient (L : Leeway κ) : Prop where
  refl : ∀ r x, L.routine r x x
  trans : ∀ {r x y z}, L.routine r x y → L.routine r y z → L.routine r x z
  refl_queue : ∀ q x, L.queue q x x
  trans_queue : ∀ {q x y z}, L.queue q x y → L.queue q y z → L.queue q x z
  place : ∀ r x group priority, L.routine r x { x with group, priority }
  flag : ∀ r x, L.routine r x x.requestRecheck
  stop : ∀ r x, L.routine r x x.stop
  install : ∀ q x callback, L.queue q x (x.install callback)

/-- A routine that is due may be handed out. -/
def Picks (L : Leeway κ) : Prop :=
  ∀ r x t now, x.holder = none → (x.update now).state = .ready →
    L.routine r x { x.update now with holder := some t }

/-- A routine may go on with its work. -/
def Advances (L : Leeway κ) (r : RoutineRef) : Prop := ∀ x work, L.routine r x { x with work }

/-- The leeway covers what the body of a routine asks for. -/
def Grants (L : Leeway κ) (t : Thread) (r : RoutineRef) : Request κ → Prop
  | .setState state => ∀ x, L.routine r x (x.setState state)
  | .push q message => ∀ x, L.queue q x (x.push message)
  | .fetch q => ∀ x, L.queue q x x.pop.1
  | .onRoutine x op => ∀ y now, L.routine x y (op.change t now y)
  | _ => True

/-- The leeway covers a move of the body of a routine, apart from its work. -/
def Covers {σ : Type} (L : Leeway κ) (t : Thread) (r : RoutineRef) : Move κ σ → Prop
  | .ask request _ => L.Grants t r request
  | .pause how _ => ∀ x now, L.routine r x (x.pause now how)
  | .finish _ | .panic _ => ∀ x, L.routine r x (x.setState .finished)
  | .skip _ | .await .. => True

end Leeway

namespace System

variable {s s' s'' : System κ} {L : Leeway κ} {r : RoutineRef}

/-! ## 1. Systems with the same routines and queues -/

/-- The same routines and the same queues. -/
structure Inert (s s' : System κ) : Prop where
  routines : s'.routines = s.routines
  queues : s'.queues = s.queues

namespace Inert

theorem refl (s : System κ) : Inert s s := ⟨rfl, rfl⟩

theorem trans (h : Inert s s') (h' : Inert s' s'') : Inert s s'' :=
  ⟨h'.routines.trans h.routines, h'.queues.trans h.queues⟩

theorem foldl {α : Type} {step : System κ → α → System κ} (h : ∀ s a, Inert s (step s a)) (as : List α)
    (s : System κ) : Inert s (as.foldl step s) := by
  induction as generalizing s with
  | nil => exact .refl s
  | cons a as ih => exact (h s a).trans (ih (step s a))

theorem foldl_fst {α γ : Type} {step : System κ × γ → α → System κ × γ}
    (h : ∀ acc a, Inert acc.1 (step acc a).1) (as : List α) (acc : System κ × γ) :
    Inert acc.1 (as.foldl step acc).1 := by
  induction as generalizing acc with
  | nil => exact .refl acc.1
  | cons a as ih => exact (h acc a).trans (ih (step acc a))

theorem reportAll (s : System κ) (t : Thread) (ns : List Notice) : Inert s (s.reportAll t ns) := by
  rw [reportAll_eq]
  exact ⟨rfl, rfl⟩

theorem reportRefusal (s : System κ) (t : Thread) (processor : String) (outcome : Except Error Unit) :
    Inert s (s.reportRefusal t processor outcome) := by
  unfold System.reportRefusal
  split <;> exact ⟨rfl, rfl⟩

theorem startProcessor (s : System κ) (t : Thread) (conf : SchedGroup) (cpus : List Nat) (g : GroupRef)
    (index : Nat) : Inert s (s.startProcessor t conf cpus g index).1 := by
  unfold System.startProcessor
  dsimp only
  refine trans ?_ (reportRefusal _ t _ _)
  refine trans ?_ (reportAll _ t _)
  refine trans ?_ (reportRefusal _ t _ _)
  exact ⟨rfl, rfl⟩

theorem startProcessors (s : System κ) (t : Thread) (roster : Roster) (conf : SchedGroup) :
    Inert s (s.startProcessors t roster conf).1 := by
  have started : ∀ (s : System κ) (cpus : List Nat), Inert s
      ((List.range conf.processorNum).foldl (fun acc index =>
        ((acc.1.startProcessor t conf cpus (roster.findOrDefault conf.name) index).1,
          acc.2 ++ [(acc.1.startProcessor t conf cpus (roster.findOrDefault conf.name) index).2]))
        (s, [])).1 := by
    intro s cpus
    refine foldl_fst (fun acc index => ?_) _ (s, [])
    exact startProcessor acc.1 t conf cpus _ index
  unfold System.startProcessors
  dsimp only
  split
  · exact started s _
  · exact trans (⟨rfl, rfl⟩ : Inert s (s.report t _)) (started _ [])

theorem addRoster (s : System κ) (names : List String) : Inert s (s.addRoster names).1 := by
  have opened : ∀ (acc : System κ × List (String × GroupRef)) (name : String),
      Inert acc.1 (openNext acc name).1 := fun _ _ => ⟨rfl, rfl⟩
  exact foldl_fst opened _ (s, [])

theorem withScheduler (h : Inert s s') (scheduler : Option Scheduler) (schedulers : Nat) :
    Inert s { s' with scheduler, schedulers } :=
  ⟨h.routines, h.queues⟩

theorem pinWhole (s : System κ) (t : Thread) (spec : String) :
    Inert s (if spec.isEmpty then s
      else match pinProcess s.machine spec with
        | .ok _ => s
        | .error cause => s.report t (.processCpusetRefused cause)) := by
  split
  · exact .refl s
  · split <;> exact ⟨rfl, rfl⟩

theorem startScheduler (s : System κ) (t : Thread) (conf : SchedulerConf) :
    Inert s (s.startScheduler t conf) := by
  unfold System.startScheduler
  dsimp only
  have said : ∀ (s : System κ) (n : Notice), Inert s (s.report t n) := fun _ _ => ⟨rfl, rfl⟩
  refine withScheduler (trans ?_ (said _ _)) _ _
  refine trans ?_ (foldl_fst (fun acc group => ?_) _ _)
  · refine trans (trans (trans ?_ (reportAll _ t _)) (addRoster _ _)) (pinWhole _ t _)
    split <;> exact ⟨rfl, rfl⟩
  · exact startProcessors acc.1 t _ group

theorem stopProcessor (s : System κ) (t : Thread) (p : Nat) : Inert s (s.stopProcessor t p) := by
  unfold System.stopProcessor
  dsimp only
  split
  · exact .refl s
  · cases (s.processor p).group <;> (split <;> exact ⟨rfl, rfl⟩)

theorem stopServedGroups (s : System κ) (processors : List Nat) :
    Inert s (s.stopServedGroups processors) :=
  foldl (fun s g => (⟨rfl, rfl⟩ : Inert s (s.modifyGroup g Group.shutdown))) _ s

theorem openGate (s : System κ) (gate : String) : Inert s (s.openGate gate) := by
  unfold System.openGate
  split <;> exact ⟨rfl, rfl⟩

end Inert

theorem queues_dispatch (s : System κ) (t : Thread) (r : RoutineRef) : (s.dispatch t r).1.queues = s.queues := by
  rcases dispatch_cases s t r with same | ⟨n, refused⟩ | ⟨sched, -, -, placed⟩
  · rw [same]
  · rw [refused]
    rfl
  · rw [placed, place_queues]
    rfl

/-- A call on a routine changes that routine. -/
theorem applyOp_eq (s : System κ) (t : Thread) (r : RoutineRef) (op : RoutineOp) :
    (s.applyOp t r op).1 = s.modifyRoutine r (op.change t s.now) := by
  cases op with
  | look => exact (modifyRoutine_eq_self s rfl).symm
  | _ => rfl

/-! ## 2. Within a leeway -/

/-- Every routine and every queue is still there, and within its leeway. -/
structure Within (L : Leeway κ) (s s' : System κ) : Prop where
  routines : s.routines.size ≤ s'.routines.size
  queues : s.queues.size ≤ s'.queues.size
  routine : ∀ r < s.routines.size, L.routine r (s.routine r) (s'.routine r)
  queue : ∀ q < s.queues.size, L.queue q (s.queue q) (s'.queue q)

namespace Within

theorem of_inert (h : L.Lenient) (inert : Inert s s') : Within L s s' where
  routines := Nat.le_of_eq (congrArg Arena.size inert.routines.symm)
  queues := Nat.le_of_eq (congrArg Arena.size inert.queues.symm)
  routine r _ := by
    rw [System.routine, System.routine, inert.routines]
    exact h.refl r _
  queue q _ := by
    rw [System.queue, System.queue, inert.queues]
    exact h.refl_queue q _

theorem of_eq (h : L.Lenient) (routines : s'.routines = s.routines) (queues : s'.queues = s.queues) :
    Within L s s' :=
  of_inert h ⟨routines, queues⟩

theorem refl (h : L.Lenient) (s : System κ) : Within L s s := of_eq h rfl rfl

theorem trans (w : Within L s s') (h : L.Lenient) (w' : Within L s' s'') : Within L s s'' where
  routines := Nat.le_trans w.routines w'.routines
  queues := Nat.le_trans w.queues w'.queues
  routine r hr := h.trans (w.routine r hr) (w'.routine r (Nat.lt_of_lt_of_le hr w.routines))
  queue q hq := h.trans_queue (w.queue q hq) (w'.queue q (Nat.lt_of_lt_of_le hq w.queues))

theorem modifyRoutine (h : L.Lenient) (s : System κ) (r : RoutineRef) {f : Routine κ → Routine κ}
    (allowed : L.routine r (s.routine r) (f (s.routine r))) : Within L s (s.modifyRoutine r f) where
  routines := Nat.le_of_eq (size_modifyRoutine ..).symm
  queues := Nat.le_refl _
  routine q _ := by
    rw [routine_modifyRoutine]
    split
    · next same => exact same.1 ▸ allowed
    · exact h.refl q _
  queue q _ := h.refl_queue q _

theorem modifyQueue (h : L.Lenient) (s : System κ) (q : QueueRef) {f : MessageQueue → MessageQueue}
    (allowed : L.queue q (s.queue q) (f (s.queue q))) : Within L s (s.modifyQueue q f) where
  routines := Nat.le_refl _
  queues := Nat.le_of_eq (Arena.size_modify ..).symm
  routine r _ := h.refl r _
  queue p _ := by
    rw [queue_modifyQueue]
    split
    · next same => exact same.1 ▸ allowed
    · exact h.refl_queue p _

theorem addRoutine (h : L.Lenient) (s : System κ) (id : UInt64) (name : String) (work : Work κ) :
    Within L s (s.addRoutine id name work).1 := by
  have kept : Keeps (fun x => x) s (s.addRoutine id name work).1 := .addRoutine s id name work
  refine ⟨kept.size, Nat.le_refl _, fun r hr => ?_, fun q _ => h.refl_queue q _⟩
  rw [kept.routine r hr]
  exact h.refl r _

theorem addQueue (h : L.Lenient) (s : System κ) : Within L s s.addQueue.1 where
  routines := Nat.le_refl _
  queues := by
    show s.queues.size ≤ (s.queues.add _).size
    rw [Arena.size_add]
    exact Nat.le_succ _
  routine r _ := h.refl r _
  queue q hq := by
    have old : s.addQueue.1.queue q = s.queue q := by
      show (s.queues.add _).get q = s.queues.get q
      rw [Arena.get_add, if_neg (Nat.ne_of_lt hq)]
    rw [old]
    exact h.refl_queue q _

theorem foldl (h : L.Lenient) {α : Type} {step : System κ → α → System κ}
    (each : ∀ s a, Within L s (step s a)) (as : List α) (s : System κ) : Within L s (as.foldl step s) := by
  induction as generalizing s with
  | nil => exact .refl h s
  | cons a as ih => exact (each s a).trans h (ih (step s a))

/-! ### Notifications and arrivals -/

theorem notifyProcessor (h : L.Lenient) (s : System κ) (id : UInt64) :
    Within L s (s.notifyProcessor id).1 := by
  have flagged : ∀ r, Within L s (s.flagIfWaiting r) := by
    intro r
    unfold flagIfWaiting
    split
    · exact .modifyRoutine h s r (h.flag r _)
    · exact .refl h s
  have told : ∀ (s : System κ) (roster : Roster) (name : String),
      Within L s (s.notifyGroupNamed roster name).1 := by
    intro s roster name
    unfold notifyGroupNamed
    split <;> exact of_eq h rfl rfl
  unfold System.notifyProcessor
  split
  · exact .refl h s
  · split
    · exact .refl h s
    · split
      · exact .refl h s
      · exact (flagged _).trans h (told _ _ _)

theorem notifyTask (h : L.Lenient) (s : System κ) (id : UInt64) : Within L s (s.notifyTask id).1 := by
  unfold System.notifyTask
  split
  · exact .refl h s
  · split
    · exact .refl h s
    · exact notifyProcessor h s id

theorem announce (h : L.Lenient) (s : System κ) (t : Thread) (a : Announcement) :
    Within L s (s.announce t a) := by
  cases a with
  | trace text => exact of_eq h rfl rfl
  | recheck r => exact .modifyRoutine h s r (h.flag r _)
  | notifyGroup g => exact of_eq h rfl rfl
  | notifyTask serial id =>
    simp only [System.announce]
    split
    · exact notifyProcessor h s id
    · exact .refl h s

theorem fireCallback (h : L.Lenient) (s : System κ) (t : Thread) (q : QueueRef) :
    Within L s (s.fireCallback t q) :=
  foldl h (fun s a => announce h s t a) _ s

theorem push (h : L.Lenient) (s : System κ) (t : Thread) (q : QueueRef) {message : Int}
    (allowed : ∀ x, L.queue q x (x.push message)) : Within L s (s.push t q message) :=
  (modifyQueue h s q (allowed _)).trans h (fireCallback h _ t q)

/-! ### Selection -/

theorem applyOp (h : L.Lenient) (s : System κ) (t : Thread) (r : RoutineRef) (op : RoutineOp)
    (allowed : ∀ x now, L.routine r x (op.change t now x)) : Within L s (s.applyOp t r op).1 := by
  rw [applyOp_eq]
  exact .modifyRoutine h s r (allowed _ _)

theorem nextRoutine (h : L.Lenient) (picks : L.Picks) (s : System κ) (t : Thread) (g : GroupRef) :
    Within L s (s.nextRoutine t g).1 := by
  rcases nextRoutine_cases s t g with same | ⟨r, ⟨free, ready⟩, picked⟩
  · rw [same]
    exact .refl h s
  · rw [picked]
    exact .modifyRoutine h s r (picks r _ t _ free ready)

/-! ### Tasks -/

/-- A routine wherever it is placed. -/
def unplaced (x : Routine κ) : Routine κ := { x with group := "", priority := 0 }

theorem place_of_unplaced {x y : Routine κ} (same : unplaced y = unplaced x) :
    y = { x with group := y.group, priority := y.priority } := by
  have back : ∀ z : Routine κ, z = { unplaced z with group := z.group, priority := z.priority } :=
    fun _ => rfl
  rw [back y, same]
  rfl

theorem dispatch (h : L.Lenient) (s : System κ) (t : Thread) (r : RoutineRef) :
    Within L s (s.dispatch t r).1 := by
  have kept : Keeps unplaced s (s.dispatch t r).1 := keeps_dispatch (fun _ _ _ => rfl) s t r
  refine ⟨kept.size, Nat.le_of_eq (congrArg Arena.size (queues_dispatch s t r)).symm, ?_, ?_⟩
  · intro q hq
    rw [place_of_unplaced (kept.routine q hq)]
    exact h.place q _ _ _
  · intro q _
    rw [System.queue, System.queue, queues_dispatch]
    exact h.refl_queue q _

theorem createTask (h : L.Lenient) (s : System κ) (t : Thread) (work : Work κ) (name : String)
    (source : Option QueueRef) : Within L s (s.createTask t work name source).1 := by
  cases hs : s.scheduler with
  | none =>
    simp only [System.createTask, hs]
    exact .refl h s
  | some sched =>
    cases running : sched.stopped with
    | true =>
      simp only [System.createTask, hs, running, if_true]
      exact of_eq h rfl rfl
    | false =>
      have named : Within L s (s.modifyScheduler fun x =>
          { x with names := (sched.names.register name).1 }) := of_eq h rfl rfl
      have enrolled : Within L s (s.enrolled t sched name work).1 :=
        named.trans h ((addRoutine h _ _ name work).trans h (of_eq h rfl rfl))
      have dispatched := enrolled.trans h (dispatch h _ t (s.enrolled t sched name work).2)
      rw [createTask_eq hs running]
      revert dispatched
      rcases (s.enrolled t sched name work).1.dispatch t (s.enrolled t sched name work).2 with
        ⟨after, granted⟩
      intro dispatched
      cases granted with
      | false => exact dispatched
      | true =>
        cases source with
        | none => exact dispatched
        | some q => exact dispatched.trans h (.modifyQueue h after q (h.install q _ _))

/-- A removal stops the routine. It holds it no longer than it takes to unlink it. -/
theorem removeRoutine (h : L.Lenient) (s : System κ) (t : Thread) (g : GroupRef) (r : RoutineRef) :
    Within L s (s.removeRoutine t g r).1 := by
  unfold System.removeRoutine
  split
  · exact .refl h s
  · next level position target _ =>
    have stopped : Within L s (s.modifyRoutine target Routine.stop) :=
      .modifyRoutine h s target (h.stop target _)
    split
    · next s₁ outcome =>
      rw [Exclusion.acquire_of_refused outcome]
      exact stopped.trans h (of_eq h rfl rfl)
    · next s₁ outcome =>
      have queues : s₁.queues = s.queues := congrArg (fun x => x.1.queues) outcome.symm
      exact stopped.trans h (of_eq h (Exclusion.release_of_acquired outcome rfl) queues)

theorem removeById (h : L.Lenient) (s : System κ) (t : Thread) (id : UInt64) :
    Within L s (s.removeById t id).1 := by
  unfold System.removeById
  split
  · exact .refl h s
  · split
    · exact .refl h s
    · next sched _ r _ =>
      have erased : Within L s (s.modifyScheduler fun sched =>
          { sched with tasks := sched.tasks.erase id }) := of_eq h rfl rfl
      exact (erased.trans h (.modifyRoutine h _ r (h.stop r _))).trans h (removeRoutine h _ t _ r)

theorem removeFromBody (h : L.Lenient) (s : System κ) (t : Thread) (name : String) :
    Within L s (s.removeFromBody t name).1 := by
  unfold System.removeFromBody
  split
  · exact .refl h s
  · dsimp only
    unfold System.removeTask
    split
    · exact .refl h s
    · split
      · exact .refl h s
      · exact removeById h s t (taskId name)

/-! ### Moves -/

theorem serve (h : L.Lenient) (s : System κ) (t : Thread) (r : RoutineRef) {request : Request κ}
    (grants : L.Grants t r request) : Within L s (s.serve t r request).1 := by
  cases request with
  | trace text => exact of_eq h rfl rfl
  | identity => exact .refl h s
  | setState state => exact .modifyRoutine h s r (grants _)
  | push q message => exact push h s t q grants
  | fetch q => exact modifyQueue h s q (grants _)
  | onRoutine x op => exact applyOp h s t x op grants
  | create name body source =>
    simp only [System.serve]
    split
    · exact .refl h s
    · exact createTask h s t (.body body) name source
  | remove name =>
    simp only [System.serve]
    split
    · exact .refl h s
    · exact removeFromBody h s t name
  | notify name =>
    simp only [System.serve]
    split
    · exact .refl h s
    · exact notifyTask h s (taskId name)
  | stopProcessor =>
    cases t with
    | processor p => exact of_inert h (.stopProcessor s (.processor p) p)
    | main => exact .refl h s
    | helper => exact .refl h s

theorem move [Program κ] (h : L.Lenient) (s : System κ) (t : Thread) (r : RoutineRef)
    (advances : L.Advances r) (covers : L.Covers t r ((s.routine r).work.next s.labels)) :
    Within L s (s.move t r).1 := by
  have goOn : ∀ (s : System κ) (work : Work κ), Within L s (s.modifyRoutine r fun x => { x with work }) :=
    fun s work => .modifyRoutine h s r (advances _ work)
  have close : (∀ x, L.routine r x (x.setState .finished)) → ∀ s : System κ, Within L s
      (s.modifyRoutine r fun x => { x with work := .finished, state := .finished }) :=
    fun finish s => .modifyRoutine h s r (h.trans (advances _ .finished) (finish _))
  unfold System.move
  dsimp only
  split
  · exact goOn s _
  · next request rest next =>
    rw [next] at covers
    exact (serve h s t r covers).trans h (goOn _ _)
  · next how rest next =>
    rw [next] at covers
    exact (goOn s rest).trans h (.modifyRoutine h _ r (covers _ _))
  · next gate rest _ =>
    have reached : Within L s (if s.reachedGates.contains gate then s
        else { s with reachedGates := gate :: s.reachedGates }) := by
      split <;> exact of_eq h rfl rfl
    revert reached
    generalize (if s.reachedGates.contains gate then s
        else { s with reachedGates := gate :: s.reachedGates }) = s'
    intro reached
    split
    · exact reached.trans h (goOn s' rest)
    · exact reached
  · next next =>
    rw [next] at covers
    exact close covers s
  · next reason next =>
    rw [next] at covers
    have reported : Within L s (s.report t (.panicked (s.routine r).name reason)) := of_eq h rfl rfl
    exact reported.trans h (close covers _)

end Within

end System

/-! ## 3. Worlds -/

namespace Turns

open CoopSched.Lifecycle (stopProcessors)
open CoopSched.System (Inert Within)

variable {L : Leeway κ}

/-- The leeway covers a call. -/
def Operation.CoveredBy (L : Leeway κ) (t : Thread) : Operation κ → Prop
  | .next _ => L.Picks
  | .onRoutine r op => ∀ x now, L.routine r x (op.change t now x)
  | .setState r state => ∀ x, L.routine r x (x.setState state)
  | .push q message => ∀ x, L.queue q x (x.push message)
  | .fetch q => ∀ x, L.queue q x x.pop.1
  | _ => True

theorem Operation.within_apply (h : L.Lenient) (s : System κ) (t : Thread) {o : Operation κ}
    (covers : o.CoveredBy L t) : System.Within L s (o.apply s t) := by
  cases o with
  | start conf => exact .of_inert h (.startScheduler s t conf)
  | forget => exact .of_eq h rfl rfl
  | newRoutine id name work => exact .addRoutine h s id name work
  | newGroup name => exact .of_eq h rfl rfl
  | newQueue => exact .addQueue h s
  | create work name source => exact .createTask h s t work name source
  | dispatch r => exact .dispatch h s t r
  | notifyTask id => exact .notifyTask h s id
  | notifyProcessor id => exact .notifyProcessor h s id
  | next g => exact .nextRoutine h covers s t g
  | insert g r => exact .of_eq h rfl rfl
  | unlink g r => exact .removeRoutine h s t g r
  | notifyGroup g => exact .of_eq h rfl rfl
  | silenceGroup g => exact .of_eq h rfl rfl
  | waitGroup g => exact .of_eq h rfl rfl
  | onRoutine r op => exact .applyOp h s t r op covers
  | setState r state => exact .modifyRoutine h s r (covers _)
  | setPriority r priority => exact .modifyRoutine h s r (h.place r _ _ priority)
  | setGroup r name => exact .modifyRoutine h s r (h.place r _ name _)
  | push q message => exact .push h s t q covers
  | fetch q => exact .modifyQueue h s q (covers _)
  | install q callback => exact .modifyQueue h s q (h.install q _ callback)
  | stopProcessor p => exact .of_inert h (.stopProcessor s t p)
  | openGate gate => exact .of_inert h (.openGate s gate)
  | elapse millis => exact .of_eq h rfl rfl

namespace World

theorem within_remove (h : L.Lenient) (w : World κ) (t : Thread) (id : UInt64) :
    Within L w.sys (w.remove t id).sys := by
  have removed : Within L w.sys (w.sys.removeById t id).1 := .removeById h w.sys t id
  unfold remove
  split
  · exact .refl h w.sys
  · split
    · next heq =>
      rw [heq] at removed
      exact removed
    · next heq =>
      rw [heq] at removed
      exact removed

theorem within_conclude (h : L.Lenient) (w : World κ) (t : Thread) (id : UInt64) :
    Within L w.sys (w.conclude t id).sys := by
  unfold conclude
  split
  · exact .refl h w.sys
  · next p _ =>
    have removed : Within L w.sys (w.sys.removeRoutine t p.group p.routine).1 :=
      .removeRoutine h w.sys t p.group p.routine
    split
    · exact .refl h w.sys
    · next heq =>
      rw [heq] at removed
      exact removed

theorem within_shut (h : L.Lenient) (w : World κ) (t : Thread) : Within L w.sys (w.shut t).sys := by
  unfold shut
  split
  · exact .refl h w.sys
  · split
    · exact .refl h w.sys
    · next sched _ _ =>
      have raised : Inert w.sys ((w.sys.modifyScheduler fun sched => { sched with stopped := true }).report t
          .shuttingDown) := ⟨rfl, rfl⟩
      exact .of_inert h (raised.trans (.stopServedGroups _ _))

theorem within_sweep (h : L.Lenient) (w : World κ) (t : Thread) : Within L w.sys (w.sweep t).sys := by
  have left : Inert w.sys (w.sys.modifyScheduler fun sched => { sched with processors := [] }) := ⟨rfl, rfl⟩
  have ended : Inert w.sys (stopProcessors w.sys t) :=
    left.trans (.foldl (fun s p => .stopProcessor s t p) _ _)
  unfold sweep
  split
  · exact .refl h w.sys
  · split <;> exact .refl h w.sys
  · split
    · exact .refl h w.sys
    · exact within_remove h w t _
  · exact .of_inert h ended

variable [Program κ]

/-- The leeway covers what happens next. -/
def CoveredBy (w : World κ) (L : Leeway κ) : Action κ → Prop
  | .enter _ r => ∀ x, x.stopped = true → L.routine r x (x.setState .finished)
  | .move t => ∀ r, w.turn t = some r →
      L.Advances r ∧ L.Covers t r ((w.sys.routine r).work.next w.sys.labels)
  | .operate t o => o.CoveredBy L t
  | _ => True

/-- Whatever happens next stays within a leeway that covers it. -/
theorem within_perform (h : L.Lenient) (w : World κ) {a : Action κ} (covers : w.CoveredBy L a) :
    Within L w.sys (w.perform a).sys := by
  cases a with
  | enter t r =>
    rw [perform]
    rcases w.enter_cases t r with same | ⟨stopped, finished⟩ | ⟨n, refused⟩ | ⟨-, -, -, -, entered⟩
    · rw [same]
      exact .refl h w.sys
    · rw [finished]
      exact .modifyRoutine h w.sys r (covers _ stopped)
    · rw [refused]
      exact .of_eq h rfl rfl
    · rw [entered]
      exact .refl h w.sys
  | move t =>
    rw [perform]
    rcases w.move_cases t with same | ⟨r, inside, -, moved⟩
    · rw [same]
      exact .refl h w.sys
    · obtain ⟨advances, covers⟩ := covers r inside
      rw [moved]
      exact .move h w.sys t r advances covers
  | operate t o =>
    simp only [perform, operate]
    split
    · exact .refl h w.sys
    · exact o.within_apply h w.sys t covers
  | remove t id => exact within_remove h w t id
  | removeTask t name =>
    simp only [perform, removeTask]
    split
    · exact .refl h w.sys
    · exact within_remove h w t (taskId name)
  | conclude t id => exact within_conclude h w t id
  | shut t => exact within_shut h w t
  | sweep t => exact within_sweep h w t

/-! ## 4. A single routine -/

variable {R : Routine κ → Routine κ → Prop} {r : RoutineRef}

/-- A caller or a body applies a call to the routine. -/
def Applies (r : RoutineRef) (op : RoutineOp) (w : World κ) : Action κ → Prop
  | .operate _ (.onRoutine q call) => q = r ∧ call = op
  | .move t => ∃ q rest, w.turn t = some q ∧
      (w.sys.routine q).work.next w.sys.labels = .ask (.onRoutine r op) rest
  | _ => False

omit [Program κ] in
/-- A caller puts the routine into a state of his choice. -/
def Sets (r : RoutineRef) : Action κ → Prop
  | .operate _ (.setState q _) => q = r
  | _ => False

omit [Program κ] in
/-- The body of the routine makes a move. -/
def MovesIn (r : RoutineRef) (w : World κ) (a : Action κ) : Prop := ∃ t, a = .move t ∧ w.turn t = some r

omit [Program κ] in
/-- The relation allows what scheduling does to a routine of its own accord. -/
structure Tolerant (R : Routine κ → Routine κ → Prop) : Prop where
  refl : ∀ x, R x x
  trans : ∀ {x y z}, R x y → R y z → R x z
  place : ∀ x group priority, R x { x with group, priority }
  flag : ∀ x, R x x.requestRecheck
  stop : ∀ x, R x x.stop
  pick : ∀ x t now, x.holder = none → (x.update now).state = .ready →
    R x { x.update now with holder := some t }
  finish : ∀ x, x.stopped = true → R x (x.setState .finished)

omit [Program κ] in
/-- A leeway for one routine. -/
def only (r : RoutineRef) (R : Routine κ → Routine κ → Prop) : Leeway κ where
  routine q x y := q = r → R x y
  queue _ _ _ := True

omit [Program κ] in
theorem lenient_only (h : Tolerant R) : (only r R).Lenient where
  refl _ x _ := h.refl x
  trans first second same := h.trans (first same) (second same)
  refl_queue _ _ := trivial
  trans_queue _ _ := trivial
  place _ x group priority _ := h.place x group priority
  flag _ x _ := h.flag x
  stop _ x _ := h.stop x
  install _ _ _ := trivial

/-- The relation allows what an action does to the routine on request. -/
structure Suits (R : Routine κ → Routine κ → Prop) (r : RoutineRef) (w : World κ) (a : Action κ) : Prop where
  applies : ∀ op, Applies r op w a → ∀ t now x, R x (op.change t now x)
  sets : Sets r a → ∀ x state, R x (x.setState state)
  moves : MovesIn r w a → ∀ x work state wakeAt, R x { x with work, state, wakeAt }

theorem covered_only (h : Tolerant R) {w : World κ} {a : Action κ} (suits : Suits R r w a) :
    w.CoveredBy (only r R) a := by
  cases a with
  | enter t q => exact fun x stopped _ => h.finish x stopped
  | move t =>
    intro q inside
    have own : ∀ x work state wakeAt, (only r R).routine q x { x with work, state, wakeAt } :=
      fun x work state wakeAt same => suits.moves ⟨t, rfl, same ▸ inside⟩ x work state wakeAt
    refine ⟨fun x work => own x work x.state x.wakeAt, ?_⟩
    cases next : (w.sys.routine q).work.next w.sys.labels with
    | ask request rest =>
      cases request with
      | onRoutine x op =>
        exact fun y now same => suits.applies op ⟨q, rest, inside, same ▸ next⟩ t now y
      | setState state => exact fun x => own x x.work state x.wakeAt
      | push p message => exact fun _ => trivial
      | fetch p => exact fun _ => trivial
      | _ => trivial
    | pause how rest =>
      intro x now
      cases how with
      | keep => exact own x x.work x.state x.wakeAt
      | become state => exact own x x.work state x.wakeAt
      | sleep millis => exact own x x.work .sleep (now + millis)
    | finish rest => exact fun x => own x x.work .finished x.wakeAt
    | panic reason => exact fun x => own x x.work .finished x.wakeAt
    | skip rest => trivial
    | await gate rest => trivial
  | operate t o =>
    cases o with
    | next g => exact fun q x u now free ready _ => h.pick x u now free ready
    | onRoutine q op => exact fun x now same => suits.applies op ⟨same, rfl⟩ t now x
    | setState q state => exact fun x same => suits.sets same x state
    | push q message => exact fun _ => trivial
    | fetch q => exact fun _ => trivial
    | _ => trivial
  | _ => trivial

/-- What an action makes of a routine. -/
theorem related_perform (h : Tolerant R) {w : World κ} {a : Action κ} (suits : Suits R r w a)
    (bound : r < w.sys.routines.size) : R (w.sys.routine r) ((w.perform a).sys.routine r) :=
  (within_perform (lenient_only h) w (covered_only h suits)).routine r bound rfl

/-- Routines and queues do not go away. -/
theorem bounds_perform (w : World κ) (a : Action κ) :
    w.sys.routines.size ≤ (w.perform a).sys.routines.size ∧ w.sys.queues.size ≤ (w.perform a).sys.queues.size := by
  have h : Tolerant fun _ _ : Routine κ => True :=
    ⟨fun _ => trivial, fun _ _ => trivial, fun _ _ _ => trivial, fun _ => trivial, fun _ => trivial,
      fun _ _ _ _ _ => trivial, fun _ _ => trivial⟩
  have suits : Suits (fun _ _ => True) 0 w a :=
    ⟨fun _ _ _ _ _ => trivial, fun _ _ _ => trivial, fun _ _ _ _ _ => trivial⟩
  have within := within_perform (lenient_only h) w (covered_only h suits)
  exact ⟨within.routines, within.queues⟩

end World

end Turns

end CoopSched
