import CoopSched.Proofs.Atomic
import CoopSched.Proofs.Outside.Lasting
/-!
# Binding and stopping a processor in indivisible steps

Other threads may act between the steps of two more operations.

* `Processor.bind`: the group is set, the thread is started, and the thread is kept in the processor.
* `stop`: what `stopProcessor` does. The flag is exchanged, the group is read, it is closed and its count is
  set, the thread is taken out of the processor, and its end is awaited.

Run without interruption the steps do what the operations do (`Processor.bind_eq`, `runSteps_stop`), also when a body
asks for them (`move_of_stopRest?`).

The moves of a body leave the processors alone, but for the request to stop one's own (`processors_move`).
-/

namespace CoopSched

/-! ## 1. Binding -/

namespace Processor

/-- The group is set. Whoever sets it first has bound it. -/
def assign (p : Processor) (g : GroupRef) : Processor := { p with group := some g }

/-- The thread runs. -/
def launch (p : Processor) : Processor := { p with phase := .scanning }

/-- The thread can be found in the processor. -/
def keepThread (p : Processor) : Processor := { p with hasThread := true }

theorem bind_eq {p : Processor} (unbound : p.group = none) (g : GroupRef) :
    p.bind g = ((p.assign g).launch.keepThread, true) := by
  rw [bind, unbound]
  rfl

end Processor

/-! ## 2. Stopping -/

namespace Group

/-- Hand out nothing any more. -/
def close (x : Group) : Group := { x with stopped := true }

/-- Let nobody wait. -/
def fill (x : Group) : Group := { x with pending := maxPending }

end Group

namespace System

variable {κ : Type}

/-- Where a call of `stop` stands: about to exchange the flag, to read the group, to close it, to set its count,
to take the thread, or to wait for its end. -/
inductive Stop where
  | swapping
  | looking
  | closing (g : GroupRef)
  | filling (g : GroupRef)
  | taking
  | joining
  deriving DecidableEq, Repr

/-- One step of a call of `stop`. It matters whether the thread of the processor makes the call itself, for then
it does not wait for its end, and otherwise whether that thread is gone. -/
def stop (own gone : Bool) (p : Nat) (s : System κ) : Stop → System κ × (Stop ⊕ Unit)
  | .swapping =>
    if (s.processor p).running then (s.modifyProcessor p Processor.halt, .inl .looking) else (s, .inr ())
  | .looking =>
    match (s.processor p).group with
    | some g => (s, .inl (.closing g))
    | none => (s, .inl .taking)
  | .closing g => (s.modifyGroup g Group.close, .inl (.filling g))
  | .filling g => (s.modifyGroup g Group.fill, .inl .taking)
  | .taking =>
    if (s.processor p).hasThread then (s.modifyProcessor p Processor.giveBack, .inl .joining) else (s, .inr ())
  | .joining =>
    if own then (s.report (.processor p) (.stoppedFromOwnThread (s.processor p).name), .inr ())
    else if gone then (s, .inr ())
    else (s, .inl .joining)

theorem modifyGroup_modifyGroup (s : System κ) (g : GroupRef) (f f' : Group → Group) :
    (s.modifyGroup g f).modifyGroup g f' = s.modifyGroup g fun x => f' (f x) := by
  simp only [modifyGroup, Arena.modify_modify]

/-- A change that changes nothing. -/
theorem modifyProcessor_eq_self (s : System κ) {p : Nat} {f : Processor → Processor}
    (h : f (s.processor p) = s.processor p) : s.modifyProcessor p f = s := by
  rw [modifyProcessor, Arena.modify_congr (g := fun x => x) s.processors h, Arena.modify_id]

/-- What a change of a processor keeps. -/
theorem processor_modifyProcessor_congr {β : Type} (view : Processor → β) {f : Processor → Processor}
    (same : ∀ x, view (f x) = view x) (s : System κ) (p q : Nat) :
    view ((s.modifyProcessor p f).processor q) = view (s.processor q) := by
  rw [processor_modifyProcessor]
  split
  · exact same _
  · rfl

/-- The routines are left alone. -/
theorem routines_stop (s : System κ) (own gone : Bool) (p : Nat) (step : Stop) :
    (s.stop own gone p step).1.routines = s.routines := by
  cases step <;> simp only [stop] <;> repeat' split
  all_goals rfl

/-- From the group to the thread. -/
theorem runSteps_stop_looking (s : System κ) (own gone : Bool) (p : Nat) :
    ∃ n ≤ 3, runSteps (stop own gone p) n s .looking =
      ((match (s.processor p).group with
        | some g => s.modifyGroup g Group.shutdown
        | none => s), .inl .taking) := by
  cases group : (s.processor p).group with
  | none => exact ⟨1, by decide, by simp only [runSteps, stop, group]⟩
  | some g =>
    have shut : (s.modifyGroup g Group.close).modifyGroup g Group.fill = s.modifyGroup g Group.shutdown :=
      modifyGroup_modifyGroup s g _ _
    exact ⟨3, Nat.le_refl 3, by simp only [runSteps, stop, group, shut]⟩

/-- From the thread to the end. -/
theorem runSteps_stop_taking (s : System κ) (t : Thread) (p : Nat) :
    runSteps (stop (decide (t = .processor p)) true p) 2 s .taking =
      (if (s.processor p).hasThread && decide (t = .processor p) then
        (s.modifyProcessor p Processor.giveBack).report t (.stoppedFromOwnThread (s.processor p).name)
      else s.modifyProcessor p Processor.giveBack, .inr ()) := by
  cases thread : (s.processor p).hasThread with
  | false =>
    have idle : s.modifyProcessor p Processor.giveBack = s := modifyProcessor_eq_self s (by
      rw [Processor.giveBack, ← thread])
    simp only [runSteps, stop, thread, idle, Bool.false_and, Bool.false_eq_true, if_false]
  | true =>
    have name : ((s.modifyProcessor p Processor.giveBack).processor p).name = (s.processor p).name :=
      processor_modifyProcessor_congr Processor.name (f := Processor.giveBack) (fun _ => rfl) s p p
    by_cases own : t = .processor p
    · subst own
      simp only [runSteps, stop, thread, name, decide_true, Bool.true_and, if_true]
    · simp only [runSteps, stop, thread, own, decide_false, Bool.and_false, if_true, Bool.false_eq_true,
        if_false]

/-- A call of `stop` without interruption, by a thread that need not wait for the end of another one. -/
theorem runSteps_stop (s : System κ) (t : Thread) (p : Nat) :
    ∃ n, runSteps (stop (decide (t = .processor p)) true p) n s .swapping = (s.stopProcessor t p, .inr ()) := by
  cases running : (s.processor p).running with
  | false => exact ⟨1, by simp [runSteps, stop, stopProcessor, running]⟩
  | true =>
    let halted := s.modifyProcessor p Processor.halt
    have swapped : runSteps (stop (decide (t = .processor p)) true p) 1 s .swapping =
        (halted, .inl .looking) := by
      simp only [runSteps, stop, running, if_true]
      rfl
    obtain ⟨n, -, silenced⟩ := runSteps_stop_looking halted (decide (t = .processor p)) true p
    refine ⟨1 + (n + 2), ?_⟩
    rw [runSteps_add swapped, runSteps_add silenced, runSteps_stop_taking]
    have keeps : ∀ {β : Type} (view : Processor → β), (∀ x, view x.halt = view x) →
        view (halted.processor p) = view (s.processor p) :=
      fun view same => processor_modifyProcessor_congr view same s p p
    have group : (halted.processor p).group = (s.processor p).group := keeps _ fun _ => rfl
    have thread : (halted.processor p).hasThread = (s.processor p).hasThread := keeps _ fun _ => rfl
    have name : (halted.processor p).name = (s.processor p).name := keeps _ fun _ => rfl
    have bound : ∀ g, (halted.modifyGroup g Group.shutdown).processor = halted.processor := fun _ => rfl
    simp only [stopProcessor, running, Bool.not_true, Bool.false_eq_true, if_false, group]
    cases (s.processor p).group with
    | none =>
      simp only [thread, name]
      rfl
    | some g =>
      simp only [bound, thread, name]
      rfl

end System

/-! ## 3. Moves that leave the processors alone -/

/-- What a body does after it has asked to stop its processor. -/
def Move.stopRest? {κ σ : Type} : Move κ σ → Option (Reply → σ)
  | .ask .stopProcessor rest => some rest
  | _ => none

namespace System

variable {κ : Type}

theorem processors_notifyProcessor (s : System κ) (id : UInt64) :
    (s.notifyProcessor id).1.processors = s.processors := by
  have flagged : ∀ r, (s.flagIfWaiting r).processors = s.processors := by
    intro r
    unfold flagIfWaiting
    split <;> rfl
  unfold notifyProcessor
  split
  · rfl
  · split
    · rfl
    · split
      · rfl
      · rw [← flagged]
        unfold notifyGroupNamed
        dsimp only
        split <;> rfl

theorem processors_announce (s : System κ) (t : Thread) (a : Announcement) :
    (s.announce t a).processors = s.processors := by
  cases a with
  | notifyTask serial id =>
    simp only [announce]
    split
    · exact processors_notifyProcessor s id
    · rfl
  | _ => rfl

theorem processors_push (s : System κ) (t : Thread) (q : QueueRef) (message : Int) :
    (s.push t q message).processors = s.processors :=
  List.foldlRecOn (motive := fun s' : System κ => s'.processors = s.processors) _ _ rfl
    fun s' before a _ => (processors_announce s' t a).trans before

theorem processors_dispatch (s : System κ) (t : Thread) (r : RoutineRef) :
    (s.dispatch t r).1.processors = s.processors := by
  rcases dispatch_cases s t r with same | ⟨n, refused⟩ | ⟨sched, -, -, placed⟩
  · rw [same]
  · rw [refused]
    rfl
  · obtain ⟨_, _, settled⟩ := settled_eq (s.modifyScheduler fun sched =>
      { sched with tasks := sched.tasks.insert (s.routine r).id r }) t sched r
    rw [placed, place_eq, settled]
    rfl

theorem processors_createTask (s : System κ) (t : Thread) (work : Work κ) (name : String)
    (source : Option QueueRef) : (s.createTask t work name source).1.processors = s.processors := by
  rcases createTask_cases s t work name source with same | ⟨n, refused⟩ | ⟨sched, after, went, done⟩
  · rw [same]
  · rw [refused]
    rfl
  · have dispatched : after.processors = s.processors := went ▸ processors_dispatch _ t _
    rcases done with whole | ⟨q, f, installed⟩
    · rw [whole, dispatched]
    · rw [installed]
      exact dispatched

theorem processors_removeRoutine (s : System κ) (t : Thread) (g : GroupRef) (r : RoutineRef) :
    (s.removeRoutine t g r).1.processors = s.processors := by
  rcases removeRoutine_cases s t g r with same | ⟨target, ⟨n, waits⟩ | ⟨level, position, removed⟩⟩
  · rw [same]
  · rw [waits]
    rfl
  · rw [removed]
    rfl

theorem processors_removeFromBody (s : System κ) (t : Thread) (name : String) :
    (s.removeFromBody t name).1.processors = s.processors := by
  have byId : ∀ id, (s.removeById t id).1.processors = s.processors := by
    intro id
    unfold removeById
    split
    · rfl
    · split
      · rfl
      · exact processors_removeRoutine _ t _ _
  have byName : (s.removeTask t name).1.processors = s.processors := by
    unfold removeTask
    split
    · rfl
    · split
      · rfl
      · exact byId (taskId name)
  unfold removeFromBody
  split
  · rfl
  · exact byName

/-- The answer to any other request. -/
theorem processors_serve {σ : Type} (s : System κ) (t : Thread) (r : RoutineRef) {request : Request κ}
    {rest : Reply → σ} (plain : (Move.ask request rest).stopRest? = none) :
    (s.serve t r request).1.processors = s.processors := by
  cases request with
  | push q message => exact processors_push s t q message
  | onRoutine x op => cases op <;> rfl
  | create name body source =>
    simp only [serve]
    split
    · rfl
    · exact processors_createTask s t (.body body) name source
  | remove name =>
    simp only [serve]
    split
    · rfl
    · exact processors_removeFromBody s t name
  | notify name =>
    simp only [serve]
    split
    · rfl
    · unfold notifyTask
      split
      · rfl
      · split
        · rfl
        · exact processors_notifyProcessor s (taskId name)
  | stopProcessor => cases plain
  | _ => rfl

variable [Program κ]

theorem processors_move (s : System κ) (t : Thread) (r : RoutineRef)
    (plain : ((s.routine r).work.next s.labels).stopRest? = none) :
    (s.move t r).1.processors = s.processors := by
  unfold move
  cases next : (s.routine r).work.next s.labels with
  | ask request rest => exact processors_serve s t r (next ▸ plain)
  | await gate rest =>
    dsimp only
    split <;> split <;> rfl
  | _ => rfl

/-- The request to stop one's own processor is answered by the steps of `stop`, and then the body goes on. -/
theorem move_of_stopRest? (s : System κ) (p : Nat) (r : RoutineRef) {rest : Reply → Work κ}
    (asks : ((s.routine r).work.next s.labels).stopRest? = some rest) :
    ∃ n s', runSteps (stop true true p) n s .swapping = (s', .inr ()) ∧
      s.move (.processor p) r = (s'.modifyRoutine r fun x => { x with work := rest .nothing }, .going) := by
  have asked : (s.routine r).work.next s.labels = .ask .stopProcessor rest := by
    cases next : (s.routine r).work.next s.labels with
    | ask request rest =>
      rw [next] at asks
      cases request with
      | stopProcessor =>
        cases asks
        rfl
      | _ => cases asks
    | _ =>
      rw [next] at asks
      cases asks
  obtain ⟨n, stopped⟩ := runSteps_stop s (.processor p) p
  rw [decide_eq_true rfl] at stopped
  refine ⟨n, _, stopped, ?_⟩
  unfold move
  rw [asked]
  rfl

end System

end CoopSched
