import CoopSched.Proofs.Frame
/-!
# Properties that turns keep

A turn of a body, and a round of a processor, are made of a few elementary changes, of creations and of
removals. A property of systems that these keep (`Kept`) is kept by every move of a body (`Kept.move`), by whole
turns (`Kept.resume`) and by every phase of a processor (`Kept.serveStep`).
-/

namespace CoopSched

/-- The ways to change a group that leave its queues alone. -/
inductive Group.Signal : (Group → Group) → Prop
  | notify : Signal Group.notify
  | wait : Signal Group.wait
  | shutdown : Signal Group.shutdown

namespace System

variable {κ β : Type}

/-- The same routines, groups, processors and scheduler. The clock, the queues, the gates and the record may
differ. -/
structure Same (s s' : System κ) : Prop where
  routines : s'.routines = s.routines
  groups : s'.groups = s.groups
  processors : s'.processors = s.processors
  scheduler : s'.scheduler = s.scheduler

/-- The elementary changes, creations and removals keep a property. What they change of a routine the view does
not show. -/
structure Kept (view : Routine κ → β) (P : System κ → Prop) : Prop where
  status : IgnoresStatus view
  holder : IgnoresHolder view
  work : ∀ (x : Routine κ) (work : Work κ), view { x with work } = view x
  routine : ∀ {s} (r : RoutineRef) {f : Routine κ → Routine κ}, (∀ x, view (f x) = view x) → P s →
    P (s.modifyRoutine r f)
  group : ∀ {s} (g : GroupRef) {f : Group → Group}, Group.Signal f → P s → P (s.modifyGroup g f)
  processor : ∀ {s} (p : Nat) {f : Processor → Processor}, (∀ x, (f x).group = x.group) → P s →
    P (s.modifyProcessor p f)
  same : ∀ {s s'}, P s → Same s s' → P s'
  create : ∀ {s} (t : Thread) (work : Work κ) (name : String) (source : Option QueueRef), P s →
    P (s.createTask t work name source).1
  remove : ∀ {s} (t : Thread) (name : String), P s → P (s.removeFromBody t name).1

namespace Kept

variable {view : Routine κ → β} {P : System κ → Prop} {s : System κ}

theorem report (kept : Kept view P) (h : P s) (t : Thread) (n : Notice) : P (s.report t n) :=
  kept.same h ⟨rfl, rfl, rfl, rfl⟩

theorem modifyQueue (kept : Kept view P) (h : P s) (q : QueueRef) (f : MessageQueue → MessageQueue) :
    P (s.modifyQueue q f) :=
  kept.same h ⟨rfl, rfl, rfl, rfl⟩

theorem foldl (_ : Kept view P) {α : Type} {step : System κ → α → System κ}
    (keeps : ∀ {s} a, P s → P (step s a)) (as : List α) (h : P s) : P (as.foldl step s) := by
  induction as generalizing s with
  | nil => exact h
  | cons a as ih => exact ih (keeps a h)

/-! ## 1. Notifications and arrivals -/

theorem notifyProcessor (kept : Kept view P) (h : P s) (id : UInt64) : P (s.notifyProcessor id).1 := by
  have flagged : ∀ r, P (s.flagIfWaiting r) := by
    intro r
    unfold flagIfWaiting
    split
    · exact kept.routine r kept.status.requestRecheck h
    · exact h
  have told : ∀ {s : System κ} (roster : Roster) (name : String), P s →
      P (s.notifyGroupNamed roster name).1 := by
    intro s roster name h
    unfold notifyGroupNamed
    split
    · exact kept.group _ .notify h
    · exact h
  unfold System.notifyProcessor
  split
  · exact h
  · split
    · exact h
    · split
      · exact h
      · exact told _ _ (flagged _)

theorem notifyTask (kept : Kept view P) (h : P s) (id : UInt64) : P (s.notifyTask id).1 := by
  unfold System.notifyTask
  split
  · exact h
  · split
    · exact h
    · exact kept.notifyProcessor h id

theorem announce (kept : Kept view P) (h : P s) (t : Thread) (a : Announcement) : P (s.announce t a) := by
  cases a with
  | trace text => exact kept.same h ⟨rfl, rfl, rfl, rfl⟩
  | recheck r => exact kept.routine r kept.status.requestRecheck h
  | notifyGroup g => exact kept.group g .notify h
  | notifyTask serial id =>
    simp only [System.announce]
    split
    · exact kept.notifyProcessor h id
    · exact h

theorem push (kept : Kept view P) (h : P s) (t : Thread) (q : QueueRef) (message : Int) :
    P (s.push t q message) :=
  kept.foldl (fun a h => kept.announce h t a) _ (kept.modifyQueue h q _)

/-! ## 2. Selection -/

theorem acquire (kept : Kept view P) (h : P s) (t : Thread) (r : RoutineRef) : P (s.acquire t r).1 :=
  kept.routine r (fun x => kept.holder.acquire x t) h

theorem release (kept : Kept view P) (h : P s) (r : RoutineRef) : P (s.release r) :=
  kept.routine r kept.holder.release h

theorem update (kept : Kept view P) (h : P s) (r : RoutineRef) : P (s.update r) :=
  kept.routine r (fun x => kept.status.update x s.now) h

theorem scan (kept : Kept view P) (t : Thread) (rs : List RoutineRef) (h : P s) :
    P (System.scan t rs s).1 := by
  induction rs generalizing s with
  | nil => exact h
  | cons r rest ih =>
    have acquired := kept.acquire h t r
    unfold System.scan
    split
    · next s₁ heq =>
      rw [heq] at acquired
      exact ih acquired
    · next s₁ heq =>
      rw [heq] at acquired
      have updated := kept.update acquired r
      dsimp only
      split
      · exact updated
      · exact ih (kept.release updated r)

theorem nextRoutine (kept : Kept view P) (h : P s) (t : Thread) (g : GroupRef) :
    P (s.nextRoutine t g).1 := by
  unfold System.nextRoutine
  split
  · exact h
  · exact kept.scan t _ h

theorem applyOp (kept : Kept view P) (h : P s) (t : Thread) (r : RoutineRef) (op : RoutineOp) :
    P (s.applyOp t r op).1 := by
  cases op with
  | stop => exact kept.routine r kept.status.stop h
  | wake => exact kept.routine r kept.status.wake h
  | hangUp => exact kept.routine r kept.status.hangUp h
  | recheck => exact kept.routine r kept.status.requestRecheck h
  | release => exact kept.release h r
  | acquire => exact kept.acquire h t r
  | update => exact kept.update h r
  | look => exact h

theorem stopProcessor (kept : Kept view P) (h : P s) (t : Thread) (p : Nat) :
    P (s.stopProcessor t p) := by
  unfold System.stopProcessor
  dsimp only
  split
  · exact h
  · have halted : P (s.modifyProcessor p Processor.halt) := kept.processor p (fun _ => rfl) h
    have given : ∀ {s'}, P s' → P (s'.modifyProcessor p Processor.giveBack) :=
      fun before => kept.processor p (fun _ => rfl) before
    cases (s.processor p).group with
    | none =>
      split
      · exact kept.report (given halted) t _
      · exact given halted
    | some g =>
      have silenced := kept.group g .shutdown halted
      split
      · exact kept.report (given silenced) t _
      · exact given silenced

theorem openGate (kept : Kept view P) (h : P s) (gate : String) : P (s.openGate gate) := by
  unfold System.openGate
  split
  · exact h
  · exact kept.same h ⟨rfl, rfl, rfl, rfl⟩

/-! ## 3. Turns -/

theorem serve (kept : Kept view P) (h : P s) (t : Thread) (r : RoutineRef) (request : Request κ) :
    P (s.serve t r request).1 := by
  cases request with
  | trace text => exact kept.same h ⟨rfl, rfl, rfl, rfl⟩
  | identity => exact h
  | setState state => exact kept.routine r (fun x => kept.status.setState x state) h
  | push q message => exact kept.push h t q message
  | fetch q => exact kept.modifyQueue h q _
  | onRoutine x op => exact kept.applyOp h t x op
  | create name body source =>
    simp only [System.serve]
    split
    · exact h
    · exact kept.create t (.body body) name source h
  | remove name =>
    simp only [System.serve]
    split
    · exact h
    · exact kept.remove t name h
  | notify name =>
    simp only [System.serve]
    split
    · exact h
    · exact kept.notifyTask h (taskId name)
  | stopProcessor =>
    cases t with
    | processor p => exact kept.stopProcessor h (.processor p) p
    | main => exact h
    | helper => exact h

theorem enter (kept : Kept view P) (h : P s) (p : Nat) (phase : Phase) : P (s.enter p phase) :=
  kept.processor p (fun _ => rfl) h

variable [Program κ]

theorem move (kept : Kept view P) (h : P s) (t : Thread) (r : RoutineRef) : P (s.move t r).1 := by
  have goOn : ∀ {s : System κ} (work : Work κ), P s → P (s.modifyRoutine r fun x => { x with work }) :=
    fun work h => kept.routine r (fun x => kept.work x work) h
  have close : ∀ {s : System κ}, P s →
      P (s.modifyRoutine r fun x => { x with work := .finished, state := .finished }) :=
    fun h => kept.routine r (fun x => (kept.status.state _ .finished).trans (kept.work x .finished)) h
  unfold System.move
  dsimp only
  split
  · exact goOn _ h
  · next request rest _ => exact goOn _ (kept.serve h t r request)
  · next how rest _ => exact kept.routine r (fun x => kept.status.pause x s.now how) (goOn rest h)
  · next gate rest _ =>
    have reached : P (if s.reachedGates.contains gate then s
        else { s with reachedGates := gate :: s.reachedGates }) := by
      split
      · exact h
      · exact kept.same h ⟨rfl, rfl, rfl, rfl⟩
    revert reached
    generalize (if s.reachedGates.contains gate then s
        else { s with reachedGates := gate :: s.reachedGates }) = s'
    intro reached
    split
    · exact goOn rest reached
    · exact reached
  · exact close h
  · exact close (kept.report h t _)

/-- However many moves a turn takes, they keep the property one by one. -/
theorem runBody (kept : Kept view P) (h : P s) (t : Thread) (r : RoutineRef) (fuel : Nat) :
    P (System.runBody t r fuel s).1 := by
  induction fuel generalizing s with
  | zero => exact h
  | succ fuel ih =>
    have moved := kept.move h t r
    unfold System.runBody
    split
    · next s' heq =>
      rw [heq] at moved
      exact ih moved
    · next s' _ _ heq =>
      rw [heq] at moved
      exact moved

theorem resume (kept : Kept view P) (h : P s) (t : Thread) (r : RoutineRef) : P (s.resume t r).1 := by
  unfold System.resume
  dsimp only
  split
  · exact kept.routine r (fun x => kept.status.setState x .finished) h
  · split
    · exact kept.report h t _
    · split
      · exact kept.report h t _
      · exact kept.runBody h t r turnFuel

theorem serveStep (kept : Kept view P) (h : P s) (p : Nat) : P (s.serveStep p) := by
  unfold System.serveStep
  dsimp only
  split
  · exact h
  · exact h
  · split
    · exact kept.processor p (fun _ => rfl) h
    · split
      · exact h
      · next g _ =>
        have found := kept.nextRoutine h (.processor p) g
        split
        · next heq =>
          rw [heq] at found
          exact kept.processor p (fun _ => rfl) found
        · next heq =>
          rw [heq] at found
          exact kept.processor p (fun _ => rfl) found
  · next r _ =>
    have resumed := kept.resume h (.processor p) r
    split
    · next heq =>
      rw [heq] at resumed
      exact kept.enter resumed p (.running r)
    · next heq =>
      rw [heq] at resumed
      exact kept.enter resumed p (.resumed r)
  · next r _ =>
    have ran := kept.runBody h (.processor p) r turnFuel
    split
    · next heq =>
      rw [heq] at ran
      exact ran
    · next heq =>
      rw [heq] at ran
      exact kept.enter ran p (.resumed r)
  · next r _ => exact kept.enter (kept.release h r) p .scanning
  · split
    · exact kept.enter h p .scanning
    · next g _ => exact kept.enter (kept.group g .wait h) p .scanning

end Kept

end System

end CoopSched
