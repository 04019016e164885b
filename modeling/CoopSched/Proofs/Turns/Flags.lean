import CoopSched.Proofs.Turns.Notified
/-!
# Recheck flags

Whatever happens next, the flag of a routine is known from what it was before: it is up if somebody has asked for
another look (`asked`), or if it was up and was not used up by an update that made the waiting routine ready
(`promotes`). This is `recheck_perform`.

Requests come from callers and bodies, from notifications that find the routine waiting, and from arrival
callbacks. Updates come from callers and bodies, and from searches, which update every routine that they look at.
-/

namespace CoopSched

variable {κ : Type}

/-- A routine and who holds it. -/
def Routine.heldBy (x : Routine κ) (holder : Option Thread) : Routine κ := { x with holder }

namespace System

variable {s : System κ} {r : RoutineRef}

/-! ## 1. Notifications and arrivals -/

/-- Does a notification of an id ask for another look at the routine? It does if the id is live, the routine is
that of the id, and it waits. -/
def flags (s : System κ) (id : UInt64) (r : RoutineRef) : Bool :=
  s.scheduler.any fun sched =>
    !sched.stopped && sched.tasks.find? id == some r && (s.routine r).state.isWaiting

/-- How often a step of an arrival callback asks for another look at the routine. -/
def asks (s : System κ) (r : RoutineRef) : Announcement → Nat
  | .recheck q => (q == r).toNat
  | .notifyTask serial id => (s.scheduler.any (·.serial == serial) && s.flags id r).toNat
  | .trace _ | .notifyGroup _ => 0

/-- How often an arrival callback does. -/
def asksAll (t : Thread) (r : RoutineRef) : List Announcement → System κ → Nat
  | [], _ => 0
  | a :: rest, s => s.asks r a + asksAll t r rest (s.announce t a)

theorem recheck_notifyProcessor (hr : r < s.routines.size) (id : UInt64) :
    ((s.notifyProcessor id).1.routine r).recheck = ((s.routine r).recheck || s.flags id r) := by
  cases hs : s.scheduler with
  | none => simp only [notifyProcessor, flags, hs, Option.any_none, Bool.or_false]
  | some sched =>
    cases running : sched.stopped with
    | true =>
      simp only [notifyProcessor, flags, hs, running, if_true, Option.any_some, Bool.not_true, Bool.false_and,
        Bool.or_false]
    | false =>
      cases live : sched.tasks.find? id with
      | none =>
        simp only [notifyProcessor, flags, hs, running, live, Option.any_some]
        simp
      | some q =>
        obtain ⟨groups, told⟩ := notifyProcessor_eq hs running live
        have flags : s.flags id r = (q == r && (s.routine r).state.isWaiting) := by
          simp only [flags, hs, running, live, Option.any_some]
          simp
        rw [told, flags]
        show ((s.modifyRoutine q Routine.notified).routine r).recheck = _
        rw [routine_modifyRoutine]
        by_cases own : q = r
        · rw [if_pos ⟨own, hr⟩, recheck_notified, own, beq_self_eq_true, Bool.true_and]
        · rw [if_neg fun hc => own hc.1, beq_false_of_ne own, Bool.false_and, Bool.or_false]

theorem recheck_notifyTask (hr : r < s.routines.size) (id : UInt64) :
    ((s.notifyTask id).1.routine r).recheck = ((s.routine r).recheck || s.flags id r) := by
  cases hs : s.scheduler with
  | none => simp only [notifyTask, flags, hs, Option.any_none, Bool.or_false]
  | some sched =>
    cases running : sched.stopped with
    | true =>
      simp only [notifyTask, flags, hs, running, if_true, Option.any_some, Bool.not_true, Bool.false_and,
        Bool.or_false]
    | false => rw [notifyTask_eq hs running, recheck_notifyProcessor hr]

theorem recheck_request (hr : r < s.routines.size) (q : RoutineRef) :
    ((s.modifyRoutine q Routine.requestRecheck).routine r).recheck = ((s.routine r).recheck || q == r) := by
  rw [routine_modifyRoutine]
  by_cases own : q = r
  · rw [if_pos ⟨own, hr⟩, beq_iff_eq.mpr own, Bool.or_true]
    rfl
  · rw [if_neg fun hc => own hc.1, beq_false_of_ne own, Bool.or_false]

theorem decide_toNat (b : Bool) : decide (0 < b.toNat) = b := by
  cases b <;> rfl

theorem recheck_announce (hr : r < s.routines.size) (t : Thread) (a : Announcement) :
    ((s.announce t a).routine r).recheck = ((s.routine r).recheck || decide (0 < s.asks r a)) := by
  cases a with
  | trace text => exact (Bool.or_false _).symm
  | recheck q =>
    rw [asks, decide_toNat]
    exact recheck_request hr q
  | notifyGroup g => exact (Bool.or_false _).symm
  | notifyTask serial id =>
    rw [asks, decide_toNat, announce]
    by_cases serves : s.scheduler.any (·.serial == serial) = true
    · rw [if_pos serves, serves, Bool.true_and, recheck_notifyProcessor hr]
    · rw [if_neg serves, Bool.eq_false_iff.mpr serves, Bool.false_and, Bool.or_false]

theorem size_announce (s : System κ) (t : Thread) (a : Announcement) :
    (s.announce t a).routines.size = s.routines.size :=
  (frame_announce Routine.placement_ignoresStatus s t a).size

theorem recheck_announceAll (t : Thread) (announcements : List Announcement) (s : System κ)
    (hr : r < s.routines.size) :
    ((announcements.foldl (fun s a => s.announce t a) s).routine r).recheck =
      ((s.routine r).recheck || decide (0 < asksAll t r announcements s)) := by
  induction announcements generalizing s with
  | nil => exact (Bool.or_false _).symm
  | cons a rest ih =>
    rw [List.foldl_cons, ih _ (size_announce s t a ▸ hr), recheck_announce hr, asksAll, Bool.or_assoc]
    congr 1
    rw [← Bool.decide_or]
    exact decide_eq_decide.mpr (by omega)

/-! ## 2. Searches -/

/-- The routines that a search updates: it gets to hold them, and goes on until one of them is ready. -/
def examined (t : Thread) : List RoutineRef → System κ → List RoutineRef
  | [], _ => []
  | r :: rest, s =>
    match s.acquire t r with
    | (s, false) => examined t rest s
    | (s, true) =>
      let s := s.update r
      r :: if (s.routine r).state = .ready then [] else examined t rest (s.release r)

open Exclusion (acquire_snd_iff acquire_of_refused)

theorem examined_of_held (held : (s.routine r).holder ≠ none) (t : Thread) (rest : List RoutineRef) :
    examined t (r :: rest) s = examined t rest s := by
  rcases outcome : s.acquire t r with ⟨s₁, granted⟩
  cases granted with
  | false =>
    rw [examined, outcome]
    exact congrArg (examined t rest) (acquire_of_refused outcome)
  | true => exact absurd ((acquire_snd_iff s t r).mp (congrArg Prod.snd outcome)) held

theorem examined_of_free (free : (s.routine r).holder = none) (t : Thread) (rest : List RoutineRef) :
    examined t (r :: rest) s = r :: if s.Due r then [] else examined t rest s := by
  rcases outcome : s.acquire t r with ⟨s₁, granted⟩
  have granted : granted = true := by
    rw [← acquire_snd_iff s t r, outcome] at free
    exact free
  have looked : s₁.update r = s.pick t r := by
    rw [← update_acquire free t, outcome]
  subst granted
  rw [examined, outcome]
  simp only [looked, state_pick]
  by_cases ready : ((s.routine r).update s.now).state = .ready
  · rw [if_pos ready, if_pos ⟨free, ready⟩]
  · rw [if_neg ready, if_neg fun due => ready due.2, release_pick free ready]

/-- A search updates the routines that it looks at. Besides, it may hold one of them. -/
theorem routine_scan (t : Thread) (rs : List RoutineRef) (hr : r < s.routines.size) :
    ∃ holder, (scan t rs s).1.routine r =
      if r ∈ examined t rs s then ((s.routine r).update s.now).heldBy holder else s.routine r := by
  induction rs with
  | nil => exact ⟨none, (if_neg List.not_mem_nil).symm⟩
  | cons q rest ih =>
    obtain ⟨holder, searched⟩ := ih
    by_cases due : s.Due q
    · refine ⟨some t, ?_⟩
      rw [scan_of_due due, examined_of_free due.1, if_pos due, pick, routine_modifyRoutine]
      refine if_congr ?_ rfl rfl
      rw [List.mem_singleton]
      exact ⟨fun h => h.1.symm, fun h => ⟨h.symm, hr⟩⟩
    · rw [scan_of_not_due due]
      by_cases free : (s.routine q).holder = none
      · rw [examined_of_free free, if_neg due]
        by_cases own : r = q
        · subst own
          split at searched
          · exact ⟨holder, searched.trans (if_pos (List.mem_cons_self ..)).symm⟩
          · refine ⟨none, searched.trans ?_⟩
            rw [if_pos (List.mem_cons_self ..), Routine.update_eq_self fun ready => due ⟨free, ready⟩,
              Routine.heldBy, ← free]
        · refine ⟨holder, searched.trans (if_congr ?_ rfl rfl)⟩
          rw [List.mem_cons, or_iff_right own]
      · rw [examined_of_held free]
        exact ⟨holder, searched⟩

theorem free_of_examined {t : Thread} {rs : List RoutineRef} (mem : r ∈ examined t rs s) :
    (s.routine r).holder = none := by
  induction rs with
  | nil => cases mem
  | cons q rest ih =>
    by_cases free : (s.routine q).holder = none
    · rw [examined_of_free free] at mem
      rcases List.mem_cons.mp mem with rfl | later
      · exact free
      · split at later
        · cases later
        · exact ih later
    · rw [examined_of_held free] at mem
      exact ih mem

/-- The routines that the search of a group updates. -/
def inspected (s : System κ) (t : Thread) (g : GroupRef) : List RoutineRef :=
  if (s.group g).stopped then [] else examined t (s.group g).slots s

theorem free_of_inspected {t : Thread} {g : GroupRef} (mem : r ∈ s.inspected t g) :
    (s.routine r).holder = none := by
  unfold inspected at mem
  split at mem
  · cases mem
  · exact free_of_examined mem

theorem routine_nextRoutine (hr : r < s.routines.size) (t : Thread) (g : GroupRef) :
    ∃ holder, (s.nextRoutine t g).1.routine r =
      if r ∈ s.inspected t g then ((s.routine r).update s.now).heldBy holder else s.routine r := by
  unfold nextRoutine inspected
  split
  · exact ⟨none, (if_neg List.not_mem_nil).symm⟩
  · exact routine_scan t _ hr

/-! ## 3. What leaves the flags alone -/

theorem recheck_acquire (x : Routine κ) (t : Thread) : (x.acquire t).1.recheck = x.recheck := by
  unfold Routine.acquire
  split <;> rfl

theorem keeps_recheck_removeRoutine (s : System κ) (t : Thread) (g : GroupRef) (r : RoutineRef) :
    Keeps Routine.recheck s (s.removeRoutine t g r).1 := by
  have seized : ∀ target, Keeps Routine.recheck s (s.seized t target) := by
    intro target
    have stopped : Keeps Routine.recheck s (s.modifyRoutine target Routine.stop) :=
      .modifyRoutine s target fun _ => rfl
    exact stopped.trans (.modifyRoutine _ target fun x => recheck_acquire x t)
  rcases removeRoutine_cases s t g r with same | ⟨target, ⟨n, waits⟩ | ⟨level, position, removed⟩⟩
  · rw [same]
    exact .refl _ s
  · rw [waits]
    exact (seized target).trans (.of_routines_eq rfl)
  · rw [removed]
    have erased : Keeps Routine.recheck s ((s.seized t target).modifyGroup g (·.eraseAt level position)) :=
      (seized target).trans (.of_routines_eq rfl)
    exact erased.trans (.modifyRoutine _ target fun _ => rfl)

theorem keeps_recheck_removeById (s : System κ) (t : Thread) (id : UInt64) :
    Keeps Routine.recheck s (s.removeById t id).1 := by
  unfold removeById
  split
  · exact .refl _ s
  · split
    · exact .refl _ s
    · next r _ =>
      have erased : Keeps Routine.recheck s (s.modifyScheduler fun sched =>
          { sched with tasks := sched.tasks.erase id }) := .of_routines_eq rfl
      have stopped := erased.trans (.modifyRoutine _ r (f := Routine.stop) fun _ => rfl)
      exact stopped.trans (keeps_recheck_removeRoutine _ t _ r)

theorem keeps_recheck_removeFromBody (s : System κ) (t : Thread) (name : String) :
    Keeps Routine.recheck s (s.removeFromBody t name).1 := by
  unfold removeFromBody
  split
  · exact .refl _ s
  · dsimp only
    unfold removeTask
    split
    · exact .refl _ s
    · split
      · exact .refl _ s
      · exact keeps_recheck_removeById s t _

theorem keeps_recheck_dispatch (s : System κ) (t : Thread) (r : RoutineRef) :
    Keeps Routine.recheck s (s.dispatch t r).1 :=
  keeps_dispatch (fun _ _ _ => rfl) s t r

theorem keeps_recheck_createTask (s : System κ) (t : Thread) (work : Work κ) (name : String)
    (source : Option QueueRef) : Keeps Routine.recheck s (s.createTask t work name source).1 := by
  have enrolled : ∀ sched, Keeps Routine.recheck s (s.enrolled t sched name work).1 := by
    intro sched
    have named : Keeps Routine.recheck s (s.modifyScheduler fun x =>
        { x with names := (sched.names.register name).1 }) := .of_routines_eq rfl
    have added := named.trans (.addRoutine _ (sched.names.register name).2 name work)
    exact added.trans (.of_routines_eq rfl)
  rcases createTask_cases s t work name source with
    same | ⟨n, refused⟩ | ⟨sched, after, rfl, dispatched | ⟨q, f, installed⟩⟩
  · rw [same]
    exact .refl _ s
  · rw [refused]
    exact .of_routines_eq rfl
  · rw [dispatched]
    exact (enrolled sched).trans (keeps_recheck_dispatch _ t _)
  · rw [installed]
    exact ((enrolled sched).trans (keeps_recheck_dispatch _ t _)).trans (.of_routines_eq rfl)

end System

namespace Turns

open CoopSched.System (Keeps)

variable {s : System κ} {r : RoutineRef}

/-! ## 4. Calls -/

namespace Operation

/-- How often a call asks for another look at a routine. -/
def requests (s : System κ) (t : Thread) (r : RoutineRef) : Operation κ → Nat
  | .onRoutine q .recheck => (q == r).toNat
  | .notifyTask id | .notifyProcessor id => (s.flags id r).toNat
  | .push q message =>
    let put := s.modifyQueue q (·.push message)
    System.asksAll t r ((put.queue q).callback.getD []) put
  | _ => 0

/-- Does a call update a routine? -/
def updates (s : System κ) (t : Thread) (r : RoutineRef) : Operation κ → Bool
  | .onRoutine q .update => q == r
  | .next g => decide (r ∈ s.inspected t g)
  | _ => false

/-- A call that updates a routine does nothing else to it, except that a search may hold it. -/
theorem routine_apply {t : Thread} {o : Operation κ} (updates : o.updates s t r = true)
    (hr : r < s.routines.size) :
    ∃ holder, (o.apply s t).routine r = ((s.routine r).update s.now).heldBy holder := by
  cases o with
  | next g =>
    obtain ⟨holder, searched⟩ := System.routine_nextRoutine hr t g
    rw [if_pos (of_decide_eq_true updates)] at searched
    exact ⟨holder, searched⟩
  | onRoutine q op =>
    cases op with
    | update =>
      refine ⟨((s.routine r).update s.now).holder, ?_⟩
      show (s.modifyRoutine q (·.update s.now)).routine r = _
      rw [System.routine_modifyRoutine, if_pos ⟨eq_of_beq updates, hr⟩]
      rfl
    | _ => cases updates
  | _ => cases updates

/-- What a call makes of the flag of a routine. -/
theorem recheck_apply (t : Thread) (o : Operation κ) (hr : r < s.routines.size) :
    ((o.apply s t).routine r).recheck =
      ((if o.updates s t r then (s.routine r).update s.now else s.routine r).recheck ||
        decide (0 < o.requests s t r)) := by
  have kept : ∀ {s' : System κ}, Keeps Routine.recheck s s' →
      (s'.routine r).recheck = ((if false then (s.routine r).update s.now else s.routine r).recheck || false) :=
    fun keeps => (keeps.routine r hr).trans (Bool.or_false _).symm
  have inert : ∀ {s' : System κ}, System.Inert s s' →
      (s'.routine r).recheck = ((if false then (s.routine r).update s.now else s.routine r).recheck || false) :=
    fun same => kept (.of_routines_eq same.routines)
  cases o with
  | start conf => exact inert (.startScheduler s t conf)
  | newRoutine id name work => exact kept (.addRoutine s id name work)
  | create work name source => exact kept (System.keeps_recheck_createTask s t work name source)
  | dispatch q => exact kept (System.keeps_recheck_dispatch s t q)
  | notifyTask id =>
    rw [requests, System.decide_toNat]
    exact System.recheck_notifyTask hr id
  | notifyProcessor id =>
    rw [requests, System.decide_toNat]
    exact System.recheck_notifyProcessor hr id
  | next g =>
    obtain ⟨holder, searched⟩ := System.routine_nextRoutine hr t g
    show ((s.nextRoutine t g).1.routine r).recheck =
      ((if decide (r ∈ s.inspected t g) = true then (s.routine r).update s.now else s.routine r).recheck || false)
    rw [searched, Bool.or_false]
    by_cases looked : r ∈ s.inspected t g
    · rw [if_pos looked, if_pos (decide_eq_true looked)]
      rfl
    · rw [if_neg looked, if_neg (mt of_decide_eq_true looked)]
  | unlink g q => exact kept (System.keeps_recheck_removeRoutine s t g q)
  | onRoutine q op =>
    cases op with
    | recheck =>
      rw [requests, System.decide_toNat]
      exact System.recheck_request hr q
    | update =>
      show ((s.modifyRoutine q (·.update s.now)).routine r).recheck =
        ((if (q == r) = true then (s.routine r).update s.now else s.routine r).recheck || false)
      rw [System.routine_modifyRoutine, Bool.or_false]
      exact congrArg Routine.recheck (if_congr ((and_iff_left hr).trans beq_iff_eq.symm) rfl rfl)
    | acquire => exact kept (.modifyRoutine s q fun x => System.recheck_acquire x t)
    | wake =>
      refine kept (.modifyRoutine s q fun x => ?_)
      unfold Routine.wake
      split <;> rfl
    | look => exact kept (.refl _ s)
    | stop => exact kept (.modifyRoutine s q fun _ => rfl)
    | hangUp => exact kept (.modifyRoutine s q fun _ => rfl)
    | release => exact kept (.modifyRoutine s q fun _ => rfl)
  | setState q state => exact kept (.modifyRoutine s q fun _ => rfl)
  | setPriority q priority => exact kept (.modifyRoutine s q fun _ => rfl)
  | setGroup q name => exact kept (.modifyRoutine s q fun _ => rfl)
  | push q message => exact System.recheck_announceAll t _ _ hr
  | stopProcessor p => exact inert (.stopProcessor s t p)
  | openGate gate => exact inert (.openGate s gate)
  | _ => exact kept (.of_routines_eq rfl)

end Operation

/-! ## 5. Worlds -/

section Worlds

variable [Program κ] {w : World κ} {a : Action κ}

/-- What a move asks for, as a call. Only calls that update a routine or ask for another look at it are listed. -/
def call? {σ : Type} : Move κ σ → Option (Operation κ)
  | .ask (.onRoutine q op) _ => some (.onRoutine q op)
  | .ask (.push q message) _ => some (.push q message)
  | .ask (.notify name) _ => some (.notifyTask (taskId name))
  | _ => none

/-- The call that an action makes, by whom. -/
def callOf? (w : World κ) : Action κ → Option (Thread × Operation κ)
  | .operate t o => some (t, o)
  | .move t => (w.turn t).bind fun r => (call? ((w.sys.routine r).work.next w.sys.labels)).map (t, ·)
  | _ => none

/-- How often an action asks for another look at a routine. -/
def asked (r : RoutineRef) (w : World κ) (a : Action κ) : Nat :=
  (callOf? w a).elim 0 fun (t, o) => o.requests w.sys t r

/-- Does an action update a routine? -/
def updates (r : RoutineRef) (w : World κ) (a : Action κ) : Bool :=
  (callOf? w a).any fun (t, o) => o.updates w.sys t r

/-- Does an action promote a routine: does it update it while it waits, and make it ready? -/
def promotes (r : RoutineRef) (w : World κ) (a : Action κ) : Bool :=
  updates r w a && (w.sys.routine r).state.isWaiting && decide (((w.perform a).sys.routine r).state = .ready)

omit [Program κ] in
/-- A body that asks for such a call gets it. -/
theorem serve_call? {σ : Type} (s : System κ) (t : Thread) (r : RoutineRef) {request : Request κ}
    {rest : Reply → σ} {o : Operation κ} (asks : call? (.ask request rest) = some o) :
    (s.serve t r request).1 = o.apply s t := by
  cases request with
  | onRoutine q op =>
    cases asks
    rfl
  | push q message =>
    cases asks
    rfl
  | notify name =>
    cases asks
    simp only [System.serve, Operation.apply]
    split
    · next nobody =>
      rw [Option.isNone_iff_eq_none] at nobody
      simp only [System.notifyTask, nobody]
    · rfl
  | _ => cases asks

omit [Program κ] in
/-- It does not wait for a lock. -/
theorem lockOfMove?_of_call? {σ : Type} (s : System κ) {m : Move κ σ} {o : Operation κ}
    (asks : call? m = some o) : lockOfMove? s m = none := by
  cases m with
  | ask request rest =>
    cases request with
    | create name body source => cases asks
    | remove name => cases asks
    | _ => rfl
  | _ => rfl

/-- In any other move no flag changes. -/
theorem keeps_recheck_move (s : System κ) (t : Thread) (q : RoutineRef)
    (silent : call? ((s.routine q).work.next s.labels) = none) : Keeps Routine.recheck s (s.move t q).1 := by
  have goOn : ∀ (s : System κ) (work : Work κ),
      Keeps Routine.recheck s (s.modifyRoutine q fun x => { x with work }) :=
    fun s _ => .modifyRoutine s q fun _ => rfl
  have close : ∀ s : System κ, Keeps Routine.recheck s
      (s.modifyRoutine q fun x => { x with work := .finished, state := .finished }) :=
    fun s => .modifyRoutine s q fun _ => rfl
  unfold System.move
  dsimp only
  cases next : (s.routine q).work.next s.labels with
  | skip rest => exact goOn s rest
  | ask request rest =>
    rw [next] at silent
    refine Keeps.trans ?_ (goOn _ _)
    cases request with
    | trace text => exact .of_routines_eq rfl
    | identity => exact .refl _ s
    | setState state => exact .modifyRoutine s q fun _ => rfl
    | fetch p => exact .of_routines_eq rfl
    | create name body source =>
      simp only [System.serve]
      split
      · exact .refl _ s
      · exact System.keeps_recheck_createTask s t _ name source
    | remove name =>
      simp only [System.serve]
      split
      · exact .refl _ s
      · exact System.keeps_recheck_removeFromBody s t name
    | stopProcessor =>
      cases t with
      | processor p => exact .of_routines_eq (System.Inert.stopProcessor s (.processor p) p).routines
      | main => exact .refl _ s
      | helper => exact .refl _ s
    | push p message => cases silent
    | onRoutine x op => cases silent
    | notify name => cases silent
  | pause how rest =>
    refine (goOn s rest).trans (.modifyRoutine _ q fun x => ?_)
    cases how <;> rfl
  | await gate rest =>
    have reached : Keeps Routine.recheck s (if s.reachedGates.contains gate then s
        else { s with reachedGates := gate :: s.reachedGates }) := by
      split <;> exact .of_routines_eq rfl
    dsimp only
    revert reached
    generalize (if s.reachedGates.contains gate then s
        else { s with reachedGates := gate :: s.reachedGates }) = s'
    intro reached
    split
    · exact reached.trans (goOn s' rest)
    · exact reached
  | finish rest => exact close s
  | panic reason =>
    have reported : Keeps Routine.recheck s (s.report t (.panicked (s.routine q).name reason)) :=
      .of_routines_eq rfl
    exact reported.trans (close _)

/-- A move that asks for a call makes it, and then the body goes on. -/
theorem perform_call {t : Thread} {q : RoutineRef} {o : Operation κ} (inside : w.turn t = some q)
    (asks : call? ((w.sys.routine q).work.next w.sys.labels) = some o) :
    ∃ work, (w.perform (.move t)).sys = (o.apply w.sys t).modifyRoutine q fun x => { x with work } := by
  have unlocked := lockOfMove?_of_call? w.sys asks
  cases next : (w.sys.routine q).work.next w.sys.labels with
  | ask request rest =>
    rw [next] at asks unlocked
    have answered := World.perform_ask inside next unlocked
    rw [serve_call? w.sys t q asks] at answered
    exact ⟨_, answered⟩
  | _ =>
    rw [next] at asks
    cases asks

omit [Program κ] in
theorem keeps_recheck_remove (w : World κ) (t : Thread) (id : UInt64) :
    Keeps Routine.recheck w.sys (w.remove t id).sys := by
  have removed := System.keeps_recheck_removeById w.sys t id
  unfold World.remove
  split
  · exact .refl _ w.sys
  · revert removed
    rcases w.sys.removeById t id with ⟨s, outcome⟩
    intro removed
    cases outcome <;> exact removed

omit [Program κ] in
theorem keeps_recheck_conclude (w : World κ) (t : Thread) (id : UInt64) :
    Keeps Routine.recheck w.sys (w.conclude t id).sys := by
  unfold World.conclude
  split
  · exact .refl _ w.sys
  · next p _ =>
    have removed := System.keeps_recheck_removeRoutine w.sys t p.group p.routine
    revert removed
    rcases w.sys.removeRoutine t p.group p.routine with ⟨s, outcome⟩
    intro removed
    cases outcome with
    | waits => exact .refl _ w.sys
    | absent => exact removed
    | removed => exact removed

omit [Program κ] in
theorem keeps_recheck_shut (w : World κ) (t : Thread) : Keeps Routine.recheck w.sys (w.shut t).sys := by
  unfold World.shut
  split
  · exact .refl _ w.sys
  · split
    · exact .refl _ w.sys
    · exact .of_routines_eq (System.Inert.stopServedGroups _ _).routines

omit [Program κ] in
theorem keeps_recheck_sweep (w : World κ) (t : Thread) : Keeps Routine.recheck w.sys (w.sweep t).sys := by
  unfold World.sweep
  split
  · exact .refl _ w.sys
  · split <;> exact .refl _ w.sys
  · split
    · exact .refl _ w.sys
    · exact keeps_recheck_remove w t _
  · exact .of_routines_eq (System.Inert.foldl (fun s p => .stopProcessor s t p) _ _).routines

/-- An action without a call of this kind leaves the flags alone. -/
theorem keeps_recheck_perform (silent : callOf? w a = none) : Keeps Routine.recheck w.sys (w.perform a).sys := by
  cases a with
  | enter t q =>
    rw [World.perform]
    rcases w.enter_cases t q with same | ⟨-, finished⟩ | ⟨n, refused⟩ | ⟨-, -, -, -, entered⟩
    · rw [same]
      exact .refl _ w.sys
    · rw [finished]
      exact .modifyRoutine w.sys q fun _ => rfl
    · rw [refused]
      exact .of_routines_eq rfl
    · rw [entered]
      exact .refl _ w.sys
  | move t =>
    rw [World.perform]
    rcases w.move_cases t with same | ⟨q, inside, -, moved⟩
    · rw [same]
      exact .refl _ w.sys
    · rw [callOf?, inside, Option.bind_some, Option.map_eq_none_iff] at silent
      rw [moved]
      exact keeps_recheck_move w.sys t q silent
  | operate t o => cases silent
  | remove t id => exact keeps_recheck_remove w t id
  | removeTask t name =>
    simp only [World.perform, World.removeTask]
    split
    · exact .refl _ w.sys
    · exact keeps_recheck_remove w t _
  | conclude t id => exact keeps_recheck_conclude w t id
  | shut t => exact keeps_recheck_shut w t
  | sweep t => exact keeps_recheck_sweep w t

omit [Program κ] in
/-- Calls that need a lock neither update a routine nor ask for another look at it. -/
theorem silent_of_lock? {s : System κ} {o : Operation κ} (locks : (o.lock? s).isSome = true) (t : Thread)
    (r : RoutineRef) : o.updates s t r = false ∧ o.requests s t r = 0 := by
  cases o with
  | create work name source => exact ⟨rfl, rfl⟩
  | dispatch q => exact ⟨rfl, rfl⟩
  | _ => cases locks

/-- An action with such a call makes it, and the body that asks for it goes on. Otherwise the call waits for a
lock. -/
theorem perform_callOf? {t : Thread} {o : Operation κ} (calls : callOf? w a = some (t, o)) (r : RoutineRef) :
    (w.perform a).sys = w.sys ∧ (o.lock? w.sys).isSome = true ∨
      ∃ work, (w.perform a).sys.routine r = { (o.apply w.sys t).routine r with work } := by
  cases a with
  | operate u o' =>
    cases calls
    rw [World.perform, World.operate]
    cases locks : o.lock? w.sys with
    | none => exact .inr ⟨((o.apply w.sys t).routine r).work, rfl⟩
    | some id =>
      rw [Option.any_some]
      split
      · exact .inl ⟨rfl, rfl⟩
      · exact .inr ⟨((o.apply w.sys t).routine r).work, rfl⟩
  | move u =>
    right
    cases inside : w.turn u with
    | none =>
      rw [callOf?, inside] at calls
      cases calls
    | some q =>
      rw [callOf?, inside, Option.bind_some, Option.map_eq_some_iff] at calls
      obtain ⟨_, asks, ⟨⟩⟩ := calls
      obtain ⟨work, performed⟩ := perform_call inside asks
      rw [performed, System.routine_modifyRoutine]
      split
      · exact ⟨work, rfl⟩
      · exact ⟨((o.apply w.sys t).routine r).work, rfl⟩
  | _ => cases calls

/-- An action that updates a routine does nothing else to it, except that a search may hold it, and that it may be
the body of the routine itself that goes on. -/
theorem update_perform (updated : updates r w a = true) (hr : r < w.sys.routines.size) :
    ∃ holder work, (w.perform a).sys.routine r =
      { ((w.sys.routine r).update w.sys.now).heldBy holder with work } := by
  unfold updates at updated
  cases calls : callOf? w a with
  | none =>
    rw [calls] at updated
    cases updated
  | some call =>
    obtain ⟨t, o⟩ := call
    rw [calls, Option.any_some] at updated
    rcases perform_callOf? calls r with ⟨-, locks⟩ | ⟨work, performed⟩
    · cases updated.symm.trans (silent_of_lock? locks t r).1
    · obtain ⟨holder, applied⟩ := Operation.routine_apply updated hr
      exact ⟨holder, work, by rw [performed, applied]⟩

omit [Program κ] in
/-- What an update leaves of a flag. -/
theorem recheck_update (x : Routine κ) (now : Nat) :
    (x.update now).recheck = (x.recheck && !(x.state.isWaiting && decide ((x.update now).state = .ready))) := by
  cases waits : x.state.isWaiting with
  | true =>
    rw [Routine.update_of_waiting waits]
    cases x.recheck <;> rfl
  | false =>
    rw [Bool.false_and, Bool.not_false, Bool.and_true]
    unfold Routine.update
    cases state : x.state with
    | sleep =>
      dsimp only
      split <;> rfl
    | ready => rfl
    | finished => rfl
    | ioWait =>
      rw [state] at waits
      cases waits
    | dataWait =>
      rw [state] at waits
      cases waits

/-- Whatever happens next: a flag is up afterwards exactly if somebody has asked for another look, or it was up and
the routine was not promoted. -/
theorem recheck_perform (w : World κ) (a : Action κ) (hr : r < w.sys.routines.size) :
    ((w.perform a).sys.routine r).recheck =
      ((w.sys.routine r).recheck && !promotes r w a || decide (0 < asked r w a)) := by
  cases calls : callOf? w a with
  | none =>
    have kept := (keeps_recheck_perform calls).routine r hr
    rw [kept, promotes, updates, asked, calls]
    simp
  | some call =>
    obtain ⟨t, o⟩ := call
    have asks : asked r w a = o.requests w.sys t r := by rw [asked, calls, Option.elim_some]
    have looks : updates r w a = o.updates w.sys t r := by rw [updates, calls, Option.any_some]
    rcases perform_callOf? calls r with ⟨same, locks⟩ | ⟨work, performed⟩
    · obtain ⟨idle, silent⟩ := silent_of_lock? locks t r
      rw [same, promotes, looks, idle, asks, silent]
      simp
    · have applied := Operation.recheck_apply t o hr
      rw [performed, asks]
      refine applied.trans (congrArg (· || _) ?_)
      cases updated : o.updates w.sys t r with
      | false =>
        rw [promotes, looks, updated]
        simp
      | true =>
        obtain ⟨holder, made⟩ := Operation.routine_apply updated hr
        have state : ((w.perform a).sys.routine r).state = ((w.sys.routine r).update w.sys.now).state := by
          rw [performed, made]
          rfl
        rw [if_pos rfl, recheck_update, promotes, looks, updated, state, Bool.true_and]

end Worlds

end Turns

end CoopSched
