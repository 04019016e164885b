import CoopSched.Scenario.World
/-!
# Playing a scenario

What each step does and shows. The first parts hold the steps about one routine, one group and one
scheduler; `play` runs a whole scenario.
-/

namespace CoopSched.Scenario

open Play

/-- Nothing to show. -/
def silent : Answer := {}

/-- A value to show. -/
def shows (v : Value) : Answer := { value := some v }

/-- A thread acts on a routine. -/
def actOnRoutine (r : RoutineRef) : RoutineStep → Play (Option Value)
  | .acquire t => do
    let granted ← call (·.acquire t r)
    pure (some (.flag granted))
  | .resume t => do
    change fun s => (s.resume t r).1
    pure (some (.text ((← system).routine r).state.label))
  | .run t => do
    match ← call (·.runOnce t r) with
    | none => pure (some (.text "busy"))
    | some state => pure (some (.text state.label))
  | .release => do change (·.release r); pure none
  | .update => do
    change (·.update r)
    pure (some (.text ((← system).routine r).state.label))
  | .setState state => edit fun x => x.setState state
  | .wake => edit Routine.wake
  | .hangUp => edit Routine.hangUp
  | .recheck => edit Routine.requestRecheck
  | .stop => edit Routine.stop
  | .setPriority priority => edit fun x => { x with priority }
  | .setGroup name => edit fun x => { x with group := name }
where
  edit (f : Routine Script → Routine Script) : Play (Option Value) := do
    change (·.modifyRoutine r f)
    pure none

/-- The lines of bodies on other threads that were not shown yet. -/
def takeTraces : Play (List String) := do
  let w ← get
  set { w with shown := w.system.log.size }
  pure (tracesSince w.shown w.system.log)

/-- A step about a routine, with its marks afterwards and what bodies said on other threads. -/
def playRoutine (label : String) (step : RoutineStep) : Play Answer := do
  let r ← routine label
  let value ← actOnRoutine r step
  let traces ← takeTraces
  pure {
    value
    routine := some (routineMarks ((← system).routine r))
    traces := if traces.isEmpty then none else some traces }

/-- Is a routine of the same id held under any name? Then removing it might never return. -/
def anyHeldLike (r : RoutineRef) : Play Bool := do
  let s ← system
  pure (s.labels.routines.any fun (_, x) =>
    (s.routine x).id == (s.routine r).id && (s.routine x).isHeld)

/-- Remove a routine on another thread. If somebody holds it, it is released as soon as the removal
waits for that. -/
def removeHeld (g : GroupRef) (r : RoutineRef) : Play Value := do
  let held := ((← system).routine r).isHeld
  let (waited, removed) ← match ← call (·.removeRoutine .helper g r) with
    | .waits .. =>
      if held then do
        change (·.release r)
        let outcome ← call (·.removeRoutine .helper g r)
        pure (outcome.succeeded, outcome.succeeded)
      else pure (false, false)
    | outcome => pure (false, outcome.succeeded)
  pure (.record [("waited", .flag waited), ("removed", .flag removed)])

/-- What is done to a group. -/
def actOnGroup (g : GroupRef) : GroupStep → Play (Option Value)
  | .look => pure none
  | .insert label => do
    let r ← routine label
    change (·.enqueue g r)
    pure none
  | .next label => do
    match ← call (·.nextRoutine .main g) with
    | none => pure (some (.text "none"))
    | some r =>
      match label with
      | some l => labelRoutine l r
      | none => pure ()
      let x := (← system).routine r
      pure (some (.list [.nat x.id.toNat, .text x.name]))
  | .drain turns => do
    let ran ← call (System.drain .main g turns)
    pure (some (.list (ran.map fun (name, state) => .list [.text name, .text state.label])))
  | .wait => do
    if ((← system).group g).pending = 0 then change (·.elapse 1)
    change (·.modifyGroup g Group.wait)
    pure none
  | .notify times => do
    change fun s => times.repeat (·.modifyGroup g Group.notify) s
    pure none
  | .shutdown => do
    change (·.modifyGroup g Group.shutdown)
    pure none
  | .remove label => do
    let r ← routine label
    if ← anyHeldLike r then pure (some .wouldBlock)
    else
      let outcome ← call (·.removeRoutine .main g r)
      pure (some (.flag outcome.succeeded))
  | .removeHeld label => do
    let r ← routine label
    some <$> removeHeld g r

/-- A step about a group, with its marks afterwards. -/
def playGroup (label : String) (step : GroupStep) : Play Answer := do
  let g ← group label
  let value ← actOnGroup g step
  pure { value, group := some (groupMarks ((← system).group g)) }

/-- Keep a new routine under a name. -/
def newRoutine (label : String) (id : UInt64) (name : String) (work : Work Script) :
    Play RoutineRef := do
  let r ← call (·.addRoutine id name work)
  labelRoutine label r
  pure r

/-- The descriptions asked for, in a fixed order. -/
def describe (what : Descriptions) : Play Value := do
  let s ← system
  let mut texts : List String := []
  if let some label := what.routine then
    texts := texts ++ [(s.routine (← routine label)).describe]
  if let some label := what.group then
    texts := texts ++ [(s.group (← group label)).describe]
  if let some label := what.queue then
    texts := texts ++ [(s.queue (← queue label)).describe]
  if let some label := what.factory then
    texts := texts ++ [(← factory label).describe]
  if let some label := what.context then
    texts := texts ++ [(s.group (← group label)).describeContext]
  if what.roster then
    texts := texts ++ [describeRoster s (← roster)]
  if what.scheduler then
    texts := texts ++ [(← scheduler).describe]
  pure (.list (texts.map .text))

/-- The callback that a scenario installs: a line unless it is empty, then a recheck, then a
notification. -/
def callbackOf (tag : String) (r : Option RoutineRef) (g : Option GroupRef) : List Announcement :=
  (if tag.isEmpty then [] else [.trace tag]) ++ (r.map .recheck).toList ++
    (g.map .notifyGroup).toList

/-- Put a message into a queue on a thread. -/
def pushOn (t : Thread) (q : QueueRef) (messages : List Int) : Play Unit :=
  messages.forM fun m => change (·.push t q m)

/-- Is the task of an id live and held, while no processor could release it? -/
def heldForever (id : UInt64) : Play Bool := do
  let s ← system
  let sched ← scheduler
  pure (sched.processors.isEmpty && (s.task? id).any fun r => (s.routine r).isHeld)

/-- Is any live task held, while no processor could release it? -/
def anyHeldForever : Play Bool := do
  let s ← system
  let sched ← scheduler
  pure (sched.processors.isEmpty && s.liveRoutines.any Routine.isHeld)

/-- Create a task on a thread. -/
def createOn (t : Thread) (task : String) (body : List Action) (q : Option QueueRef) : Play Bool :=
  call (·.createTask t (.body (Script.ofActions body)) task q)

/-- Remove a task on another thread while its body stands at a gate, then open the gate. -/
def removeRunning (task gate : String) : Play Value := do
  let outcome ← call (·.removeTask .helper task)
  change fun s => ((s.elapse 5).openGate gate).finishTurns
  let (waited, removed) ← match outcome with
    | .waits g r _ => do
      let outcome ← call (·.removeRoutine .helper g r)
      pure (outcome.succeeded, outcome.succeeded)
    | outcome => pure (false, outcome.succeeded)
  pure (.record [("waited", .flag waited), ("removed", .flag removed)])

/-- Several threads create tasks, then the scheduler is shut down. -/
def raceShutdown (threads : Nat) (body : List Action) : Play Value := do
  for i in List.range threads do
    let _ ← createOn .helper s!"race-{i}-0" body none
  change (·.rest)
  change (·.shutdown .main)
  let sched ← scheduler
  pure (.record [
    ("late", .nat 0), ("tasks", .nat sched.tasks.size), ("processors", .nat sched.processors.length)])

/-- A step about the scheduler and its tasks. -/
def playScheduler : Step → Play Answer
  | .scheduler layout => do
    let conf := match layout with
      | .conf conf => conf
      | .processors count => SchedulerConf.defaultTopology count
    change (·.shutdown .main)
    match (← system).start .main conf with
    | .error .panic => fail .panicked
    | .error (.error cause) => pure (shows (.outcome (.error cause)))
    | .ok s =>
      put s
      let sched ← scheduler
      let threaded := conf.effective.groups.any (0 < ·.processorNum)
      modify fun w => { w with threaded }
      pure (shows (.record [("pool", .nat sched.poolSize), ("processors", .nat sched.processors.length)]))
  | .create task body q => do
    let _ ← scheduler
    let q ← q.mapM queue
    return shows (.flag (← createOn .main task body q))
  | .createFrom f task => do
    let _ ← scheduler
    let f ← factory f
    return shows (.flag (← call (·.createFrom .main f task)))
  | .dispatch label => do
    let _ ← scheduler
    let r ← routine label
    return shows (.flag (← call (·.dispatch .main r)))
  | .removeTask task => do
    let sched ← scheduler
    if !sched.stopped && (← heldForever (taskId task)) then pure (shows .wouldBlock)
    else return shows (.flag (← call (·.removeTask .main task)).succeeded)
  | .removeId key => do
    if ← heldForever (idOf key) then pure (shows .wouldBlock)
    else return shows (.flag (← call (·.removeById .main (idOf key))).succeeded)
  | .notify key direct => do
    let _ ← scheduler
    let known ← call fun s =>
      if direct then s.notifyProcessor (idOf key) else s.notifyTask (idOf key)
    pure (shows (.flag known))
  | .task key label => do
    let _ ← scheduler
    let s ← system
    match s.task? (idOf key) with
    | none => pure (shows (.text "none"))
    | some r =>
      match label with
      | some l => labelRoutine l r
      | none => pure ()
      pure (shows (routineInfo (← get).threaded (s.routine r)))
  | .taskName key => do
    let sched ← scheduler
    pure (shows (.list [.textOrNull (sched.names.nameOf (idOf key))]))
  | .overview => do
    let sched ← scheduler
    pure (shows (.record [
      ("tasks", .nat sched.tasks.size), ("pool", .nat sched.poolSize),
      ("processors", .nat sched.processors.length), ("stopped", .flag sched.stopped),
      ("policy", .text sched.policy.name)]))
  | .shutdown => do
    if ← anyHeldForever then pure (shows .wouldBlock)
    else do change (·.shutdown .main); pure silent
  | .dropScheduler => do
    if ← anyHeldForever then pure (shows .wouldBlock)
    else do change (·.dropScheduler .main); pure silent
  | .status busy => do
    let _ ← scheduler
    change (System.awaitBusy busy)
    let names := (← system).busyWith.map (·.getD "idle")
    pure (shows (.list ((sorted names).map .text)))
  | .innerThreads threads => do
    let _ ← scheduler
    change (·.modifyScheduler fun sched => { sched with innerThreads := threads })
    pure silent
  | .placeInner thread => do
    let _ ← scheduler
    return shows (.outcome (← call (·.placeInnerThread .main thread)))
  | .placeProcess => do
    let _ ← scheduler
    return shows (.outcome (← system).placeProcess)
  | .raceCreate task threads body => do
    let _ ← scheduler
    let won ← (List.range threads).mapM fun _ => createOn .helper task body none
    pure (shows (.nat (won.count true)))
  | .raceShutdown threads body => do
    let _ ← scheduler
    return shows (← raceShutdown threads body)
  | .removeRunning task gate => do
    let _ ← scheduler
    return shows (← removeRunning task gate)
  | _ => pure silent

/-- A step, apart from what is said in its course. -/
def playStep : Step → Play Answer
  | .newRoutine label id name priority body => do
    let r ← newRoutine label id name (.body (Script.ofActions body))
    match priority with
    | some priority => change (·.modifyRoutine r fun x => { x with priority })
    | none => pure ()
    pure silent
  | .routineFrom label id name f => do
    let f ← factory f
    let _ ← newRoutine label id name f.work
    pure silent
  | .onRoutine label step => playRoutine label step
  | .info label => do
    let r ← routine label
    pure (shows (routineInfo (← get).threaded ((← system).routine r)))
  | .describe what => return shows (← describe what)
  | .outside how => do
    let call : InsideCall := match how with
      | .sleep _ => .sleep
      | _ => .yield
    change (·.report .main (.calledOutside call))
    pure silent
  | .stateOutside => do
    change (·.report .main (.calledOutside .setState))
    pure silent
  | .current => pure (shows (.list [.null, .null]))
  | .elapse millis => do change (System.pass millis); pure silent
  | .newGroup label name => do
    labelGroup label (← call (·.addGroup name))
    pure silent
  | .onGroup label step => playGroup label step
  | .newRoster names => do
    let roster ← call (·.addRoster names)
    modify fun w => { w with roster := some roster }
    pure silent
  | .rosterNames => do
    let r ← roster
    let s ← system
    pure (shows (.list [.text (s.group r.default).name,
      .list ((sorted (r.groups.map (·.1))).map .text)]))
  | .groupOrDefault name => do
    let r ← roster
    pure (shows (.text ((← system).group (r.findOrDefault name)).name))
  | .useGroup label name => do
    match (← roster).find? name with
    | some g => labelGroup label g; pure (shows (.flag true))
    | none => pure (shows (.flag false))
  | .notifyName name => do
    let r ← roster
    return shows (.flag (← call (·.notifyGroupNamed r name)))
  | .shutdownRoster => do
    let r ← roster
    change fun s => r.groups.foldl (fun s (_, g) => s.modifyGroup g Group.shutdown) s
    pure silent
  | .newQueue label => do
    let q ← call (·.addQueue)
    change fun s => { s with labels := s.labels.setQueue label q }
    pure silent
  | .push label messages => do
    let q ← queue label
    pushOn .main q messages
    if (← get).threaded then pure silent
    else
      let size := ((← system).queue q).size
      pure (shows (.list [.nat size, .flag (size == 0)]))
  | .fetch label => do
    let q ← queue label
    let message ← call (·.fetch q)
    let size := ((← system).queue q).size
    pure (shows (.list [(message.map .number).getD .null, .nat size, .flag (size == 0)]))
  | .callback label tag r g => do
    let q ← queue label
    let w ← get
    let callback := callbackOf tag (r.bind w.system.labels.routine?) (g.bind fun name => w.groups.lookup name)
    change (·.modifyQueue q (·.install callback))
    pure silent
  | .newFactory label body q => do
    let script := Script.ofActions body
    let f ← match q with
      | some q => do pure (Factory.ofReader (← queue q) script)
      | none => pure (Factory.ofProgram script)
    modify fun w => { w with factories := (label, f) :: w.factories.filter (·.1 != label) }
    pure (shows (.flag f.source.isSome))
  | .gateWait gate => do change (System.awaitGate gate); pure silent
  | .gateOpen gate => do change (·.openGate gate); pure silent
  | .settle ordered sleepers => do
    let parked ← call (System.awaitParked sleepers)
    let lines ← takeTraces
    pure { shows (.flag parked) with traces := some (if ordered then lines else sorted lines) }
  | .produce label threads per => do
    let q ← queue label
    for p in List.range threads do
      pushOn .helper q ((List.range per).map fun i => ((p * per + i : Nat) : Int))
    pure silent
  | step => playScheduler step

/-- Let the processors come to rest after a step, and show what the main thread said in its course.
What other threads said is kept for a step that shows it. -/
def playOne (w : World) (step : Step) : World × Answer :=
  let place := w.system.log.size
  match (playStep step).run w with
  | .error failure => (w, { failure := some failure })
  | .ok (answer, next) =>
    let next := { next with system := next.system.rest }
    (next, { answer with events := eventsSince next.threaded place next.system.log })

/-- Play the steps of a scenario in order. -/
def play (steps : List Step) : List Answer := go {} steps
where
  go (w : World) : List Step → List Answer
    | [] => []
    | step :: rest =>
      let (w, answer) := playOne w step
      answer :: go w rest

end CoopSched.Scenario
