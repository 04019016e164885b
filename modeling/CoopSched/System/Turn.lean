import CoopSched.System.Tasks
/-!
# Turns

A turn of a routine begins when the thread that holds it resumes it, and lasts until its body gives
up the turn, ends, or comes to a gate that is closed. In between the body makes its moves one by one.

Two kinds of runs are left out. A body that removes a task is refused while somebody holds the task, its own
one included, where the call would wait for the holder; so no body waits for a removal. And a body never
resumes a routine: a resume from inside a turn would leave its thread without a running routine, and the
outer body could not give up its turn any more.
-/

namespace CoopSched.System

variable {κ : Type}

/-- Do something to a routine on behalf of a body. -/
def applyOp (s : System κ) (t : Thread) (r : RoutineRef) : RoutineOp → System κ × Reply
  | .stop => (s.modifyRoutine r Routine.stop, .nothing)
  | .wake => (s.modifyRoutine r Routine.wake, .nothing)
  | .hangUp => (s.modifyRoutine r Routine.hangUp, .nothing)
  | .recheck => (s.modifyRoutine r Routine.requestRecheck, .nothing)
  | .release => (s.release r, .nothing)
  | .acquire => let (s, granted) := s.acquire t r; (s, .flag granted)
  | .update => let s := s.update r; (s, .state (s.routine r).state)
  | .look => (s, .state (s.routine r).state)

/-- Remove a task on behalf of a body. While the task is held, as the running one is, the call is
refused because it would never return. -/
def removeFromBody (s : System κ) (t : Thread) (name : String) : System κ × Reply :=
  if (s.task? (taskId name)).any fun r => (s.routine r).isHeld then (s, .refused)
  else
    let (s, outcome) := s.removeTask t name
    (s, .flag outcome.succeeded)

/-- Answer what the body of a routine asks. Requests about tasks get no reply without a scheduler. -/
def serve (s : System κ) (t : Thread) (r : RoutineRef) : Request κ → System κ × Reply
  | .trace text => (s.trace t text, .nothing)
  | .identity => (s, .identity (s.routine r).id (s.routine r).name)
  | .setState state => (s.modifyRoutine r (·.setState state), .nothing)
  | .push q message => (s.push t q message, .nothing)
  | .fetch q => let (s, message) := s.fetch q; (s, .message message)
  | .onRoutine x op => s.applyOp t x op
  | .create name body source =>
    if s.scheduler.isNone then (s, .nothing)
    else
      let (s, created) := s.createTask t (.body body) name source
      (s, .flag created)
  | .remove name => if s.scheduler.isNone then (s, .nothing) else s.removeFromBody t name
  | .notify name =>
    if s.scheduler.isNone then (s, .nothing)
    else
      let (s, known) := s.notifyTask (taskId name)
      (s, .flag known)
  | .stopProcessor =>
    match t with
    | .processor p => (s.stopProcessor t p, .nothing)
    | _ => (s, .nothing)

/-- Where a body is after some moves. -/
inductive Progress where
  | going
  | paused
  | atGate (gate : String)
  deriving DecidableEq, Repr

variable [Program κ]

/-- One move of the body of a routine. A body that ends or panics leaves the routine finished. -/
def move (s : System κ) (t : Thread) (r : RoutineRef) : System κ × Progress :=
  let goOn := fun (s : System κ) (work : Work κ) => s.modifyRoutine r fun x => { x with work }
  let close := fun (s : System κ) =>
    s.modifyRoutine r fun x => { x with work := .finished, state := .finished }
  match (s.routine r).work.next s.labels with
  | .skip rest => (goOn s rest, .going)
  | .ask request rest =>
    let (s, reply) := s.serve t r request
    (goOn s (rest reply), .going)
  | .pause how rest => ((goOn s rest).modifyRoutine r (·.pause s.now how), .paused)
  | .await gate rest =>
    let s := if s.reachedGates.contains gate then s
      else { s with reachedGates := gate :: s.reachedGates }
    if s.openGates.contains gate then (goOn s rest, .going) else (s, .atGate gate)
  | .finish _ => (close s, .paused)
  | .panic reason => (close (s.report t (.panicked (s.routine r).name reason)), .paused)

/-- The moves of a body up to the end of its turn, a closed gate, or a number of moves. -/
def runBody (t : Thread) (r : RoutineRef) : Nat → System κ → System κ × Progress
  | 0, s => (s, .going)
  | fuel + 1, s =>
    match s.move t r with
    | (s, .going) => runBody t r fuel s
    | (s, progress) => (s, progress)

/-- More moves than any turn takes that comes to an end. -/
def turnFuel : Nat := 1000000000000000000

/-- What resuming a routine came to: no turn at all, or a turn and where its body is now. -/
inductive Resumed where
  | refused
  | ran (progress : Progress)
  deriving DecidableEq, Repr

/-- Resume a routine. A stopped one is finished without running; one that is not ready, and one that
the thread does not hold, are left alone. -/
def resume (s : System κ) (t : Thread) (r : RoutineRef) : System κ × Resumed :=
  let x := s.routine r
  if x.stopped then (s.modifyRoutine r (·.setState .finished), .refused)
  else if x.state ≠ .ready then (s.report t (.resumedInState x.state x.name), .refused)
  else if x.holder ≠ some t then (s.report t (.resumedWithoutHolding x.name), .refused)
  else
    let (s, progress) := runBody t r turnFuel s
    (s, .ran progress)

/-- Hold a routine, resume it and release it. None if somebody holds it already. -/
def runOnce (s : System κ) (t : Thread) (r : RoutineRef) : System κ × Option State :=
  match s.acquire t r with
  | (s, false) => (s, none)
  | (s, true) =>
    let s := (s.resume t r).1
    (s.release r, some (s.routine r).state)

/-- Serve a group for some turns, or until it has nothing to run: the routines resumed, and their
states after that, following the ones that were resumed before. -/
def drainAfter (t : Thread) (g : GroupRef) : Nat → Array (String × State) → System κ →
    System κ × Array (String × State)
  | 0, ran, s => (s, ran)
  | turns + 1, ran, s =>
    match s.nextRoutine t g with
    | (s, none) => (s, ran)
    | (s, some r) =>
      let s := (s.resume t r).1
      let entry := ((s.routine r).name, (s.routine r).state)
      drainAfter t g turns (ran.push entry) (s.release r)

/-- Serve a group for some turns, or until it has nothing to run: the routines resumed, and their
states after that. -/
def drain (t : Thread) (g : GroupRef) (turns : Nat) (s : System κ) :
    System κ × List (String × State) :=
  let (s, ran) := drainAfter t g turns #[] s
  (s, ran.toList)

end CoopSched.System
