import CoopSched.System.Turn
/-!
# Processors at work

The loop of a processor, one phase at a time, and the rest to which a system comes when all of its
processors go on until none of them finds anything to do.
-/

namespace CoopSched.System

variable {κ : Type}

/-- Put a processor into a phase. -/
def enter (s : System κ) (p : Nat) (phase : Phase) : System κ :=
  s.modifyProcessor p fun x => { x with phase }

/-- Open a gate. -/
def openGate (s : System κ) (gate : String) : System κ :=
  if s.openGates.contains gate then s else { s with openGates := gate :: s.openGates }

/-- Is a live task parked: not held, and finished or waiting without a recheck? A sleeper counts
only if that is wanted. -/
def isParked (sleepers : Bool) (x : Routine κ) : Bool :=
  !x.isHeld &&
    match x.state with
    | .finished => true
    | .ioWait | .dataWait => !x.recheck
    | .sleep => sleepers
    | .ready => false

/-- The routines of the live tasks. -/
def liveRoutines (s : System κ) : List (Routine κ) :=
  match s.scheduler with
  | none => []
  | some sched => sched.tasks.entries.map fun (_, r) => s.routine r

/-- Is every live task parked? -/
def allParked (s : System κ) (sleepers : Bool) : Bool := s.liveRoutines.all (isParked sleepers)

/-- When the next sleeping task wakes, of those that are still to wake. -/
def nextWake? (s : System κ) : Option Nat :=
  ((s.liveRoutines.filter fun x => x.state = .sleep && s.now < x.wakeAt).map (·.wakeAt)).min?

/-- The tasks that processors are busy with, by processor. -/
def busyWith (s : System κ) : List (Option String) :=
  match s.scheduler with
  | none => []
  | some sched => sched.processors.map fun p => (s.processor p).busyWith?

variable [Program κ]

/-- The next phase of a processor. With a closed gate in front of its routine it stays where it
is. -/
def serveStep (s : System κ) (p : Nat) : System κ :=
  let x := s.processor p
  let t := Thread.processor p
  match x.phase with
  | .unborn | .ended => s
  | .scanning =>
    if !x.running then s.modifyProcessor p Processor.finish
    else match x.group with
      | none => s
      | some g =>
        match s.nextRoutine t g with
        | (s, some r) =>
          let name := (s.routine r).name
          s.modifyProcessor p (·.take r name)
        | (s, none) => s.modifyProcessor p Processor.idle
  | .holding r =>
    match s.resume t r with
    | (s, .ran (.atGate _)) => s.enter p (.running r)
    | (s, _) => s.enter p (.resumed r)
  | .running r =>
    match runBody t r turnFuel s with
    | (s, .atGate _) => s
    | (s, _) => s.enter p (.resumed r)
  | .resumed r => (s.release r).enter p .scanning
  | .waiting =>
    match x.group with
    | none => s.enter p .scanning
    | some g => (s.modifyGroup g Group.wait).enter p .scanning

/-- Is the routine in front of a closed gate? -/
def isAtClosedGate (s : System κ) (r : RoutineRef) : Bool :=
  match (s.routine r).work.next s.labels with
  | .await gate _ => !s.openGates.contains gate
  | _ => false

/-- Has the group a routine that can be held and is ready, or would be if it were looked at? -/
def hasRunnable (s : System κ) (g : GroupRef) : Bool :=
  !(s.group g).stopped && (s.group g).slots.any fun r =>
    !(s.routine r).isHeld && ((s.routine r).update s.now).state = .ready

/-- Would this processor do more than find nothing, as before, and wait? -/
def hasBusiness (s : System κ) (p : Nat) : Bool :=
  let x := s.processor p
  match x.phase with
  | .unborn | .ended => false
  | .holding _ | .resumed _ => true
  | .running r => !s.isAtClosedGate r
  | .scanning | .waiting =>
    x.busy || !x.running ||
      match x.group with
      | none => false
      | some g =>
        (!(s.group g).stopped && 0 < (s.group g).pending) || s.hasRunnable g

/-- The numbers of the processors. -/
def processorNumbers (s : System κ) : List Nat := List.range s.processors.size

/-- Has any processor business? -/
def anyBusiness (s : System κ) : Bool := s.processorNumbers.any s.hasBusiness

/-- One round: every processor that has business goes on by one phase. -/
def serveRound (s : System κ) : System κ :=
  s.processorNumbers.foldl (fun s p => if s.hasBusiness p then s.serveStep p else s) s

/-- Rounds until no processor has business, or a number of them. -/
def serveRounds : Nat → System κ → System κ
  | 0, s => s
  | rounds + 1, s => if s.anyBusiness then serveRounds rounds s.serveRound else s

/-- Let a processor that has a routine go on until it is released, or a gate stops it. -/
def finishTurn (s : System κ) (p : Nat) : System κ :=
  let s := match (s.processor p).phase with
    | .holding _ | .running _ => s.serveStep p
    | _ => s
  match (s.processor p).phase with
  | .resumed _ => s.serveStep p
  | _ => s

/-- Let the processors finish the turns they are in, without beginning others. -/
def finishTurns (s : System κ) : System κ :=
  s.processorNumbers.foldl (fun s p => s.finishTurn p) s

/-- How many rounds the processors get between two steps of whoever looks at them. Tasks that never
wait keep them at work for ever, so that there is always something left to do. -/
def restRounds : Nat := 10000

/-- Let the processors come to rest, or at least between two turns. -/
def rest (s : System κ) : System κ := (serveRounds restRounds s).finishTurns

/-- Let the clock go on to a time, with a rest at each end of a sleep on the way there. -/
def sleepUntil (time : Nat) : Nat → System κ → System κ
  | 0, s => { s with now := max s.now time }
  | naps + 1, s =>
    match s.nextWake? with
    | none => { s with now := max s.now time }
    | some wake =>
      if time ≤ wake then { s with now := max s.now time }
      else sleepUntil time naps (rest { s with now := wake })

/-- Let some milliseconds pass. A sleep that ends on the way takes at least one of them. -/
def pass (millis : Nat) (s : System κ) : System κ := sleepUntil (s.now + millis) millis s

/-- Let the processors go on, and the clock whenever they rest, until something has come about. The
answer is whether it has, before a time and within a number of rounds. -/
def goOnUntil (reached : System κ → Bool) (deadline : Nat) : Nat → System κ → System κ × Bool
  | 0, s => (s, false)
  | rounds + 1, s =>
    if reached s then (s, true)
    else if s.anyBusiness then goOnUntil reached deadline rounds s.serveRound
    else match s.nextWake? with
      | none => (s, false)
      | some wake =>
        if deadline < wake then (s, false)
        else goOnUntil reached deadline rounds { s with now := wake }

/-- How long something is awaited, in milliseconds. -/
def patience : Nat := 60000

/-- How many rounds something is awaited. -/
def awaitRounds : Nat := 2000000

/-- Wait for something to come about. -/
def await (reached : System κ → Bool) (s : System κ) : System κ × Bool :=
  goOnUntil reached (s.now + patience) awaitRounds s

/-- Wait until every live task is parked and no processor has business. -/
def awaitParked (sleepers : Bool) (s : System κ) : System κ × Bool :=
  s.await fun s => s.allParked sleepers && !s.anyBusiness

/-- Wait until so many processors are busy. -/
def awaitBusy (count : Nat) (s : System κ) : System κ :=
  (s.await fun s => (s.busyWith.filter (·.isSome)).length == count).1

/-- Wait until a body has come to a gate. -/
def awaitGate (gate : String) (s : System κ) : System κ :=
  (s.await (·.reachedGates.contains gate)).1

end CoopSched.System
