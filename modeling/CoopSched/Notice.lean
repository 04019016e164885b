import CoopSched.Error
import CoopSched.State
/-!
# Notices

What the scheduler reports while it works, each with a level and a text.
-/

namespace CoopSched

/-- How much a notice matters. -/
inductive Level where
  | error
  | warn
  | info
  | debug
  deriving DecidableEq, Repr

/-- The name of a level. -/
def Level.label : Level → String
  | error => "ERROR"
  | warn => "WARN"
  | info => "INFO"
  | debug => "DEBUG"

/-- The calls that only make sense inside a routine. -/
inductive InsideCall where
  | yield
  | sleep
  | setState
  deriving DecidableEq, Repr

/-- The name of such a call in messages. -/
def InsideCall.label : InsideCall → String
  | yield => "yield"
  | sleep => "sleep"
  | setState => "set_current_state"

/-- An event worth reporting. -/
inductive Notice where
  | resumedInState (state : State) (routine : String)
  | resumedWithoutHolding (routine : String)
  | panicked (routine reason : String)
  | calledOutside (call : InsideCall)
  | waitingToRemove (group routine : String)
  | noGroups
  | confLoaded (path : String)
  | confRefused (cause : Error)
  | choreographyUnavailable
  | unknownPolicy (policy : String)
  | processCpusetRefused (cause : Error)
  | groupCpusetRefused (group : String) (cause : Error)
  | placementRefused (processor : String) (cause : Error)
  | started (policy : String) (processors routines : Nat)
  | createAfterStop (task : String)
  | creating (task : String)
  | alreadyDispatched (task : String)
  | priorityClamped (task : String) (prio highest : Nat)
  | unknownGroup (task group used : String)
  | shuttingDown
  | noThreadAttributes (thread : String)
  | niceSkipped
  | stoppedFromOwnThread (processor : String)
  deriving DecidableEq, Repr

namespace Notice

/-- The level of a notice. -/
def level : Notice → Level
  | resumedInState .. | resumedWithoutHolding .. | panicked .. => .error
  | calledOutside .. | noGroups | confRefused .. | unknownPolicy .. | processCpusetRefused ..
  | groupCpusetRefused .. | placementRefused .. | alreadyDispatched .. | priorityClamped ..
  | unknownGroup .. | stoppedFromOwnThread .. => .warn
  | waitingToRemove .. | confLoaded .. | choreographyUnavailable | started .. | creating ..
  | shuttingDown => .info
  | createAfterStop .. | noThreadAttributes .. | niceSkipped => .debug

/-- The part of the scheduler that reports a notice. -/
def origin : Notice → String
  | resumedInState .. | resumedWithoutHolding .. | panicked .. | calledOutside .. => "routine"
  | waitingToRemove .. => "ready-group"
  | niceSkipped => "pin-thread"
  | stoppedFromOwnThread .. => "processor"
  | _ => "scheduler"

/-- What a notice says. -/
def text : Notice → String
  | resumedInState state routine => "invalid state " ++ state.label ++ " for resume of " ++ routine
  | resumedWithoutHolding routine => s!"{routine} resumed without holding it"
  | panicked routine reason => s!"{routine} panicked: {reason}"
  | calledOutside call => call.label ++ " called outside of a routine"
  | waitingToRemove group routine => s!"{group}: waiting for task {routine} to yield"
  | noGroups => "no scheduling groups configured, using default topology"
  | confLoaded path => s!"loaded conf {path}"
  | confRefused cause => cause.message ++ ", using default topology"
  | choreographyUnavailable => "choreography policy not available, using classic"
  | unknownPolicy policy =>
    "invalid scheduler policy " ++ Text.quoted policy ++ ", using classic"
  | processCpusetRefused cause => "process level cpuset not applied: " ++ cause.message
  | groupCpusetRefused group cause => s!"group {group}: " ++ cause.message
  | placementRefused processor cause => s!"{processor}: " ++ cause.message
  | started policy processors routines =>
    s!"{policy} policy, {processors} processors, {routines} routines expected"
  | createAfterStop task => s!"stopped, cannot create task {task}"
  | creating task => s!"create routine: {task}"
  | alreadyDispatched task => s!"task {task} already dispatched"
  | priorityClamped task prio highest => s!"{task} prio {prio} out of range, clamped to {highest}"
  | unknownGroup task group used => s!"{task}: unknown group {group}, using {used}"
  | shuttingDown => "shutting down"
  | noThreadAttributes thread => s!"no attributes configured for thread {thread}"
  | niceSkipped => "SCHED_OTHER without a tid, nice value skipped"
  | stoppedFromOwnThread processor => s!"{processor} stopped from its own thread, not joining"

/-- The line of a notice: its level, its origin in brackets, its text. -/
def line (n : Notice) : String := n.level.label ++ " [" ++ n.origin ++ "] " ++ n.text

end Notice

end CoopSched
