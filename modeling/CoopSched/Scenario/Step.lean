import CoopSched.Config
import CoopSched.Routine
import CoopSched.Script
/-!
# Scenario steps

A scenario is a list of calls on named things, made one after another by the main thread. Steps that
say so use another thread, which ends after the call.
-/

namespace CoopSched.Scenario

/-- A task by its name or by its id. -/
inductive TaskKey where
  | name (task : String)
  | id (value : UInt64)

/-- What is done to one routine. -/
inductive RoutineStep where
  | acquire (t : Thread)
  | resume (t : Thread)
  | run (t : Thread)
  | release
  | update
  | setState (state : State)
  | wake
  | hangUp
  | recheck
  | stop
  | setPriority (priority : Nat)
  | setGroup (name : String)

/-- What is done to one group. -/
inductive GroupStep where
  | look
  | insert (routine : String)
  | next (label : Option String)
  | drain (turns : Nat)
  | wait
  | notify (times : Nat)
  | shutdown
  | remove (routine : String)
  | removeHeld (routine : String)

/-- The things whose description is asked for. -/
structure Descriptions where
  routine : Option String := none
  group : Option String := none
  queue : Option String := none
  factory : Option String := none
  context : Option String := none
  roster : Bool := false
  scheduler : Bool := false

/-- The group layout of a new scheduler. -/
inductive Layout where
  | conf (conf : SchedulerConf)
  | processors (count : Nat)

/-- One step. -/
inductive Step where
  | newRoutine (label : String) (id : UInt64) (name : String) (priority : Option Nat)
      (body : List Action)
  | routineFrom (label : String) (id : UInt64) (name factory : String)
  | onRoutine (label : String) (step : RoutineStep)
  | info (label : String)
  | describe (what : Descriptions)
  | outside (call : Pause)
  | stateOutside
  | current
  | elapse (millis : Nat)
  | newGroup (label name : String)
  | onGroup (label : String) (step : GroupStep)
  | newRoster (names : List String)
  | rosterNames
  | groupOrDefault (name : String)
  | useGroup (label name : String)
  | notifyName (name : String)
  | shutdownRoster
  | newQueue (label : String)
  | push (queue : String) (messages : List Int)
  | fetch (queue : String)
  | callback (queue tag : String) (routine group : Option String)
  | newFactory (label : String) (body : List Action) (queue : Option String)
  | scheduler (layout : Layout)
  | create (task : String) (body : List Action) (queue : Option String)
  | createFrom (factory task : String)
  | dispatch (routine : String)
  | removeTask (task : String)
  | removeId (task : TaskKey)
  | notify (task : TaskKey) (direct : Bool)
  | task (task : TaskKey) (label : Option String)
  | taskName (task : TaskKey)
  | overview
  | shutdown
  | dropScheduler
  | status (busy : Nat)
  | innerThreads (threads : List (String × InnerThread))
  | placeInner (thread : String)
  | placeProcess
  | gateWait (gate : String)
  | gateOpen (gate : String)
  | settle (ordered sleepers : Bool)
  | removeRunning (task gate : String)
  | raceCreate (task : String) (threads : Nat) (body : List Action)
  | raceShutdown (threads : Nat) (body : List Action)
  | produce (queue : String) (threads per : Nat)

end CoopSched.Scenario
