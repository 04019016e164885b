import CoopSched.Body
/-!
# Scripted bodies

A small language for bodies: lists of actions, with repetition and loops. The state of a script is
what is left of it, a counter of its own and, in a callback, the message at hand. Names of routines and
queues are looked up when the action that mentions them is reached.
-/

namespace CoopSched

/-- What a scripted body can do. -/
inductive Action where
  | log (text : String)
  | message (text : String)
  | count (text : String)
  | who
  | pause (how : Pause)
  | become (state : State)
  | push (queue : String) (value : Int)
  /-- Put `factor * message + offset` into a queue, in 64 bits. -/
  | forward (queue : String) (factor offset : Int)
  | fetch (queue : String)
  | routine (name : String) (op : RoutineOp)
  | create (task : String) (body : List Action) (source : Option String)
  | remove (task : String)
  | notify (task : String)
  | stopProcessor
  | gate (name : String)
  | panic (reason : String)
  | panicOn (message : Int)
  | again (times : Nat) (actions : List Action)
  | forever (actions : List Action)
  | leave

/-- The reason shown for a panic that carries no text. -/
def textlessPanic : String := "<non-string panic payload>"

/-- A script in progress. -/
structure Script where
  /-- The whole script, which a callback runs for every message. -/
  actions : List Action
  counter : Nat := 0
  message : Int := 0
  /-- What is left to do. -/
  todo : List Action

namespace Script

/-- A script about to begin. -/
def ofActions (actions : List Action) : Script := { actions, todo := actions }

/-- Say a line next. -/
def say (s : Script) (text : String) : Script := { s with todo := .log text :: s.todo }

/-- The word for a truth value. -/
def word (b : Bool) : String := if b then "true" else "false"

/-- What a script says about the outcome of an operation on a routine. -/
def sayOutcome (s : Script) (name : String) (op : RoutineOp) : Reply → Script
  | .flag granted => s.say ("acquire " ++ name ++ " " ++ word granted)
  | .state state =>
    match op with
    | .update => s.say ("update " ++ name ++ " " ++ state.label)
    | _ => s.say (name ++ " is " ++ state.label)
  | _ => s

/-- What a script says about the outcome of a request about a task. -/
def sayTask (s : Script) (verb task : String) : Reply → Script
  | .flag outcome => s.say (verb ++ " " ++ task ++ " " ++ word outcome)
  | .refused => s.say (verb ++ " " ++ task ++ " would_block")
  | _ => s

/-- What a script says about a message it fetched. -/
def sayFetched (s : Script) (queue : String) : Reply → Script
  | .message (some m) => s.say ("fetch " ++ queue ++ " " ++ toString m)
  | _ => s.say ("fetch " ++ queue ++ " none")

/-- The move for an action; `s` is the script after it. -/
def perform (labels : Labels) (s : Script) : Action → Move Script Script
  | .log text => .ask (.trace text) fun _ => s
  | .message text => .ask (.trace (text ++ " " ++ toString s.message)) fun _ => s
  | .count text =>
    let counter := s.counter + 1
    .ask (.trace (text ++ " " ++ toString counter)) fun _ => { s with counter }
  | .who =>
    .ask .identity fun
      | .identity id name => s.say (toString id.toNat ++ ":" ++ name)
      | _ => s
  | .pause how => .pause how s
  | .become state => .ask (.setState state) fun _ => s
  | .push queue value =>
    match labels.queue? queue with
    | some q => .ask (.push q value) fun _ => s
    | none => .skip s
  | .forward queue factor offset =>
    match labels.queue? queue with
    | some q => .ask (.push q (Int64.ofInt (s.message * factor + offset)).toInt) fun _ => s
    | none => .skip s
  | .fetch queue =>
    match labels.queue? queue with
    | some q => .ask (.fetch q) (s.sayFetched queue)
    | none => .skip s
  | .routine name op =>
    match labels.routine? name with
    | some r => .ask (.onRoutine r op) (s.sayOutcome name op)
    | none => .skip s
  | .create task body source =>
    .ask (.create task (ofActions body) (source.bind labels.queue?)) (s.sayTask "create" task)
  | .remove task => .ask (.remove task) (s.sayTask "remove" task)
  | .notify task => .ask (.notify task) (s.sayTask "notify" task)
  | .stopProcessor => .ask .stopProcessor fun _ => s
  | .gate name => .await name s
  | .panic reason => .panic reason
  | .panicOn message =>
    if s.message = message then .panic ("message " ++ toString message) else .skip s
  | .again 0 _ | .again _ [] => .skip s
  | .again (n + 1) actions => .skip { s with todo := actions ++ .again n actions :: s.todo }
  | .forever [] => .finish s
  | .forever actions => .skip { s with todo := actions ++ .forever actions :: s.todo }
  | .leave => .finish s

/-- The next move of a script; its end is the end of the list. -/
def next (labels : Labels) (s : Script) : Move Script Script :=
  match s.todo with
  | [] => .finish s
  | action :: rest => perform labels { s with todo := rest } action

/-- Begin the script with a message. The counter goes on from the message before. -/
def deliver (s : Script) (message : Int) : Script := { s with message, todo := s.actions }

instance : Program Script := ⟨next, deliver⟩

end Script

end CoopSched
