import CoopSched.State
/-!
# Bodies

What a routine executes. A body is a program that makes one move at a time: it asks the system for
something, gives up its turn, waits at a gate, comes to its end or panics. The moves of a program are
known from its state alone, so a body can be stopped between any two of them.

A body that reads a queue is built from a callback: it declares itself waiting before it looks into
the queue, so that a message that arrives after the look finds it waiting.

A body can hold, release and tell routines, but it cannot resume one: turns are begun by threads that are
not in the middle of a turn.
-/

namespace CoopSched

/-- The number of a routine. -/
abbrev RoutineRef := Nat

/-- The number of a group. -/
abbrev GroupRef := Nat

/-- The number of a queue. -/
abbrev QueueRef := Nat

/-- The names under which bodies find routines and queues. -/
structure Labels where
  routines : List (String × RoutineRef) := []
  queues : List (String × QueueRef) := []
  deriving Repr, Inhabited

namespace Labels

/-- The routine of a name. -/
def routine? (l : Labels) (name : String) : Option RoutineRef := l.routines.lookup name

/-- The queue of a name. -/
def queue? (l : Labels) (name : String) : Option QueueRef := l.queues.lookup name

/-- Give a name to a routine. -/
def setRoutine (l : Labels) (name : String) (r : RoutineRef) : Labels :=
  { l with routines := (name, r) :: l.routines.filter (·.1 != name) }

/-- Give a name to a queue. -/
def setQueue (l : Labels) (name : String) (q : QueueRef) : Labels :=
  { l with queues := (name, q) :: l.queues.filter (·.1 != name) }

end Labels

/-- What can be done to a routine from outside its body. -/
inductive RoutineOp where
  | stop
  | wake
  | hangUp
  | recheck
  | release
  | acquire
  | update
  | look
  deriving DecidableEq, Repr

/-- What a body asks of the system. The bodies of new tasks are programs of the same kind. -/
inductive Request (κ : Type) where
  | trace (text : String)
  | identity
  | setState (state : State)
  | push (queue : QueueRef) (value : Int)
  | fetch (queue : QueueRef)
  | onRoutine (routine : RoutineRef) (op : RoutineOp)
  | create (task : String) (body : κ) (source : Option QueueRef)
  | remove (task : String)
  | notify (task : String)
  | stopProcessor

/-- What the system replies. -/
inductive Reply where
  | nothing
  | flag (value : Bool)
  | state (value : State)
  | message (value : Option Int)
  | identity (id : UInt64) (name : String)
  | refused
  deriving DecidableEq, Repr

/-- How a body gives up its turn: with its state as it is, with a new state, or asleep for some
milliseconds. -/
inductive Pause where
  | keep
  | become (state : State)
  | sleep (millis : Nat)
  deriving DecidableEq, Repr

/-- One move of a program over states `σ`. -/
inductive Move (κ σ : Type) where
  | skip (rest : σ)
  | ask (request : Request κ) (rest : Reply → σ)
  | pause (how : Pause) (rest : σ)
  | await (gate : String) (rest : σ)
  | finish (rest : σ)
  | panic (reason : String)

namespace Move

variable {κ σ τ : Type}

/-- The same move, with what comes after it changed; its end is a move of its own choice. -/
def bind (m : Move κ σ) (rest : σ → τ) (ending : σ → Move κ τ) : Move κ τ :=
  match m with
  | skip k => .skip (rest k)
  | ask request k => .ask request fun reply => rest (k reply)
  | pause how k => .pause how (rest k)
  | await gate k => .await gate (rest k)
  | finish k => ending k
  | panic reason => .panic reason

end Move

/-- Programs: their next move, and the start of a callback on a message. After the end of a callback
its state is kept for the next message. -/
class Program (κ : Type) where
  next : Labels → κ → Move κ κ
  deliver : κ → Int → κ

/-- Where a body that reads a queue stands. -/
inductive ReaderPhase where
  | parking
  | fetching
  | idle
  | handling
  | handled
  deriving DecidableEq, Repr

/-- What a routine has still to do: a program, a callback for the messages of a queue, or nothing. -/
inductive Work (κ : Type) where
  | body (program : κ)
  | reader (queue : QueueRef) (phase : ReaderPhase) (callback : κ)
  | finished

instance {κ : Type} : Inhabited (Work κ) := ⟨.finished⟩

namespace Work

variable {κ : Type} [Program κ]

/-- The next move. A reader declares itself waiting, then looks into its queue; it handles a message
and is ready again, or leaves its turn still waiting. -/
def next (labels : Labels) : Work κ → Move κ (Work κ)
  | body k => (Program.next labels k).bind .body fun _ => .finish .finished
  | reader q .parking c => .ask (.setState .dataWait) fun _ => .reader q .fetching c
  | reader q .fetching c =>
    .ask (.fetch q) fun
      | .message (some m) => .reader q .handling (Program.deliver c m)
      | _ => .reader q .idle c
  | reader q .idle c => .pause .keep (.reader q .parking c)
  | reader q .handling c =>
    (Program.next labels c).bind (.reader q .handling) fun c => .skip (.reader q .handled c)
  | reader q .handled c => .pause (.become .ready) (.reader q .parking c)
  | finished => .pause .keep .finished

end Work

/-- A pattern for bodies, and the queue whose arrivals announce work for them. -/
structure Factory (κ : Type) where
  work : Work κ
  source : Option QueueRef := none

namespace Factory

variable {κ : Type}

/-- Bodies that run a program. -/
def ofProgram (k : κ) : Factory κ := { work := .body k }

/-- Bodies that run a callback on each message of a queue. -/
def ofReader (q : QueueRef) (callback : κ) : Factory κ :=
  { work := .reader q .parking callback, source := some q }

/-- The text shown for a factory. -/
def describe (f : Factory κ) : String :=
  "RoutineFactory \x7b has_visitor: " ++ toString f.source.isSome ++ " \x7d"

end Factory

end CoopSched
