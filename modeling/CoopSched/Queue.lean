import CoopSched.Body
/-!
# Message queues

A queue hands out its messages in the order in which they were put in. At every arrival it runs the
callback that was installed last.
-/

namespace CoopSched

/-- What an arrival callback does, step by step. A notification is addressed to the scheduler that
installed it, known by its number. -/
inductive Announcement where
  | trace (text : String)
  | recheck (routine : RoutineRef)
  | notifyGroup (group : GroupRef)
  | notifyTask (scheduler : Nat) (id : UInt64)
  deriving DecidableEq, Repr

/-- A queue of messages in two parts: the older ones with the oldest first, and the newer ones with
the newest first. -/
structure MessageQueue where
  older : List Int := []
  newer : List Int := []
  callback : Option (List Announcement) := none
  deriving Repr, Inhabited

namespace MessageQueue

/-- The messages in the order in which they were put in. -/
def messages (q : MessageQueue) : List Int := q.older ++ q.newer.reverse

/-- Put a message in. -/
def push (q : MessageQueue) (message : Int) : MessageQueue :=
  { q with newer := message :: q.newer }

/-- Take the oldest message out. -/
def pop (q : MessageQueue) : MessageQueue × Option Int :=
  match q.older with
  | message :: rest => ({ q with older := rest }, some message)
  | [] =>
    match q.newer.reverse with
    | [] => (q, none)
    | message :: rest => ({ q with older := rest, newer := [] }, some message)

/-- Install a callback in place of the one before. -/
def install (q : MessageQueue) (callback : List Announcement) : MessageQueue :=
  { q with callback := some callback }

/-- How many messages there are. -/
def size (q : MessageQueue) : Nat := q.older.length + q.newer.length

/-- The text shown for a queue. -/
def describe (q : MessageQueue) : String :=
  "QueueVisitor \x7b pending: " ++ toString q.size ++ ", has_callback: " ++
    toString q.callback.isSome ++ " \x7d"

@[simp] theorem messages_push (q : MessageQueue) (message : Int) :
    (q.push message).messages = q.messages ++ [message] := by
  simp [messages, push]

@[simp] theorem messages_install (q : MessageQueue) (callback : List Announcement) :
    (q.install callback).messages = q.messages := rfl

theorem messages_pop (q : MessageQueue) : q.pop.1.messages = q.messages.tail := by
  unfold pop messages
  split
  · simp [*]
  · split <;> simp_all

theorem pop_eq_head? (q : MessageQueue) : q.pop.2 = q.messages.head? := by
  unfold pop messages
  split
  · simp [*]
  · split <;> simp_all

theorem size_eq_length (q : MessageQueue) : q.size = q.messages.length := by
  simp [size, messages]

end MessageQueue

end CoopSched
