/-!
# States of a routine

A routine is ready to run, has finished, sleeps until a time, or waits to be told to look again.
-/

namespace CoopSched

/-- The states of a routine. -/
inductive State where
  | ready
  | finished
  | sleep
  | ioWait
  | dataWait
  deriving DecidableEq, Repr, Inhabited

namespace State

/-- Waiting for data or for input and output. -/
def isWaiting : State → Bool
  | ioWait | dataWait => true
  | _ => false

/-- The name of a state in messages. -/
def label : State → String
  | ready => "READY"
  | finished => "FINISHED"
  | sleep => "SLEEP"
  | ioWait => "IO_WAIT"
  | dataWait => "DATA_WAIT"

/-- The state with a given name. -/
def ofLabel? : String → Option State
  | "READY" => some ready
  | "FINISHED" => some finished
  | "SLEEP" => some sleep
  | "IO_WAIT" => some ioWait
  | "DATA_WAIT" => some dataWait
  | _ => none

/-- The name of a state in descriptions. -/
def describe : State → String
  | ready => "Ready"
  | finished => "Finished"
  | sleep => "Sleep"
  | ioWait => "IoWait"
  | dataWait => "DataWait"

theorem ofLabel?_label (s : State) : ofLabel? s.label = some s := by cases s <;> rfl

end State

end CoopSched
