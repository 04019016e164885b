import CoopSched.Error
/-!
# Answers of a scenario

What a step shows: a value, the thing it was about, lines said by other threads, and what was said on
the main thread.
-/

namespace CoopSched.Scenario

/-- A value shown by a step. -/
inductive Value where
  | null
  | flag (b : Bool)
  | number (n : Int)
  | text (s : String)
  | list (items : List Value)
  | record (fields : List (String × Value))
  | outcome (result : Except Error Unit)

instance : Inhabited Value := ⟨.null⟩

namespace Value

/-- A natural number. -/
def nat (n : Nat) : Value := .number n

/-- A text, or nothing. -/
def textOrNull : Option String → Value
  | none => .null
  | some s => .text s

/-- The word for a call that was not made because it would never return. -/
def wouldBlock : Value := .text "would_block"

end Value

/-- Why a step could not be carried out. -/
inductive BadStep where
  | noSuchRoutine
  | noSuchGroup
  | noSuchQueue
  | noSuchFactory
  | noRoster
  | noScheduler
  | panicked
  deriving DecidableEq, Repr

/-- The text shown for such a step. -/
def BadStep.message : BadStep → String
  | noSuchRoutine => "no such routine"
  | noSuchGroup => "no such group"
  | noSuchQueue => "no such queue"
  | noSuchFactory => "no such factory"
  | noRoster => "no runtime"
  | noScheduler => "no scheduler"
  | panicked => "panicked"

/-- What one step shows. -/
structure Answer where
  value : Option Value := none
  routine : Option Value := none
  group : Option Value := none
  /-- Lines of bodies on other threads. -/
  traces : Option (List String) := none
  /-- Lines on the main thread. -/
  events : List String := []
  failure : Option BadStep := none

instance : Inhabited Answer := ⟨{}⟩

/-- The texts in the order of their characters. -/
def sorted (texts : List String) : List String := texts.mergeSort (· ≤ ·)

end CoopSched.Scenario
