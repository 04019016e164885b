import CoopSched.Config
/-!
# Stacks

Each routine runs on a stack of its own, which is allocated first and can be switched to only after its
first frame was laid.
-/

namespace CoopSched

/-- The stack of a routine. -/
structure Stack where
  size : Nat := stackSize
  /-- The first frame was laid. -/
  prepared : Bool := false
  deriving DecidableEq, Repr, Inhabited

/-- Lay the first frame. -/
def Stack.prepare (s : Stack) : Stack := { s with prepared := true }

end CoopSched
