import CoopSched.Text.Quoted
/-!
# Errors

What can go wrong outside the task operations themselves (those answer with a truth value):
reading a configuration, starting a thread, and asking the operating system for a placement.
-/

namespace CoopSched

/-- A failure, by its cause. -/
inductive Error where
  | configFileNotFound (path : String)
  | invalidConfig (reason : String)
  | invalidCpuset (spec : String)
  | ioError (reason : String)
  | threadSpawnFailed (reason : String)
  | affinityFailed (reason : String)
  | schedPolicyFailed (reason : String)
  | unsupported
  deriving DecidableEq, Repr

namespace Error

/-- The text shown for an error. -/
def message : Error → String
  | configFileNotFound path => s!"Config file not found: {path}"
  | invalidConfig reason => s!"Invalid config: {reason}"
  | invalidCpuset spec => "Invalid cpuset: " ++ Text.quoted spec
  | ioError reason => s!"I/O error: {reason}"
  | threadSpawnFailed reason => s!"Thread spawn failed: {reason}"
  | affinityFailed reason => s!"Set affinity failed: {reason}"
  | schedPolicyFailed reason => s!"Set sched policy failed: {reason}"
  | unsupported => "Unsupported operation"

/-- The text of the error that caused this one: only input and output errors have one. -/
def source : Error → Option String
  | ioError reason => some reason
  | _ => none

end Error

end CoopSched
