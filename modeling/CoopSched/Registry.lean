import CoopSched.Config
import CoopSched.Directory
import CoopSched.Hash.Sip
/-!
# Names of tasks

The id of a task is a hash of its name. The registry remembers, for each id, the first name that was
registered with it.
-/

namespace CoopSched

/-- The id of a task name: the hash of its UTF-8 bytes and a closing byte. -/
def taskId (name : String) : UInt64 :=
  Hash.sip13 (name.toUTF8.toList ++ [0xff])

/-- First names by id. -/
structure Registry where
  names : Directory taskRegistryBits String

namespace Registry

/-- No names. -/
def empty : Registry := ⟨Directory.empty⟩

/-- Keep a name under the given id unless the id has one already. -/
def keep (r : Registry) (id : UInt64) (name : String) : Registry :=
  if r.names.contains id then r else ⟨r.names.set id name⟩

/-- Register a name under the id that `hash` gives it. -/
def registerBy (hash : String → UInt64) (r : Registry) (name : String) : Registry × UInt64 :=
  (r.keep (hash name) name, hash name)

/-- Register a name under its task id. -/
def register (r : Registry) (name : String) : Registry × UInt64 := r.registerBy taskId name

/-- The first name registered with an id. -/
def nameOf (r : Registry) (id : UInt64) : Option String := r.names.get? id

/-- The text shown for a registry. -/
def describe (r : Registry) : String :=
  "TaskRegistry \x7b names: " ++ r.names.describe ++ " \x7d"

end Registry

end CoopSched
