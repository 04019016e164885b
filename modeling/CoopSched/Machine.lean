/-!
# The machine

What the library leaves to the machine it runs on: whether a thread can be started or placed, how much
fits into memory, and in which order a hash table is gone through. None of it is fixed here. A system has
some machine, and what is said about all systems is said about all machines.
-/

namespace CoopSched

/-- An order for the keys of a table: some rearrangement of them. -/
structure Listing where
  arrange : List UInt64 → List UInt64
  perm : ∀ keys, (arrange keys).Perm keys

namespace Listing

/-- The order in which the keys were entered. -/
def entered : Listing := ⟨fun keys => keys, fun keys => .refl keys⟩

instance : Inhabited Listing := ⟨entered⟩

theorem mem_arrange (listing : Listing) {keys : List UInt64} {key : UInt64} :
    key ∈ listing.arrange keys ↔ key ∈ keys := (listing.perm keys).mem_iff

end Listing

/-- The policies of the operating system under which a thread has a priority of its own. -/
inductive Realtime where
  | fifo
  | roundRobin
  deriving DecidableEq, Repr

/-- The answers of a machine. A refusal comes with its reason. -/
structure Machine where
  /-- Start a thread of a name. -/
  spawn : String → Except String Unit := fun _ => .ok ()
  /-- The number of the thread of a processor. -/
  tid : Nat → Int := fun p => p
  /-- Let a thread run on some processors only. -/
  confine : List Nat → Except String Unit := fun _ => .ok ()
  /-- Let a thread run under a policy, with a priority. -/
  prioritize : Realtime → Int → Except String Unit := fun _ _ => .ok ()
  /-- Give the thread of a number a nice value. -/
  renice : Int → Int → Except String Unit := fun _ _ => .ok ()
  /-- How many processor numbers a list can hold. -/
  room : Nat := 1024
  /-- The order of the task table of each scheduler, by the scheduler's serial number. -/
  listing : Nat → Listing := fun _ => .entered

instance : Inhabited Machine := ⟨{}⟩

end CoopSched
