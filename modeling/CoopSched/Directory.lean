/-!
# Directory of keyed values

A fixed number of buckets, a power of two, each holding a chain of entries sorted by key. The low
bits of a key choose its bucket. An entry, once made, stays; setting its key again replaces the
value in place.
-/

namespace CoopSched

/-- A key and the value stored under it. -/
structure Entry (α : Type) where
  key : UInt64
  value : α
  deriving DecidableEq, Repr

/-- The entries of one bucket, in increasing order of their keys. -/
abbrev Chain (α : Type) := List (Entry α)

namespace Chain

variable {α : Type}

/-- The entries that a walk to the key passes over. -/
def before (key : UInt64) (chain : Chain α) : Chain α := chain.takeWhile (·.key < key)

/-- The rest of the chain: from the first entry whose key is not below the given one. -/
def upTo (key : UInt64) (chain : Chain α) : Chain α := chain.dropWhile (·.key < key)

/-- The entry of a key. The walk stops at the first key that is not below. -/
def lookup (key : UInt64) (chain : Chain α) : Option (Entry α) :=
  (chain.upTo key).head?.filter (·.key == key)

/-- Replace the value of the key's entry, or link a new entry where the walk stopped. -/
def set (key : UInt64) (value : α) (chain : Chain α) : Chain α :=
  chain.before key ++
    match chain.upTo key with
    | [] => [⟨key, value⟩]
    | entry :: rest =>
      if entry.key = key then { entry with value } :: rest else ⟨key, value⟩ :: entry :: rest

theorem before_append_upTo (key : UInt64) (chain : Chain α) :
    chain.before key ++ chain.upTo key = chain :=
  List.takeWhile_append_dropWhile

end Chain

/-- How many buckets a number of low bits tells apart. -/
def bucketCount (bits : Nat) : Nat := Nat.pow 2 bits

/-- A directory whose buckets are told apart by a number of low bits. -/
structure Directory (bits : Nat) (α : Type) where
  buckets : Vector (Chain α) (bucketCount bits)

namespace Directory

variable {bits : Nat} {α : Type}

/-- No entries. -/
def empty : Directory bits α := ⟨Vector.replicate (bucketCount bits) []⟩

/-- How many buckets there are. -/
def capacity (_ : Directory bits α) : Nat := bucketCount bits

theorem bucketCount_pos (bits : Nat) : 0 < bucketCount bits := Nat.two_pow_pos bits

/-- The mask of the low bits takes the remainder by the number of buckets. -/
theorem and_mask_eq_mod (bits n : Nat) : n &&& (bucketCount bits - 1) = n % bucketCount bits :=
  Nat.and_two_pow_sub_one_eq_mod n bits

theorem and_mask_lt (n : Nat) : n &&& (bucketCount bits - 1) < bucketCount bits := by
  rw [and_mask_eq_mod]
  exact Nat.mod_lt _ (bucketCount_pos bits)

/-- The bucket of a key: its low bits. -/
def slot (bits : Nat) (key : UInt64) : Fin (bucketCount bits) :=
  ⟨key.toNat &&& (bucketCount bits - 1), and_mask_lt _⟩

/-- The chain that holds the key, if the directory does. -/
def chainOf (d : Directory bits α) (key : UInt64) : Chain α := d.buckets.get (slot bits key)

/-- The value stored under a key. -/
def get? (d : Directory bits α) (key : UInt64) : Option α :=
  ((d.chainOf key).lookup key).map (·.value)

/-- What a function makes of the value stored under a key. -/
def getWith? {β : Type} (d : Directory bits α) (key : UInt64) (f : α → β) : Option β :=
  ((d.chainOf key).lookup key).map (f ·.value)

/-- Has the key an entry? -/
def contains (d : Directory bits α) (key : UInt64) : Bool := ((d.chainOf key).lookup key).isSome

/-- Store a value under a key. -/
def set (d : Directory bits α) (key : UInt64) (value : α) : Directory bits α :=
  ⟨d.buckets.set (slot bits key) ((d.chainOf key).set key value)⟩

/-- All entries, bucket by bucket. -/
def toList (d : Directory bits α) : List (Entry α) := d.buckets.toList.flatten

/-- The number of entries. -/
def size (d : Directory bits α) : Nat := d.toList.length

/-- Is there no entry? -/
def isEmpty (d : Directory bits α) : Bool := d.size == 0

/-- The text shown for a directory: the number of buckets only. -/
def describe (d : Directory bits α) : String :=
  "ConcurrentDirectory \x7b buckets: " ++ toString d.capacity ++ ", .. \x7d"

/-- Store each of the given values in turn. -/
def setAll (d : Directory bits α) (entries : List (UInt64 × α)) : Directory bits α :=
  entries.foldl (fun d e => d.set e.1 e.2) d

end Directory

end CoopSched
