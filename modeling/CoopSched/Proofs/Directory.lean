import CoopSched.Directory
import Mathlib.Data.List.Basic
/-!
# What a directory finds

A look-up after a change: the key that was set has its new value, and every other key has what it had.
This needs no order of the chains. A walk that stops too early for one key stops there before and after.
-/

namespace CoopSched

namespace Chain

variable {α : Type} {key other : UInt64} {value : α}

@[simp] theorem lookup_nil (key : UInt64) : lookup key ([] : Chain α) = none := rfl

theorem lookup_cons (key : UInt64) (entry : Entry α) (chain : Chain α) :
    lookup key (entry :: chain) = if entry.key < key then lookup key chain
      else if entry.key = key then some entry else none := by
  unfold lookup upTo
  rw [List.dropWhile_cons]
  by_cases below : entry.key < key
  · simp [below]
  · by_cases same : entry.key = key
    · simp [same]
    · simp [below, same]

@[simp] theorem set_nil (key : UInt64) (value : α) : set key value [] = [⟨key, value⟩] := rfl

theorem set_cons (key : UInt64) (value : α) (entry : Entry α) (chain : Chain α) :
    set key value (entry :: chain) = if entry.key < key then entry :: set key value chain
      else if entry.key = key then { entry with value } :: chain
      else ⟨key, value⟩ :: entry :: chain := by
  unfold set before upTo
  rw [List.dropWhile_cons, List.takeWhile_cons]
  by_cases below : entry.key < key
  · simp [below]
  · simp [below]

theorem lookup_set (chain : Chain α) (key other : UInt64) (value : α) :
    (chain.set key value).lookup other =
      if other = key then some ⟨key, value⟩ else chain.lookup other := by
  induction chain with
  | nil =>
    rw [set_nil, lookup_cons, lookup_nil]
    by_cases same : other = key
    · simp [same]
    · simp [same, Ne.symm same]
  | cons entry chain ih =>
    rw [set_cons]
    by_cases below : entry.key < key
    · rw [if_pos below, lookup_cons, lookup_cons, ih]
      by_cases same : other = key
      · simp [same, below]
      · simp [same]
    · rw [if_neg below]
      by_cases here : entry.key = key
      · rw [if_pos here, lookup_cons, lookup_cons]
        by_cases same : other = key
        · simp [same, here]
        · simp [here, same, Ne.symm same]
      · rw [if_neg here, lookup_cons, lookup_cons]
        by_cases same : other = key
        · simp [same]
        · simp only [same, Ne.symm same, if_false]
          split
          · rfl
          · -- The walk to the other key stops at the new entry, and before that it stopped at the next.
            next stops =>
            have above : key < entry.key :=
              UInt64.lt_of_le_of_ne (UInt64.not_lt.mp below) (Ne.symm here)
            have beyond : other < entry.key :=
              UInt64.lt_of_le_of_lt (UInt64.not_lt.mp stops) above
            rw [if_neg (UInt64.lt_asymm beyond), if_neg (UInt64.ne_of_lt beyond).symm]

end Chain

namespace Directory

variable {bits : Nat} {α : Type}

theorem chainOf_set (d : Directory bits α) (key other : UInt64) (value : α) :
    (d.set key value).chainOf other =
      if slot bits key = slot bits other then (d.chainOf key).set key value else d.chainOf other := by
  have at_slot : ∀ (buckets : Vector (Chain α) (bucketCount bits)) i, buckets.get i = buckets[i] :=
    fun _ _ => rfl
  simp [chainOf, set, at_slot, Vector.getElem_set, Fin.ext_iff]

theorem get?_set (d : Directory bits α) (key other : UInt64) (value : α) :
    (d.set key value).get? other = if other = key then some value else d.get? other := by
  unfold get?
  rw [chainOf_set]
  by_cases bucket : slot bits key = slot bits other
  · have same : d.chainOf other = d.chainOf key := by
      unfold chainOf
      rw [bucket]
    rw [if_pos bucket, Chain.lookup_set, same]
    split <;> rfl
  · have apart : other ≠ key := fun same => bucket (congrArg (slot bits) same.symm)
    rw [if_neg bucket, if_neg apart]

end Directory

end CoopSched
