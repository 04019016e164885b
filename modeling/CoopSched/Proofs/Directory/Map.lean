import CoopSched.Proofs.Directory
import Mathlib.Data.Finset.Card
/-!
# A directory is a map

`Ordered` says that the keys rise strictly along every chain, and that every entry is in the bucket of its
key. Setting a key keeps this (`Ordered.set`). It is what makes a look-up complete, since a walk stops at the
first key that is not below the one that is sought (`Chain.lookup_eq_some_iff`).

The answers of a directory after some calls of `set` are those of the map from each key to the value that was
set last (`answers_setAll`). The number of buckets has no part in them, and neither has the order of calls with
different keys.
-/

namespace CoopSched

namespace Chain

variable {α : Type} {key : UInt64} {value : α} {chain : Chain α} {e : Entry α}

/-! ## 1. Chains that rise -/

/-- The keys rise strictly along the chain. -/
def Rises (chain : Chain α) : Prop := chain.Pairwise fun e e' => e.key < e'.key

theorem key_eq_or_mem_of_mem_set (mem : e ∈ chain.set key value) : e.key = key ∨ e ∈ chain := by
  induction chain with
  | nil =>
    rw [set_nil, List.mem_singleton] at mem
    exact .inl (congrArg Entry.key mem)
  | cons entry rest ih =>
    rw [set_cons] at mem
    split at mem
    · rcases List.mem_cons.mp mem with rfl | mem
      · exact .inr List.mem_cons_self
      · exact (ih mem).imp_right (List.mem_cons_of_mem entry)
    · split at mem
      · next same =>
        rcases List.mem_cons.mp mem with rfl | mem
        · exact .inl same
        · exact .inr (List.mem_cons_of_mem entry mem)
      · rcases List.mem_cons.mp mem with rfl | mem
        · exact .inl rfl
        · exact .inr mem

/-- The new entry is linked where the walk stopped, between the smaller keys and the greater ones. -/
theorem Rises.set (h : chain.Rises) (key : UInt64) (value : α) : (chain.set key value).Rises := by
  induction chain with
  | nil => exact List.pairwise_singleton _ _
  | cons entry rest ih =>
    obtain ⟨above, rises⟩ := List.pairwise_cons.mp h
    rw [set_cons]
    split
    · next below =>
      refine List.pairwise_cons.mpr ⟨fun e mem => ?_, ih rises⟩
      rcases key_eq_or_mem_of_mem_set mem with same | old
      · exact same ▸ below
      · exact above e old
    · next stops =>
      split
      · exact List.pairwise_cons.mpr ⟨above, rises⟩
      · next other =>
        have first : key < entry.key :=
          UInt64.lt_of_le_of_ne (UInt64.not_lt.mp stops) (Ne.symm other)
        refine List.pairwise_cons.mpr ⟨fun e mem => ?_, h⟩
        rcases List.mem_cons.mp mem with rfl | mem
        · exact first
        · exact UInt64.lt_trans first (above e mem)

/-- In a chain that rises a look-up finds the entry of a key, wherever it is. -/
theorem lookup_eq_some_iff (h : chain.Rises) :
    chain.lookup key = some e ↔ e ∈ chain ∧ e.key = key := by
  induction chain with
  | nil => simp
  | cons entry rest ih =>
    obtain ⟨above, rises⟩ := List.pairwise_cons.mp h
    have later : ¬ entry.key < key → e ∈ rest → e.key ≠ key := by
      rintro stops mem rfl
      exact stops (above e mem)
    rw [lookup_cons, List.mem_cons]
    split
    · next below =>
      have passed : e = entry → e.key ≠ key := by
        rintro rfl
        exact UInt64.ne_of_lt below
      rw [ih rises]
      exact ⟨fun ⟨mem, same⟩ => ⟨.inr mem, same⟩,
        fun ⟨mem, same⟩ => ⟨mem.resolve_left fun first => passed first same, same⟩⟩
    · next stops =>
      split
      · next same =>
        rw [Option.some.injEq]
        constructor
        · rintro rfl
          exact ⟨.inl rfl, same⟩
        · rintro ⟨mem, here⟩
          exact (mem.resolve_right fun mem => later stops mem here).symm
      · next other =>
        refine ⟨nofun, ?_⟩
        rintro ⟨rfl | mem, here⟩
        · exact absurd here other
        · exact absurd here (later stops mem)

theorem isSome_lookup_iff (h : chain.Rises) :
    (chain.lookup key).isSome = true ↔ key ∈ chain.map (·.key) := by
  rw [Option.isSome_iff_exists, List.mem_map]
  exact exists_congr fun e => lookup_eq_some_iff h

theorem Rises.nodup_keys (h : chain.Rises) : (chain.map (·.key)).Nodup :=
  List.pairwise_map.mpr (h.imp UInt64.ne_of_lt)

end Chain

namespace Directory

variable {bits bits' : Nat} {α : Type} {d : Directory bits α} {key : UInt64}

/-! ## 2. Directories in order -/

/-- The keys rise strictly along every chain, and the low bits of each are the number of its bucket. -/
structure Ordered (d : Directory bits α) : Prop where
  rises : ∀ b, (d.buckets.get b).Rises
  home : ∀ b, ∀ e ∈ d.buckets.get b, e.key.toNat &&& (bucketCount bits - 1) = b

theorem Ordered.slot_eq (h : d.Ordered) {b : Fin (bucketCount bits)} {e : Entry α}
    (mem : e ∈ d.buckets.get b) : slot bits e.key = b :=
  Fin.ext (h.home b e mem)

theorem get_empty (b : Fin (bucketCount bits)) : (empty : Directory bits α).buckets.get b = [] :=
  Vector.getElem_replicate b.isLt

theorem get_set (d : Directory bits α) (key : UInt64) (value : α) (b : Fin (bucketCount bits)) :
    (d.set key value).buckets.get b =
      if slot bits key = b then (d.buckets.get b).set key value else d.buckets.get b := by
  have at_slot : ∀ (buckets : Vector (Chain α) (bucketCount bits)) i, buckets.get i = buckets[i] :=
    fun _ _ => rfl
  simp only [set, chainOf, at_slot, Fin.getElem_fin, Vector.getElem_set, Fin.ext_iff]
  split
  · next same => simp only [same]
  · rfl

theorem ordered_empty : (empty : Directory bits α).Ordered where
  rises b := get_empty (α := α) b ▸ List.Pairwise.nil
  home b e mem := by
    rw [get_empty] at mem
    cases mem

theorem Ordered.set (h : d.Ordered) (key : UInt64) (value : α) : (d.set key value).Ordered where
  rises b := by
    rw [get_set]
    split
    · exact (h.rises b).set key value
    · exact h.rises b
  home b e mem := by
    rw [get_set] at mem
    split at mem
    · next here =>
      rcases Chain.key_eq_or_mem_of_mem_set mem with same | old
      · rw [same, ← here]
        rfl
      · exact h.home b e old
    · exact h.home b e mem

theorem setAll_append (d : Directory bits α) (calls more : List (UInt64 × α)) :
    d.setAll (calls ++ more) = (d.setAll calls).setAll more :=
  List.foldl_append

theorem Ordered.setAll (h : d.Ordered) (calls : List (UInt64 × α)) : (d.setAll calls).Ordered := by
  induction calls generalizing d with
  | nil => exact h
  | cons call rest ih => exact ih (h.set call.1 call.2)

/-! ## 3. What a directory answers -/

theorem get?_empty (key : UInt64) : (empty : Directory bits α).get? key = none := by
  rw [get?, chainOf, get_empty, Chain.lookup_nil, Option.map_none]

/-- The value of a key is the one that was set last. -/
theorem get?_setAll (d : Directory bits α) (calls : List (UInt64 × α)) (key : UInt64) :
    (d.setAll calls).get? key = (calls.reverse.lookup key).or (d.get? key) := by
  induction calls generalizing d with
  | nil => rfl
  | cons call rest ih =>
    obtain ⟨other, value⟩ := call
    show ((d.set other value).setAll rest).get? key = _
    rw [ih, get?_set, List.reverse_cons, List.lookup_append, Option.or_assoc, List.lookup_cons]
    by_cases same : key = other
    · rw [if_pos same, beq_iff_eq.mpr same]
      rfl
    · rw [if_neg same, beq_false_of_ne same]
      rfl

theorem getWith?_eq {β : Type} (d : Directory bits α) (key : UInt64) (f : α → β) :
    d.getWith? key f = (d.get? key).map f := by
  rw [getWith?, get?, Option.map_map]
  rfl

theorem contains_eq (d : Directory bits α) (key : UInt64) : d.contains key = (d.get? key).isSome := by
  rw [contains, get?, Option.isSome_map]

/-- The keys of all entries. -/
def keys (d : Directory bits α) : List UInt64 := d.toList.map (·.key)

theorem keys_eq (d : Directory bits α) :
    d.keys = (List.finRange (bucketCount bits)).flatMap fun b => (d.buckets.get b).map (·.key) := by
  have buckets : d.buckets.toList = (List.finRange (bucketCount bits)).map d.buckets.get := by
    refine List.ext_getElem (by simp) fun i _ _ => ?_
    simp [Vector.get]
  rw [keys, toList, buckets, ← List.flatMap_def, List.map_flatMap]

/-- An entry is found in the bucket of its key. -/
theorem Ordered.mem_keys_iff (h : d.Ordered) : key ∈ d.keys ↔ d.contains key = true := by
  rw [contains, chainOf, Chain.isSome_lookup_iff (h.rises _), keys_eq, List.mem_flatMap]
  constructor
  · rintro ⟨b, -, mem⟩
    obtain ⟨e, inside, rfl⟩ := List.mem_map.mp mem
    rw [h.slot_eq inside]
    exact mem
  · exact fun mem => ⟨slot bits key, List.mem_finRange _, mem⟩

/-- No key has two entries: not in one bucket, since the keys rise there, and not in two. -/
theorem Ordered.nodup_keys (h : d.Ordered) : d.keys.Nodup := by
  rw [keys_eq, List.nodup_flatMap]
  refine ⟨fun b _ => (h.rises b).nodup_keys, (List.nodup_finRange _).imp ?_⟩
  intro b b' apart key mem mem'
  obtain ⟨e, inside, rfl⟩ := List.mem_map.mp mem
  obtain ⟨e', inside', same⟩ := List.mem_map.mp mem'
  have bucket : slot bits e.key = b' := same ▸ h.slot_eq inside'
  exact apart ((h.slot_eq inside).symm.trans bucket)

/-- The answers of a map in which each key has the value that the last of some calls gave it. -/
structure Answers (d : Directory bits α) (calls : List (UInt64 × α)) : Prop where
  get : ∀ key, d.get? key = calls.reverse.lookup key
  getWith : ∀ {β : Type} (key) (f : α → β), d.getWith? key f = (calls.reverse.lookup key).map f
  contains : ∀ key, d.contains key = true ↔ key ∈ calls.map (·.1)
  size : d.size = (calls.map (·.1)).toFinset.card
  isEmpty : d.isEmpty = true ↔ calls = []

theorem isSome_lookup_reverse_iff {calls : List (UInt64 × α)} :
    (calls.reverse.lookup key).isSome = true ↔ key ∈ calls.map (·.1) := by
  rw [List.lookup_isSome_iff, List.mem_map]
  simp only [List.mem_reverse, beq_iff_eq, @eq_comm _ key]

theorem size_eq_length_keys (d : Directory bits α) : d.size = d.keys.length := by
  rw [keys, List.length_map, size]

/-- If the answers to look-ups are right, so are the others. -/
theorem Ordered.answers (h : d.Ordered) {calls : List (UInt64 × α)}
    (get : ∀ key, d.get? key = calls.reverse.lookup key) : d.Answers calls := by
  have contains : ∀ key, d.contains key = true ↔ key ∈ calls.map (·.1) := by
    intro key
    rw [contains_eq, get, isSome_lookup_reverse_iff]
  have size : d.size = (calls.map (·.1)).toFinset.card := by
    rw [size_eq_length_keys, ← List.toFinset_card_of_nodup h.nodup_keys]
    refine congrArg Finset.card (Finset.ext fun key => ?_)
    rw [List.mem_toFinset, List.mem_toFinset, h.mem_keys_iff, contains]
  refine ⟨get, fun key f => ?_, contains, size, ?_⟩
  · rw [getWith?_eq, get]
  · rw [isEmpty, beq_iff_eq, size, Finset.card_eq_zero, List.toFinset_eq_empty_iff,
      List.map_eq_nil_iff]

/-- Two directories, perhaps with different numbers of buckets, that give the same answers. -/
structure Agrees (d : Directory bits α) (d' : Directory bits' α) : Prop where
  get : ∀ key, d.get? key = d'.get? key
  getWith : ∀ {β : Type} (key) (f : α → β), d.getWith? key f = d'.getWith? key f
  contains : ∀ key, d.contains key = d'.contains key
  size : d.size = d'.size
  isEmpty : d.isEmpty = d'.isEmpty

/-- Directories in order are told apart by look-ups alone. -/
theorem Agrees.of_get? {d' : Directory bits' α} (h : d.Ordered) (h' : d'.Ordered)
    (get : ∀ key, d.get? key = d'.get? key) : d.Agrees d' := by
  have contains : ∀ key, d.contains key = d'.contains key := by
    intro key
    rw [contains_eq, contains_eq, get]
  have size : d.size = d'.size := by
    rw [size_eq_length_keys, size_eq_length_keys]
    refine List.Perm.length_eq ((List.perm_ext_iff_of_nodup h.nodup_keys h'.nodup_keys).mpr ?_)
    intro key
    rw [h.mem_keys_iff, h'.mem_keys_iff, contains]
  refine ⟨get, fun key f => ?_, contains, size, ?_⟩
  · rw [getWith?_eq, getWith?_eq, get]
  · exact congrArg (· == 0) size

theorem lookup_reverse_filter (calls : List (UInt64 × α)) (key : UInt64) :
    (calls.filter (·.1 == key)).reverse.lookup key = calls.reverse.lookup key := by
  rw [← List.filter_reverse]
  induction calls.reverse with
  | nil => rfl
  | cons call rest ih =>
    rw [List.filter_cons, List.lookup_cons]
    by_cases same : call.1 = key
    · rw [if_pos (beq_iff_eq.mpr same), List.lookup_cons, beq_iff_eq.mpr same.symm]
    · rw [if_neg (fun eq => same (beq_iff_eq.mp eq)), beq_false_of_ne (Ne.symm same), ih]

/-- After any calls of `set` a new directory is in order and gives the answers of the map of the last values.
So do all directories in which the calls with each single key came in the same order, whatever the number of
their buckets and the order of calls with different keys. -/
theorem answers_setAll (bits : Nat) (calls : List (UInt64 × α)) :
    let d : Directory bits α := empty.setAll calls
    d.Ordered ∧ d.Answers calls ∧
      ∀ (bits' : Nat) (calls' : List (UInt64 × α)),
        (∀ key, calls'.filter (·.1 == key) = calls.filter (·.1 == key)) →
          (empty.setAll calls' : Directory bits' α).Agrees d := by
  have ordered : ∀ (bits : Nat) (calls : List (UInt64 × α)),
      (empty.setAll calls : Directory bits α).Ordered := fun _ calls => ordered_empty.setAll calls
  have get : ∀ (bits : Nat) (calls : List (UInt64 × α)) (key : UInt64),
      (empty.setAll calls : Directory bits α).get? key = calls.reverse.lookup key := by
    intro bits calls key
    rw [get?_setAll, get?_empty, Option.or_none]
  refine ⟨ordered bits calls, (ordered bits calls).answers (get bits calls), ?_⟩
  intro bits' calls' same
  have lookup : ∀ key, calls'.reverse.lookup key = calls.reverse.lookup key := by
    intro key
    rw [← lookup_reverse_filter, same, lookup_reverse_filter]
  exact .of_get? (ordered bits' calls') (ordered bits calls)
    fun key => by rw [get, get, lookup]

/-- Two keys that share a bucket, one of them set twice. A directory with a single bucket, to which the calls
came in another order, agrees. -/
theorem answers_colliding :
    (∀ key : UInt64, [(5, 50), (1, 10), (1, 11)].filter (·.1 == key) =
      [(1, 10), (5, 50), (1, 11)].filter (·.1 == key)) ∧
    (empty.setAll [(5, 50), (1, 10), (1, 11)] : Directory 0 Nat).Agrees
      (empty.setAll [(1, 10), (5, 50), (1, 11)] : Directory 2 Nat) ∧
    (empty.setAll [(1, 10), (5, 50), (1, 11)] : Directory 2 Nat).get? 1 = some 11 := by
  have same : ∀ key : UInt64, [(5, 50), (1, 10), (1, 11)].filter (·.1 == key) =
      [(1, 10), (5, 50), (1, 11)].filter (·.1 == key) := by
    intro key
    by_cases first : 1 = key
    · subst first
      rfl
    · simp [List.filter_cons, first]
  obtain ⟨-, answers, others⟩ := answers_setAll 2 [((1 : UInt64), 10), (5, 50), (1, 11)]
  exact ⟨same, others 0 _ same, answers.get 1⟩

end Directory

end CoopSched
