import CoopSched.Arena
import CoopSched.Proofs.Directory.Map
/-!
# A directory in memory

Threads share a directory through pointers: each bucket has one to its first node, and each node has one to
the next node and one to its value. A pointer is read as a whole, and it is changed only by an exchange that
compares it first (`Memory.exchangeLink`, `Memory.exchangeCell`).

`Memory.Holds` says that the pointers of each bucket lead through the entries of its chain. While it holds of
a directory in order:

* what a walk to a key finds decides the look-up (`Holds.get?_of_beyond`, `Holds.get?_of_at`);
* to link a new node where the walk has ended is to set a new key (`Holds.splice`);
* to renew the value of a node is to set the key of the node (`Holds.renew`).

Where a walk stands is known from the keys of the nodes alone (`Memory.Below`). This is not lost when the
memory changes, since no node is taken away or gets another key (`Memory.Grows`).
-/

namespace CoopSched

namespace Chain

variable {α : Type} {key : UInt64} {passed rest : Chain α}

theorem lookup_append (below : ∀ e ∈ passed, e.key < key) :
    lookup key (passed ++ rest) = lookup key rest := by
  induction passed with
  | nil => rfl
  | cons entry passed ih =>
    rw [List.cons_append, lookup_cons, if_pos (below entry List.mem_cons_self)]
    exact ih fun e mem => below e (List.mem_cons_of_mem entry mem)

theorem set_append (below : ∀ e ∈ passed, e.key < key) (value : α) :
    set key value (passed ++ rest) = passed ++ set key value rest := by
  induction passed with
  | nil => rfl
  | cons entry passed ih =>
    rw [List.cons_append, set_cons, if_pos (below entry List.mem_cons_self), List.cons_append]
    exact congrArg (entry :: ·) (ih fun e mem => below e (List.mem_cons_of_mem entry mem))

end Chain

namespace Directory

/-! ## 1. Pointers -/

/-- The number of a node. -/
abbrev NodeRef := Nat

/-- Where a pointer to a node is kept: at the head of a bucket, or in the node before. -/
inductive Link (bits : Nat) where
  | head (bucket : Fin (bucketCount bits))
  | next (node : NodeRef)
  deriving DecidableEq, Repr

/-- A value in memory, and the call that has put it there, or none if it was there before. A call puts one
value there, so two pointers to values are the same if the writers are. -/
structure Cell (α : Type) where
  writer : Option Nat
  content : α
  deriving Repr

/-- Are two pointers to values the same? -/
def samePointer {α : Type} (p q : Option (Cell α)) : Bool := p.map (·.writer) == q.map (·.writer)

/-- A key with the pointers to its value and to the next node. -/
structure Node (α : Type) where
  key : UInt64 := 0
  cell : Option (Cell α) := none
  next : Option NodeRef := none
  deriving Repr

instance {α : Type} : Inhabited (Node α) := ⟨{}⟩

/-- The first nodes of the buckets, and all nodes by number. -/
structure Memory (bits : Nat) (α : Type) where
  heads : Vector (Option NodeRef) (bucketCount bits)
  nodes : Arena (Node α)

namespace Memory

variable {bits : Nat} {α : Type}

/-- The node with a number. -/
def node (m : Memory bits α) (n : NodeRef) : Node α := m.nodes.get n

/-- The pointer at a link. -/
def load (m : Memory bits α) : Link bits → Option NodeRef
  | .head b => m.heads.get b
  | .next n => (m.node n).next

/-- Change the pointer at a link. -/
def store (m : Memory bits α) (p : Option NodeRef) : Link bits → Memory bits α
  | .head b => { m with heads := m.heads.set b p }
  | .next n => { m with nodes := m.nodes.modify n fun x => { x with next := p } }

/-- Let a link point to a new node. -/
def splice (m : Memory bits α) (l : Link bits) (x : Node α) : Memory bits α :=
  { m with nodes := m.nodes.add x }.store (some m.nodes.size) l

/-- Let a node have another value. -/
def renew (m : Memory bits α) (n : NodeRef) (c : Cell α) : Memory bits α :=
  { m with nodes := m.nodes.modify n fun x => { x with cell := some c } }

/-- Link a new node that points to where the link is expected to point, if it does. -/
def exchangeLink (m : Memory bits α) (l : Link bits) (expected : Option NodeRef) (key : UInt64)
    (c : Cell α) : Memory bits α × Bool :=
  if m.load l = expected then (m.splice l ⟨key, some c, expected⟩, true) else (m, false)

/-- Renew the value of a node, if it is the expected one. -/
def exchangeCell (m : Memory bits α) (n : NodeRef) (expected : Option (Cell α)) (c : Cell α) :
    Memory bits α × Bool :=
  if samePointer (m.node n).cell expected then (m.renew n c, true) else (m, false)

/-- The link is at the head of a bucket or in a node that there is. -/
def Valid (m : Memory bits α) : Link bits → Prop
  | .head _ => True
  | .next n => n < m.nodes.size

variable {m m' : Memory bits α} {l l' : Link bits} {n : NodeRef} {x : Node α} {c : Cell α}

@[simp] theorem size_splice (m : Memory bits α) (l : Link bits) (x : Node α) :
    (m.splice l x).nodes.size = m.nodes.size + 1 := by
  cases l <;> simp [splice, store]

@[simp] theorem size_renew (m : Memory bits α) (n : NodeRef) (c : Cell α) :
    (m.renew n c).nodes.size = m.nodes.size := by
  simp [renew]

theorem node_splice (valid : m.Valid l) (x : Node α) (n : NodeRef) :
    ((m.splice l x).node n).key = (if n = m.nodes.size then x else m.node n).key ∧
      ((m.splice l x).node n).cell = (if n = m.nodes.size then x else m.node n).cell := by
  cases l with
  | head b => simp [splice, store, node, Arena.get_add]
  | next q =>
    simp only [splice, store, node, Arena.get_modify, Arena.get_add]
    split <;> exact ⟨rfl, rfl⟩

theorem load_splice (valid : m.Valid l) (x : Node α) (l' : Link bits) :
    (m.splice l x).load l' =
      if l' = l then some m.nodes.size
      else if l' = .next m.nodes.size then x.next else m.load l' := by
  have at_head : ∀ (heads : Vector (Option NodeRef) (bucketCount bits)) i, heads.get i = heads[i] :=
    fun _ _ => rfl
  cases l with
  | head b =>
    cases l' with
    | head b' => simp [splice, store, load, at_head, Vector.getElem_set, Fin.ext_iff, @eq_comm _ b.val]
    | next q' =>
      simp only [splice, store, load, node, Arena.get_add]
      by_cases new : q' = m.nodes.size <;> simp [new]
  | next q =>
    cases l' with
    | head b' => simp [splice, store, load]
    | next q' =>
      have inside : q < m.nodes.size := valid
      simp only [splice, store, load, node, Arena.get_modify, Arena.get_add, Arena.size_add,
        Link.next.injEq]
      by_cases here : q' = q
      · subst here
        simp [Nat.lt_succ_of_lt inside]
      · have apart : ¬(q = q' ∧ q' < m.nodes.size + 1) := fun hc => here hc.1.symm
        rw [if_neg apart, if_neg here]
        split <;> rfl

theorem load_renew (m : Memory bits α) (n : NodeRef) (c : Cell α) (l : Link bits) :
    (m.renew n c).load l = m.load l := by
  cases l with
  | head b => rfl
  | next q =>
    simp only [renew, load, node, Arena.get_modify]
    split <;> rfl

/-! ## 2. Where the pointers lead -/

/-- From a link the pointers lead through these nodes, one after the other, and then nowhere. -/
def Follows (m : Memory bits α) : Link bits → List NodeRef → Prop
  | l, [] => m.load l = none
  | l, n :: rest => m.load l = some n ∧ n < m.nodes.size ∧ m.Follows (.next n) rest

/-- The link after some nodes. -/
def after (l : Link bits) : List NodeRef → Link bits
  | [] => l
  | n :: rest => after (.next n) rest

variable {refs passed rest : List NodeRef}

theorem after_mem (l : Link bits) (refs : List NodeRef) : after l refs ∈ l :: refs.map .next := by
  induction refs generalizing l with
  | nil => exact List.mem_cons_self
  | cons n refs ih => exact List.mem_cons_of_mem l (ih (.next n))

theorem after_concat (l : Link bits) (refs : List NodeRef) (n : NodeRef) :
    after l (refs ++ [n]) = .next n := by
  induction refs generalizing l with
  | nil => rfl
  | cons q refs ih => exact ih (.next q)

namespace Follows

theorem lt (h : m.Follows l refs) (mem : n ∈ refs) : n < m.nodes.size := by
  induction refs generalizing l with
  | nil => cases mem
  | cons q refs ih =>
    rcases List.mem_cons.mp mem with rfl | mem
    · exact h.2.1
    · exact ih h.2.2 mem

theorem unique {refs' : List NodeRef} (h : m.Follows l refs) (h' : m.Follows l refs') : refs = refs' := by
  induction refs generalizing l refs' with
  | nil =>
    cases refs' with
    | nil => rfl
    | cons n' rest' => exact nomatch h.symm.trans h'.1
  | cons n rest ih =>
    cases refs' with
    | nil => exact nomatch h'.symm.trans h.1
    | cons n' rest' =>
      cases h.1.symm.trans h'.1
      rw [ih h.2.2 h'.2.2]

theorem drop (h : m.Follows l (passed ++ rest)) : m.Follows (after l passed) rest := by
  induction passed generalizing l with
  | nil => exact h
  | cons n passed ih => exact ih h.2.2

/-- Only the pointers on the way matter. -/
theorem congr (h : m.Follows l refs) (size : m.nodes.size ≤ m'.nodes.size)
    (same : ∀ l' ∈ l :: refs.map .next, m'.load l' = m.load l') : m'.Follows l refs := by
  induction refs generalizing l with
  | nil => exact (same l List.mem_cons_self).trans h
  | cons n rest ih =>
    refine ⟨(same l List.mem_cons_self).trans h.1, Nat.lt_of_lt_of_le h.2.1 size, ih h.2.2 ?_⟩
    exact fun l' mem => same l' (List.mem_cons_of_mem l mem)

theorem valid_after (h : m.Follows l (passed ++ rest)) (valid : m.Valid l) :
    m.Valid (after l passed) := by
  induction passed generalizing l with
  | nil => exact valid
  | cons n passed ih => exact ih h.2.2 h.2.1

/-- On a way that does not pass by the link, a new node makes no difference. -/
theorem splice_of_notMem (h : m.Follows l refs) (valid : m.Valid l) (valid' : m.Valid l')
    (x : Node α) (away : l' ∉ l :: refs.map .next) : (m.splice l' x).Follows l refs := by
  refine h.congr (by rw [size_splice]; exact Nat.le_succ _) fun k mem => ?_
  have other : k ≠ l' := fun same => away (same ▸ mem)
  have old : k ≠ .next m.nodes.size := by
    rintro rfl
    rcases List.mem_cons.mp mem with rfl | mem
    · exact Nat.lt_irrefl _ valid
    · obtain ⟨n, inside, same⟩ := List.mem_map.mp mem
      cases same
      exact Nat.lt_irrefl _ (h.lt inside)
  rw [load_splice valid', if_neg other, if_neg old]

/-- A new node comes to stand after the nodes that lead to the link. -/
theorem splice (h : m.Follows l (passed ++ rest)) (valid : m.Valid l)
    (apart : (l :: (passed ++ rest).map .next).Nodup) {x : Node α}
    (next : x.next = m.load (after l passed)) :
    (m.splice (after l passed) x).Follows l (passed ++ m.nodes.size :: rest) := by
  induction passed generalizing l with
  | nil =>
    have fresh : Link.next m.nodes.size ≠ l := by
      rintro rfl
      exact Nat.lt_irrefl _ valid
    have onward : (m.splice l x).load (.next m.nodes.size) = m.load l := by
      rw [load_splice valid, if_neg fresh, if_pos rfl]
      exact next
    refine ⟨(load_splice valid x l).trans (if_pos rfl), by simp [after], ?_⟩
    cases rest with
    | nil => exact onward.trans h
    | cons n rest =>
      refine ⟨onward.trans h.1, by simpa [after] using Nat.lt_succ_of_lt h.2.1, ?_⟩
      exact h.2.2.splice_of_notMem h.2.1 valid x (List.nodup_cons.mp apart).1
  | cons n passed ih =>
    obtain ⟨away, apart⟩ := List.nodup_cons.mp apart
    have there : m.Valid (after (.next n) passed) := h.2.2.valid_after h.2.1
    have other : l ≠ after (.next n) passed := by
      rintro rfl
      refine away ?_
      rw [List.cons_append, List.map_cons, List.map_append]
      exact List.mem_append_left (rest.map .next) (after_mem (.next n) passed)
    have fresh : l ≠ .next m.nodes.size := by
      rintro rfl
      exact Nat.lt_irrefl _ valid
    refine ⟨?_, by simpa using Nat.lt_succ_of_lt h.2.1, ih h.2.2 h.2.1 apart next⟩
    rw [after, load_splice there, if_neg other, if_neg fresh]
    exact h.1

end Follows

/-! ## 3. What a memory holds -/

/-- The entry in a node. -/
def stored? (m : Memory bits α) (n : NodeRef) : Option (Entry α) :=
  (m.node n).cell.map fun c => ⟨(m.node n).key, c.content⟩

/-- The pointers of each bucket lead through the entries of its chain. -/
def Holds (m : Memory bits α) (d : Directory bits α) : Prop :=
  ∀ b, ∃ refs, m.Follows (.head b) refs ∧ refs.map m.stored? = (d.buckets.get b).map some

/-- The node is linked in a bucket. -/
def InBucket (m : Memory bits α) (b : Fin (bucketCount bits)) (n : NodeRef) : Prop :=
  ∃ refs, m.Follows (.head b) refs ∧ n ∈ refs

/-- The node of a key. -/
def At (m : Memory bits α) (key : UInt64) (n : NodeRef) : Prop :=
  m.InBucket (Directory.slot bits key) n ∧ (m.node n).key = key

/-- The links that a walk to a key may come to: the head of the bucket, and those in nodes of the bucket with
smaller keys. -/
def Below (m : Memory bits α) (key : UInt64) : Link bits → Prop
  | .head b => b = Directory.slot bits key
  | .next n => m.InBucket (Directory.slot bits key) n ∧ (m.node n).key < key

/-- The pointer leads nowhere, or to a node of the bucket with a greater key. -/
def Beyond (m : Memory bits α) (key : UInt64) (p : Option NodeRef) : Prop :=
  ∀ n ∈ p, m.InBucket (Directory.slot bits key) n ∧ key < (m.node n).key

/-- Nodes that are linked stay where they are, and keep their keys. -/
structure Grows (m m' : Memory bits α) : Prop where
  inBucket : ∀ {b n}, m.InBucket b n → m'.InBucket b n
  key : ∀ {b n}, m.InBucket b n → (m'.node n).key = (m.node n).key

namespace Grows

theorem refl (m : Memory bits α) : Grows m m := ⟨fun h => h, fun _ => rfl⟩

theorem atKey (grows : Grows m m') {key : UInt64} (h : m.At key n) : m'.At key n :=
  ⟨grows.inBucket h.1, (grows.key h.1).trans h.2⟩

theorem below (grows : Grows m m') {key : UInt64} (h : m.Below key l) : m'.Below key l := by
  cases l with
  | head b => exact h
  | next n => exact ⟨grows.inBucket h.1, (grows.key h.1).symm ▸ h.2⟩

theorem beyond (grows : Grows m m') {key : UInt64} {p : Option NodeRef} (h : m.Beyond key p) :
    m'.Beyond key p :=
  fun n mem => ⟨grows.inBucket (h n mem).1, (grows.key (h n mem).1).symm ▸ (h n mem).2⟩

end Grows

theorem key_of_stored? {e : Entry α} (h : m.stored? n = some e) : e.key = (m.node n).key := by
  obtain ⟨c, -, rfl⟩ := Option.map_eq_some_iff.mp h
  rfl

/-- A way and a chain that go with each other are cut at the same place. -/
theorem cut {chain : Chain α} (h : (passed ++ n :: rest).map m.stored? = chain.map some) :
    ∃ smaller e greater, chain = smaller ++ e :: greater ∧
      passed.map m.stored? = smaller.map some ∧ m.stored? n = some e ∧
      rest.map m.stored? = greater.map some := by
  rw [List.map_append, List.map_cons] at h
  obtain ⟨smaller, others, rfl, left, ahead⟩ := List.append_eq_map_iff.mp h
  obtain ⟨e, greater, rfl, here, right⟩ := List.map_eq_cons_iff.mp ahead
  exact ⟨smaller, e, greater, rfl, left.symm, here.symm, right.symm⟩

variable {d : Directory bits α} {key : UInt64} {b : Fin (bucketCount bits)}

namespace Holds

theorem entry_of_inBucket (h : m.Holds d) (there : m.InBucket b n) :
    ∃ e ∈ d.buckets.get b, m.stored? n = some e := by
  obtain ⟨refs, path, entries⟩ := h b
  obtain ⟨refs', path', mem⟩ := there
  have inside : m.stored? n ∈ refs.map m.stored? := List.mem_map_of_mem (path.unique path' ▸ mem)
  rw [entries] at inside
  obtain ⟨e, mem, same⟩ := List.mem_map.mp inside
  exact ⟨e, mem, same.symm⟩

/-- A node is in the bucket of its key. -/
theorem slot_of_inBucket (h : m.Holds d) (ordered : d.Ordered) (there : m.InBucket b n) :
    Directory.slot bits (m.node n).key = b := by
  obtain ⟨e, mem, entry⟩ := h.entry_of_inBucket there
  rw [← key_of_stored? entry]
  exact ordered.slot_eq mem

/-- The pointers of a bucket never lead to the same link twice. -/
theorem nodup_links (h : m.Holds d) (ordered : d.Ordered) (path : m.Follows (.head b) refs) :
    ((Link.head b : Link bits) :: refs.map .next).Nodup := by
  obtain ⟨refs', path', entries⟩ := h b
  cases path.unique path'
  have chain : (d.buckets.get b).Nodup := .of_map _ (ordered.rises b).nodup_keys
  have nodes : refs.Nodup := by
    refine .of_map m.stored? ?_
    rw [entries]
    exact chain.map (Option.some_injective _)
  refine List.nodup_cons.mpr ⟨by simp, nodes.map ?_⟩
  intro n n' same
  exact Link.next.inj same

end Holds

/-- A walk to a key stands at a link: the nodes that it has passed hold the smaller entries of the chain, and
those to which the link leads hold the others. -/
structure Walk (m : Memory bits α) (d : Directory bits α) (key : UInt64) (l : Link bits)
    (passed rest : List NodeRef) (smaller others : Chain α) : Prop where
  path : m.Follows (.head (Directory.slot bits key)) (passed ++ rest)
  here : after (.head (Directory.slot bits key)) passed = l
  chain : d.buckets.get (Directory.slot bits key) = smaller ++ others
  left : passed.map m.stored? = smaller.map some
  ahead : rest.map m.stored? = others.map some
  smaller : ∀ e ∈ smaller, e.key < key

theorem Holds.walk (h : m.Holds d) (ordered : d.Ordered) (below : m.Below key l) :
    ∃ passed rest smaller others, m.Walk d key l passed rest smaller others := by
  obtain ⟨refs, path, entries⟩ := h (Directory.slot bits key)
  cases l with
  | head b =>
    cases below
    exact ⟨[], refs, [], _, path, rfl, rfl, rfl, entries, nofun⟩
  | next n =>
    obtain ⟨⟨refs', path', mem⟩, less⟩ := below
    cases path.unique path'
    obtain ⟨passed, rest, rfl⟩ := List.append_of_mem mem
    obtain ⟨smaller, e, greater, chain, left, entry, right⟩ := cut entries
    have rises := ordered.rises (Directory.slot bits key)
    rw [chain] at rises
    rw [List.append_cons] at path chain
    refine ⟨passed ++ [n], rest, smaller ++ [e], greater, path, after_concat _ _ n, chain, ?_, right, ?_⟩
    · simp [left, entry]
    · intro e' mem'
      rw [← key_of_stored? entry] at less
      rcases List.mem_append.mp mem' with before | last
      · exact UInt64.lt_trans ((List.pairwise_append.mp rises).2.2 e' before e List.mem_cons_self) less
      · rw [List.mem_singleton.mp last]
        exact less

/-! ## 4. Walks -/

namespace Walk

variable {passed rest : List NodeRef} {smaller others : Chain α} {p : Option NodeRef}

theorem valid (walk : m.Walk d key l passed rest smaller others) : m.Valid l := by
  rw [← walk.here]
  exact walk.path.valid_after (l := .head _) trivial

theorem follows (walk : m.Walk d key l passed rest smaller others) : m.Follows l rest := by
  rw [← walk.here]
  exact walk.path.drop

theorem inBucket (walk : m.Walk d key l passed rest smaller others) (mem : n ∈ rest) :
    m.InBucket (slot bits key) n :=
  ⟨passed ++ rest, walk.path, List.mem_append_right passed mem⟩

theorem get?_eq (walk : m.Walk d key l passed rest smaller others) :
    d.get? key = (others.lookup key).map (·.value) := by
  rw [get?, chainOf, walk.chain, Chain.lookup_append walk.smaller]

/-- Beyond the key there is nothing to be found, and a new entry comes to stand first. -/
theorem of_beyond (walk : m.Walk d key l passed rest smaller others) (beyond : m.Beyond key (m.load l)) :
    others.lookup key = none ∧ ∀ value, others.set key value = ⟨key, value⟩ :: others := by
  have ahead := walk.ahead
  have follows := walk.follows
  cases rest with
  | nil =>
    cases List.map_eq_nil_iff.mp ahead.symm
    exact ⟨rfl, fun _ => rfl⟩
  | cons n rest =>
    obtain ⟨e, greater, rfl, entry, -⟩ := List.map_eq_cons_iff.mp ahead.symm
    have above : key < e.key := by
      rw [key_of_stored? entry.symm]
      exact (beyond n follows.1).2
    have stops : ¬ e.key < key := UInt64.lt_asymm above
    have other : ¬ e.key = key := (UInt64.ne_of_lt above).symm
    refine ⟨?_, fun value => ?_⟩
    · rw [Chain.lookup_cons, if_neg stops, if_neg other]
    · rw [Chain.set_cons, if_neg stops, if_neg other]

end Walk

namespace Holds

/-- The node to which a link leads is in the same bucket. -/
theorem inBucket_of_load (h : m.Holds d) (ordered : d.Ordered) (below : m.Below key l)
    (load : m.load l = some n) : m.InBucket (slot bits key) n := by
  obtain ⟨passed, rest, smaller, others, walk⟩ := h.walk ordered below
  have follows := walk.follows
  cases rest with
  | nil => exact nomatch load.symm.trans follows
  | cons q rest =>
    cases load.symm.trans follows.1
    exact walk.inBucket List.mem_cons_self

theorem get?_of_beyond (h : m.Holds d) (ordered : d.Ordered) (below : m.Below key l)
    (beyond : m.Beyond key (m.load l)) : d.get? key = none := by
  obtain ⟨passed, rest, smaller, others, walk⟩ := h.walk ordered below
  rw [walk.get?_eq, (walk.of_beyond beyond).1]
  rfl

theorem get?_of_at (h : m.Holds d) (ordered : d.Ordered) (here : m.At key n) :
    d.get? key = (m.node n).cell.map (·.content) ∧ (d.get? key).isSome = true := by
  obtain ⟨e, mem, entry⟩ := h.entry_of_inBucket here.1
  have found : (d.chainOf key).lookup key = some e :=
    (Chain.lookup_eq_some_iff (ordered.rises _)).mpr ⟨mem, (key_of_stored? entry).trans here.2⟩
  obtain ⟨c, cell, rfl⟩ := Option.map_eq_some_iff.mp entry
  rw [get?, found, cell]
  exact ⟨rfl, rfl⟩

end Holds

/-! ## 5. Changes -/

theorem stored?_splice (valid : m.Valid l) (x : Node α) (n : NodeRef) :
    (m.splice l x).stored? n =
      if n = m.nodes.size then x.cell.map fun c => ⟨x.key, c.content⟩ else m.stored? n := by
  obtain ⟨keys, cells⟩ := node_splice valid x n
  rw [stored?, keys, cells]
  split <;> rfl

theorem map_stored?_splice (valid : m.Valid l) (x : Node α) (inside : ∀ n ∈ refs, n < m.nodes.size) :
    refs.map (m.splice l x).stored? = refs.map m.stored? := by
  refine List.map_congr_left fun n mem => ?_
  rw [stored?_splice valid, if_neg (Nat.ne_of_lt (inside n mem))]

theorem node_renew (inside : n < m.nodes.size) (c : Cell α) (q : NodeRef) :
    (m.renew n c).node q = if q = n then { m.node n with cell := some c } else m.node q := by
  simp only [renew, node, Arena.get_modify]
  by_cases here : q = n
  · subst here
    rw [if_pos ⟨rfl, inside⟩, if_pos rfl]
  · rw [if_neg fun same => here same.1.symm, if_neg here]

theorem key_renew (inside : n < m.nodes.size) (c : Cell α) (q : NodeRef) :
    ((m.renew n c).node q).key = (m.node q).key := by
  rw [node_renew inside]
  split
  · next same => rw [same]
  · rfl

theorem map_stored?_renew (inside : n < m.nodes.size) (c : Cell α) (away : n ∉ refs) :
    refs.map (m.renew n c).stored? = refs.map m.stored? := by
  refine List.map_congr_left fun q mem => ?_
  have other : q ≠ n := fun same => away (same ▸ mem)
  rw [stored?, node_renew inside, if_neg other]
  rfl

theorem Follows.renew (h : m.Follows l refs) (n : NodeRef) (c : Cell α) :
    (m.renew n c).Follows l refs :=
  h.congr (size_renew m n c).ge fun l' _ => load_renew m n c l'

namespace Holds

/-- The link of a walk is not on the way through another bucket. -/
theorem away (h : m.Holds d) (ordered : d.Ordered) (below : m.Below key l)
    (path : m.Follows (.head b) refs) (other : b ≠ slot bits key) :
    l ∉ Link.head b :: refs.map .next := by
  intro mem
  cases l with
  | head b' =>
    cases below
    rcases List.mem_cons.mp mem with same | mem
    · exact other (Link.head.inj same).symm
    · obtain ⟨n, -, same⟩ := List.mem_map.mp mem
      cases same
  | next n =>
    have inside : n ∈ refs := by simpa using mem
    have home := h.slot_of_inBucket ordered ⟨refs, path, inside⟩
    exact other (home.symm.trans (h.slot_of_inBucket ordered below.1))

/-- A new node where the walk to its key has ended sets the key. -/
theorem splice (h : m.Holds d) (ordered : d.Ordered) (below : m.Below key l)
    (beyond : m.Beyond key (m.load l)) (c : Cell α) :
    (m.splice l ⟨key, some c, m.load l⟩).Holds (d.set key c.content) ∧
      m.Grows (m.splice l ⟨key, some c, m.load l⟩) := by
  obtain ⟨passed, rest, smaller, others, walk⟩ := h.walk ordered below
  have valid := walk.valid
  generalize new : (⟨key, some c, m.load l⟩ : Node α) = x
  have linked : (m.splice l x).Follows (.head (slot bits key)) (passed ++ m.nodes.size :: rest) := by
    have path := walk.path.splice (x := x) trivial (h.nodup_links ordered walk.path)
    rw [walk.here] at path
    exact path (new ▸ rfl)
  have kept : ∀ {b refs}, b ≠ slot bits key → m.Follows (.head b) refs →
      (m.splice l x).Follows (.head b) refs := fun other path =>
    path.splice_of_notMem trivial valid x (h.away ordered below path other)
  refine ⟨fun b => ?_, ?_, ?_⟩
  · rw [get_set]
    split
    · next home =>
      subst home
      refine ⟨_, linked, ?_⟩
      have inside : ∀ n ∈ passed ++ rest, n < m.nodes.size := fun n mem => walk.path.lt mem
      have left := map_stored?_splice valid x fun n mem => inside n (List.mem_append_left rest mem)
      have right := map_stored?_splice valid x fun n mem => inside n (List.mem_append_right passed mem)
      have here : (m.splice l x).stored? m.nodes.size = some ⟨key, c.content⟩ := by
        rw [stored?_splice valid, if_pos rfl, ← new]
        rfl
      rw [walk.chain, Chain.set_append walk.smaller, (walk.of_beyond beyond).2, List.map_append,
        List.map_cons, left, right, here, walk.left, walk.ahead, List.map_append, List.map_cons]
    · next other =>
      obtain ⟨refs, path, entries⟩ := h b
      refine ⟨refs, kept (Ne.symm other) path, ?_⟩
      rw [map_stored?_splice valid x fun n mem => path.lt mem, entries]
  · rintro b n ⟨refs, path, mem⟩
    by_cases home : b = slot bits key
    · subst home
      cases path.unique walk.path
      refine ⟨_, linked, List.mem_append.mpr ?_⟩
      exact (List.mem_append.mp mem).imp_right (List.mem_cons_of_mem _)
    · exact ⟨refs, kept home path, mem⟩
  · rintro b n ⟨refs, path, mem⟩
    rw [(node_splice valid x n).1, if_neg (Nat.ne_of_lt (path.lt mem))]

/-- Another value in the node of a key sets the key. -/
theorem renew (h : m.Holds d) (ordered : d.Ordered) (here : m.At key n) (c : Cell α) :
    (m.renew n c).Holds (d.set key c.content) ∧ m.Grows (m.renew n c) := by
  obtain ⟨⟨refs, path, mem⟩, same⟩ := here
  have inside : n < m.nodes.size := path.lt mem
  refine ⟨fun b => ?_, fun ⟨refs, path, mem⟩ => ⟨refs, path.renew n c, mem⟩,
    fun _ => key_renew inside c _⟩
  obtain ⟨refs', path', entries⟩ := h b
  refine ⟨refs', path'.renew n c, ?_⟩
  rw [get_set]
  split
  · next home =>
    subst home
    cases path.unique path'
    obtain ⟨passed, rest, rfl⟩ := List.append_of_mem mem
    obtain ⟨smaller, e, greater, chain, left, entry, right⟩ := cut entries
    have nodes : (passed ++ n :: rest).Nodup :=
      .of_map _ (List.nodup_cons.mp (h.nodup_links ordered path)).2
    obtain ⟨behind, ahead⟩ : n ∉ passed ∧ n ∉ rest := by
      obtain ⟨-, later, apart⟩ := List.nodup_append.mp nodes
      exact ⟨fun mem => apart n mem n List.mem_cons_self rfl, (List.nodup_cons.mp later).1⟩
    have at_key : e.key = key := (key_of_stored? entry).trans same
    have rises := ordered.rises (slot bits key)
    rw [chain] at rises
    have less : ∀ e' ∈ smaller, e'.key < key := fun e' mem' =>
      at_key ▸ (List.pairwise_append.mp rises).2.2 e' mem' e List.mem_cons_self
    have renewed : (m.renew n c).stored? n = some ⟨key, c.content⟩ := by
      rw [stored?, node_renew inside, if_pos rfl, ← same]
      rfl
    have replaced : Chain.set key c.content (e :: greater) = ⟨key, c.content⟩ :: greater := by
      rw [Chain.set_cons, if_neg (at_key ▸ UInt64.lt_irrefl _), if_pos at_key, at_key]
    rw [chain, Chain.set_append less, replaced, List.map_append, List.map_cons,
      map_stored?_renew inside c behind, map_stored?_renew inside c ahead, renewed, left, right,
      List.map_append, List.map_cons]
  · next other =>
    have away : n ∉ refs' := by
      intro mem'
      have home := h.slot_of_inBucket ordered ⟨refs', path', mem'⟩
      exact other (same ▸ home)
    rw [map_stored?_renew inside c away, entries]

end Holds

end Memory

end Directory

end CoopSched
