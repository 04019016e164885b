import CoopSched.Registry
import CoopSched.Proofs.Directory.Map
/-!
# First names

A registry writes a name into its directory only when it does not find the id of the name there. The directory
itself would replace what it has: that the first name stays is due to this check alone, and that each id is stored
once is due to the order of the chains.

* Registering a name gives its id a name if that has none, and does nothing to other ids (`nameOf_registerBy`).
* A registry stays the same exactly when the id of the name has a name already (`registerBy_eq_self_iff`).
* After any names an id has the first of those whose id it is (`nameOf_registerAll`).

`keeps_first_names` says this of a new registry. The ids come from an arbitrary function, so that names may share
an id, and ids a bucket, in any way; `register` is the case of `taskId`.
-/

namespace CoopSched.Registry

variable {hash : String → UInt64} {r : Registry} {name : String} {names : List String} {id : UInt64}

/-! ## 1. One name -/

theorem nameOf_empty (id : UInt64) : empty.nameOf id = none := Directory.get?_empty id

/-- The check before a write finds the ids that have names. -/
theorem contains_names (r : Registry) (id : UInt64) : r.names.contains id = (r.nameOf id).isSome :=
  Directory.contains_eq r.names id

theorem keep_of_known {first : String} (known : r.nameOf id = some first) (name : String) :
    r.keep id name = r := by
  have found : r.names.contains id = true := by
    rw [contains_names, known]
    rfl
  rw [keep, if_pos found]

theorem keep_of_unknown (new : r.nameOf id = none) (name : String) :
    r.keep id name = ⟨r.names.set id name⟩ := by
  have missing : ¬ r.names.contains id = true := by
    rw [contains_names, new]
    exact Bool.false_ne_true
  rw [keep, if_neg missing]

/-- A name is found where there was none, and nothing that was found is replaced. -/
theorem nameOf_keep (r : Registry) (key id : UInt64) (name : String) :
    (r.keep key name).nameOf id = (r.nameOf id).or (if key = id then some name else none) := by
  by_cases here : key = id
  · subst here
    rw [if_pos rfl]
    cases had : r.nameOf key with
    | some first => rw [keep_of_known had, had, Option.some_or]
    | none =>
      rw [keep_of_unknown had, nameOf, Directory.get?_set, if_pos rfl]
      rfl
  · rw [if_neg here, Option.or_none]
    cases had : r.nameOf key with
    | some first => rw [keep_of_known had]
    | none =>
      rw [keep_of_unknown had, nameOf, Directory.get?_set, if_neg (Ne.symm here)]
      rfl

theorem nameOf_registerBy (hash : String → UInt64) (r : Registry) (name : String) (id : UInt64) :
    (r.registerBy hash name).1.nameOf id =
      (r.nameOf id).or (if hash name = id then some name else none) :=
  nameOf_keep r (hash name) id name

/-- Registering a name leaves the registry as it was exactly when the id of the name has a name already. -/
theorem registerBy_eq_self_iff : (r.registerBy hash name).1 = r ↔ (r.nameOf (hash name)).isSome = true := by
  constructor
  · intro same
    rw [← same, nameOf_registerBy, if_pos rfl, Option.isSome_or, Option.isSome_some, Bool.or_true]
  · intro known
    obtain ⟨first, known⟩ := Option.isSome_iff_exists.mp known
    exact keep_of_known known name

theorem ordered_keep (ordered : r.names.Ordered) (id : UInt64) (name : String) :
    (r.keep id name).names.Ordered := by
  cases had : r.nameOf id with
  | some first =>
    rw [keep_of_known had]
    exact ordered
  | none =>
    rw [keep_of_unknown had]
    exact ordered.set id name

/-! ## 2. Names one after another -/

/-- Register names one after another: the registry after the last of them, and the ids that were returned. -/
def registerAll (hash : String → UInt64) (r : Registry) : List String → Registry × List UInt64
  | [] => (r, [])
  | name :: names =>
    let (next, id) := r.registerBy hash name
    let (last, ids) := next.registerAll hash names
    (last, id :: ids)

theorem registerAll_cons (hash : String → UInt64) (r : Registry) (name : String) (names : List String) :
    (r.registerAll hash (name :: names)).1 =
      ((r.registerBy hash name).1.registerAll hash names).1 := rfl

/-- Each call returns the id of its name, also when it writes nothing. -/
theorem ids_registerAll (hash : String → UInt64) (r : Registry) (names : List String) :
    (r.registerAll hash names).2 = names.map hash := by
  induction names generalizing r with
  | nil => rfl
  | cons name names ih => exact congrArg (hash name :: ·) (ih (r.registerBy hash name).1)

theorem nameOf_registerAll (hash : String → UInt64) (r : Registry) (names : List String) (id : UInt64) :
    (r.registerAll hash names).1.nameOf id = (r.nameOf id).or (names.find? (hash · == id)) := by
  induction names generalizing r with
  | nil => exact (Option.or_none).symm
  | cons name names ih =>
    rw [registerAll_cons, ih, nameOf_registerBy, Option.or_assoc, List.find?_cons]
    by_cases here : hash name = id
    · rw [if_pos here, beq_iff_eq.mpr here, Option.some_or]
    · rw [if_neg here, beq_false_of_ne here, Option.none_or]

theorem ordered_registerAll (ordered : r.names.Ordered) (hash : String → UInt64) (names : List String) :
    (r.registerAll hash names).1.names.Ordered := by
  induction names generalizing r with
  | nil => exact ordered
  | cons name names ih => exact ih (ordered_keep ordered (hash name) name)

/-! ## 3. A new registry -/

/-- The name is the first whose hash is the id. -/
def IsFirst (hash : String → UInt64) (names : List String) (id : UInt64) (name : String) : Prop :=
  hash name = id ∧ ∃ before after, names = before ++ name :: after ∧ ∀ other ∈ before, hash other ≠ id

theorem find?_eq_some_iff_isFirst : names.find? (hash · == id) = some name ↔ IsFirst hash names id name := by
  rw [List.find?_eq_some_iff_append]
  simp only [IsFirst, beq_iff_eq, Bool.not_eq_true', beq_eq_false_iff_ne]

theorem lookup_hashed (hash : String → UInt64) (names : List String) (id : UInt64) :
    (names.map fun name => (hash name, name)).lookup id = names.find? (hash · == id) := by
  induction names with
  | nil => rfl
  | cons name names ih => rw [List.map_cons, List.lookup_cons, List.find?_cons, ih, BEq.comm]

/-- What a registry knows after some names. -/
structure Remembers (hash : String → UInt64) (names : List String) (r : Registry) : Prop where
  /-- An id has the first name whose id it is, and none if there is no such name. -/
  first : ∀ id name, r.nameOf id = some name ↔ IsFirst hash names id name
  unknown : ∀ id, r.nameOf id = none ↔ ∀ name ∈ names, hash name ≠ id
  /-- It has that name at every later point. -/
  lasting : ∀ id name, r.nameOf id = some name →
    ∀ later, (r.registerAll hash later).1.nameOf id = some name
  /-- Nothing changes when a name comes again, or another name with its id, and only then. -/
  unchanged : ∀ other, (r.registerBy hash other).1 = r ↔ ∃ name ∈ names, hash name = hash other
  /-- The chains of the directory are in order, and what it answers is what the names, set from the last to the
  first, would make it answer: each id is stored once. -/
  ordered : r.names.Ordered
  answers : r.names.Answers (names.map fun name => (hash name, name)).reverse

/-- Whatever names are registered, and whatever ids they have: each call returns the id of its name, and each id
keeps the first name that came with it. -/
theorem keeps_first_names (hash : String → UInt64) (names : List String) :
    (empty.registerAll hash names).2 = names.map hash ∧
      Remembers hash names (empty.registerAll hash names).1 := by
  refine ⟨ids_registerAll hash empty names, ?_⟩
  have found : ∀ id, (empty.registerAll hash names).1.nameOf id = names.find? (hash · == id) := by
    intro id
    rw [nameOf_registerAll, nameOf_empty, Option.none_or]
  have ordered : (empty.registerAll hash names).1.names.Ordered :=
    ordered_registerAll Directory.ordered_empty hash names
  refine ⟨fun id name => ?first, fun id => ?unknown, fun id name known later => ?lasting,
    fun other => ?unchanged, ordered, ordered.answers fun id => ?answers⟩
  case first => rw [found, find?_eq_some_iff_isFirst]
  case unknown =>
    rw [found, List.find?_eq_none]
    simp only [beq_iff_eq, ne_eq]
  case lasting => rw [nameOf_registerAll, known, Option.some_or]
  case unchanged =>
    rw [registerBy_eq_self_iff, found, List.find?_isSome]
    simp only [beq_iff_eq]
  case answers =>
    rw [List.reverse_reverse, lookup_hashed]
    exact found id

/-- Ids of which one belongs to many names, and another one is in its bucket. -/
def crowdedId (name : String) : UInt64 := if name = "sensor" then 257 else 1

/-- The second name of an id is not written down, neither the first time nor when it comes again. -/
theorem keeps_first_crowded :
    let r := (empty.registerAll crowdedId ["planner", "sensor", "camera"]).1
    Directory.slot taskRegistryBits 1 = Directory.slot taskRegistryBits 257 ∧
      r.nameOf 1 = some "planner" ∧ r.nameOf 257 = some "sensor" ∧ r.nameOf 513 = none ∧
      (r.registerBy crowdedId "camera").1 = r ∧
      (r.registerAll crowdedId ["camera", "map"]).1.nameOf 1 = some "planner" := by
  obtain ⟨-, keeps⟩ := keeps_first_names crowdedId ["planner", "sensor", "camera"]
  have first := (keeps.first 1 "planner").mpr ⟨rfl, [], ["sensor", "camera"], rfl, nofun⟩
  have second := (keeps.first 257 "sensor").mpr ⟨rfl, ["planner"], ["camera"], rfl, by decide⟩
  have unknown := (keeps.unknown 513).mpr (by decide)
  have again := (keeps.unchanged "camera").mpr ⟨"planner", List.mem_cons_self, rfl⟩
  exact ⟨rfl, first, second, unknown, again, keeps.lasting 1 "planner" first ["camera", "map"]⟩

end CoopSched.Registry
