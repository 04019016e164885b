import CoopSched.Proofs.Directory.Memory
/-!
# Calls on a shared directory

Any number of calls set keys and look keys up in one directory at the same time. `World.perform` lets one call
take its next indivisible step: it reads a pointer, or it exchanges one. A call of `set` whose exchange fails
walks again from the head of the bucket.

What is known of a call at its phase is `Phase.Sound`. It is not lost when the memory grows (`Phase.Sound.mono`),
and a step of the call itself changes the memory by nothing, or by setting its key (`Phase.Does`).

The last field of a `World` records the exchanges that have succeeded. No step depends on it.
-/

namespace CoopSched

namespace Directory

variable {bits : Nat} {α : Type}

/-! ## 1. The steps of a call -/

/-- What is asked of a directory. -/
inductive Request (α : Type) where
  | set (key : UInt64) (value : α)
  | get (key : UInt64)
  | contains (key : UInt64)
  deriving DecidableEq, Repr

def Request.key : Request α → UInt64
  | .set key _ | .get key | .contains key => key

inductive Answer (α : Type) where
  | done
  | value (v : Option α)
  | present (found : Bool)
  deriving DecidableEq, Repr

/-- Where a call stands. -/
inductive Phase (bits : Nat) (α : Type) where
  /-- It is about to read the pointer at a link. -/
  | walking (request : Request α) (l : Link bits)
  /-- It has found the node of its key, and is about to read the pointer to the value there. -/
  | reading (key : UInt64) (n : NodeRef)
  | renewing (key : UInt64) (value : α) (n : NodeRef)
  /-- It is about to exchange the pointer to the value, if that is still the same. -/
  | replacing (key : UInt64) (value : α) (n : NodeRef) (old : Option (Cell α))
  /-- Its key has no node. It is about to exchange the pointer at a link, if that is still the same. -/
  | linking (key : UInt64) (value : α) (l : Link bits) (next : Option NodeRef)
  | returned (request : Request α) (answer : Answer α)
  deriving Repr

/-- The first phase of a call: at the head of the bucket. -/
def Request.start (request : Request α) : Phase bits α := .walking request (.head (slot bits request.key))

/-- The phase of a call that has found the node of its key. -/
def Request.found (n : NodeRef) : Request α → Phase bits α
  | .set key value => .renewing key value n
  | .get key => .reading key n
  | .contains key => .returned (.contains key) (.present true)

/-- The phase of a call that has found that its key has no node. -/
def Request.missed (l : Link bits) (next : Option NodeRef) : Request α → Phase bits α
  | .set key value => .linking key value l next
  | .get key => .returned (.get key) (.value none)
  | .contains key => .returned (.contains key) (.present false)

/-- One step of a walk: read the pointer at the link, and compare the key of the node to which it leads. -/
def Memory.walk (m : Memory bits α) (request : Request α) (l : Link bits) : Phase bits α :=
  match m.load l with
  | none => request.missed l none
  | some n =>
    if (m.node n).key < request.key then .walking request (.next n)
    else if (m.node n).key = request.key then request.found n
    else request.missed l (some n)

def Phase.request : Phase bits α → Request α
  | .walking request _ | .returned request _ => request
  | .reading key _ => .get key
  | .renewing key value _ | .replacing key value _ _ | .linking key value _ _ => .set key value

def Phase.answer? : Phase bits α → Option (Answer α)
  | .returned _ answer => some answer
  | _ => none

/-- A call of `set` has exchanged a pointer. -/
structure Write (α : Type) where
  call : Nat
  key : UInt64
  value : α
  deriving DecidableEq, Repr

/-- The memory, the calls by number, and the exchanges that have succeeded, in their order. -/
structure World (bits : Nat) (α : Type) where
  memory : Memory bits α
  calls : Nat → Option (Phase bits α) := fun _ => none
  writes : List (Write α) := []

/-- What happens next. -/
inductive Action (α : Type) where
  | begin (i : Nat) (request : Request α)
  | step (i : Nat)
  deriving DecidableEq, Repr

namespace World

/-- After an exchange: if it was successful the call returns, and otherwise it starts again. -/
def exchanged (w : World bits α) (i : Nat) (key : UInt64) (value : α) :
    Memory bits α × Bool → World bits α × Phase bits α
  | (memory, true) =>
    ({ w with memory, writes := w.writes ++ [⟨i, key, value⟩] }, .returned (.set key value) .done)
  | (_, false) => (w, (Request.set key value).start)

/-- The next step of a call, and the phase that it comes to. -/
def advance (w : World bits α) (i : Nat) : Phase bits α → World bits α × Phase bits α
  | .walking request l => (w, w.memory.walk request l)
  | .reading key n => (w, .returned (.get key) (.value ((w.memory.node n).cell.map (·.content))))
  | .renewing key value n => (w, .replacing key value n (w.memory.node n).cell)
  | .replacing key value n old =>
    w.exchanged i key value (w.memory.exchangeCell n old ⟨some i, value⟩)
  | .linking key value l next =>
    w.exchanged i key value (w.memory.exchangeLink l next key ⟨some i, value⟩)
  | .returned request answer => (w, .returned request answer)

/-- A call stands somewhere. -/
def put (w : World bits α) (i : Nat) (p : Phase bits α) : World bits α :=
  { w with calls := fun j => if j = i then some p else w.calls j }

def perform (w : World bits α) : Action α → World bits α
  | .begin i request =>
    match w.calls i with
    | none => w.put i request.start
    | some _ => w
  | .step i =>
    match w.calls i with
    | none => w
    | some p => (w.advance i p).1.put i (w.advance i p).2

def performAll (w : World bits α) (actions : List (Action α)) : World bits α := actions.foldl perform w

/-- The directory that results if the exchanges that have succeeded are calls of `set`, one after another. -/
def directory (d : Directory bits α) (w : World bits α) : Directory bits α :=
  d.setAll (w.writes.map fun x => (x.key, x.value))

/-- A call with a request is under way. -/
def Running (w : World bits α) (i : Nat) (request : Request α) : Prop :=
  ∃ p, w.calls i = some p ∧ p.request = request ∧ p.answer? = none

/-- A call with a request has returned an answer. -/
def Returned (w : World bits α) (i : Nat) (request : Request α) (answer : Answer α) : Prop :=
  ∃ p, w.calls i = some p ∧ p.request = request ∧ p.answer? = some answer

/-- No calls yet, and the directory in memory is in order. -/
structure Begins (w : World bits α) (d : Directory bits α) : Prop where
  holds : w.memory.Holds d
  ordered : d.Ordered
  calls : ∀ i, w.calls i = none
  writes : w.writes = []

end World

/-- What a look-up answers, if nobody else uses the directory. -/
def Request.lookUp? (d : Directory bits α) : Request α → Option (Answer α)
  | .set .. => none
  | .get key => some (.value (d.get? key))
  | .contains key => some (.present (d.contains key))

/-- The answer to a request, and the directory after it, if nobody else uses the directory. -/
def Request.Correct (d : Directory bits α) : Request α → Answer α → Directory bits α → Prop
  | .set key value, answer, d' => answer = .done ∧ d' = d.set key value
  | request, answer, d' => request.lookUp? d = some answer ∧ d' = d

/-! ## 2. What is known of a call -/

/-- Where the link or the node of a call is. -/
def Phase.Sound (m : Memory bits α) : Phase bits α → Prop
  | .walking request l => m.Below request.key l
  | .reading key n | .renewing key _ n | .replacing key _ n _ => m.At key n
  | .linking key _ l next => m.Below key l ∧ m.Beyond key next
  | .returned .. => True

theorem Phase.Sound.mono {m m' : Memory bits α} {p : Phase bits α} (h : p.Sound m)
    (grows : m.Grows m') : p.Sound m' := by
  cases p with
  | walking request l => exact grows.below h
  | reading key n => exact grows.atKey h
  | renewing key value n => exact grows.atKey h
  | replacing key value n old => exact grows.atKey h
  | linking key value l next => exact ⟨grows.below h.1, grows.beyond h.2⟩
  | returned request answer => trivial

/-- While the calls go on, the memory holds the directory of the exchanges that have succeeded. -/
structure World.Sound (w : World bits α) (d : Directory bits α) : Prop where
  holds : w.memory.Holds (w.directory d)
  ordered : (w.directory d).Ordered
  phases : ∀ i p, w.calls i = some p → p.Sound w.memory

variable {w : World bits α} {d : Directory bits α} {i : Nat} {p : Phase bits α}

theorem World.Begins.directory_eq (h : w.Begins d) : w.directory d = d := by
  rw [World.directory, h.writes]
  rfl

theorem World.Begins.sound (h : w.Begins d) : w.Sound d where
  holds := by rw [h.directory_eq]; exact h.holds
  ordered := by rw [h.directory_eq]; exact h.ordered
  phases i p here := by rw [h.calls i] at here; cases here

theorem Request.sound_start (request : Request α) (m : Memory bits α) : request.start.Sound m := rfl

/-! ## 3. What a step does -/

/-- A step of a call that is under way, in a memory that holds a directory. -/
inductive Phase.Does (i : Nat) (w : World bits α) (d : Directory bits α) (p : Phase bits α) :
    World bits α × Phase bits α → Prop
  /-- It leaves everything as it is. Only a look-up returns after that, with the right answer. -/
  | looks {p' : Phase bits α} (same : p'.request = p.request) (sound : p'.Sound w.memory)
      (correct : ∀ answer, p'.answer? = some answer → p.request.lookUp? d = some answer) :
      Does i w d p (w, p')
  /-- It sets the key, and the call returns. -/
  | sets {key : UInt64} {value : α} {memory : Memory bits α} (same : p.request = .set key value)
      (holds : memory.Holds (d.set key value)) (grows : w.memory.Grows memory) :
      Does i w d p ({ w with memory, writes := w.writes ++ [⟨i, key, value⟩] },
        .returned (.set key value) .done)

/-- A walk reads a link. What it finds there decides whether the key has a node. -/
theorem Memory.Holds.does_walk (holds : w.memory.Holds d) (ordered : d.Ordered) {request : Request α}
    {l : Link bits} (below : w.memory.Below request.key l) :
    Phase.Does i w d (.walking request l) (w, w.memory.walk request l) := by
  have missed : ∀ next, w.memory.load l = next → w.memory.Beyond request.key next →
      Phase.Does i w d (.walking request l) (w, request.missed l next) := by
    rintro next rfl beyond
    have absent := holds.get?_of_beyond ordered below beyond
    cases request with
    | set key value => exact .looks rfl ⟨below, beyond⟩ nofun
    | get key =>
      refine .looks rfl trivial ?_
      rintro answer ⟨⟩
      exact congrArg (some <| Answer.value ·) absent
    | contains key =>
      refine .looks rfl trivial ?_
      rintro answer ⟨⟩
      have unknown : d.contains key = false := (contains_eq d key).trans (congrArg Option.isSome absent)
      exact congrArg (some <| Answer.present ·) unknown
  rw [Memory.walk]
  split
  · next load => exact missed none load nofun
  · next n load =>
    have there := holds.inBucket_of_load ordered below load
    split
    · next less => exact .looks rfl ⟨there, less⟩ nofun
    · next stops =>
      split
      · next here =>
        have present := (holds.get?_of_at ordered ⟨there, here⟩).2
        cases request with
        | set key value => exact .looks rfl ⟨there, here⟩ nofun
        | get key => exact .looks rfl ⟨there, here⟩ nofun
        | contains key =>
          refine .looks rfl trivial ?_
          rintro answer ⟨⟩
          have known : d.contains key = true := (contains_eq d key).trans present
          exact congrArg (some <| Answer.present ·) known
      · next other =>
        have above : request.key < (w.memory.node n).key :=
          UInt64.lt_of_le_of_ne (UInt64.not_lt.mp stops) (Ne.symm other)
        refine missed (some n) load ?_
        rintro n' ⟨⟩
        exact ⟨there, above⟩

/-- All that a step of a call can do. -/
theorem Memory.Holds.does_advance (holds : w.memory.Holds d) (ordered : d.Ordered)
    (sound : p.Sound w.memory) (running : p.answer? = none) : p.Does i w d (w.advance i p) := by
  cases p with
  | walking request l => exact holds.does_walk ordered sound
  | reading key n =>
    refine .looks rfl trivial ?_
    rintro answer ⟨⟩
    exact congrArg (some <| Answer.value ·) (holds.get?_of_at ordered sound).1
  | renewing key value n => exact .looks rfl sound nofun
  | replacing key value n old =>
    rw [World.advance, exchangeCell]
    split
    · have renewed := holds.renew ordered sound ⟨some i, value⟩
      exact .sets rfl renewed.1 renewed.2
    · exact .looks rfl (Request.sound_start _ _) nofun
  | linking key value l next =>
    rw [World.advance, exchangeLink]
    split
    · next load =>
      subst load
      have spliced := holds.splice ordered sound.1 sound.2 ⟨some i, value⟩
      exact .sets rfl spliced.1 spliced.2
    · exact .looks rfl (Request.sound_start _ _) nofun
  | returned request answer => cases running

namespace World

/-- All that an action can do. -/
inductive Moves (w : World bits α) (d : Directory bits α) : Action α → World bits α → Prop
  | stays (a : Action α) : Moves w d a w
  | begins {i : Nat} {request : Request α} (free : w.calls i = none) :
      Moves w d (.begin i request) (w.put i request.start)
  | looks {i : Nat} {p p' : Phase bits α} (here : w.calls i = some p) (running : p.answer? = none)
      (same : p'.request = p.request) (sound : p'.Sound w.memory)
      (correct : ∀ answer, p'.answer? = some answer →
        p.request.lookUp? (w.directory d) = some answer) :
      Moves w d (.step i) (w.put i p')
  | sets {i : Nat} {p : Phase bits α} {key : UInt64} {value : α} {memory : Memory bits α}
      (here : w.calls i = some p) (running : p.answer? = none) (same : p.request = .set key value)
      (holds : memory.Holds ((w.directory d).set key value)) (grows : w.memory.Grows memory) :
      Moves w d (.step i) (put { w with memory, writes := w.writes ++ [⟨i, key, value⟩] } i
        (.returned (.set key value) .done))

theorem put_self (here : w.calls i = some p) : w.put i p = w := by
  have calls : (w.put i p).calls = w.calls := by
    funext j
    simp only [put]
    split
    · next same => rw [same, here]
    · rfl
  exact congrArg (fun calls => { w with calls }) calls

theorem Sound.moves (h : w.Sound d) (a : Action α) : w.Moves d a (w.perform a) := by
  cases a with
  | begin i request =>
    rw [perform]
    split
    · next free => exact .begins free
    · exact .stays _
  | step i =>
    rw [perform]
    split
    · exact .stays _
    · next p here =>
      cases answered : p.answer? with
      | some answer =>
        cases p with
        | returned request answer =>
          rw [advance, put_self here]
          exact .stays _
        | _ => cases answered
      | none =>
        have does := h.holds.does_advance (i := i) h.ordered (h.phases i p here) answered
        generalize w.advance i p = outcome at does
        cases does with
        | looks same sound correct => exact .looks here answered same sound correct
        | sets same holds grows => exact .sets here answered same holds grows

end World

end Directory

end CoopSched
