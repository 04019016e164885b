import CoopSched.Proofs.Directory.Linearizable
/-!
# Exchanges that fail

A call of `set` walks from the head of the bucket of its key and exchanges a pointer. If the exchange fails it
walks again from the head: this is another attempt.

An exchange fails only if the pointer has been changed since the walk began, which takes a successful exchange
of another call in the same bucket (`Sound.charge`). As each call exchanges one pointer, a call fails less often
than there are calls of `set` (`Sound.charge_all`, `Begins.rivals_lt`).
-/

namespace CoopSched

namespace Directory

variable {bits : Nat} {α : Type}

/-! ## 1. Other buckets -/

namespace Memory

variable {m m' : Memory bits α} {d : Directory bits α} {key : UInt64} {l : Link bits} {n : NodeRef}
  {b : Fin (bucketCount bits)}

/-- Outside the bucket of a key all pointers are the same. -/
structure Spares (m m' : Memory bits α) (key : UInt64) : Prop where
  load : ∀ {other l}, slot bits other ≠ slot bits key → m.Below other l → m'.load l = m.load l
  cell : ∀ {b n}, b ≠ slot bits key → m.InBucket b n → (m'.node n).cell = (m.node n).cell

namespace Holds

theorem spares_splice (h : m.Holds d) (ordered : d.Ordered) (below : m.Below key l) (x : Node α) :
    m.Spares (m.splice l x) key := by
  obtain ⟨passed, rest, smaller, others, walk⟩ := h.walk ordered below
  have valid := walk.valid
  constructor
  · intro other l' apart there
    obtain ⟨refs, path, mem⟩ : ∃ refs, m.Follows (.head (slot bits other)) refs ∧
        l' ∈ Link.head (slot bits other) :: refs.map .next := by
      cases l' with
      | head b =>
        cases there
        obtain ⟨refs, path, -⟩ := h (slot bits other)
        exact ⟨refs, path, List.mem_cons_self⟩
      | next n =>
        obtain ⟨⟨refs, path, mem⟩, -⟩ := there
        exact ⟨refs, path, List.mem_cons_of_mem _ (List.mem_map_of_mem mem)⟩
    have away : l' ≠ l := fun same => h.away ordered below path apart (same ▸ mem)
    have old : l' ≠ .next m.nodes.size := by
      rintro rfl
      exact Nat.lt_irrefl _ (path.lt (by simpa using mem))
    rw [load_splice valid, if_neg away, if_neg old]
  · rintro b n - ⟨refs, path, mem⟩
    rw [(node_splice valid x n).2, if_neg (Nat.ne_of_lt (path.lt mem))]

theorem spares_renew (h : m.Holds d) (ordered : d.Ordered) (here : m.At key n) (c : Cell α) :
    m.Spares (m.renew n c) key := by
  obtain ⟨⟨refs, path, mem⟩, same⟩ := here
  refine ⟨fun _ _ => load_renew m n c _, fun {b q} apart there => ?_⟩
  have other : q ≠ n := by
    rintro rfl
    exact apart (same ▸ (h.slot_of_inBucket ordered there).symm)
  rw [node_renew (path.lt mem), if_neg other]

end Holds

end Memory

/-! ## 2. Exchanges that fail -/

/-- The call is about to make an exchange that will fail: the pointer is not any more as it was read. -/
def Phase.stale (m : Memory bits α) : Phase bits α → Bool
  | .replacing _ _ n old => !samePointer (m.node n).cell old
  | .linking _ _ l next => m.load l != next
  | _ => false

def Phase.isStart : Phase bits α → Bool
  | .walking _ (.head _) => true
  | _ => false

/-- Is this a step of the call? -/
def Action.isStep (i : Nat) : Action α → Bool
  | .begin .. => false
  | .step j => j == i

namespace World

/-- Is a call about to make an exchange that will fail? -/
def stale (w : World bits α) (i : Nat) : Bool := (w.calls i).any (·.stale w.memory)

/-- Does an exchange of the call fail in this action? -/
def fails (w : World bits α) (i : Nat) (a : Action α) : Bool := a.isStep i && w.stale i

/-- Does this action let the call walk from the head of its bucket, at first or once more? -/
def tries (w : World bits α) (i : Nat) : Action α → Bool
  | .begin j _ => j == i && (w.calls i).isNone
  | .step j => j == i && ((w.perform (.step i)).calls i).any (·.isStart)

/-- How many exchanges of a call fail in the course of some actions. -/
def failures (i : Nat) : World bits α → List (Action α) → Nat
  | _, [] => 0
  | w, a :: rest => (w.fails i a).toNat + failures i (w.perform a) rest

/-- How many attempts a call begins in the course of some actions. -/
def attempts (i : Nat) : World bits α → List (Action α) → Nat
  | _, [] => 0
  | w, a :: rest => (w.tries i a).toNat + attempts i (w.perform a) rest

/-- How many exchanges of other calls have succeeded in the bucket of a key. -/
def rivals (w : World bits α) (i : Nat) (key : UInt64) : Nat :=
  w.writes.countP fun x => x.call ≠ i ∧ slot bits x.key = slot bits key

variable {w : World bits α} {d : Directory bits α} {i j : Nat} {p q : Phase bits α} {key : UInt64}
  {value : α}

theorem stale_put (w : World bits α) (i : Nat) (p : Phase bits α) :
    (w.put i p).stale i = p.stale w.memory := by
  rw [stale, calls_put, if_pos rfl]
  rfl

theorem stale_put_of_ne (other : i ≠ j) (w : World bits α) (p : Phase bits α) :
    (w.put j p).stale i = w.stale i := by
  rw [stale, calls_put, if_neg other]
  rfl

/-- What a step of a call does to the memory and to the record. -/
inductive Writes (w : World bits α) (i : Nat) (p : Phase bits α) : World bits α → Prop
  | nothing : Writes w i p w
  | one {key : UInt64} {value : α} {memory : Memory bits α} (request : p.request = .set key value)
      (spares : w.memory.Spares memory key) (grows : w.memory.Grows memory) :
      Writes w i p { w with memory, writes := w.writes ++ [⟨i, key, value⟩] }

theorem Sound.writes_advance (h : w.Sound d) (here : w.calls i = some p) :
    Writes w i p (w.advance i p).1 := by
  have sound := h.phases i p here
  cases p with
  | replacing key value n old =>
    rw [advance, Memory.exchangeCell]
    split
    · exact .one rfl (h.holds.spares_renew h.ordered sound _) (h.holds.renew h.ordered sound ⟨some i, value⟩).2
    · exact .nothing
  | linking key value l next =>
    rw [advance, Memory.exchangeLink]
    split
    · next load =>
      subst load
      exact .one rfl (h.holds.spares_splice h.ordered sound.1 _)
        (h.holds.splice h.ordered sound.1 sound.2 ⟨some i, value⟩).2
    · exact .nothing
  | _ => exact .nothing

/-- After a step of its own a call is not about to fail: what it exchanges next it has just read. -/
theorem fresh_advance (w : World bits α) (i : Nat) (p : Phase bits α) :
    (w.advance i p).2.stale (w.advance i p).1.memory = false := by
  have missed : ∀ (request : Request α) {l : Link bits} {next : Option NodeRef}, w.memory.load l = next →
      (request.missed l next).stale w.memory = false := by
    rintro (_ | _ | _) l next load
    · exact bne_eq_false_iff_eq.mpr load
    · rfl
    · rfl
  cases p with
  | walking request l =>
    show (w.memory.walk request l).stale w.memory = false
    rw [Memory.walk]
    split
    · next load => exact missed request load
    · next n load =>
      split
      · rfl
      · split
        · cases request <;> rfl
        · exact missed request load
  | renewing key value n =>
    show (!samePointer (w.memory.node n).cell (w.memory.node n).cell) = false
    rw [samePointer, beq_self_eq_true]
    rfl
  | replacing key value n old =>
    rw [advance, Memory.exchangeCell]
    split <;> rfl
  | linking key value l next =>
    rw [advance, Memory.exchangeLink]
    split <;> rfl
  | reading key n => rfl
  | returned request answer => rfl

/-! ## 3. What failures are charged to -/

theorem Sound.stale_of_spares {memory : Memory bits α} {other : UInt64} (h : w.Sound d)
    (here : w.calls i = some p) (spares : w.memory.Spares memory other)
    (apart : slot bits p.request.key ≠ slot bits other) : p.stale memory = p.stale w.memory := by
  have sound := h.phases i p here
  cases p with
  | replacing key value n old => exact congrArg (!samePointer · old) (spares.cell apart sound.1)
  | linking key value l next => exact congrArg (· != next) (spares.load apart sound.1)
  | _ => rfl

theorem rivals_write (memory : Memory bits α) (x : Write α) :
    rivals { w with memory, writes := w.writes ++ [x] } i key =
      w.rivals i key + if x.call ≠ i ∧ slot bits x.key = slot bits key then 1 else 0 := by
  simp [rivals, List.countP_append, List.countP_singleton]

theorem Writes.rivals_le {w' : World bits α} (h : Writes w j p w') (i : Nat) (key : UInt64) :
    w.rivals i key ≤ w'.rivals i key := by
  cases h with
  | nothing => exact Nat.le_refl _
  | one request spares grows =>
    rw [rivals_write]
    exact Nat.le_add_right _ _

theorem perform_step (here : w.calls i = some p) :
    w.perform (.step i) = (w.advance i p).1.put i (w.advance i p).2 := by
  simp only [perform, here]

theorem perform_step_of_absent (absent : w.calls i = none) : w.perform (.step i) = w := by
  simp only [perform, absent]

theorem calls_advance (w : World bits α) (j : Nat) (p : Phase bits α) : (w.advance j p).1.calls = w.calls := by
  cases p with
  | replacing key value n old =>
    rw [advance, Memory.exchangeCell]
    split <;> rfl
  | linking key value l next =>
    rw [advance, Memory.exchangeLink]
    split <;> rfl
  | _ => rfl

/-- A step of another call makes this one fail only by an exchange in its bucket. -/
theorem Sound.charge_other (h : w.Sound d) (keyed : ∀ p, w.calls i = some p → p.request.key = key)
    (there : w.calls j = some q) (other : i ≠ j) :
    ((w.advance j q).1.stale i).toNat + w.rivals i key ≤
      (w.stale i).toNat + (w.advance j q).1.rivals i key := by
  have writes := h.writes_advance there
  generalize (w.advance j q).1 = w' at writes
  cases writes with
  | nothing => exact Nat.le_refl _
  | @one key' value memory request spares grows =>
    rw [rivals_write]
    by_cases bucket : slot bits key' = slot bits key
    · rw [if_pos ⟨Ne.symm other, bucket⟩]
      have one : (stale { w with memory, writes := w.writes ++ [⟨j, key', value⟩] } i).toNat ≤ 1 :=
        Bool.toNat_le _
      omega
    · have same : stale { w with memory, writes := w.writes ++ [⟨j, key', value⟩] } i = w.stale i := by
        cases here : w.calls i with
        | none => simp only [stale, here, Option.any_none]
        | some p =>
          have apart : slot bits p.request.key ≠ slot bits key' := by
            rw [keyed p here]
            exact Ne.symm bucket
          simp only [stale, here, Option.any_some]
          exact h.stale_of_spares here spares apart
      rw [same]
      exact Nat.add_le_add_left (Nat.le_add_right _ _) _

/-- A failure uses up what an exchange of another call in the same bucket has brought about. -/
theorem Sound.charge (h : w.Sound d) (keyed : ∀ p, w.calls i = some p → p.request.key = key)
    (a : Action α) :
    (w.fails i a).toNat + ((w.perform a).stale i).toNat + w.rivals i key ≤
      (w.stale i).toNat + (w.perform a).rivals i key := by
  have idle : w.fails i a = false → w.perform a = w → (w.fails i a).toNat +
      ((w.perform a).stale i).toNat + w.rivals i key ≤ (w.stale i).toNat + (w.perform a).rivals i key := by
    intro spared same
    rw [spared, same, Bool.toNat_false, Nat.zero_add]
  cases a with
  | begin j request =>
    cases free : w.calls j with
    | some q => exact idle rfl (by simp only [World.perform, free])
    | none =>
      have begun : w.perform (.begin j request) = w.put j request.start := by
        simp only [World.perform, free]
      rw [begun, fails, Action.isStep, Bool.false_and, Bool.toNat_false, Nat.zero_add]
      rcases eq_or_ne i j with rfl | other
      · rw [stale_put]
        exact Nat.add_le_add_right (Nat.zero_le _) _
      · rw [stale_put_of_ne other]
        exact Nat.le_refl _
  | step j =>
    cases there : w.calls j with
    | none =>
      refine idle ?_ (perform_step_of_absent there)
      rw [fails, Action.isStep]
      rcases eq_or_ne j i with rfl | other
      · rw [stale, there, Option.any_none, Bool.and_false]
      · rw [beq_eq_false_iff_ne.mpr other, Bool.false_and]
    | some q =>
      rw [perform_step there, fails, Action.isStep]
      rcases eq_or_ne i j with rfl | other
      · have more := (h.writes_advance there).rivals_le i key
        rw [stale_put, fresh_advance, beq_self_eq_true, Bool.true_and]
        exact Nat.add_le_add_left more _
      · have charged := h.charge_other keyed there other
        rw [stale_put_of_ne other, beq_eq_false_iff_ne.mpr (Ne.symm other), Bool.false_and,
          Bool.toNat_false, Nat.zero_add]
        exact charged

/-- In the course of some actions. -/
theorem Sound.charge_all (h : w.Sound d) (actions : List (Action α))
    (keyed : ∀ p, (w.performAll actions).calls i = some p → p.request.key = key) :
    w.failures i actions + ((w.performAll actions).stale i).toNat + w.rivals i key ≤
      (w.stale i).toNat + (w.performAll actions).rivals i key := by
  induction actions generalizing w with
  | nil => exact Nat.le_of_eq (by rw [failures, Nat.zero_add]; rfl)
  | cons a rest ih =>
    have before : ∀ p, w.calls i = some p → p.request.key = key := by
      intro p here
      obtain ⟨p', there, same⟩ := h.keeps_performAll (a :: rest) here
      rw [← same]
      exact keyed p' there
    have one := h.charge before a
    have later := ih (h.perform a) keyed
    have whole : w.performAll (a :: rest) = (w.perform a).performAll rest := rfl
    rw [failures, whole]
    omega

/-! ## 4. Attempts and calls -/

/-- A call walks once more if its exchange has failed, and only then. -/
theorem isStart_advance (w : World bits α) (i : Nat) (p : Phase bits α) :
    (w.advance i p).2.isStart = p.stale w.memory := by
  cases p with
  | walking request l =>
    show (w.memory.walk request l).isStart = false
    rw [Memory.walk]
    split
    · cases request <;> rfl
    · split
      · rfl
      · split <;> cases request <;> rfl
  | replacing key value n old =>
    rw [advance, Memory.exchangeCell, Phase.stale]
    cases samePointer (w.memory.node n).cell old <;> rfl
  | linking key value l next =>
    rw [advance, Memory.exchangeLink, Phase.stale]
    by_cases load : w.memory.load l = next
    · rw [if_pos load, bne_eq_false_iff_eq.mpr load]
      rfl
    · rw [if_neg load, bne_iff_ne.mpr load]
      rfl
  | _ => rfl

/-- A call begins an attempt when it begins, and when an exchange has failed. -/
theorem tries_eq (w : World bits α) (i : Nat) (a : Action α) :
    (w.tries i a).toNat + ((w.perform a).calls i).isNone.toNat =
      (w.fails i a).toNat + (w.calls i).isNone.toNat := by
  cases a with
  | begin j request =>
    cases free : w.calls j with
    | some q =>
      have same : w.perform (.begin j request) = w := by simp only [perform, free]
      rcases eq_or_ne j i with rfl | other
      · simp [tries, fails, Action.isStep, same, free]
      · simp [tries, fails, Action.isStep, same, other]
    | none =>
      have begun : w.perform (.begin j request) = w.put j request.start := by simp only [perform, free]
      rcases eq_or_ne j i with rfl | other
      · simp [tries, fails, Action.isStep, begun, free, calls_put]
      · simp [tries, fails, Action.isStep, begun, other, Ne.symm other, calls_put]
  | step j =>
    cases there : w.calls j with
    | none =>
      have same : w.perform (.step j) = w := perform_step_of_absent there
      rcases eq_or_ne j i with rfl | other
      · simp [tries, fails, stale, same, there]
      · simp [tries, fails, Action.isStep, same, beq_eq_false_iff_ne.mpr other]
    | some q =>
      rcases eq_or_ne j i with rfl | other
      · have after : (w.perform (.step j)).calls j = some (w.advance j q).2 := by
          rw [perform_step there, calls_put, if_pos rfl]
        simp [tries, fails, Action.isStep, stale, after, there, isStart_advance]
      · have after : (w.perform (.step j)).calls i = w.calls i := by
          rw [perform_step there, calls_put, if_neg (Ne.symm other), calls_advance]
        simp [tries, fails, Action.isStep, after, beq_eq_false_iff_ne.mpr other]

theorem attempts_eq (w : World bits α) (i : Nat) (actions : List (Action α)) :
    w.attempts i actions + ((w.performAll actions).calls i).isNone.toNat =
      w.failures i actions + (w.calls i).isNone.toNat := by
  induction actions generalizing w with
  | nil => rw [attempts, failures]; rfl
  | cons a rest ih =>
    have one := tries_eq w i a
    have later := ih (w.perform a)
    have whole : w.performAll (a :: rest) = (w.perform a).performAll rest := rfl
    rw [attempts, failures, whole]
    omega

/-- A call of `set` has begun. -/
def Called (w : World bits α) (i : Nat) (key : UInt64) (value : α) : Prop :=
  ∃ p, w.calls i = some p ∧ p.request = .set key value

end World

/-- The call of `set` that begins. -/
def Action.setter? : Action α → Option Nat
  | .begin i (.set ..) => some i
  | _ => none

/-- The calls of `set` that begin in the course of some actions. -/
def setters (actions : List (Action α)) : Finset Nat := (actions.filterMap Action.setter?).toFinset

namespace World

variable {w : World bits α} {d : Directory bits α} {i j : Nat} {p q : Phase bits α} {key : UInt64}
  {value : α}

theorem mem_setters {actions : List (Action α)} :
    i ∈ setters actions ↔ ∃ key value, .begin i (.set key value) ∈ actions := by
  rw [setters, List.mem_toFinset, List.mem_filterMap]
  constructor
  · rintro ⟨a, mem, named⟩
    cases a with
    | begin j request =>
      cases request with
      | set key value =>
        cases named
        exact ⟨key, value, mem⟩
      | _ => cases named
    | step j => cases named
  · rintro ⟨key, value, mem⟩
    exact ⟨_, mem, rfl⟩

/-- A call that is there was there before, or has just begun. -/
theorem Moves.of_calls {w' : World bits α} {a : Action α} (moves : Moves w d a w')
    (there : w'.calls i = some q) :
    (∃ p, w.calls i = some p ∧ p.request = q.request) ∨ a = .begin i q.request := by
  cases moves with
  | stays => exact .inl ⟨q, there, rfl⟩
  | @begins j request free =>
    rw [calls_put] at there
    split at there
    · next same =>
      subst same
      cases there
      exact .inr rfl
    · exact .inl ⟨q, there, rfl⟩
  | @looks j p p' here running same =>
    rw [calls_put] at there
    split at there
    · next own =>
      subst own
      cases there
      exact .inl ⟨p, here, same.symm⟩
    · exact .inl ⟨q, there, rfl⟩
  | @sets j p key value memory here running same =>
    rw [calls_put] at there
    split at there
    · next own =>
      subst own
      cases there
      exact .inl ⟨p, here, same⟩
    · exact .inl ⟨q, there, rfl⟩

theorem Sound.of_calls (h : w.Sound d) (actions : List (Action α))
    (there : (w.performAll actions).calls i = some q) :
    (∃ p, w.calls i = some p ∧ p.request = q.request) ∨ .begin i q.request ∈ actions := by
  induction actions generalizing w with
  | nil => exact .inl ⟨q, there, rfl⟩
  | cons a rest ih =>
    rcases ih (h.perform a) there with ⟨p, here, same⟩ | mem
    · rcases (h.moves a).of_calls here with ⟨p₀, before, same₀⟩ | rfl
      · exact .inl ⟨p₀, before, same₀.trans same⟩
      · exact .inr (same ▸ List.mem_cons_self)
    · exact .inr (List.mem_cons_of_mem a mem)

theorem Begins.mem_setters (h : w.Begins d) {actions : List (Action α)}
    (called : (w.performAll actions).Called i key value) : i ∈ setters actions := by
  obtain ⟨p, there, request⟩ := called
  rcases h.sound.of_calls actions there with ⟨p, here, -⟩ | mem
  · exact nomatch (h.calls i).symm.trans here
  · exact World.mem_setters.mpr ⟨key, value, request ▸ mem⟩

theorem Begins.called_of_mem_writes (h : w.Begins d) {actions : List (Action α)} {x : Write α}
    (mem : x ∈ (w.performAll actions).writes) : (w.performAll actions).Called x.call x.key x.value := by
  obtain ⟨p, there, request, -⟩ := ((h.linearizable actions).written x.call x.key x.value).mp mem
  exact ⟨p, there, request⟩

/-- Each of the other calls exchanges at most one pointer. -/
theorem Begins.rivals_lt (h : w.Begins d) {actions : List (Action α)} (mem : i ∈ setters actions)
    (key : UInt64) : (w.performAll actions).rivals i key < (setters actions).card := by
  let others := (w.performAll actions).writes.filter fun x => x.call ≠ i ∧ slot bits x.key = slot bits key
  have once : (others.map (·.call)).Nodup :=
    (h.linearizable actions).once.sublist (List.filter_sublist.map _)
  have inside : (others.map (·.call)).toFinset ⊆ (setters actions).erase i := by
    intro j there
    obtain ⟨x, written, rfl⟩ := List.mem_map.mp (List.mem_toFinset.mp there)
    obtain ⟨written, rival⟩ := List.mem_filter.mp written
    exact Finset.mem_erase.mpr ⟨(of_decide_eq_true rival).1, h.mem_setters (h.called_of_mem_writes written)⟩
  calc (w.performAll actions).rivals i key = others.length := List.countP_eq_length_filter
    _ = (others.map (·.call)).toFinset.card := by
      rw [List.toFinset_card_of_nodup once, List.length_map]
    _ ≤ ((setters actions).erase i).card := Finset.card_le_card inside
    _ < (setters actions).card := Finset.card_erase_lt_of_mem mem

end World

end Directory

end CoopSched
