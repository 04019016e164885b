import CoopSched.Proofs.Directory.Charges
/-!
# Attempts

Among any number of calls of `set` no call makes more attempts than there are calls, and it makes one if the
others are about other buckets (`attempts_bounded`).

Within one attempt a walk passes each entry of the chain at most once, even while other calls link new ones
(`Phase.progress`). Therefore a call has returned after a number of its own steps, whatever the others do.
-/

namespace CoopSched

namespace Chain

variable {α : Type} {chain : Chain α} {e : Entry α} {key : UInt64}

/-- A call of `set` takes no key away. -/
theorem countP_le_set (f : UInt64 → Bool) (chain : Chain α) (key : UInt64) (value : α) :
    chain.countP (f ·.key) ≤ (chain.set key value).countP (f ·.key) := by
  induction chain with
  | nil => exact Nat.zero_le _
  | cons entry rest ih =>
    rw [set_cons]
    split
    · rw [List.countP_cons, List.countP_cons]
      exact Nat.add_le_add_right ih _
    · split
      · rw [List.countP_cons, List.countP_cons]
      · exact (List.sublist_cons_self _ _).countP_le

theorem length_set_le (chain : Chain α) (key : UInt64) (value : α) :
    (chain.set key value).length ≤ chain.length + 1 := by
  induction chain with
  | nil => exact Nat.le_refl _
  | cons entry rest ih =>
    rw [set_cons]
    split
    · exact Nat.succ_le_succ ih
    · split
      · exact Nat.le_succ _
      · exact Nat.le_refl _

/-- Up to the key of an entry there are more entries than up to a smaller key. -/
theorem countP_lt_countP (mem : e ∈ chain) (less : key < e.key) :
    chain.countP (·.key ≤ key) < chain.countP (·.key ≤ e.key) := by
  obtain ⟨before, after, rfl⟩ := List.append_of_mem mem
  have more : ∀ part : Chain α, part.countP (·.key ≤ key) ≤ part.countP (·.key ≤ e.key) := fun part =>
    List.countP_mono_left fun x _ le =>
      decide_eq_true (UInt64.le_trans (of_decide_eq_true le) (UInt64.le_of_lt less))
  have here : ¬ e.key ≤ key := UInt64.not_le.mpr less
  have left := more before
  have right := more after
  simp only [List.countP_append, List.countP_cons, here, UInt64.le_refl, decide_true, decide_false, if_true]
  simp only [Bool.false_eq_true, if_false]
  omega

end Chain

namespace Directory

variable {bits : Nat} {α : Type}

/-! ## 1. Steps within an attempt -/

theorem countP_le_chainOf_set (f : UInt64 → Bool) (d : Directory bits α) (key other : UInt64) (value : α) :
    (d.chainOf other).countP (f ·.key) ≤ ((d.set key value).chainOf other).countP (f ·.key) := by
  rw [chainOf_set]
  split
  · next same =>
    rw [show d.chainOf other = d.chainOf key from congrArg d.buckets.get same.symm]
    exact Chain.countP_le_set f _ key value
  · exact Nat.le_refl _

theorem length_chainOf_setAll_le (d : Directory bits α) (calls : List (UInt64 × α)) (key : UInt64) :
    ((d.setAll calls).chainOf key).length ≤ (d.chainOf key).length + calls.length := by
  induction calls generalizing d with
  | nil => exact Nat.le_refl _
  | cons c calls ih =>
    have one : ((d.set c.1 c.2).chainOf key).length ≤ (d.chainOf key).length + 1 := by
      rw [chainOf_set]
      split
      · next same =>
        rw [show d.chainOf key = d.chainOf c.1 from congrArg d.buckets.get same.symm]
        exact Chain.length_set_le _ c.1 c.2
      · exact Nat.le_succ _
    have rest := ih (d.set c.1 c.2)
    rw [List.length_cons]
    exact Nat.le_trans rest (by omega)

/-- A call of `set` has made at most so many steps since its walk began: one for each entry that it has passed,
and one for each exchange that it has come to. -/
def Phase.progress (m : Memory bits α) (chain : Chain α) : Phase bits α → Nat
  | .walking _ (.head _) => 0
  | .walking _ (.next n) => chain.countP (·.key ≤ (m.node n).key)
  | .renewing key _ _ | .linking key _ _ _ => chain.countP (·.key < key) + 1
  | .replacing key _ _ _ => chain.countP (·.key < key) + 2
  | .reading .. | .returned .. => 0

theorem Phase.progress_le (m : Memory bits α) (chain : Chain α) (p : Phase bits α) :
    p.progress m chain ≤ chain.length + 2 := by
  have count : ∀ f : Entry α → Bool, chain.countP f ≤ chain.length := fun _ => List.countP_le_length
  cases p with
  | walking request l =>
    cases l with
    | head b => exact Nat.zero_le _
    | next n => exact Nat.le_trans (count _) (Nat.le_add_right _ 2)
  | renewing key value n => exact Nat.add_le_add (count _) (by decide)
  | linking key value l next => exact Nat.add_le_add (count _) (by decide)
  | replacing key value n old => exact Nat.add_le_add_right (count _) 2
  | reading key n => exact Nat.zero_le _
  | returned request answer => exact Nat.zero_le _

/-- Steps of other calls do not set a call back. -/
theorem Phase.progress_mono {m m' : Memory bits α} {chain chain' : Chain α} {p : Phase bits α}
    (sound : p.Sound m) (grows : m.Grows m')
    (more : ∀ f : UInt64 → Bool, chain.countP (f ·.key) ≤ chain'.countP (f ·.key)) :
    p.progress m chain ≤ p.progress m' chain' := by
  cases p with
  | walking request l =>
    cases l with
    | head b => exact Nat.zero_le _
    | next n =>
      show _ ≤ chain'.countP (·.key ≤ (m'.node n).key)
      rw [grows.key sound.1]
      exact more fun k => k ≤ (m.node n).key
  | renewing key value n => exact Nat.add_le_add_right (more fun k => k < key) 1
  | linking key value l next => exact Nat.add_le_add_right (more fun k => k < key) 1
  | replacing key value n old => exact Nat.add_le_add_right (more fun k => k < key) 2
  | reading key n => exact Nat.zero_le _
  | returned request answer => exact Nat.zero_le _

namespace Memory

variable {m : Memory bits α} {d : Directory bits α} {key : UInt64} {l : Link bits} {n q : NodeRef}
  {request : Request α}

namespace Holds

theorem exists_entry (h : m.Holds d) (there : m.InBucket (slot bits key) n) :
    ∃ e ∈ d.chainOf key, e.key = (m.node n).key := by
  obtain ⟨e, mem, entry⟩ := h.entry_of_inBucket there
  exact ⟨e, mem, key_of_stored? entry⟩

/-- The pointer of a node leads to a node with a greater key. -/
theorem key_lt_of_load (h : m.Holds d) (ordered : d.Ordered) (below : m.Below key (.next n))
    (load : m.load (.next n) = some q) : (m.node n).key < (m.node q).key := by
  obtain ⟨passed, rest, smaller, others, walk⟩ := h.walk ordered below
  have left := walk.left
  have ahead := walk.ahead
  have follows := walk.follows
  have rises := ordered.rises (slot bits key)
  rw [walk.chain] at rises
  obtain ⟨e, here, e_key⟩ : ∃ e ∈ smaller, e.key = (m.node n).key := by
    have last : n ∈ passed := by
      rcases List.eq_nil_or_concat passed with rfl | ⟨before, x, rfl⟩
      · exact nomatch walk.here
      · have same := walk.here
        rw [List.concat_eq_append, after_concat] at same
        cases same
        simp
    have mem : m.stored? n ∈ passed.map m.stored? := List.mem_map_of_mem last
    rw [left] at mem
    obtain ⟨e, inside, entry⟩ := List.mem_map.mp mem
    exact ⟨e, inside, key_of_stored? entry.symm⟩
  cases rest with
  | nil => exact nomatch load.symm.trans follows
  | cons x rest =>
    cases load.symm.trans follows.1
    obtain ⟨e', greater, rfl, entry, -⟩ := List.map_eq_cons_iff.mp ahead.symm
    rw [← e_key, ← key_of_stored? entry.symm]
    exact (List.pairwise_append.mp rises).2.2 e here e' List.mem_cons_self

theorem progress_walking_le (request : Request α) (below : m.Below key l) (chain : Chain α) :
    (Phase.walking request l).progress m chain ≤ chain.countP (·.key < key) := by
  cases l with
  | head b => exact Nat.zero_le _
  | next n =>
    exact List.countP_mono_left fun x _ le =>
      decide_eq_true (UInt64.lt_of_le_of_lt (of_decide_eq_true le) below.2)

/-- A walk that goes on has passed one more entry. -/
theorem progress_walking_lt (h : m.Holds d) (ordered : d.Ordered) (below : m.Below key l)
    (load : m.load l = some q) :
    (Phase.walking request l).progress m (d.chainOf key) <
      (Phase.walking request (.next q)).progress m (d.chainOf key) := by
  obtain ⟨e, mem, same⟩ := h.exists_entry (h.inBucket_of_load ordered below load)
  show _ < (d.chainOf key).countP (·.key ≤ (m.node q).key)
  rw [← same]
  cases l with
  | head b => exact List.countP_pos_iff.mpr ⟨e, mem, decide_eq_true (UInt64.le_refl _)⟩
  | next n => exact Chain.countP_lt_countP mem (same ▸ h.key_lt_of_load ordered below load)

/-- A walk reads a link. -/
theorem progress_walk (h : m.Holds d) (ordered : d.Ordered) {value : α} (below : m.Below key l) :
    (Phase.walking (.set key value) l).progress m (d.chainOf key) <
      (m.walk (.set key value) l).progress m (d.chainOf key) := by
  have bound := progress_walking_le (.set key value) below (d.chainOf key)
  rw [Memory.walk]
  split
  · exact Nat.lt_succ_of_le bound
  · next q load =>
    split
    · exact h.progress_walking_lt ordered below load
    · split <;> exact Nat.lt_succ_of_le bound

end Holds

end Memory

namespace World

variable {w : World bits α} {d : Directory bits α} {i j : Nat} {p q : Phase bits α} {key : UInt64}
  {value : α} {limit : Nat}

/-- A step of its own brings a call on, unless it fails or returns. -/
theorem Sound.progress_advance (h : w.Sound d) (here : w.calls i = some p)
    (request : p.request = .set key value) (goes : (w.advance i p).2.answer? = none)
    (room : ((w.directory d).chainOf key).length + 3 ≤ limit) :
    (w.advance i p).1 = w ∧ p.progress w.memory ((w.directory d).chainOf key) + 1 ≤
      (p.stale w.memory).toNat * limit +
        (w.advance i p).2.progress w.memory ((w.directory d).chainOf key) := by
  have sound := h.phases i p here
  have bound := p.progress_le w.memory ((w.directory d).chainOf key)
  cases p with
  | walking request' l =>
    cases request
    refine ⟨rfl, ?_⟩
    rw [show (Phase.walking (.set key value) l).stale w.memory = false from rfl, Bool.toNat_false,
      Nat.zero_mul, Nat.zero_add]
    exact h.holds.progress_walk h.ordered sound
  | reading key' n => cases request
  | renewing key' value' n =>
    cases request
    refine ⟨rfl, ?_⟩
    rw [show (Phase.renewing key value n).stale w.memory = false from rfl, Bool.toNat_false,
      Nat.zero_mul, Nat.zero_add]
    exact Nat.le_refl _
  | replacing key' value' n old =>
    have failed : samePointer (w.memory.node n).cell old = false := by
      rw [← Bool.not_eq_true]
      intro same
      rw [advance, Memory.exchangeCell, if_pos same] at goes
      cases goes
    have again : w.advance i (.replacing key' value' n old) = (w, (Request.set key' value').start) := by
      rw [advance, Memory.exchangeCell, failed]
      rfl
    rw [again, Phase.stale, failed, Bool.not_false, Bool.toNat_true, Nat.one_mul]
    exact ⟨rfl, by omega⟩
  | linking key' value' l next =>
    have failed : w.memory.load l ≠ next := by
      intro same
      rw [advance, Memory.exchangeLink, if_pos same] at goes
      cases goes
    have again : w.advance i (.linking key' value' l next) = (w, (Request.set key' value').start) := by
      rw [advance, Memory.exchangeLink, if_neg failed]
      rfl
    rw [again, Phase.stale, bne_iff_ne.mpr failed, Bool.toNat_true, Nat.one_mul]
    exact ⟨rfl, by omega⟩
  | returned request' answer => cases goes

/-- The chain of a key loses nothing. -/
theorem Sound.countP_le_perform (h : w.Sound d) (a : Action α) (f : UInt64 → Bool) (key : UInt64) :
    ((w.directory d).chainOf key).countP (f ·.key) ≤
      (((w.perform a).directory d).chainOf key).countP (f ·.key) := by
  rcases (h.moves a).writes with same | ⟨j, other, value, -, more, -⟩
  · rw [directory, directory, same]
  · have set : (w.perform a).directory d = (w.directory d).set other value := by
      rw [directory, more]
      exact directory_write w w.memory ⟨j, other, value⟩ d
    rw [set]
    exact countP_le_chainOf_set f _ other key value

theorem Sound.length_le_perform (h : w.Sound d) (a : Action α) (key : UInt64) :
    ((w.directory d).chainOf key).length ≤ (((w.perform a).directory d).chainOf key).length := by
  have count := h.countP_le_perform a (fun _ => true) key
  rwa [List.countP_true] at count

theorem Sound.length_le_performAll (h : w.Sound d) (actions : List (Action α)) (key : UInt64) :
    ((w.directory d).chainOf key).length ≤ (((w.performAll actions).directory d).chainOf key).length := by
  induction actions generalizing w with
  | nil => exact Nat.le_refl _
  | cons a rest ih => exact Nat.le_trans (h.length_le_perform a key) (ih (h.perform a))

/-- One action, while a call of `set` is under way. -/
theorem Sound.progress_perform (h : w.Sound d) (here : w.calls i = some p)
    (request : p.request = .set key value) (a : Action α) (there : (w.perform a).calls i = some q)
    (goes : q.answer? = none) (room : ((w.directory d).chainOf key).length + 3 ≤ limit) :
    (a.isStep i).toNat + p.progress w.memory ((w.directory d).chainOf key) ≤
      (w.fails i a).toNat * limit +
        q.progress (w.perform a).memory (((w.perform a).directory d).chainOf key) := by
  have others : a.isStep i = false → w.calls i = some q → w.memory.Grows (w.perform a).memory →
      (a.isStep i).toNat + p.progress w.memory ((w.directory d).chainOf key) ≤
        (w.fails i a).toNat * limit +
          q.progress (w.perform a).memory (((w.perform a).directory d).chainOf key) := by
    intro other same grows
    cases here.symm.trans same
    rw [fails, other, Bool.false_and, Bool.toNat_false, Nat.zero_mul, Nat.zero_add, Nat.zero_add]
    exact p.progress_mono (h.phases i p here) grows fun f => h.countP_le_perform a f key
  cases a with
  | begin j request' =>
    cases free : w.calls j with
    | some _ =>
      have same : w.perform (.begin j request') = w := by simp only [World.perform, free]
      rw [same] at there
      exact others rfl there (by rw [same]; exact .refl _)
    | none =>
      have begun : w.perform (.begin j request') = w.put j request'.start := by
        simp only [World.perform, free]
      have other : i ≠ j := by
        rintro rfl
        cases free.symm.trans here
      rw [begun, calls_put, if_neg other] at there
      exact others rfl there (by rw [begun]; exact .refl _)
  | step j =>
    rcases eq_or_ne j i with rfl | other
    · rw [perform_step here, calls_put, if_pos rfl] at there
      cases there
      obtain ⟨same, brought⟩ := h.progress_advance here request goes room
      rw [perform_step here, fails, stale, here, Action.isStep, beq_self_eq_true, Bool.true_and, same,
        directory_put, Nat.add_comm]
      exact brought
    · have idle : (Action.step j : Action α).isStep i = false := beq_eq_false_iff_ne.mpr other
      cases stands : w.calls j with
      | none =>
        have same : w.perform (.step j) = w := perform_step_of_absent stands
        rw [same] at there
        exact others idle there (by rw [same]; exact .refl _)
      | some p' =>
        have grows : w.memory.Grows (w.advance j p').1.memory := by
          have writes := h.writes_advance stands
          generalize (w.advance j p').1 = w' at writes ⊢
          cases writes with
          | nothing => exact .refl _
          | one request spares grows => exact grows
        have stepped := perform_step stands
        rw [stepped, calls_put, if_neg (Ne.symm other), calls_advance] at there
        exact others idle there (stepped ▸ grows)

theorem Sound.keeps_returned (h : w.Sound d) (actions : List (Action α)) {request : Request α}
    {answer : Answer α} (returned : w.Returned i request answer) :
    (w.performAll actions).Returned i request answer := by
  induction actions generalizing w with
  | nil => exact returned
  | cons a rest ih => exact ih (h.perform a) ((h.moves a).keeps_returned returned)

/-- In the course of some actions, at whose end the call is still under way. -/
theorem Sound.steps_le (h : w.Sound d) (here : w.calls i = some p) (request : p.request = .set key value)
    (actions : List (Action α)) (running : (w.performAll actions).Running i (.set key value))
    (room : (((w.performAll actions).directory d).chainOf key).length + 3 ≤ limit) :
    actions.countP (·.isStep i) + p.progress w.memory ((w.directory d).chainOf key) <
      (w.failures i actions + 1) * limit := by
  induction actions generalizing w p with
  | nil =>
    have bound := p.progress_le w.memory ((w.directory d).chainOf key)
    rw [failures, Nat.zero_add, Nat.one_mul, List.countP_nil, Nat.zero_add]
    exact Nat.lt_of_le_of_lt bound (Nat.lt_of_lt_of_le (Nat.lt_succ_self _) room)
  | cons a rest ih =>
    obtain ⟨q, there, same, -⟩ := (h.moves a).keeps here
    have goes : q.answer? = none := by
      cases answered : q.answer? with
      | none => rfl
      | some answer =>
        have returned : (w.perform a).Returned i (.set key value) answer :=
          ⟨q, there, same.trans request, answered⟩
        exact absurd running ((h.perform a).keeps_returned rest returned).not_running
    have long : ((w.directory d).chainOf key).length + 3 ≤ limit :=
      Nat.le_trans (Nat.add_le_add_right (h.length_le_performAll (a :: rest) key) 3) room
    have one := h.progress_perform here request a there goes long
    have later := ih (h.perform a) there (same.trans request) running room
    have counted : (a :: rest).countP (·.isStep i) = (a.isStep i).toNat + rest.countP (·.isStep i) := by
      rw [List.countP_cons, Nat.add_comm]
      cases a.isStep i <;> rfl
    have split : ((w.fails i a).toNat + failures i (w.perform a) rest + 1) * limit =
        (w.fails i a).toNat * limit + (failures i (w.perform a) rest + 1) * limit := by
      rw [Nat.add_assoc, Nat.add_mul]
    rw [counted, failures, split]
    omega

/-! ## 2. All calls together -/

theorem failures_append (w : World bits α) (i : Nat) (before after : List (Action α)) :
    w.failures i (before ++ after) = w.failures i before + (w.performAll before).failures i after := by
  induction before generalizing w with
  | nil => rw [failures, Nat.zero_add]; rfl
  | cons a rest ih => rw [List.cons_append, failures, failures, ih, Nat.add_assoc]; rfl

/-- The record only grows. -/
theorem Sound.writes_performAll (h : w.Sound d) (actions : List (Action α)) :
    ∃ more, (w.performAll actions).writes = w.writes ++ more := by
  induction actions generalizing w with
  | nil => exact ⟨[], (List.append_nil _).symm⟩
  | cons a rest ih =>
    obtain ⟨later, last⟩ := ih (h.perform a)
    rcases (h.moves a).writes with same | ⟨j, other, value, -, one, -⟩
    · exact ⟨later, last.trans (congrArg (· ++ later) same)⟩
    · exact ⟨⟨j, other, value⟩ :: later, by
        rw [show w.performAll (a :: rest) = (w.perform a).performAll rest from rfl, last, one,
          List.append_assoc, List.singleton_append]⟩

theorem Begins.failures_le (h : w.Begins d) {actions : List (Action α)}
    (called : (w.performAll actions).Called i key value) :
    w.failures i actions ≤ (w.performAll actions).rivals i key := by
  obtain ⟨p, there, request⟩ := called
  have keyed : ∀ q, (w.performAll actions).calls i = some q → q.request.key = key := by
    intro q here
    cases there.symm.trans here
    rw [request]
    rfl
  have charged := h.sound.charge_all actions keyed
  have fresh : w.stale i = false := by
    rw [stale, h.calls i]
    rfl
  rw [fresh, Bool.toNat_false, Nat.zero_add] at charged
  omega

theorem Begins.attempts_eq (h : w.Begins d) {actions : List (Action α)}
    (called : (w.performAll actions).Called i key value) :
    w.attempts i actions = w.failures i actions + 1 := by
  obtain ⟨p, there, -⟩ := called
  have balance := World.attempts_eq w i actions
  rwa [there, h.calls i] at balance

theorem Begins.length_writes_le (h : w.Begins d) (actions : List (Action α)) :
    (w.performAll actions).writes.length ≤ (setters actions).card := by
  have inside : ((w.performAll actions).writes.map (·.call)).toFinset ⊆ setters actions := by
    intro j there
    obtain ⟨x, written, rfl⟩ := List.mem_map.mp (List.mem_toFinset.mp there)
    exact h.mem_setters (h.called_of_mem_writes written)
  have count := Finset.card_le_card inside
  rwa [List.toFinset_card_of_nodup (h.linearizable actions).once, List.length_map] at count

/-- What any number of calls of `set` cost each other. -/
structure Bounded (w : World bits α) (d : Directory bits α) (actions : List (Action α)) : Prop where
  /-- No call makes more attempts than there are calls. -/
  attempts : ∀ i key value, (w.performAll actions).Called i key value →
    w.attempts i actions ≤ (setters actions).card
  /-- A call that has made so many steps of its own has returned, whatever the others have done. -/
  returns : ∀ {before after : List (Action α)}, actions = before ++ after → ∀ i key value,
    (w.performAll before).Called i key value →
      (setters actions).card * ((d.chainOf key).length + (setters actions).card + 3) ≤
        after.countP (·.isStep i) →
      (w.performAll actions).Returned i (.set key value) .done
  /-- If an exchange fails, another call has exchanged a pointer of the same bucket since the attempt began. -/
  charged : ∀ {before between after : List (Action α)} {i : Nat},
    actions = before ++ between ++ .step i :: after →
    ∀ key value, (w.performAll before).calls i = some (Request.set key value).start →
      (w.performAll (before ++ between)).fails i (.step i) = true →
      ∃ more, (w.performAll (before ++ between)).writes = (w.performAll before).writes ++ more ∧
        ∃ x ∈ more, x.call ≠ i ∧ slot bits x.key = slot bits key
  /-- No exchange fails if the other calls are about other buckets. -/
  apart : ∀ i key value, (w.performAll actions).Called i key value →
    (∀ j other value', j ≠ i → (w.performAll actions).Called j other value' →
      slot bits other ≠ slot bits key) →
    w.failures i actions = 0 ∧ w.attempts i actions = 1

theorem Begins.failures_lt (h : w.Begins d) {actions : List (Action α)}
    (called : (w.performAll actions).Called i key value) :
    w.failures i actions < (setters actions).card :=
  Nat.lt_of_le_of_lt (h.failures_le called) (h.rivals_lt (h.mem_setters called) key)

theorem Begins.returns (h : w.Begins d) (before after : List (Action α))
    (called : (w.performAll before).Called i key value)
    (enough : (setters (before ++ after)).card *
      ((d.chainOf key).length + (setters (before ++ after)).card + 3) ≤ after.countP (·.isStep i)) :
    (w.performAll (before ++ after)).Returned i (.set key value) .done := by
  let n := (setters (before ++ after)).card
  have sound := h.sound.performAll before
  obtain ⟨p, here, request⟩ := called
  obtain ⟨q, there, same⟩ := sound.keeps_performAll after here
  rw [← performAll_append] at there
  have asked : q.request = .set key value := same.trans request
  cases answered : q.answer? with
  | some answer =>
    have returned : (w.performAll (before ++ after)).Returned i (.set key value) answer :=
      ⟨q, there, asked, answered⟩
    obtain ⟨_, _, -, -, done, -⟩ := (h.linearizable _).moment i _ _ returned
    exact done ▸ returned
  | none =>
    -- The call has used up its attempts, and all steps that they allow for.
    exfalso
    have failures : (w.performAll before).failures i after < n := by
      have total := h.failures_lt ⟨q, there, asked⟩
      rw [failures_append] at total
      exact Nat.lt_of_le_of_lt (Nat.le_add_left _ _) total
    have room : (((w.performAll (before ++ after)).directory d).chainOf key).length + 3 ≤
        (d.chainOf key).length + n + 3 := by
      have grown := length_chainOf_setAll_le d
        ((w.performAll (before ++ after)).writes.map fun x => (x.key, x.value)) key
      rw [List.length_map] at grown
      have few := h.length_writes_le (before ++ after)
      exact Nat.add_le_add_right (Nat.le_trans grown (Nat.add_le_add_left few _)) 3
    have running : (w.performAll (before ++ after)).Running i (.set key value) := ⟨q, there, asked, answered⟩
    rw [performAll_append] at running room
    have steps := sound.steps_le here request after running room
    have most := Nat.mul_le_mul_right ((d.chainOf key).length + n + 3) (Nat.succ_le_of_lt failures)
    exact absurd enough (Nat.not_le.mpr
      (Nat.lt_of_le_of_lt (Nat.le_add_right _ _) (Nat.lt_of_lt_of_le steps most)))

theorem Sound.charged (h : w.Sound d) (between : List (Action α))
    (start : w.calls i = some (Request.set key value).start)
    (fails : (w.performAll between).fails i (.step i) = true) :
    ∃ more, (w.performAll between).writes = w.writes ++ more ∧
      ∃ x ∈ more, x.call ≠ i ∧ slot bits x.key = slot bits key := by
  obtain ⟨more, writes⟩ := h.writes_performAll between
  have keyed : ∀ p, (w.performAll between).calls i = some p → p.request.key = key := by
    intro p there
    obtain ⟨p', here, same⟩ := h.keeps_performAll between start
    cases here.symm.trans there
    rw [same]
    rfl
  have charged := h.charge_all between keyed
  have fresh : w.stale i = false := by
    rw [stale, start]
    rfl
  have about : (w.performAll between).stale i = true := by
    rwa [World.fails, Action.isStep, beq_self_eq_true, Bool.true_and] at fails
  have split : (w.performAll between).rivals i key =
      w.rivals i key + more.countP fun x => x.call ≠ i ∧ slot bits x.key = slot bits key := by
    rw [rivals, writes, List.countP_append]
    rfl
  rw [fresh, about, Bool.toNat_true, Bool.toNat_false] at charged
  obtain ⟨x, mem, rival⟩ := List.countP_pos_iff.mp
    (show 0 < more.countP fun x => x.call ≠ i ∧ slot bits x.key = slot bits key by omega)
  exact ⟨more, writes, x, mem, of_decide_eq_true rival⟩

/-- The attempts of all calls of `set` are bounded, whatever the order of their steps. -/
theorem Begins.attempts_bounded (h : w.Begins d) (actions : List (Action α)) : w.Bounded d actions where
  attempts i key value called := by
    rw [h.attempts_eq called]
    exact h.failures_lt called
  returns := by
    rintro before after rfl i key value called enough
    exact h.returns before after called enough
  charged := by
    rintro before between after i rfl key value start fails
    rw [performAll_append] at fails ⊢
    exact (h.sound.performAll before).charged between start fails
  apart i key value called others := by
    have none : (w.performAll actions).rivals i key = 0 := by
      refine List.countP_eq_zero.mpr fun x written rival => ?_
      obtain ⟨other, same⟩ := of_decide_eq_true rival
      exact others x.call x.key x.value other (h.called_of_mem_writes written) same
    have never : w.failures i actions = 0 := Nat.le_zero.mp (none ▸ h.failures_le called)
    exact ⟨never, by rw [h.attempts_eq called, never]⟩

/-- The call of `set` with the number 0 needs two attempts, and the call with the number 1 only one. -/
theorem race_attempts_bounded :
    oneKey.Begins (empty.set 5 50) ∧ oneKey.Bounded (empty.set 5 50) race ∧
      oneKey.attempts 0 race = 2 ∧ oneKey.attempts 1 race = 1 ∧ (setters race).card = 2 :=
  ⟨oneKey_begins, oneKey_begins.attempts_bounded race, by decide, by decide, by decide⟩

end World

end Directory

end CoopSched
