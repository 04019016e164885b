import CoopSched.Proofs.Outside.Lasting
/-!
# The count of pending notifications

Notifications add to the count of a group, waits take from it, and a shutdown puts it to its largest value. The
count is kept in a word of 32 bits, where sums and differences wrap; `Call.word` says what is done to the word.

* As long as the group is not stopped, what was told is what was answered, what is still pending, and what came
  while the count was at its largest value and had no effect (`balance`).
* The word never wraps: it always has the value of the count (`toNat_word`).
* From a shutdown on the count stays at its largest value, whatever is called (`silent_performAll`).

`counted` says this of a new group and any calls.
-/

namespace CoopSched.Group

/-- A call that changes the count. -/
inductive Call where
  | notify
  /-- If there is nothing to answer, the wait times out. -/
  | wait
  | shutdown
  deriving DecidableEq, Repr

namespace Call

/-- What a call does to a group. -/
def apply (g : Group) : Call → Group
  | notify => g.notify
  | wait => g.wait
  | shutdown => g.shutdown

/-- What a call does to the word in which the count is kept. -/
def word (stopped : Bool) (count : UInt32) : Call → UInt32
  | notify => if count = -1 then count else count + 1
  | wait => if 0 < count ∧ stopped = false then count - 1 else count
  | shutdown => -1

theorem signal (c : Call) : Signal (apply · c) := by
  cases c with
  | notify => exact .notify
  | wait => exact .wait
  | shutdown => exact .shutdown

end Call

/-- Calls one after another. -/
def performAll (g : Group) (calls : List Call) : Group := calls.foldl Call.apply g

/-- How many waits find something to answer. -/
def answered (g : Group) : List Call → Nat
  | [] => 0
  | c :: calls => (if c = .wait ∧ 0 < g.pending then 1 else 0) + answered (c.apply g) calls

/-- How many notifications find the count at its largest value. -/
def lost (g : Group) : List Call → Nat
  | [] => 0
  | c :: calls => (if c = .notify ∧ g.pending = maxPending then 1 else 0) + lost (c.apply g) calls

variable {g : Group} {c : Call} {calls : List Call}

/-! ## 1. One call -/

theorem pending_apply_le (c : Call) (fits : g.pending ≤ maxPending) : (c.apply g).pending ≤ maxPending := by
  cases c with
  | notify => exact Nat.min_le_right _ _
  | wait =>
    show g.wait.pending ≤ maxPending
    rw [pending_wait]
    split <;> omega
  | shutdown => exact Nat.le_refl _

/-- The word has the value of the count after the call, if it had it before. -/
theorem toNat_word (c : Call) (fits : g.pending ≤ maxPending) :
    (c.word g.stopped (.ofNat g.pending)).toNat = (c.apply g).pending := by
  have value : (UInt32.ofNat g.pending).toNat = g.pending :=
    UInt32.toNat_ofNat_of_lt (Nat.lt_succ_of_le fits)
  generalize UInt32.ofNat g.pending = count at value
  cases c with
  | notify =>
    show (if count = -1 then count else count + 1).toNat = min (g.pending + 1) maxPending
    rw [← value] at fits ⊢
    split
    · next full => rw [full]; rfl
    · next room =>
      have other : count.toNat ≠ maxPending := fun full => room (UInt32.toNat_inj.mp full)
      have below : count.toNat + 1 ≤ maxPending := Nat.lt_of_le_of_ne fits other
      rw [UInt32.toNat_add, Nat.min_eq_left below]
      exact Nat.mod_eq_of_lt (Nat.lt_succ_of_le below)
  | wait =>
    show (if 0 < count ∧ g.stopped = false then count - 1 else count).toNat = g.wait.pending
    rw [pending_wait, ← value]
    by_cases stopped : g.stopped = true
    · rw [if_pos stopped, if_neg fun both => Bool.false_ne_true (both.2.symm.trans stopped)]
    · rw [if_neg stopped]
      by_cases told : 0 < count
      · have one : 1 ≤ count := by
          rw [UInt32.le_iff_toNat_le]
          exact UInt32.lt_iff_toNat_lt.mp told
        rw [if_pos ⟨told, Bool.eq_false_iff.mpr stopped⟩, UInt32.toNat_sub_of_le _ _ one]
        rfl
      · have zero : count.toNat = 0 := Nat.eq_zero_of_not_pos fun pos => told (UInt32.lt_iff_toNat_lt.mpr pos)
        rw [if_neg fun both => told both.1, zero]
  | shutdown => rfl

/-- One call adds to one side what it adds to the other. -/
theorem balance_apply (c : Call) (fits : g.pending ≤ maxPending) (running : (c.apply g).stopped = false) :
    g.pending + (if c = .notify then 1 else 0) =
      (if c = .wait ∧ 0 < g.pending then 1 else 0) +
        (if c = .notify ∧ g.pending = maxPending then 1 else 0) + (c.apply g).pending := by
  cases c with
  | notify =>
    have after : (Call.notify.apply g).pending = min (g.pending + 1) maxPending := rfl
    rw [after]
    by_cases full : g.pending = maxPending <;> simp [full] <;> omega
  | wait =>
    have unstopped : g.stopped = false := by
      rw [← Bool.not_eq_true]
      intro stopped
      have same : Call.wait.apply g = g := if_pos stopped
      rw [same, stopped] at running
      cases running
    have after : (Call.wait.apply g).pending = g.pending - 1 := by
      show g.wait.pending = _
      rw [pending_wait, unstopped, if_neg Bool.false_ne_true]
    rw [after]
    by_cases told : 0 < g.pending <;> simp [told] <;> omega
  | shutdown => cases running

/-! ## 2. All calls -/

theorem pending_performAll_le (calls : List Call) (fits : g.pending ≤ maxPending) :
    (g.performAll calls).pending ≤ maxPending := by
  induction calls generalizing g with
  | nil => exact fits
  | cons c calls ih => exact ih (pending_apply_le c fits)

theorem later_performAll (g : Group) (calls : List Call) : Later g (g.performAll calls) := by
  induction calls generalizing g with
  | nil => exact .refl g
  | cons c calls ih => exact (c.signal.later g).trans (ih (c.apply g))

/-- As long as the group is not stopped, nothing is lost but what comes to a full count. -/
theorem balance (calls : List Call) (fits : g.pending ≤ maxPending)
    (running : (g.performAll calls).stopped = false) :
    g.pending + calls.count .notify =
      g.answered calls + g.lost calls + (g.performAll calls).pending := by
  induction calls generalizing g with
  | nil => simp [answered, lost, performAll]
  | cons c calls ih =>
    have unstopped : (c.apply g).stopped = false := by
      rw [← Bool.not_eq_true]
      intro stopped
      have stays : (g.performAll (c :: calls)).stopped = true := (later_performAll _ calls).stopped stopped
      exact Bool.false_ne_true (running.symm.trans stays)
    have one := balance_apply c fits unstopped
    have rest := ih (pending_apply_le c fits) running
    have told : (c :: calls).count .notify = calls.count .notify + if c = .notify then 1 else 0 := by
      rw [List.count_cons]
      simp
    have whole : (g.performAll (c :: calls)) = (c.apply g).performAll calls := rfl
    rw [told, whole, answered, lost]
    omega

theorem performAll_append (g : Group) (calls later : List Call) :
    g.performAll (calls ++ later) = (g.performAll calls).performAll later :=
  List.foldl_append

/-- Nothing is lost before the count is full. -/
theorem lost_eq_zero (calls : List Call)
    (room : ∀ before after, calls = before ++ after → (g.performAll before).pending < maxPending) :
    g.lost calls = 0 := by
  induction calls generalizing g with
  | nil => rfl
  | cons c calls ih =>
    have here : ¬(c = .notify ∧ g.pending = maxPending) := fun full =>
      Nat.ne_of_lt (room [] (c :: calls) rfl) full.2
    rw [lost, if_neg here, ih]
    rintro before after rfl
    exact room (c :: before) after rfl

theorem silent_performAll (h : g.Silent) (calls : List Call) : (g.performAll calls).Silent :=
  (later_performAll g calls).silent h

/-! ## 3. A new group -/

/-- What is known of the count of a group after some calls. -/
structure Counted (g : Group) (calls : List Call) : Prop where
  /-- As long as the group is not stopped and the count has never been full, what was told is what was answered
  and what is still pending. -/
  conserved : (g.performAll calls).stopped = false →
    (∀ before after, calls = before ++ after → (g.performAll before).pending < maxPending) →
      calls.count .notify = g.answered calls + (g.performAll calls).pending
  /-- Whatever comes next, the count fits into its word and the word does not wrap. -/
  fits : (g.performAll calls).pending ≤ maxPending
  word : ∀ next : Call, (next.word (g.performAll calls).stopped (.ofNat (g.performAll calls).pending)).toNat =
    (g.performAll (calls ++ [next])).pending
  /-- A notification leaves a full count alone, and a wait leaves an empty one alone. -/
  full : (g.performAll calls).pending = maxPending → (g.performAll (calls ++ [.notify])).pending = maxPending
  empty : (g.performAll calls).pending = 0 → (g.performAll (calls ++ [.wait])).pending = 0
  /-- From a shutdown on the count is full for ever, and no wait blocks. -/
  silent : ∀ later, (g.performAll (calls ++ .shutdown :: later)).pending = maxPending ∧
    ¬(g.performAll (calls ++ .shutdown :: later)).Blocks

/-- Whatever is called on a group that has been neither told nor stopped yet. -/
theorem counted (name : String) (levels : Vector (List RoutineRef) maxPrio) (calls : List Call) :
    Counted { name, levels } calls := by
  have start : ({ name, levels } : Group).pending ≤ maxPending := Nat.zero_le _
  generalize new : ({ name, levels } : Group) = g at start
  have fits := pending_performAll_le calls start
  refine ⟨fun running room => ?_, fits, fun next => ?_, fun full => ?_, fun empty => ?_, fun later => ?_⟩
  · have balanced := balance calls start running
    rw [lost_eq_zero calls room, ← new] at balanced
    rw [← new]
    simpa using balanced
  · rw [performAll_append]
    exact toNat_word next fits
  · rw [performAll_append]
    show min ((g.performAll calls).pending + 1) maxPending = maxPending
    rw [full]
    exact Nat.min_eq_right (Nat.le_succ _)
  · rw [performAll_append]
    show (g.performAll calls).wait.pending = 0
    rw [pending_wait, empty]
    exact ite_self 0
  · have silent : (g.performAll (calls ++ .shutdown :: later)).Silent := by
      rw [performAll_append]
      exact silent_performAll (silent_shutdown _) later
    exact ⟨silent.pending, silent.not_blocks⟩

/-- Two notifications, three waits, and a shutdown with a wait after it. -/
example : performAll {} [.notify, .notify, .wait, .wait, .wait] = {} ∧
    (performAll {} [.notify, .shutdown, .wait]).pending = 4294967295 := ⟨rfl, rfl⟩

end CoopSched.Group
