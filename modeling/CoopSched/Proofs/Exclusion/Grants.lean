import CoopSched.Proofs.Exclusion.Deeds
/-!
# At most one thread holds a routine

The invariant of the machine is an agreement: a thread that is there holds exactly the routines whose
holder is its token, and every holder is the token of a thread that is there (`Agreement`). It is kept
because a routine is granted only while it has no holder, because nobody lets go of what another holds,
and because searches and removals hold what they release (`Possesses`).
-/

namespace CoopSched.Exclusion

open CoopSched.System (Check Look Search Unlinking)

variable {κ : Type} {w w₀ : World κ} {n m : Nat} {a b : Worker} {r : RoutineRef}

/-! ## 1. The invariant -/

/-- What a thread holds in the middle of what it is doing. -/
def Possesses (holds : RoutineRef → Prop) : Activity → Prop
  | .searching _ (.examining r _ _ _) => holds r
  | .searching _ (.dropping r _ _) => holds r
  | .removing _ _ (.erasing _ _ x) => holds x
  | .removing _ _ (.releasing x) => holds x
  | _ => True

/-- Threads, tokens and holders agree. -/
structure Agreement (w : World κ) : Prop where
  distinct : ∀ {n m a b}, w.workers n = some a → w.workers m = some b → a.token = b.token → n = m
  live : ∀ {n r}, w.holds n r → ∃ a, w.workers n = some a
  agrees : ∀ {n a}, w.workers n = some a →
    ∀ r, w.holds n r ↔ (w.sys.routine r).holder = some a.token
  owned : ∀ {r t}, (w.sys.routine r).holder = some t → ∃ n a, w.workers n = some a ∧ a.token = t
  possesses : ∀ {n a}, w.workers n = some a → Possesses (w.holds n) a.doing

/-- The holder after a deed of one's own. -/
theorem Deed.holds_iff (deed : Deed) {t : Thread} {x : RoutineRef} {before : Option Thread}
    {held : Prop} (agree : held ↔ before = some t) :
    deed.holds x (before = none) held ↔ deed.holder t x before = some t := by
  cases deed with
  | neither => exact agree
  | tries r =>
    show held ∨ r = x ∧ before = none ↔ (if r = x ∧ before = none then some t else before) = some t
    split
    · next granted => exact ⟨fun _ => rfl, fun _ => .inr granted⟩
    · next refused => exact ⟨fun h => agree.mp (h.resolve_right refused), fun h => .inl (agree.mpr h)⟩
  | drops r =>
    show held ∧ r ≠ x ↔ (if r = x then none else before) = some t
    split
    · next same => exact ⟨fun h => absurd same h.2, nofun⟩
    · next other => exact ⟨fun h => agree.mp h.1, fun h => ⟨agree.mpr h, other⟩⟩

/-- Nobody else becomes or ceases to be the holder by a deed, if it only drops what its thread holds. -/
theorem Deed.holder_eq_iff_of_ne (deed : Deed) {t u : Thread} (other : u ≠ t) {x : RoutineRef}
    {before : Option Thread} (drops : deed = .drops x → before = some t) :
    deed.holder t x before = some u ↔ before = some u := by
  cases deed with
  | neither => exact Iff.rfl
  | tries r =>
    show (if r = x ∧ before = none then some t else before) = some u ↔ _
    split
    · next granted =>
      rw [granted.2]
      exact ⟨fun same => absurd (Option.some.inj same).symm other, nofun⟩
    · exact Iff.rfl
  | drops r =>
    show (if r = x then none else before) = some u ↔ _
    split
    · next same =>
      rw [drops (congrArg Deed.drops same)]
      exact ⟨nofun, fun same => absurd (Option.some.inj same).symm other⟩
    · exact Iff.rfl

/-- A thread that holds a routine holds it after a deed other than to drop it. -/
theorem Deed.holds_of_ne (deed : Deed) {x : RoutineRef} {free held : Prop} (keeps : deed ≠ .drops x)
    (h : held) : deed.holds x free held := by
  cases deed with
  | neither => exact h
  | tries r => exact .inl h
  | drops r => exact ⟨h, fun same => keeps (congrArg Deed.drops same)⟩

/-- A thread comes to hold only what was free. -/
theorem Deed.free_of_holds (deed : Deed) {x : RoutineRef} {free held : Prop} (new : ¬ held)
    (h : deed.holds x free held) : free := by
  cases deed with
  | neither => exact absurd h new
  | tries r => exact (h.resolve_left new).2
  | drops r => exact absurd h.1 new

theorem World.setWorker_self (w : World κ) (n : Nat) (worker : Option Worker) :
    w.setWorker n worker n = worker := if_pos rfl

theorem World.setWorker_of_ne (w : World κ) (hm : m ≠ n) (worker : Option Worker) :
    w.setWorker n worker m = w.workers m := if_neg hm

/-- Who is there is the thread that was set, or was there before. -/
theorem World.setWorker_eq_some {worker : Option Worker} (there : w.setWorker n worker m = some b) :
    m = n ∧ worker = some b ∨ m ≠ n ∧ w.workers m = some b := by
  rcases Decidable.em (m = n) with rfl | other
  · exact .inl ⟨rfl, (w.setWorker_self m worker).symm.trans there⟩
  · exact .inr ⟨other, (w.setWorker_of_ne other worker).symm.trans there⟩

section Possessions

variable [Program κ]

/-- After a step of a search the thread holds what it examines or is about to release. -/
theorem possesses_search {t : Thread} {holds : RoutineRef → Prop} {s : System κ} (g : GroupRef)
    (step : Search) (before : Possesses holds (.searching g step)) :
    ∀ next, (s.search t g step).2 = .inl next →
      Possesses (fun x => ((Activity.searching g step).deed s).holds x ((s.routine x).holder = none)
        (holds x)) (.searching g next) := by
  intro next goes
  cases step with
  | opening =>
    simp only [System.search] at goes
    split at goes <;> cases goes
    exact trivial
  | passing levels slots =>
    cases slots with
    | nil =>
      cases levels with
      | nil => cases goes
      | cons level levels =>
        cases goes
        exact trivial
    | cons r slots =>
      simp only [System.search] at goes
      split at goes
      · next outcome =>
        cases goes
        exact .inr ⟨rfl, (acquire_snd_iff s t r).mp (congrArg Prod.snd outcome)⟩
      · cases goes
        exact trivial
  | examining r step levels slots =>
    simp only [System.search] at goes
    split at goes
    · cases goes
      exact before
    · cases goes
    · cases goes
      exact before
  | dropping r levels slots =>
    cases goes
    exact trivial

/-- After a step of a removal the thread holds the routine whose slot it takes away. -/
theorem possesses_unlink {t : Thread} {holds : RoutineRef → Prop} {s : System κ} (g : GroupRef)
    (r : RoutineRef) (step : Unlinking) (before : Possesses holds (.removing g r step)) :
    ∀ next, (s.unlink t g r step).2 = .inl next →
      Possesses (fun x => ((Activity.removing g r step).deed s).holds x ((s.routine x).holder = none)
        (holds x)) (.removing g r next) := by
  intro next goes
  cases step with
  | finding =>
    simp only [System.unlink] at goes
    split at goes <;> cases goes
    exact trivial
  | stopping level position target =>
    cases goes
    exact trivial
  | acquiring level position target =>
    simp only [System.unlink] at goes
    split at goes
    · next outcome =>
      cases goes
      exact .inr ⟨rfl, (acquire_snd_iff s t target).mp (congrArg Prod.snd outcome)⟩
    · cases goes
      exact trivial
  | erasing level position target =>
    cases goes
    exact before
  | releasing target => cases goes

omit [Program κ] in
/-- A turn is begun only by the holder. -/
theorem holder_of_check {t : Thread} {s s' : System κ} {step : Check}
    (passed : s.check t r step = (s', .inr true)) : (s.routine r).holder = some t := by
  cases step with
  | stopFlag =>
    simp only [System.check] at passed
    split at passed <;> cases passed
  | state =>
    simp only [System.check] at passed
    split at passed <;> cases passed
  | holder =>
    simp only [System.check] at passed
    split at passed
    · cases passed
    · next held => exact Decidable.not_not.mp held

end Possessions

theorem World.Obeys.inside [Program κ] {doing : Activity} (obeys : w.Obeys n doing) :
    ∀ x, doing.deed w.sys = .tries x → x < w.sys.routines.size := by
  intro x tries
  unfold World.Obeys at obeys
  rw [tries] at obeys
  exact obeys

namespace Agreement

/-- Nobody holds a routine exactly if it has no holder. -/
theorem free_iff (h : Agreement w) (r : RoutineRef) :
    (∀ n, ¬ w.holds n r) ↔ (w.sys.routine r).holder = none := by
  refine ⟨fun free => ?_, fun free n held => ?_⟩
  · cases holder : (w.sys.routine r).holder with
    | none => rfl
    | some t =>
      obtain ⟨n, a, there, rfl⟩ := h.owned holder
      exact absurd ((h.agrees there r).mpr holder) (free n)
  · obtain ⟨a, there⟩ := h.live held
    exact absurd (free.symm.trans ((h.agrees there r).mp held)) nofun

/-- At most one thread holds a routine. -/
theorem alone (h : Agreement w) (hn : w.holds n r) (hm : w.holds m r) : n = m := by
  obtain ⟨a, first⟩ := h.live hn
  obtain ⟨b, second⟩ := h.live hm
  have one := (h.agrees first r).mp hn
  have two := (h.agrees second r).mp hm
  exact h.distinct first second (Option.some.inj (one.symm.trans two))

/-! ## 2. Comings and goings -/

/-- The tokens of other threads are still different. -/
theorem distinct_setWorker (h : Agreement w) (n : Nat) {t : Thread} {doing : Activity}
    (fresh : ∀ m b, m ≠ n → w.workers m = some b → b.token ≠ t) {i j : Nat} {a b : Worker}
    (first : w.setWorker n (some ⟨t, doing⟩) i = some a)
    (second : w.setWorker n (some ⟨t, doing⟩) j = some b) (same : a.token = b.token) : i = j := by
  rcases World.setWorker_eq_some first with ⟨hi, mine⟩ | ⟨hi, one⟩
  · cases mine
    rcases World.setWorker_eq_some second with ⟨hj, -⟩ | ⟨hj, two⟩
    · exact hi.trans hj.symm
    · exact absurd same.symm (fresh j b hj two)
  · rcases World.setWorker_eq_some second with ⟨hj, mine⟩ | ⟨-, two⟩
    · cases mine
      exact absurd same (fresh i a hi one)
    · exact h.distinct one two same

/-- The tokens of other threads are not that of a thread that is there. -/
theorem fresh_of_there (h : Agreement w) (there : w.workers n = some a) :
    ∀ m b, m ≠ n → w.workers m = some b → b.token ≠ a.token :=
  fun _ _ other second same => other (h.distinct second there same)

/-- A thread comes, or begins with something else. -/
theorem place (h : Agreement w) {c : Worker}
    (fresh : ∀ m b, m ≠ n → w.workers m = some b → b.token ≠ c.token)
    (before : ∀ a, w.workers n = some a → a.token = c.token)
    (agrees : ∀ r, w.holds n r ↔ (w.sys.routine r).holder = some c.token)
    (possesses : Possesses (w.holds n) c.doing) :
    Agreement { w with workers := w.setWorker n (some c) } where
  distinct := h.distinct_setWorker n fresh
  live {m r} held := by
    by_cases hm : m = n
    · exact ⟨c, (congrArg _ hm).trans (w.setWorker_self n _)⟩
    · obtain ⟨b, there⟩ := h.live held
      exact ⟨b, (w.setWorker_of_ne hm _).trans there⟩
  agrees there r := by
    rcases World.setWorker_eq_some there with ⟨rfl, mine⟩ | ⟨-, there⟩
    · cases mine
      exact agrees r
    · exact h.agrees there r
  owned {r t} holder := by
    obtain ⟨m, b, there, token⟩ := h.owned holder
    by_cases hm : m = n
    · subst hm
      exact ⟨m, c, w.setWorker_self m _, (before b there).symm.trans token⟩
    · exact ⟨m, b, (w.setWorker_of_ne hm _).trans there, token⟩
  possesses there := by
    rcases World.setWorker_eq_some there with ⟨rfl, mine⟩ | ⟨-, there⟩
    · cases mine
      exact possesses
    · exact h.possesses there

theorem start (h : Agreement w) (absent : w.workers n = none) {t : Thread}
    (fresh : ∀ m b, w.workers m = some b → b.token ≠ t) :
    Agreement { w with workers := w.setWorker n (some ⟨t, .idle⟩) } := by
  refine h.place (fun m b _ there => fresh m b there) (fun a there => ?_) (fun r => ?_) trivial
  · exact absurd (absent.symm.trans there) nofun
  · refine ⟨fun held => ?_, fun holder => ?_⟩
    · obtain ⟨a, there⟩ := h.live held
      exact absurd (absent.symm.trans there) nofun
    · obtain ⟨m, b, there, token⟩ := h.owned holder
      exact absurd token (fresh m b there)

theorem begin (h : Agreement w) {t : Thread} (there : w.workers n = some ⟨t, .idle⟩)
    (operation : Operation) :
    Agreement { w with workers := w.setWorker n (some ⟨t, operation.activity⟩) } := by
  have fresh := h.fresh_of_there there
  have agrees := h.agrees there
  refine h.place fresh (fun a same => ?_) agrees ?_
  · cases there.symm.trans same
    rfl
  · cases operation <;> exact trivial

theorem finish (h : Agreement w) (nothing : ∀ r, ¬ w.holds n r) :
    Agreement { w with workers := w.setWorker n none } := by
  have others : ∀ {m b}, w.setWorker n none m = some b → w.workers m = some b := by
    intro m b there
    rcases World.setWorker_eq_some there with ⟨-, mine⟩ | ⟨-, there⟩
    · cases mine
    · exact there
  have stays : ∀ {m b}, m ≠ n → w.workers m = some b → w.setWorker n none m = some b :=
    fun hm there => (w.setWorker_of_ne hm none).trans there
  refine ⟨fun first second => h.distinct (others first) (others second), fun {m r} held => ?_,
    fun there => h.agrees (others there), fun {r t} holder => ?_, fun there => h.possesses (others there)⟩
  · obtain ⟨b, there⟩ := h.live held
    refine ⟨b, stays ?_ there⟩
    rintro rfl
    exact nothing r held
  · obtain ⟨m, b, there, token⟩ := h.owned holder
    refine ⟨m, b, stays ?_ there, token⟩
    rintro rfl
    rw [← token] at holder
    exact nothing r ((h.agrees there r).mpr holder)

/-! ## 3. Steps -/

/-- A thread does a deed, and drops by it only what it holds. -/
theorem act (h : Agreement w) (there : w.workers n = some a) {deed : Deed} {s : System κ}
    {doing : Activity}
    (drops : ∀ x, deed = .drops x → w.holds n x)
    (holder : ∀ x, (s.routine x).holder = deed.holder a.token x (w.sys.routine x).holder)
    (possesses : Possesses (fun x => deed.holds x ((w.sys.routine x).holder = none) (w.holds n x))
      doing) :
    Agreement
      { sys := s
        workers := w.setWorker n (some { a with doing })
        holds := fun m x =>
          if m = n then deed.holds x ((w.sys.routine x).holder = none) (w.holds n x)
          else w.holds m x } where
  distinct first second same := by
    have fresh := h.fresh_of_there there
    exact h.distinct_setWorker n fresh first second same
  live {m r} held := by
    by_cases hm : m = n
    · exact ⟨{ a with doing }, (congrArg _ hm).trans (w.setWorker_self n _)⟩
    · have held : w.holds m r := (if_neg hm).mp held
      obtain ⟨b, second⟩ := h.live held
      exact ⟨b, (w.setWorker_of_ne hm _).trans second⟩
  agrees {m b} second x := by
    show (if m = n then _ else _) ↔ (s.routine x).holder = _
    rw [holder x]
    rcases World.setWorker_eq_some second with ⟨rfl, mine⟩ | ⟨hm, second⟩
    · cases mine
      rw [if_pos rfl]
      exact deed.holds_iff (h.agrees there x)
    · have other := h.fresh_of_there there m b hm second
      rw [if_neg hm, deed.holder_eq_iff_of_ne other fun same => (h.agrees there x).mp (drops x same)]
      exact h.agrees second x
  owned {x t} held := by
    have held : deed.holder a.token x (w.sys.routine x).holder = some t := (holder x).symm.trans held
    by_cases mine : t = a.token
    · exact ⟨n, { a with doing }, w.setWorker_self n _, mine.symm⟩
    · -- A holder that is somebody else was so before the deed.
      rw [deed.holder_eq_iff_of_ne mine fun same => (h.agrees there x).mp (drops x same)] at held
      obtain ⟨m, b, second, token⟩ := h.owned held
      refine ⟨m, b, (w.setWorker_of_ne ?_ _).trans second, token⟩
      rintro rfl
      cases there.symm.trans second
      exact mine token.symm
  possesses second := by
    rcases World.setWorker_eq_some second with ⟨rfl, mine⟩ | ⟨hm, second⟩
    · cases mine
      simp only [if_true]
      exact possesses
    · simp only [if_neg hm]
      exact h.possesses second

variable [Program κ]

/-- What a thread drops it holds: by the rules, or because it is in the middle of something that does. -/
theorem holds_of_drops (h : Agreement w) (there : w.workers n = some a) (obeys : w.Obeys n a.doing)
    {x : RoutineRef} (drops : a.doing.deed w.sys = .drops x) : w.holds n x := by
  have possesses := h.possesses there
  unfold World.Obeys at obeys
  rw [drops] at obeys
  cases doing : a.doing with
  | idle => rw [doing] at drops; cases drops
  | acquiring r => rw [doing] at drops; cases drops
  | entering r step => rw [doing] at drops; cases drops
  | releasing r =>
    rw [doing] at obeys
    exact obeys
  | running r =>
    rw [doing] at obeys
    exact obeys
  | searching g step =>
    rw [doing] at drops possesses
    cases step with
    | dropping r levels slots =>
      cases drops
      exact possesses
    | passing levels slots => cases slots <;> cases drops
    | _ => cases drops
  | removing g r step =>
    rw [doing] at drops possesses
    cases step with
    | releasing target =>
      cases drops
      exact possesses
    | _ => cases drops

/-- After a step a thread holds what it is in the middle of holding. -/
theorem possesses_advance (h : Agreement w) (there : w.workers n = some a) :
    Possesses (fun x => (a.doing.deed w.sys).holds x ((w.sys.routine x).holder = none) (w.holds n x))
      (a.doing.advance a.token w.sys).2 := by
  have before := h.possesses there
  cases doing : a.doing with
  | idle => exact trivial
  | acquiring r => exact trivial
  | releasing r => exact trivial
  | searching g step =>
    rw [doing] at before
    have after := possesses_search (t := a.token) (s := w.sys) g step before
    simp only [Activity.advance]
    split
    · next outcome => exact after _ (congrArg Prod.snd outcome)
    · exact trivial
  | entering r step =>
    simp only [Activity.advance]
    split
    · exact trivial
    · exact trivial
    · exact trivial
  | running r =>
    simp only [Activity.advance]
    split <;> exact trivial
  | removing g r step =>
    rw [doing] at before
    have after := possesses_unlink (t := a.token) (s := w.sys) g r step before
    simp only [Activity.advance]
    split
    · next outcome => exact after _ (congrArg Prod.snd outcome)
    · exact trivial

theorem step (h : Agreement w) (there : w.workers n = some a) (obeys : w.Obeys n a.doing) :
    Agreement (w.advance n a) := by
  have does := does_advance a.token a.doing obeys.inside
  exact h.act there (fun x drops => h.holds_of_drops there obeys drops) does.holder
    (h.possesses_advance there)

/-- Every action that keeps to the rules keeps the invariant. -/
theorem perform (h : Agreement w) (action : Action κ) (allowed : w.Allowed action) :
    Agreement (w.perform action) := by
  cases action with
  | start n t =>
    simp only [World.perform]
    split
    · next absent => exact h.start absent allowed
    · exact h
  | finish n =>
    simp only [World.perform]
    split
    · exact h.finish allowed
    · exact h
  | begin n operation =>
    simp only [World.perform]
    split
    · next there => exact h.begin there operation
    · exact h
  | step n =>
    simp only [World.perform]
    split
    · next a there => exact h.step there (allowed a there)
    · exact h
  | elsewhere s =>
    have spares : Spares w.sys s := allowed
    refine ⟨h.distinct, h.live, fun there r => ?_, fun {r t} holder => ?_, h.possesses⟩
    · show _ ↔ (s.routine r).holder = _
      rw [spares.holder r]
      exact h.agrees there r
    · exact h.owned ((spares.holder r).symm.trans holder)

theorem run (h : Agreement w₀) (run : World.Run World.Allowed w₀ w) : Agreement w := by
  induction run with
  | refl => exact h
  | step run action allowed ih => exact ih.perform action allowed

omit [Program κ] in
theorem of_begins (begins : w.Begins) : Agreement w := by
  rw [begins.world]
  refine ⟨nofun, nofun, nofun, fun {r t} holder => ?_, nofun⟩
  exact absurd ((begins.free r).symm.trans holder) nofun

end Agreement

end CoopSched.Exclusion
