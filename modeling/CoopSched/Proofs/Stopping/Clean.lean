import CoopSched.Proofs.Stopping.Ending
import CoopSched.Script
/-!
# A stopped processor leaves nothing behind

Whatever the order of the steps of all threads:

1. a thread that has ended holds no routine (`Clean.ended`);
2. a routine that a processor has found is resumed once and then released once, before the processor scans again or
   its thread ends (`Clean.turns`), and it is held all the time (`Clean.holds`);
3. when a call of `stop` from somewhere else has returned, the processor lets no body make a move any more, even if
   it is bound after that (`Clean.silent`, `Clean.recorded`);
4. if the processor was bound before the call, its group is stopped then (`Clean.stopped`).
-/

namespace CoopSched.Stopping

open CoopSched.Exclusion (Deed)

variable {κ : Type} {c : Control κ} {p q : Nat} {s : System κ} {g : GroupRef} {w w' w₀ : World κ}

/-! ## 1. Steps of all threads -/

theorem World.put_self (w : World κ) (p : Nat) (s : System κ) (c : Control κ) : (w.put p s c).controls p = c :=
  if_pos rfl

theorem World.put_of_ne (w : World κ) (s : System κ) (c : Control κ) (other : q ≠ p) :
    (w.put p s c).controls q = w.controls q := if_neg other

/-- What concerns other processors leaves this one alone, and groups that are stopped stay so. -/
structure Untouched (q : Nat) (w w' : World κ) : Prop where
  control : w'.controls q = w.controls q
  processor : w'.sys.processor q = w.sys.processor q
  size : w'.sys.processors.size = w.sys.processors.size
  groups : w.sys.groups.size ≤ w'.sys.groups.size
  stopped : ∀ g < w.sys.groups.size, (w.sys.group g).stopped = true → (w'.sys.group g).stopped = true

theorem Steady.untouched (steady : Steady w.sys s) (q : Nat) : Untouched q w { w with sys := s } where
  control := rfl
  processor := congrArg (fun a : Arena Processor => a.get q) steady.processors
  size := congrArg Arena.size steady.processors
  groups := steady.groups
  stopped := steady.stopped

variable [Program κ]

/-- A step is one of the processor itself, or does not concern it. -/
theorem World.acts_or_untouched (w : World κ) {a : Action} (allowed : w.Allowed a) (q : Nat) :
    (∃ b, a = .act q b ∧ (w.controls q).Acts q w.sys b ((w.perform a).sys, (w.perform a).controls q)) ∨
      Untouched q w (w.perform a) := by
  cases a with
  | act p b =>
    have acts := Control.acts b allowed
    by_cases same : q = p
    · subst same
      refine .inl ⟨b, rfl, ?_⟩
      show (w.controls q).Acts q w.sys b (_, (w.put q _ _).controls q)
      rw [put_self]
      exact acts
    · have aside := acts.aside
      exact .inr ⟨w.put_of_ne _ _ same, aside.other q same, aside.size, aside.groups, aside.stopped⟩
  | insert g r =>
    have steady : Steady w.sys (w.sys.enqueue g r) := .modifyGroup w.sys g fun _ => id
    exact .inr (steady.untouched q)
  | notify g =>
    have steady : Steady w.sys (w.sys.modifyGroup g Group.notify) := .modifyGroup w.sys g fun _ => id
    exact .inr (steady.untouched q)
  | elapse millis =>
    have steady : Steady w.sys (w.sys.elapse millis) := .of_eq rfl rfl
    exact .inr (steady.untouched q)

/-! ## 2. What is known of all processors -/

omit [Program κ] in
theorem Fits.born (h : Fits p s c) : c.Newborn := fun spawning => h.newborn (.inr spawning)

omit [Program κ] in
structure Sound (w : World κ) : Prop where
  fits : ∀ p, Fits p w.sys (w.controls p)
  traced : ∀ p, (w.controls p).Traced
  agrees : Agrees w

namespace Sound

omit [Program κ] in
theorem of_begins (begins : w.Begins) : Sound w where
  fits := .of_begins begins
  traced p := by
    rw [begins.world]
    rfl
  agrees := .of_begins begins

theorem perform (h : Sound w) (a : Action) (allowed : w.Allowed a) : Sound (w.perform a) where
  fits q := by
    rcases w.acts_or_untouched allowed q with ⟨b, -, acts⟩ | untouched
    · exact (h.fits q).act acts
    · rw [untouched.control]
      exact (h.fits q).of_same untouched.size untouched.processor untouched.groups
  traced q := by
    rcases w.acts_or_untouched allowed q with ⟨b, -, acts⟩ | untouched
    · exact acts.traced (h.traced q) (h.fits q).born
    · rw [untouched.control]
      exact h.traced q
  agrees := h.agrees.perform (fun p => (h.fits p).born) a allowed

theorem run (h : Sound w) (run : World.Run w w') : Sound w' :=
  run.keeps (fun a sound allowed => sound.perform a allowed) h

omit [Program κ] in
theorem ended (h : Sound w) (ended : (w.controls p).station = .ended) (x : RoutineRef) :
    (w.sys.routine x).holder ≠ some (.processor p) := by
  rw [ne_eq, ← h.agrees.agrees p x, ended]
  exact nofun

omit [Program κ] in
theorem turns (h : Sound w) {before between after : List Event} {r : RoutineRef} {e : Event}
    (events : (w.controls p).events = before ++ .finds r :: between ++ e :: after) (ends : e.ends = true)
    (inside : ∀ b ∈ between, b.ends = false) :
    ∃ moves, between = .resumes r :: moves ++ [.releases r] ∧ ∀ b ∈ moves, b = .advances r := by
  have traced : Mode.idle.reads (w.controls p).events = _ := h.traced p
  rw [events] at traced
  exact Mode.turn_of_found traced ends inside

/-- After the return of a call of `stop` from somewhere else. -/
theorem silent (h : Sound w) (call : (w.controls p).call = .returned false) (run : World.Run w w') :
    (w'.controls p).call = .returned false ∧
      ∃ more, (w'.controls p).events = (w.controls p).events ++ more ∧ ∀ r, .advances r ∉ more := by
  induction run with
  | refl => exact ⟨call, [], (List.append_nil _).symm, fun _ => List.not_mem_nil⟩
  | @step v run a allowed ih =>
    obtain ⟨call, more, events, quiet⟩ := ih
    rcases v.acts_or_untouched allowed p with ⟨b, -, acts⟩ | untouched
    · obtain ⟨still, further, grown, silent⟩ := acts.silent ((h.run run).fits p) call
      refine ⟨still, more ++ further, ?_, fun r mem => ?_⟩
      · rw [grown, events, List.append_assoc]
      · exact (List.mem_append.mp mem).elim (quiet r) (silent r)
    · rw [untouched.control]
      exact ⟨call, more, events, quiet⟩

/-- A call of `stop` is on its way to the group that the processor was bound to before it. -/
theorem closes (h : Sound w) (bound : (w.sys.processor p).group = some g)
    (uncalled : (w.controls p).call = .uncalled) (run : World.Run w w') :
    (w'.sys.processor p).group = some g ∧ (w'.controls p).call.Closes g (w'.sys.group g) := by
  induction run with
  | refl => exact ⟨bound, by rw [uncalled]; trivial⟩
  | @step v run a allowed ih =>
    obtain ⟨bound, closes⟩ := ih
    have fits := (h.run run).fits p
    rcases v.acts_or_untouched allowed p with ⟨b, -, acts⟩ | untouched
    · exact acts.closes fits bound closes
    · rw [untouched.processor, untouched.control]
      exact ⟨bound, closes.imp (untouched.stopped g (fits.group g bound))⟩

theorem stopped (h : Sound w) (bound : (w.sys.processor p).group = some g)
    (uncalled : (w.controls p).call = .uncalled) (run : World.Run w w') {own : Bool}
    (returned : (w'.controls p).call = .returned own) : (w'.sys.group g).stopped = true := by
  have closes := (h.closes bound uncalled run).2
  rwa [returned] at closes

end Sound

/-- A body makes a move only in a step of a processor, which records it. -/
theorem World.recorded (w : World κ) {a : Action} (allowed : w.Allowed a) {x : RoutineRef}
    (there : x < w.sys.routines.size)
    (moved : ((w.perform a).sys.routine x).work ≠ (w.sys.routine x).work) :
    ∃ p, a = .act p .serve ∧
      ((w.perform a).controls p).events = (w.controls p).events ++ [.advances x] := by
  cases a with
  | act p b =>
    obtain ⟨rfl, recorded⟩ := (Control.acts b allowed).recorded there moved
    refine ⟨p, rfl, ?_⟩
    show ((w.put p _ _).controls p).events = _
    rw [put_self]
    exact recorded
  | insert g r => exact absurd rfl moved
  | notify g => exact absurd rfl moved
  | elapse millis => exact absurd rfl moved

/-! ## 3. Nothing is left behind -/

/-- What a processor leaves behind, at any time. -/
structure Clean (w : World κ) : Prop where
  /-- A thread that has ended holds no routine. -/
  ended : ∀ p, (w.controls p).station = .ended → ∀ x, (w.sys.routine x).holder ≠ some (.processor p)
  /-- A thread holds the routine that its loop is concerned with, and no other. -/
  holds : ∀ p x, (w.sys.routine x).holder = some (.processor p) ↔ (w.controls p).station.keeps? = some x
  /-- Between the moment when a routine is found and the next scan, or the end of the thread, it is resumed once and
  then released once. There is nothing else but moves of its body. -/
  turns : ∀ p before r between e after,
    (w.controls p).events = before ++ .finds r :: between ++ e :: after → e.ends = true →
      (∀ b ∈ between, b.ends = false) →
        ∃ moves, between = .resumes r :: moves ++ [.releases r] ∧ ∀ b ∈ moves, b = .advances r
  /-- The moves of bodies are those that processors have recorded. -/
  recorded : ∀ a x, w.Allowed a → x < w.sys.routines.size →
    ((w.perform a).sys.routine x).work ≠ (w.sys.routine x).work →
      ∃ p, a = .act p .serve ∧ ((w.perform a).controls p).events = (w.controls p).events ++ [.advances x]
  /-- When a call of `stop` from somewhere else has returned, the processor records none any more. -/
  silent : ∀ p, (w.controls p).call = .returned false → ∀ w', World.Run w w' →
    ∃ more, (w'.controls p).events = (w.controls p).events ++ more ∧ ∀ r, .advances r ∉ more
  /-- When a call of `stop` has returned, the group is stopped to which the processor was bound before it. -/
  stopped : ∀ p g, (w.sys.processor p).group = some g → (w.controls p).call = .uncalled →
    ∀ w' own, World.Run w w' → (w'.controls p).call = .returned own → (w'.sys.group g).stopped = true

/-- Whatever the order of steps: a stopped processor leaves nothing behind. -/
theorem leaves_nothing_behind (begins : w₀.Begins) (run : World.Run w₀ w) : Clean w := by
  have sound := (Sound.of_begins begins).run run
  exact {
    ended := fun p => sound.ended
    holds := fun p x => (sound.agrees.agrees p x).symm
    turns := fun p before r between e after => sound.turns
    recorded := fun a x allowed => w.recorded allowed
    silent := fun p call w' run => (sound.silent call run).2
    stopped := fun p g bound uncalled w' own run => sound.stopped bound uncalled run }

/-! ## 4. Three processors -/

/-- Does a step obey the rules? -/
def Control.permits (c : Control κ) (p : Nat) (s : System κ) : Act → Bool
  | .serve =>
    match c.station with
    | .searching _ (.passing _ (r :: _)) => decide (r < s.routines.size)
    | .running r =>
      let move := (s.routine r).work.next s.labels
      decide (Deed.ofMove move = .neither) &&
        (!move.stopRest?.isSome || decide (c.call = .uncalled ∧ c.binding = .returned))
    | _ => true
  | .bind g => decide (p < s.processors.size ∧ g < s.groups.size)
  | .stop =>
    decide (p < s.processors.size ∧ c.call = .uncalled ∧ (c.binding = .uncalled ∨ c.binding = .returned))
  | _ => true

theorem Control.obeys_of_permits {a : Act} (permitted : c.permits p s a = true) : c.Obeys p s a := by
  cases a with
  | serve =>
    simp only [permits] at permitted
    simp only [Obeys]
    split
    · next here =>
      rw [here] at permitted
      exact of_decide_eq_true permitted
    · next r here =>
      rw [here] at permitted
      obtain ⟨neither, stops⟩ := Bool.and_eq_true_iff.mp permitted
      refine ⟨of_decide_eq_true neither, fun asks => ?_⟩
      rw [asks] at stops
      exact of_decide_eq_true stops
    · trivial
  | bind g =>
    have there : p < s.processors.size ∧ g < s.groups.size := of_decide_eq_true permitted
    exact there
  | stop =>
    have settled : p < s.processors.size ∧ c.call = .uncalled ∧
      (c.binding = .uncalled ∨ c.binding = .returned) := of_decide_eq_true permitted
    exact settled
  | _ => trivial

namespace World

/-- Do the steps obey the rules, one after the other? -/
def follows : List Action → World κ → Bool
  | [], _ => true
  | .act p a :: rest, w => (w.controls p).permits p w.sys a && follows rest (w.perform (.act p a))
  | a :: rest, w => follows rest (w.perform a)

theorem Run.follows {actions : List Action} (follows : w.follows actions = true) (run : Run w₀ w) :
    Run w₀ (actions.foldl perform w) := by
  induction actions generalizing w with
  | nil => exact run
  | cons a rest ih =>
    cases a with
    | act p a =>
      obtain ⟨permitted, follows⟩ := Bool.and_eq_true_iff.mp follows
      exact ih follows (run.step (.act p a) (Control.obeys_of_permits permitted))
    | insert g r => exact ih follows (run.step (.insert g r) trivial)
    | notify g => exact ih follows (run.step (.notify g) trivial)
    | elapse millis => exact ih follows (run.step (.elapse millis) trivial)

end World

/-- A routine of the highest priority. -/
def withUrgent (s : System Script) (id : UInt64) (body : List CoopSched.Action) : System Script :=
  (s.addRoutine id "task" (.body (.ofActions body))).1.modifyRoutine s.routines.size fun r =>
    { r with priority := 19 }

/-- Three groups, three processors, and two routines. One of them gives up its turn once, and the other one stops its
processor. -/
def threeUnbound : World Script where
  sys :=
    let s := (((({} : System Script).addGroup "left").1.addGroup "middle").1.addGroup "right").1
    let s := (((s.addProcessor "first").1.addProcessor "second").1.addProcessor "third").1
    withUrgent (withUrgent s 7 [.log "here", .pause .keep]) 8 [.stopProcessor]

theorem begins_threeUnbound : threeUnbound.Begins where
  free x := by
    match x with
    | 0 => rfl
    | 1 => rfl
    | x + 2 => exact Exclusion.holder_of_size_le _ (Nat.le_add_left 2 x)
  unbound p := by
    match p with
    | 0 => rfl
    | 1 => rfl
    | 2 => rfl
    | p + 3 => rfl
  running p := by
    match p with
    | 0 => rfl
    | 1 => rfl
    | 2 => rfl
    | p + 3 => rfl
  world := rfl

/-- A processor is bound to a group. -/
def hiring (p : Nat) (g : GroupRef) : List Action := [.act p (.bind g), .act p (.spawn true), .act p .store]

/-- The thread of a processor takes so many steps. -/
def serving (p n : Nat) : List Action := List.replicate n (.act p .serve)

/-- The routines are put into groups, and two processors are bound. -/
def opening : List Action := [.insert 0 0, .insert 1 1, .notify 0] ++ hiring 0 0 ++ hiring 2 1

def twoBound : World Script := opening.foldl World.perform threeUnbound

/-- The first processor is in the middle of a turn when it is stopped, and its end is awaited. -/
def stoppingFirst : List Action :=
  serving 0 10 ++ [.act 0 .stop] ++ serving 0 2 ++ List.replicate 5 (.act 0 .proceed) ++ serving 0 2 ++
    [.act 0 .proceed]

/-- The second one is stopped before it is bound. -/
def stoppingSecond : List Action := [.act 1 .stop, .act 1 .proceed, .act 1 .proceed] ++ hiring 1 2 ++ serving 1 1

/-- The third one is stopped by the body that it runs. -/
def allStopped : World Script := (stoppingFirst ++ stoppingSecond ++ serving 2 20).foldl World.perform twoBound

/-- All threads have ended, and none of them holds a routine. The groups are stopped that were bound before. -/
theorem nothing_left_allStopped :
    threeUnbound.Begins ∧ World.Run threeUnbound allStopped ∧
      (∀ p < 3, (allStopped.controls p).isGone = true ∧
        ∀ x, (allStopped.sys.routine x).holder ≠ some (.processor p)) ∧
      ((allStopped.controls 0).call = .returned false ∧ (allStopped.sys.group 0).stopped = true) ∧
      ((allStopped.controls 1).call = .returned false ∧ (allStopped.sys.group 2).stopped = false) ∧
      ((allStopped.controls 2).call = .returned true ∧ (allStopped.sys.group 1).stopped = true) := by
  have early : World.Run threeUnbound twoBound := .follows rfl .refl
  have late : World.Run twoBound allStopped := .follows rfl .refl
  have run : World.Run threeUnbound allStopped := .follows rfl early
  have before := leaves_nothing_behind begins_threeUnbound early
  have after := leaves_nothing_behind begins_threeUnbound run
  refine ⟨begins_threeUnbound, run, fun p there => ?_, ⟨rfl, ?_⟩, ⟨rfl, rfl⟩, ⟨rfl, ?_⟩⟩
  · match p, there with
    | 0, _ => exact ⟨rfl, after.ended 0 rfl⟩
    | 1, _ => exact ⟨rfl, after.ended 1 rfl⟩
    | 2, _ => exact ⟨rfl, after.ended 2 rfl⟩
  · exact before.stopped 0 0 rfl rfl allStopped false late rfl
  · exact before.stopped 2 1 rfl rfl allStopped true late rfl

end CoopSched.Stopping
