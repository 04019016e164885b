import CoopSched.Proofs.Stopping.Steps
import CoopSched.Proofs.Exclusion.Grants
/-!
# Processors that are bound and stopped

Any number of processors serve any groups. `World.perform` lets one thread take its next indivisible step:

* the thread of a processor goes through its loop: it reads whether to go on and which group to serve, searches the
  group slot by slot, resumes what it has found, one move of the body at a time, and releases it; if it has found
  nothing it waits (`Station.advance`);
* a processor is bound by some call, and stopped by some call, step by step (`Control.act`). The call of `stop` is
  made by the body of a routine that the processor runs, or from somewhere else;
* routines are put into groups, groups are notified, and time passes.

A body that stops another processor than its own makes a call from somewhere else, and may do anything meanwhile.
A wait may end at any time, as it has a timeout. A call is made with its first step: `bind` sets the group, and
`stop` exchanges the flag. The rules are `Control.Obeys`: each processor is stopped only once, when it has not been
bound or the call that bound it has returned, and bodies neither acquire routines nor release them.

`Control.events` remembers what the loop of a processor has done. No step depends on it.
-/

namespace CoopSched.Stopping

open CoopSched.System (Check Search Stop)
open CoopSched.Exclusion (Deed)

variable {κ : Type}

/-! ## 1. Steps of the loop -/

/-- Where the loop of a processor stands. -/
inductive Station (κ : Type) where
  /-- There is no thread yet. -/
  | absent
  /-- About to read whether to go on. -/
  | testing
  /-- About to read which group to serve. -/
  | reading
  | searching (g : GroupRef) (step : Search)
  /-- About to resume what was found. -/
  | holding (r : RoutineRef)
  | entering (r : RoutineRef) (step : Check)
  | running (r : RoutineRef)
  /-- The body has called `stop`, and has that much to do when it returns. -/
  | stopping (r : RoutineRef) (rest : Work κ)
  | leaving (r : RoutineRef)
  | waiting (g : GroupRef)
  | ended

/-- What the loop of a processor does. -/
inductive Event where
  | scans
  /-- The scan has found nothing. -/
  | misses
  | finds (r : RoutineRef)
  | resumes (r : RoutineRef)
  /-- The body makes a move. -/
  | advances (r : RoutineRef)
  | releases (r : RoutineRef)
  | exits
  deriving DecidableEq, Repr

/-- The next step of the loop, where it stands then, and what it has done. A body that calls `stop` is not looked
at here. -/
def Station.advance [Program κ] (p : Nat) (s : System κ) :
    Station κ → System κ × Station κ × Option Event
  | .absent => (s, .absent, none)
  | .testing => if (s.processor p).running then (s, .reading, none) else (s, .ended, some .exits)
  | .reading =>
    match (s.processor p).group with
    | some g => (s, .searching g .opening, some .scans)
    | none => (s, .testing, none)
  | .searching g step =>
    match s.search (.processor p) g step with
    | (s, .inl next) => (s, .searching g next, none)
    | (s, .inr (some r)) => (s, .holding r, some (.finds r))
    | (s, .inr none) => (s, .waiting g, some .misses)
  | .holding r => (s, .entering r .stopFlag, some (.resumes r))
  | .entering r step =>
    match s.check (.processor p) r step with
    | (s, .inl next) => (s, .entering r next, none)
    | (s, .inr true) => (s, .running r, none)
    | (s, .inr false) => (s, .leaving r, none)
  | .running r =>
    match s.move (.processor p) r with
    | (s, .paused) => (s, .leaving r, some (.advances r))
    | (s, _) => (s, .running r, some (.advances r))
  | .stopping r rest => (s, .stopping r rest, none)
  | .leaving r => (s.release r, .testing, some (.releases r))
  | .waiting g => (s.modifyGroup g Group.wait, .testing, none)
  | .ended => (s, .ended, none)

/-! ## 2. Steps that concern one processor -/

/-- Where the call of `bind` stands. -/
inductive Binding where
  | uncalled
  /-- The group is set, and the thread is about to be started. -/
  | spawning
  /-- The thread is about to be kept. -/
  | storing
  | returned
  deriving DecidableEq, Repr

/-- Where the call of `stop` stands, and whether the thread of the processor has made it itself. -/
inductive Call where
  | uncalled
  | going (own : Bool) (step : Stop)
  | returned (own : Bool)
  deriving DecidableEq, Repr

/-- What goes on with a processor. -/
structure Control (κ : Type) where
  station : Station κ := .absent
  binding : Binding := .uncalled
  call : Call := .uncalled
  events : List Event := []

/-- Who takes a step: the thread of the processor, the call of `bind`, or a call of `stop` from somewhere else. -/
inductive Act where
  | serve
  | bind (g : GroupRef)
  /-- The thread is started, or there cannot be another thread. -/
  | spawn (succeeds : Bool)
  | store
  | stop
  | proceed
  deriving DecidableEq, Repr

namespace Control

/-- The loop stands somewhere else, after it has done something. -/
def enter (c : Control κ) (station : Station κ) (done : Option Event) : Control κ :=
  { c with station, events := c.events ++ done.toList }

def isGone (c : Control κ) : Bool :=
  match c.station with
  | .ended => true
  | _ => false

/-- The call of `stop` takes a step. -/
def cease (c : Control κ) (p : Nat) (s : System κ) (own : Bool) (step : Stop) : System κ × Control κ :=
  match s.stop own c.isGone p step with
  | (s, .inl next) => (s, { c with call := .going own next })
  | (s, .inr ()) => (s, { c with call := .returned own })

/-- A call of `stop` is made. If there has been one before it returns at once. -/
def callStop (c : Control κ) (p : Nat) (s : System κ) (own : Bool) : System κ × Control κ :=
  match c.call with
  | .uncalled => c.cease p s own .swapping
  | _ => (s, c)

variable [Program κ]

/-- The thread takes its next step. -/
def serve (c : Control κ) (p : Nat) (s : System κ) : System κ × Control κ :=
  match c.station with
  | .running r =>
    match ((s.routine r).work.next s.labels).stopRest? with
    | some rest =>
      let (s, c) := c.callStop p s true
      (s, c.enter (.stopping r (rest .nothing)) (some (.advances r)))
    | none =>
      let (s, station, done) := (Station.running r).advance p s
      (s, c.enter station done)
  | .stopping r rest =>
    match c.call with
    | .going true step =>
      let (s, c) := c.cease p s true step
      (s, c.enter (.stopping r rest) (some (.advances r)))
    | _ => (s.modifyRoutine r fun x => { x with work := rest }, c.enter (.running r) (some (.advances r)))
  | a =>
    let (s, station, done) := a.advance p s
    (s, c.enter station done)

/-- The next step of whoever it is. Only the first call of `bind` does anything. -/
def act (c : Control κ) (p : Nat) (s : System κ) : Act → System κ × Control κ
  | .serve => c.serve p s
  | .bind g =>
    match (s.processor p).group with
    | some _ => (s, c)
    | none => (s.modifyProcessor p (·.assign g), { c with binding := .spawning })
  | .spawn succeeds =>
    match c.binding with
    | .spawning =>
      if succeeds then
        (s.modifyProcessor p Processor.launch, { c with binding := .storing, station := .testing })
      else (s, { c with binding := .returned })
    | _ => (s, c)
  | .store =>
    match c.binding with
    | .storing => (s.modifyProcessor p Processor.keepThread, { c with binding := .returned })
    | _ => (s, c)
  | .stop => c.callStop p s false
  | .proceed =>
    match c.call with
    | .going false step => c.cease p s false step
    | _ => (s, c)

omit [Program κ] in
/-- No call of `bind` is under way. -/
def Settled (c : Control κ) : Prop := c.binding = .uncalled ∨ c.binding = .returned

/-- The rules. Groups, routines and processors are there; a processor is stopped only once, and not while it is being
bound; bodies neither acquire routines nor release them. -/
def Obeys (c : Control κ) (p : Nat) (s : System κ) : Act → Prop
  | .serve =>
    match c.station with
    | .searching _ (.passing _ (r :: _)) => r < s.routines.size
    | .running r =>
      let move := (s.routine r).work.next s.labels
      Deed.ofMove move = .neither ∧ (move.stopRest?.isSome → c.call = .uncalled ∧ c.binding = .returned)
    | _ => True
  | .bind g => p < s.processors.size ∧ g < s.groups.size
  | .stop => p < s.processors.size ∧ c.call = .uncalled ∧ c.Settled
  | _ => True

end Control

/-! ## 3. Steps of all threads -/

/-- The system, and what goes on with its processors. -/
structure World (κ : Type) where
  sys : System κ
  controls : Nat → Control κ := fun _ => {}

/-- What happens next. -/
inductive Action where
  | act (p : Nat) (a : Act)
  | insert (g : GroupRef) (r : RoutineRef)
  | notify (g : GroupRef)
  | elapse (millis : Nat)
  deriving DecidableEq, Repr

namespace World

/-- A processor takes its place. -/
def put (w : World κ) (p : Nat) (s : System κ) (c : Control κ) : World κ where
  sys := s
  controls := fun q => if q = p then c else w.controls q

variable [Program κ]

def perform (w : World κ) : Action → World κ
  | .act p a => w.put p ((w.controls p).act p w.sys a).1 ((w.controls p).act p w.sys a).2
  | .insert g r => { w with sys := w.sys.enqueue g r }
  | .notify g => { w with sys := w.sys.modifyGroup g Group.notify }
  | .elapse millis => { w with sys := w.sys.elapse millis }

def Allowed (w : World κ) : Action → Prop
  | .act p a => (w.controls p).Obeys p w.sys a
  | _ => True

/-- Any number of steps, in any order. -/
inductive Run (w₀ : World κ) : World κ → Prop
  | refl : Run w₀ w₀
  | step {w : World κ} (run : Run w₀ w) (a : Action) (allowed : w.Allowed a) : Run w₀ (w.perform a)

/-- What a step keeps, a run keeps. -/
theorem Run.keeps {w₀ w : World κ} (run : Run w₀ w) {P : World κ → Prop}
    (keeps : ∀ {w} a, P w → w.Allowed a → P (w.perform a)) (h : P w₀) : P w := by
  induction run with
  | refl => exact h
  | step _ a allowed ih => exact keeps a ih allowed

omit [Program κ] in
/-- No processor has been bound or stopped, and nobody holds a routine. -/
structure Begins (w : World κ) : Prop where
  free : ∀ x, (w.sys.routine x).holder = none
  unbound : ∀ p, (w.sys.processor p).group = none
  running : ∀ p, (w.sys.processor p).running = true
  world : w = { sys := w.sys }

end World

/-! ## 4. What a step can do -/

/-- What the next step of the loop does to the holder of a routine. -/
def Station.deed : Station κ → Deed
  | .searching _ (.passing _ (r :: _)) => .tries r
  | .searching _ (.dropping r _ _) => .drops r
  | .leaving r => .drops r
  | _ => .neither

namespace Control

variable [Program κ] {c : Control κ} {p : Nat} {s : System κ}

/-- All that a step can do, if it obeys the rules. -/
inductive Acts (c : Control κ) (p : Nat) (s : System κ) : Act → System κ × Control κ → Prop
  | idles {a : Act} (other : a ≠ .serve) : Acts c p s a (s, c)
  /-- The loop goes on. -/
  | goes (inside : ∀ x, c.station.deed = .tries x → x < s.routines.size)
      (plain : ∀ r, c.station = .running r → Deed.ofMove ((s.routine r).work.next s.labels) = .neither ∧
        ((s.routine r).work.next s.labels).stopRest? = none) :
      Acts c p s .serve
        ((c.station.advance p s).1, c.enter (c.station.advance p s).2.1 (c.station.advance p s).2.2)
  /-- The body calls `stop`. -/
  | calls {r : RoutineRef} {rest : Reply → Work κ} (here : c.station = .running r) (uncalled : c.call = .uncalled)
      (bound : c.binding = .returned) :
      Acts c p s .serve ((c.cease p s true .swapping).1,
        (c.cease p s true .swapping).2.enter (.stopping r (rest .nothing)) (some (.advances r)))
  | ceases {r : RoutineRef} {rest : Work κ} {step : Stop} (here : c.station = .stopping r rest)
      (call : c.call = .going true step) :
      Acts c p s .serve ((c.cease p s true step).1,
        (c.cease p s true step).2.enter (.stopping r rest) (some (.advances r)))
  /-- The body goes on after its call of `stop`. -/
  | resumes {r : RoutineRef} {rest : Work κ} (here : c.station = .stopping r rest) :
      Acts c p s .serve (s.modifyRoutine r fun x => { x with work := rest },
        c.enter (.running r) (some (.advances r)))
  | binds {g : GroupRef} (unbound : (s.processor p).group = none) (there : p < s.processors.size)
      (group : g < s.groups.size) :
      Acts c p s (.bind g) (s.modifyProcessor p (·.assign g), { c with binding := .spawning })
  | spawns (here : c.binding = .spawning) :
      Acts c p s (.spawn true)
        (s.modifyProcessor p Processor.launch, { c with binding := .storing, station := .testing })
  | fails (here : c.binding = .spawning) : Acts c p s (.spawn false) (s, { c with binding := .returned })
  | stores (here : c.binding = .storing) :
      Acts c p s .store (s.modifyProcessor p Processor.keepThread, { c with binding := .returned })
  | stops (there : p < s.processors.size) (uncalled : c.call = .uncalled) (settled : c.Settled) :
      Acts c p s .stop (c.cease p s false .swapping)
  | proceeds {step : Stop} (call : c.call = .going false step) : Acts c p s .proceed (c.cease p s false step)

theorem acts_serve (obeys : c.Obeys p s .serve) : c.Acts p s .serve (c.serve p s) := by
  have goes := Acts.goes (c := c) (p := p) (s := s)
  simp only [Obeys] at obeys
  unfold serve
  split
  · next r here =>
    rw [here] at obeys
    obtain ⟨neither, stops⟩ := obeys
    split
    · next rest asks =>
      obtain ⟨uncalled, bound⟩ := stops (asks ▸ rfl)
      simp only [callStop, uncalled]
      exact .calls here uncalled bound
    · next plain =>
      have goes := goes (by rw [here]; exact nofun) fun r' same => by
        cases here.symm.trans same
        exact ⟨neither, plain⟩
      rw [here] at goes
      exact goes
  · next r rest here =>
    split
    · next step call => exact .ceases here call
    · exact .resumes here
  · next others _ =>
    refine goes (fun x tries => ?_) fun r here => absurd here (others r)
    split at obeys
    · next r _ here =>
      rw [here] at tries
      cases tries
      exact obeys
    · next r here => exact absurd here (others r)
    · next elsewhere _ =>
      unfold Station.deed at tries
      split at tries
      · next g levels r slots here => exact absurd here (elsewhere g levels r slots)
      · cases tries
      · cases tries
      · cases tries

theorem acts (a : Act) (obeys : c.Obeys p s a) : c.Acts p s a (c.act p s a) := by
  cases a with
  | serve => exact acts_serve obeys
  | bind g =>
    simp only [act]
    split
    · exact .idles nofun
    · next unbound => exact .binds unbound obeys.1 obeys.2
  | spawn succeeds =>
    simp only [act]
    split
    · next here =>
      cases succeeds with
      | true => exact .spawns here
      | false => exact .fails here
    · exact .idles nofun
  | store =>
    simp only [act]
    split
    · next here => exact .stores here
    · exact .idles nofun
  | stop =>
    obtain ⟨there, uncalled, settled⟩ := obeys
    simp only [act, callStop, uncalled]
    exact .stops there uncalled settled
  | proceed =>
    simp only [act]
    split
    · next step call => exact .proceeds call
    · exact .idles nofun

end Control

end CoopSched.Stopping
