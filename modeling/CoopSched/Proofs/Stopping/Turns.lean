import CoopSched.Proofs.Stopping.Machine
/-!
# Whole turns

1. A processor holds the routine that its loop is concerned with, and no other (`Agrees`).
2. What it does comes in an order (`Mode.next`): a routine that was found is resumed and then released before
   anything else happens, but for the moves of its body (`Mode.turn_of_found`).
3. No body makes a move otherwise (`Control.Acts.recorded`).
-/

namespace CoopSched.Stopping

open CoopSched.System (Check Search Stop)
open CoopSched.Exclusion (Activity Deed Does Spares does_move does_search)

variable {κ : Type} {c c' : Control κ} {p q : Nat} {s s' : System κ} {x : RoutineRef} {w w₀ : World κ}

/-! ## 1. Calls of `stop` -/

theorem station_cease (c : Control κ) (p : Nat) (s : System κ) (own : Bool) (step : Stop) :
    (c.cease p s own step).2.station = c.station := by
  unfold Control.cease
  split <;> rfl

theorem events_cease (c : Control κ) (p : Nat) (s : System κ) (own : Bool) (step : Stop) :
    (c.cease p s own step).2.events = c.events := by
  unfold Control.cease
  split <;> rfl

theorem fst_cease (c : Control κ) (p : Nat) (s : System κ) (own : Bool) (step : Stop) :
    (c.cease p s own step).1 = (s.stop own c.isGone p step).1 := by
  unfold Control.cease
  split <;> next outcome => rw [outcome]

theorem spares_cease (c : Control κ) (p : Nat) (s : System κ) (own : Bool) (step : Stop) :
    Spares s (c.cease p s own step).1 := by
  rw [fst_cease]
  exact .of_routines_eq (System.routines_stop s own _ p step)

/-! ## 2. What a processor holds -/

/-- The routine that is held in the middle of a search. -/
def heldIn : Search → Option RoutineRef
  | .examining r .. | .dropping r .. => some r
  | _ => none

/-- The routine that is held after a step of a search. -/
def heldAfter : Search ⊕ Option RoutineRef → Option RoutineRef
  | .inl step => heldIn step
  | .inr found => found

namespace Station

/-- The routine that a processor holds. -/
def keeps? : Station κ → Option RoutineRef
  | .searching _ step => heldIn step
  | .holding r | .entering r _ | .running r | .stopping r _ | .leaving r => some r
  | _ => none

/-- The routine whose turn it is. -/
def turn? : Station κ → Option RoutineRef
  | .running r | .stopping r _ => some r
  | _ => none

end Station

/-- What a step does to the holder of a routine. -/
def Control.deed (c : Control κ) : Act → Deed
  | .serve => c.station.deed
  | _ => .neither

/-- The routine whose body makes a move. -/
def Control.turn? (c : Control κ) : Act → Option RoutineRef
  | .serve => c.station.turn?
  | _ => none

/-- A search holds what it has acquired, until it releases it. -/
theorem heldAfter_search (s : System κ) (p : Nat) (g : GroupRef) (step : Search) (x : RoutineRef) :
    heldAfter (s.search (.processor p) g step).2 = some x ↔
      (Station.searching (κ := κ) g step).deed.holds x ((s.routine x).holder = none) (heldIn step = some x) := by
  cases step with
  | opening =>
    simp only [System.search]
    split <;> exact Iff.rfl
  | passing levels slots =>
    cases slots with
    | nil => cases levels <;> exact Iff.rfl
    | cons r slots =>
      have free := Exclusion.acquire_snd_iff s (.processor p) r
      show _ ↔ none = some x ∨ r = x ∧ (s.routine x).holder = none
      simp only [System.search]
      rcases outcome : s.acquire (.processor p) r with ⟨s', granted⟩
      rw [outcome] at free
      cases granted with
      | true =>
        refine ⟨fun same => .inr ?_, ?_⟩
        · cases same
          exact ⟨rfl, free.mp rfl⟩
        · rintro (none | ⟨rfl, -⟩)
          · cases none
          · rfl
      | false =>
        refine ⟨.inl, ?_⟩
        rintro (none | ⟨rfl, unheld⟩)
        · cases none
        · exact absurd (free.mpr unheld) Bool.false_ne_true
  | examining r step levels slots =>
    simp only [System.search]
    rcases s.look r step with ⟨s', next | ready⟩
    · exact Iff.rfl
    · cases ready <;> exact Iff.rfl
  | dropping r levels slots =>
    constructor
    · intro held
      cases held
    · rintro ⟨same, other⟩
      cases same
      exact absurd rfl other

variable [Program κ]

theorem Station.deed_searching (s : System κ) (g : GroupRef) (step : Search) :
    (Activity.searching g step).deed s = (Station.searching (κ := κ) g step).deed := by
  cases step with
  | passing levels slots => cases slots <;> rfl
  | _ => rfl

/-- A step of the loop does its deed, and advances no body but that of the turn. -/
theorem Station.does_advance (a : Station κ) (inside : ∀ x, a.deed = .tries x → x < s.routines.size)
    (plain : ∀ r, a = .running r → Deed.ofMove ((s.routine r).work.next s.labels) = .neither) :
    Does a.deed (.processor p) a.turn? s (a.advance p s).1 := by
  have nothing : ∀ turn, Does .neither (.processor p) turn s s := (Spares.refl s).does _
  cases a with
  | testing =>
    simp only [advance]
    split <;> exact nothing none
  | reading =>
    simp only [advance]
    split <;> exact nothing none
  | searching g step =>
    have searched := does_search (s := s) (.processor p) g step
    rw [deed_searching] at searched
    have searched := searched inside
    simp only [advance]
    split <;> next outcome => rwa [outcome] at searched
  | entering r step =>
    have checked := (Spares.check s (.processor p) r step).does (.processor p) none
    simp only [advance]
    split <;> next outcome => rwa [outcome] at checked
  | running r =>
    have neither := plain r rfl
    have moved := does_move (s := s) (.processor p) r (by rw [neither]; exact nofun)
    rw [neither] at moved
    simp only [advance]
    split <;> next outcome => rwa [outcome] at moved
  | leaving r => exact .release _ r
  | waiting g =>
    have waited : Spares s (s.modifyGroup g Group.wait) := .of_routines_eq rfl
    exact waited.does _ none
  | _ => exact nothing _

/-- After a step of the loop the processor holds what it held, but for its deed. -/
theorem Station.keeps_advance (a : Station κ) (p : Nat) (s : System κ) (x : RoutineRef) :
    (a.advance p s).2.1.keeps? = some x ↔ a.deed.holds x ((s.routine x).holder = none) (a.keeps? = some x) := by
  cases a with
  | testing =>
    simp only [advance]
    split <;> exact Iff.rfl
  | reading =>
    simp only [advance]
    split <;> exact Iff.rfl
  | searching g step =>
    have held := heldAfter_search s p g step x
    simp only [advance]
    split <;> next outcome =>
      rw [outcome] at held
      exact held
  | entering r step =>
    simp only [advance]
    split <;> exact Iff.rfl
  | running r =>
    simp only [advance]
    split <;> exact Iff.rfl
  | leaving r =>
    refine ⟨nofun, fun ⟨same, other⟩ => ?_⟩
    cases same
    exact absurd rfl other
  | _ => exact Iff.rfl

namespace Control.Acts

variable {a : Act} {out : System κ × Control κ}

theorem does (acts : c.Acts p s a out) : Does (c.deed a) (.processor p) (c.turn? a) s out.1 := by
  have same : ∀ {s'}, s'.routines = s.routines → ∀ turn, Does .neither (.processor p) turn s s' :=
    fun same turn => (Spares.of_routines_eq same).does _ turn
  cases acts with
  | idles other =>
    cases a with
    | serve => exact absurd rfl other
    | _ => exact same rfl none
  | goes inside plain => exact c.station.does_advance inside fun r here => (plain r here).1
  | @calls r rest here =>
    have neither : c.deed .serve = .neither := by rw [deed, here]; rfl
    rw [neither]
    exact (spares_cease c p s true .swapping).does _ _
  | @ceases r rest step here call =>
    have neither : c.deed .serve = .neither := by rw [deed, here]; rfl
    rw [neither]
    exact (spares_cease c p s true step).does _ _
  | @resumes r rest here =>
    have neither : c.deed .serve = .neither := by rw [deed, here]; rfl
    have turn : c.turn? .serve = some r := by rw [turn?, here]; rfl
    rw [neither, turn]
    exact (same rfl none).modifyWork fun _ => rfl
  | binds => exact same (by rfl) none
  | spawns here => exact same (by rfl) none
  | fails here => exact same (by rfl) none
  | stores here => exact same (by rfl) none
  | stops => exact (spares_cease ..).does _ none
  | proceeds => exact (spares_cease ..).does _ none

/-- What the processor holds after a step. -/
theorem keeps (acts : c.Acts p s a out) (born : c.binding = .spawning → c.station = .absent) (x : RoutineRef) :
    out.2.station.keeps? = some x ↔
      (c.deed a).holds x ((s.routine x).holder = none) (c.station.keeps? = some x) := by
  cases acts with
  | idles other =>
    cases a with
    | serve => exact absurd rfl other
    | _ => exact Iff.rfl
  | goes => exact c.station.keeps_advance p s x
  | calls here => rw [deed, here]; exact Iff.rfl
  | ceases here call => rw [deed, here]; exact Iff.rfl
  | resumes here => rw [deed, here]; exact Iff.rfl
  | spawns here => rw [born here]; exact Iff.rfl
  | stops => rw [station_cease]; exact Iff.rfl
  | proceeds => rw [station_cease]; exact Iff.rfl
  | _ => exact Iff.rfl

end Control.Acts

omit [Program κ] in
theorem Station.keeps_of_drops {a : Station κ} (drops : a.deed = .drops x) : a.keeps? = some x := by
  cases a with
  | searching g step =>
    cases step with
    | passing levels slots => cases slots <;> cases drops
    | dropping r levels slots =>
      cases drops
      rfl
    | _ => cases drops
  | leaving r =>
    cases drops
    rfl
  | _ => cases drops

omit [Program κ] in
/-- A processor that is about to get a thread has none. -/
def Control.Newborn (c : Control κ) : Prop := c.binding = .spawning → c.station = .absent

omit [Program κ] in
/-- Processors hold what their loops are concerned with, and nobody else holds anything. -/
structure Agrees (w : World κ) : Prop where
  agrees : ∀ p x, (w.controls p).station.keeps? = some x ↔ (w.sys.routine x).holder = some (.processor p)
  owned : ∀ {x t}, (w.sys.routine x).holder = some t → ∃ p, t = .processor p

namespace Agrees

omit [Program κ] in
theorem of_begins (begins : w.Begins) : Agrees w := by
  refine ⟨fun p x => ?_, fun {x t} held => nomatch (begins.free x).symm.trans held⟩
  rw [begins.free x, begins.world]
  exact ⟨nofun, nofun⟩

omit [Program κ] in
/-- Others leave the holders alone. -/
theorem of_spares (h : Agrees w) (spares : Spares w.sys s) : Agrees { w with sys := s } := by
  refine ⟨fun p x => ?_, fun {x t} held => h.owned ((spares.holder x).symm.trans held)⟩
  show _ ↔ (s.routine x).holder = _
  rw [spares.holder x]
  exact h.agrees p x

theorem act (h : Agrees w) {a : Act} {out : System κ × Control κ} (acts : (w.controls p).Acts p w.sys a out)
    (newborn : (w.controls p).Newborn) : Agrees (w.put p out.1 out.2) := by
  have does := acts.does
  have drops : ∀ x, (w.controls p).deed a = .drops x → (w.sys.routine x).holder = some (.processor p) := by
    intro x drops
    cases a with
    | serve => exact (h.agrees p x).mp (Station.keeps_of_drops drops)
    | _ => cases drops
  constructor
  · intro q x
    show (if q = p then out.2 else w.controls q).station.keeps? = some x ↔ (out.1.routine x).holder = _
    rw [does.holder x]
    by_cases same : q = p
    · subst same
      rw [if_pos rfl, acts.keeps newborn x]
      exact Exclusion.Deed.holds_iff _ (h.agrees q x)
    · have other : Thread.processor q ≠ .processor p := fun equal => same (Thread.processor.inj equal)
      rw [if_neg same, Exclusion.Deed.holder_eq_iff_of_ne _ other (drops x)]
      exact h.agrees q x
  · intro x t held
    have held : ((w.controls p).deed a).holder (.processor p) x (w.sys.routine x).holder = some t :=
      (does.holder x).symm.trans held
    by_cases mine : t = .processor p
    · exact ⟨p, mine⟩
    · exact h.owned ((Exclusion.Deed.holder_eq_iff_of_ne _ mine (drops x)).mp held)

theorem perform (h : Agrees w) (newborn : ∀ p, (w.controls p).Newborn) (a : Action) (allowed : w.Allowed a) :
    Agrees (w.perform a) := by
  cases a with
  | act p a => exact h.act (Control.acts a allowed) (newborn p)
  | insert g r => exact h.of_spares (.of_routines_eq rfl)
  | notify g => exact h.of_spares (.of_routines_eq rfl)
  | elapse millis => exact h.of_spares (.of_routines_eq rfl)

end Agrees

/-! ## 3. The order of events -/

/-- What has been done last: nothing that matters, a scan has begun, a routine was found, a turn of it has begun,
or the loop has ended. -/
inductive Mode where
  | idle
  | scanning
  | found (r : RoutineRef)
  | turn (r : RoutineRef)
  | over
  deriving DecidableEq, Repr

/-- The order in which a processor does what it does. -/
def Mode.next : Mode → Event → Option Mode
  | .idle, .scans => some .scanning
  | .idle, .exits => some .over
  | .scanning, .misses => some .idle
  | .scanning, .finds r => some (.found r)
  | .found r, .resumes q => if q = r then some (.turn r) else none
  | .turn r, .advances q => if q = r then some (.turn r) else none
  | .turn r, .releases q => if q = r then some .idle else none
  | _, _ => none

def Mode.reads (m : Mode) (events : List Event) : Option Mode := events.foldlM Mode.next m

def Station.mode : Station κ → Mode
  | .searching .. => .scanning
  | .holding r => .found r
  | .entering r _ | .running r | .stopping r _ | .leaving r => .turn r
  | .ended => .over
  | _ => .idle

/-- The events of a processor are in order, and the loop stands where they lead to. -/
def Control.Traced (c : Control κ) : Prop := Mode.idle.reads c.events = some c.station.mode

omit [Program κ] in
theorem Control.Traced.enter (h : c.Traced) {station : Station κ} {done : Option Event}
    (next : c.station.mode.reads done.toList = some station.mode) : (c.enter station done).Traced := by
  show (c.events ++ done.toList).foldlM Mode.next .idle = _
  rw [List.foldlM_append, show c.events.foldlM Mode.next .idle = _ from h]
  exact next

omit [Program κ] in
theorem Mode.reads_resumes (r : RoutineRef) : (found r).reads [.resumes r] = some (.turn r) := by
  simp [reads, next]

theorem Mode.reads_advances (r : RoutineRef) : (turn r).reads [.advances r] = some (.turn r) := by
  simp [reads, next]

theorem Mode.reads_releases (r : RoutineRef) : (turn r).reads [.releases r] = some .idle := by
  simp [reads, next]

theorem Station.mode_advance (a : Station κ) (p : Nat) (s : System κ) :
    a.mode.reads (a.advance p s).2.2.toList = some (a.advance p s).2.1.mode := by
  cases a with
  | testing =>
    simp only [advance]
    split <;> rfl
  | reading =>
    simp only [advance]
    split <;> rfl
  | searching g step =>
    simp only [advance]
    split <;> rfl
  | holding r => exact Mode.reads_resumes r
  | entering r step =>
    simp only [advance]
    split <;> rfl
  | running r =>
    simp only [advance]
    split <;> exact Mode.reads_advances r
  | leaving r => exact Mode.reads_releases r
  | _ => rfl

theorem Control.Acts.traced {a : Act} {out : System κ × Control κ} (acts : c.Acts p s a out) (h : c.Traced)
    (newborn : c.Newborn) : out.2.Traced := by
  have ceased : ∀ own step, (c.cease p s own step).2.Traced := by
    intro own step
    rw [Traced, events_cease, station_cease]
    exact h
  cases acts with
  | goes => exact h.enter (c.station.mode_advance p s)
  | calls here =>
    refine (ceased true .swapping).enter ?_
    rw [station_cease, here]
    exact Mode.reads_advances _
  | ceases here call =>
    refine (ceased true _).enter ?_
    rw [station_cease, here]
    exact Mode.reads_advances _
  | resumes here =>
    refine h.enter ?_
    rw [here]
    exact Mode.reads_advances _
  | spawns here =>
    have before : Mode.idle.reads c.events = some c.station.mode := h
    rw [newborn here] at before
    exact before
  | stops => exact ceased false .swapping
  | proceeds => exact ceased false _
  | _ => exact h

/-- Does a new round begin with it, or does the loop end? -/
def Event.ends : Event → Bool
  | .scans | .exits => true
  | _ => false

theorem Mode.reads_cons {m m' : Mode} {e : Event} {events : List Event} :
    m.reads (e :: events) = some m' ↔ ∃ m₁, m.next e = some m₁ ∧ m₁.reads events = some m' := by
  rw [reads, List.foldlM_cons]
  exact Option.bind_eq_some_iff

theorem Mode.reads_append {m m' : Mode} {before after : List Event} :
    m.reads (before ++ after) = some m' ↔ ∃ m₁, m.reads before = some m₁ ∧ m₁.reads after = some m' := by
  rw [reads, List.foldlM_append]
  exact Option.bind_eq_some_iff

/-- What follows in a turn, up to the next round. -/
theorem Mode.rest_of_turn {r : RoutineRef} {between after : List Event} {e : Event} {m : Mode}
    (reads : (turn r).reads (between ++ e :: after) = some m) (ends : e.ends = true)
    (inside : ∀ b ∈ between, b.ends = false) :
    ∃ moves, between = moves ++ [.releases r] ∧ ∀ b ∈ moves, b = .advances r := by
  induction between with
  | nil =>
    obtain ⟨m₁, next, -⟩ := reads_cons.mp reads
    cases e with
    | scans => cases next
    | exits => cases next
    | _ => cases ends
  | cons b between ih =>
    obtain ⟨m₁, next, rest⟩ := reads_cons.mp reads
    cases b with
    | advances q =>
      simp only [Mode.next] at next
      split at next
      · next same =>
        cases next
        obtain ⟨moves, rfl, all⟩ := ih rest fun b mem => inside b (List.mem_cons_of_mem _ mem)
        refine ⟨.advances q :: moves, rfl, fun b mem => ?_⟩
        rcases List.mem_cons.mp mem with rfl | mem
        · rw [same]
        · exact all b mem
      · cases next
    | releases q =>
      simp only [Mode.next] at next
      split at next
      · next same =>
        cases next
        cases between with
        | nil => exact ⟨[], congrArg (fun q => [Event.releases q]) same, nofun⟩
        | cons d between =>
          -- After the release nothing else can happen in this round.
          obtain ⟨m₂, next, -⟩ := reads_cons.mp rest
          have within := inside d (List.mem_cons_of_mem _ List.mem_cons_self)
          cases d with
          | scans => cases within
          | exits => cases within
          | _ => cases next
      · cases next
    | _ => cases next

/-- A routine that was found is resumed once and then released once, before the next round begins or the loop
ends. -/
theorem Mode.turn_of_found {r : RoutineRef} {before between after : List Event} {e : Event} {m : Mode}
    (reads : idle.reads (before ++ .finds r :: between ++ e :: after) = some m) (ends : e.ends = true)
    (inside : ∀ b ∈ between, b.ends = false) :
    ∃ moves, between = .resumes r :: moves ++ [.releases r] ∧ ∀ b ∈ moves, b = .advances r := by
  rw [List.append_assoc] at reads
  obtain ⟨m₁, -, reads⟩ := reads_append.mp reads
  obtain ⟨m₂, finds, reads⟩ := reads_cons.mp reads
  have found : m₂ = .found r := by
    cases m₁ with
    | scanning =>
      cases finds
      rfl
    | _ => cases finds
  subst found
  cases between with
  | nil =>
    obtain ⟨m₃, next, -⟩ := reads_cons.mp reads
    cases e with
    | scans => cases next
    | exits => cases next
    | _ => cases ends
  | cons b between =>
    obtain ⟨m₃, next, rest⟩ := reads_cons.mp reads
    cases b with
    | resumes q =>
      simp only [Mode.next] at next
      split at next
      · next same =>
        cases next
        obtain ⟨moves, rfl, all⟩ := rest_of_turn rest ends fun b mem => inside b (List.mem_cons_of_mem _ mem)
        exact ⟨moves, congrArg (fun q => Event.resumes q :: (moves ++ [.releases r])) same, all⟩
      · cases next
    | _ => cases next

/-! ## 4. Moves of bodies -/

theorem Station.event_running (r : RoutineRef) (p : Nat) (s : System κ) :
    ((running r : Station κ).advance p s).2.2 = some (.advances r) := by
  simp only [advance]
  split <;> rfl

/-- A body makes a move only in a step of a processor, which is recorded. -/
theorem Control.Acts.recorded {a : Act} {out : System κ × Control κ} (acts : c.Acts p s a out)
    (there : x < s.routines.size) (moved : (out.1.routine x).work ≠ (s.routine x).work) :
    a = .serve ∧ out.2.events = c.events ++ [.advances x] := by
  have turn : c.turn? a = some x := by
    by_contra other
    exact moved (acts.does.work x there other)
  have ceased : ∀ own step station, ((c.cease p s own step).2.enter station (some (.advances x))).events =
      c.events ++ [.advances x] := by
    intro own step station
    show (c.cease p s own step).2.events ++ _ = _
    rw [events_cease]
    rfl
  cases a with
  | serve =>
    refine ⟨rfl, ?_⟩
    change c.station.turn? = some x at turn
    cases acts with
    | idles other => exact absurd rfl other
    | goes =>
      cases station : c.station with
      | running r =>
        rw [station] at turn
        cases turn
        show c.events ++ ((Station.running x).advance p s).2.2.toList = _
        rw [Station.event_running]
        rfl
      | stopping r rest =>
        rw [station] at moved
        exact absurd rfl moved
      | _ =>
        rw [station] at turn
        cases turn
    | calls here =>
      rw [here] at turn
      cases turn
      exact ceased ..
    | ceases here call =>
      rw [here] at turn
      cases turn
      exact ceased ..
    | resumes here =>
      rw [here] at turn
      cases turn
      rfl
  | _ => cases turn

end CoopSched.Stopping
