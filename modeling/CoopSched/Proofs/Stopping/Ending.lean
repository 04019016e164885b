import CoopSched.Proofs.Stopping.Turns
/-!
# A stopped processor

1. What a processor does leaves the other processors alone, and groups that are stopped stay so (`Steady`).
2. A call of `stop` from somewhere else either finds a processor that has no thread to wait for, or waits for the end
   of the thread (`Fits.awaits`). Without a thread the processor cannot have been bound before, so that a thread that
   is started later finds the flag down and ends at once.
3. A group that was bound before is stopped when the call returns (`Closes`).
-/

namespace CoopSched.Stopping

open CoopSched.System (Check Look Search Stop)
open CoopSched.Exclusion (Deed Spares)

variable {κ : Type} {c : Control κ} {p q : Nat} {s s' : System κ} {g : GroupRef} {w w₀ : World κ}

/-! ## 1. What stays -/

/-- The processors are the same, and a group that was stopped still is. -/
structure Steady (s s' : System κ) : Prop where
  processors : s'.processors = s.processors
  groups : s.groups.size ≤ s'.groups.size
  stopped : ∀ g < s.groups.size, (s.group g).stopped = true → (s'.group g).stopped = true

namespace Steady

theorem of_eq (processors : s'.processors = s.processors) (groups : s'.groups = s.groups) : Steady s s' where
  processors := processors
  groups := Nat.le_of_eq (congrArg Arena.size groups.symm)
  stopped g _ stopped := by
    rw [System.group, groups]
    exact stopped

theorem of_lasts {may : GroupRef → Prop} (processors : s'.processors = s.processors)
    (lasts : System.Lasts may s s') : Steady s s' where
  processors := processors
  groups := lasts.groups
  stopped g there := (lasts.group g there).stopped

theorem modifyGroup (s : System κ) (g : GroupRef) {f : Group → Group}
    (stays : ∀ x, x.stopped = true → (f x).stopped = true) : Steady s (s.modifyGroup g f) where
  processors := rfl
  groups := Nat.le_of_eq (System.size_modifyGroup ..).symm
  stopped h _ stopped := by
    rw [System.group_modifyGroup]
    split
    · exact stays _ stopped
    · exact stopped

theorem look (s : System κ) (r : RoutineRef) (step : Look) : Steady s (s.look r step).1 := by
  cases step with
  | reading =>
    simp only [System.look]
    split <;> exact .of_eq rfl rfl
  | swapping => exact .of_eq rfl rfl
  | promoting => exact .of_eq rfl rfl

theorem search (s : System κ) (t : Thread) (g : GroupRef) (step : Search) :
    Steady s (s.search t g step).1 := by
  cases step with
  | opening =>
    simp only [System.search]
    split <;> exact .of_eq rfl rfl
  | passing levels slots =>
    cases slots with
    | nil => cases levels <;> exact .of_eq rfl rfl
    | cons r slots =>
      have acquired : Steady s (s.acquire t r).1 := .of_eq rfl rfl
      simp only [System.search]
      split <;> next outcome => rwa [outcome] at acquired
  | examining r step levels slots =>
    have looked := look s r step
    simp only [System.search]
    split <;> next outcome => rwa [outcome] at looked
  | dropping r levels slots => exact .of_eq rfl rfl

theorem check (s : System κ) (t : Thread) (r : RoutineRef) (step : Check) : Steady s (s.check t r step).1 := by
  cases step <;> simp only [System.check] <;> split <;> exact .of_eq rfl rfl

end Steady

/-- What concerns other processors. -/
structure Aside (p : Nat) (s s' : System κ) : Prop where
  size : s'.processors.size = s.processors.size
  other : ∀ q, q ≠ p → s'.processor q = s.processor q
  groups : s.groups.size ≤ s'.groups.size
  stopped : ∀ g < s.groups.size, (s.group g).stopped = true → (s'.group g).stopped = true

theorem Steady.aside (h : Steady s s') (p : Nat) : Aside p s s' where
  size := congrArg Arena.size h.processors
  other q _ := congrArg (fun a : Arena Processor => a.get q) h.processors
  groups := h.groups
  stopped := h.stopped

theorem aside_modifyProcessor (s : System κ) (p : Nat) (f : Processor → Processor) :
    Aside p s (s.modifyProcessor p f) where
  size := Arena.size_modify ..
  other q ne := by
    rw [System.processor_modifyProcessor, if_neg fun same => ne same.1.symm]
  groups := Nat.le_refl _
  stopped _ _ := id

theorem aside_stop (s : System κ) (own gone : Bool) (p : Nat) (step : Stop) :
    Aside p s (s.stop own gone p step).1 := by
  have same : Aside p s s := (Steady.of_eq rfl rfl).aside p
  cases step with
  | swapping =>
    simp only [System.stop]
    split
    · exact aside_modifyProcessor s p _
    · exact same
  | looking =>
    simp only [System.stop]
    split <;> exact same
  | closing g => exact (Steady.modifyGroup s g fun _ _ => rfl).aside p
  | filling g => exact (Steady.modifyGroup s g (f := Group.fill) fun _ => id).aside p
  | taking =>
    simp only [System.stop]
    split
    · exact aside_modifyProcessor s p _
    · exact same
  | joining =>
    have reported : ∀ n, Aside p s (s.report (.processor p) n) :=
      fun _ => (Steady.of_eq (by rfl) (by rfl)).aside p
    simp only [System.stop]
    split
    · exact reported _
    · split <;> exact same

theorem aside_cease (c : Control κ) (p : Nat) (s : System κ) (own : Bool) (step : Stop) :
    Aside p s (c.cease p s own step).1 := by
  rw [fst_cease]
  exact aside_stop s own _ p step

variable [Program κ]

theorem Station.steady_advance (a : Station κ) (p : Nat) (s : System κ)
    (plain : ∀ r, a = .running r → ((s.routine r).work.next s.labels).stopRest? = none) :
    Steady s (a.advance p s).1 := by
  cases a with
  | testing =>
    simp only [advance]
    split <;> exact .of_eq rfl rfl
  | reading =>
    simp only [advance]
    split <;> exact .of_eq rfl rfl
  | searching g step =>
    have searched := Steady.search s (.processor p) g step
    simp only [advance]
    split <;> next outcome => rwa [outcome] at searched
  | entering r step =>
    have checked := Steady.check s (.processor p) r step
    simp only [advance]
    split <;> next outcome => rwa [outcome] at checked
  | running r =>
    have moved : Steady s (s.move (.processor p) r).1 :=
      .of_lasts (System.processors_move s (.processor p) r (plain r rfl))
        ((System.kept_attends s).move (.refl _ s) (.processor p) r).toLasts
    simp only [advance]
    split <;> next outcome => rwa [outcome] at moved
  | waiting g =>
    exact .modifyGroup s g fun x => (Group.Signal.wait.later x).stopped
  | _ => exact .of_eq rfl rfl

theorem Control.Acts.aside {a : Act} {out : System κ × Control κ} (acts : c.Acts p s a out) :
    Aside p s out.1 := by
  cases acts with
  | idles other => exact (Steady.of_eq rfl rfl).aside p
  | goes inside plain => exact (c.station.steady_advance p s fun r here => (plain r here).2).aside p
  | calls here => exact aside_cease c p s true .swapping
  | ceases here call => exact aside_cease c p s true _
  | resumes here => exact (Steady.of_eq (by rfl) (by rfl)).aside p
  | binds => exact aside_modifyProcessor s p _
  | spawns here => exact aside_modifyProcessor s p _
  | fails here => exact (Steady.of_eq rfl rfl).aside p
  | stores here => exact aside_modifyProcessor s p _
  | stops => exact aside_cease c p s false .swapping
  | proceeds => exact aside_cease c p s false _

/-! ## 2. Threads that are waited for -/

omit [Program κ] in
/-- If the processor is not to run, nothing can happen there any more but the end of the loop. -/
def Station.Inert : Station κ → Prop
  | .absent | .testing | .ended => True
  | _ => False

/-- What a call of `stop` from somewhere else relies on. Either nothing can happen at the processor any more, or its
thread is kept, to be waited for. -/
def Call.Awaits (inert bound kept : Prop) : Call → Prop
  | .going _ .swapping => False
  | .going false .joining => inert ∨ bound
  | .going false _ => inert ∨ bound ∧ kept
  | .returned false => inert
  | _ => True

theorem Call.going_ne (own : Bool) (step : Stop) : Call.going own step ≠ .uncalled := nofun

theorem Call.returned_ne (own : Bool) : Call.returned own ≠ .uncalled := nofun

theorem Call.Awaits.imp {call : Call} {inert inert' bound bound' kept kept' : Prop}
    (h : call.Awaits inert bound kept) (still : call ≠ .uncalled → inert → inert') (bounds : bound → bound')
    (keeps : bound → kept → kept') : call.Awaits inert' bound' kept' := by
  cases call with
  | uncalled => trivial
  | going own step =>
    cases own with
    | true => cases step <;> exact h
    | false =>
      cases step with
      | swapping => exact h
      | joining => exact Or.imp (still nofun) bounds h
      | _ => exact Or.imp (still nofun) (fun both => ⟨bounds both.1, keeps both.1 both.2⟩) h
  | returned own =>
    cases own with
    | true => trivial
    | false => exact still nofun h

omit [Program κ] in
/-- What is known of a processor. -/
structure Fits (p : Nat) (s : System κ) (c : Control κ) : Prop where
  there : c.binding ≠ .uncalled → p < s.processors.size
  unbound : (s.processor p).group = none → c.binding = .uncalled
  group : ∀ g, (s.processor p).group = some g → g < s.groups.size
  newborn : c.binding = .uncalled ∨ c.binding = .spawning → c.station = .absent
  running : (s.processor p).running = true ↔ c.call = .uncalled
  /-- A processor that was bound and not stopped has kept its thread, if it has one. -/
  thread : c.binding = .returned → c.call = .uncalled → c.station = .absent ∨ (s.processor p).hasThread = true
  awaits : c.call.Awaits c.station.Inert (c.binding = .returned) ((s.processor p).hasThread = true)

namespace Fits

omit [Program κ] in
theorem of_begins (begins : w.Begins) (p : Nat) : Fits p w.sys (w.controls p) := by
  have fresh : w.controls p = {} := by rw [begins.world]
  rw [fresh]
  refine ⟨fun bound => absurd rfl bound, fun _ => rfl, fun g bound => ?_, fun _ => rfl,
    ⟨fun _ => rfl, fun _ => begins.running p⟩, nofun, trivial⟩
  exact nomatch (begins.unbound p).symm.trans bound

omit [Program κ] in
/-- Others do not matter. -/
theorem of_same (h : Fits p s c) (size : s'.processors.size = s.processors.size)
    (same : s'.processor p = s.processor p) (groups : s.groups.size ≤ s'.groups.size) : Fits p s' c where
  there bound := size ▸ h.there bound
  unbound := by rw [same]; exact h.unbound
  group g := by
    rw [same]
    exact fun bound => Nat.lt_of_lt_of_le (h.group g bound) groups
  newborn := h.newborn
  running := by rw [same]; exact h.running
  thread := by rw [same]; exact h.thread
  awaits := by rw [same]; exact h.awaits

omit [Program κ] in
/-- A loop that is there goes on. -/
theorem enter (h : Fits p s c) (station : Station κ) (done : Option Event) (present : c.station ≠ .absent)
    (inert : c.call ≠ .uncalled → c.station.Inert → station.Inert) : Fits p s (c.enter station done) where
  there := h.there
  unbound := h.unbound
  group := h.group
  newborn early := absurd (h.newborn early) present
  running := h.running
  thread bound uncalled := .inr ((h.thread bound uncalled).resolve_left present)
  awaits := h.awaits.imp inert id fun _ => id

omit [Program κ] in
/-- In the middle of a turn. -/
theorem enter_of_turn (h : Fits p s c) {r : RoutineRef} (turn : c.station.turn? = some r) (station : Station κ)
    (done : Option Event) : Fits p s (c.enter station done) := by
  refine h.enter station done (fun absent => ?_) fun _ inert => ?_
  · rw [absent] at turn
    cases turn
  · cases here : c.station with
    | absent | testing | ended =>
      rw [here] at turn
      cases turn
    | _ =>
      rw [here] at inert
      cases inert

theorem advance (h : Fits p s c)
    (plain : ∀ r, c.station = .running r → ((s.routine r).work.next s.labels).stopRest? = none) :
    Fits p (c.station.advance p s).1 (c.enter (c.station.advance p s).2.1 (c.station.advance p s).2.2) := by
  have steady := c.station.steady_advance p s plain
  have aside := steady.aside p
  have same : (c.station.advance p s).1.processor p = s.processor p :=
    congrArg (fun a : Arena Processor => a.get p) steady.processors
  refine of_same (s := s) ?_ aside.size same aside.groups
  cases station : c.station with
  | absent =>
    have still : c.enter .absent none = c := by
      rw [Control.enter, ← station]
      simp
    show Fits p s (c.enter .absent none)
    rw [still]
    exact h
  | testing =>
    refine h.enter _ _ (by rw [station]; rintro ⟨⟩) fun called _ => ?_
    have halted : (s.processor p).running = false := by
      rw [← Bool.not_eq_true, h.running]
      exact called
    simp only [Station.advance, halted]
    exact trivial
  | ended => exact h.enter _ _ (by rw [station]; rintro ⟨⟩) fun _ _ => trivial
  | _ =>
    refine h.enter _ _ (by rw [station]; rintro ⟨⟩) fun _ inert => ?_
    rw [station] at inert
    cases inert

omit [Program κ] in
/-- A change of the processor itself. -/
theorem of_modify {f : Processor → Processor} (there : p < s.processors.size)
    (unbound : (f (s.processor p)).group = none → c.binding = .uncalled)
    (group : ∀ g, (f (s.processor p)).group = some g → g < s.groups.size)
    (newborn : c.binding = .uncalled ∨ c.binding = .spawning → c.station = .absent)
    (running : (f (s.processor p)).running = true ↔ c.call = .uncalled)
    (thread : c.binding = .returned → c.call = .uncalled →
      c.station = .absent ∨ (f (s.processor p)).hasThread = true)
    (awaits : c.call.Awaits c.station.Inert (c.binding = .returned) ((f (s.processor p)).hasThread = true)) :
    Fits p (s.modifyProcessor p f) c := by
  have here : (s.modifyProcessor p f).processor p = f (s.processor p) := by
    rw [System.processor_modifyProcessor, if_pos ⟨rfl, there⟩]
  have size : p < (s.modifyProcessor p f).processors.size := by
    rw [(aside_modifyProcessor s p f).size]
    exact there
  exact ⟨fun _ => size, here ▸ unbound, here ▸ group, newborn, here ▸ running, here ▸ thread,
    here ▸ awaits⟩

omit [Program κ] in
/-- The call of `stop` stands somewhere else. -/
theorem setCall (h : Fits p s c) {call : Call} (before : c.call ≠ .uncalled) (after : call ≠ .uncalled)
    (awaits : call.Awaits c.station.Inert (c.binding = .returned) ((s.processor p).hasThread = true)) :
    Fits p s { c with call } where
  there := h.there
  unbound := h.unbound
  group := h.group
  newborn := h.newborn
  running := ⟨fun runs => absurd (h.running.mp runs) before, fun uncalled => absurd uncalled after⟩
  thread _ uncalled := absurd uncalled after
  awaits := awaits

omit [Program κ] in
/-- A call of `stop` is made. -/
theorem cease_swapping (h : Fits p s c) (there : p < s.processors.size) (uncalled : c.call = .uncalled) (own : Bool)
    (settled : own = false → c.Settled) :
    Fits p (c.cease p s own .swapping).1 (c.cease p s own .swapping).2 := by
  have runs := h.running.mpr uncalled
  have made : c.cease p s own .swapping =
      (s.modifyProcessor p Processor.halt, { c with call := .going own .looking }) := by
    simp only [Control.cease, System.stop, runs, if_true]
  rw [made]
  refine of_modify there h.unbound h.group h.newborn ⟨fun runs => absurd runs Bool.false_ne_true,
    fun still => absurd still (Call.going_ne own _)⟩ (fun _ still => absurd still (Call.going_ne own _)) ?_
  cases own with
  | true => trivial
  | false =>
    rcases settled rfl with unbound | bound
    · exact .inl (by rw [h.newborn (.inl unbound)]; trivial)
    · refine (h.thread bound uncalled).imp (fun absent => ?_) fun kept => ⟨bound, kept⟩
      rw [absent]
      trivial

omit [Program κ] in
/-- A call of `stop` goes on. -/
theorem cease_going (h : Fits p s c) {own : Bool} {step : Stop} (call : c.call = .going own step) :
    Fits p (c.cease p s own step).1 (c.cease p s own step).2 := by
  have before : c.call ≠ .uncalled := by rw [call]; exact Call.going_ne own step
  have awaits := h.awaits
  rw [call] at awaits
  have goes : ∀ next, (Call.going own next).Awaits c.station.Inert (c.binding = .returned)
      ((s.processor p).hasThread = true) → Fits p s { c with call := .going own next } :=
    fun next => h.setCall before (Call.going_ne own next)
  have returns : (own = false → c.station.Inert) → Fits p s { c with call := .returned own } := by
    intro inert
    refine h.setCall before (Call.returned_ne own) ?_
    cases own with
    | true => trivial
    | false => exact inert rfl
  cases step with
  | swapping => cases awaits
  | looking =>
    simp only [Control.cease, System.stop]
    cases (s.processor p).group with
    | some g => exact goes (.closing g) (by cases own <;> exact awaits)
    | none => exact goes .taking (by cases own <;> exact awaits)
  | closing g =>
    have closed := goes (.filling g) (by cases own <;> exact awaits)
    exact closed.of_same rfl rfl (Nat.le_of_eq (System.size_modifyGroup ..).symm)
  | filling g =>
    have filled := goes .taking (by cases own <;> exact awaits)
    exact filled.of_same rfl rfl (Nat.le_of_eq (System.size_modifyGroup ..).symm)
  | taking =>
    simp only [Control.cease, System.stop]
    by_cases kept : (s.processor p).hasThread = true
    · have there : p < s.processors.size := by
        by_contra outside
        have absent : s.processor p = default := Arena.get_of_size_le s.processors (Nat.le_of_not_lt outside)
        rw [absent] at kept
        cases kept
      simp only [kept, if_true]
      have halted : ¬(s.processor p).running = true := fun runs => before (h.running.mp runs)
      refine of_modify there h.unbound h.group h.newborn ⟨fun runs => absurd runs halted,
        fun still => absurd still (Call.going_ne own _)⟩ (fun _ still => absurd still (Call.going_ne own _)) ?_
      cases own with
      | true => trivial
      | false => exact Or.imp_right And.left awaits
    · simp only [kept, Bool.false_eq_true, if_false]
      refine returns fun other => ?_
      subst other
      exact awaits.resolve_right fun both => kept both.2
  | joining =>
    cases own with
    | true =>
      have returned := returns fun other => by cases other
      exact returned.of_same rfl rfl (Nat.le_refl _)
    | false =>
      simp only [Control.cease, System.stop, Bool.false_eq_true, if_false]
      cases gone : c.isGone with
      | false => exact goes .joining awaits
      | true =>
        refine returns fun _ => ?_
        unfold Control.isGone at gone
        split at gone
        · next ended => rw [ended]; trivial
        · cases gone

theorem act (h : Fits p s c) {a : Act} {out : System κ × Control κ} (acts : c.Acts p s a out) :
    Fits p out.1 out.2 := by
  have early (unbound : c.binding ≠ .returned) {inert bound kept : Prop} (still : c.station.Inert → inert) :
      c.call.Awaits inert bound kept :=
    h.awaits.imp (fun _ => still) (absurd · unbound) fun bound _ => absurd bound unbound
  cases acts with
  | idles other => exact h
  | goes inside plain => exact h.advance fun r here => (plain r here).2
  | @calls r rest here uncalled bound =>
    have there := h.there (by rw [bound]; exact nofun)
    have called := h.cease_swapping there uncalled true nofun
    exact called.enter_of_turn (by rw [station_cease, here]; rfl) _ _
  | @ceases r rest step here call =>
    exact (h.cease_going call).enter_of_turn (by rw [station_cease, here]; rfl) _ _
  | @resumes r rest here =>
    have moved := h.enter_of_turn (by rw [here]; rfl) (.running r) (some (.advances r))
    exact moved.of_same rfl rfl (Nat.le_refl _)
  | @binds g unbound there group =>
    have uncalled := h.unbound unbound
    refine of_modify there nofun (fun g' same => ?_) (fun _ => h.newborn (.inl uncalled)) h.running nofun
      (early (by rw [uncalled]; exact nofun) id)
    cases same
    exact group
  | spawns here =>
    have called : c.binding ≠ .uncalled := by rw [here]; rintro ⟨⟩
    refine of_modify (h.there called) (fun unbound => absurd (h.unbound unbound) called) h.group ?_ h.running nofun
      (early (by rw [here]; rintro ⟨⟩) fun _ => trivial)
    rintro (unbound | unbound) <;> cases unbound
  | fails here =>
    have called : c.binding ≠ .uncalled := by rw [here]; rintro ⟨⟩
    refine ⟨fun _ => h.there called, fun unbound => absurd (h.unbound unbound) called, h.group, ?_, h.running,
      fun _ _ => .inl (h.newborn (.inr here)), early (by rw [here]; rintro ⟨⟩) id⟩
    rintro (unbound | unbound) <;> cases unbound
  | stores here =>
    have called : c.binding ≠ .uncalled := by rw [here]; rintro ⟨⟩
    refine of_modify (h.there called) (fun unbound => absurd (h.unbound unbound) called) h.group ?_ h.running
      (fun _ _ => .inr rfl) (early (by rw [here]; rintro ⟨⟩) id)
    rintro (unbound | unbound) <;> cases unbound
  | stops there uncalled settled => exact h.cease_swapping there uncalled false fun _ => settled
  | proceeds call => exact h.cease_going call

end Fits

/-! ## 3. Groups that are stopped -/

/-- How far a call of `stop` has come with the group. -/
def Call.Closes (g : GroupRef) (x : Group) : Call → Prop
  | .uncalled | .going _ .looking => True
  | .going _ .swapping => False
  | .going _ (.closing g') => g' = g
  | .going _ _ | .returned _ => x.stopped = true

omit [Program κ] in
theorem Call.Closes.imp {x x' : Group} {call : Call} (h : call.Closes g x)
    (stays : x.stopped = true → x'.stopped = true) : call.Closes g x' := by
  cases call with
  | uncalled => trivial
  | going own step => cases step <;> first | exact stays h | exact h
  | returned own => exact stays h

omit [Program κ] in
theorem group_cease (c : Control κ) (p : Nat) (s : System κ) (own : Bool) (step : Stop) :
    ((c.cease p s own step).1.processor p).group = (s.processor p).group := by
  have halted := System.processor_modifyProcessor_congr Processor.group (f := Processor.halt) (fun _ => rfl) s p p
  have given := System.processor_modifyProcessor_congr Processor.group (f := Processor.giveBack) (fun _ => rfl) s p p
  rw [fst_cease]
  cases step with
  | swapping =>
    simp only [System.stop]
    split
    · exact halted
    · rfl
  | looking =>
    simp only [System.stop]
    split <;> rfl
  | closing g => rfl
  | filling g => rfl
  | taking =>
    simp only [System.stop]
    split
    · exact given
    · rfl
  | joining =>
    simp only [System.stop]
    split
    · rfl
    · split <;> rfl

omit [Program κ] in
/-- A call of `stop` makes its way to the group. -/
theorem closes_cease (c : Control κ) (bound : (s.processor p).group = some g) (there : g < s.groups.size)
    {own : Bool} {step : Stop} (runs : step = .swapping → (s.processor p).running = true)
    (closes : step ≠ .swapping → (Call.going own step).Closes g (s.group g)) :
    (c.cease p s own step).2.call.Closes g ((c.cease p s own step).1.group g) := by
  cases step with
  | swapping =>
    simp only [Control.cease, System.stop, runs rfl, if_true]
    trivial
  | looking =>
    simp only [Control.cease, System.stop, bound]
    rfl
  | closing g' =>
    have same : g' = g := closes (by rintro ⟨⟩)
    subst same
    show ((s.modifyGroup g' Group.close).group g').stopped = true
    rw [System.group_modifyGroup, if_pos ⟨rfl, there⟩]
    rfl
  | filling g' =>
    have stopped : (s.group g).stopped = true := closes (by rintro ⟨⟩)
    show ((s.modifyGroup g' Group.fill).group g).stopped = true
    rw [System.group_modifyGroup]
    split <;> exact stopped
  | taking =>
    have stopped : (s.group g).stopped = true := closes (by rintro ⟨⟩)
    cases kept : (s.processor p).hasThread <;>
      simp only [Control.cease, System.stop, kept, Bool.false_eq_true, if_false, if_true] <;> exact stopped
  | joining =>
    have stopped : (s.group g).stopped = true := closes (by rintro ⟨⟩)
    cases own with
    | true => exact stopped
    | false =>
      cases gone : c.isGone <;>
        simp only [Control.cease, System.stop, gone, Bool.false_eq_true, if_false, if_true] <;> exact stopped

variable {a : Act} {out : System κ × Control κ}

/-- After a step the group is as far as before, or further. -/
theorem Control.Acts.closes (acts : c.Acts p s a out) (fits : Fits p s c) (bound : (s.processor p).group = some g)
    (closes : c.call.Closes g (s.group g)) :
    (out.1.processor p).group = some g ∧ out.2.call.Closes g (out.1.group g) := by
  have there := fits.group g bound
  have begins (uncalled : c.call = .uncalled) (own : Bool) :
      ((c.cease p s own .swapping).1.processor p).group = some g ∧
        (c.cease p s own .swapping).2.call.Closes g ((c.cease p s own .swapping).1.group g) :=
    ⟨(group_cease ..).trans bound,
      closes_cease c bound there (fun _ => fits.running.mpr uncalled) fun other => absurd rfl other⟩
  have goes {own : Bool} {step : Stop} (call : c.call = .going own step) :
      ((c.cease p s own step).1.processor p).group = some g ∧
        (c.cease p s own step).2.call.Closes g ((c.cease p s own step).1.group g) := by
    rw [call] at closes
    refine ⟨(group_cease ..).trans bound, closes_cease c bound there (fun first => ?_) fun _ => closes⟩
    subst first
    cases closes
  have same {f : Processor → Processor} (keeps : ∀ x, (f x).group = x.group) :
      ((s.modifyProcessor p f).processor p).group = some g :=
    (System.processor_modifyProcessor_congr Processor.group keeps s p p).trans bound
  cases acts with
  | idles other => exact ⟨bound, closes⟩
  | goes inside plain =>
    have steady := c.station.steady_advance p s fun r here => (plain r here).2
    have processor : (c.station.advance p s).1.processor p = s.processor p :=
      congrArg (fun a : Arena Processor => a.get p) steady.processors
    exact ⟨processor ▸ bound, closes.imp (steady.stopped g there)⟩
  | calls here uncalled returned => exact begins uncalled true
  | ceases here call => exact goes call
  | resumes here => exact ⟨bound, closes⟩
  | binds unbound => exact nomatch unbound.symm.trans bound
  | spawns here => exact ⟨same fun _ => rfl, closes⟩
  | fails here => exact ⟨bound, closes⟩
  | stores here => exact ⟨same fun _ => rfl, closes⟩
  | stops there uncalled settled => exact begins uncalled false
  | proceeds call => exact goes call

/-- After the return of a call of `stop` from somewhere else no body makes a move. -/
theorem Control.Acts.silent (acts : c.Acts p s a out) (fits : Fits p s c) (call : c.call = .returned false) :
    out.2.call = .returned false ∧ ∃ more, out.2.events = c.events ++ more ∧ ∀ r, .advances r ∉ more := by
  have inert : c.station.Inert := by
    have awaits := fits.awaits
    rwa [call] at awaits
  have nothing : ∃ more, c.events = c.events ++ more ∧ ∀ r, Event.advances r ∉ more :=
    ⟨[], (List.append_nil _).symm, fun _ => List.not_mem_nil⟩
  cases acts with
  | goes =>
    refine ⟨call, _, rfl, fun r mem => ?_⟩
    cases station : c.station with
    | testing =>
      simp only [station, Station.advance] at mem
      split at mem <;> simp at mem
    | absent => simp [station, Station.advance] at mem
    | ended => simp [station, Station.advance] at mem
    | _ =>
      rw [station] at inert
      cases inert
  | calls here uncalled => cases call.symm.trans uncalled
  | ceases here going => cases call.symm.trans going
  | resumes here =>
    rw [here] at inert
    cases inert
  | stops there uncalled => cases call.symm.trans uncalled
  | proceeds going => cases call.symm.trans going
  | _ => exact ⟨call, nothing⟩

end CoopSched.Stopping
