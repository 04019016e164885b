import CoopSched.Proofs.Wakeup.Control
/-!
# What a resting body still hears of

The second invariant of the machine. A body that rests, because it found its queue empty or has not
looked yet, is either about to be run again (`Promising`), or nothing has reached it since it found the
queue empty (`Quiet`). In the second case every message in the queue has an announcement that is still
under way, unless one found no callback, and no message has been taken away.
-/

namespace CoopSched.Wakeup

open CoopSched.System (Delivery Look Check)

variable {κ : Type} {T : Task} {w : World κ} {s : System κ} {t : Thread} {next : Activity}

/-! ## 1. The invariant -/

/-- The body rests before its next look into the queue. -/
def Resting (stage : Option ReaderPhase) : Prop := stage = some .parking ∨ stage = some .idle

/-- The routine is ready, or will be after the next examination. -/
def Promising (T : Task) (w : World κ) : Prop :=
  (T.view w.sys).state = .ready ∨ (T.view w.sys).recheck = true ∨
    ∃ t, w.doing t = .examining .promoting

/-- Since the body found its queue empty, nothing has reached it. -/
structure Quiet (T : Task) (w : World κ) : Prop where
  state : (T.view w.sys).state = .dataWait
  recheck : (T.view w.sys).recheck = false
  unpromoted : ∀ t, w.doing t ≠ .examining .promoting
  untold : w.told = false
  emptied : 0 < w.empties
  awaited : (T.view w.sys).messages ≠ [] → w.missed = true ∨
    ∃ t inside d, w.doing t = .delivering w.empties inside d ∧ IsPending d
  present : (w.missed = true ∨ ∃ t inside d, w.doing t = .delivering w.empties inside d) →
    (T.view w.sys).messages ≠ []

structure Heard (T : Task) (w : World κ) : Prop where
  resting : Resting (T.view w.sys).stage →
    (Promising T w ∧ (0 < w.empties → w.told = true)) ∨ Quiet T w
  busy : ¬ Resting (T.view w.sys).stage → 0 < w.empties → w.told = true
  late : w.missed = true → 0 < w.empties

open World (doing_turn_self doing_turn_of_ne doing_turn_eq told_become)

/-! ## 2. Steps of one thread -/

/-- A thread that is not about to write the state leaves the promise as it is. -/
theorem Promising.turn (h : Promising T w) (plain : w.doing t ≠ .examining .promoting)
    (state : (T.view s).state = (T.view w.sys).state)
    (recheck : (T.view s).recheck = (T.view w.sys).recheck) :
    Promising T (w.turn T t s next) := by
  rcases h with ready | flag | ⟨u, promoting⟩
  · exact .inl (state.trans ready)
  · exact .inr (.inl (recheck.trans flag))
  · have ne : u ≠ t := by
      rintro rfl
      exact plain promoting
    exact .inr (.inr ⟨u, (doing_turn_of_ne w ne s next).trans promoting⟩)

/-- The flag of a quiet task has not been up as long as it is not put up. -/
theorem Quiet.untold_become (h : Quiet T w) (down : (T.view s).recheck = false) :
    (w.become T s).told = false := by
  show (w.told || (T.view s).recheck) = false
  rw [h.untold, down, Bool.or_false]

theorem told_become_of_flag (flag : (T.view s).recheck = true) : (w.become T s).told = true := by
  show (w.told || (T.view s).recheck) = true
  rw [flag, Bool.or_true]

/-- A thread whose announcement stays under way leaves a quiet task quiet. -/
theorem Quiet.turn (h : Quiet T w) (plain : next ≠ .examining .promoting)
    (state : (T.view s).state = (T.view w.sys).state)
    (recheck : (T.view s).recheck = (T.view w.sys).recheck)
    (messages : (T.view s).messages = (T.view w.sys).messages)
    (goesOn : ∀ {inside d}, w.doing t = .delivering w.empties inside d → IsPending d →
      ∃ inside d, next = .delivering w.empties inside d ∧ IsPending d)
    (began : ∀ {inside d}, next = .delivering w.empties inside d →
      ∃ inside d, w.doing t = .delivering w.empties inside d) :
    Quiet T (w.turn T t s next) where
  state := state.trans h.state
  recheck := recheck.trans h.recheck
  unpromoted u promoting := by
    rcases doing_turn_eq promoting with ⟨-, goes⟩ | ⟨-, before⟩
    · exact plain goes
    · exact h.unpromoted u before
  untold := h.untold_become (recheck.trans h.recheck)
  emptied := h.emptied
  awaited full := by
    rcases h.awaited (messages ▸ full) with missed | ⟨u, inside, d, doing, pending⟩
    · exact .inl missed
    · by_cases hu : u = t
      · subst hu
        obtain ⟨inside', d', goes, pending'⟩ := goesOn doing pending
        exact .inr ⟨u, inside', d', (doing_turn_self w u s next).trans goes, pending'⟩
      · exact .inr ⟨u, inside, d, (doing_turn_of_ne w hu s next).trans doing, pending⟩
  present evidence := by
    show (T.view s).messages ≠ []
    rw [messages]
    refine h.present ?_
    rcases evidence with missed | ⟨u, inside, d, doing⟩
    · exact .inl missed
    · rcases doing_turn_eq doing with ⟨-, goes⟩ | ⟨-, before⟩
      · obtain ⟨inside', d', before⟩ := began goes
        exact .inr ⟨t, inside', d', before⟩
      · exact .inr ⟨u, inside, d, before⟩

namespace Heard

/-- Once the body has found its queue empty, a task that is not quiet was told of. -/
theorem told_of_loud (h : Heard T w) (loud : ¬ Quiet T w) (emptied : 0 < w.empties) :
    w.told = true := by
  by_cases rests : Resting (T.view w.sys).stage
  · rcases h.resting rests with ⟨-, told⟩ | quiet
    · exact told emptied
    · exact absurd quiet loud
  · exact h.busy rests emptied

/-- A step that leaves the body where it is, resting or not. -/
theorem turn (h : Heard T w)
    (rest : Resting (T.view s).stage ↔ Resting (T.view w.sys).stage)
    (promising : Promising T w → Promising T (w.turn T t s next))
    (quiet : Quiet T w → Quiet T (w.turn T t s next)) : Heard T (w.turn T t s next) where
  resting resting := by
    rcases h.resting (rest.mp resting) with ⟨promise, told⟩ | silent
    · exact .inl ⟨promising promise, fun emptied => told_become (told emptied) T s⟩
    · exact .inr (quiet silent)
  busy busy emptied :=
    told_become (h.busy (fun resting => busy (rest.mpr resting)) emptied) T s
  late := h.late

/-- A step of a thread that does not announce anything and does not write the state, by what it makes of the
view. -/
theorem turn_of_plain (h : Heard T w) {a : Activity} (doing : w.doing t = a) {v : View κ} (view : T.view s = v)
    (rest : Resting v.stage ↔ Resting (T.view w.sys).stage)
    (state : v.state = (T.view w.sys).state) (recheck : v.recheck = (T.view w.sys).recheck)
    (messages : v.messages = (T.view w.sys).messages) (plain : a ≠ .examining .promoting)
    (silent : ∀ {since inside d}, a = .delivering since inside d → ¬ IsPending d)
    (after : (T.view w.sys).state = .dataWait → next ≠ .examining .promoting)
    (silentAfter : ∀ {since inside d}, next ≠ .delivering since inside d) :
    Heard T (w.turn T t s next) := by
  subst view doing
  exact h.turn rest (fun promise => promise.turn plain state recheck) fun quiet =>
    quiet.turn (after quiet.state) state recheck messages
      (fun doing pending => absurd pending (silent doing)) fun goes => absurd goes silentAfter

/-- A step between two stages that do not rest. -/
theorem turn_of_busy (h : Heard T w) (before : ¬ Resting (T.view w.sys).stage)
    (after : ¬ Resting (T.view s).stage) : Heard T (w.turn T t s next) where
  resting resting := absurd resting after
  busy _ emptied := told_become (h.busy before emptied) T s
  late := h.late

/-- A step after which the routine is ready or will be. -/
theorem turn_of_promising (h : Heard T w) (promise : Promising T (w.turn T t s next))
    (told : 0 < w.empties → (w.turn T t s next).told = true) : Heard T (w.turn T t s next) where
  resting _ := .inl ⟨promise, told⟩
  busy _ emptied := told emptied
  late := h.late

/-! ## 3. Every effect keeps the invariant -/

/-- A message is put in from outside. -/
theorem pushed (h : Heard T w) {message : Int} (doing : w.doing t = .away)
    (view : T.view s = { T.view w.sys with messages := (T.view w.sys).messages ++ [message] }) :
    Heard T (w.turn T t s (.delivering w.empties false .calling)) := by
  have plain : w.doing t ≠ .examining .promoting := doing ▸ nofun
  have full : (T.view s).messages ≠ [] := by
    rw [view]
    exact List.append_ne_nil_of_right_ne_nil _ nofun
  have under : (w.turn T t s (.delivering w.empties false .calling)).doing t =
      .delivering w.empties false .calling := doing_turn_self w t s _
  refine h.turn (by rw [view]; rfl) (fun promise => promise.turn plain ?_ ?_) fun quiet => ?_
  · rw [view]
  · rw [view]
  · have state : (T.view s).state = .dataWait := (congrArg View.state view).trans quiet.state
    have down : (T.view s).recheck = false := (congrArg View.recheck view).trans quiet.recheck
    -- The new announcement is the one that the new message awaits.
    refine ⟨state, down, fun u promoting => ?_, quiet.untold_become down, quiet.emptied,
      fun _ => .inr ⟨t, _, _, under, trivial⟩, fun _ => full⟩
    rcases doing_turn_eq promoting with ⟨-, goes⟩ | ⟨-, before⟩
    · cases goes
    · exact quiet.unpromoted u before

/-- An announcement finds no callback. -/
theorem missed (h : Heard T w) {since : Nat} {inside : Bool}
    (doing : w.doing t = .delivering since inside .calling) :
    Heard T
      { w.turn T t w.sys (if inside then .running else .away) with
        missed := w.missed || decide (0 < w.empties ∧ since = w.empties) } where
  resting resting := by
    rcases h.resting resting with ⟨promise, told⟩ | quiet
    · refine .inl ⟨?_, fun emptied => ?_⟩
      · have plain : w.doing t ≠ .examining .promoting := doing ▸ nofun
        exact (promise.turn (s := w.sys) plain rfl rfl :
          Promising T (w.turn T t w.sys (if inside then .running else .away)))
      · exact told_become (told emptied) T w.sys
    · refine .inr ⟨quiet.state, quiet.recheck, fun u promoting => ?_,
        quiet.untold_become quiet.recheck, quiet.emptied, fun full => ?_, fun evidence => ?_⟩
      · rcases doing_turn_eq (T := T) (t := t) (s := w.sys) promoting with ⟨-, goes⟩ | ⟨-, before⟩
        · cases inside <;> cases goes
        · exact quiet.unpromoted u before
      · rcases quiet.awaited full with missed | ⟨u, inside', d, doing', pending⟩
        · left
          show (w.missed || _) = true
          rw [missed, Bool.true_or]
        · by_cases hu : u = t
          · subst hu
            cases doing.symm.trans doing'
            left
            show (w.missed || decide (0 < w.empties ∧ w.empties = w.empties)) = true
            simp [quiet.emptied]
          · exact .inr ⟨u, inside', d, (doing_turn_of_ne (T := T) w hu w.sys _).trans doing', pending⟩
      · refine quiet.present ?_
        rcases evidence with missed | ⟨u, inside', d, doing'⟩
        · rw [Bool.or_eq_true, decide_eq_true_iff] at missed
          rcases missed with missed | ⟨-, since⟩
          · exact .inl missed
          · exact .inr ⟨t, inside, .calling, since ▸ doing⟩
        · rcases doing_turn_eq (T := T) (t := t) (s := w.sys) doing' with ⟨-, goes⟩ | ⟨-, before⟩
          · cases inside <;> cases goes
          · exact .inr ⟨u, inside', d, before⟩
  busy busy emptied := told_become (h.busy busy emptied) T w.sys
  late missed := by
    rw [Bool.or_eq_true, decide_eq_true_iff] at missed
    rcases missed with missed | ⟨emptied, -⟩
    · exact h.late missed
    · exact emptied

/-- The body finds its queue empty. -/
theorem emptied (h : Control T w) {c : κ} (doing : w.doing t = .running)
    (work : (T.view w.sys).work = .reader T.queue .fetching c)
    (empty : (T.view w.sys).messages = [])
    (view : T.view s = { T.view w.sys with work := .reader T.queue .idle c }) :
    Heard T
      { w.turn T t s .running with
        empties := w.empties + 1, missed := false, told := (T.view s).recheck } where
  resting _ := by
    cases flag : (T.view s).recheck with
    | true => exact .inl ⟨.inr (.inl flag), fun _ => rfl⟩
    | false =>
      have held := h.holder_of doing id
      have waits : (T.view w.sys).state = .dataWait :=
        (h.holding doing id).2 (.inl (congrArg stageOf work))
      have nothing : (T.view s).messages = [] := (congrArg View.messages view).trans empty
      refine .inr ⟨(congrArg View.state view).trans waits, flag, fun u => ?_, rfl,
        Nat.succ_pos _, fun full => absurd nothing full, ?_⟩
      · -- Only the holder may be promoting, and the holder is in its turn.
        intro promoting
        rcases doing_turn_eq (T := T) (t := t) (s := s) promoting with ⟨-, goes⟩ | ⟨other, before⟩
        · cases goes
        · exact other (Option.some.inj ((h.holder_of before id).symm.trans held))
      · -- What is announced now was put in before the body found its queue empty.
        rintro (missed | ⟨u, inside, d, doing'⟩)
        · cases missed
        · rcases doing_turn_eq (T := T) (t := t) (s := s) doing' with ⟨-, goes⟩ | ⟨-, before⟩
          · cases goes
          · exact absurd (h.announces before).since (Nat.not_succ_le_self _)
  busy busy := by
    refine absurd (.inr ?_) busy
    exact congrArg View.stage view
  late missed := absurd missed nofun

/-- Nobody takes a step, and only the flag may have been put up. -/
theorem of_same_rest (h : Heard T w) {recheck : Bool} {creation : Creation}
    (view : T.view s = { T.view w.sys with recheck })
    (mono : (T.view w.sys).recheck = true → recheck = true) :
    Heard T { w.become T s with creation } where
  resting resting := by
    have resting : Resting (T.view s).stage := resting
    have stage : (T.view s).stage = (T.view w.sys).stage := by rw [view]; rfl
    have state : (T.view s).state = (T.view w.sys).state := by rw [view]
    have flag : (T.view s).recheck = recheck := by rw [view]
    have messages : (T.view s).messages = (T.view w.sys).messages := by rw [view]
    have before : Resting (T.view w.sys).stage := stage ▸ resting
    rcases h.resting before with ⟨promise, told⟩ | quiet
    · refine .inl ⟨?_, fun emptied => ?_⟩
      · rcases promise with ready | up | promoting
        · exact .inl (state.trans ready)
        · exact .inr (.inl (flag.trans (mono up)))
        · exact .inr (.inr promoting)
      · exact told_become (told emptied) T s
    · cases recheck with
      | true =>
        exact .inl ⟨.inr (.inl flag), fun _ => told_become_of_flag flag⟩
      | false =>
        refine .inr ⟨state.trans quiet.state, flag, quiet.unpromoted, quiet.untold_become flag,
          quiet.emptied, ?_, ?_⟩
        · exact fun full => quiet.awaited (messages ▸ full)
        · intro evidence
          show (T.view s).messages ≠ []
          rw [messages]
          exact quiet.present evidence
  busy busy emptied := by
    have stage : (T.view s).stage = (T.view w.sys).stage := by rw [view]; rfl
    have before : ¬ Resting (T.view w.sys).stage := fun resting => busy (stage.symm ▸ resting)
    exact told_become (h.busy before emptied) T s
  late := h.late

/-- A step of an announcement that does not put up the flag. -/
theorem delivered (h : Heard T w) {since : Nat} {inside : Bool} {d d' : Delivery}
    (doing : w.doing t = .delivering since inside d) (view : T.view s = T.view w.sys)
    (pending : IsPending d → IsPending d' ∨ (T.view w.sys).state.isWaiting = false) :
    Heard T (w.turn T t s (.delivering since inside d')) := by
  have plain : w.doing t ≠ .examining .promoting := doing ▸ nofun
  refine h.turn (by rw [view]) (fun promise => promise.turn plain ?_ ?_) fun quiet =>
    quiet.turn nofun ?_ ?_ ?_ ?_ ?_
  · rw [view]
  · rw [view]
  · rw [view]
  · rw [view]
  · rw [view]
  · intro inside' d'' doing' before
    cases doing.symm.trans doing'
    rcases pending before with after | awake
    · exact ⟨inside, d', rfl, after⟩
    · -- The announcement passes by the flag only if the routine does not wait.
      rw [quiet.state] at awake
      cases awake
  · intro inside' d'' goes
    cases goes
    exact ⟨inside, d, doing⟩

/-- An examination of a task that waits for data does not lead to its promotion. -/
theorem turn_of_examined (h : Heard T w) {l : Look} (doing : w.doing t = .examining l) (plain : l ≠ .promoting)
    (view : T.view s = T.view w.sys) (judged : l = .reading → Judged (T.view w.sys) next)
    (swapped : l = .swapping → next = .leaving) : Heard T (w.turn T t s next) := by
  have after : ((T.view w.sys).state = .dataWait → next ≠ .examining .promoting) ∧
      ∀ {since inside d}, next ≠ .delivering since inside d := by
    cases l with
    | reading =>
      cases judged rfl with
      | swapping waiting => exact ⟨fun _ => nofun, nofun⟩
      | ready ready => exact ⟨fun _ => nofun, nofun⟩
      | awake asleep => exact ⟨fun waits => absurd (asleep.symm.trans waits) nofun, nofun⟩
      | unready unready => exact ⟨fun _ => nofun, nofun⟩
    | swapping =>
      rw [swapped rfl]
      exact ⟨fun _ => nofun, nofun⟩
    | promoting => exact absurd rfl plain
  exact h.turn_of_plain doing view Iff.rfl rfl rfl rfl (fun promoting => plain (Activity.examining.inj promoting))
    nofun after.1 after.2

theorem not_resting {stage : Option ReaderPhase}
    (busy : stage = none ∨ stage = some .fetching ∨ stage = some .handling ∨ stage = some .handled) :
    ¬ Resting stage := by
  rcases busy with rfl | rfl | rfl | rfl <;> simp [Resting]

variable [Program κ]

/-- After a move of the callback the body does not rest. -/
theorem not_resting_of_called {labels : Labels} {c : κ} {progress : System.Progress} {work : Work κ}
    (move : Task.CallbackMove labels T.queue c work progress) : ¬ Resting (stageOf work) := by
  by_cases paused : progress = .paused
  · subst paused
    rcases move.paused_stage with ended | handling
    · exact not_resting (.inl ended)
    · exact not_resting (.inr (.inr (.inl handling)))
  · rcases move.going_stage paused with handled | handling
    · exact not_resting (.inr (.inr (.inr handled)))
    · exact not_resting (.inr (.inr (.inl handling)))

/-- Every effect keeps the invariant. -/
theorem effect (h : Heard T w) (control : Control T w) {w' : World κ} (e : Effect T w w') :
    Heard T w' := by
  have fetching : ¬ Resting (some ReaderPhase.fetching) := not_resting (.inr (.inl rfl))
  have handling : ¬ Resting (some ReaderPhase.handling) := not_resting (.inr (.inr (.inl rfl)))
  have handled : ¬ Resting (some ReaderPhase.handled) := not_resting (.inr (.inr (.inr rfl)))
  cases e with
  | idle => exact h
  | pushed doing stands view => exact h.pushed doing view
  | pushedInside doing work asks stands view =>
    have before : (T.view w.sys).stage = some .handling := congrArg stageOf work
    have after : (T.view _).stage = some .handling := congrArg View.stage view
    exact h.turn_of_busy (before ▸ handling) (after ▸ handling)
  | missed doing early => exact h.missed doing
  | delivered doing stands view place pending => exact h.delivered doing view pending
  | flagged doing stands view returned =>
    have flag : (T.view _).recheck = true := congrArg View.recheck view
    exact h.turn_of_promising (.inr (.inl flag)) fun _ => told_become_of_flag flag
  | @announced t since inside doing =>
    refine h.turn_of_plain doing rfl Iff.rfl rfl rfl rfl nofun ?_ ?_ ?_
    · intro since' inside' d same
      cases same
      exact id
    · cases inside <;> exact fun _ => nofun
    · cases inside <;> exact nofun
  | taken doing free stands view =>
    exact h.turn_of_plain doing view Iff.rfl rfl rfl rfl nofun nofun (fun _ => nofun) nofun
  | refused doing =>
    exact h.turn_of_plain doing rfl Iff.rfl rfl rfl rfl nofun nofun (fun _ => nofun) nofun
  | examined doing plain stands view judged swapped =>
    exact h.turn_of_examined doing plain view judged swapped
  | @swapped t s doing flag stands view =>
    -- The promise passes from the flag to the thread that has taken it down.
    have promoting : (w.turn T t s (.examining .promoting)).doing t = .examining .promoting :=
      doing_turn_self w t s _
    have loud : ¬ Quiet T w := fun quiet => absurd (flag.symm.trans quiet.recheck) nofun
    exact h.turn_of_promising (.inr (.inr ⟨t, promoting⟩)) fun emptied =>
      told_become (h.told_of_loud loud emptied) T s
  | promoted doing stands view =>
    have ready : (T.view _).state = .ready := congrArg View.state view
    have loud : ¬ Quiet T w := fun quiet => quiet.unpromoted _ doing
    exact h.turn_of_promising (.inl ready) fun emptied =>
      told_become (h.told_of_loud loud emptied) T _
  | checked doing goes =>
    rcases goes with rfl | ⟨c', rfl⟩
    · exact h.turn_of_plain doing rfl Iff.rfl rfl rfl rfl nofun nofun (fun _ => nofun) nofun
    · exact h.turn_of_plain doing rfl Iff.rfl rfl rfl rfl nofun nofun (fun _ => nofun) nofun
  | parked doing work stands view =>
    have before : (T.view w.sys).stage = some .parking := congrArg stageOf work
    have after : (T.view _).stage = some .fetching := congrArg View.stage view
    have ready : (T.view w.sys).state = .ready := (control.holding doing id).1 before
    -- The turn was begun while the routine was ready, so something had reached it.
    have loud : ¬ Quiet T w := fun quiet => absurd (ready.symm.trans quiet.state) nofun
    exact ⟨fun rests => absurd rests (after ▸ fetching), fun _ emptied =>
      told_become (h.told_of_loud loud emptied) T _, h.late⟩
  | emptied doing work empty stands view => exact Heard.emptied control doing work empty view
  | fetched doing work full stands view =>
    have before : (T.view w.sys).stage = some .fetching := congrArg stageOf work
    have after : (T.view _).stage = some .handling := congrArg View.stage view
    exact h.turn_of_busy (before ▸ fetching) (after ▸ handling)
  | idled doing work stands view =>
    have before : (T.view w.sys).stage = some .idle := congrArg stageOf work
    exact h.turn_of_plain doing view ⟨fun _ => .inr before, fun _ => .inl rfl⟩ rfl rfl rfl nofun nofun
      (fun _ => nofun) nofun
  | handled doing work stands view =>
    have before : (T.view w.sys).stage = some .handled := congrArg stageOf work
    have ready : (T.view _).state = .ready := congrArg View.state view
    exact h.turn_of_promising (.inl ready) fun emptied =>
      told_become (h.busy (before ▸ handled) emptied) T _
  | called doing work move stands holder =>
    have before : (T.view w.sys).stage = some .handling := congrArg stageOf work
    exact h.turn_of_busy (before ▸ handling) (not_resting_of_called move)
  | ended doing work stands view =>
    have before : (T.view w.sys).stage = none := congrArg stageOf work
    have awake : ¬ Resting (T.view w.sys).stage := not_resting (.inl before)
    exact h.turn_of_busy awake (view ▸ awake)
  | released doing stands view =>
    exact h.turn_of_plain doing view Iff.rfl rfl rfl rfl nofun nofun (fun _ => nofun) nofun
  | dispatched begun stands view => exact h.of_same_rest view id
  | registered dispatched stands view => exact h.of_same_rest view id
  | elsewhere stands view mono => exact h.of_same_rest view mono

end Heard

end CoopSched.Wakeup
