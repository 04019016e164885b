import CoopSched.Proofs.Directory.Calls
/-!
# Calls on a shared directory are linearizable

Whatever the order of the steps of all calls:

1. the memory holds the directory that results if the successful exchanges are calls of `set`, one after
   another in their order, and that directory is in order (`Linearizable.holds`, `Linearizable.ordered`);
2. no key disappears (`Linearizable.stays`);
3. a call of `set` has exchanged exactly one pointer when it has returned, and none before
   (`Linearizable.once`, `Linearizable.written`);
4. each call takes effect in one of its own steps, and its answer is right for the directory at that moment
   (`Linearizable.moment`).

A call that is left alone returns (`returns_alone`).
-/

namespace CoopSched

namespace Directory

variable {bits : Nat} {α : Type}

namespace World

variable {w : World bits α} {d : Directory bits α} {i : Nat} {p : Phase bits α} {request : Request α}
  {answer : Answer α}

/-! ## 1. What stays -/

theorem performAll_append (w : World bits α) (before after : List (Action α)) :
    w.performAll (before ++ after) = (w.performAll before).performAll after :=
  List.foldl_append

theorem calls_put (w : World bits α) (i j : Nat) (p : Phase bits α) :
    (w.put i p).calls j = if j = i then some p else w.calls j := rfl

theorem directory_put (w : World bits α) (i : Nat) (p : Phase bits α) (d : Directory bits α) :
    (w.put i p).directory d = w.directory d := rfl

theorem directory_write (w : World bits α) (memory : Memory bits α) (x : Write α) (d : Directory bits α) :
    directory d { w with memory, writes := w.writes ++ [x] } = (w.directory d).set x.key x.value := by
  rw [directory, List.map_append, setAll_append]
  rfl

theorem Sound.perform (h : w.Sound d) (a : Action α) : (w.perform a).Sound d := by
  have moves := h.moves a
  generalize w.perform a = w' at moves ⊢
  have put : ∀ {memory writes} {i : Nat} {p : Phase bits α},
      (∀ j q, w.calls j = some q → q.Sound memory) → p.Sound memory →
      ∀ j q, (World.put { w with memory, writes } i p).calls j = some q → q.Sound memory := by
    intro memory writes i p others own j q here
    rw [calls_put] at here
    split at here
    · cases here
      exact own
    · exact others j q here
  cases moves with
  | stays => exact h
  | begins free => exact ⟨h.holds, h.ordered, put h.phases (Request.sound_start _ _)⟩
  | looks here running same sound correct => exact ⟨h.holds, h.ordered, put h.phases sound⟩
  | @sets i p key value memory here running same holds grows =>
    have grown : ∀ j q, w.calls j = some q → q.Sound memory :=
      fun j q here => (h.phases j q here).mono grows
    refine ⟨?_, ?_, put grown trivial⟩
    · rw [directory_put, directory_write]
      exact holds
    · rw [directory_put, directory_write]
      exact h.ordered.set key value

theorem Sound.performAll (h : w.Sound d) (actions : List (Action α)) : (w.performAll actions).Sound d := by
  induction actions generalizing w with
  | nil => exact h
  | cons a rest ih => exact ih (h.perform a)

/-! ## 2. What the calls have done -/

theorem Returned.not_running (h : w.Returned i request answer) {other : Request α} : ¬ w.Running i other := by
  obtain ⟨p, here, -, answered⟩ := h
  rintro ⟨q, there, -, running⟩
  cases here.symm.trans there
  exact nomatch answered.symm.trans running

variable {w' : World bits α} {a : Action α}

/-- A call keeps its request, and its answer. -/
theorem Moves.keeps (moves : Moves w d a w') (here : w.calls i = some p) :
    ∃ p', w'.calls i = some p' ∧ p'.request = p.request ∧
      ∀ answer, p.answer? = some answer → p'.answer? = some answer := by
  cases moves with
  | stays => exact ⟨p, here, rfl, fun _ => id⟩
  | @begins j _ free =>
    have other : i ≠ j := by
      rintro rfl
      exact nomatch free.symm.trans here
    exact ⟨p, (if_neg other).trans here, rfl, fun _ => id⟩
  | @looks j q q' there running same =>
    rcases eq_or_ne i j with rfl | other
    · cases here.symm.trans there
      exact ⟨q', if_pos rfl, same, fun answer answered => nomatch answered.symm.trans running⟩
    · exact ⟨p, (if_neg other).trans here, rfl, fun _ => id⟩
  | @sets j q key value memory there running same =>
    rcases eq_or_ne i j with rfl | other
    · cases here.symm.trans there
      exact ⟨_, if_pos rfl, same.symm, fun answer answered => nomatch answered.symm.trans running⟩
    · exact ⟨p, (if_neg other).trans here, rfl, fun _ => id⟩

theorem Moves.keeps_returned (moves : Moves w d a w') (h : w.Returned i request answer) :
    w'.Returned i request answer := by
  obtain ⟨p, here, rfl, answered⟩ := h
  obtain ⟨p', there, same, keeps⟩ := moves.keeps here
  exact ⟨p', there, same, keeps answer answered⟩

/-- A call takes effect: it has looked, or it has exchanged a pointer. -/
inductive TakesEffect (w : World bits α) (d : Directory bits α) (i : Nat) :
    Request α → Answer α → World bits α → Prop
  | looks {request : Request α} {answer : Answer α} {w' : World bits α}
      (right : request.lookUp? (w.directory d) = some answer) (writes : w'.writes = w.writes) :
      TakesEffect w d i request answer w'
  | sets {key : UInt64} {value : α} {w' : World bits α} (writes : w'.writes = w.writes ++ [⟨i, key, value⟩]) :
      TakesEffect w d i (.set key value) .done w'

theorem TakesEffect.correct (h : TakesEffect w d i request answer w') :
    request.Correct (w.directory d) answer (w'.directory d) := by
  cases h with
  | looks right writes =>
    have same : w'.directory d = w.directory d := by rw [directory, writes]; rfl
    cases request with
    | set key value => cases right
    | get key => exact ⟨right, same⟩
    | contains key => exact ⟨right, same⟩
  | @sets key value _ writes =>
    refine ⟨rfl, ?_⟩
    rw [directory, writes]
    exact directory_write w w.memory ⟨i, key, value⟩ d

/-- A call that returns has been under way, and takes effect. -/
theorem Moves.of_returned (moves : Moves w d a w') (h : w'.Returned i request answer) :
    w.Returned i request answer ∨
      a = .step i ∧ w.Running i request ∧ w.TakesEffect d i request answer w' := by
  obtain ⟨p', there, rfl, answered⟩ := h
  cases moves with
  | stays => exact .inl ⟨p', there, rfl, answered⟩
  | @begins j _ free =>
    rw [calls_put] at there
    split at there
    · cases there
      cases answered
    · exact .inl ⟨p', there, rfl, answered⟩
  | @looks j q q' here running same sound correct =>
    rw [calls_put] at there
    split at there
    · next own =>
      subst own
      cases there
      exact .inr ⟨rfl, ⟨q, here, same.symm, running⟩, .looks (same ▸ correct answer answered) rfl⟩
    · exact .inl ⟨p', there, rfl, answered⟩
  | @sets j q key value memory here running same =>
    rw [calls_put] at there
    split at there
    · next own =>
      subst own
      cases there
      cases answered
      exact .inr ⟨rfl, ⟨q, here, same, running⟩, .sets rfl⟩
    · exact .inl ⟨p', there, rfl, answered⟩

/-- What happens to the record. -/
theorem Moves.writes (moves : Moves w d a w') :
    w'.writes = w.writes ∨ ∃ i key value, w.Running i (.set key value) ∧
      w'.writes = w.writes ++ [⟨i, key, value⟩] ∧ w'.Returned i (.set key value) .done := by
  cases moves with
  | @sets i p key value memory here running same =>
    exact .inr ⟨i, key, value, ⟨p, here, same, running⟩, rfl, _, if_pos rfl, rfl, rfl⟩
  | _ => exact .inl rfl

/-- The record names each call once, and those calls of `set` that have returned. -/
structure Recorded (w : World bits α) : Prop where
  once : (w.writes.map (·.call)).Nodup
  written : ∀ i key value, ⟨i, key, value⟩ ∈ w.writes ↔ w.Returned i (.set key value) .done

theorem Begins.recorded (h : w.Begins d) : w.Recorded := by
  refine ⟨by rw [h.writes]; exact List.nodup_nil, fun i key value => ?_⟩
  rw [h.writes]
  refine ⟨nofun, ?_⟩
  rintro ⟨p, here, -⟩
  exact nomatch (h.calls i).symm.trans here

theorem Recorded.move (h : w.Recorded) (moves : Moves w d a w') : w'.Recorded := by
  have back : ∀ i key value, w'.Returned i (.set key value) .done → ⟨i, key, value⟩ ∈ w'.writes := by
    intro i key value returned
    have grows : ∀ x ∈ w.writes, x ∈ w'.writes := by
      intro x mem
      rcases moves.writes with same | ⟨_, _, _, -, more, -⟩
      · exact same ▸ mem
      · exact more ▸ List.mem_append_left _ mem
    rcases moves.of_returned returned with before | ⟨-, -, effect⟩
    · exact grows _ ((h.written i key value).mpr before)
    · cases effect with
      | looks right => cases right
      | sets writes => exact writes ▸ List.mem_append_right _ List.mem_cons_self
  rcases moves.writes with same | ⟨i, key, value, running, more, returned⟩
  · refine ⟨same ▸ h.once, fun i key value => ⟨fun mem => ?_, back i key value⟩⟩
    exact moves.keeps_returned ((h.written i key value).mp (same ▸ mem))
  · constructor
    · rw [more, List.map_append]
      refine List.nodup_append.mpr ⟨h.once, List.nodup_singleton _, ?_⟩
      intro j mem k last
      cases List.mem_singleton.mp last
      rintro rfl
      obtain ⟨⟨i, key', value'⟩, inside, rfl⟩ := List.mem_map.mp mem
      exact ((h.written i key' value').mp inside).not_running running
    · refine fun j key' value' => ⟨fun mem => ?_, back j key' value'⟩
      rw [more] at mem
      rcases List.mem_append.mp mem with old | new
      · exact moves.keeps_returned ((h.written j key' value').mp old)
      · cases List.mem_singleton.mp new
        exact returned

/-! ## 3. All calls together -/

/-- After some actions. -/
structure Linearizable (w : World bits α) (d : Directory bits α) (actions : List (Action α)) : Prop where
  /-- The pointers lead through the directory of the successful exchanges. -/
  holds : (w.performAll actions).memory.Holds ((w.performAll actions).directory d)
  /-- Its keys rise strictly along every chain. -/
  ordered : ((w.performAll actions).directory d).Ordered
  /-- A key that was there before is still there. -/
  stays : ∀ {before after : List (Action α)}, actions = before ++ after → ∀ key,
    ((w.performAll before).directory d).contains key = true →
      ((w.performAll actions).directory d).contains key = true
  /-- A call keeps its request. -/
  keeps : ∀ {before after : List (Action α)}, actions = before ++ after → ∀ i p,
    (w.performAll before).calls i = some p →
      ∃ p', (w.performAll actions).calls i = some p' ∧ p'.request = p.request
  /-- No call has exchanged two pointers. -/
  once : ((w.performAll actions).writes.map (·.call)).Nodup
  /-- The calls of `set` that have exchanged a pointer are those that have returned. -/
  written : ∀ i key value, ⟨i, key, value⟩ ∈ (w.performAll actions).writes ↔
    (w.performAll actions).Returned i (.set key value) .done
  /-- A call that has returned has taken effect while it was under way. -/
  moment : ∀ i request answer, (w.performAll actions).Returned i request answer →
    ∃ before after, actions = before ++ .step i :: after ∧
      (w.performAll before).Running i request ∧
      request.Correct ((w.performAll before).directory d) answer
        ((w.performAll (before ++ [.step i])).directory d)

theorem Sound.contains_perform (h : w.Sound d) (a : Action α) {key : UInt64}
    (present : (w.directory d).contains key = true) :
    ((w.perform a).directory d).contains key = true := by
  rcases (h.moves a).writes with same | ⟨i, other, value, -, more, -⟩
  · rw [directory, same]
    exact present
  · rw [directory, more]
    have set := directory_write w w.memory ⟨i, other, value⟩ d
    rw [directory] at set
    rw [set, contains_eq, get?_set]
    split
    · rfl
    · rw [← contains_eq]
      exact present

theorem Sound.contains_performAll (h : w.Sound d) (actions : List (Action α)) {key : UInt64}
    (present : (w.directory d).contains key = true) :
    ((w.performAll actions).directory d).contains key = true := by
  induction actions generalizing w with
  | nil => exact present
  | cons a rest ih => exact ih (h.perform a) (h.contains_perform a present)

theorem Sound.keeps_performAll (h : w.Sound d) (actions : List (Action α)) (here : w.calls i = some p) :
    ∃ p', (w.performAll actions).calls i = some p' ∧ p'.request = p.request := by
  induction actions generalizing w p with
  | nil => exact ⟨p, here, rfl⟩
  | cons a rest ih =>
    obtain ⟨p', there, same, -⟩ := (h.moves a).keeps here
    obtain ⟨last, at_last, same'⟩ := ih (h.perform a) there
    exact ⟨last, at_last, same'.trans same⟩

theorem Sound.recorded_performAll (h : w.Sound d) (recorded : w.Recorded) (actions : List (Action α)) :
    (w.performAll actions).Recorded := by
  induction actions generalizing w with
  | nil => exact recorded
  | cons a rest ih => exact ih (h.perform a) (recorded.move (h.moves a))

/-- A call that returns in the course of some actions takes effect in one of them. -/
theorem Sound.moment (h : w.Sound d) (actions : List (Action α))
    (returned : (w.performAll actions).Returned i request answer) :
    w.Returned i request answer ∨
      ∃ before after, actions = before ++ .step i :: after ∧
        (w.performAll before).Running i request ∧
        request.Correct ((w.performAll before).directory d) answer
          ((w.performAll (before ++ [.step i])).directory d) := by
  induction actions generalizing w with
  | nil => exact .inl returned
  | cons a rest ih =>
    rcases ih (h.perform a) returned with first | ⟨before, after, rfl, running, correct⟩
    · rcases (h.moves a).of_returned first with already | ⟨rfl, running, effect⟩
      · exact .inl already
      · exact .inr ⟨[], rest, rfl, running, effect.correct⟩
    · exact .inr ⟨a :: before, after, rfl, running, correct⟩

/-- Calls that begin with a directory in order are linearizable, whatever the order of their steps. -/
theorem Begins.linearizable (h : w.Begins d) (actions : List (Action α)) : w.Linearizable d actions where
  holds := (h.sound.performAll actions).holds
  ordered := (h.sound.performAll actions).ordered
  stays := by
    rintro before after rfl key present
    rw [performAll_append]
    exact (h.sound.performAll before).contains_performAll after present
  keeps := by
    rintro before after rfl i p here
    rw [performAll_append]
    exact (h.sound.performAll before).keeps_performAll after here
  once := (h.sound.recorded_performAll h.recorded actions).once
  written := (h.sound.recorded_performAll h.recorded actions).written
  moment i request answer returned := by
    refine (h.sound.moment actions returned).resolve_left ?_
    rintro ⟨p, here, -⟩
    exact nomatch (h.calls i).symm.trans here

/-- One bucket with the key 5. -/
def oneKey : World 0 Nat where
  memory := ⟨⟨#[some 0], rfl⟩, ⟨#[⟨5, some ⟨none, 50⟩, none⟩]⟩⟩

theorem oneKey_begins : oneKey.Begins (empty.set 5 50) where
  holds b := by
    match b with
    | ⟨0, _⟩ => exact ⟨[0], ⟨rfl, Nat.zero_lt_one, rfl⟩, rfl⟩
  ordered := ordered_empty.set 5 50
  calls _ := rfl
  writes := rfl

/-- Two calls of `set` have come to the same link. The exchange of the second one succeeds, and that of the
first one fails. It tries again after a call of `get` has not found its key. -/
def race : List (Action Nat) :=
  [.begin 0 (.set 7 70), .begin 1 (.set 9 90), .begin 2 (.get 7),
    .step 0, .step 1, .step 0, .step 1, .step 1, .step 0,
    .step 2, .step 2, .step 0, .step 0, .step 0]

theorem race_linearizable :
    oneKey.Begins (empty.set 5 50) ∧ oneKey.Linearizable (empty.set 5 50) race ∧
      (oneKey.performAll race).writes = [⟨1, 9, 90⟩, ⟨0, 7, 70⟩] ∧
      (oneKey.performAll race).Returned 2 (.get 7) (.value none) :=
  ⟨oneKey_begins, oneKey_begins.linearizable race, rfl, _, rfl, rfl, rfl⟩

/-! ## 4. A call that is left alone -/

/-- If nobody else takes a step, the call returns. -/
def Settles (w : World bits α) (i : Nat) (request : Request α) : Prop :=
  ∃ n answer, (w.performAll (List.replicate n (.step i))).Returned i request answer

theorem Settles.of_step {v : World bits α} {q : Phase bits α} (here : w.calls i = some p)
    (step : w.advance i p = (v, q)) (h : (v.put i q).Settles i request) : w.Settles i request := by
  obtain ⟨n, answer, returned⟩ := h
  refine ⟨n + 1, answer, ?_⟩
  rw [List.replicate_succ, performAll, List.foldl_cons, perform, here]
  dsimp only
  rw [step]
  exact returned

theorem settles_put (same : p.request = request) (answered : p.answer? = some answer) :
    (w.put i p).Settles i request :=
  ⟨0, answer, p, if_pos rfl, same, answered⟩

theorem settles_replacing {key : UInt64} {value : α} {n : NodeRef} {old : Option (Cell α)}
    (same : samePointer (w.memory.node n).cell old = true) :
    (w.put i (.replacing key value n old)).Settles i (.set key value) := by
  have success : w.memory.exchangeCell n old ⟨some i, value⟩ = (w.memory.renew n ⟨some i, value⟩, true) :=
    if_pos same
  exact .of_step (if_pos rfl) (congrArg (exchanged _ i key value) success) (settles_put rfl rfl)

theorem settles_linking {key : UInt64} {value : α} {l : Link bits} {next : Option NodeRef}
    (load : w.memory.load l = next) :
    (w.put i (.linking key value l next)).Settles i (.set key value) := by
  have success : w.memory.exchangeLink l next key ⟨some i, value⟩ =
      (w.memory.splice l ⟨key, some ⟨some i, value⟩, next⟩, true) := if_pos load
  exact .of_step (if_pos rfl) (congrArg (exchanged _ i key value) success) (settles_put rfl rfl)

theorem settles_found (w : World bits α) (i : Nat) (request : Request α) (n : NodeRef) :
    (w.put i (request.found n)).Settles i request := by
  cases request with
  | set key value => exact .of_step (if_pos rfl) rfl (settles_replacing (beq_self_eq_true _))
  | get key => exact .of_step (if_pos rfl) rfl (settles_put rfl rfl)
  | contains key => exact settles_put rfl rfl

theorem settles_missed {l : Link bits} {next : Option NodeRef} (load : w.memory.load l = next) :
    (w.put i (request.missed l next)).Settles i request := by
  cases request with
  | set key value => exact settles_linking load
  | get key => exact settles_put rfl rfl
  | contains key => exact settles_put rfl rfl

theorem settles_walking {l : Link bits} {rest : List NodeRef} (path : w.memory.Follows l rest) :
    (w.put i (.walking request l)).Settles i request := by
  induction rest generalizing w l with
  | nil =>
    have walked : w.memory.walk request l = request.missed l none := by rw [Memory.walk, path]
    exact .of_step (if_pos rfl) (congrArg (Prod.mk _) walked) (settles_missed path)
  | cons n rest ih =>
    obtain ⟨load, -, onward⟩ := path
    refine .of_step (if_pos rfl) rfl ?_
    show (World.put _ i (w.memory.walk request l)).Settles i request
    rw [Memory.walk, load]
    dsimp only
    split
    · exact ih onward
    · split
      · exact settles_found _ i request n
      · exact settles_missed load

/-- A call returns if it is left alone, wherever it stands. -/
theorem Sound.settles (h : w.Sound d) (here : w.calls i = some p) : w.Settles i p.request := by
  have again : ∀ request : Request α, (w.put i request.start).Settles i request := by
    intro request
    obtain ⟨refs, path, -⟩ := h.holds (slot bits request.key)
    exact settles_walking path
  have sound := h.phases i p here
  cases p with
  | walking request l =>
    obtain ⟨passed, rest, smaller, others, walk⟩ := h.holds.walk h.ordered sound
    exact put_self here ▸ settles_walking walk.follows
  | reading key n => exact put_self here ▸ settles_found w i (.get key) n
  | renewing key value n => exact put_self here ▸ settles_found w i (.set key value) n
  | replacing key value n old =>
    cases same : samePointer (w.memory.node n).cell old with
    | true => exact put_self here ▸ settles_replacing same
    | false =>
      have failure : w.memory.exchangeCell n old ⟨some i, value⟩ = (w.memory, false) := by
        rw [Memory.exchangeCell, same]
        rfl
      exact .of_step here (congrArg (w.exchanged i key value) failure) (again (.set key value))
  | linking key value l next =>
    by_cases load : w.memory.load l = next
    · exact put_self here ▸ settles_linking load
    · have failure : w.memory.exchangeLink l next key ⟨some i, value⟩ = (w.memory, false) := if_neg load
      exact .of_step here (congrArg (w.exchanged i key value) failure) (again (.set key value))
  | returned request answer => exact put_self here ▸ settles_put rfl rfl

/-- After any actions, every call can still be brought to its end. -/
theorem returns_alone (h : w.Begins d) (actions : List (Action α))
    (running : (w.performAll actions).Running i request) :
    ∃ n answer, (w.performAll (actions ++ List.replicate n (.step i))).Returned i request answer := by
  obtain ⟨p, here, rfl, -⟩ := running
  obtain ⟨n, answer, returned⟩ := (h.sound.performAll actions).settles here
  exact ⟨n, answer, by rw [performAll_append]; exact returned⟩

end World

end Directory

end CoopSched
