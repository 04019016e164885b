import CoopSched.Proofs.Outside.Completeness
import CoopSched.Proofs.Outside.Silence
/-!
# Where a dispatch puts a routine

Three things are made from a configuration, each on its own: the table of assignments, the groups, and the
default group among them. `Means` says what the configuration itself means for a routine: the last entry of its
name in document order decides, and without one the first group takes it at its own priority.

An accepted dispatch puts the routine there, in every state of the scheduler (`placed_as_configured`). The group
is always one of the scheduler's, so that no routine is diverted to the default group because its own is
missing, and nothing but the slot, the count of the group and the place of the routine changes (`Placed`).
-/

namespace CoopSched

/-! ## 1. What a configuration means -/

/-- No group has an entry of the name. -/
def NoEntry (groups : List SchedGroup) (name : String) : Prop := ∀ g ∈ groups, ∀ u ∈ g.tasks, u.name ≠ name

/-- The last entry of a name in document order, and the group that encloses it. -/
def LastEntry (groups : List SchedGroup) (name : String) (g : SchedGroup) (u : ClassicTask) : Prop :=
  ∃ before after tasks more, groups = before ++ g :: after ∧ g.tasks = tasks ++ u :: more ∧ u.name = name ∧
    (∀ v ∈ more, v.name ≠ name) ∧ NoEntry after name

/-- The group and the priority that a configuration means for a routine of some name and priority. -/
inductive Means (groups : List SchedGroup) (name : String) (priority : Nat) : String → Nat → Prop
  | entry {g : SchedGroup} {u : ClassicTask} (last : LastEntry groups name g u) :
      Means groups name priority g.name u.prio
  | default {first : SchedGroup} {rest : List SchedGroup} (none : NoEntry groups name)
      (here : groups = first :: rest) : Means groups name priority first.name priority

theorem noEntry_or_last (groups : List SchedGroup) (name : String) :
    NoEntry groups name ∨ ∃ g u, LastEntry groups name g u := by
  induction groups with
  | nil => exact .inl nofun
  | cons g rest ih =>
    rcases ih with none | ⟨h, u, before, after, tasks, more, split, entry⟩
    · cases last : g.tasks.reverse.find? (·.name == name) with
      | none =>
        refine .inl (List.forall_mem_cons.mpr ⟨fun u mem => ?_, none⟩)
        have other := List.find?_eq_none.mp last u (List.mem_reverse.mpr mem)
        exact fun same => other (beq_iff_eq.mpr same)
      | some u =>
        obtain ⟨named, later, sooner, split, others⟩ := List.find?_eq_some_iff_append.mp last
        refine .inr ⟨g, u, [], rest, sooner.reverse, later.reverse, rfl, ?_, eq_of_beq named, ?_, none⟩
        · rw [← List.reverse_reverse g.tasks, split]
          simp
        · intro v mem
          have other := others v (List.mem_reverse.mp mem)
          rwa [Bool.not_eq_true', beq_eq_false_iff_ne] at other
    · exact .inr ⟨h, u, g :: before, after, tasks, more, congrArg (g :: ·) split, entry⟩

theorem Means.exists {groups : List SchedGroup} (some : groups ≠ []) (name : String) (priority : Nat) :
    ∃ group wanted, Means groups name priority group wanted := by
  rcases noEntry_or_last groups name with none | ⟨g, u, last⟩
  · obtain ⟨first, rest, here⟩ := List.exists_cons_of_ne_nil some
    exact ⟨_, _, .default none here⟩
  · exact ⟨_, _, .entry last⟩

/-- The group is one of those in the configuration. -/
theorem Means.group_mem {groups : List SchedGroup} {name group : String} {priority wanted : Nat}
    (means : Means groups name priority group wanted) : ∃ g ∈ groups, g.name = group := by
  cases means with
  | entry last =>
    obtain ⟨before, after, -, -, rfl, -⟩ := last
    exact ⟨_, List.mem_append_right _ List.mem_cons_self, rfl⟩
  | default none here => exact ⟨_, here ▸ List.mem_cons_self, rfl⟩

namespace Policy

variable {p : Policy} {name : String}

theorem mem_assignments {u : ClassicTask} (mem : u ∈ p.assignments) :
    ∃ g ∈ p.groups, ∃ v ∈ g.tasks, v.name = u.name := by
  obtain ⟨g, hg, mem⟩ := List.mem_flatMap.mp mem
  obtain ⟨v, hv, rfl⟩ := List.mem_map.mp mem
  exact ⟨g, hg, v, hv, rfl⟩

theorem assignment?_of_none (none : NoEntry p.groups name) : p.assignment? name = .none := by
  refine List.find?_eq_none.mpr fun u mem named => ?_
  obtain ⟨g, hg, v, hv, same⟩ := mem_assignments (List.mem_reverse.mp mem)
  exact none g hg v hv (same.trans (eq_of_beq named))

/-- The assignments of a group. -/
def within (g : SchedGroup) (tasks : List ClassicTask) : List ClassicTask :=
  tasks.map fun u => { u with groupName := g.name }

theorem assignment?_of_last {g : SchedGroup} {u : ClassicTask} (last : LastEntry p.groups name g u) :
    p.assignment? name = some { u with groupName := g.name } := by
  obtain ⟨before, after, tasks, more, split, here, named, others, none⟩ := last
  -- The table is in document order and is read from its end, so that only later entries can come before this one.
  have listed : p.assignments = ((⟨before⟩ : Policy).assignments ++ within g tasks) ++
      { u with groupName := g.name } :: (within g more ++ (⟨after⟩ : Policy).assignments) := by
    simp [assignments, within, split, here]
  have later : ∀ v ∈ within g more ++ (⟨after⟩ : Policy).assignments, v.name ≠ name := by
    intro v mem
    rcases List.mem_append.mp mem with own | further
    · obtain ⟨w, hw, rfl⟩ := List.mem_map.mp own
      exact others w hw
    · obtain ⟨h, hh, w, hw, same⟩ := mem_assignments further
      exact same ▸ none h hh w hw
  rw [assignment?, List.find?_eq_some_iff_append, listed, List.reverse_append, List.reverse_cons,
    List.append_assoc]
  refine ⟨beq_iff_eq.mpr named, _, _, rfl, fun v mem => ?_⟩
  rw [Bool.not_eq_true', beq_eq_false_iff_ne]
  exact later v (List.mem_reverse.mp mem)

end Policy

/-- There is always a group: the default topology has one. -/
theorem SchedulerConf.effective_groups_ne_nil (conf : SchedulerConf) : conf.effective.groups ≠ [] := by
  unfold effective
  split
  · next some =>
    intro none
    rw [hasGroups, none] at some
    cases some
  · exact List.cons_ne_nil _ _

namespace System

variable {κ : Type} {s s' : System κ} {sched : Scheduler} {t : Thread} {r : RoutineRef} {g : GroupRef}
  {name : String} {wanted : Nat}

/-! ## 2. Placing -/

theorem routines_reportAll (s : System κ) (t : Thread) (ns : List Notice) :
    (s.reportAll t ns).routines = s.routines := by rw [reportAll_eq]

theorem groups_reportAll (s : System κ) (t : Thread) (ns : List Notice) :
    (s.reportAll t ns).groups = s.groups := by rw [reportAll_eq]

/-- What is said about a priority: only that it is out of range. -/
def clampNotices (x : Routine κ) (wanted : Nat) : List Notice :=
  if maxPrio ≤ wanted then [.priorityClamped x.name wanted (maxPrio - 1)] else []

theorem assign_of_means {policy : Policy}
    (means : Means policy.groups (s.routine r).name (s.routine r).priority name wanted) :
    s.assign policy r = s.relocated r wanted name := by
  unfold assign
  cases means with
  | entry last =>
    rw [Policy.assignment?_of_last last]
    rfl
  | default none here =>
    rw [Policy.assignment?_of_none none]
    refine modifyRoutine_congr s ?_
    rw [Policy.defaultGroup, here]

theorem routine_relocated (there : r < s.routines.size) (priority : Nat) (group : String) :
    (s.relocated r priority group).routine r = { s.routine r with priority, group } := by
  rw [relocated, routine_modifyRoutine, if_pos ⟨rfl, there⟩]

theorem clampPriority_relocated (there : r < s.routines.size) (t : Thread) :
    (s.relocated r wanted name).clampPriority t r =
      (s.reportAll t (clampNotices (s.routine r) wanted)).relocated r (min wanted (maxPrio - 1)) name := by
  unfold clampPriority clampNotices
  dsimp only
  rw [routine_relocated there]
  by_cases high : maxPrio ≤ wanted
  · rw [if_pos high, if_pos high, Nat.min_eq_right (Nat.le_trans (Nat.sub_le _ _) high)]
    exact modifyRoutine_modifyRoutine (s.report t (.priorityClamped (s.routine r).name wanted (maxPrio - 1))) r _ _
  · rw [if_neg high, if_neg high, Nat.min_eq_left (Nat.le_sub_one_of_lt (Nat.lt_of_not_le high))]
    rfl

/-- A group of the name is there, so that no other one is used in its place. -/
theorem settleGroup_relocated {roster : Roster} (hosts : s.Hosts roster) (there : r < s.routines.size)
    (found : roster.find? name = some g) (t : Thread) (priority : Nat) :
    (s.relocated r priority name).settleGroup t roster r = (s.relocated r priority name, g) := by
  have own : ((s.group g).name = name) := hosts.name found
  unfold settleGroup
  dsimp only
  rw [routine_relocated there, Roster.findOrDefault_of_find? found]
  exact if_pos own

/-- The routine as it is queued, with what was said about its priority. -/
def located (s : System κ) (t : Thread) (r : RoutineRef) (wanted : Nat) (name : String) : System κ :=
  (s.reportAll t (clampNotices (s.routine r) wanted)).relocated r (min wanted (maxPrio - 1)) name

theorem settled_of_means (hosts : s.Hosts sched.roster) (there : r < s.routines.size)
    (means : Means sched.policy.groups (s.routine r).name (s.routine r).priority name wanted)
    (found : sched.roster.find? name = some g) (t : Thread) :
    s.settled t sched r = (s.located t r wanted name, g) := by
  have groups := groups_reportAll s t (clampNotices (s.routine r) wanted)
  have hosts' : (s.reportAll t (clampNotices (s.routine r) wanted)).Hosts sched.roster :=
    hosts.of_names (congrArg Arena.size groups) fun g => congrArg (fun a => (a.get g).name) groups
  rw [settled, assign_of_means means, clampPriority_relocated there]
  exact settleGroup_relocated hosts' ((routines_reportAll s t _).symm ▸ there) found t _

theorem levelOf_min (wanted : Nat) : levelOf (min wanted (maxPrio - 1)) = levelOf wanted :=
  Fin.ext (Nat.min_eq_left (Nat.min_le_right _ _))

theorem place_of_means (hosts : s.Hosts sched.roster) (there : r < s.routines.size)
    (means : Means sched.policy.groups (s.routine r).name (s.routine r).priority name wanted)
    (found : sched.roster.find? name = some g) (t : Thread) :
    s.place t sched r =
      (s.located t r wanted name).modifyGroup g fun x => (x.insert (levelOf wanted) r).notify := by
  have level : levelOf ((s.located t r wanted name).routine r).priority = levelOf wanted := by
    rw [located, routine_relocated ((routines_reportAll s t _).symm ▸ there)]
    exact levelOf_min wanted
  rw [place_eq, settled_of_means hosts there means found, enqueue, level]
  simp only [modifyGroup, Arena.modify_modify]

/-- The id of the routine is in the table. -/
def claimed (s : System κ) (r : RoutineRef) : System κ :=
  s.modifyScheduler fun sched => { sched with tasks := sched.tasks.insert (s.routine r).id r }

theorem dispatch_of_means (hosts : s.Hosts sched.roster) (there : r < s.routines.size)
    (means : Means sched.policy.groups (s.routine r).name (s.routine r).priority name wanted)
    (found : sched.roster.find? name = some g) (hs : s.scheduler = some sched)
    (accepted : (s.dispatch t r).2 = true) :
    (s.dispatch t r).1 = { s with
      routines := s.routines.modify r fun x => { x with priority := min wanted (maxPrio - 1), group := name }
      groups := s.groups.modify g fun x => (x.insert (levelOf wanted) r).notify
      scheduler := some { sched with tasks := sched.tasks.insert (s.routine r).id r }
      log := s.log ++ (clampNotices (s.routine r) wanted).map fun n => Entered.mk t (.notice n) } := by
  obtain ⟨running, new⟩ := (dispatch_granted_iff hs t r).mp accepted
  -- The id is in the table before the routine is placed. Neither the groups nor the routine know of the table.
  have hosts' : (s.claimed r).Hosts sched.roster := hosts.of_names rfl fun _ => rfl
  have means' : Means sched.policy.groups ((s.claimed r).routine r).name ((s.claimed r).routine r).priority
      name wanted := means
  rw [dispatch_eq hs running new, ← claimed, place_of_means hosts' there means' found, located, reportAll_eq,
    claimed, modifyScheduler, hs]
  rfl

/-! ## 3. What a dispatch leaves -/

/-- A routine was accepted and put at the end of the level of its priority, into a group. Everything else is
as it was. -/
structure Placed (s : System κ) (t : Thread) (sched : Scheduler) (r : RoutineRef) (g : GroupRef)
    (name : String) (wanted : Nat) (s' : System κ) : Prop where
  queue : ∀ h (l : Priority), (s'.group h).queue l =
    if h = g ∧ l.val = min wanted (maxPrio - 1) then (s.group h).queue l ++ [r] else (s.group h).queue l
  pending : ∀ h, (s'.group h).pending =
    if h = g then min ((s.group h).pending + 1) maxPending else (s.group h).pending
  label : ∀ h, (s'.group h).name = (s.group h).name ∧ (s'.group h).stopped = (s.group h).stopped
  own : s'.routine r = { s.routine r with priority := min wanted (maxPrio - 1), group := name }
  others : ∀ q, q ≠ r → s'.routine q = s.routine q
  sizes : s'.groups.size = s.groups.size ∧ s'.routines.size = s.routines.size
  table : s'.scheduler = some { sched with tasks := sched.tasks.insert (s.routine r).id r }
  log : s'.log = s.log ++ (clampNotices (s.routine r) wanted).map fun n => Entered.mk t (.notice n)
  rest : s' = { s with
    routines := s'.routines, groups := s'.groups, scheduler := s'.scheduler, log := s'.log }

theorem dispatch_places (hosts : s.Hosts sched.roster) (there : r < s.routines.size)
    (means : Means sched.policy.groups (s.routine r).name (s.routine r).priority name wanted)
    (found : sched.roster.find? name = some g) (hs : s.scheduler = some sched)
    (accepted : (s.dispatch t r).2 = true) : s.Placed t sched r g name wanted (s.dispatch t r).1 := by
  rw [dispatch_of_means hosts there means found hs accepted]
  have inside : g < s.groups.size := hosts.bound g (Roster.mem_refs_of_find? found)
  have group := Arena.get_modify_of_lt s.groups inside
  have routine := Arena.get_modify_of_lt s.routines there
  have level : ∀ l : Priority, levelOf wanted = l ↔ l.val = min wanted (maxPrio - 1) :=
    fun l => Fin.ext_iff.trans eq_comm
  refine ⟨fun h l => ?_, fun h => ?_, fun h => ?_, ?_, fun q other => ?_,
    ⟨Arena.size_modify .., Arena.size_modify ..⟩, rfl, rfl, rfl⟩
  · rw [System.group, group, System.group]
    by_cases here : h = g
    · simp only [here, true_and, if_true, Group.queue_notify, Group.queue_insert, level]
      split
      · next same => rw [(level l).mpr same]
      · rfl
    · simp only [here, false_and, if_false]
  · rw [System.group, group]
    split <;> rfl
  · rw [System.group, group]
    split <;> exact ⟨rfl, rfl⟩
  · rw [System.routine, routine, if_pos rfl, System.routine]
  · rw [System.routine, routine, if_neg other, System.routine]

/-- A scheduler of a configuration has the group that the configuration means. -/
theorem Housed.places {conf : SchedulerConf} (h : s.Housed conf sched) (hs : s.scheduler = some sched)
    (there : r < s.routines.size) (accepted : (s.dispatch t r).2 = true)
    (means : Means conf.effective.groups (s.routine r).name (s.routine r).priority name wanted) :
    ∃ g ∈ sched.roster.refs, sched.roster.find? name = some g ∧ (s.group g).name = name ∧
      s.Placed t sched r g name wanted (s.dispatch t r).1 := by
  have groups : sched.policy.groups = conf.effective.groups := congrArg Policy.groups h.policy
  obtain ⟨entry, mem, rfl⟩ := means.group_mem
  obtain ⟨g, found⟩ := h.named entry (groups.symm ▸ mem)
  refine ⟨g, Roster.mem_refs_of_find? found, found, h.hosts.name found, ?_⟩
  exact dispatch_places h.hosts there (groups.symm ▸ means) found hs accepted

/-! ## 4. The scheduler of a configuration -/

/-- The default group of a new roster is the one of the first name. -/
theorem find?_default_addRoster (s : System κ) (first : String) (rest : List String) :
    (s.addRoster (first :: rest)).2.find? first = some (s.addRoster (first :: rest)).2.default := by
  have names : Roster.namesOf (first :: rest) = first :: (rest.filter fun x => !x == first).eraseDups :=
    List.eraseDups_cons
  obtain ⟨-, keys⟩ := addRoster_opens s (first :: rest)
  rw [addRoster_eq, names] at keys
  rw [addRoster_eq, names]
  generalize (List.foldl openNext (s, []) _).2 = groups at keys ⊢
  cases groups with
  | nil => cases keys
  | cons entry more =>
    obtain ⟨name, g⟩ := entry
    obtain rfl : name = first := (List.cons.inj keys).1
    exact List.lookup_cons_self

/-- The policy and the roster of the scheduler. -/
def plan (s : System κ) : Option (Policy × Roster) := s.scheduler.map fun sched => (sched.policy, sched.roster)

theorem plan_of_core (core : s'.scheduler.map Scheduler.core = s.scheduler.map Scheduler.core) :
    s'.plan = s.plan := by
  have both := congrArg (Option.map fun c => (c.1, c.2.1)) core
  rwa [Option.map_map, Option.map_map] at both

theorem plan_shutdown (s : System κ) (t : Thread) : (s.shutdown t).plan = s.plan := by
  cases hs : s.scheduler with
  | none => simp only [System.shutdown, hs]
  | some sched =>
    cases running : sched.stopped with
    | true => rw [shutdown_of_stopped hs running]
    | false =>
      have shuts : Shuts (fun _ => True) s t sched :=
        shuts hs running t (fun _ _ => trivial) fun _ _ _ _ _ _ => trivial
      have both := congrArg (Option.map fun c => (c.1, c.2.1)) (shuts.core hs)
      rw [Option.map_map] at both
      rw [plan, plan, hs]
      exact both

theorem default_startScheduler (s : System κ) (t : Thread) (conf : SchedulerConf) {first : SchedGroup}
    {rest : List SchedGroup} (here : conf.effective.groups = first :: rest) :
    ∃ policy roster, (s.startScheduler t conf).plan = some (policy, roster) ∧
      roster.find? first.name = some roster.default := by
  obtain ⟨before, sched, -, hs, -, policy, roster, -⟩ := startScheduler_staffs s t conf
  refine ⟨sched.policy, sched.roster, by rw [plan, hs, Option.map_some], ?_⟩
  rw [roster, policy, Policy.ofConf, here, List.map_cons]
  exact find?_default_addRoster before first.name _

end System

namespace Outside

open CoopSched.System (Placed)

variable {κ : Type} [Program κ] {s s' : System κ}

/-- The policy and the roster stay as long as the scheduler is not replaced. -/
theorem plan_run (run : Run Standing s s') : s'.plan = s.plan := by
  refine run.keeps (P := fun s' => s'.plan = s.plan) (fun {current} t a same allowed => ?_) rfl
  -- Only a shutdown touches the processors and the stop flag, so it is taken apart from the other steps.
  by_cases shuts : a = .shutdown
  · rw [shuts]
    exact (System.plan_shutdown current t).trans same
  · exact (System.plan_of_core (attends_apply current t allowed shuts).core).trans same

/-- For every configuration, and whatever was done since the start: a routine that a dispatch accepts is put where
the configuration means it to be, in a group that is there under its own name. The first group is the default
one. -/
theorem placed_as_configured {s₀ : System κ} {t₀ : Thread} {conf : SchedulerConf} {sched : Scheduler}
    (run : Run Standing (s₀.startScheduler t₀ conf) s) (hs : s.scheduler = some sched) {r : RoutineRef}
    (there : r < s.routines.size) {t : Thread} (accepted : (s.dispatch t r).2 = true) :
    (∃ first rest, conf.effective.groups = first :: rest ∧
      sched.roster.find? first.name = some sched.roster.default ∧
      (s.group sched.roster.default).name = first.name) ∧
    (∃ name wanted, Means conf.effective.groups (s.routine r).name (s.routine r).priority name wanted) ∧
    ∀ name wanted, Means conf.effective.groups (s.routine r).name (s.routine r).priority name wanted →
      ∃ g ∈ sched.roster.refs, sched.roster.find? name = some g ∧ (s.group g).name = name ∧
        s.Placed t sched r g name wanted (s.dispatch t r).1 := by
  obtain ⟨current, here, manned⟩ := manned_run run
  cases hs.symm.trans here
  obtain ⟨first, rest, some⟩ := List.exists_cons_of_ne_nil conf.effective_groups_ne_nil
  have default : sched.roster.find? first.name = .some sched.roster.default := by
    obtain ⟨policy, roster, planned, default⟩ := System.default_startScheduler s₀ t₀ conf some
    have same := (plan_run run).trans planned
    rw [System.plan, hs, Option.map_some] at same
    cases same
    exact default
  refine ⟨⟨first, rest, some, default, manned.hosts.name default⟩,
    Means.exists conf.effective_groups_ne_nil _ _, fun name wanted means => ?_⟩
  exact manned.places hs there accepted means

/-- A group with an entry for a name, out of range. -/
def secondGroup : SchedGroup where
  name := "h"
  processorNum := 1
  tasks := [{ name := "t", prio := 25 }, { name := "u", prio := 1 }]

/-- Two groups with an entry for that name. -/
def contested : SchedulerConf where
  groups := [{ name := "g", processorNum := 1, tasks := [{ name := "t", prio := 3 }] }, secondGroup]

/-- A routine of that name is made, and not dispatched. -/
def contestedRoutine : System Script :=
  Step.apply (System.startScheduler {} .main contested) .main (.operate (.newRoutine 7 "t" .finished))

/-- The scheduler of both groups. -/
def contestedScheduler : Scheduler where
  policy := ⟨contested.groups⟩
  roster := { groups := [("g", 0), ("h", 1)], default := 0 }
  processors := [0, 1]

/-- The last entry wins, and its priority is lowered. -/
theorem placed_by_last_entry :
    Run Standing (System.startScheduler ({} : System Script) .main contested) contestedRoutine ∧
      contestedRoutine.scheduler = some contestedScheduler ∧ 0 < contestedRoutine.routines.size ∧
      (contestedRoutine.dispatch .main 0).2 = true ∧
      contestedRoutine.Placed .main contestedScheduler 0 1 "h" 25 (contestedRoutine.dispatch .main 0).1 := by
  have run : Run Standing (System.startScheduler ({} : System Script) .main contested) contestedRoutine :=
    Run.refl.step .main (.operate (.newRoutine 7 "t" .finished)) trivial
  have hs : contestedRoutine.scheduler = some contestedScheduler := rfl
  have last : LastEntry contested.effective.groups "t" secondGroup { name := "t", prio := 25 } :=
    ⟨contested.groups.take 1, [], [], [{ name := "u", prio := 1 }], rfl, rfl, rfl, by decide, nofun⟩
  have accepted : (contestedRoutine.dispatch .main 0).2 = true := rfl
  obtain ⟨-, -, placed⟩ := placed_as_configured run hs (by decide) accepted
  obtain ⟨g, -, found, -, placed⟩ := placed "h" 25 (.entry last)
  cases found
  exact ⟨run, hs, by decide, accepted, placed⟩

end Outside

end CoopSched
