import CoopSched.Config.Loading
import CoopSched.Yaml.Decoding
/-!
# Configuration documents

A configuration is written as a mapping with the key `scheduler_conf`. Every field may be missing, and
unknown ones are ignored. This is one `Reader` of configurations, that of the scenarios; loading and starting
take any.
-/

namespace CoopSched.Config

open Yaml Yaml.Decoding

/-- A task entry of a group. -/
def task (d : Document) (n : Node) : Decoding ClassicTask := do
  let fs ← fields d n
  return {
    name := ← field text "" d fs "name"
    prio := ← field natural 0 d fs "prio"
    groupName := ← field text "" d fs "group_name" }

/-- A group entry. -/
def group (d : Document) (n : Node) : Decoding SchedGroup := do
  let fs ← fields d n
  return {
    name := ← field text "" d fs "name"
    processorNum := ← field natural 0 d fs "processor_num"
    affinity := ← field text "" d fs "affinity"
    cpuset := ← field text "" d fs "cpuset"
    processorPolicy := ← field text "" d fs "processor_policy"
    processorPrio := ← field integer 0 d fs "processor_prio"
    tasks := ← field (list task) [] d fs "tasks" }

/-- A thread entry. -/
def thread (d : Document) (n : Node) : Decoding InnerThread := do
  let fs ← fields d n
  return {
    name := ← field text "" d fs "name"
    cpuset := ← field text "" d fs "cpuset"
    policy := ← field text "" d fs "policy"
    prio := ← field natural 0 d fs "prio" }

/-- The groups of the classic policy. -/
def classic (d : Document) (n : Node) : Decoding (List SchedGroup) := do
  field (list group) [] d (← fields d n) "groups"

/-- The scheduler section. -/
def scheduler (d : Document) (n : Node) : Decoding SchedulerConf := do
  let fs ← fields d n
  return {
    policy := ← field text "" d fs "policy"
    routineNum := ← field natural 0 d fs "routine_num"
    defaultProcNum := ← field natural 0 d fs "default_proc_num"
    processLevelCpuset := ← field text "" d fs "process_level_cpuset"
    threads := ← field (list thread) [] d fs "threads"
    groups := ← field classic [] d fs "classic_conf" }

/-- The scheduler section of a document; one without any content says nothing. -/
def ofDocument (d : Document) : Except Fault SchedulerConf :=
  match d.root with
  | none => .ok {}
  | some root =>
    let decoding : Decoding SchedulerConf := do
      field scheduler {} d (← fields d root) "scheduler_conf"
    decoding.run' (100 * d.units)

/-- Read a document. -/
def ofYaml : Reader := fun text =>
  ((Document.ofText? text).bind ofDocument).mapError (·.message)

/-- Load the configuration in a document. -/
def ofText (text : String) : Except Error SchedulerConf := load ofYaml text

end CoopSched.Config
