import CoopSched.Config.Document
import CoopSched.Scenario.World
/-!
# Launching from a file

A scheduler is made from the configuration at a path, looked at, and shut down.
-/

namespace CoopSched.Scenario

/-- What a launch shows. -/
structure Launch where
  /-- The outcome of reading the configuration alone. -/
  load : Except Error Unit
  groups : List String
  defaultGroup : String
  pool : Nat
  processors : Nat
  events : List String

/-- Launch a scheduler and shut it down. -/
def launch (path : String) (file : Config.File) (procNum : Nat) : Launch :=
  let load := (Config.loadFile Config.ofYaml path file).map fun _ => ()
  match System.startFromFile clean .main Config.ofYaml path file procNum with
  | .error _ => nothing load
  | .ok s =>
    let s : System Script := s.rest
    match s.scheduler with
    | none => nothing load
    | some sched => {
        load
        groups := sorted (sched.roster.groups.map (·.1))
        defaultGroup := (s.group sched.roster.default).name
        pool := sched.poolSize
        processors := sched.processors.length
        events := eventsSince true 0 (s.shutdown .main).log }
where
  nothing (load : Except Error Unit) : Launch :=
    { load, groups := [], defaultGroup := "", pool := 0, processors := 0, events := [] }

end CoopSched.Scenario
