import CoopSched.Directory
import CoopSched.Scenario.Launch
import CoopSched.Scenario.Play
import CoopSched.Scenario.Trial
import CoopSched.Stack
import CoopSched.Proofs.Frame
import CoopSched.Proofs.Kept
import CoopSched.Proofs.Tasks.Consistency
import CoopSched.Proofs.Tasks.Operations
import CoopSched.Proofs.Tasks.Start
import CoopSched.Proofs.Posts
import CoopSched.Proofs.Tasks.Turns
import CoopSched.Proofs.Tasks.Runs
import CoopSched.Proofs.Atomic
import CoopSched.Proofs.Wakeup.Machine
import CoopSched.Proofs.Wakeup.Effects
import CoopSched.Proofs.Wakeup.Control
import CoopSched.Proofs.Wakeup.Hearing
import CoopSched.Proofs.Wakeup.Calm
import CoopSched.Proofs.Wakeup.Stranding
import CoopSched.Proofs.Exclusion.Machine
import CoopSched.Proofs.Exclusion.Deeds
import CoopSched.Proofs.Exclusion.Grants
import CoopSched.Proofs.Exclusion.Exclusive
import CoopSched.Proofs.Selection
import CoopSched.Proofs.Cpuset
import CoopSched.Proofs.Pending
import CoopSched.Proofs.Directory
import CoopSched.Proofs.Directory.Map
import CoopSched.Proofs.Registry
import CoopSched.Proofs.Directory.Memory
import CoopSched.Proofs.Directory.Calls
import CoopSched.Proofs.Directory.Linearizable
import CoopSched.Proofs.Directory.Charges
import CoopSched.Proofs.Directory.Attempts
import CoopSched.Proofs.Lifecycle.Machine
import CoopSched.Proofs.Lifecycle.Stages
import CoopSched.Proofs.Lifecycle.Locks
import CoopSched.Proofs.Lifecycle.Ledger
import CoopSched.Proofs.Lifecycle.Records
import CoopSched.Proofs.Lifecycle.History
import CoopSched.Proofs.Lifecycle.Shutdown
import CoopSched.Proofs.Turns.Machine
import CoopSched.Proofs.Turns.Leeway
import CoopSched.Proofs.Turns.Finished
import CoopSched.Proofs.Turns.Notified
import CoopSched.Proofs.Turns.Resting
import CoopSched.Proofs.Turns.Messages
import CoopSched.Proofs.Turns.Tables
import CoopSched.Proofs.Turns.Removal
import CoopSched.Proofs.Turns.Told
import CoopSched.Proofs.Turns.Flags
import CoopSched.Proofs.Turns.Causes
import CoopSched.Proofs.Turns.Readers
import CoopSched.Proofs.Turns.Entered
import CoopSched.Proofs.Turns.Settling
import CoopSched.Proofs.Outside.Machine
import CoopSched.Proofs.Outside.Adjusting
import CoopSched.Proofs.Outside.Slots
import CoopSched.Proofs.Outside.Completeness
import CoopSched.Proofs.Outside.Lasting
import CoopSched.Proofs.Outside.Silence
import CoopSched.Proofs.Outside.Placing
import CoopSched.Proofs.Outside.Served
import CoopSched.Proofs.Outside.Refusal
import CoopSched.Proofs.Parking.Machine
import CoopSched.Proofs.Parking.Watching
import CoopSched.Proofs.Parking.Overlooked
import CoopSched.Proofs.Stopping.Steps
import CoopSched.Proofs.Stopping.Machine
import CoopSched.Proofs.Stopping.Turns
import CoopSched.Proofs.Stopping.Ending
import CoopSched.Proofs.Stopping.Clean
import CoopSched.Proofs.Pipelines.Machine
import CoopSched.Proofs.Pipelines.Effects
import CoopSched.Proofs.Pipelines.Creation
import CoopSched.Proofs.Pipelines.Flow
import CoopSched.Proofs.Pipelines.Determinacy
