import DeterminedTasks.Basic
import DeterminedTasks.Readiness
import DeterminedTasks.CommandActor.Model
import DeterminedTasks.CommandActor.Step
import DeterminedTasks.CommandActor.Exit
import DeterminedTasks.CommandActor.ReadinessRun
import DeterminedTasks.CommandActor.Lifecycle
import DeterminedTasks.CommandActor.Cleanup
import DeterminedTasks.CommandActor.History
import DeterminedTasks.CommandActor.Requests
import DeterminedTasks.CheckpointGC
