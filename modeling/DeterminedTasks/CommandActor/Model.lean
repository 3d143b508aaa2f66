import DeterminedTasks.Readiness

/-! The command actor of `command.go`: its fields, `Receive` and the helpers it calls, as one
state-passing step `receive : Command → Msg → Command × List Effect`. The replies of the
collaborators a handler waits on travel with the message that triggers the wait. -/

namespace DeterminedTasks.CommandActor

/-- What the handlers take from outside `command.go`: the package's `generateServiceAddress`
and `tensorboardServiceAddress`, `protoutils.DefaultStringValue`, `ContainerLog.String` and the
order in which Go ranges over a map, which may be any permutation of its entries. -/
structure Env where
  generateServiceAddress : TaskID → Except String String
  tensorboardServiceAddress : TaskID → String
  defaultStringValue : String
  logString : ContainerLog → String
  rangeOrder : List (String × ReadinessCheck) → List (String × ReadinessCheck)
  rangeOrder_perm : ∀ entries, (rangeOrder entries).Perm entries

inductive MetaValue
  | str (value : String)
  | ints (values : List Int)
  | other
  deriving DecidableEq, Repr

structure Command where
  config : CommandConfig
  owner : String
  taskID : TaskID
  userFiles : Archive
  additionalFiles : Archive
  readinessChecks : CheckMap
  readinessMessageSent : Bool
  metadata : List (String × MetaValue)
  task : Option AllocateRequest
  container : Option Container
  allocation : Option Allocation
  proxyNames : List String
  exitStatus : Option String
  addresses : List Address
  proxyTCP : Bool

/-- The actor as its creator hands it over: the creation fields of `c`, every field that
`Receive` writes at Go's zero value. -/
def Command.fresh (c : Command) : Command :=
  { c with readinessMessageSent := false, task := none, container := none, allocation := none,
           proxyNames := [], exitStatus := none, addresses := [] }

inductive Msg
  | preStart (allocateError : Option String)
  | postStop
  | resourcesAllocated (msg : ResourcesAllocated) (session : Except String String)
  | getSummary (userFilter : String)
  | notebook
  | getNotebookRequest
  | killNotebookRequest
  | command
  | getCommandRequest
  | killCommandRequest
  | shell
  | getShellRequest
  | killShellRequest
  | tensorboard
  | getTensorboardRequest
  | killTensorboardRequest
  | taskContainerStateChanged (msg : TaskContainerStateChanged)
  | containerLog (msg : ContainerLog)
  | terminateForGC
  | releaseResources

def terminatedDuration : Nat := 24 * 60 * 60

/-- `State()`: the container's state when one was reported, otherwise Terminated once
`exitStatus` is set. -/
def Command.state (c : Command) : State :=
  match c.container with
  | some container =>
      match container.state with
      | .assigned => .assigned
      | .pulling => .pulling
      | .starting => .starting
      | .running => .running
      | .terminated => .terminated
  | none =>
      match c.exitStatus with
      | some _ => .terminated
      | none => .pending

def Command.view (env : Env) (c : Command) : View :=
  { state := c.state, description := c.config.description, container := c.container,
    username := c.owner, resourcePool := c.config.resources.resourcePool,
    exitStatus := c.exitStatus.getD env.defaultStringValue }

def Command.toNotebook (env : Env) (c : Command) : Except String Response :=
  match env.generateServiceAddress c.taskID with
  | .error err => .error ("generating service address for " ++ c.taskID ++ ": " ++ err)
  | .ok serviceAddress => .ok (.notebook (c.view env) serviceAddress)

def Command.toCommand (env : Env) (c : Command) : Response :=
  .command (c.view env)

def Command.toShell (env : Env) (c : Command) : Except String Response :=
  match c.metadata.lookup "privateKey", c.metadata.lookup "publicKey" with
  | some (.str privateKey), some (.str publicKey) =>
      .ok (.shell (c.view env) privateKey publicKey c.addresses)
  | _, _ => .error "interface conversion: shell key metadata is not a string"

-- Go's `int32(id)` conversion of an `int`.
def toInt32 (value : Int) : Int := (value + 2147483648) % 4294967296 - 2147483648

theorem toInt32_bounds (value : Int) :
    -2147483648 ≤ toInt32 value ∧ toInt32 value < 2147483648 := by
  unfold toInt32
  omega

theorem toInt32_of_fits {value : Int} (low : -2147483648 ≤ value) (high : value < 2147483648) :
    toInt32 value = value := by
  unfold toInt32
  omega

def Command.toTensorboard (env : Env) (c : Command) : Except String Response :=
  match c.metadata.lookup "experiment_ids", c.metadata.lookup "trial_ids" with
  | some (.ints experimentIds), some (.ints trialIds) =>
      .ok (.tensorboard (c.view env) (env.tensorboardServiceAddress c.taskID)
        (experimentIds.map toInt32) (trialIds.map toInt32))
  | _, _ => .error "interface conversion: tensorboard id metadata is not []int"

def preStart (c : Command) (allocateError : Option String) : Command × List Effect :=
  let task : AllocateRequest :=
    { id := c.taskID, name := c.config.description, slotsNeeded := c.config.resources.slots,
      label := c.config.resources.agentLabel, resourcePool := c.config.resources.resourcePool,
      nonPreemptible := true, singleAgent := true }
  ({ c with task := some task }, .allocate task ::
    match allocateError with
    | some err => [.failed err]
    | none => [.setGroupPriority c.config.resources.priority, .publish (.scheduled c.taskID)])

def exit (c : Command) (exitStatus : String) : Command × List Effect :=
  ({ c with exitStatus := some exitStatus },
    [.publish (.exited exitStatus), .resourcesReleased, .notifyAfter terminatedDuration] ++
      match c.task with
      | some task => [.deleteTaskSession task.id]
      | none => [])

/-- `terminate`: abort before allocation through `exit`, otherwise kill the allocation and
leave the exit to the Terminated container report. -/
def terminate (c : Command) (message : Msg) : Command × List Effect :=
  let requested : List Effect :=
    match message with
    | .releaseResources => [.publish .terminateRequest]
    | _ => []
  match c.allocation with
  | none =>
      let exited := exit c "task is aborted without being scheduled"
      (exited.1, requested ++ exited.2)
  | some allocation => (c, requested ++ [.killAllocation allocation])

def receiveSchedulerMsg (c : Command) (msg : ResourcesAllocated) (session : Except String String) :
    Command × List Effect :=
  match c.task with
  | none => (c, [])
  | some task =>
      if msg.id = task.id then
        match msg.allocations with
        | [allocation] =>
            match session with
            | .error err => (c, [.failed ("cannot start a new task session: " ++ err)])
            | .ok taskToken =>
                ({ c with allocation := some allocation, userFiles := [], additionalFiles := [] },
                  [.startTaskSession task.id,
                   .startAllocation allocation
                     (.startCommand taskToken c.config c.userFiles c.additionalFiles),
                   .publish (.assigned msg)])
        | _ => (c, [.failed "Command should only receive an allocation of one container"])
      else (c, [])

def proxyURL (address : Address) : URL :=
  ⟨"http", address.hostIP ++ ":" ++ toString address.hostPort⟩

def taskContainerStateChanged (c : Command) (msg : TaskContainerStateChanged) :
    Command × List Effect :=
  let reported := { c with container := some msg.container }
  match msg.container.state with
  | .running =>
      match msg.containerStarted with
      | none => (reported, [.failed nilDereference])
      | some started =>
          ({ reported with addresses := started.addresses,
                           proxyNames := started.addresses.map fun _ => c.taskID },
            started.addresses.map
                (fun address => .proxyRegister c.taskID (proxyURL address) c.proxyTCP) ++
              [.publish (.containerStarted started)])
  | .terminated =>
      let unregistered := c.proxyNames.map .proxyUnregister
      let cleared := { reported with proxyNames := [] }
      match msg.containerStopped with
      | none => (cleared, unregistered ++ [.failed nilDereference])
      | some stopped =>
          let exited := exit cleared (stopped.failure.getD "command exited successfully")
          (exited.1, unregistered ++ exited.2)
  | _ => (reported, [])

def containerLog (env : Env) (c : Command) (msg : ContainerLog) : Command × List Effect :=
  let logged := Effect.publish (.log (env.logString msg))
  if c.readinessMessageSent then (c, [logged])
  else
    let pass := readinessChecksPass (env.rangeOrder c.readinessChecks.entries) c.readinessChecks msg
    if pass.2 then
      ({ c with readinessChecks := pass.1, readinessMessageSent := true },
        [.publish (.serviceReady msg), logged])
    else ({ c with readinessChecks := pass.1 }, [logged])

def respondWith (rendered : Except String Response) (wrap : Response → Response) : List Effect :=
  match rendered with
  | .ok response => [.respond (wrap response)]
  | .error reason => [.failed reason]

def killRequest (render : Command → Except String Response) (c : Command) (message : Msg) :
    Command × List Effect :=
  let terminated := terminate c message
  (terminated.1, terminated.2 ++ respondWith (render terminated.1) .killResponse)

def receive (env : Env) (c : Command) : Msg → Command × List Effect
  | .preStart allocateError => preStart c allocateError
  | .postStop => terminate c .postStop
  | .resourcesAllocated msg session => receiveSchedulerMsg c msg session
  | .getSummary userFilter =>
      (c, if userFilter = "" ∨ c.owner = userFilter then [.respond .summary] else [])
  | .notebook =>
      (c, match c.toNotebook env with
        | .ok notebook => [.respond notebook]
        | .error _ => [])
  | .getNotebookRequest =>
      (c, match c.toNotebook env with
        | .ok notebook => [.respond (.getResponse notebook (some c.config))]
        | .error _ => [])
  | .killNotebookRequest =>
      match c.toNotebook env with
      | .ok notebook =>
          let terminated := terminate c .killNotebookRequest
          (terminated.1, terminated.2 ++ [.respond (.killResponse notebook)])
      | .error _ => (c, [])
  | .command => (c, [.respond (c.toCommand env)])
  | .getCommandRequest => (c, [.respond (.getResponse (c.toCommand env) (some c.config))])
  | .killCommandRequest => killRequest (fun c => .ok (c.toCommand env)) c .killCommandRequest
  | .shell => (c, respondWith (c.toShell env) id)
  | .getShellRequest =>
      (c, respondWith (c.toShell env) fun shell => .getResponse shell (some c.config))
  | .killShellRequest => killRequest (Command.toShell env) c .killShellRequest
  | .tensorboard => (c, respondWith (c.toTensorboard env) id)
  | .getTensorboardRequest =>
      (c, respondWith (c.toTensorboard env) fun board => .getResponse board none)
  | .killTensorboardRequest => killRequest (Command.toTensorboard env) c .killTensorboardRequest
  | .taskContainerStateChanged msg => taskContainerStateChanged c msg
  | .containerLog msg => containerLog env c msg
  | .terminateForGC => (c, [.stopSelf])
  | .releaseResources => (c, [.failed unexpectedMessage])

def run (env : Env) : Command → List Msg → Command × List Effect
  | c, [] => (c, [])
  | c, msg :: rest =>
      let current := receive env c msg
      let later := run env current.1 rest
      (later.1, current.2 ++ later.2)

@[simp] theorem run_nil (env : Env) (c : Command) : run env c [] = (c, []) := rfl

@[simp] theorem run_cons (env : Env) (c : Command) (msg : Msg) (rest : List Msg) :
    run env c (msg :: rest) =
      ((run env (receive env c msg).1 rest).1,
        (receive env c msg).2 ++ (run env (receive env c msg).1 rest).2) := rfl

theorem run_append (env : Env) (c : Command) (first second : List Msg) :
    run env c (first ++ second) =
      ((run env (run env c first).1 second).1,
        (run env c first).2 ++ (run env (run env c first).1 second).2) := by
  induction first generalizing c with
  | nil => rfl
  | cons msg rest ih => simp [ih]

theorem run_locate (env : Env) (c : Command) (msgs : List Msg) (effect : Effect) :
    ∀ before after, (run env c msgs).2 = before ++ effect :: after →
      ∃ pre msg post, msgs = pre ++ msg :: post ∧
        effect ∈ (receive env (run env c pre).1 msg).2 ∧ (run env c pre).2 <+: before := by
  induction msgs generalizing c with
  | nil => simp
  | cons msg rest ih =>
      intro before after split
      rw [run_cons] at split
      rcases List.append_eq_append_iff.mp split.symm with
        ⟨inside, now, later⟩ | ⟨between, rfl, later⟩
      · cases inside with
        | nil =>
            rw [List.nil_append] at later
            obtain ⟨pre, found, post, rfl, member, prefix_⟩ := ih _ [] after later.symm
            refine ⟨msg :: pre, found, post, rfl, member, ?_⟩
            rw [List.append_nil] at now
            simp [now, List.prefix_nil.mp prefix_]
        | cons first inside =>
            obtain ⟨rfl, -⟩ := List.cons.inj later
            exact ⟨[], msg, rest, rfl, by simp [now], by simp⟩
      · obtain ⟨pre, found, post, rfl, member, prefix_⟩ := ih _ between after later
        exact ⟨msg :: pre, found, post, rfl, member, by simpa using prefix_⟩

def plainEnv : Env :=
  { generateServiceAddress := fun taskID => .ok ("/proxy/" ++ taskID ++ "/")
    tensorboardServiceAddress := fun taskID => "/proxy/" ++ taskID ++ "/"
    defaultStringValue := ""
    logString := ContainerLog.line
    rangeOrder := id
    rangeOrder_perm := fun _ => List.Perm.refl _ }

def sample : Command :=
  { config := ⟨"sample", ⟨1, "", "default", none⟩⟩, owner := "alice", taskID := "t1",
    userFiles := [], additionalFiles := [], readinessChecks := CheckMap.empty,
    readinessMessageSent := false, metadata := [], task := none, container := none,
    allocation := none, proxyNames := [], exitStatus := none, addresses := [], proxyTCP := false }

end DeterminedTasks.CommandActor
