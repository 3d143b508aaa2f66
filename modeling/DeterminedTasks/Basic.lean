import Mathlib.Data.List.Basic

/-! Messages, effects and collaborator state shared by the command actor and the
checkpoint GC task (`sproto`, `container`, `model` and the actor context). -/

namespace DeterminedTasks

abbrev TaskID := String

inductive ContainerState
  | assigned
  | pulling
  | starting
  | running
  | terminated
  deriving DecidableEq, Repr

def ContainerState.rank : ContainerState → Nat
  | .assigned => 1
  | .pulling => 2
  | .starting => 3
  | .running => 4
  | .terminated => 5

theorem ContainerState.eq_terminated_of_rank {state : ContainerState}
    (above : ContainerState.terminated.rank ≤ state.rank) : state = .terminated := by
  cases state <;> first | rfl | simp [ContainerState.rank] at above

structure Container where
  state : ContainerState
  deriving DecidableEq, Repr

structure Address where
  hostIP : String
  hostPort : Nat
  deriving DecidableEq, Repr

structure ContainerStarted where
  addresses : List Address
  deriving DecidableEq, Repr

-- `failure` is the rendered `Failure.Error()`, absent for a clean exit.
structure ContainerStopped where
  failure : Option String
  deriving DecidableEq, Repr

structure TaskContainerStateChanged where
  container : Container
  containerStarted : Option ContainerStarted
  containerStopped : Option ContainerStopped
  deriving DecidableEq, Repr

structure ContainerLog where
  line : String
  deriving DecidableEq, Repr

structure Allocation where
  handle : String
  deriving DecidableEq, Repr

structure AllocateRequest where
  id : TaskID
  name : String
  slotsNeeded : Int
  label : String
  resourcePool : String
  nonPreemptible : Bool
  singleAgent : Bool
  deriving DecidableEq, Repr

structure ResourcesAllocated where
  id : TaskID
  allocations : List Allocation
  deriving DecidableEq, Repr

structure ResourcesConfig where
  slots : Int
  agentLabel : String
  resourcePool : String
  priority : Option Int
  deriving DecidableEq, Repr

structure CommandConfig where
  description : String
  resources : ResourcesConfig
  deriving DecidableEq, Repr

abbrev Archive := List String

inductive TaskSpec
  | startCommand (taskToken : String) (config : CommandConfig) (userFiles additionalFiles : Archive)
  | gcCheckpoints (taskToken : String) (experimentID : Int) (toDelete : String)
      (deleteTensorboards : Bool)
  deriving DecidableEq, Repr

inductive State
  | pending
  | assigned
  | pulling
  | starting
  | running
  | terminated
  deriving DecidableEq, Repr

def State.rank : State → Nat
  | .pending => 0
  | .assigned => 1
  | .pulling => 2
  | .starting => 3
  | .running => 4
  | .terminated => 5

structure View where
  state : State
  description : String
  container : Option Container
  username : String
  resourcePool : String
  exitStatus : String
  deriving DecidableEq, Repr

inductive Response
  | summary
  | notebook (view : View) (serviceAddress : String)
  | command (view : View)
  | shell (view : View) (privateKey publicKey : String) (addresses : List Address)
  | tensorboard (view : View) (serviceAddress : String) (experimentIds trialIds : List Int)
  | getResponse (inner : Response) (config : Option CommandConfig)
  | killResponse (inner : Response)
  deriving DecidableEq, Repr

structure URL where
  scheme : String
  host : String
  deriving DecidableEq, Repr

inductive Event
  | scheduled (taskID : TaskID)
  | assigned (msg : ResourcesAllocated)
  | containerStarted (started : ContainerStarted)
  | serviceReady (log : ContainerLog)
  | log (text : String)
  | terminateRequest
  | exited (exitStatus : String)
  deriving DecidableEq, Repr

/-- What one handler does outside the actor's own fields, in the order it does it.
`failed` is the error `Receive` returns, or the panic it raises, after the effects before it. -/
inductive Effect
  | allocate (request : AllocateRequest)
  | setGroupPriority (priority : Option Int)
  | publish (event : Event)
  | startTaskSession (taskID : TaskID)
  | startAllocation (allocation : Allocation) (spec : TaskSpec)
  | killAllocation (allocation : Allocation)
  | proxyRegister (serviceID : String) (url : URL) (proxyTCP : Bool)
  | proxyUnregister (serviceID : String)
  | resourcesReleased
  | notifyAfter (seconds : Nat)
  | deleteTaskSession (taskID : TaskID)
  | respond (response : Response)
  | stopSelf
  | failed (reason : String)
  deriving DecidableEq, Repr

def nilDereference : String := "invalid memory address or nil pointer dereference"

-- `actor.ErrUnexpectedMessage`, without its message-type suffix.
def unexpectedMessage : String := "unexpected message"

def Effect.isExited : Effect → Bool
  | .publish (.exited _) => true
  | _ => false

def Effect.isStartTaskSession : Effect → Bool
  | .startTaskSession _ => true
  | _ => false

def Effect.isStartAllocation : Effect → Bool
  | .startAllocation _ _ => true
  | _ => false

def Effect.isResourcesReleased : Effect → Bool
  | .resourcesReleased => true
  | _ => false

def Effect.isNotifyAfter : Effect → Bool
  | .notifyAfter _ => true
  | _ => false

def Effect.isDeleteTaskSession : Effect → Bool
  | .deleteTaskSession _ => true
  | _ => false

def Effect.serviceReady? : Effect → Option ContainerLog
  | .publish (.serviceReady log) => some log
  | _ => none

def Effect.exited? : Effect → Option String
  | .publish (.exited exitStatus) => some exitStatus
  | _ => none

def Effect.started? : Effect → Option Allocation
  | .startAllocation allocation _ => some allocation
  | _ => none

def Effect.killed? : Effect → Option Allocation
  | .killAllocation allocation => some allocation
  | _ => none

def Effect.startedFiles? : Effect → Option (Archive × Archive)
  | .startAllocation _ (.startCommand _ _ userFiles additionalFiles) =>
      some (userFiles, additionalFiles)
  | _ => none

def Effect.isReply : Effect → Bool
  | .respond _ | .failed _ => true
  | _ => false

def Effect.ofExit : Effect → Bool
  | .publish (.exited _) | .resourcesReleased | .notifyAfter _ | .deleteTaskSession _ => true
  | _ => false

theorem Effect.ofExit_iff (effect : Effect) : effect.ofExit ↔ effect.isExited ∨
    effect.isResourcesReleased ∨ effect.isNotifyAfter ∨ effect.isDeleteTaskSession := by
  cases effect
  case publish event =>
    cases event <;> simp [Effect.ofExit, Effect.isExited, Effect.isResourcesReleased,
      Effect.isNotifyAfter, Effect.isDeleteTaskSession]
  all_goals simp [Effect.ofExit, Effect.isExited, Effect.isResourcesReleased, Effect.isNotifyAfter,
    Effect.isDeleteTaskSession]

/-- Effects no invariant reads: no exit, readiness event, session, allocation, route,
resource-manager release or timer. -/
def Effect.quiet : Effect → Bool
  | .allocate _ | .setGroupPriority _ | .respond _ | .stopSelf | .failed _ => true
  | .publish (.exited _) | .publish (.serviceReady _) => false
  | .publish _ => true
  | _ => false

theorem Effect.ofExit_of_quiet {effect : Effect} (quiet : effect.quiet) :
    effect.ofExit = false := by
  cases effect
  case publish event => cases event <;> simp_all [Effect.quiet, Effect.ofExit]
  all_goals simp_all [Effect.quiet, Effect.ofExit]

theorem filterMap_quiet {α : Type} {extract : Effect → Option α}
    (loud : ∀ effect, effect.quiet → extract effect = none) {effects : List Effect}
    (quiet : ∀ effect ∈ effects, effect.quiet) : effects.filterMap extract = [] :=
  List.filterMap_eq_nil_iff.mpr fun effect member => loud effect (quiet effect member)

theorem filterMap_const_none {α β : Type} (l : List α) :
    l.filterMap (fun _ => (none : Option β)) = [] :=
  List.filterMap_eq_nil_iff.mpr fun _ _ => rfl

theorem Effect.exited?_of_quiet (effect : Effect) (quiet : effect.quiet) :
    effect.exited? = none := by
  cases effect
  case publish event => cases event <;> first | rfl | simp [Effect.quiet] at quiet
  all_goals rfl

theorem Effect.started?_of_quiet (effect : Effect) (quiet : effect.quiet) :
    effect.started? = none := by
  cases effect <;> first | rfl | simp [Effect.quiet] at quiet

theorem Effect.killed?_of_quiet (effect : Effect) (quiet : effect.quiet) :
    effect.killed? = none := by
  cases effect <;> first | rfl | simp [Effect.quiet] at quiet

theorem Effect.startedFiles?_of_quiet (effect : Effect) (quiet : effect.quiet) :
    effect.startedFiles? = none := by
  cases effect <;> first | rfl | simp [Effect.quiet] at quiet

/-- The collaborators' view of one actor: the task sessions the store holds open and the
service IDs the proxy routes. -/
structure World where
  sessions : List TaskID
  routes : List String
  deriving DecidableEq, Repr

def World.empty : World := ⟨[], []⟩

def World.apply (world : World) : Effect → World
  | .startTaskSession id => { world with sessions := id :: world.sessions }
  | .deleteTaskSession id => { world with sessions := world.sessions.filter (· != id) }
  | .proxyRegister id _ _ => { world with routes := id :: world.routes }
  | .proxyUnregister id => { world with routes := world.routes.filter (· != id) }
  | _ => world

def World.applyAll (world : World) (effects : List Effect) : World :=
  effects.foldl World.apply world

@[simp] theorem World.applyAll_nil (world : World) : world.applyAll [] = world := rfl

@[simp] theorem World.applyAll_cons (world : World) (effect : Effect) (effects : List Effect) :
    world.applyAll (effect :: effects) = (world.apply effect).applyAll effects := rfl

@[simp] theorem World.applyAll_append (world : World) (first second : List Effect) :
    world.applyAll (first ++ second) = (world.applyAll first).applyAll second := by
  simp [World.applyAll, List.foldl_append]

theorem World.applyAll_fixed (world : World) {effects : List Effect}
    (fixed : ∀ effect ∈ effects, ∀ world : World, world.apply effect = world) :
    world.applyAll effects = world := by
  induction effects generalizing world with
  | nil => rfl
  | cons effect rest ih =>
      simp only [List.mem_cons, forall_eq_or_imp] at fixed
      rw [applyAll_cons, fixed.1, ih _ fixed.2]

theorem World.apply_of_quiet {effect : Effect} (quiet : effect.quiet) (world : World) :
    world.apply effect = world := by
  cases effect <;> simp_all [Effect.quiet, World.apply]

theorem World.applyAll_quiet (world : World) {effects : List Effect}
    (quiet : ∀ effect ∈ effects, effect.quiet) : world.applyAll effects = world :=
  world.applyAll_fixed fun effect member => World.apply_of_quiet (quiet effect member)

theorem countP_quiet {effects : List Effect} (quiet : ∀ effect ∈ effects, effect.quiet)
    {counted : Effect → Bool} (loud : ∀ effect, counted effect → effect.quiet = false) :
    effects.countP counted = 0 :=
  List.countP_eq_zero.mpr fun effect member hit => by
    simpa [quiet effect member] using loud effect hit

end DeterminedTasks
