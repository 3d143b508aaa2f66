import DeterminedTasks.CommandActor.Exit
import DeterminedTasks.CommandActor.History

/-! What the actor asks of its collaborators: every request, session, route and start is made
under its own task ID with its own configuration, and none of them deletes checkpoints. -/

namespace DeterminedTasks.CommandActor

/-- The effects an actor of `taskID`, `config` and `proxyTCP` may have: the allocate request its
configuration makes, and sessions, routes, events and starts of its own task only; none deletes
checkpoints. -/
def onBehalfOf (taskID : TaskID) (config : CommandConfig) (proxyTCP : Bool) : Effect → Bool
  | .allocate request =>
      request ==
        { id := taskID, name := config.description, slotsNeeded := config.resources.slots,
          label := config.resources.agentLabel, resourcePool := config.resources.resourcePool,
          nonPreemptible := true, singleAgent := true }
  | .setGroupPriority priority => priority == config.resources.priority
  | .publish (.scheduled id) | .startTaskSession id | .deleteTaskSession id | .proxyUnregister id =>
      id == taskID
  | .publish (.assigned grant) => grant.id == taskID
  | .proxyRegister serviceID _ tcp => serviceID == taskID && tcp == proxyTCP
  | .startAllocation _ (.startCommand _ startConfig _ _) => startConfig == config
  | .startAllocation _ (.gcCheckpoints ..) => false
  | _ => true

structure Owned (c : Command) : Prop where
  task : TaskOwned c
  proxyNames : ∀ name ∈ c.proxyNames, name = c.taskID

theorem receive_creation (env : Env) (c : Command) (msg : Msg) :
    (receive env c msg).1.config = c.config ∧ (receive env c msg).1.proxyTCP = c.proxyTCP := by
  rcases receive_cases env c msg with ⟨_, rfl⟩ | ⟨grant, session, rfl⟩ | ⟨report, rfl⟩ |
    ⟨log, rfl⟩ | ⟨-, _, -, shape⟩ | ⟨-, -, same, -⟩
  · exact ⟨rfl, rfl⟩
  · rcases receiveSchedulerMsg_cases c grant session with
      ⟨same, -⟩ | ⟨_, _, _, -, -, -, -, shape⟩
    · simp [receive, same]
    · simp [receive, shape]
  · rcases taskContainerStateChanged_cases c report with
      ⟨_, -, -, shape⟩ | ⟨_, -, -, shape⟩ | ⟨-, -, shape⟩ | ⟨-, shape, -⟩ <;>
      simp [receive, shape]
  · simp only [receive, containerLog]
    split
    · exact ⟨rfl, rfl⟩
    · split <;> exact ⟨rfl, rfl⟩
  · rw [shape]
    unfold abortOrKill
    split <;> exact ⟨rfl, rfl⟩
  · rw [same]
    exact ⟨rfl, rfl⟩

theorem receive_owned (env : Env) {c : Command} (msg : Msg) (owned : Owned c) :
    Owned (receive env c msg).1 := by
  refine ⟨receive_taskOwned env msg owned.task, ?_⟩
  rw [receive_taskID, (receive_routes env c msg).1]
  cases msg.routedAddresses? with
  | none => exact owned.proxyNames
  | some addresses => simp

section Handlers

variable {taskID : TaskID} {config : CommandConfig} {proxyTCP : Bool}

theorem exit_onBehalfOf {c : Command} (owned : TaskOwned c) (exitStatus : String) :
    ∀ effect ∈ (exit c exitStatus).2, onBehalfOf c.taskID config proxyTCP effect := by
  simp only [exit_snd, List.mem_append, List.mem_cons, List.mem_singleton, List.not_mem_nil,
    or_false, List.mem_map, Option.mem_toList]
  rintro _ ((rfl | rfl | rfl) | ⟨task, recorded, rfl⟩)
  any_goals rfl
  exact beq_iff_eq.mpr (owned task recorded)

theorem abortOrKill_onBehalfOf {c : Command} (owned : TaskOwned c) :
    ∀ effect ∈ (abortOrKill c).2, onBehalfOf c.taskID config proxyTCP effect := by
  unfold abortOrKill
  split
  · exact exit_onBehalfOf owned _
  · exact List.forall_mem_singleton.mpr rfl

theorem onBehalfOf_of_isReply {effect : Effect} (reply : effect.isReply) :
    onBehalfOf taskID config proxyTCP effect := by
  cases effect <;> first | rfl | simp [Effect.isReply] at reply

theorem respondWith_onBehalfOf (rendered : Except String Response) (wrap : Response → Response) :
    ∀ effect ∈ respondWith rendered wrap, onBehalfOf taskID config proxyTCP effect :=
  fun effect member => onBehalfOf_of_isReply (respondWith_isReply rendered wrap effect member)

end Handlers

theorem receiveSchedulerMsg_onBehalfOf {c : Command} (owned : TaskOwned c)
    (grant : ResourcesAllocated) (session : Except String String) :
    ∀ effect ∈ (receiveSchedulerMsg c grant session).2,
      onBehalfOf c.taskID c.config c.proxyTCP effect := by
  unfold receiveSchedulerMsg
  rcases recorded : c.task with _ | task
  · simp
  · simp only
    split
    · rename_i own
      split
      · split
        · exact List.forall_mem_singleton.mpr rfl
        · simp only [List.forall_mem_cons, List.not_mem_nil, false_implies, implies_true, and_true]
          exact ⟨beq_iff_eq.mpr (owned task recorded), beq_self_eq_true _,
            beq_iff_eq.mpr (own.trans (owned task recorded))⟩
      · exact List.forall_mem_singleton.mpr rfl
    · simp

theorem taskContainerStateChanged_onBehalfOf {c : Command} (owned : Owned c)
    (report : TaskContainerStateChanged) :
    ∀ effect ∈ (taskContainerStateChanged c report).2,
      onBehalfOf c.taskID c.config c.proxyTCP effect := by
  unfold taskContainerStateChanged
  split
  · split
    · exact List.forall_mem_singleton.mpr rfl
    · simp only [List.mem_append, List.mem_map, List.mem_singleton]
      rintro _ (⟨_, -, rfl⟩ | rfl)
      · exact Bool.and_eq_true_iff.mpr ⟨beq_self_eq_true _, beq_self_eq_true _⟩
      · rfl
  · have unregistered : ∀ effect ∈ c.proxyNames.map .proxyUnregister,
        onBehalfOf c.taskID c.config c.proxyTCP effect := by
      simp only [List.mem_map]
      rintro _ ⟨name, member, rfl⟩
      exact beq_iff_eq.mpr (owned.proxyNames name member)
    split
    · simp only [List.mem_append, List.mem_singleton]
      rintro effect (now | rfl)
      · exact unregistered effect now
      · rfl
    · simp only [List.mem_append]
      rintro effect (now | later)
      · exact unregistered effect now
      · exact exit_onBehalfOf
          (c := { c with container := some report.container, proxyNames := [] })
          owned.task _ effect later
  · simp

theorem receive_onBehalfOf (env : Env) {c : Command} (msg : Msg) (owned : Owned c) :
    ∀ effect ∈ (receive env c msg).2, onBehalfOf c.taskID c.config c.proxyTCP effect := by
  have killing (render : Command → Except String Response) (message : Msg)
      (terminates : message.terminates env c) : ∀ effect ∈ (killRequest render c message).2,
        onBehalfOf c.taskID c.config c.proxyTCP effect := by
    rw [killRequest_eq env c terminates]
    rintro effect member
    rcases List.mem_append.mp member with now | later
    · exact abortOrKill_onBehalfOf owned.task effect now
    · exact respondWith_onBehalfOf _ _ effect later
  cases msg
  case preStart allocateError =>
    cases allocateError <;>
      simp only [receive, preStart, List.mem_cons, List.mem_singleton, List.not_mem_nil, or_false]
    · rintro _ (rfl | rfl | rfl) <;> exact beq_self_eq_true _
    · rintro _ (rfl | rfl)
      · exact beq_self_eq_true _
      · rfl
  case postStop =>
    rw [receive, terminate_eq env c .postStop rfl]
    exact abortOrKill_onBehalfOf owned.task
  case resourcesAllocated grant session =>
    exact receiveSchedulerMsg_onBehalfOf owned.task grant session
  case taskContainerStateChanged report => exact taskContainerStateChanged_onBehalfOf owned report
  case containerLog log =>
    simp only [receive, containerLog]
    split
    · exact List.forall_mem_singleton.mpr rfl
    · split <;> simp only [List.mem_cons, List.mem_singleton, List.not_mem_nil, or_false] <;>
        rintro _ (rfl | rfl) <;> rfl
  case killNotebookRequest =>
    simp only [receive]
    split
    · rename_i rendered
      simp only [terminate_eq env c .killNotebookRequest
        (by simp [Msg.terminates, rendered, Except.isOk, Except.toBool]), List.mem_append,
        List.mem_singleton]
      rintro effect (now | rfl)
      · exact abortOrKill_onBehalfOf owned.task effect now
      · rfl
    · simp
  case killCommandRequest => exact killing _ _ rfl
  case killShellRequest => exact killing _ _ rfl
  case killTensorboardRequest => exact killing _ _ rfl
  case terminateForGC | releaseResources =>
    exact List.forall_mem_singleton.mpr rfl
  all_goals exact fun effect member =>
    onBehalfOf_of_isReply ((receive_query env c (by rfl)).2 effect member)

theorem run_onBehalfOf (env : Env) (c : Command) (msgs : List Msg) (owned : Owned c) :
    ∀ effect ∈ (run env c msgs).2, onBehalfOf c.taskID c.config c.proxyTCP effect := by
  induction msgs generalizing c with
  | nil => simp
  | cons msg rest ih =>
      have later := ih _ (receive_owned env msg owned)
      rw [receive_taskID, (receive_creation env c msg).1, (receive_creation env c msg).2] at later
      simp only [run_cons, List.mem_append]
      rintro effect (now | after)
      · exact receive_onBehalfOf env msg owned effect now
      · exact later effect after

/-- Whatever it receives, the actor requests resources only with the request its configuration
makes, opens and deletes sessions, registers and unregisters routes and publishes its
scheduling only under its own task ID, starts only commands of its own configuration, and never
a checkpoint GC. -/
theorem acts_only_for_own_task (env : Env) (c : Command) (msgs : List Msg) :
    ∀ effect ∈ (run env c.fresh msgs).2, onBehalfOf c.taskID c.config c.proxyTCP effect :=
  run_onBehalfOf env c.fresh msgs
    ⟨(fun _ recorded => nomatch recorded), (fun _ member => nomatch member)⟩

theorem acts_only_for_own_task_granted_run :
    let start := Effect.startAllocation ⟨"a"⟩ (.startCommand "token" sample.config [] [])
    start ∈ (run plainEnv sample.fresh
        [.preStart none, .resourcesAllocated ⟨"t1", [⟨"a"⟩]⟩ (.ok "token")]).2 ∧
      onBehalfOf sample.taskID sample.config sample.proxyTCP start :=
  ⟨by decide, acts_only_for_own_task plainEnv sample
    [.preStart none, .resourcesAllocated ⟨"t1", [⟨"a"⟩]⟩ (.ok "token")] _ (by decide)⟩

end DeterminedTasks.CommandActor
