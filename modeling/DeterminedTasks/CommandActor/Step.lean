import DeterminedTasks.CommandActor.Model

/-! What one message can do to the command actor, said once: it starts, grants, reports,
terminates, or leaves the lifecycle fields and the collaborators alone. -/

namespace DeterminedTasks.CommandActor

structure SameLifecycle (c c' : Command) : Prop where
  taskID : c'.taskID = c.taskID
  task : c'.task = c.task
  allocation : c'.allocation = c.allocation
  container : c'.container = c.container
  exitStatus : c'.exitStatus = c.exitStatus
  proxyNames : c'.proxyNames = c.proxyNames

theorem SameLifecycle.refl (c : Command) : SameLifecycle c c := ⟨rfl, rfl, rfl, rfl, rfl, rfl⟩

def Msg.terminates (env : Env) (c : Command) : Msg → Bool
  | .postStop | .killCommandRequest | .killShellRequest | .killTensorboardRequest => true
  | .killNotebookRequest => (c.toNotebook env).isOk
  | _ => false

theorem Msg.not_report_of_terminates {env : Env} {c : Command} {msg : Msg}
    (terminates : msg.terminates env c = true) :
    ∀ report, msg ≠ .taskContainerStateChanged report := by
  rintro report rfl
  simp [Msg.terminates] at terminates

def abortOrKill (c : Command) : Command × List Effect :=
  match c.allocation with
  | none => exit c "task is aborted without being scheduled"
  | some allocation => (c, [.killAllocation allocation])

theorem abortOrKill_of_none {c : Command} (unallocated : c.allocation = none) :
    abortOrKill c = exit c "task is aborted without being scheduled" := by
  simp [abortOrKill, unallocated]

theorem abortOrKill_of_some {c : Command} {allocation : Allocation}
    (allocated : c.allocation = some allocation) :
    abortOrKill c = (c, [.killAllocation allocation]) := by
  simp [abortOrKill, allocated]

@[simp] theorem exit_fst (c : Command) (exitStatus : String) :
    (exit c exitStatus).1 = { c with exitStatus := some exitStatus } := rfl

theorem exit_snd (c : Command) (exitStatus : String) :
    (exit c exitStatus).2 =
      [.publish (.exited exitStatus), .resourcesReleased, .notifyAfter terminatedDuration] ++
        c.task.toList.map fun task => .deleteTaskSession task.id := by
  unfold exit
  cases c.task <;> rfl

theorem terminate_eq (env : Env) (c : Command) (msg : Msg)
    (notRelease : msg.terminates env c = true) :
    terminate c msg = abortOrKill c := by
  cases msg <;> simp only [Msg.terminates] at notRelease <;> try contradiction
  all_goals unfold terminate abortOrKill; cases c.allocation <;> rfl

theorem respondWith_quiet (rendered : Except String Response) (wrap : Response → Response) :
    ∀ effect ∈ respondWith rendered wrap, effect.quiet := by
  cases rendered <;> simp [respondWith, Effect.quiet]

theorem receiveSchedulerMsg_cases (c : Command) (grant : ResourcesAllocated)
    (session : Except String String) :
    ((receiveSchedulerMsg c grant session).1 = c ∧
      ∀ effect ∈ (receiveSchedulerMsg c grant session).2, effect.quiet) ∨
    ∃ task allocation token, c.task = some task ∧ grant.id = task.id ∧
      grant.allocations = [allocation] ∧ session = .ok token ∧
      receiveSchedulerMsg c grant session =
        ({ c with allocation := some allocation, userFiles := [], additionalFiles := [] },
          [.startTaskSession task.id,
           .startAllocation allocation (.startCommand token c.config c.userFiles c.additionalFiles),
           .publish (.assigned grant)]) := by
  unfold receiveSchedulerMsg
  rcases owned : c.task with _ | task
  · simp
  · by_cases own : grant.id = task.id
    · rcases single : grant.allocations with _ | ⟨allocation, _ | ⟨other, rest⟩⟩
      · simp [own, single, Effect.quiet]
      · rcases session with err | token
        · simp [own, single, Effect.quiet]
        · exact .inr ⟨task, allocation, token, rfl, own, rfl, rfl, by simp [own, single]⟩
      · simp [own, single, Effect.quiet]
    · simp [own]

theorem taskContainerStateChanged_cases (c : Command) (report : TaskContainerStateChanged) :
    (∃ started, report.container.state = .running ∧ report.containerStarted = some started ∧
      taskContainerStateChanged c report =
        ({ c with container := some report.container, addresses := started.addresses,
                  proxyNames := started.addresses.map fun _ => c.taskID },
          started.addresses.map
              (fun address => .proxyRegister c.taskID (proxyURL address) c.proxyTCP) ++
            [.publish (.containerStarted started)])) ∨
    (∃ stopped, report.container.state = .terminated ∧
      report.containerStopped = some stopped ∧
      taskContainerStateChanged c report =
        ((exit { c with container := some report.container, proxyNames := [] }
            (stopped.failure.getD "command exited successfully")).1,
          c.proxyNames.map .proxyUnregister ++
            (exit { c with container := some report.container, proxyNames := [] }
              (stopped.failure.getD "command exited successfully")).2)) ∨
    (report.container.state = .terminated ∧ report.containerStopped = none ∧
      taskContainerStateChanged c report =
        ({ c with container := some report.container, proxyNames := [] },
          c.proxyNames.map .proxyUnregister ++ [.failed nilDereference])) ∨
    (report.container.state ≠ .terminated ∧
      (taskContainerStateChanged c report).1 = { c with container := some report.container } ∧
      ∀ effect ∈ (taskContainerStateChanged c report).2, effect.quiet) := by
  unfold taskContainerStateChanged
  rcases state : report.container.state
  case running =>
    rcases report.containerStarted with _ | started
    · simp [Effect.quiet]
    · exact .inl ⟨started, rfl, rfl, rfl⟩
  case terminated =>
    rcases report.containerStopped with _ | stopped
    · exact .inr (.inr (.inl ⟨rfl, rfl, rfl⟩))
    · exact .inr (.inl ⟨stopped, rfl, rfl, rfl⟩)
  all_goals simp

theorem containerLog_sameLifecycle (env : Env) (c : Command) (log : ContainerLog) :
    SameLifecycle c (containerLog env c log).1 := by
  simp only [containerLog]
  split
  · exact SameLifecycle.refl c
  · split <;> exact ⟨rfl, rfl, rfl, rfl, rfl, rfl⟩

theorem containerLog_effects (env : Env) (c : Command) (log : ContainerLog) :
    ∀ effect ∈ (containerLog env c log).2,
      effect.quiet ∨ effect = .publish (.serviceReady log) := by
  simp only [containerLog]
  split
  · simp [Effect.quiet]
  · split <;> simp [Effect.quiet]

theorem killRequest_eq (env : Env) (c : Command) {message : Msg}
    (terminates : message.terminates env c) (render : Command → Except String Response) :
    killRequest render c message =
      ((abortOrKill c).1,
        (abortOrKill c).2 ++ respondWith (render (abortOrKill c).1) .killResponse) := by
  simp [killRequest, terminate_eq env c message terminates]

/-- Every message falls in one of six shapes; invariants split on these, not on `Msg`. -/
theorem receive_cases (env : Env) (c : Command) (msg : Msg) :
    (∃ allocateError, msg = .preStart allocateError) ∨
    (∃ grant session, msg = .resourcesAllocated grant session) ∨
    (∃ report, msg = .taskContainerStateChanged report) ∨
    (∃ log, msg = .containerLog log) ∨
    (msg.terminates env c = true ∧ ∃ tail, (∀ effect ∈ tail, effect.quiet) ∧
      receive env c msg = ((abortOrKill c).1, (abortOrKill c).2 ++ tail)) ∨
    ((∀ report, msg ≠ .taskContainerStateChanged report) ∧ msg.terminates env c = false ∧
      (receive env c msg).1 = c ∧ ∀ effect ∈ (receive env c msg).2, effect.quiet) := by
  cases msg with
  | preStart allocateError => exact .inl ⟨_, rfl⟩
  | resourcesAllocated grant session => exact .inr (.inl ⟨_, _, rfl⟩)
  | taskContainerStateChanged report => exact .inr (.inr (.inl ⟨_, rfl⟩))
  | containerLog log => exact .inr (.inr (.inr (.inl ⟨_, rfl⟩)))
  | postStop => exact .inr (.inr (.inr (.inr (.inl ⟨rfl, [], by simp, by
      simp [receive, terminate_eq env c .postStop rfl]⟩))))
  | killCommandRequest => exact .inr (.inr (.inr (.inr (.inl ⟨rfl, _, respondWith_quiet _ _,
      @killRequest_eq env c .killCommandRequest rfl fun c => .ok (c.toCommand env)⟩))))
  | killShellRequest => exact .inr (.inr (.inr (.inr (.inl ⟨rfl, _, respondWith_quiet _ _,
      @killRequest_eq env c .killShellRequest rfl _⟩))))
  | killTensorboardRequest => exact .inr (.inr (.inr (.inr (.inl ⟨rfl, _, respondWith_quiet _ _,
      @killRequest_eq env c .killTensorboardRequest rfl _⟩))))
  | killNotebookRequest =>
      cases rendered : c.toNotebook env with
      | error err =>
          exact .inr (.inr (.inr (.inr (.inr ⟨by simp,
            by simp [Msg.terminates, rendered, Except.isOk, Except.toBool],
            by simp [receive, rendered], by simp [receive, rendered]⟩))))
      | ok notebook =>
          have terminates : Msg.killNotebookRequest.terminates env c = true := by
            simp [Msg.terminates, rendered, Except.isOk, Except.toBool]
          exact .inr (.inr (.inr (.inr (.inl ⟨terminates, [.respond (.killResponse notebook)],
            by simp [Effect.quiet],
            by simp [receive, rendered, terminate_eq env c _ terminates]⟩))))
  | _ =>
      refine .inr (.inr (.inr (.inr (.inr ⟨by simp, rfl, rfl, ?_⟩))))
      simp only [receive]
      first
        | exact respondWith_quiet _ _
        | split <;> simp [Effect.quiet]
        | simp [Effect.quiet]

theorem receive_preStart_quiet (env : Env) (c : Command) (allocateError : Option String) :
    ∀ effect ∈ (receive env c (.preStart allocateError)).2, effect.quiet := by
  cases allocateError <;> simp [receive, preStart, Effect.quiet]

def Msg.isQuery : Msg → Bool
  | .getSummary _ | .notebook | .getNotebookRequest | .command | .getCommandRequest | .shell
  | .getShellRequest | .tensorboard | .getTensorboardRequest => true
  | _ => false

theorem respondWith_isReply (rendered : Except String Response) (wrap : Response → Response) :
    ∀ effect ∈ respondWith rendered wrap, effect.isReply := by
  cases rendered <;> simp [respondWith, Effect.isReply]

theorem receive_query (env : Env) (c : Command) {msg : Msg} (query : msg.isQuery) :
    (receive env c msg).1 = c ∧ ∀ effect ∈ (receive env c msg).2, effect.isReply := by
  cases msg with
  | getSummary | notebook | getNotebookRequest =>
      exact ⟨rfl, by simp only [receive]; split <;> simp [Effect.isReply]⟩
  | command | getCommandRequest => exact ⟨rfl, List.forall_mem_singleton.mpr rfl⟩
  | shell | getShellRequest | tensorboard | getTensorboardRequest =>
      exact ⟨rfl, respondWith_isReply _ _⟩
  | _ => cases query

/-- KillNotebookRequest renders the notebook before `terminate` runs, the other kill requests
after it: its answer shows the notebook as the kill found it. -/
theorem killNotebookRequest_renders_before_terminate (env : Env) (c : Command)
    {notebook : Response} (rendered : c.toNotebook env = .ok notebook) :
    receive env c .killNotebookRequest =
        ((abortOrKill c).1, (abortOrKill c).2 ++ [.respond (.killResponse notebook)]) ∧
      receive env c .killCommandRequest = ((abortOrKill c).1,
        (abortOrKill c).2 ++ [.respond (.killResponse ((abortOrKill c).1.toCommand env))]) := by
  have terminates : Msg.killNotebookRequest.terminates env c := by
    simp [Msg.terminates, rendered, Except.isOk, Except.toBool]
  refine ⟨by simp [receive, rendered, terminate_eq env c _ terminates], ?_⟩
  simp [receive, killRequest, terminate_eq env c .killCommandRequest rfl, respondWith]

example :
    (receive plainEnv sample .killNotebookRequest).2.getLast? =
        some (.respond (.killResponse (.notebook (sample.view plainEnv) "/proxy/t1/"))) ∧
      (sample.view plainEnv).state = .pending ∧
      (receive plainEnv sample .killNotebookRequest).1.state = .terminated := by
  decide

/-- No handler publishes a TerminateRequestEvent, and only terminateForGC stops the actor. -/
theorem receive_no_release_request_stop_on_gc (env : Env) (c : Command) (msg : Msg) :
    ∀ effect ∈ (receive env c msg).2,
      effect ≠ .publish .terminateRequest ∧ (effect = .stopSelf → msg = .terminateForGC) := by
  have killed (tail : List Effect) (replies : ∀ effect ∈ tail, effect.isReply) :
      ∀ effect ∈ (abortOrKill c).2 ++ tail,
        effect ≠ .publish .terminateRequest ∧ (effect = .stopSelf → msg = .terminateForGC) := by
    intro effect member
    rcases List.mem_append.mp member with aborting | answering
    · unfold abortOrKill at aborting
      split at aborting <;> simp only [exit_snd, List.mem_cons, List.mem_append, List.mem_map,
        Option.mem_toList, List.not_mem_nil, or_false] at aborting <;>
        rcases aborting with (rfl | rfl | rfl) | ⟨_, -, rfl⟩ <;> simp
    · have reply := replies effect answering
      constructor <;> rintro rfl <;> simp [Effect.isReply] at reply
  cases msg with
  | preStart allocateError => cases allocateError <;> simp [receive, preStart]
  | postStop =>
      rw [receive, terminate_eq env c .postStop rfl, ← List.append_nil (abortOrKill c).2]
      exact killed [] (by simp)
  | resourcesAllocated grant session =>
      simp only [receive, receiveSchedulerMsg]
      split
      · simp
      · split
        · split
          · split <;> simp
          · simp
        · simp
  | taskContainerStateChanged report =>
      obtain ⟨⟨state⟩, started, stopped⟩ := report
      cases state with
      | running =>
          cases started with
          | none => simp [receive, taskContainerStateChanged]
          | some started =>
              simp only [receive, taskContainerStateChanged, List.mem_append, List.mem_map,
                List.mem_singleton]
              rintro _ (⟨_, -, rfl⟩ | rfl) <;> simp
      | terminated =>
          cases stopped with
          | none =>
              simp only [receive, taskContainerStateChanged, List.mem_append, List.mem_map,
                List.mem_singleton]
              rintro _ (⟨_, -, rfl⟩ | rfl) <;> simp
          | some stopped =>
              simp only [receive, taskContainerStateChanged, exit_snd, List.mem_append,
                List.mem_map, List.mem_cons, Option.mem_toList, List.not_mem_nil, or_false]
              rintro _ (⟨_, -, rfl⟩ | (rfl | rfl | rfl) | ⟨_, -, rfl⟩) <;> simp
      | _ => simp [receive, taskContainerStateChanged]
  | containerLog log =>
      simp only [receive, containerLog]
      split
      · simp
      · split <;> simp
  | killNotebookRequest =>
      cases rendered : c.toNotebook env with
      | error => simp [receive, rendered]
      | ok notebook =>
          rw [(killNotebookRequest_renders_before_terminate env c rendered).1]
          exact killed _ (by simp [Effect.isReply])
  | killCommandRequest =>
      rw [receive, @killRequest_eq env c .killCommandRequest rfl]
      exact killed _ (respondWith_isReply _ _)
  | killShellRequest =>
      rw [receive, @killRequest_eq env c .killShellRequest rfl]
      exact killed _ (respondWith_isReply _ _)
  | killTensorboardRequest =>
      rw [receive, @killRequest_eq env c .killTensorboardRequest rfl]
      exact killed _ (respondWith_isReply _ _)
  | terminateForGC => simp [receive]
  | releaseResources => simp [receive]
  | _ =>
      intro effect member
      have reply := (receive_query env c (by rfl)).2 effect member
      constructor <;> rintro rfl <;> simp [Effect.isReply] at reply

theorem receive_taskID (env : Env) (c : Command) (msg : Msg) :
    (receive env c msg).1.taskID = c.taskID := by
  rcases receive_cases env c msg with ⟨_, rfl⟩ | ⟨grant, session, rfl⟩ | ⟨report, rfl⟩ |
    ⟨log, rfl⟩ | ⟨-, _, -, shape⟩ | ⟨-, -, same, -⟩
  · rfl
  · rcases receiveSchedulerMsg_cases c grant session with
      ⟨unchanged, -⟩ | ⟨_, _, _, -, -, -, -, shape⟩
    · exact congrArg Command.taskID unchanged
    · simp [receive, shape]
  · rcases taskContainerStateChanged_cases c report with
      ⟨_, -, -, shape⟩ | ⟨_, -, -, shape⟩ | ⟨-, -, shape⟩ | ⟨-, shape, -⟩ <;>
      simp [receive, shape]
  · exact (containerLog_sameLifecycle env c log).taskID
  · rw [shape]
    unfold abortOrKill
    split <;> rfl
  · rw [same]

theorem receive_task (env : Env) (c : Command) (msg : Msg) :
    (receive env c msg).1.task = c.task ∨
      ∃ task, (receive env c msg).1.task = some task ∧ task.id = c.taskID := by
  rcases receive_cases env c msg with ⟨allocateError, rfl⟩ | ⟨grant, session, rfl⟩ |
    ⟨report, rfl⟩ | ⟨log, rfl⟩ | ⟨-, _, -, shape⟩ | ⟨-, -, same, -⟩
  · exact .inr ⟨_, rfl, rfl⟩
  · rcases receiveSchedulerMsg_cases c grant session with
      ⟨unchanged, -⟩ | ⟨_, _, _, -, -, -, -, shape⟩
    · exact .inl (congrArg Command.task unchanged)
    · simp [receive, shape]
  · left
    rcases taskContainerStateChanged_cases c report with
      ⟨_, -, -, shape⟩ | ⟨_, -, -, shape⟩ | ⟨-, -, shape⟩ | ⟨-, shape, -⟩ <;>
      simp [receive, shape]
  · exact .inl (containerLog_sameLifecycle env c log).task
  · left
    rw [shape]
    unfold abortOrKill
    split <;> rfl
  · exact .inl (by rw [same])

end DeterminedTasks.CommandActor
