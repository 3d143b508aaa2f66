import DeterminedTasks.CommandActor.Lifecycle
import DeterminedTasks.CommandActor.ReadinessRun

/-! The actor's fields as functions of its history: `exitStatus` and `allocation` hold the last
ExitedEvent and the last started allocation of the trace, `container` the last report, the route
names the last Running report's addresses, the user files go with the first start only, every
kill names the allocation started last, and no run acts on a release request. -/

namespace DeterminedTasks.CommandActor

def Msg.reportedContainer? : Msg → Option Container
  | .taskContainerStateChanged report => some report.container
  | _ => none

def SetsLast {α : Type} (extract : Effect → Option α) (before after : Option α)
    (effects : List Effect) : Prop :=
  (effects.filterMap extract = [] ∧ after = before) ∨
    ∃ value, effects.filterMap extract = [value] ∧ after = some value

theorem SetsLast.eq_or {α : Type} {extract : Effect → Option α} {before after : Option α}
    {effects : List Effect} (sets : SetsLast extract before after effects) :
    after = ((effects.filterMap extract).getLast?).or before := by
  rcases sets with ⟨none, same⟩ | ⟨value, one, set⟩ <;> simp [*]

theorem run_mirrors {α : Type} (env : Env) (field : Command → Option α)
    (extract : Effect → Option α)
    (step : ∀ c msg,
      SetsLast extract (field c) (field (receive env c msg).1) (receive env c msg).2)
    (c : Command) (msgs : List Msg) :
    field (run env c msgs).1 = (((run env c msgs).2.filterMap extract).getLast?).or (field c) := by
  induction msgs generalizing c with
  | nil => simp
  | cons msg rest ih =>
      rw [run_cons, ih, List.filterMap_append, List.getLast?_append, Option.or_assoc,
        ← (step c msg).eq_or]

theorem containerLog_filterMap {α : Type} {extract : Effect → Option α}
    (loud : ∀ effect, effect.quiet → extract effect = none)
    (ready : ∀ log, extract (.publish (.serviceReady log)) = none)
    (env : Env) (c : Command) (log : ContainerLog) :
    (containerLog env c log).2.filterMap extract = [] :=
  List.filterMap_eq_nil_iff.mpr fun effect member => by
    rcases containerLog_effects env c log effect member with quiet | rfl
    · exact loud effect quiet
    · exact ready log

theorem receive_exitStatus (env : Env) (c : Command) (msg : Msg) :
    SetsLast Effect.exited? c.exitStatus (receive env c msg).1.exitStatus
      (receive env c msg).2 := by
  have none {effects : List Effect} (quiet : ∀ effect ∈ effects, effect.quiet) :=
    filterMap_quiet Effect.exited?_of_quiet quiet
  rcases receive_cases env c msg with ⟨allocateError, rfl⟩ | ⟨grant, session, rfl⟩ |
    ⟨report, rfl⟩ | ⟨log, rfl⟩ | ⟨-, tail, quiet, shape⟩ | ⟨-, -, same, quiet⟩
  · exact .inl ⟨none (receive_preStart_quiet env c allocateError), rfl⟩
  · rcases receiveSchedulerMsg_cases c grant session with
      ⟨same, quiet⟩ | ⟨_, _, _, -, -, -, -, shape⟩
    · exact .inl ⟨none quiet, by simp [receive, same]⟩
    · exact .inl ⟨by simp [receive, shape, Effect.exited?], by simp [receive, shape]⟩
  · rcases taskContainerStateChanged_cases c report with
      ⟨_, -, -, shape⟩ | ⟨stopped, -, -, shape⟩ | ⟨-, -, shape⟩ | ⟨-, same, quiet⟩
    · exact .inl ⟨by simp [receive, shape, List.filterMap_map, Function.comp_def,
        Effect.exited?], by simp [receive, shape]⟩
    · exact .inr ⟨stopped.failure.getD "command exited successfully",
        by simp [receive, shape, exit_snd, List.filterMap_map, Function.comp_def,
          Effect.exited?, filterMap_const_none], by simp [receive, shape]⟩
    · exact .inl ⟨by simp [receive, shape, List.filterMap_map, Function.comp_def,
        Effect.exited?], by simp [receive, shape]⟩
    · exact .inl ⟨none quiet, by simp [receive, same]⟩
  · exact .inl ⟨containerLog_filterMap Effect.exited?_of_quiet (fun _ => rfl) env c log,
      (containerLog_sameLifecycle env c log).exitStatus⟩
  · rw [shape]
    rcases allocated : c.allocation with _ | allocation
    · exact .inr ⟨"task is aborted without being scheduled",
        by simp [abortOrKill_of_none allocated, exit_snd, List.filterMap_map, Function.comp_def,
          Effect.exited?, filterMap_const_none, none quiet],
        by simp [abortOrKill_of_none allocated]⟩
    · exact .inl ⟨by simp [abortOrKill_of_some allocated, Effect.exited?, none quiet],
        by simp [abortOrKill_of_some allocated]⟩
  · exact .inl ⟨none quiet, by rw [same]⟩

theorem receive_container (env : Env) (c : Command) (msg : Msg) :
    (receive env c msg).1.container = msg.reportedContainer?.or c.container := by
  cases msg with
  | taskContainerStateChanged report => exact receive_container_of_report env c report
  | _ => exact receive_container_of_not_report env c rfl

theorem run_container (env : Env) (c : Command) (msgs : List Msg) :
    (run env c msgs).1.container =
      ((msgs.filterMap Msg.reportedContainer?).getLast?).or c.container := by
  induction msgs generalizing c with
  | nil => simp
  | cons msg rest ih =>
      rw [run_cons, ih, receive_container, ← List.singleton_append, List.filterMap_append,
        List.getLast?_append, Option.or_assoc]
      rcases reported : msg.reportedContainer? with _ | container <;> simp [reported]

/-- `State()` is a function of the history: `exitStatus` is the status of the last ExitedEvent
the actor published, and `container` the container of the last report it received. -/
theorem exitStatus_and_container_follow_history (env : Env) (c : Command) (msgs : List Msg) :
    (run env c.fresh msgs).1.exitStatus =
        ((run env c.fresh msgs).2.filterMap Effect.exited?).getLast? ∧
      (run env c.fresh msgs).1.container = (msgs.filterMap Msg.reportedContainer?).getLast? := by
  rw [run_mirrors env Command.exitStatus Effect.exited? (receive_exitStatus env) c.fresh msgs,
    run_container]
  exact ⟨Option.or_none, Option.or_none⟩

theorem receive_allocation (env : Env) (c : Command) (msg : Msg) :
    SetsLast Effect.started? c.allocation (receive env c msg).1.allocation
      (receive env c msg).2 := by
  have none {effects : List Effect} (quiet : ∀ effect ∈ effects, effect.quiet) :=
    filterMap_quiet Effect.started?_of_quiet quiet
  rcases receive_cases env c msg with ⟨allocateError, rfl⟩ | ⟨grant, session, rfl⟩ |
    ⟨report, rfl⟩ | ⟨log, rfl⟩ | ⟨-, tail, quiet, shape⟩ | ⟨-, -, same, quiet⟩
  · exact .inl ⟨none (receive_preStart_quiet env c allocateError), rfl⟩
  · rcases receiveSchedulerMsg_cases c grant session with ⟨same, quiet⟩ |
      ⟨_, allocation, _, -, -, -, -, shape⟩
    · exact .inl ⟨none quiet, by simp [receive, same]⟩
    · exact .inr ⟨allocation, by simp [receive, shape, Effect.started?],
        by simp [receive, shape]⟩
  · rcases taskContainerStateChanged_cases c report with
      ⟨_, -, -, shape⟩ | ⟨_, -, -, shape⟩ | ⟨-, -, shape⟩ | ⟨-, same, quiet⟩
    · exact .inl ⟨by simp [receive, shape, List.filterMap_map, Function.comp_def,
        Effect.started?], by simp [receive, shape]⟩
    · exact .inl ⟨by simp [receive, shape, exit_snd, List.filterMap_map, Function.comp_def,
        Effect.started?, filterMap_const_none], by simp [receive, shape]⟩
    · exact .inl ⟨by simp [receive, shape, List.filterMap_map, Function.comp_def,
        Effect.started?], by simp [receive, shape]⟩
    · exact .inl ⟨none quiet, by simp [receive, same]⟩
  · exact .inl ⟨containerLog_filterMap Effect.started?_of_quiet (fun _ => rfl) env c log,
      (containerLog_sameLifecycle env c log).allocation⟩
  · rw [shape]
    rcases allocated : c.allocation with _ | allocation
    · exact .inl ⟨by simp [abortOrKill_of_none allocated, exit_snd, List.filterMap_map,
        Function.comp_def, Effect.started?, filterMap_const_none, none quiet],
        by simp [abortOrKill_of_none allocated, allocated]⟩
    · exact .inl ⟨by simp [abortOrKill_of_some allocated, Effect.started?, none quiet],
        by simp [abortOrKill_of_some allocated, allocated]⟩
  · exact .inl ⟨none quiet, by rw [same]⟩

theorem receive_killed (env : Env) (c : Command) (msg : Msg) :
    (receive env c msg).2.filterMap Effect.killed? = [] ∨
      ∃ allocation tail, c.allocation = some allocation ∧
        (receive env c msg).2 = .killAllocation allocation :: tail ∧
        tail.filterMap Effect.killed? = [] := by
  have none {effects : List Effect} (quiet : ∀ effect ∈ effects, effect.quiet) :=
    filterMap_quiet Effect.killed?_of_quiet quiet
  rcases receive_cases env c msg with ⟨allocateError, rfl⟩ | ⟨grant, session, rfl⟩ |
    ⟨report, rfl⟩ | ⟨log, rfl⟩ | ⟨-, tail, quiet, shape⟩ | ⟨-, -, -, quiet⟩
  · exact .inl (none (receive_preStart_quiet env c allocateError))
  · left
    rcases receiveSchedulerMsg_cases c grant session with
      ⟨-, quiet⟩ | ⟨_, _, _, -, -, -, -, shape⟩
    · exact none quiet
    · simp [receive, shape, Effect.killed?]
  · left
    rcases taskContainerStateChanged_cases c report with
      ⟨_, -, -, shape⟩ | ⟨_, -, -, shape⟩ | ⟨-, -, shape⟩ | ⟨-, -, quiet⟩
    · simp [receive, shape, List.filterMap_map, Function.comp_def, Effect.killed?]
    · simp [receive, shape, exit_snd, List.filterMap_map, Function.comp_def, Effect.killed?,
        filterMap_const_none]
    · simp [receive, shape, List.filterMap_map, Function.comp_def, Effect.killed?]
    · exact none quiet
  · exact .inl (containerLog_filterMap Effect.killed?_of_quiet (fun _ => rfl) env c log)
  · rw [shape]
    rcases allocated : c.allocation with _ | allocation
    · left
      simp [abortOrKill_of_none allocated, exit_snd, List.filterMap_map, Function.comp_def,
        Effect.killed?, filterMap_const_none, none quiet]
    · exact .inr ⟨allocation, tail, rfl, by simp [abortOrKill_of_some allocated], none quiet⟩
  · exact .inl (none quiet)

theorem run_kills (env : Env) (c : Command) (msgs : List Msg) :
    ∀ pre allocation post, (run env c msgs).2 = pre ++ .killAllocation allocation :: post →
      ((pre.filterMap Effect.started?).getLast?).or c.allocation = some allocation := by
  induction msgs generalizing c with
  | nil => simp
  | cons msg rest ih =>
      intro pre allocation post split
      rw [run_cons] at split
      have later (between : List Effect) (rest_eq : (run env (receive env c msg).1 rest).2 =
          between ++ .killAllocation allocation :: post) :
          ((((receive env c msg).2 ++ between).filterMap Effect.started?).getLast?).or
            c.allocation = some allocation := by
        rw [List.filterMap_append, List.getLast?_append, Option.or_assoc]
        rw [← ih _ between allocation post rest_eq]
        exact congrArg _ (receive_allocation env c msg).eq_or.symm
      rcases List.append_eq_append_iff.mp split with
        ⟨between, rfl, rest_eq⟩ | ⟨inside, step, head⟩
      · exact later between rest_eq
      · cases inside with
        | nil =>
            rw [List.append_nil] at step
            simpa [← step] using later [] (by simpa using head.symm)
        | cons effect inside =>
            obtain ⟨rfl, -⟩ := List.cons.inj head
            rcases receive_killed env c msg with none | ⟨started, tail, allocated, shape, calm⟩
            · rw [step] at none
              simp [Effect.killed?] at none
            · rw [step] at shape
              cases pre with
              | nil =>
                  obtain ⟨same, -⟩ := List.cons.inj shape
                  simpa [Effect.killed?] using
                    allocated.trans (congrArg some (Effect.killAllocation.inj same).symm)
              | cons first pre =>
                  obtain ⟨-, rfl⟩ := List.cons.inj shape
                  simp [Effect.killed?] at calm

/-- `allocation` always holds the allocation the actor started last, and every KillAllocation it
sends names the allocation started last before the kill: it never kills an allocation it did
not start, nor an earlier one that a later grant replaced. -/
theorem kills_name_last_started_allocation (env : Env) (c : Command) (msgs : List Msg) :
    (run env c.fresh msgs).1.allocation =
        ((run env c.fresh msgs).2.filterMap Effect.started?).getLast? ∧
      ∀ pre allocation post,
        (run env c.fresh msgs).2 = pre ++ .killAllocation allocation :: post →
        (pre.filterMap Effect.started?).getLast? = some allocation :=
  ⟨(run_mirrors env Command.allocation Effect.started? (receive_allocation env) c.fresh
      msgs).trans Option.or_none,
    fun pre allocation post split =>
      (Option.or_none).symm.trans (run_kills env c.fresh msgs pre allocation post split)⟩

def Msg.routedAddresses? : Msg → Option (List Address)
  | .taskContainerStateChanged ⟨⟨.running⟩, some started, _⟩ => some started.addresses
  | .taskContainerStateChanged ⟨⟨.terminated⟩, _, _⟩ => some []
  | _ => none

def Msg.startedAddresses? : Msg → Option (List Address)
  | .taskContainerStateChanged ⟨⟨.running⟩, some started, _⟩ => some started.addresses
  | _ => none

theorem Msg.routedAddresses?_of_not_report {msg : Msg}
    (notReport : ∀ report, msg ≠ .taskContainerStateChanged report) :
    msg.routedAddresses? = none ∧ msg.startedAddresses? = none := by
  cases msg <;> first | exact ⟨rfl, rfl⟩ | exact absurd rfl (notReport _)

theorem receive_routes (env : Env) (c : Command) (msg : Msg) :
    (receive env c msg).1.proxyNames =
        (msg.routedAddresses?.map fun addresses => addresses.map fun _ => c.taskID).getD
          c.proxyNames ∧
      (receive env c msg).1.addresses = msg.startedAddresses?.getD c.addresses := by
  by_cases report : ∃ report, msg = .taskContainerStateChanged report
  · obtain ⟨⟨⟨state⟩, started, stopped⟩, rfl⟩ := report
    cases state with
    | running => cases started <;>
        simp [receive, taskContainerStateChanged, Msg.routedAddresses?, Msg.startedAddresses?]
    | terminated => cases stopped <;>
        simp [receive, taskContainerStateChanged, Msg.routedAddresses?, Msg.startedAddresses?]
    | _ => exact ⟨rfl, rfl⟩
  · obtain ⟨routed, started⟩ := Msg.routedAddresses?_of_not_report (not_exists.mp report)
    rw [routed, started]
    rcases receive_cases env c msg with ⟨allocateError, rfl⟩ | ⟨grant, session, rfl⟩ |
      ⟨report', rfl⟩ | ⟨log, rfl⟩ | ⟨-, _, -, shape⟩ | ⟨-, -, same, -⟩
    · exact ⟨rfl, rfl⟩
    · rcases receiveSchedulerMsg_cases c grant session with
        ⟨same, -⟩ | ⟨_, _, _, -, -, -, -, shape⟩
      · simp [receive, same]
      · simp [receive, shape]
    · exact absurd ⟨report', rfl⟩ report
    · simp only [receive, containerLog]
      split
      · exact ⟨rfl, rfl⟩
      · split <;> exact ⟨rfl, rfl⟩
    · rw [shape]
      unfold abortOrKill
      split <;> exact ⟨rfl, rfl⟩
    · rw [same]
      exact ⟨rfl, rfl⟩

def Command.files (c : Command) : Archive × Archive := (c.userFiles, c.additionalFiles)

theorem containerLog_files (env : Env) (c : Command) (log : ContainerLog) :
    (containerLog env c log).1.files = c.files := by
  simp only [containerLog]
  split
  · rfl
  · split <;> rfl

theorem receive_files (env : Env) (c : Command) (msg : Msg) :
    ((receive env c msg).2.filterMap Effect.startedFiles? = [] ∧
        (receive env c msg).1.files = c.files) ∨
      ((receive env c msg).2.filterMap Effect.startedFiles? = [c.files] ∧
        (receive env c msg).1.files = ([], [])) := by
  have none {effects : List Effect} (quiet : ∀ effect ∈ effects, effect.quiet) :=
    filterMap_quiet Effect.startedFiles?_of_quiet quiet
  rcases receive_cases env c msg with ⟨allocateError, rfl⟩ | ⟨grant, session, rfl⟩ |
    ⟨report, rfl⟩ | ⟨log, rfl⟩ | ⟨-, tail, quiet, shape⟩ | ⟨-, -, same, quiet⟩
  · exact .inl ⟨none (receive_preStart_quiet env c allocateError), rfl⟩
  · rcases receiveSchedulerMsg_cases c grant session with
      ⟨same, quiet⟩ | ⟨_, _, _, -, -, -, -, shape⟩
    · exact .inl ⟨none quiet, by simp [receive, same]⟩
    · exact .inr ⟨by simp [receive, shape, Effect.startedFiles?, Command.files], by
        simp [receive, shape, Command.files]⟩
  · left
    rcases taskContainerStateChanged_cases c report with
      ⟨_, -, -, shape⟩ | ⟨_, -, -, shape⟩ | ⟨-, -, shape⟩ | ⟨-, same, quiet⟩
    · exact ⟨by simp [receive, shape, List.filterMap_map, Function.comp_def,
        Effect.startedFiles?], by simp [receive, shape, Command.files]⟩
    · exact ⟨by simp [receive, shape, exit_snd, List.filterMap_map, Function.comp_def,
        Effect.startedFiles?, filterMap_const_none], by simp [receive, shape, Command.files]⟩
    · exact ⟨by simp [receive, shape, List.filterMap_map, Function.comp_def,
        Effect.startedFiles?], by simp [receive, shape, Command.files]⟩
    · exact ⟨none quiet, by simp [receive, same, Command.files]⟩
  · exact .inl ⟨containerLog_filterMap Effect.startedFiles?_of_quiet (fun _ => rfl) env c log,
      containerLog_files env c log⟩
  · left
    rw [shape]
    rcases allocated : c.allocation with _ | allocation
    · exact ⟨by simp [abortOrKill_of_none allocated, exit_snd, List.filterMap_map,
        Function.comp_def, Effect.startedFiles?, filterMap_const_none, none quiet],
        by simp [abortOrKill_of_none allocated, Command.files]⟩
    · exact ⟨by simp [abortOrKill_of_some allocated, Effect.startedFiles?, none quiet],
        by simp [abortOrKill_of_some allocated]⟩
  · exact .inl ⟨none quiet, by rw [same]⟩

/-- The first allocation start carries the files the actor holds and every later start carries
none: the actor keeps its files until its first start and never after. -/
theorem files_go_with_first_start (env : Env) (c : Command) (msgs : List Msg) :
    ((run env c msgs).2.filterMap Effect.startedFiles? = [] ∧
        (run env c msgs).1.files = c.files) ∨
      ∃ later, (run env c msgs).2.filterMap Effect.startedFiles? =
          c.files :: List.replicate later ([], []) ∧ (run env c msgs).1.files = ([], []) := by
  induction msgs generalizing c with
  | nil => exact .inl ⟨rfl, rfl⟩
  | cons msg rest ih =>
      simp only [run_cons, List.filterMap_append]
      rcases receive_files env c msg with ⟨none, kept⟩ | ⟨one, dropped⟩
      · rw [none, List.nil_append, ← kept]
        exact ih _
      · rw [one]
        rcases ih (receive env c msg).1 with ⟨none, final⟩ | ⟨later, starts, final⟩
        · exact .inr ⟨0, by simp [none], final.trans dropped⟩
        · exact .inr ⟨later + 1, by simp [starts, dropped, List.replicate_succ], final⟩

theorem receive_readiness_flag (env : Env) (c : Command) (msg : Msg) :
    (receive env c msg).1.readinessMessageSent =
        (c.readinessMessageSent ||
          !((receive env c msg).2.filterMap Effect.serviceReady?).isEmpty) ∧
      ((receive env c msg).2.filterMap Effect.serviceReady?).length ≤
        (if c.readinessMessageSent then 0 else 1) := by
  cases log? : msg.containerLog? with
  | none =>
      obtain ⟨-, sameSent, noEvent⟩ := receive_readiness_of_not_log env c msg log?
      rw [sameSent, noEvent]
      simp
  | some line =>
      obtain rfl := Msg.eq_containerLog log?
      obtain ⟨-, sentAfter, events⟩ := receive_containerLog env c line
      rw [sentAfter, events]
      cases c.readinessMessageSent <;>
        cases (c.readinessChecks.filter fun entry => !entry.2 line).entries.isEmpty <;> simp

/-- From any state, `readinessMessageSent` ends set exactly when it was set already or the run
published a ServiceReadyEvent, and a run publishes at most one, none once the flag is set. -/
theorem readiness_flag_follows_event (env : Env) (c : Command) (msgs : List Msg) :
    (run env c msgs).1.readinessMessageSent =
        (c.readinessMessageSent || !((run env c msgs).2.filterMap Effect.serviceReady?).isEmpty) ∧
      ((run env c msgs).2.filterMap Effect.serviceReady?).length ≤
        (if c.readinessMessageSent then 0 else 1) := by
  induction msgs generalizing c with
  | nil => simp
  | cons msg rest ih =>
      obtain ⟨flag, bound⟩ := receive_readiness_flag env c msg
      obtain ⟨laterFlag, laterBound⟩ := ih (receive env c msg).1
      simp only [run_cons, List.filterMap_append, List.length_append]
      rw [flag] at laterFlag laterBound
      rw [laterFlag]
      generalize (receive env c msg).2.filterMap Effect.serviceReady? = now at bound laterBound ⊢
      generalize (run env (receive env c msg).1 rest).2.filterMap Effect.serviceReady? = later
        at laterBound ⊢
      rcases sent : c.readinessMessageSent <;> rcases now with _ | ⟨event, now⟩ <;> simp_all

/-- No run publishes a TerminateRequestEvent: `terminate`'s ReleaseResources branch is
unreachable, because `Receive` answers ReleaseResources with an unexpected-message error. -/
theorem release_request_never_terminates (env : Env) (c : Command) (msgs : List Msg) :
    Effect.publish .terminateRequest ∉ (run env c msgs).2 := by
  induction msgs generalizing c with
  | nil => simp
  | cons msg rest ih =>
      rw [run_cons, List.mem_append, not_or]
      exact ⟨fun member => (receive_no_release_request_stop_on_gc env c msg _ member).1 rfl, ih _⟩

end DeterminedTasks.CommandActor
