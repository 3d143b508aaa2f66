import DeterminedTasks.CommandActor.Step

/-! How often the command actor exits, opens a task session and starts an allocation over a
whole run. `exit` has no guard of its own, and the grant check compares only task IDs. -/

namespace DeterminedTasks.CommandActor

def Msg.exits (env : Env) (c : Command) : Msg → Bool
  | .taskContainerStateChanged report =>
      report.container.state == .terminated && report.containerStopped.isSome
  | msg => msg.terminates env c && c.allocation.isNone

theorem Msg.exits_of_not_report {env : Env} {c : Command} {msg : Msg}
    (notReport : ∀ report, msg ≠ .taskContainerStateChanged report) :
    msg.exits env c = (msg.terminates env c && c.allocation.isNone) := by
  cases msg <;> first | rfl | exact absurd rfl (notReport _)

def exitCount (env : Env) : Command → List Msg → Nat
  | _, [] => 0
  | c, msg :: rest =>
      (if msg.exits env c then 1 else 0) + exitCount env (receive env c msg).1 rest

theorem receive_exit_shape (env : Env) (c : Command) (msg : Msg) :
    ∃ before after status, (∀ effect ∈ before, effect.ofExit = false) ∧
      (∀ effect ∈ after, effect.ofExit = false) ∧ (receive env c msg).2 =
        before ++ (if msg.exits env c then (exit c status).2 else []) ++ after := by
  have calm {effects : List Effect} (quiet : ∀ effect ∈ effects, effect.quiet) :
      ∀ effect ∈ effects, effect.ofExit = false :=
    fun effect member => Effect.ofExit_of_quiet (quiet effect member)
  have alone {effects : List Effect} (calm : ∀ effect ∈ effects, effect.ofExit = false)
      (quietStep : msg.exits env c = false) (shape : (receive env c msg).2 = effects) :
      ∃ before after status, (∀ effect ∈ before, effect.ofExit = false) ∧
        (∀ effect ∈ after, effect.ofExit = false) ∧ (receive env c msg).2 =
          before ++ (if msg.exits env c then (exit c status).2 else []) ++ after :=
    ⟨effects, [], "", calm, by simp, by simp [quietStep, shape]⟩
  rcases receive_cases env c msg with ⟨allocateError, rfl⟩ | ⟨grant, session, rfl⟩ |
    ⟨report, rfl⟩ | ⟨log, rfl⟩ | ⟨terminates, tail, quiet, shape⟩ |
    ⟨notReport, terminates, -, quiet⟩
  · exact alone (calm (receive_preStart_quiet env c allocateError)) rfl rfl
  · refine alone ?_ rfl rfl
    rcases receiveSchedulerMsg_cases c grant session with
      ⟨-, quiet⟩ | ⟨_, _, _, -, -, -, -, shape⟩
    · exact calm quiet
    · simp [receive, shape, Effect.ofExit]
  · rcases taskContainerStateChanged_cases c report with
      ⟨started, running, some, shape⟩ | ⟨stopped, terminated, some, shape⟩ |
      ⟨terminated, none, shape⟩ | ⟨notTerminated, -, quiet⟩
    · exact alone (by
        simp only [receive, shape, List.mem_append, List.mem_map, List.mem_singleton]
        rintro _ (⟨_, -, rfl⟩ | rfl) <;> rfl)
        (by simp [Msg.exits, running]) rfl
    · refine ⟨c.proxyNames.map .proxyUnregister, [],
        stopped.failure.getD "command exited successfully", by simp [Effect.ofExit], by simp, ?_⟩
      simp [receive, shape, Msg.exits, terminated, some, exit_snd]
    · exact alone (by
        simp only [receive, shape, List.mem_append, List.mem_map, List.mem_singleton]
        rintro _ (⟨_, -, rfl⟩ | rfl) <;> rfl)
        (by simp [Msg.exits, none]) rfl
    · exact alone (calm quiet) (by simp [Msg.exits, notTerminated]) rfl
  · refine alone (fun effect member => ?_) rfl rfl
    rcases containerLog_effects env c log effect (by simpa [receive] using member) with quiet | rfl
    · exact Effect.ofExit_of_quiet quiet
    · rfl
  · have exits := @Msg.exits_of_not_report env c msg (Msg.not_report_of_terminates terminates)
    rcases allocated : c.allocation with _ | allocation
    · exact ⟨[], tail, "task is aborted without being scheduled", by simp, calm quiet,
        by simp [shape, exits, terminates, allocated, abortOrKill_of_none allocated]⟩
    · exact ⟨[.killAllocation allocation], tail, "", by simp [Effect.ofExit], calm quiet,
        by simp [shape, abortOrKill_of_some allocated, exits, allocated]⟩
  · exact alone (calm quiet) (by simp [Msg.exits_of_not_report notReport, terminates]) rfl

theorem receive_countP_ofExit (env : Env) (c : Command) (msg : Msg) {counted : Effect → Bool}
    (onlyExit : ∀ effect, counted effect → effect.ofExit)
    (once : ∀ status, (exit c status).2.countP counted = k) :
    (receive env c msg).2.countP counted = if msg.exits env c then k else 0 := by
  obtain ⟨before, after, status, calmBefore, calmAfter, shape⟩ := receive_exit_shape env c msg
  have none {effects : List Effect} (calm : ∀ effect ∈ effects, effect.ofExit = false) :
      effects.countP counted = 0 :=
    List.countP_eq_zero.mpr fun effect member hit => by
      simpa [calm effect member] using onlyExit effect hit
  rw [shape, List.countP_append, List.countP_append, none calmBefore, none calmAfter]
  split <;> simp [once]

theorem receive_task_isSome (env : Env) {c : Command} (msg : Msg) (started : c.task.isSome) :
    (receive env c msg).1.task.isSome := by
  rcases receive_task env c msg with same | ⟨_, written, -⟩ <;> simp_all

theorem run_countP_ofExit (env : Env) {counted : Effect → Bool}
    (onlyExit : ∀ effect, counted effect → effect.ofExit)
    (once : ∀ (c : Command) status, c.task.isSome → (exit c status).2.countP counted = 1)
    (c : Command) (msgs : List Msg) (started : c.task.isSome) :
    (run env c msgs).2.countP counted = exitCount env c msgs := by
  induction msgs generalizing c with
  | nil => rfl
  | cons msg rest ih =>
      rw [run_cons, List.countP_append,
        receive_countP_ofExit env c msg onlyExit (once c · started),
        ih _ (receive_task_isSome env msg started), exitCount]

/-- Every run of `exit` emits one ExitedEvent, sends one ResourcesReleased, arms one
terminateForGC timer and deletes the task session once; so over any run after PreStart the
four counts equal the number of exits, which `exitCount` gives message by message. -/
theorem exit_effects_count_exits (env : Env) (c : Command) (allocateError : Option String)
    (msgs : List Msg) :
    let trace := (run env c.fresh (.preStart allocateError :: msgs)).2
    let exits := exitCount env c.fresh (.preStart allocateError :: msgs)
    trace.countP Effect.isExited = exits ∧ trace.countP Effect.isResourcesReleased = exits ∧
      trace.countP Effect.isNotifyAfter = exits ∧
      trace.countP Effect.isDeleteTaskSession = exits := by
  have count {counted : Effect → Bool} (onlyExit : ∀ effect, counted effect → effect.ofExit)
      (once : ∀ (c : Command) status, c.task.isSome → (exit c status).2.countP counted = 1) :
      (run env c.fresh (.preStart allocateError :: msgs)).2.countP counted =
        exitCount env c.fresh (.preStart allocateError :: msgs) := by
    have loud (effect : Effect) (hit : counted effect) : effect.quiet = false := by
      have := onlyExit effect hit
      cases quiet : effect.quiet
      · rfl
      · simp [Effect.ofExit_of_quiet quiet] at this
    rw [run_cons, List.countP_append, countP_quiet (receive_preStart_quiet env _ _) loud,
      run_countP_ofExit env onlyExit once
        (receive env c.fresh (.preStart allocateError)).1 msgs rfl]
    simp [exitCount, Msg.exits, Msg.terminates]
  refine ⟨@count Effect.isExited (fun effect hit => (Effect.ofExit_iff effect).mpr (.inl hit)) ?_,
    @count Effect.isResourcesReleased
      (fun effect hit => (Effect.ofExit_iff effect).mpr (.inr (.inl hit))) ?_,
    @count Effect.isNotifyAfter
      (fun effect hit => (Effect.ofExit_iff effect).mpr (.inr (.inr (.inl hit)))) ?_,
    @count Effect.isDeleteTaskSession
      (fun effect hit => (Effect.ofExit_iff effect).mpr (.inr (.inr (.inr hit)))) ?_⟩
  all_goals
    intro c status started
    obtain ⟨task, owned⟩ := Option.isSome_iff_exists.mp started
    simp [exit_snd, owned, Effect.isExited, Effect.isResourcesReleased, Effect.isNotifyAfter,
      Effect.isDeleteTaskSession]

theorem kill_twice_exits_twice :
    let trace := (run plainEnv sample.fresh
      [.preStart none, .killCommandRequest, .killCommandRequest]).2
    trace.countP Effect.isExited = 2 ∧ trace.countP Effect.isResourcesReleased = 2 ∧
      trace.countP Effect.isNotifyAfter = 2 ∧ trace.countP Effect.isDeleteTaskSession = 2 := by
  decide

def Msg.isOwnGrant (taskID : TaskID) : Msg → Bool
  | .resourcesAllocated grant _ => grant.id == taskID && grant.allocations.length == 1
  | _ => false

def TaskOwned (c : Command) : Prop := ∀ task, c.task = some task → task.id = c.taskID

theorem receive_taskOwned (env : Env) {c : Command} (msg : Msg) (owned : TaskOwned c) :
    TaskOwned (receive env c msg).1 := by
  intro task recorded
  rw [receive_taskID]
  rcases receive_task env c msg with same | ⟨written, writtenEq, own⟩
  · exact owned task (same ▸ recorded)
  · exact (Option.some.inj (recorded.symm.trans writtenEq)) ▸ own

theorem run_taskID (env : Env) (c : Command) (msgs : List Msg) :
    (run env c msgs).1.taskID = c.taskID := by
  induction msgs generalizing c with
  | nil => rfl
  | cons msg rest ih => rw [run_cons, ih, receive_taskID]

theorem run_taskOwned (env : Env) (c : Command) (msgs : List Msg) (owned : TaskOwned c) :
    TaskOwned (run env c msgs).1 := by
  induction msgs generalizing c with
  | nil => exact owned
  | cons msg rest ih => exact ih _ (receive_taskOwned env msg owned)

def StartsNothing (effects : List Effect) : Prop :=
  ∀ effect ∈ effects, effect.isStartTaskSession = false ∧ effect.isStartAllocation = false

theorem startsNothing_of_quiet {effects : List Effect}
    (quiet : ∀ effect ∈ effects, effect.quiet) :
    StartsNothing effects := fun effect member => by
  have := quiet effect member
  cases effect <;> first | exact ⟨rfl, rfl⟩ | simp [Effect.quiet] at this

theorem exit_startsNothing (c : Command) (exitStatus : String) :
    StartsNothing (exit c exitStatus).2 := by
  simp only [StartsNothing, exit_snd, List.mem_append, List.mem_map, List.mem_cons,
    List.not_mem_nil, or_false]
  rintro effect ((rfl | rfl | rfl) | ⟨_, -, rfl⟩) <;> simp [Effect.isStartTaskSession,
    Effect.isStartAllocation]

theorem receive_starts (env : Env) (c : Command) (msg : Msg) (owned : TaskOwned c) :
    (receive env c msg).2.countP Effect.isStartTaskSession ≤
      (if msg.isOwnGrant c.taskID then 1 else 0) ∧
    (receive env c msg).2.countP Effect.isStartAllocation ≤
      (if msg.isOwnGrant c.taskID then 1 else 0) ∧
    ∀ taskID, .startTaskSession taskID ∈ (receive env c msg).2 → taskID = c.taskID := by
  have none {effects : List Effect} (calm : StartsNothing effects) (bound : Nat) :
      effects.countP Effect.isStartTaskSession ≤ bound ∧
      effects.countP Effect.isStartAllocation ≤ bound ∧
      ∀ taskID, .startTaskSession taskID ∈ effects → taskID = c.taskID := by
    refine ⟨?_, ?_, fun taskID member => by
      simpa [Effect.isStartTaskSession] using (calm _ member).1⟩
    all_goals
      rw [List.countP_eq_zero.mpr fun effect member => by simp [calm effect member]]
      exact Nat.zero_le _
  rcases receive_cases env c msg with ⟨_, rfl⟩ | ⟨grant, session, rfl⟩ | ⟨report, rfl⟩ |
    ⟨log, rfl⟩ | ⟨-, tail, quiet, shape⟩ | ⟨-, -, -, quiet⟩
  · exact none (startsNothing_of_quiet (receive_preStart_quiet env c _)) _
  · rcases receiveSchedulerMsg_cases c grant session with ⟨-, quiet⟩ |
      ⟨task, allocation, token, recorded, own, single, -, shape⟩
    · exact none (startsNothing_of_quiet quiet) _
    · have ownID : task.id = c.taskID := owned task recorded
      simp [receive, shape, Msg.isOwnGrant, own, single, ownID, Effect.isStartTaskSession,
        Effect.isStartAllocation]
  · apply none
    rcases taskContainerStateChanged_cases c report with
      ⟨started, -, -, shape⟩ | ⟨stopped, -, -, shape⟩ | ⟨-, -, shape⟩ |
      ⟨-, -, quiet⟩
    · simp only [StartsNothing, receive, shape, List.mem_append, List.mem_map,
        List.mem_singleton]
      rintro effect (⟨_, -, rfl⟩ | rfl) <;> exact ⟨rfl, rfl⟩
    · simp only [StartsNothing, receive, shape, List.mem_append, List.mem_map]
      rintro effect (⟨_, -, rfl⟩ | member)
      · exact ⟨rfl, rfl⟩
      · exact exit_startsNothing _ _ effect member
    · simp only [StartsNothing, receive, shape, List.mem_append, List.mem_map, List.mem_singleton]
      rintro effect (⟨_, -, rfl⟩ | rfl) <;> exact ⟨rfl, rfl⟩
    · exact startsNothing_of_quiet quiet
  · refine none (fun effect member => ?_) _
    rcases containerLog_effects env c log effect member with quiet | rfl
    · exact startsNothing_of_quiet (by simpa using quiet) effect (List.mem_singleton_self _)
    · simp [Effect.isStartTaskSession, Effect.isStartAllocation]
  · apply none
    rw [shape]
    intro effect member
    rcases List.mem_append.mp member with fromAbort | fromTail
    · unfold abortOrKill at fromAbort
      split at fromAbort
      · exact exit_startsNothing _ _ effect fromAbort
      · simp_all [Effect.isStartTaskSession, Effect.isStartAllocation]
    · exact startsNothing_of_quiet quiet effect fromTail
  · exact none (startsNothing_of_quiet quiet) _

theorem run_starts (env : Env) (c : Command) (msgs : List Msg) (owned : TaskOwned c) :
    (run env c msgs).2.countP Effect.isStartTaskSession ≤
      msgs.countP (Msg.isOwnGrant c.taskID) ∧
    (run env c msgs).2.countP Effect.isStartAllocation ≤
      msgs.countP (Msg.isOwnGrant c.taskID) ∧
    ∀ taskID, .startTaskSession taskID ∈ (run env c msgs).2 → taskID = c.taskID := by
  induction msgs generalizing c with
  | nil => simp
  | cons msg rest ih =>
      obtain ⟨sessions, starts, named⟩ := receive_starts env c msg owned
      obtain ⟨laterSessions, laterStarts, laterNamed⟩ := ih _ (receive_taskOwned env msg owned)
      rw [receive_taskID] at laterSessions laterStarts laterNamed
      simp only [run_cons, List.countP_append, List.countP_cons, List.mem_append]
      generalize (if msg.isOwnGrant c.taskID = true then 1 else 0) = bonus at sessions starts ⊢
      refine ⟨by omega, by omega, ?_⟩
      rintro taskID (member | member)
      · exact named taskID member
      · exact laterNamed taskID member

/-- Sessions and allocation starts come only from grants that carry the actor's own task ID and
exactly one allocation, at most one of each per such grant, both in every step from every
reachable state and in total over any run. -/
theorem sessions_and_starts_follow_own_grants (env : Env) (c : Command) (msgs : List Msg) :
    (∀ msg, let step := (receive env (run env c.fresh msgs).1 msg).2
      step.countP Effect.isStartTaskSession ≤ (if msg.isOwnGrant c.taskID then 1 else 0) ∧
      step.countP Effect.isStartAllocation ≤ (if msg.isOwnGrant c.taskID then 1 else 0)) ∧
    (run env c.fresh msgs).2.countP Effect.isStartTaskSession ≤
      msgs.countP (Msg.isOwnGrant c.taskID) ∧
    (run env c.fresh msgs).2.countP Effect.isStartAllocation ≤
      msgs.countP (Msg.isOwnGrant c.taskID) ∧
    ∀ taskID, .startTaskSession taskID ∈ (run env c.fresh msgs).2 → taskID = c.taskID := by
  have owned : TaskOwned c.fresh := fun _ recorded => nomatch recorded
  obtain ⟨sessions, starts, named⟩ := run_starts env c.fresh msgs owned
  refine ⟨fun msg => ?_, sessions, starts, named⟩
  have step := receive_starts env _ msg (run_taskOwned env c.fresh msgs owned)
  rw [run_taskID] at step
  exact ⟨step.1, step.2.1⟩

/-- After a kill before allocation `exit` has run, yet a grant carrying the task's own ID still
opens a task session and starts the allocation: `c.task` is never cleared, so the guard that
receiveSchedulerMsg's comment says ignores grants after exit never fires. -/
theorem grant_after_exit_starts_allocation (env : Env) (c : Command) (allocation : Allocation)
    (token : String) :
    Effect.publish (.exited "task is aborted without being scheduled") ∈
        (run env c.fresh [.preStart none, .killCommandRequest]).2 ∧
      (run env c.fresh [.preStart none, .killCommandRequest]).1.exitStatus =
        some "task is aborted without being scheduled" ∧
      (run env c.fresh [.preStart none, .killCommandRequest,
          .resourcesAllocated ⟨c.taskID, [allocation]⟩ (.ok token)]).2 =
        (run env c.fresh [.preStart none, .killCommandRequest]).2 ++
          [.startTaskSession c.taskID,
           .startAllocation allocation
             (.startCommand token c.config c.userFiles c.additionalFiles),
           .publish (.assigned ⟨c.taskID, [allocation]⟩)] ∧
      (run env c.fresh [.preStart none, .killCommandRequest,
          .resourcesAllocated ⟨c.taskID, [allocation]⟩ (.ok token)]).1.allocation =
        some allocation := by
  simp [receive, preStart, killRequest, terminate, exit, receiveSchedulerMsg, Command.fresh,
    respondWith]

end DeterminedTasks.CommandActor
