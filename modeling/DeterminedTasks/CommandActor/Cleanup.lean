import DeterminedTasks.CommandActor.Exit

/-! What the collaborators are left holding: the task sessions and proxy routes a run leaves
open, the release it sends, and what the proxy routes when an ExitedEvent goes out. -/

namespace DeterminedTasks.CommandActor

theorem World.applyAll_containerLog (world : World) (env : Env) (c : Command) (log : ContainerLog) :
    world.applyAll (containerLog env c log).2 = world :=
  World.applyAll_fixed world fun effect member world => by
    rcases containerLog_effects env c log effect member with quiet | rfl
    · exact World.apply_of_quiet quiet world
    · rfl

theorem World.applyAll_exit (world : World) (c : Command) (exitStatus : String) :
    world.applyAll (exit c exitStatus).2 =
      { world with sessions := world.sessions.filter fun id => c.task.all (id != ·.id) } := by
  rw [exit_snd]
  cases c.task <;> simp [World.apply]

theorem World.applyAll_unregisters (world : World) (names : List String) :
    world.applyAll (names.map .proxyUnregister) =
      { world with routes := world.routes.filter fun id => id ∉ names } := by
  induction names generalizing world with
  | nil => simp
  | cons name rest ih =>
      simp only [List.map_cons, World.applyAll_cons, ih, World.apply, List.filter_filter]
      congr 2
      funext id
      by_cases same : id = name <;> simp [same]

theorem World.applyAll_registers (world : World) (serviceID : String) (addresses : List Address)
    (proxyTCP : Bool) :
    world.applyAll
        (addresses.map fun address => .proxyRegister serviceID (proxyURL address) proxyTCP) =
      { world with routes := List.replicate addresses.length serviceID ++ world.routes } := by
  induction addresses generalizing world with
  | nil => rfl
  | cons address rest ih =>
      simp only [List.map_cons, World.applyAll_cons, ih, World.apply, List.length_cons,
        List.replicate_succ', List.append_assoc, List.singleton_append]

def SessionsTracked (c : Command) (world : World) : Prop :=
  ∀ id ∈ world.sessions, c.task.isSome ∧ c.allocation.isSome ∧ id = c.taskID

theorem own_sessions_closed {c : Command} {world : World} (owned : TaskOwned c)
    (tracked : SessionsTracked c world) :
    world.sessions.filter (fun id => c.task.all (id != ·.id)) = [] := by
  rw [List.filter_eq_nil_iff]
  intro id open_
  obtain ⟨recorded, -, rfl⟩ := tracked id open_
  obtain ⟨task, requested⟩ := Option.isSome_iff_exists.mp recorded
  simp [requested, owned task requested]

theorem abortOrKill_sessions {c : Command} {world : World} (owned : TaskOwned c)
    (tracked : SessionsTracked c world) {tail : List Effect}
    (quiet : ∀ effect ∈ tail, effect.quiet) :
    SessionsTracked (abortOrKill c).1 (world.applyAll ((abortOrKill c).2 ++ tail)) := by
  rw [World.applyAll_append, World.applyAll_quiet _ quiet]
  unfold abortOrKill
  split
  · simp [World.applyAll_exit, own_sessions_closed owned tracked, SessionsTracked]
  · simpa [World.apply] using tracked

theorem receive_sessionsTracked (env : Env) {c : Command} {world : World} (msg : Msg)
    (owned : TaskOwned c) (tracked : SessionsTracked c world) :
    SessionsTracked (receive env c msg).1 (world.applyAll (receive env c msg).2) := by
  rcases receive_cases env c msg with ⟨allocateError, rfl⟩ | ⟨grant, session, rfl⟩ |
    ⟨report, rfl⟩ | ⟨log, rfl⟩ | ⟨-, tail, quiet, shape⟩ | ⟨-, -, same, quiet⟩
  · rw [World.applyAll_quiet _ (receive_preStart_quiet env c allocateError)]
    exact fun id open_ => ⟨rfl, (tracked id open_).2⟩
  · rcases receiveSchedulerMsg_cases c grant session with ⟨same, quiet⟩ |
      ⟨task, allocation, token, recorded, -, -, -, shape⟩
    · simpa only [receive, same, World.applyAll_quiet _ quiet] using tracked
    · simp only [receive, shape, World.applyAll_cons, World.applyAll_nil, World.apply]
      rintro id (_ | ⟨_, open_⟩)
      · exact ⟨by simp [recorded], rfl, owned task recorded⟩
      · exact ⟨(tracked id open_).1, rfl, (tracked id open_).2.2⟩
  · rcases taskContainerStateChanged_cases c report with
      ⟨started, -, -, shape⟩ | ⟨stopped, -, -, shape⟩ | ⟨-, -, shape⟩ |
      ⟨-, same, quiet⟩
    · simp only [receive, shape, World.applyAll_append, World.applyAll_registers]
      simpa [World.apply] using tracked
    · simp [receive, shape, World.applyAll_unregisters, World.applyAll_exit,
        own_sessions_closed owned tracked, SessionsTracked]
    · simpa [receive, shape, World.applyAll_unregisters, World.apply] using tracked
    · simpa only [receive, same, World.applyAll_quiet _ quiet] using tracked
  · simp only [receive, World.applyAll_containerLog]
    have same := containerLog_sameLifecycle env c log
    simpa only [SessionsTracked, same.task, same.allocation, same.taskID] using tracked
  · rw [shape]
    exact abortOrKill_sessions owned tracked quiet
  · rwa [same, World.applyAll_quiet _ quiet]

theorem run_sessionsTracked (env : Env) (c : Command) (msgs : List Msg) (world : World)
    (owned : TaskOwned c) (tracked : SessionsTracked c world) :
    SessionsTracked (run env c msgs).1 (world.applyAll (run env c msgs).2) := by
  induction msgs generalizing c world with
  | nil => exact tracked
  | cons msg rest ih =>
      rw [run_cons, World.applyAll_append]
      exact ih _ _ (receive_taskOwned env msg owned) (receive_sessionsTracked env msg owned tracked)

/-- No session is open while no allocation is recorded: a session opens only with the grant
that records the allocation, and no message clears the allocation. -/
theorem session_open_only_with_allocation (env : Env) (c : Command) (msgs : List Msg)
    (open_ : (World.empty.applyAll (run env c.fresh msgs).2).sessions ≠ []) :
    (run env c.fresh msgs).1.allocation.isSome := by
  obtain ⟨id, member⟩ := List.exists_mem_of_ne_nil _ open_
  exact (run_sessionsTracked env c.fresh msgs World.empty (fun _ recorded => nomatch recorded)
    (fun _ open_ => nomatch open_) id member).2.1

theorem session_open_on_granted_run :
    let granted := run plainEnv sample.fresh [.preStart none,
      .resourcesAllocated ⟨"t1", [⟨"a"⟩]⟩ (.ok "token")]
    (World.empty.applyAll granted.2).sessions ≠ [] ∧ granted.1.allocation.isSome :=
  ⟨by decide, session_open_only_with_allocation plainEnv sample _ (by decide)⟩

def CleanedUp (trace : List Effect) : Prop :=
  Effect.resourcesReleased ∈ trace ∧ (World.empty.applyAll trace).sessions = [] ∧
    (World.empty.applyAll trace).routes = []

instance (trace : List Effect) : Decidable (CleanedUp trace) :=
  inferInstanceAs (Decidable (_ ∧ _ ∧ _))

/-- PostStop completes the cleanup exactly when the run before it had completed it already, or
when no allocation is recorded and no route is left: PostStop only reaches `exit` through
`terminate` without an allocation, and `exit` unregisters nothing. -/
theorem post_stop_cleans_up_iff (env : Env) (c : Command) (msgs : List Msg) :
    CleanedUp (run env c.fresh (msgs ++ [.postStop])).2 ↔
      CleanedUp (run env c.fresh msgs).2 ∨
        ((run env c.fresh msgs).1.allocation = none ∧
          (World.empty.applyAll (run env c.fresh msgs).2).routes = []) := by
  have owned := run_taskOwned env c.fresh msgs fun _ recorded => nomatch recorded
  have tracked := run_sessionsTracked env c.fresh msgs World.empty
    (fun _ recorded => nomatch recorded) (fun _ open_ => nomatch open_)
  have stop :
      receive env (run env c.fresh msgs).1 .postStop = abortOrKill (run env c.fresh msgs).1 := by
    simp [receive, terminate_eq env _ .postStop rfl]
  rw [run_append, run_cons, run_nil, stop, List.append_nil]
  generalize run env c.fresh msgs = before at owned tracked ⊢
  unfold CleanedUp
  rcases allocated : before.1.allocation with _ | allocation
  · have released : Effect.resourcesReleased ∈
        (exit before.1 "task is aborted without being scheduled").2 := by
      simp [exit_snd]
    rw [abortOrKill_of_none allocated, World.applyAll_append, World.applyAll_exit,
      own_sessions_closed owned tracked]
    simp [released]
  · simp [abortOrKill_of_some allocated, World.apply]

theorem post_stop_while_running_leaves_session_and_route :
    let trace := (run plainEnv sample.fresh [.preStart none,
      .resourcesAllocated ⟨"t1", [⟨"a"⟩]⟩ (.ok "token"),
      .taskContainerStateChanged ⟨⟨.running⟩, some ⟨[⟨"10.0.0.1", 80⟩]⟩, none⟩,
      .postStop]).2
    ¬ CleanedUp trace ∧ Effect.resourcesReleased ∉ trace ∧
      (World.empty.applyAll trace).sessions = ["t1"] ∧
      (World.empty.applyAll trace).routes = ["t1"] := by
  decide

def AtEachEffect (holds : World → Effect → Prop) : World → List Effect → Prop
  | _, [] => True
  | world, effect :: rest => holds world effect ∧ AtEachEffect holds (world.apply effect) rest

instance (holds : World → Effect → Prop) [∀ world effect, Decidable (holds world effect)] :
    ∀ world effects, Decidable (AtEachEffect holds world effects)
  | _, [] => isTrue trivial
  | world, effect :: rest =>
      have := instDecidableAtEachEffect holds (world.apply effect) rest
      inferInstanceAs (Decidable (_ ∧ _))

theorem atEachEffect_append (holds : World → Effect → Prop) (world : World)
    (first second : List Effect) :
    AtEachEffect holds world (first ++ second) ↔
      AtEachEffect holds world first ∧ AtEachEffect holds (world.applyAll first) second := by
  induction first generalizing world with
  | nil => simp [AtEachEffect]
  | cons effect rest ih => simp [AtEachEffect, ih, and_assoc]

def RoutesGone (world : World) (effect : Effect) : Prop :=
  effect.isExited ∨ effect.isResourcesReleased → world.routes = []

instance (world : World) (effect : Effect) : Decidable (RoutesGone world effect) :=
  inferInstanceAs (Decidable (_ → _))

theorem atEachEffect_of_calm {effects : List Effect}
    (calm : ∀ effect ∈ effects, effect.ofExit = false) (world : World) :
    AtEachEffect RoutesGone world effects := by
  induction effects generalizing world with
  | nil => trivial
  | cons effect rest ih =>
      simp only [List.mem_cons, forall_eq_or_imp] at calm
      refine ⟨fun sent => absurd ((Effect.ofExit_iff effect).mpr ?_) (by simp [calm.1]),
        ih calm.2 _⟩
      exact sent.elim .inl (.inr ∘ .inl)

theorem atEachEffect_of_quiet {effects : List Effect} (quiet : ∀ effect ∈ effects, effect.quiet)
    (world : World) : AtEachEffect RoutesGone world effects :=
  atEachEffect_of_calm (fun effect member => Effect.ofExit_of_quiet (quiet effect member)) world

theorem atEachEffect_exit (c : Command) (exitStatus : String) {world : World}
    (clear : world.routes = []) : AtEachEffect RoutesGone world (exit c exitStatus).2 := by
  rw [exit_snd]
  cases c.task <;> simp [AtEachEffect, RoutesGone, World.apply, clear]

def Msg.keepsRoutes (c : Command) : Msg → Bool
  | .taskContainerStateChanged ⟨⟨.running⟩, some started, _⟩ =>
      if started.addresses.isEmpty then c.proxyNames.isEmpty else c.allocation.isSome
  | _ => true

def RoutesKept (env : Env) : Command → List Msg → Bool
  | _, [] => true
  | c, msg :: rest => msg.keepsRoutes c && RoutesKept env (receive env c msg).1 rest

structure RoutesTracked (c : Command) (world : World) : Prop where
  recorded : ∀ id ∈ world.routes, id ∈ c.proxyNames ∧ c.allocation.isSome
  named : ∀ name ∈ c.proxyNames, name = c.taskID

theorem RoutesTracked.of_sameLifecycle {c c' : Command} {world : World} (same : SameLifecycle c c')
    (tracked : RoutesTracked c world) : RoutesTracked c' world :=
  ⟨by simpa only [same.proxyNames, same.allocation] using tracked.recorded,
    by simpa only [same.proxyNames, same.taskID] using tracked.named⟩

theorem RoutesTracked.of_clear {c : Command} {world : World} (clear : world.routes = [])
    (named : ∀ name ∈ c.proxyNames, name = c.taskID) : RoutesTracked c world :=
  ⟨by simp [clear], named⟩

theorem RoutesTracked.clear_of_unallocated {c : Command} {world : World}
    (tracked : RoutesTracked c world) (unallocated : c.allocation = none) : world.routes = [] :=
  List.eq_nil_iff_forall_not_mem.mpr fun id routed => by
    simpa [unallocated] using (tracked.recorded id routed).2

theorem RoutesTracked.unregistered {c : Command} {world : World} (tracked : RoutesTracked c world) :
    (world.applyAll (c.proxyNames.map .proxyUnregister)).routes = [] := by
  rw [World.applyAll_unregisters, List.filter_eq_nil_iff]
  exact fun id routed => by simpa using (tracked.recorded id routed).1

theorem report_routesTracked {c : Command} {world : World} (report : TaskContainerStateChanged)
    (tracked : RoutesTracked c world)
    (kept : (Msg.taskContainerStateChanged report).keepsRoutes c) :
    AtEachEffect RoutesGone world (taskContainerStateChanged c report).2 ∧
      RoutesTracked (taskContainerStateChanged c report).1
        (world.applyAll (taskContainerStateChanged c report).2) := by
  rcases taskContainerStateChanged_cases c report with
    ⟨started, running, reported, shape⟩ | ⟨stopped, -, -, shape⟩ | ⟨-, -, shape⟩ |
    ⟨-, same, quiet⟩
  · rw [shape]
    obtain ⟨⟨state⟩, _, _⟩ := report
    cases running
    cases reported
    refine ⟨atEachEffect_of_calm (by
      simp only [List.mem_append, List.mem_map, List.mem_singleton]
      rintro _ (⟨_, -, rfl⟩ | rfl) <;> rfl) _, ?_⟩
    rw [World.applyAll_append, World.applyAll_registers]
    refine ⟨?_, by simp⟩
    simp only [Msg.keepsRoutes] at kept
    split at kept
    · rename_i empty
      have clear : world.routes = [] := List.eq_nil_iff_forall_not_mem.mpr fun id routed => by
        simpa [List.isEmpty_iff.mp kept] using (tracked.recorded id routed).1
      simp [List.isEmpty_iff.mp empty, clear, World.apply]
    · rename_i some_
      simp only [World.applyAll_cons, World.applyAll_nil, World.apply, List.mem_append,
        List.mem_replicate, List.mem_map]
      obtain ⟨address, present⟩ := List.exists_mem_of_ne_nil _ (mt List.isEmpty_iff.mpr some_)
      rintro id (⟨-, rfl⟩ | routed)
      · exact ⟨⟨address, present, rfl⟩, kept⟩
      · obtain ⟨named, allocated⟩ := tracked.recorded id routed
        exact ⟨⟨address, present, (tracked.named id named).symm⟩, allocated⟩
  · rw [shape, atEachEffect_append, World.applyAll_append]
    have clear := tracked.unregistered
    refine ⟨⟨atEachEffect_of_calm (by simp [Effect.ofExit]) _,
      atEachEffect_exit _ _ clear⟩, RoutesTracked.of_clear ?_ (by simp)⟩
    rw [World.applyAll_exit]
    exact clear
  · rw [shape, atEachEffect_append, World.applyAll_append]
    exact ⟨⟨atEachEffect_of_calm (by simp [Effect.ofExit]) _,
      atEachEffect_of_calm (by simp [Effect.ofExit]) _⟩,
      RoutesTracked.of_clear (by simpa [World.apply] using tracked.unregistered) (by simp)⟩
  · rw [same, World.applyAll_quiet _ quiet]
    exact ⟨atEachEffect_of_quiet quiet _, tracked.recorded, tracked.named⟩

theorem receive_routesTracked (env : Env) {c : Command} {world : World} (msg : Msg)
    (tracked : RoutesTracked c world) (kept : msg.keepsRoutes c) :
    AtEachEffect RoutesGone world (receive env c msg).2 ∧
      RoutesTracked (receive env c msg).1 (world.applyAll (receive env c msg).2) := by
  rcases receive_cases env c msg with ⟨allocateError, rfl⟩ | ⟨grant, session, rfl⟩ |
    ⟨report, rfl⟩ | ⟨log, rfl⟩ | ⟨-, tail, quiet, shape⟩ | ⟨-, -, same, quiet⟩
  · have quiet := receive_preStart_quiet env c allocateError
    rw [World.applyAll_quiet _ quiet]
    exact ⟨atEachEffect_of_quiet quiet _, tracked.recorded, tracked.named⟩
  · rcases receiveSchedulerMsg_cases c grant session with ⟨same, quiet⟩ |
      ⟨task, allocation, token, -, -, -, -, shape⟩
    · simp only [receive, same, World.applyAll_quiet _ quiet]
      exact ⟨atEachEffect_of_quiet quiet _, tracked⟩
    · simp only [receive, shape, World.applyAll_cons, World.applyAll_nil, World.apply]
      refine ⟨atEachEffect_of_calm (by simp [Effect.ofExit]) _,
        fun id routed => ⟨(tracked.recorded id routed).1, rfl⟩, tracked.named⟩
  · exact report_routesTracked report tracked kept
  · simp only [receive, World.applyAll_containerLog]
    refine ⟨atEachEffect_of_calm (fun effect member => ?_) _,
      tracked.of_sameLifecycle (containerLog_sameLifecycle env c log)⟩
    rcases containerLog_effects env c log effect member with quiet | rfl
    · exact Effect.ofExit_of_quiet quiet
    · rfl
  · rw [shape, atEachEffect_append, World.applyAll_append, World.applyAll_quiet _ quiet]
    rcases allocated : c.allocation with _ | allocation
    · have clear := tracked.clear_of_unallocated allocated
      rw [abortOrKill_of_none allocated, World.applyAll_exit]
      exact ⟨⟨atEachEffect_exit _ _ clear, atEachEffect_of_quiet quiet _⟩,
        RoutesTracked.of_clear clear tracked.named⟩
    · rw [abortOrKill_of_some allocated]
      exact ⟨⟨atEachEffect_of_calm (by simp [Effect.ofExit]) _,
        atEachEffect_of_quiet quiet _⟩, by simpa [World.apply] using tracked⟩
  · rw [same, World.applyAll_quiet _ quiet]
    exact ⟨atEachEffect_of_quiet quiet _, tracked⟩

theorem run_routesTracked (env : Env) (c : Command) (msgs : List Msg) (world : World)
    (tracked : RoutesTracked c world) (kept : RoutesKept env c msgs) :
    AtEachEffect RoutesGone world (run env c msgs).2 ∧
      RoutesTracked (run env c msgs).1 (world.applyAll (run env c msgs).2) := by
  induction msgs generalizing c world with
  | nil => exact ⟨trivial, tracked⟩
  | cons msg rest ih =>
      simp only [RoutesKept, Bool.and_eq_true] at kept
      obtain ⟨gone, next⟩ := receive_routesTracked env msg tracked kept.1
      obtain ⟨laterGone, laterTracked⟩ := ih _ _ next kept.2
      rw [run_cons, atEachEffect_append, World.applyAll_append]
      exact ⟨⟨gone, laterGone⟩, laterTracked⟩

/-- In a run whose Running reports register routes only under a recorded allocation and bring
no empty address list over recorded route names, every ExitedEvent and every ResourcesReleased
is sent after every registered route has been unregistered. -/
theorem routes_unregistered_before_exit (env : Env) (c : Command) (msgs : List Msg)
    (kept : RoutesKept env c.fresh msgs) :
    AtEachEffect RoutesGone World.empty (run env c.fresh msgs).2 :=
  (run_routesTracked env c.fresh msgs World.empty ⟨(fun _ routed => nomatch routed),
    (fun _ named => nomatch named)⟩ kept).1

theorem routes_unregistered_on_granted_run :
    let msgs := [.preStart none, .resourcesAllocated ⟨"t1", [⟨"a"⟩]⟩ (.ok "token"),
      .taskContainerStateChanged ⟨⟨.running⟩, some ⟨[⟨"10.0.0.1", 80⟩]⟩, none⟩,
      .taskContainerStateChanged ⟨⟨.terminated⟩, none, some ⟨none⟩⟩]
    RoutesKept plainEnv sample.fresh msgs ∧
      AtEachEffect RoutesGone World.empty (run plainEnv sample.fresh msgs).2 :=
  ⟨by decide, routes_unregistered_before_exit plainEnv sample _ (by decide)⟩

/-- A Terminated report with its stop record completes the cleanup, in every run whose Running
reports keep the routes. -/
theorem terminated_report_cleans_up (env : Env) (c : Command) (msgs : List Msg)
    (report : TaskContainerStateChanged) (kept : RoutesKept env c.fresh msgs)
    (terminated : report.container.state = .terminated) (stopped : report.containerStopped.isSome) :
    CleanedUp (run env c.fresh (msgs ++ [.taskContainerStateChanged report])).2 := by
  have owned := run_taskOwned env c.fresh msgs fun _ recorded => nomatch recorded
  have sessions := run_sessionsTracked env c.fresh msgs World.empty
    (fun _ recorded => nomatch recorded) (fun _ open_ => nomatch open_)
  have routes := (run_routesTracked env c.fresh msgs World.empty
    ⟨(fun _ routed => nomatch routed), (fun _ named => nomatch named)⟩ kept).2
  rw [run_append, run_cons, run_nil, List.append_nil]
  generalize run env c.fresh msgs = before at owned sessions routes ⊢
  rcases taskContainerStateChanged_cases before.1 report with
    ⟨_, running, -, -⟩ | ⟨_, -, -, shape⟩ | ⟨-, unstopped, -⟩ |
    ⟨notTerminated, -, -⟩
  · simp [terminated] at running
  · refine ⟨by simp [receive, shape, exit_snd], ?_, ?_⟩
    · simp [receive, shape, World.applyAll_unregisters, World.applyAll_exit,
        own_sessions_closed owned sessions]
    · simpa [receive, shape, World.applyAll_unregisters, World.applyAll_exit]
        using routes.unregistered
  · simp [unstopped] at stopped
  · exact absurd terminated notTerminated

theorem terminated_report_cleans_up_granted_run :
    let msgs := [.preStart none, .resourcesAllocated ⟨"t1", [⟨"a"⟩]⟩ (.ok "token"),
      .taskContainerStateChanged ⟨⟨.running⟩, some ⟨[⟨"10.0.0.1", 80⟩]⟩, none⟩]
    let report : TaskContainerStateChanged :=
      ⟨⟨.terminated⟩, none, some ⟨some "exit code 1"⟩⟩
    RoutesKept plainEnv sample.fresh msgs ∧ report.container.state = .terminated ∧
      report.containerStopped.isSome ∧
      CleanedUp (run plainEnv sample.fresh (msgs ++ [.taskContainerStateChanged report])).2 :=
  ⟨by decide, rfl, rfl, terminated_report_cleans_up plainEnv sample _ _ (by decide) rfl rfl⟩

example :
    let after := run plainEnv sample.fresh [.preStart none,
      .resourcesAllocated ⟨"t1", [⟨"a"⟩]⟩ (.ok "token"),
      .taskContainerStateChanged ⟨⟨.running⟩, some ⟨[⟨"10.0.0.5", 9000⟩]⟩, none⟩,
      .taskContainerStateChanged ⟨⟨.terminated⟩, none, some ⟨none⟩⟩]
    CleanedUp after.2 ∧ after.1.state = .terminated ∧
      after.1.exitStatus = some "command exited successfully" := by
  decide

theorem running_reports_leave_route_at_exit :
    let overwritten := (run plainEnv sample.fresh [.preStart none,
      .resourcesAllocated ⟨"t1", [⟨"a"⟩]⟩ (.ok "token"),
      .taskContainerStateChanged ⟨⟨.running⟩, some ⟨[⟨"10.0.0.1", 80⟩]⟩, none⟩,
      .taskContainerStateChanged ⟨⟨.running⟩, some ⟨[]⟩, none⟩,
      .taskContainerStateChanged ⟨⟨.terminated⟩, none, some ⟨none⟩⟩]).2
    let unallocated := (run plainEnv sample.fresh [.preStart none,
      .taskContainerStateChanged ⟨⟨.running⟩, some ⟨[⟨"10.0.0.1", 80⟩]⟩, none⟩,
      .killCommandRequest]).2
    ¬ AtEachEffect RoutesGone World.empty overwritten ∧
      (World.empty.applyAll overwritten).routes = ["t1"] ∧
      ¬ AtEachEffect RoutesGone World.empty unallocated ∧
      (World.empty.applyAll unallocated).routes = ["t1"] := by
  decide

theorem receive_released_of_armed (env : Env) (c : Command) (msg : Msg)
    (armed : ∃ seconds, Effect.notifyAfter seconds ∈ (receive env c msg).2) :
    Effect.resourcesReleased ∈ (receive env c msg).2 ∧
      ∃ status, Effect.publish (.exited status) ∈ (receive env c msg).2 := by
  obtain ⟨seconds, member⟩ := armed
  obtain ⟨before, after, status, calmBefore, calmAfter, shape⟩ := receive_exit_shape env c msg
  rw [shape] at member ⊢
  by_cases exits : msg.exits env c
  · exact ⟨by simp [exits, exit_snd], status, by simp [exits, exit_snd]⟩
  · simp only [exits, Bool.false_eq_true, if_false, List.append_nil, List.mem_append] at member
    rcases member with member | member
    · exact absurd (calmBefore _ member) (by simp [Effect.ofExit])
    · exact absurd (calmAfter _ member) (by simp [Effect.ofExit])

theorem run_released_of_armed (env : Env) (c : Command) (msgs : List Msg)
    (armed : ∃ seconds, Effect.notifyAfter seconds ∈ (run env c msgs).2) :
    Effect.resourcesReleased ∈ (run env c msgs).2 ∧
      ∃ status, Effect.publish (.exited status) ∈ (run env c msgs).2 := by
  induction msgs generalizing c with
  | nil => simp at armed
  | cons msg rest ih =>
      obtain ⟨seconds, member⟩ := armed
      simp only [run_cons, List.mem_append] at member ⊢
      rcases member with now | later
      · obtain ⟨released, status, exited⟩ :=
          receive_released_of_armed env c msg ⟨seconds, now⟩
        exact ⟨.inl released, status, .inl exited⟩
      · obtain ⟨released, status, exited⟩ := ih _ ⟨seconds, later⟩
        exact ⟨.inr released, status, .inr exited⟩

/-- terminateForGC is the message the timer `exit` arms delivers. In every run where it comes
only after a timer was armed, the actor stops only once it has published an ExitedEvent and
sent ResourcesReleased. -/
theorem stops_only_after_exit (env : Env) (c : Command) (msgs : List Msg)
    (timely : ∀ pre post, msgs = pre ++ .terminateForGC :: post →
      ∃ seconds, Effect.notifyAfter seconds ∈ (run env c pre).2) :
    ∀ before after, (run env c msgs).2 = before ++ .stopSelf :: after →
      Effect.resourcesReleased ∈ before ∧
        ∃ status, Effect.publish (.exited status) ∈ before := by
  intro before after split
  obtain ⟨pre, msg, post, rfl, member, prefix_⟩ := run_locate env c _ _ before after split
  obtain rfl := (receive_no_release_request_stop_on_gc env _ msg _ member).2 rfl
  obtain ⟨released, status, exited⟩ := run_released_of_armed env c pre (timely pre post rfl)
  exact ⟨prefix_.subset released, status, prefix_.subset exited⟩

theorem stops_only_after_exit_killed_run :
    let msgs := [.preStart none, .killCommandRequest, .terminateForGC]
    (∀ pre post, msgs = pre ++ .terminateForGC :: post →
      ∃ seconds, Effect.notifyAfter seconds ∈ (run plainEnv sample.fresh pre).2) ∧
    ∀ before after, (run plainEnv sample.fresh msgs).2 = before ++ .stopSelf :: after →
      Effect.resourcesReleased ∈ before ∧
        ∃ status, Effect.publish (.exited status) ∈ before := by
  intro msgs
  have timely : ∀ pre post, msgs = pre ++ .terminateForGC :: post →
      ∃ seconds, Effect.notifyAfter seconds ∈ (run plainEnv sample.fresh pre).2 := by
    intro pre post split
    obtain rfl : pre = [.preStart none, .killCommandRequest] := by
      rcases pre with _ | ⟨a, _ | ⟨b, _ | ⟨d, pre⟩⟩⟩ <;> simp_all [msgs]
    exact ⟨terminatedDuration, by decide⟩
  exact ⟨timely, stops_only_after_exit plainEnv sample.fresh msgs timely⟩

end DeterminedTasks.CommandActor
