import DeterminedTasks.CommandActor.Step
import Mathlib.Data.List.Chain

/-! The order of `State()` along runs whose container reports arrive in progression order. The
container snapshot outranks `exitStatus`, so a report arriving after an abort before
allocation moves the state back from Terminated. -/

namespace DeterminedTasks.CommandActor

def Msg.reportedState? : Msg → Option ContainerState
  | .taskContainerStateChanged report => some report.container.state
  | _ => none

def ReportsInOrder (msgs : List Msg) : Prop :=
  (msgs.filterMap Msg.reportedState?).Chain' fun earlier later => earlier.rank ≤ later.rank

def states (env : Env) : Command → List Msg → List Command
  | c, [] => [c]
  | c, msg :: rest => c :: states env (receive env c msg).1 rest

theorem state_rank_of_container {c : Command} {container : Container}
    (reported : c.container = some container) : c.state.rank = container.state.rank := by
  unfold Command.state
  rw [reported]
  obtain ⟨state⟩ := container
  cases state <;> rfl

theorem state_of_no_container {c : Command} (unreported : c.container = none) :
    c.state = if c.exitStatus.isSome then .terminated else .pending := by
  unfold Command.state
  rw [unreported]
  cases c.exitStatus <;> rfl

theorem receive_container_of_report (env : Env) (c : Command) (report : TaskContainerStateChanged) :
    (receive env c (.taskContainerStateChanged report)).1.container = some report.container := by
  rcases taskContainerStateChanged_cases c report with
    ⟨_, -, -, shape⟩ | ⟨_, -, -, shape⟩ | ⟨-, -, shape⟩ | ⟨-, shape, -⟩ <;>
    simp [receive, shape]

theorem receive_container_of_not_report (env : Env) (c : Command) {msg : Msg}
    (notReport : msg.reportedState? = none) : (receive env c msg).1.container = c.container := by
  rcases receive_cases env c msg with ⟨_, rfl⟩ | ⟨grant, session, rfl⟩ | ⟨_, rfl⟩ |
    ⟨log, rfl⟩ | ⟨-, _, -, shape⟩ | ⟨-, -, same, -⟩
  · rfl
  · rcases receiveSchedulerMsg_cases c grant session with
      ⟨same, -⟩ | ⟨_, _, _, -, -, -, -, shape⟩
    · simp [receive, same]
    · simp [receive, shape]
  · simp [Msg.reportedState?] at notReport
  · exact (containerLog_sameLifecycle env c log).container
  · rw [shape]
    unfold abortOrKill
    split <;> rfl
  · rw [same]

theorem receive_exitStatus_isSome (env : Env) {c : Command} (msg : Msg)
    (exited : c.exitStatus.isSome) : (receive env c msg).1.exitStatus.isSome := by
  rcases receive_cases env c msg with ⟨_, rfl⟩ | ⟨grant, session, rfl⟩ | ⟨report, rfl⟩ |
    ⟨log, rfl⟩ | ⟨-, _, -, shape⟩ | ⟨-, -, same, -⟩
  · exact exited
  · rcases receiveSchedulerMsg_cases c grant session with
      ⟨same, -⟩ | ⟨_, _, _, -, -, -, -, shape⟩
    · simpa [receive, same] using exited
    · simpa [receive, shape] using exited
  · rcases taskContainerStateChanged_cases c report with
      ⟨_, -, -, shape⟩ | ⟨_, -, -, shape⟩ | ⟨-, -, shape⟩ | ⟨-, shape, -⟩ <;>
      simp [receive, shape, exited]
  · exact (containerLog_sameLifecycle env c log).exitStatus ▸ exited
  · rw [shape]
    unfold abortOrKill
    split
    · rfl
    · exact exited
  · rwa [same]

def ReportsFrom (c : Command) (msgs : List Msg) : Prop :=
  ((c.container.map Container.state).toList ++ msgs.filterMap Msg.reportedState?).Chain'
    fun earlier later => earlier.rank ≤ later.rank

theorem Msg.eq_report {msg : Msg} {state : ContainerState}
    (reported : msg.reportedState? = some state) :
    ∃ report : TaskContainerStateChanged, msg = .taskContainerStateChanged report ∧
      report.container.state = state := by
  cases msg <;> simp_all [Msg.reportedState?]

theorem reportsFrom_receive (env : Env) {c : Command} {msg : Msg} {rest : List Msg}
    (ordered : ReportsFrom c (msg :: rest)) : ReportsFrom (receive env c msg).1 rest := by
  cases reported : msg.reportedState? with
  | none =>
      unfold ReportsFrom at ordered ⊢
      rwa [receive_container_of_not_report env c reported, ← List.filterMap_cons_none reported]
  | some state =>
      obtain ⟨report, rfl, reportedState⟩ := Msg.eq_report reported
      unfold ReportsFrom at ordered ⊢
      rw [receive_container_of_report, Option.map_some', Option.toList_some, reportedState,
        List.singleton_append]
      rw [List.filterMap_cons_some reported] at ordered
      generalize c.container.map Container.state = last at ordered
      rcases last with _ | last
      · simpa using ordered
      · exact (List.chain'_cons.mp (by simpa using ordered)).2

theorem reportsFrom_run (env : Env) {c : Command} (pre post : List Msg)
    (ordered : ReportsFrom c (pre ++ post)) : ReportsFrom (run env c pre).1 post := by
  induction pre generalizing c with
  | nil => exact ordered
  | cons msg rest ih => exact ih (reportsFrom_receive env ordered)

theorem state_of_terminated {c : Command}
    (terminated : c.container.map Container.state = some .terminated) : c.state = .terminated := by
  rcases known : c.container with _ | ⟨state⟩ <;> simp [known] at terminated
  simp [Command.state, known, terminated]

/-- One step: a report raises the state unless it is the first report after `exit` ran; any
other message keeps the container and can only set `exitStatus`. -/
theorem receive_state_rank (env : Env) {c : Command} {msg : Msg} {rest : List Msg}
    (ordered : ReportsFrom c (msg :: rest)) :
    c.state.rank ≤ (receive env c msg).1.state.rank ∨
      (c.container = none ∧ c.exitStatus.isSome ∧ (receive env c msg).1.container.isSome) := by
  cases reported : msg.reportedState? with
  | none =>
      left
      have same := receive_container_of_not_report env c reported
      rcases known : c.container with _ | container
      · rw [state_of_no_container known, state_of_no_container (same.trans known)]
        cases exited : c.exitStatus.isSome
        · simp [State.rank]
        · simp [receive_exitStatus_isSome env msg exited]
      · rw [state_rank_of_container known, state_rank_of_container (same.trans known)]
  | some state =>
      obtain ⟨report, rfl, reportedState⟩ := Msg.eq_report reported
      rcases known : c.container with _ | container
      · cases exited : c.exitStatus.isSome
        · left
          simp [state_of_no_container known, exited, State.rank]
        · exact .inr ⟨rfl, rfl, by simp [receive_container_of_report]⟩
      · left
        unfold ReportsFrom at ordered
        rw [known, List.filterMap_cons_some reported] at ordered
        rw [state_rank_of_container known,
          state_rank_of_container (receive_container_of_report env c report), reportedState]
        simp only [Option.map_some', Option.toList_some, List.singleton_append,
          List.chain'_cons] at ordered
        exact ordered.1

theorem states_head? (env : Env) (c : Command) (msgs : List Msg) :
    (states env c msgs).head? = some c := by
  cases msgs <;> rfl

theorem states_chain (env : Env) (c : Command) (msgs : List Msg) (ordered : ReportsFrom c msgs) :
    (states env c msgs).Chain' fun before after =>
      before.state.rank ≤ after.state.rank ∨
        (before.container = none ∧ before.exitStatus.isSome ∧ after.container.isSome) := by
  induction msgs generalizing c with
  | nil => exact List.chain'_singleton c
  | cons msg rest ih =>
      refine (ih _ (reportsFrom_receive env ordered)).cons' fun next first => ?_
      rw [states_head?, Option.mem_def, Option.some.injEq] at first
      exact first ▸ receive_state_rank env ordered

theorem states_terminated (env : Env) (c : Command) (msgs : List Msg) (ordered : ReportsFrom c msgs)
    (terminated : c.container.map Container.state = some .terminated) :
    ∀ later ∈ states env c msgs, later.state = .terminated := by
  induction msgs generalizing c with
  | nil => simpa [states] using state_of_terminated terminated
  | cons msg rest ih =>
      intro later member
      rcases List.mem_cons.mp member with rfl | member
      · exact state_of_terminated terminated
      · refine ih _ (reportsFrom_receive env ordered) ?_ later member
        cases reported : msg.reportedState? with
        | none => rwa [receive_container_of_not_report env c reported]
        | some state =>
            obtain ⟨report, rfl, reportedState⟩ := Msg.eq_report reported
            unfold ReportsFrom at ordered
            rw [terminated, List.filterMap_cons_some reported] at ordered
            simp only [Option.toList_some, List.singleton_append, List.chain'_cons] at ordered
            rw [receive_container_of_report, Option.map_some', reportedState,
              ContainerState.eq_terminated_of_rank ordered.1]

/-- Along a run whose reports come in progression order, `State()` never decreases from one
state to the next except at a report arriving while no container is recorded and `exit` has
already run; and once a Terminated report is recorded, `State()` stays Terminated. -/
theorem state_rises_unless_reported_after_abort (env : Env) (c : Command) (msgs : List Msg)
    (ordered : ReportsInOrder msgs) :
    (states env c.fresh msgs).Chain' (fun before after =>
      before.state.rank ≤ after.state.rank ∨
        (before.container = none ∧ before.exitStatus.isSome ∧ after.container.isSome)) ∧
    ∀ pre post, msgs = pre ++ post →
      (run env c.fresh pre).1.container.map Container.state = some .terminated →
      ∀ later ∈ states env (run env c.fresh pre).1 post, later.state = .terminated := by
  have start : ReportsFrom c.fresh msgs := by simpa [ReportsFrom, Command.fresh] using ordered
  refine ⟨states_chain env _ msgs start, fun pre post split terminated => ?_⟩
  subst split
  exact states_terminated env _ post (reportsFrom_run env pre post start) terminated

theorem state_rises_on_granted_run :
    let msgs : List Msg :=
      [.preStart none, .resourcesAllocated ⟨"t1", [⟨"a"⟩]⟩ (.ok "token"),
      .taskContainerStateChanged ⟨⟨.running⟩, some ⟨[]⟩, none⟩, .killCommandRequest,
      .taskContainerStateChanged ⟨⟨.terminated⟩, none, some ⟨none⟩⟩]
    ReportsInOrder msgs ∧
      (states plainEnv sample.fresh msgs).Chain' (fun before after =>
        before.state.rank ≤ after.state.rank ∨
          (before.container = none ∧ before.exitStatus.isSome ∧ after.container.isSome)) ∧
      ∀ pre post, msgs = pre ++ post →
        (run plainEnv sample.fresh pre).1.container.map Container.state = some .terminated →
        ∀ later ∈ states plainEnv (run plainEnv sample.fresh pre).1 post,
          later.state = .terminated :=
  have ordered : ReportsInOrder
      [.preStart none, .resourcesAllocated ⟨"t1", [⟨"a"⟩]⟩ (.ok "token"),
      .taskContainerStateChanged ⟨⟨.running⟩, some ⟨[]⟩, none⟩, .killCommandRequest,
      .taskContainerStateChanged ⟨⟨.terminated⟩, none, some ⟨none⟩⟩] := by
    simp [ReportsInOrder, Msg.reportedState?, ContainerState.rank]
  ⟨ordered, state_rises_unless_reported_after_abort plainEnv sample _ ordered⟩

theorem report_after_abort_lowers_state :
    let aborted := run plainEnv sample.fresh [.preStart none, .killCommandRequest]
    let reported :=
      receive plainEnv aborted.1 (.taskContainerStateChanged ⟨⟨.assigned⟩, none, none⟩)
    ReportsInOrder [.preStart none, .killCommandRequest,
        .taskContainerStateChanged ⟨⟨.assigned⟩, none, none⟩] ∧
      aborted.1.state = .terminated ∧ reported.1.state = .assigned :=
  ⟨by simp [ReportsInOrder, Msg.reportedState?], by decide⟩

end DeterminedTasks.CommandActor
