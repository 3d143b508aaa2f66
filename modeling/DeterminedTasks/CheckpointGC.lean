import DeterminedTasks.Basic

/-! The checkpoint GC task (`checkpointGCTask`): it asks for resources, opens a task session
when they are granted, starts the deletion on every allocation of the grant, and stops once
its container terminates. -/

namespace DeterminedTasks.CheckpointGC

structure CheckpointGCTask where
  experimentID : Int
  gcTensorboards : Bool
  task : Option AllocateRequest
  logs : List ContainerLog

-- A grant carries the replies of `StartTaskSession` and `ExperimentCheckpointsToGCRaw`;
-- PreStart carries the ID `sproto.NewTaskID` draws.
inductive Msg
  | preStart (newTaskID : TaskID)
  | resourcesAllocated (msg : ResourcesAllocated) (session : Except String String)
      (checkpoints : Except String String)
  | releaseResources
  | taskContainerStateChanged (msg : TaskContainerStateChanged)
  | containerLog (msg : ContainerLog)
  | postStop
  | unexpected

def receive (t : CheckpointGCTask) : Msg → CheckpointGCTask × List Effect
  | .preStart newTaskID =>
      let task : AllocateRequest :=
        { id := newTaskID, name := "Checkpoint GC (Experiment " ++ toString t.experimentID ++ ")",
          slotsNeeded := 0, label := "", resourcePool := "", nonPreemptible := true,
          singleAgent := true }
      ({ t with task := some task }, [.allocate task])
  | .resourcesAllocated msg session checkpoints =>
      match session with
      | .error err => (t, [.failed ("cannot start a new task session for a GC task: " ++ err)])
      | .ok taskToken =>
          (t, .startTaskSession msg.id ::
            match checkpoints with
            | .error err => [.failed err]
            | .ok toDelete => msg.allocations.map fun a =>
                .startAllocation a
                  (.gcCheckpoints taskToken t.experimentID toDelete t.gcTensorboards))
  | .releaseResources => (t, [])
  | .taskContainerStateChanged msg =>
      if msg.container.state ≠ .terminated then (t, [])
      else
        match msg.containerStopped with
        | none => (t, [.failed nilDereference])
        | some _ => (t, [.stopSelf])
  | .containerLog msg => ({ t with logs := t.logs ++ [msg] }, [])
  | .postStop =>
      (t, match t.task with
        | some task => [.deleteTaskSession task.id]
        | none => [])
  | .unexpected => (t, [.failed unexpectedMessage])

def run : CheckpointGCTask → List Msg → CheckpointGCTask × List Effect
  | t, [] => (t, [])
  | t, msg :: rest =>
      let current := receive t msg
      let later := run current.1 rest
      (later.1, current.2 ++ later.2)

@[simp] theorem run_nil (t : CheckpointGCTask) : run t [] = (t, []) := rfl

@[simp] theorem run_cons (t : CheckpointGCTask) (msg : Msg) (rest : List Msg) :
    run t (msg :: rest) =
      ((run (receive t msg).1 rest).1, (receive t msg).2 ++ (run (receive t msg).1 rest).2) := rfl

theorem run_append (t : CheckpointGCTask) (first second : List Msg) :
    run t (first ++ second) =
      ((run (run t first).1 second).1, (run t first).2 ++ (run (run t first).1 second).2) := by
  induction first generalizing t with
  | nil => rfl
  | cons msg rest ih => simp [ih]

def sampleTask : CheckpointGCTask := ⟨7, false, none, []⟩

def ofCheckpointGC (experimentID : Int) (gcTensorboards : Bool) : Effect → Bool
  | .allocate _ | .startTaskSession _ | .deleteTaskSession _ | .stopSelf | .failed _ => true
  | .startAllocation _ (.gcCheckpoints _ id _ deleteTensorboards) =>
      id == experimentID && deleteTensorboards == gcTensorboards
  | _ => false

theorem receive_ofCheckpointGC (t : CheckpointGCTask) (msg : Msg) :
    (receive t msg).1.experimentID = t.experimentID ∧
      (receive t msg).1.gcTensorboards = t.gcTensorboards ∧
      ∀ effect ∈ (receive t msg).2, ofCheckpointGC t.experimentID t.gcTensorboards effect := by
  cases msg with
  | resourcesAllocated grant session checkpoints =>
      cases session with
      | error err => exact ⟨rfl, rfl, List.forall_mem_singleton.mpr rfl⟩
      | ok token =>
          refine ⟨rfl, rfl, List.forall_mem_cons.mpr ⟨rfl, ?_⟩⟩
          cases checkpoints with
          | error err => exact List.forall_mem_singleton.mpr rfl
          | ok toDelete => exact List.forall_mem_map.mpr fun _ _ =>
              Bool.and_eq_true_iff.mpr ⟨beq_self_eq_true _, beq_self_eq_true _⟩
  | taskContainerStateChanged report =>
      by_cases running : report.container.state = .terminated
      · cases stopped : report.containerStopped <;>
          simp [receive, running, stopped, ofCheckpointGC]
      · simp [receive, running]
  | postStop => cases owned : t.task <;> simp [receive, owned, ofCheckpointGC]
  | _ => simp [receive, ofCheckpointGC]

/-- Whatever it receives, the GC task never registers a route, publishes an event, releases
resources or arms a timer, and every container it starts deletes checkpoints of its own
experiment. -/
theorem run_ofCheckpointGC (t : CheckpointGCTask) (msgs : List Msg) :
    ∀ effect ∈ (run t msgs).2, ofCheckpointGC t.experimentID t.gcTensorboards effect := by
  induction msgs generalizing t with
  | nil => simp
  | cons msg rest ih =>
      obtain ⟨experiment, tensorboards, step⟩ := receive_ofCheckpointGC t msg
      intro effect member
      rcases List.mem_append.mp member with now | later
      · exact step effect now
      · simpa only [experiment, tensorboards] using ih _ effect later

theorem run_ofCheckpointGC_granted :
    let start := Effect.startAllocation ⟨"a"⟩ (.gcCheckpoints "token" 7 "[]" false)
    start ∈ (run sampleTask [.preStart "gc-1",
        .resourcesAllocated ⟨"gc-1", [⟨"a"⟩]⟩ (.ok "token") (.ok "[]")]).2 ∧
      ofCheckpointGC 7 false start :=
  ⟨by decide, run_ofCheckpointGC sampleTask
    [.preStart "gc-1", .resourcesAllocated ⟨"gc-1", [⟨"a"⟩]⟩ (.ok "token") (.ok "[]")] _
    (by decide)⟩

def Msg.containerLog? : Msg → Option ContainerLog
  | .containerLog msg => some msg
  | _ => none

def Msg.newTaskID? : Msg → Option TaskID
  | .preStart newTaskID => some newTaskID
  | _ => none

def Msg.stopsTask : Msg → Bool
  | .taskContainerStateChanged msg =>
      msg.container.state == .terminated && msg.containerStopped.isSome
  | _ => false

theorem receive_history (t : CheckpointGCTask) (msg : Msg) :
    (receive t msg).1.logs = t.logs ++ msg.containerLog?.toList ∧
      (receive t msg).1.task.map (·.id) = msg.newTaskID?.or (t.task.map (·.id)) ∧
      (receive t msg).2.count .stopSelf = if msg.stopsTask then 1 else 0 := by
  cases msg with
  | resourcesAllocated grant session checkpoints =>
      simp only [receive, Msg.containerLog?, Msg.newTaskID?, Msg.stopsTask]
      split
      · simp
      · split <;> simp [List.count_eq_zero]
  | taskContainerStateChanged report =>
      simp only [receive, Msg.containerLog?, Msg.newTaskID?, Msg.stopsTask]
      split
      · simp_all
      · split <;> simp_all
  | postStop =>
      simp only [receive, Msg.containerLog?, Msg.newTaskID?, Msg.stopsTask]
      split <;> simp
  | _ => simp [receive, Msg.containerLog?, Msg.newTaskID?, Msg.stopsTask]

/-- The GC task keeps every log line it receives, in order, to print them if the job fails;
its task ID is the one the last PreStart drew; and it stops itself once for every Terminated
report carrying its stop record and on nothing else, ReleaseResources included. -/
theorem logs_task_and_stops_follow_history (t : CheckpointGCTask) (msgs : List Msg) :
    (run t msgs).1.logs = t.logs ++ msgs.filterMap Msg.containerLog? ∧
      (run t msgs).1.task.map (·.id) =
        (msgs.filterMap Msg.newTaskID?).getLast?.or (t.task.map (·.id)) ∧
      (run t msgs).2.count .stopSelf = msgs.countP Msg.stopsTask := by
  induction msgs generalizing t with
  | nil => simp
  | cons msg rest ih =>
      obtain ⟨logs, task, stops⟩ := receive_history t msg
      obtain ⟨laterLogs, laterTask, laterStops⟩ := ih (receive t msg).1
      refine ⟨?_, ?_, ?_⟩
      · rw [run_cons, laterLogs, logs, List.append_assoc]
        rcases logged : msg.containerLog? <;> simp [List.filterMap_cons, logged]
      · rw [run_cons, laterTask, task]
        rcases drawn : msg.newTaskID? with _ | id <;>
          rcases last : (rest.filterMap Msg.newTaskID?).getLast? with _ | final <;>
          simp [List.filterMap_cons, List.getLast?_cons, drawn, last]
      · rw [run_cons, List.count_append, laterStops, stops, List.countP_cons]
        omega

def Msg.betweenStartAndStop : Msg → Bool
  | .preStart _ | .postStop => false
  | _ => true

def Msg.openedSession? : Msg → Option TaskID
  | .resourcesAllocated msg (.ok _) _ => some msg.id
  | _ => none

theorem receive_task {t : CheckpointGCTask} {msg : Msg} (between : msg.betweenStartAndStop) :
    (receive t msg).1.task = t.task := by
  cases msg with
  | preStart | postStop => simp [Msg.betweenStartAndStop] at between
  | resourcesAllocated grant session => cases session <;> rfl
  | taskContainerStateChanged report =>
      simp only [receive]
      split
      · rfl
      · split <;> rfl
  | _ => rfl

theorem receive_sessions (world : World) {t : CheckpointGCTask} {msg : Msg}
    (between : msg.betweenStartAndStop) :
    (world.applyAll (receive t msg).2).sessions = msg.openedSession?.toList ++ world.sessions := by
  cases msg with
  | resourcesAllocated grant session checkpoints =>
      cases session with
      | error => rfl
      | ok token =>
          simp only [receive, Msg.openedSession?, Option.toList_some, World.applyAll_cons,
            World.apply]
          split
          · rfl
          · rw [World.applyAll_fixed]
            · rfl
            · simp only [List.mem_map]
              rintro _ ⟨_, -, rfl⟩ _
              rfl
  | taskContainerStateChanged report =>
      simp only [receive]
      split
      · rfl
      · split <;> rfl
  | preStart | postStop => simp [Msg.betweenStartAndStop] at between
  | _ => rfl

theorem run_sessions (world : World) (t : CheckpointGCTask) {msgs : List Msg}
    (between : ∀ msg ∈ msgs, msg.betweenStartAndStop) :
    (run t msgs).1.task = t.task ∧
      (world.applyAll (run t msgs).2).sessions =
        (msgs.filterMap Msg.openedSession?).reverse ++ world.sessions := by
  induction msgs generalizing t world with
  | nil => simp
  | cons msg rest ih =>
      simp only [List.mem_cons, forall_eq_or_imp] at between
      obtain ⟨task, sessions⟩ :=
        ih (world.applyAll (receive t msg).2) (receive t msg).1 between.2
      refine ⟨task.trans (receive_task between.1), ?_⟩
      rw [run_cons, World.applyAll_append, sessions, receive_sessions world between.1]
      rcases opened : msg.openedSession? with _ | id <;> simp [List.filterMap_cons, opened]

theorem receive_postStop_sessions (world : World) (t : CheckpointGCTask) :
    (world.applyAll (receive t .postStop).2).sessions =
      world.sessions.filter fun id => t.task.all (id != ·.id) := by
  simp only [receive]
  cases t.task <;> simp [World.apply]

/-- After PreStart, any messages but PreStart and PostStop, and PostStop, the sessions left
open are exactly those opened under an ID other than the one PreStart drew: PostStop deletes
only the task's own session, and a grant opens its session under the grant's ID. -/
theorem sessions_left_after_post_stop (t : CheckpointGCTask) (newTaskID : TaskID)
    (middle : List Msg) (between : ∀ msg ∈ middle, msg.betweenStartAndStop) (id : TaskID) :
    id ∈ (World.empty.applyAll
        (run t (.preStart newTaskID :: middle ++ [.postStop])).2).sessions ↔
      id ≠ newTaskID ∧ id ∈ middle.filterMap Msg.openedSession? := by
  obtain ⟨task, sessions⟩ :=
    run_sessions World.empty (receive t (.preStart newTaskID)).1 between
  have allocated : World.empty.applyAll (receive t (.preStart newTaskID)).2 = World.empty := rfl
  rw [List.cons_append, run_cons, run_append, run_cons, run_nil, List.append_nil,
    World.applyAll_append, allocated, World.applyAll_append, receive_postStop_sessions, task,
    sessions]
  simp [receive, World.empty, and_comm]

theorem sessions_left_after_foreign_grant :
    let middle :=
      [.resourcesAllocated ⟨"other", [⟨"a"⟩]⟩ (.ok "token") (.ok "[]"), .releaseResources]
    (∀ msg ∈ middle, msg.betweenStartAndStop) ∧
      ("other" ∈ (World.empty.applyAll
          (run sampleTask (.preStart "gc-1" :: middle ++ [.postStop])).2).sessions ↔
        "other" ≠ "gc-1" ∧ "other" ∈ middle.filterMap Msg.openedSession?) :=
  ⟨by decide, sessions_left_after_post_stop sampleTask "gc-1" _ (by decide) "other"⟩

theorem foreign_grant_session_left_open :
    (World.empty.applyAll (run sampleTask [.preStart "gc-1",
      .resourcesAllocated ⟨"other", [⟨"a"⟩]⟩ (.ok "token") (.ok "[]"),
      .postStop]).2).sessions = ["other"] := by
  decide

end DeterminedTasks.CheckpointGC
