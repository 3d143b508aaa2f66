import DeterminedTasks.CommandActor.Step

/-! The readiness event over whole runs: the ServiceReady event comes exactly at the first log
line by which every check has passed, and the map keeps the checks no line has passed yet,
whatever order each range takes. -/

namespace DeterminedTasks.CommandActor

def Msg.containerLog? : Msg → Option ContainerLog
  | .containerLog log => some log
  | _ => none

def allPassed (checks : CheckMap) (logs : List ContainerLog) : Bool :=
  checks.entries.all fun entry => logs.any entry.2

/-- The first line `Lk` of `logs` such that every check is passed by a line among `seen` and
`L1..Lk`. -/
def firstReady (checks : CheckMap) (seen : List ContainerLog) :
    List ContainerLog → Option ContainerLog
  | [] => none
  | line :: rest =>
      if allPassed checks (seen ++ [line]) then some line
      else firstReady checks (seen ++ [line]) rest

theorem firstReady_eq_some_iff (checks : CheckMap) (seen logs : List ContainerLog)
    (line : ContainerLog) :
    firstReady checks seen logs = some line ↔
      ∃ k, logs[k]? = some line ∧ allPassed checks (seen ++ logs.take (k + 1)) ∧
        ∀ j < k, allPassed checks (seen ++ logs.take (j + 1)) = false := by
  induction logs generalizing seen with
  | nil => simp [firstReady]
  | cons head rest ih =>
      by_cases completed : allPassed checks (seen ++ [head])
      · simp only [firstReady, completed, if_true, Option.some.injEq]
        constructor
        · rintro rfl
          exact ⟨0, by simp, by simpa using completed,
            fun j bound => absurd bound (Nat.not_lt_zero j)⟩
        · rintro ⟨k, found, -, before⟩
          cases k with
          | zero => simpa using found
          | succ k => exact absurd completed (by simpa using before 0 (Nat.succ_pos k))
      · simp only [firstReady, completed, Bool.false_eq_true, if_false, ih]
        constructor
        · rintro ⟨k, found, passed, before⟩
          refine ⟨k + 1, by simpa using found, by simpa using passed, fun j bound => ?_⟩
          cases j with
          | zero => simpa using completed
          | succ j => simpa using before j (by omega)
        · rintro ⟨k, found, passed, before⟩
          cases k with
          | zero => simp_all
          | succ k =>
              exact ⟨k, by simpa using found, by simpa using passed,
                fun j bound => by simpa using before (j + 1) (by omega)⟩

theorem allPassed_append (checks : CheckMap) {seen : List ContainerLog} (more : List ContainerLog)
    (passed : allPassed checks seen) : allPassed checks (seen ++ more) := by
  simp only [allPassed, List.all_eq_true, List.any_append, Bool.or_eq_true] at passed ⊢
  exact fun entry member => .inl (passed entry member)

theorem CheckMap.filter_filter (checks : CheckMap)
    (first second : String × ReadinessCheck → Bool) :
    (checks.filter first).filter second =
      checks.filter fun entry => first entry && second entry := by
  ext1
  simp [List.filter_filter, Bool.and_comm]

def pending (checks : CheckMap) (seen : List ContainerLog) : CheckMap :=
  checks.filter fun entry => !seen.any entry.2

theorem pending_nil (checks : CheckMap) : pending checks [] = checks := by
  ext1
  simp [pending]

theorem pending_snoc (checks : CheckMap) (seen : List ContainerLog) (line : ContainerLog) :
    (pending checks seen).filter (fun entry => !entry.2 line) =
      pending checks (seen ++ [line]) := by
  simp only [pending, CheckMap.filter_filter, List.any_append, List.any_cons, List.any_nil,
    Bool.or_false, Bool.not_or]

theorem pending_isEmpty (checks : CheckMap) (seen : List ContainerLog) :
    (pending checks seen).entries.isEmpty = allPassed checks seen := by
  apply Bool.eq_iff_iff.mpr
  simp [pending, allPassed]

theorem pending_of_allPassed (checks : CheckMap) {seen : List ContainerLog}
    (more : List ContainerLog) (passed : allPassed checks seen) :
    pending checks (seen ++ more) = pending checks seen := by
  have empty (seen : List ContainerLog) (passed : allPassed checks seen) :
      (pending checks seen).entries = [] :=
    List.isEmpty_iff.mp ((pending_isEmpty checks seen).trans passed)
  ext1
  rw [empty _ passed, empty _ (allPassed_append checks more passed)]

theorem receive_containerLog (env : Env) (c : Command) (log : ContainerLog) :
    let after := receive env c (.containerLog log)
    after.1.readinessChecks =
        (if c.readinessMessageSent then c.readinessChecks
         else c.readinessChecks.filter fun entry => !entry.2 log) ∧
      after.1.readinessMessageSent = (c.readinessMessageSent ||
        (c.readinessChecks.filter fun entry => !entry.2 log).entries.isEmpty) ∧
      after.2.filterMap Effect.serviceReady? =
        (if !c.readinessMessageSent &&
            (c.readinessChecks.filter fun entry => !entry.2 log).entries.isEmpty
         then [log] else []) := by
  have remaining := readinessChecksPass_remaining c.readinessChecks
    (env.rangeOrder_perm c.readinessChecks.entries) log
  have passed :=
    readinessChecksPass_passed (env.rangeOrder c.readinessChecks.entries) c.readinessChecks log
  rw [remaining] at passed
  simp only [receive, containerLog]
  generalize
    readinessChecksPass (env.rangeOrder c.readinessChecks.entries) c.readinessChecks log = pass
    at remaining passed ⊢
  obtain ⟨left, right⟩ := pass
  simp only at remaining passed
  subst remaining passed
  cases sent : c.readinessMessageSent <;>
    cases (c.readinessChecks.filter fun entry => !entry.2 log).entries.isEmpty <;>
    simp [sent, Effect.serviceReady?]

theorem serviceReady?_of_quiet {effect : Effect} (quiet : effect.quiet) :
    effect.serviceReady? = none := by
  cases effect
  case publish event => cases event <;> simp_all [Effect.quiet, Effect.serviceReady?]
  all_goals rfl

theorem receive_readiness_of_not_log (env : Env) (c : Command) (msg : Msg)
    (notLog : msg.containerLog? = none) :
    (receive env c msg).1.readinessChecks = c.readinessChecks ∧
      (receive env c msg).1.readinessMessageSent = c.readinessMessageSent ∧
      (receive env c msg).2.filterMap Effect.serviceReady? = [] := by
  have none {effects : List Effect} (quiet : ∀ effect ∈ effects, effect.quiet) :
      effects.filterMap Effect.serviceReady? = [] :=
    List.filterMap_eq_nil_iff.mpr fun effect member => serviceReady?_of_quiet (quiet effect member)
  rcases receive_cases env c msg with ⟨allocateError, rfl⟩ | ⟨grant, session, rfl⟩ |
    ⟨report, rfl⟩ | ⟨log, rfl⟩ | ⟨-, tail, quiet, shape⟩ | ⟨-, -, same, quiet⟩
  · exact ⟨rfl, rfl, none (receive_preStart_quiet env c allocateError)⟩
  · rcases receiveSchedulerMsg_cases c grant session with
      ⟨same, quiet⟩ | ⟨_, _, _, -, -, -, -, shape⟩
    · exact ⟨congrArg Command.readinessChecks same, congrArg Command.readinessMessageSent same,
        none quiet⟩
    · simp [receive, shape, Effect.serviceReady?]
  · rcases taskContainerStateChanged_cases c report with
      ⟨_, -, -, shape⟩ | ⟨_, -, -, shape⟩ | ⟨-, -, shape⟩ | ⟨-, same, quiet⟩
    · simp [receive, shape, Effect.serviceReady?, List.filterMap_append]
    · simp [receive, shape, exit_snd, Effect.serviceReady?, List.filterMap_append]
    · simp [receive, shape, Effect.serviceReady?, List.filterMap_append]
    · exact ⟨by simp [receive, same], by simp [receive, same], none quiet⟩
  · simp [Msg.containerLog?] at notLog
  · rw [shape, List.filterMap_append, none quiet, List.append_nil]
    unfold abortOrKill
    split
    · simp [exit_snd, Effect.serviceReady?]
    · simp [Effect.serviceReady?]
  · rw [same]
    exact ⟨rfl, rfl, none quiet⟩

theorem Msg.eq_containerLog {msg : Msg} {line : ContainerLog}
    (log? : msg.containerLog? = some line) :
    msg = .containerLog line := by
  cases msg <;> simp_all [Msg.containerLog?]

theorem run_readiness (env : Env) (checks : CheckMap) (msgs : List Msg) (c : Command)
    (seen : List ContainerLog) (remaining : c.readinessChecks = pending checks seen)
    (sent : c.readinessMessageSent = (!seen.isEmpty && allPassed checks seen)) :
    (run env c msgs).2.filterMap Effect.serviceReady? =
        (if c.readinessMessageSent then none
         else firstReady checks seen (msgs.filterMap Msg.containerLog?)).toList ∧
      (run env c msgs).1.readinessChecks =
        pending checks (seen ++ msgs.filterMap Msg.containerLog?) := by
  induction msgs generalizing c seen with
  | nil => simp [remaining, firstReady]
  | cons msg rest ih =>
      rw [run_cons, List.filterMap_append]
      cases log? : msg.containerLog? with
      | none =>
          obtain ⟨sameChecks, sameSent, noEvent⟩ := receive_readiness_of_not_log env c msg log?
          obtain ⟨events, final⟩ := ih _ seen (sameChecks.trans remaining) (sameSent.trans sent)
          simp [List.filterMap_cons, log?, noEvent, events, final, sameSent]
      | some line =>
          obtain rfl := Msg.eq_containerLog log?
          obtain ⟨checksAfter, sentAfter, events⟩ := receive_containerLog env c line
          simp only [List.filterMap_cons, Msg.containerLog?]
          have grown : (seen ++ [line]).isEmpty = false := by simp
          cases flag : c.readinessMessageSent
          · have narrowed : (c.readinessChecks.filter fun entry => !entry.2 line) =
                pending checks (seen ++ [line]) := by rw [remaining, pending_snoc]
            simp only [flag, narrowed, pending_isEmpty, Bool.false_eq_true, if_false, Bool.false_or,
              Bool.not_false, Bool.true_and] at checksAfter sentAfter events
            obtain ⟨laterEvents, final⟩ := ih _ (seen ++ [line]) checksAfter
              (by rw [sentAfter, grown]; rfl)
            rw [events, laterEvents, final, sentAfter]
            cases completed : allPassed checks (seen ++ [line]) <;> simp [firstReady, completed]
          · have passed : allPassed checks seen := by simp_all
            simp only [flag, if_true, Bool.true_or, Bool.not_true, Bool.false_and]
              at checksAfter sentAfter events
            obtain ⟨laterEvents, final⟩ := ih _ (seen ++ [line])
              (by rw [checksAfter, remaining, pending_of_allPassed checks _ passed])
              (by rw [sentAfter, grown, allPassed_append checks _ passed]; rfl)
            rw [events, laterEvents, final, sentAfter]
            simp

/-- The ServiceReady event is emitted once, carrying the first log line `Lk` by which every
check has passed on some line among `L1..Lk`, and never if no such line comes; the map keeps
exactly the checks no line has passed. Stated for every run, so for every prefix: the event
is emitted while `Lk` is processed. -/
theorem readiness_event_at_first_ready_line (env : Env) (c : Command) (msgs : List Msg) :
    (run env c.fresh msgs).2.filterMap Effect.serviceReady? =
        (firstReady c.readinessChecks [] (msgs.filterMap Msg.containerLog?)).toList ∧
      (run env c.fresh msgs).1.readinessChecks =
        c.readinessChecks.filter fun entry => !(msgs.filterMap Msg.containerLog?).any entry.2 := by
  have := run_readiness env c.readinessChecks msgs c.fresh [] (pending_nil _).symm rfl
  simpa [Command.fresh, pending] using this

end DeterminedTasks.CommandActor
