import TravelPlanAgent.Graph.State

/-!
# Runs and their traces

* `Principal`, `AgentRunRecord`, `TraceEvent`: who runs something, what is stored about it, and
  what it traces.
* `RunError`: what leaves an execution; `classifyError`, `classifyPayload`: what a run is said to
  have ended with.
* `TraceRecorder`: the events of a run, numbered from one.
* `RunRepository`: the store of runs; a final record and its events are stored together.
-/

namespace TravelPlanAgent

open Selection

/-! ## Records -/

/-- `Principal`, as far as ownership is decided. -/
structure Principal where
  tenantId : String
  userId : String
  deriving DecidableEq

inductive RunKind where
  | structuredPlan | naturalPlan | clarificationResume | lifecycleCreate
  | lifecycleCreateFromText | lifecycleResume | weatherRefresh
  deriving DecidableEq

inductive RunStatus where
  | running | completed | interrupted | replayed | failed | cancelled
  deriving DecidableEq

inductive RunTerminalReason where
  | planCompleted | businessInfeasible | needsClarification | awaitingCandidateSelection
  | awaitingUserAction | awaitingApproval | requiresNewPlan | idempotentReplay
  | executionBudgetExhausted | deadlineExceeded | externalToolFailure | llmProviderFailure
  | checkpointFailure | repositoryFailure | invalidInternalState | userCancelled
  deriving DecidableEq

/-- The events that the coordinator records itself; the others come from the call. -/
inductive TraceEventType where
  | runStarted | runCompleted | runInterrupted | runFailed | runReplayed | runCancelled
  | budgetExceeded
  | other (value : String)
  deriving DecidableEq

structure TraceEvent where
  runId : String
  sequence : ℕ
  eventType : TraceEventType
  status : String
  deriving DecidableEq

theorem usualTraceReserve_lt : 4 < 512 := by decide

/-- The part of an `ExecutionBudget` that limits a trace. -/
structure TraceBudget where
  maxTraceEvents : ℕ := 512
  terminalTraceReserve : ℕ := 4
  terminalTraceReserve_lt : terminalTraceReserve < maxTraceEvents := by
    first | exact usualTraceReserve_lt | decide
  deriving DecidableEq

/-- `AgentRunRecord`.  Times are microseconds. -/
structure AgentRunRecord where
  runId : String
  runKind : RunKind
  status : RunStatus
  terminalReason : Option RunTerminalReason := none
  threadId : Option String
  sessionId : Option String
  requestId : Option String
  parentRunId : Option String := none
  replayOfRunId : Option String := none
  causationId : Option String := none
  planVersionId : Option String := none
  budget : TraceBudget
  startedAt : ℤ
  endedAt : Option ℤ := none
  elapsedMs : Option ℕ := none
  tenantId : String
  userId : String
  deriving DecidableEq

/-- The principal that a record names. -/
def AgentRunRecord.owner (record : AgentRunRecord) : Principal := ⟨record.tenantId, record.userId⟩

/-- `TripRecord`. -/
structure TripRecord where
  tripId : String
  tenantId : String
  userId : String
  request : PlanningRequest

/-- `RunHandle`; its urls are made from the run id. -/
structure RunHandle where
  runId : String
  tripId : String
  threadId : String
  deriving DecidableEq

/-! ## Errors -/

/-- The exceptions that leave an execution. -/
inductive RunError where
  /-- `asyncio.CancelledError`. -/
  | cancelled
  /-- `ExecutionBudgetExceeded`. -/
  | budgetExceeded (runId limit : String) (deadline : Bool)
  /-- `RunNotFoundError`. -/
  | runNotFound (runId : String)
  /-- `ApplicationNotFoundError`. -/
  | notFound
  /-- `ApplicationForbiddenError`. -/
  | forbidden
  /-- `ApplicationConflictError`. -/
  | conflict
  | valueError (message : String)
  /-- Any other exception, with the module and the name of its class. -/
  | raised (moduleName name : String)
  deriving DecidableEq

/-- The module and the name of the class of an exception. -/
def RunError.typeName : RunError → String × String
  | .cancelled => ("asyncio.exceptions", "CancelledError")
  | .budgetExceeded .. => ("travel_agent.execution.errors", "ExecutionBudgetExceeded")
  | .runNotFound _ => ("travel_agent.execution.errors", "RunNotFoundError")
  | .notFound => ("travel_agent.application.errors", "ApplicationNotFoundError")
  | .forbidden => ("travel_agent.application.errors", "ApplicationForbiddenError")
  | .conflict => ("travel_agent.application.errors", "ApplicationConflictError")
  | .valueError _ => ("builtins", "ValueError")
  | .raised moduleName name => (moduleName, name)

/-- `classify_error`. -/
def classifyError (error : RunError) : RunTerminalReason :=
  match error with
  | .cancelled => .userCancelled
  | .budgetExceeded _ _ deadline =>
    if deadline then .deadlineExceeded else .executionBudgetExhausted
  | _ =>
    let (moduleName, name) := error.typeName
    if textIn "tools" moduleName || name == "WeatherUnavailableError" then .externalToolFailure
    else if ["RequirementUnavailableError", "EditUnavailableError",
        "CriticUnavailableError"].contains name then .llmProviderFailure
    else if textIn "Checkpoint" name then .checkpointFailure
    else if textIn "Lifecycle" name || textIn "Repository" name then .repositoryFailure
    else .invalidInternalState

/-- What the coordinator reads of a response: its status, whether it has an interrupt, and the id
of its active version. -/
structure RunPayload where
  status : Option String
  hasInterrupt : Bool
  activeVersionId : Option String
  deriving DecidableEq

/-- `classify_payload`. -/
def classifyPayload (payload : RunPayload) : RunStatus × RunTerminalReason :=
  if payload.status = some "needs_clarification" ∨
      payload.status = some "needs_requirement_clarification" then
    (.interrupted, .needsClarification)
  else if payload.status = some "awaiting_candidate_selection" then
    (.interrupted, .awaitingCandidateSelection)
  else if payload.status = some "awaiting_change_approval" then (.interrupted, .awaitingApproval)
  else if (payload.status = some "active" ∨ payload.status = some "needs_edit_clarification") ∧
      payload.hasInterrupt then (.interrupted, .awaitingUserAction)
  else if payload.status = some "requires_new_plan" then (.interrupted, .requiresNewPlan)
  else if payload.status = some "infeasible" then (.completed, .businessInfeasible)
  else (.completed, .planCompleted)

theorem classifyPayload_ne_running (payload : RunPayload) :
    (classifyPayload payload).1 ≠ .running := by
  unfold classifyPayload
  split_ifs <;> simp

/-! ## Traces -/

/-- `TraceRecorder`. -/
structure TraceRecorder where
  runId : String
  budget : TraceBudget
  events : List TraceEvent := []
  degradedReasons : List String := []

namespace TraceRecorder

/-- Note that an event was dropped. -/
def drop (trace : TraceRecorder) : TraceRecorder :=
  if trace.degradedReasons.contains "trace_event_limit" then trace
  else { trace with degradedReasons := trace.degradedReasons ++ ["trace_event_limit"] }

/-- `record`. -/
def record (trace : TraceRecorder) (eventType : TraceEventType) (status : String)
    (terminal : Bool) : TraceRecorder :=
  let normalLimit := trace.budget.maxTraceEvents - trace.budget.terminalTraceReserve
  if ¬terminal ∧ normalLimit ≤ trace.events.length then trace.drop
  else if trace.budget.maxTraceEvents ≤ trace.events.length then trace.drop
  else { trace with
    events := trace.events ++
      [{ runId := trace.runId, sequence := trace.events.length + 1, eventType, status }] }

/-- The events of a recorder are numbered from one. -/
def Numbered (trace : TraceRecorder) : Prop :=
  trace.events.map TraceEvent.sequence = List.range' 1 trace.events.length

theorem Numbered.drop {trace : TraceRecorder} (h : trace.Numbered) : trace.drop.Numbered := by
  unfold TraceRecorder.drop
  split
  · exact h
  · exact h

theorem Numbered.record {trace : TraceRecorder} (h : trace.Numbered)
    (eventType : TraceEventType) (status : String) (terminal : Bool) :
    (trace.record eventType status terminal).Numbered := by
  unfold TraceRecorder.record
  dsimp only
  split
  · exact h.drop
  split
  · exact h.drop
  rw [Numbered, List.map_append, h, List.length_append, List.map_singleton, List.length_singleton,
    List.range'_concat, Nat.one_mul, Nat.add_comm 1]

/-- What recording makes of a recorder, whatever is noted about its degradation. -/
inductive Recorded (trace : TraceRecorder) : TraceRecorder → Prop where
  | refl : Recorded trace trace
  | record {after : TraceRecorder} (eventType : TraceEventType) (status : String)
      (terminal : Bool) (h : Recorded trace after) :
      Recorded trace (after.record eventType status terminal)
  | noted {after : TraceRecorder} (reasons : List String) (h : Recorded trace after) :
      Recorded trace { after with degradedReasons := reasons }

theorem Recorded.trans {trace middle after : TraceRecorder} (h : Recorded trace middle)
    (h' : Recorded middle after) : Recorded trace after := by
  induction h' with
  | refl => exact h
  | record eventType status terminal _ ih => exact ih.record eventType status terminal
  | noted reasons _ ih => exact ih.noted reasons

theorem drop_events (trace : TraceRecorder) : trace.drop.events = trace.events := by
  unfold TraceRecorder.drop
  split <;> rfl

/-- Recording only adds events, numbered from the next number on. -/
theorem Recorded.exists_numbers {trace after : TraceRecorder} (h : Recorded trace after) :
    ∃ new, after.events = trace.events ++ new ∧
      new.map TraceEvent.sequence = List.range' (trace.events.length + 1) new.length := by
  induction h with
  | refl => exact ⟨[], (List.append_nil _).symm, rfl⟩
  | @record after eventType status terminal _ ih =>
    obtain ⟨new, hevents, hnumbers⟩ := ih
    unfold TraceRecorder.record
    dsimp only
    split
    · exact ⟨new, (drop_events _).trans hevents, hnumbers⟩
    split
    · exact ⟨new, (drop_events _).trans hevents, hnumbers⟩
    · refine ⟨new ++ [⟨after.runId, after.events.length + 1, eventType, status⟩], ?_, ?_⟩
      · dsimp only
        rw [hevents, List.append_assoc]
      · rw [List.map_append, hnumbers, hevents, List.length_append, List.length_append,
          List.length_singleton, List.range'_concat, Nat.one_mul, Nat.add_right_comm]
        rfl
  | noted reasons _ ih => exact ih

/-- The numbers of such events increase. -/
theorem Numbered.pairwise {trace : TraceRecorder} (h : trace.Numbered) :
    trace.events.Pairwise fun a b => a.sequence < b.sequence := by
  rw [← List.pairwise_map (f := TraceEvent.sequence) (R := (· < ·)), h]
  exact List.pairwise_lt_range'

end TraceRecorder

/-! ## The repository -/

theorem keyed_empty (runId : String) (run : AgentRunRecord)
    (h : (∅ : Dict String AgentRunRecord).get? runId = some run) : run.runId = runId := by
  simp at h

/-- `InMemoryRunRepository`: records are stored under their run ids. -/
structure RunRepository where
  runs : Dict String AgentRunRecord := ∅
  events : Dict String (List TraceEvent) := ∅
  runs_keyed : ∀ runId run, runs.get? runId = some run → run.runId = runId := by
    first | exact keyed_empty | simp

namespace RunRepository

theorem keyed_set {runs : Dict String AgentRunRecord}
    (h : ∀ runId run, runs.get? runId = some run → run.runId = runId) (record : AgentRunRecord) :
    ∀ runId run, (runs.set record.runId record).get? runId = some run → run.runId = runId := by
  intro runId run hget
  rw [Dict.get?_set] at hget
  split at hget
  · next heq => rw [← Option.some.inj hget, heq]
  · exact h runId run hget

variable (repository : RunRepository)

/-- Store a record under its run id. -/
def put (run : AgentRunRecord) : RunRepository :=
  { repository with
    runs := repository.runs.set run.runId run
    runs_keyed := keyed_set repository.runs_keyed run }

theorem get?_put (run : AgentRunRecord) (runId : String) :
    (repository.put run).runs.get? runId =
      if runId = run.runId then some run else repository.runs.get? runId :=
  Dict.get?_set _ _ _ _

/-- `create`. -/
def create (run : AgentRunRecord) : Except RunError RunRepository :=
  if repository.runs.contains run.runId then
    .error (.valueError ("duplicate run_id: " ++ run.runId))
  else .ok (repository.put run)

/-- `finalize`. -/
def finalize (run : AgentRunRecord) (events : List TraceEvent) : Except RunError RunRepository :=
  if repository.runs.contains run.runId then
    .ok { repository.put run with events := repository.events.set run.runId events }
  else .error (.runNotFound run.runId)

/-- `get`. -/
def get (runId : String) : Except RunError AgentRunRecord :=
  match repository.runs.get? runId with
  | some run => .ok run
  | none => .error (.runNotFound runId)

/-- The events of a run, none before it has ended. -/
def eventsOf (runId : String) : List TraceEvent := (repository.events.get? runId).getD []

/-- `trace`, after the run was found. -/
def trace (runId : String) (afterSequence limit : ℕ) : List TraceEvent :=
  ((repository.eventsOf runId).filter fun event => afterSequence < event.sequence).take limit

/-- What `finalize` does to a run that is there. -/
theorem finalize_eq_ok {repository repository' : RunRepository} {run : AgentRunRecord}
    {events : List TraceEvent} (h : repository.finalize run events = .ok repository') :
    repository'.runs = repository.runs.set run.runId run ∧
      repository'.events = repository.events.set run.runId events := by
  unfold finalize at h
  split at h
  · obtain rfl := Except.ok.inj h
    exact ⟨rfl, rfl⟩
  · cases h

/-- What `create` does to a new run. -/
theorem create_eq_ok {repository repository' : RunRepository} {run : AgentRunRecord}
    (h : repository.create run = .ok repository') :
    repository.runs.get? run.runId = none ∧ repository' = repository.put run := by
  unfold create at h
  split at h
  · cases h
  · next hnew =>
    obtain rfl := Except.ok.inj h
    rw [Dict.contains, Bool.not_eq_true, Option.isSome_eq_false_iff, Option.isNone_iff_eq_none]
      at hnew
    exact ⟨hnew, rfl⟩

/-- `find_request`: the last started of the ended runs with this request. -/
def findRequest (requestId : String) (sessionId threadId : Option String) :
    Option AgentRunRecord :=
  firstMin (fun a b => b.startedAt < a.startedAt)
    (repository.runs.values.filter fun run =>
      run.requestId = some requestId ∧ run.status ≠ .running ∧
        (sessionId = none ∨ run.sessionId = sessionId) ∧
        (threadId = none ∨ run.threadId = threadId))

end RunRepository

end TravelPlanAgent
