import TravelPlanAgent.Execution.Budget
import TravelPlanAgent.Runs.Records

/-!
# The trace of a run

Nodes, tools and the coordinator record events while a run is executed.  A few places at the end
are kept for the coordinator; an event that finds no place is dropped, and the trace is degraded.

* `TracedEvent`, `EventRecorder`, `EventRecorder.record`: the events and where they are kept.
* `Work`, `Work.run`: what a call does as far as it is traced, with its nodes; `enterNode` and
  `leaveNode` are the two halves of `instrument_node`.
* `executeTraced`: what the coordinator persists.
* `traceIsComplete`: the predicate of the evaluation.
-/

namespace TravelPlanAgent

/-! ## Events -/

/-- The parts of `ExecutionBudget` that a run is held to. -/
structure RunBudget extends LedgerBudget, TraceBudget where
  maxTraceEvents_bounds : 8 ≤ maxTraceEvents ∧ maxTraceEvents ≤ 100000 := by decide
  terminalTraceReserve_bounds :
    2 ≤ terminalTraceReserve ∧ terminalTraceReserve ≤ 100 := by decide

/-- `TraceEvent` with the parent that the evaluation reads.  Every event has an id of its own, for
which its number stands. -/
structure TracedEvent extends TraceEvent where
  parent : Option ℕ := none
  deriving DecidableEq

/-- The types of the events of nodes. -/
def nodeStarted : TraceEventType := .other "node.started"
def nodeCompleted : TraceEventType := .other "node.completed"
def nodeFailed : TraceEventType := .other "node.failed"
def interruptCreated : TraceEventType := .other "interrupt.created"

/-- The type of an event that neither a node nor the coordinator records. -/
structure PlainEventType where
  value : String
  plain : value ∉ ["node.started", "node.completed", "node.failed", "interrupt.created"]

/-- `TraceRecorder`.  The calls are counted for the statements only. -/
structure EventRecorder where
  runId : String
  budget : TraceBudget
  events : List TracedEvent := []
  degradedReasons : List String := []
  degraded : Bool := false
  recordCalls : ℕ := 0

namespace EventRecorder

variable (trace : EventRecorder)

/-- `add_degradation`. -/
def addDegradation (reason : String) : EventRecorder :=
  if trace.degradedReasons.contains reason then trace
  else { trace with degradedReasons := trace.degradedReasons ++ [reason] }

/-- `mark_degraded`. -/
def markDegraded : EventRecorder := { trace with degraded := true }

/-- `record`: the number of the event, unless it is dropped. -/
def record (eventType : TraceEventType) (status : String) (terminal : Bool)
    (parent : Option ℕ) : Option ℕ × EventRecorder :=
  let called := { trace with recordCalls := trace.recordCalls + 1 }
  let normalLimit := trace.budget.maxTraceEvents - trace.budget.terminalTraceReserve
  if ¬terminal ∧ normalLimit ≤ trace.events.length then
    (none, called.markDegraded.addDegradation "trace_event_limit")
  else if trace.budget.maxTraceEvents ≤ trace.events.length then
    (none, called.markDegraded.addDegradation "trace_event_limit")
  else
    let sequence := trace.events.length + 1
    (some sequence, { called with events := trace.events ++
      [{ runId := trace.runId, sequence, eventType, status, parent }] })

/-- The recorder of the events without their parents. -/
def toTraceRecorder : TraceRecorder :=
  { runId := trace.runId, budget := trace.budget, degradedReasons := trace.degradedReasons
    events := trace.events.map TracedEvent.toTraceEvent }

/-- Both recorders keep and drop the same events. -/
theorem toTraceRecorder_record (eventType : TraceEventType) (status : String) (terminal : Bool)
    (parent : Option ℕ) :
    (trace.record eventType status terminal parent).2.toTraceRecorder =
      trace.toTraceRecorder.record eventType status terminal := by
  have hdrop (dropped : EventRecorder) (hruns : dropped.runId = trace.runId)
      (hbudget : dropped.budget = trace.budget) (hevents : dropped.events = trace.events)
      (hreasons : dropped.degradedReasons = trace.degradedReasons) :
      (dropped.addDegradation "trace_event_limit").toTraceRecorder =
        trace.toTraceRecorder.drop := by
    unfold addDegradation TraceRecorder.drop toTraceRecorder
    dsimp only
    rw [← hruns, ← hbudget, ← hevents, ← hreasons]
    split <;> rfl
  have hlength : trace.toTraceRecorder.events.length = trace.events.length := List.length_map _
  have hbudget : trace.toTraceRecorder.budget = trace.budget := rfl
  unfold record TraceRecorder.record
  dsimp only
  rw [hlength, hbudget]
  split
  · exact hdrop _ rfl rfl rfl rfl
  split
  · exact hdrop _ rfl rfl rfl rfl
  · unfold toTraceRecorder
    simp

end EventRecorder

/-! ## Nodes -/

/-- What a node or a call returns, as far as it is read. -/
structure NodeResult extends RunPayload where
  actionFingerprint : Option String := none

/-- The run that nodes are executed in.  A refused interrupt is counted for the statements only:
the ledger refused to count the interrupt of a node whose start is in the trace. -/
structure TracedRun where
  ledger : RunLedger
  trace : EventRecorder
  refusedInterrupts : ℕ := 0

namespace TracedRun

variable (run : TracedRun)

/-- Record an event, and count it. -/
def record (eventType : TraceEventType) (status : String) (terminal : Bool) (parent : Option ℕ) :
    Option ℕ × TracedRun :=
  let (sequence, trace) := run.trace.record eventType status terminal parent
  let ledger := if sequence.isSome then (Metered.noteTraceEvent.outcome run.ledger).2
    else run.ledger
  (sequence, { run with ledger, trace })

/-- Charge the ledger. -/
def charge (operation : Metered Unit) : Except RunError Unit × TracedRun :=
  let (result, ledger) := operation.outcome run.ledger
  (result.mapError fun error => .budgetExceeded error.runId error.limit error.deadline,
    { run with ledger })

end TracedRun

/-- A call of a node, with what its charges read from the clock. -/
structure NodeCall where
  node : String
  terminal : Bool := false
  stepClock : ClockReadings
  repairClock : ClockReadings
  interruptClock : ClockReadings

/-- `_REPAIR_NODES`. -/
def repairNodes : List String :=
  ["apply_local_repair", "apply_soft_repair", "build_local_preview", "build_weather_repair_plan"]

/-- `langgraph.errors.GraphInterrupt`. -/
def graphInterrupt : RunError := .raised "langgraph.errors" "GraphInterrupt"

/-- What `instrument_node` does before the node: the charges, and the event that is the parent of
the one at the end. -/
def enterNode (call : NodeCall) (run : TracedRun) : Except RunError (Option ℕ) × TracedRun :=
  match run.charge (Metered.consumeGraphStep call.stepClock call.terminal) with
  | (.error error, run) => (.error error, run)
  | (.ok (), run) =>
    let charged : Except RunError Unit × TracedRun := if repairNodes.contains call.node
      then run.charge (Metered.consumeRepairRound call.repairClock) else (.ok (), run)
    match charged with
    | (.error error, run) => (.error error, run)
    | (.ok (), run) =>
      let (parent, run) := run.record nodeStarted "started" false none
      (.ok parent, run)

/-- `note_action_fingerprint` for a plan that has a fingerprint. -/
def noteFingerprint (result : NodeResult) (run : TracedRun) : Except RunError Unit × TracedRun :=
  match result.actionFingerprint with
  | some fingerprint =>
    if fingerprint = "" then (.ok (), run)
    else run.charge (Metered.noteActionFingerprint fingerprint)
  | none => (.ok (), run)

/-- `_record_domain_event`. -/
def recordDomainEvent (node : String) (result : NodeResult) (run : TracedRun) :
    Except RunError Unit × TracedRun :=
  if ["validate_candidates", "build_local_preview"].contains node then
    (.ok (), (run.record (.other "validation.completed") (result.status.getD "completed") false
      none).2)
  else if ["build_repair_plan", "compile_soft_repair_plan",
      "build_weather_repair_plan"].contains node then
    match noteFingerprint result run with
    | (.error error, run) => (.error error, run)
    | (.ok (), run) => (.ok (), (run.record (.other "repair.planned") "planned" false none).2)
  else if ["apply_local_repair", "apply_soft_repair"].contains node then
    (.ok (), (run.record (.other "repair.applied") "applied" false none).2)
  else (.ok (), run)

/-- What `instrument_node` does after the node. -/
def leaveNode (call : NodeCall) (parent : Option ℕ) (result : Except RunError NodeResult)
    (run : TracedRun) : Except RunError NodeResult × TracedRun :=
  match result with
  | .ok result =>
    let run := (run.record nodeCompleted "completed" false parent).2
    match recordDomainEvent call.node result run with
    | (.error error, run) => (.error error, run)
    | (.ok (), run) => (.ok result, run)
  | .error error =>
    if error = graphInterrupt then
      match run.charge (Metered.consumeInterrupt call.interruptClock) with
      | (.error refused, run) =>
        (.error refused, { run with
          refusedInterrupts := run.refusedInterrupts + if parent.isSome then 1 else 0 })
      | (.ok (), run) =>
        (.error error, (run.record interruptCreated "interrupted" false parent).2)
    else (.error error, (run.record nodeFailed "failed" false parent).2)

/-- What a call does as far as its trace and its ledger are concerned: it records events, charges
the ledger and runs nodes, and goes on from what they return or raise. -/
inductive Work where
  | done (result : Except RunError NodeResult)
  | event (eventType : PlainEventType) (status : String) (parent : Option ℕ) (rest : Work)
  | charge (call : LedgerCall) (rest : Except RunError Unit → Work)
  | node (call : NodeCall) (body : Work) (rest : Except RunError NodeResult → Work)

/-- Execute a call. -/
def Work.run : Work → TracedRun → Except RunError NodeResult × TracedRun
  | done result, run => (result, run)
  | event eventType status parent rest, run =>
    rest.run (run.record (.other eventType.value) status false parent).2
  | charge call rest, run =>
    let (result, run) := run.charge call.perform
    (rest result).run run
  | node call body rest, run =>
    match enterNode call run with
    | (.error error, run) => (rest (.error error)).run run
    | (.ok parent, run) =>
      let (result, run) := body.run run
      let (result, run) := leaveNode call parent result run
      (rest result).run run

/-! ## The coordinator -/

/-- `TraceStatus`. -/
inductive TraceStatus where
  | complete | degraded
  deriving DecidableEq

/-- What is persisted at the end of a run, as far as its trace is concerned. -/
structure PersistedTrace where
  status : RunStatus
  reason : RunTerminalReason
  traceStatus : TraceStatus
  degradedReasons : List String
  events : List TracedEvent

/-- The part of a final record that is about the trace. -/
def TracedRun.persisted (run : TracedRun) (status : RunStatus) (reason : RunTerminalReason) :
    PersistedTrace :=
  { status, reason, traceStatus := if run.trace.degraded then .degraded else .complete
    degradedReasons := run.trace.degradedReasons, events := run.trace.events }

/-- A run that has been started. -/
def startTraced (runId : String) (budget : RunBudget) (started : ℚ) : TracedRun :=
  let run : TracedRun :=
    { ledger := .start runId budget.toLedgerBudget started
      trace := { runId, budget := budget.toTraceBudget } }
  (run.record .runStarted "running" true none).2

/-- The end of a run whose call has returned.  The sink of the trace may fail. -/
def completeTraced (replayed sinkFails : Bool) (result : NodeResult) (run : TracedRun) :
    TracedRun × RunStatus × RunTerminalReason :=
  let (run, status, reason) :=
    if replayed then
      ((run.record .runReplayed "replayed" true none).2, .replayed, .idempotentReplay)
    else
      let (status, reason) := classifyPayload result.toRunPayload
      let interrupted := decide (status = .interrupted)
      ((run.record (if interrupted then .runInterrupted else .runCompleted)
        (if interrupted then "interrupted" else "completed") true none).2, status, reason)
  let run := if sinkFails
    then { run with trace := (run.trace.addDegradation "trace_sink_failure").markDegraded } else run
  (run, status, reason)

/-- The end of a run whose call has raised. -/
def failTraced (error : RunError) (run : TracedRun) :
    TracedRun × RunStatus × RunTerminalReason :=
  let run := match error with
    | .budgetExceeded .. => (run.record .budgetExceeded "failed" true none).2
    | _ => run
  let cancelled := decide (error = .cancelled)
  ((run.record (if cancelled then .runCancelled else .runFailed)
    (if cancelled then "cancelled" else "failed") true none).2,
    if cancelled then .cancelled else .failed, classifyError error)

/-- A run from its start to its end. -/
def finishTraced (replayed sinkFails : Bool) (work : Work) (run : TracedRun) :
    TracedRun × RunStatus × RunTerminalReason :=
  match work.run run with
  | (.ok result, run) => completeTraced replayed sinkFails result run
  | (.error error, run) => failTraced error run

/-- What `RunCoordinator.execute` persists about a trace. -/
def executeTraced (runId : String) (budget : RunBudget) (started : ℚ) (replayed sinkFails : Bool)
    (work : Work) : PersistedTrace :=
  let (run, status, reason) :=
    finishTraced replayed sinkFails work (startTraced runId budget started)
  run.persisted status reason

/-! ## The evaluation -/

/-- The events that end a run for the evaluation. -/
def evaluatedTerminal : List TraceEventType :=
  [.runCompleted, .runInterrupted, .runFailed, .runReplayed]

/-- The numbers of the nodes that were started. -/
def startedNodes (events : List TracedEvent) : List ℕ :=
  (events.filter fun event => event.eventType = nodeStarted).map fun event => event.sequence

/-- The parents of the events that end a node. -/
def endedParents (events : List TracedEvent) : List (Option ℕ) :=
  (events.filter fun event => event.eventType ∈ [nodeCompleted, nodeFailed, interruptCreated]).map
    TracedEvent.parent

/-- `trace_is_complete`. -/
def traceIsComplete (events : List TracedEvent) : Bool :=
  events ≠ [] ∧
    events.countP (fun event => event.eventType = .runStarted) = 1 ∧
    events.countP (fun event => event.eventType ∈ evaluatedTerminal) = 1 ∧
    events.map (fun event => event.sequence) = List.range' 1 events.length ∧
    ∀ started ∈ startedNodes events, some started ∈ endedParents events

end TravelPlanAgent
