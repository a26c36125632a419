import TravelPlanAgent.Library.Interleaving
import TravelPlanAgent.Runs.Records

/-!
# The application service, the run coordinator and the queue

Each definition is a program of atomic steps, one for each await: a call of the repository, a
Redis command or transaction, a section under the lock of the service.

* `ServiceState`: the service processes, their background tasks, the run store and Redis.
* `enqueue`, `dequeue`, `remove`: `RedisRunQueue`.
* `execute`, `reserve`: `RunCoordinator`.
* `createTrip`, `startTripRun`, `backgroundTask`, `getRun`, `getTrace`, `cancelRun`:
  `TravelApplicationService`.
* `workerTurn`: one turn of the loop of a worker; `streamRunEvents`: the event stream.
-/

namespace TravelPlanAgent

open Selection

/-! ## What is shared -/

deriving instance DecidableEq for PlanningRequest

/-- `RunJob`. -/
structure RunJob where
  runId : String
  tripId : String
  threadId : String
  request : PlanningRequest
  principal : Principal
  requestId : Option String
  deriving DecidableEq

/-- `model_dump_json` and `model_validate_json` of a job: a written job is read back. -/
structure JobCodec (β : Type) where
  dump : RunJob → β
  validate : β → Option RunJob
  validate_dump : ∀ job, validate (dump job) = some job

/-- Different jobs are written differently. -/
theorem JobCodec.dump_injective {β : Type} (codec : JobCodec β) :
    Function.Injective codec.dump := by
  intro a b h
  have hread := codec.validate_dump a
  rw [h, codec.validate_dump b] at hread
  exact (Option.some.inj hread).symm

/-- Jobs that are written as themselves. -/
def plainCodec : JobCodec RunJob := ⟨id, some, fun _ => rfl⟩

/-- The list of the queue, its head on the left, and the job keys by the id of their runs. -/
structure Redis (β : Type) where
  list : List β := []
  jobs : String → Option β := fun _ => none

/-- The awaits at which a background task can be suspended. -/
inductive Suspension where
  /-- Created and not started. -/
  | created
  /-- In `repository.get`, before the `try`. -/
  | reading
  /-- In the call. -/
  | calling
  /-- In `_persist`. -/
  | persisting
  | finished
  deriving DecidableEq

/-- An `asyncio.Task`. -/
structure AsyncTask where
  suspendedAt : Suspension := .created
  cancelRequested : Bool := false
  deriving DecidableEq

/-- The memory of a `TravelApplicationService`: `_trips`, and the runs whose task is in `_tasks`. -/
structure ServiceProcess where
  trips : Dict String TripRecord := ∅
  tasks : List String := []

/-- Everything that requests, tasks and workers share.  A background task has the id of its run. -/
structure ServiceState (β : Type) where
  processes : ℕ → ServiceProcess := fun _ => {}
  tasks : String → Option AsyncTask := fun _ => none
  repository : RunRepository := {}
  redis : Redis β := {}

/-- What the event stream sends. -/
inductive StreamFrame where
  | trace (event : TraceEvent)
  | keepAlive
  | end
  deriving DecidableEq

/-- What can be seen of the programs. -/
inductive RunNote (β : Type) where
  /-- A job was put into the list. -/
  | enqueued (payload : β)
  /-- `BRPOP` took a payload. -/
  | popped (payload : β)
  /-- `remove` took the payload of a run. -/
  | removed (payload : β)
  /-- The call of a run was started. -/
  | started (runId : String)
  /-- `cancel_run` stored that a run was cancelled in the queue. -/
  | cancelledInQueue (runId : String)
  /-- A page of a trace was read, before or after its run ended. -/
  | pageRead (page : List TraceEvent) (ended : Bool)
  | sent (frame : StreamFrame)
  deriving DecidableEq

/-- The programs of this component. -/
abbrev Program (β α : Type) := Prog (ServiceState β) (RunNote β) RunError α

variable {β : Type}

namespace ServiceState

/-- A step of the repository, or its error. -/
def storing (s : ServiceState β) (run : RunRepository → Except RunError RunRepository) :
    Except RunError Unit × ServiceState β :=
  match run s.repository with
  | .ok repository => (.ok (), { s with repository })
  | .error error => (.error error, s)

/-- Has the cancellation of a task been requested? -/
def cancelRequested (s : ServiceState β) (task : Option String) : Bool :=
  (task.bind s.tasks).any AsyncTask.cancelRequested

/-- The task goes on to its next await; a requested cancellation has been delivered or missed. -/
def moveTask (s : ServiceState β) (task : Option String) (suspendedAt : Suspension) :
    ServiceState β :=
  match task with
  | none => s
  | some runId =>
    { s with
      tasks := Function.update s.tasks runId (some { suspendedAt, cancelRequested := false }) }

/-- `task.cancel()`: without effect on a finished task. -/
def requestCancel (s : ServiceState β) (runId : String) : ServiceState β :=
  match s.tasks runId with
  | none => s
  | some task =>
    if task.suspendedAt = .finished then s
    else
      { s with
        tasks := Function.update s.tasks runId (some { task with cancelRequested := true }) }

/-- Has the task of a run finished? -/
def taskFinished (s : ServiceState β) (runId : String) : Bool :=
  (s.tasks runId).any fun task => task.suspendedAt = .finished

/-- Has the final record of a run been stored? -/
def runEnded (s : ServiceState β) (runId : String) : Bool :=
  (s.repository.runs.get? runId).any fun record => record.status ≠ .running

/-- Change the memory of a process. -/
def updateProcess (s : ServiceState β) (process : ℕ) (f : ServiceProcess → ServiceProcess) :
    ServiceState β :=
  { s with processes := Function.update s.processes process (f (s.processes process)) }

variable (s : ServiceState β)

@[simp] theorem redis_storing (run : RunRepository → Except RunError RunRepository) :
    (s.storing run).2.redis = s.redis := by
  unfold storing
  split <;> rfl

@[simp] theorem redis_moveTask (task : Option String) (suspendedAt : Suspension) :
    (s.moveTask task suspendedAt).redis = s.redis := by
  unfold moveTask
  split <;> rfl

@[simp] theorem repository_moveTask (task : Option String) (suspendedAt : Suspension) :
    (s.moveTask task suspendedAt).repository = s.repository := by
  unfold moveTask
  split <;> rfl

/-- Storing a final record changes the repository when the run is there. -/
theorem storing_finalize (record : AgentRunRecord) (events : List TraceEvent) :
    (s.storing fun repository => repository.finalize record events).2 = s ∨
      ∃ repository, s.repository.finalize record events = .ok repository ∧
        (s.storing fun repository => repository.finalize record events).2 =
          { s with repository } := by
  unfold storing
  dsimp only
  cases h : s.repository.finalize record events with
  | ok repository => exact .inr ⟨repository, rfl, rfl⟩
  | error => exact .inl rfl

@[simp] theorem redis_requestCancel (runId : String) : (s.requestCancel runId).redis = s.redis := by
  unfold requestCancel
  split
  · rfl
  · split <;> rfl

end ServiceState

/-! ## The queue -/

section Queue

variable (codec : JobCodec β)

/-- `RedisRunQueue.enqueue`: one transaction, unless Redis refuses it. -/
def enqueue (queueError : Option RunError) (job : RunJob) : Program β Unit :=
  match queueError with
  | some error => .read fun _ => .error error
  | none =>
    .perform
      (fun s => (.ok (), { s with redis :=
        { list := codec.dump job :: s.redis.list
          jobs := Function.update s.redis.jobs job.runId (some (codec.dump job)) } }))
      fun _ => [.enqueued (codec.dump job)]

/-- `BRPOP`: the last payload of the list, if there is one before the timeout. -/
def brpop : Program β (Option β) :=
  .perform
    (fun s => (.ok s.redis.list.getLast?,
      { s with redis := { s.redis with list := s.redis.list.dropLast } }))
    fun s => (s.redis.list.getLast?.map RunNote.popped).toList

/-- `DEL` of the job key of a run. -/
def deleteJobKey (runId : String) : Program β Unit :=
  .perform
    (fun s => (.ok (),
      { s with redis := { s.redis with jobs := Function.update s.redis.jobs runId none } }))
    fun _ => []

/-- `RedisRunQueue.dequeue`. -/
def dequeue : Program β (Option RunJob) := do
  match ← brpop with
  | none => return none
  | some payload =>
    match codec.validate payload with
    | none => throw (.raised "pydantic_core" "ValidationError")
    | some job =>
      deleteJobKey job.runId
      return some job

/-- `LREM` of one payload and `DEL` of the job key in one transaction: was a payload removed? -/
def removePayload [DecidableEq β] (runId : String) (payload : β) : Program β Bool :=
  .perform
    (fun s => (.ok (decide (payload ∈ s.redis.list)), { s with redis :=
      { list := s.redis.list.erase payload
        jobs := Function.update s.redis.jobs runId none } }))
    fun s => if payload ∈ s.redis.list then [.removed payload] else []

/-- `RedisRunQueue.remove`. -/
def remove [DecidableEq β] (runId : String) : Program β Bool := do
  match ← (.read fun s => .ok (s.redis.jobs runId) : Program β (Option β)) with
  | none => return false
  | some payload => removePayload runId payload

/-- A job key expires. -/
def expireJobKey (runId : String) : Program β Unit := deleteJobKey runId

end Queue

/-! ## The coordinator -/

/-- The arguments of `RunCoordinator.execute` besides the call, with their defaults. -/
structure ExecuteOptions where
  runId : String
  threadId : Option String := none
  sessionId : Option String := none
  requestId : Option String := none
  parentRunId : Option String := none
  causationId : Option String := none
  tenantId : String := "local"
  userId : String := "demo"
  precreated : Bool := false

/-- What an execution meets: the clock, errors of the repository, what the call traces and ends
with, and whether the final record was committed before a cancellation reached `_persist`. -/
structure Circumstances where
  startedAt : ℤ := 0
  endedAt : ℤ := 0
  findError : Option RunError := none
  getError : Option RunError := none
  createError : Option RunError := none
  persistError : Option RunError := none
  traced : List (TraceEventType × String) := []
  result : Except RunError RunPayload
  lateCancel : Bool := false

/-- An answer, unless there is an error. -/
def unlessError {α : Type} (error : Option RunError) (answer : Except RunError α) :
    Except RunError α :=
  match error with
  | some error => .error error
  | none => answer

/-- `max(0, round((ended - started).total_seconds() * 1000))`. -/
def elapsedMs (startedAt endedAt : ℤ) : ℕ :=
  (roundHalfEven ((endedAt - startedAt : ℚ) / 1000)).toNat

section Coordinator

variable (budget : TraceBudget)

/-- `RunCoordinator.new_record`. -/
def newRecord (kind : RunKind) (options : ExecuteOptions) (replayOfRunId : Option String)
    (startedAt : ℤ) : AgentRunRecord :=
  { runId := options.runId, runKind := kind, status := .running, threadId := options.threadId
    sessionId := options.sessionId, requestId := options.requestId
    parentRunId := options.parentRunId, replayOfRunId, causationId := options.causationId, budget
    startedAt, tenantId := options.tenantId, userId := options.userId }

/-- `RunCoordinator._final_record`. -/
def finalRecord (record : AgentRunRecord) (status : RunStatus) (reason : RunTerminalReason)
    (planVersionId : Option String) (endedAt : ℤ) : AgentRunRecord :=
  { record with
    status, terminalReason := some reason, endedAt := some endedAt
    elapsedMs := some (elapsedMs record.startedAt endedAt), planVersionId }

/-- `RunCoordinator.reserve`. -/
def reserve (kind : RunKind) (options : ExecuteOptions) (circumstances : Circumstances) :
    Program β Unit :=
  .perform
    (fun s =>
      match circumstances.createError with
      | some error => (.error error, s)
      | none => s.storing fun repository => repository.create
          (newRecord budget kind options none circumstances.startedAt))
    fun _ => []

/-- The task is resumed: a requested cancellation is raised, else the awaited answer is there.  It
runs on to the await that the outcome leads to. -/
def resumeTask {α : Type} (task : Option String) (answer : ServiceState β → Except RunError α)
    (arrive : Except RunError α → Suspension) (notes : Except RunError α → List (RunNote β)) :
    Program β α :=
  let outcome (s : ServiceState β) : Except RunError α :=
    if s.cancelRequested task then .error .cancelled else answer s
  .perform (fun s => (outcome s, s.moveTask task (arrive (outcome s)))) fun s => notes (outcome s)

/-- `find_request`, when there is a request id. -/
def findPrevious (options : ExecuteOptions) (circumstances : Circumstances) :
    Program β (Option AgentRunRecord) :=
  match options.requestId with
  | none => pure none
  | some requestId =>
    if requestId = "" then pure none
    else .read fun s => unlessError circumstances.findError
      (.ok (s.repository.findRequest requestId options.sessionId options.threadId))

/-- The record of a run that was reserved and has not ended. -/
def reservedRecord (runId : String) (circumstances : Circumstances) (s : ServiceState β) :
    Except RunError AgentRunRecord :=
  unlessError circumstances.getError do
    let record ← s.repository.get runId
    if record.status ≠ .running then
      throw (.valueError "precreated run is not in running status")
    return record

/-- Open a run that was reserved. -/
def openReserved (task : Option String) (runId : String) (circumstances : Circumstances) :
    Program β AgentRunRecord :=
  resumeTask task (reservedRecord runId circumstances)
    (fun outcome => if outcome.toOption.isSome then .calling else .finished)
    fun outcome => if outcome.toOption.isSome then [.started runId] else []

theorem reservedRecord_eq_ok {runId : String} {circumstances : Circumstances}
    {s : ServiceState β} {record : AgentRunRecord}
    (h : reservedRecord runId circumstances s = .ok record) :
    s.repository.runs.get? runId = some record ∧ record.status = .running := by
  unfold reservedRecord unlessError at h
  split at h
  · cases h
  unfold RunRepository.get at h
  cases hget : s.repository.runs.get? runId with
  | none =>
    rw [hget] at h
    cases h
  | some found =>
    rw [hget] at h
    by_cases hstatus : found.status = .running
    · change (if found.status ≠ .running then _ else _) = _ at h
      rw [if_neg (not_not.mpr hstatus)] at h
      obtain rfl := Except.ok.inj h
      exact ⟨rfl, hstatus⟩
    · change (if found.status ≠ .running then _ else _) = _ at h
      rw [if_pos hstatus] at h
      cases h

/-- The record of a run that was not reserved. -/
def openNew (kind : RunKind) (options : ExecuteOptions) (previous : Option AgentRunRecord)
    (circumstances : Circumstances) : Program β AgentRunRecord := do
  let record := newRecord budget kind options (previous.map AgentRunRecord.runId)
    circumstances.startedAt
  .perform
    (fun s =>
      match circumstances.createError with
      | some error => (.error error, s)
      | none => s.storing fun repository => repository.create record)
    fun _ => [.started options.runId]
  return record

/-- The call ends, or the cancellation of its task does. -/
def endCall (task : Option String) (circumstances : Circumstances) :
    Program β (Except RunError RunPayload) :=
  .perform
    (fun s =>
      (.ok (if s.cancelRequested task then .error .cancelled else circumstances.result),
        s.moveTask task .persisting))
    fun _ => []

/-- `RunCoordinator._persist`.  The task finishes with it. -/
def persistStep (task : Option String) (circumstances : Circumstances) (record : AgentRunRecord)
    (events : List TraceEvent) (s : ServiceState β) : Except RunError Unit × ServiceState β :=
  let (answer, committed) := s.storing fun repository => repository.finalize record events
  if s.cancelRequested task then
    (.error .cancelled, (if circumstances.lateCancel then committed else s).moveTask task .finished)
  else
    match circumstances.persistError with
    | some error => (.error error, s.moveTask task .finished)
    | none => (answer, committed.moveTask task .finished)

/-- `_persist` as a program. -/
def persist (task : Option String) (circumstances : Circumstances) (record : AgentRunRecord)
    (events : List TraceEvent) : Program β Unit :=
  .perform (persistStep task circumstances record events) fun _ => []

/-- The repository after `_persist` is as before or has the final record and its events. -/
theorem repository_persistStep (task : Option String) (circumstances : Circumstances)
    (record : AgentRunRecord) (events : List TraceEvent) (s : ServiceState β) :
    (persistStep task circumstances record events s).2.repository = s.repository ∨
      ∃ repository, s.repository.finalize record events = .ok repository ∧
        (persistStep task circumstances record events s).2.repository = repository := by
  have hcommitted : (s.storing fun repository => repository.finalize record events).2.repository =
      s.repository ∨ ∃ repository, s.repository.finalize record events = .ok repository ∧
        (s.storing fun repository => repository.finalize record events).2.repository =
          repository := by
    obtain heq | ⟨repository, hfinalize, heq⟩ := s.storing_finalize record events
    · exact .inl (by rw [heq])
    · exact .inr ⟨repository, hfinalize, by rw [heq]⟩
  unfold persistStep
  dsimp only
  split
  · rw [ServiceState.repository_moveTask]
    split
    · exact hcommitted
    · exact .inl rfl
  · split
    · exact .inl (s.repository_moveTask _ _)
    · rw [ServiceState.repository_moveTask]
      exact hcommitted

/-- What was traced before the end of a run. -/
def tracedEvents (record : AgentRunRecord) (circumstances : Circumstances) : TraceRecorder :=
  circumstances.traced.foldl (fun trace event => trace.record event.1 event.2 false)
    (({ runId := record.runId, budget := record.budget } : TraceRecorder).record .runStarted
      "running" true)

/-- The final record and the events of a run whose call has returned. -/
def completedRecord (record : AgentRunRecord) (previous : Option AgentRunRecord)
    (circumstances : Circumstances) (payload : RunPayload) : AgentRunRecord × List TraceEvent :=
  let trace := tracedEvents record circumstances
  if previous.isSome then
    (finalRecord record .replayed .idempotentReplay payload.activeVersionId circumstances.endedAt,
      (trace.record .runReplayed "replayed" true).events)
  else
    let (status, reason) := classifyPayload payload
    (finalRecord record status reason payload.activeVersionId circumstances.endedAt,
      (trace.record (if status = .interrupted then .runInterrupted else .runCompleted)
        (if status = .interrupted then "interrupted" else "completed") true).events)

/-- The final record and the events of a run whose call has raised. -/
def failedRecord (record : AgentRunRecord) (circumstances : Circumstances) (error : RunError) :
    AgentRunRecord × List TraceEvent :=
  let trace := tracedEvents record circumstances
  let trace :=
    match error with
    | .budgetExceeded .. => trace.record .budgetExceeded "failed" true
    | _ => trace
  if error = .cancelled then
    (finalRecord record .cancelled (classifyError error) none circumstances.endedAt,
      (trace.record .runCancelled "cancelled" true).events)
  else
    (finalRecord record .failed (classifyError error) none circumstances.endedAt,
      (trace.record .runFailed "failed" true).events)

/-- A final record belongs to the run and its owner, and comes with numbered events. -/
structure Concludes (record final : AgentRunRecord) (events : List TraceEvent) : Prop where
  runId : final.runId = record.runId
  owner : final.owner = record.owner
  requestId : final.requestId = record.requestId
  ended : final.status ≠ .running
  increasing : events.Pairwise fun a b => a.sequence < b.sequence

theorem numbered_tracedEvents (record : AgentRunRecord) (circumstances : Circumstances) :
    (tracedEvents record circumstances).Numbered := by
  unfold tracedEvents
  generalize circumstances.traced = traced
  induction traced using List.reverseRecOn with
  | nil =>
    have hnew : ({ runId := record.runId, budget := record.budget } : TraceRecorder).Numbered := rfl
    exact hnew.record _ _ _
  | append_singleton traced event ih =>
    rw [List.foldl_append]
    exact ih.record _ _ _

theorem concludes_completedRecord (record : AgentRunRecord) (previous : Option AgentRunRecord)
    (circumstances : Circumstances) (payload : RunPayload) :
    Concludes record (completedRecord record previous circumstances payload).1
      (completedRecord record previous circumstances payload).2 := by
  have hnumbered := numbered_tracedEvents record circumstances
  unfold completedRecord
  dsimp only
  split
  · exact ⟨rfl, rfl, rfl, by simp [finalRecord], (hnumbered.record _ _ _).pairwise⟩
  · exact ⟨rfl, rfl, rfl, classifyPayload_ne_running payload, (hnumbered.record _ _ _).pairwise⟩

theorem concludes_failedRecord (record : AgentRunRecord) (circumstances : Circumstances)
    (error : RunError) :
    Concludes record (failedRecord record circumstances error).1
      (failedRecord record circumstances error).2 := by
  have hnumbered : (match error with
      | .budgetExceeded .. =>
        (tracedEvents record circumstances).record .budgetExceeded "failed" true
      | _ => tracedEvents record circumstances).Numbered := by
    split
    · exact (numbered_tracedEvents record circumstances).record _ _ _
    · exact numbered_tracedEvents record circumstances
  unfold failedRecord
  dsimp only
  split
  · exact ⟨rfl, rfl, rfl, by simp [finalRecord], (hnumbered.record _ _ _).pairwise⟩
  · exact ⟨rfl, rfl, rfl, by simp [finalRecord], (hnumbered.record _ _ _).pairwise⟩

/-- The `try` of `RunCoordinator.execute` and what follows it: the call, and the final record. -/
def runCall (task : Option String) (previous : Option AgentRunRecord)
    (circumstances : Circumstances) (record : AgentRunRecord) :
    Program β (RunPayload × AgentRunRecord) := do
  match ← endCall task circumstances with
  | .ok payload =>
    let (completed, events) := completedRecord record previous circumstances payload
    persist task circumstances completed events
    return (payload, completed)
  | .error error =>
    let (failed, events) := failedRecord record circumstances error
    persist task circumstances failed events
    throw error

/-- `RunCoordinator.execute`. -/
def execute (task : Option String) (kind : RunKind) (options : ExecuteOptions)
    (circumstances : Circumstances) : Program β (RunPayload × AgentRunRecord) := do
  let previous ← findPrevious options circumstances
  let record ← if options.precreated then openReserved task options.runId circumstances
    else openNew budget kind options previous circumstances
  runCall task previous circumstances record

end Coordinator

/-! ## The service -/

/-- How a service is set up: the budget of its coordinator, and whether it has a run queue. -/
structure ServiceSetup where
  budget : TraceBudget := {}
  usesQueue : Bool

/-- What a submission meets: a new run id and thread id, and the errors of the queue. -/
structure Submission where
  runId : String
  threadId : String
  circumstances : Circumstances
  queueError : Option RunError := none

/-- `_assert_owner`. -/
def assertOwner (owner principal : Principal) : Except RunError Unit :=
  if owner = principal then .ok () else .error .forbidden

section Service

variable (setup : ServiceSetup) (codec : JobCodec β) (process : ℕ)

/-- `create_trip`, with the new trip id. -/
def createTrip (request : PlanningRequest) (principal : Principal) (tripId : String) :
    Program β TripRecord :=
  let record : TripRecord :=
    { tripId, tenantId := principal.tenantId, userId := principal.userId, request }
  .perform
    (fun s => (.ok record,
      s.updateProcess process fun memory =>
        { memory with trips := memory.trips.set tripId record }))
    fun _ => []

/-- `get_trip`. -/
def getTrip (tripId : String) (principal : Principal) : Program β TripRecord :=
  .read fun s => do
    match (s.processes process).trips.get? tripId with
    | none => throw .notFound
    | some record =>
      assertOwner ⟨record.tenantId, record.userId⟩ principal
      return record

/-- `reserve_plan_run`. -/
def reservePlanRun (principal : Principal) (requestId : Option String) (submission : Submission) :
    Program β Unit :=
  reserve setup.budget .structuredPlan
    { runId := submission.runId, threadId := submission.threadId, requestId
      tenantId := principal.tenantId, userId := principal.userId }
    submission.circumstances

/-- `asyncio.create_task` for the execution of a run. -/
def createTask (runId : String) : Program β Unit :=
  .perform (fun s => (.ok (), { s with tasks := Function.update s.tasks runId (some {}) }))
    fun _ => []

/-- Keep the task of a run in `_tasks`. -/
def registerTask (runId : String) : Program β Unit :=
  .perform
    (fun s => (.ok (),
      s.updateProcess process fun memory => { memory with tasks := runId :: memory.tasks }))
    fun _ => []

/-- `start_trip_run`. -/
def startTripRun (tripId : String) (principal : Principal) (requestId : Option String)
    (submission : Submission) : Program β RunHandle := do
  let trip ← getTrip process tripId principal
  reservePlanRun setup principal requestId submission
  if setup.usesQueue then
    enqueue codec submission.queueError
      { runId := submission.runId, tripId, threadId := submission.threadId
        request := trip.request, principal, requestId }
  else
    createTask submission.runId
    registerTask process submission.runId
  return { runId := submission.runId, tripId, threadId := submission.threadId }

/-- `execute_plan` of a reserved run. -/
def executePlan (task : Option String) (runId threadId : String) (principal : Principal)
    (circumstances : Circumstances) : Program β (RunPayload × AgentRunRecord) :=
  execute setup.budget task .structuredPlan
    { runId, threadId, tenantId := principal.tenantId, userId := principal.userId
      precreated := true }
    circumstances

/-- The task that `start_trip_run` creates, once it is created. -/
def backgroundTask (principal : Principal) (submission : Submission) : Program β RunPayload := do
  .waitFor fun s => (s.tasks submission.runId).isSome
  resumeTask (some submission.runId) (fun _ => .ok ())
    (fun outcome => if outcome.toOption.isSome then .reading else .finished) fun _ => []
  let result ← executePlan setup (some submission.runId) submission.runId submission.threadId
    principal submission.circumstances
  return result.1

/-- `get_run`. -/
def getRun (runId : String) (principal : Principal) : Program β AgentRunRecord := do
  match ← (.read fun s => .ok (s.repository.runs.get? runId) :
      Program β (Option AgentRunRecord)) with
  | some record =>
    .done (assertOwner record.owner principal)
    return record
  | none =>
    let pending ← .read fun s => .ok ((s.processes process).tasks.contains runId)
    if pending then
      let record ← .read fun s => s.repository.get runId
      .done (assertOwner record.owner principal)
      return record
    else throw (.runNotFound runId)

/-- `get_trace`. -/
def getTrace (runId : String) (principal : Principal) (afterSequence limit : ℕ) :
    Program β (List TraceEvent) := do
  let _ ← getRun process runId principal
  let _ ← .read fun s => s.repository.get runId
  .perform (fun s => (.ok (s.repository.trace runId afterSequence limit), s))
    fun s => [.pageRead (s.repository.trace runId afterSequence limit) (s.runEnded runId)]

/-- The record that `cancel_run` stores for a run that was still queued. -/
def cancelledRecord (record : AgentRunRecord) (endedAt : ℤ) : AgentRunRecord :=
  { record with
    status := .cancelled, terminalReason := some .userCancelled, endedAt := some endedAt
    elapsedMs := some (elapsedMs record.startedAt endedAt) }

/-- Store that a run was cancelled in the queue. -/
def finalizeCancelled (runId : String) (record : AgentRunRecord) (circumstances : Circumstances) :
    Program β Unit :=
  let cancelled := cancelledRecord record circumstances.endedAt
  let event : TraceEvent :=
    { runId, sequence := 1, eventType := .runCancelled, status := "cancelled" }
  let finalized (s : ServiceState β) : Except RunError Unit × ServiceState β :=
    match circumstances.persistError with
    | some error => (.error error, s)
    | none => s.storing fun repository => repository.finalize cancelled [event]
  .perform finalized
    fun s => if (finalized s).1.toOption.isSome then [.cancelledInQueue record.runId] else []

/-- `cancel_run`. -/
def cancelRun [DecidableEq β] (runId : String) (principal : Principal)
    (circumstances : Circumstances) : Program β AgentRunRecord := do
  let record ← getRun process runId principal
  if record.status ≠ .running then return record
  else
    let owned ← .perform
      (fun s =>
        (.ok ((s.processes process).tasks.contains runId),
          if (s.processes process).tasks.contains runId then s.requestCancel runId else s))
      fun _ => []
    if owned then
      .waitFor fun s => s.taskFinished runId
      getRun process runId principal
    else
      let removed ← if setup.usesQueue then remove runId else pure false
      if removed then
        finalizeCancelled runId record circumstances
        return cancelledRecord record circumstances.endedAt
      else throw .conflict

/-- One turn of the loop of a worker.  Its exceptions are logged. -/
def workerTurn (circumstances : Circumstances) : Program β Unit := do
  match ← dequeue codec with
  | none => return ()
  | some job =>
    tryCatch
      (do let _ ← executePlan setup none job.runId job.threadId job.principal circumstances)
      fun _ => pure ()

/-! ## The event stream -/

/-- `event: trace` for each event of a page. -/
def sendEvents : List TraceEvent → Program β Unit
  | [] => pure ()
  | event :: rest => do
    .note (.sent (.trace event))
    sendEvents rest

/-- The cursor after a page. -/
def cursorAfter (cursor : ℕ) (page : List TraceEvent) : ℕ :=
  (page.getLast?.map TraceEvent.sequence).getD cursor

/-- `stream_run_events.events`.  After the given number of turns the client is found to be
disconnected. -/
def streamRunEvents (runId : String) (principal : Principal) : ℕ → ℕ → Program β Unit
  | 0, _ => pure ()
  | turns + 1, cursor => do
    let page ← getTrace process runId principal cursor 200
    sendEvents page
    let record ← getRun process runId principal
    if record.status ≠ .running ∧ page = [] then .note (.sent .end)
    else
      if page = [] then .note (.sent .keepAlive)
      streamRunEvents runId principal turns (cursorAfter cursor page)

end Service

end TravelPlanAgent
