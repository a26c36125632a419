import TravelPlanAgent.Lifecycle.Workflow

/-!
# Sessions and their threads

A session lives in two stores: the record in the repository and the checkpoint of its thread
in the graph.  `resumeLifecycle` is how a request reaches the graph.

* `LifecycleThread`: the checkpointed state and where the thread stands.
* `stepNode`, `runNodes`: one node of a request, and all of them.
* `startLifecycle`, `resumeLifecycle`, `resume`: a new session, and one request.
* `resumeRequirement`: a request while the requirements of the trip are not clear yet.
* `Reachable`: the sessions that any sequence of requests can lead to.
* `runNodes_preserves`, `reachable_preserves`: what every node preserves holds of every
  reachable session.
-/

namespace TravelPlanAgent

variable [Platform]

/-! ## Threads -/

/-- Where a thread stands between two requests: at an interrupt, or at the node that raised. -/
inductive ThreadPosition where
  | interrupted (interruptId : String) (payload : InterruptPayload)
  | stuckAt (node : LifecycleNode)

structure LifecycleThread where
  state : LifecycleState
  position : ThreadPosition

/-- A record and its thread; a session that waits for requirements has no thread yet. -/
structure PlanSession where
  record : PlanSessionRecord
  thread : Option LifecycleThread

/-- The interrupts that a session offers. -/
def PlanSession.pendingInterrupts (session : PlanSession) : List String :=
  match session.thread with
  | some ⟨_, .interrupted interruptId _⟩ => [interruptId]
  | _ => []

/-! ## Running nodes -/

/-- How the graph leaves off: waiting at the next interrupt, or with a failure at a node. -/
inductive RunEnd where
  | paused (record : PlanSessionRecord) (state : LifecycleState) (payload : InterruptPayload)
  | raised (record : PlanSessionRecord) (node : LifecycleNode) (state : LifecycleState)
      (failure : Failure)

def RunEnd.record : RunEnd → PlanSessionRecord
  | .paused record _ _ => record
  | .raised record _ _ _ => record

/-- The record after a node. -/
def NodeOutcome.recordAfter (before : PlanSessionRecord) : NodeOutcome → PlanSessionRecord
  | .goto _ => before
  | .saved record _ => record
  | .savedThenRaised record _ => record

/-- What one node leads to: the next node, or the end of the run. -/
inductive NodeStep where
  | next (record : PlanSessionRecord) (state : LifecycleState) (node : LifecycleNode)
  | ended (runEnd : RunEnd)

def NodeStep.record : NodeStep → PlanSessionRecord
  | .next record _ _ => record
  | .ended runEnd => runEnd.record

/-- Follow the edge out of a node. -/
def followEdge (record : PlanSessionRecord) (node : LifecycleNode)
    (before after : LifecycleState) : NodeStep :=
  match nextNode after node with
  | .ok next => .next record after next
  | .error failure => .ended (.raised record node before failure)

/-- Run one node.  A fault of the environment comes before the node does anything. -/
def stepNode (config : LifecycleConfig) (services : LifecycleServices)
    (record : PlanSessionRecord) (state : LifecycleState) (node : LifecycleNode) : NodeStep :=
  match services.fault with
  | some failure => .ended (.raised record node state failure)
  | none =>
    match node with
    | .awaitUserAction =>
      match interruptPayload record state with
      | .ok payload => .ended (.paused record state payload)
      | .error failure => .ended (.raised record .awaitUserAction state failure)
    | node =>
      match execNode config services state record node with
      | .error failure => .ended (.raised record node state failure)
      | .ok (.goto after) => followEdge record node state after
      | .ok (.saved saved after) => followEdge saved node state after
      | .ok (.savedThenRaised saved failure) => .ended (.raised saved node state failure)

/-- Run nodes until the next interrupt; `fuel` is the recursion limit that is left. -/
def runNodes (config : LifecycleConfig) (services : ℕ → LifecycleServices) :
    ℕ → PlanSessionRecord → LifecycleState → LifecycleNode → RunEnd
  | 0, record, state, node => .raised record node state (.runtimeError "recursion limit")
  | fuel + 1, record, state, node =>
    match stepNode config (services fuel) record state node with
    | .ended runEnd => runEnd
    | .next record state node => runNodes config services fuel record state node

/-- `_config(...)["recursion_limit"]`. -/
def recursionLimit : ℕ := 40

/-- The nodes of one request: leave the interrupt, dispatch the action, run on. -/
def runRequest (config : LifecycleConfig) (services : ℕ → LifecycleServices)
    (record : PlanSessionRecord) (state : LifecycleState) (request : LifecycleResumeRequest) :
    RunEnd :=
  match (services recursionLimit).fault, interruptPayload record state with
  | some failure, _ => .raised record .awaitUserAction state failure
  | none, .error failure => .raised record .awaitUserAction state failure
  | none, .ok _ =>
    let resumed := { state with status := record.status }
    match (services (recursionLimit - 1)).fault,
        followEdge record .dispatchAction resumed (dispatchAction resumed request) with
    | some failure, _ => .raised record .dispatchAction resumed failure
    | none, .ended runEnd => runEnd
    | none, .next record state node =>
      runNodes config services (recursionLimit - 2) record state node

/-! ## Sessions -/

/-- How `PlanLifecycleService.resume` answers. -/
inductive ResumeReply where
  /-- From the receipt of an earlier delivery. -/
  | replayed (receipt : ActionReceipt)
  /-- Refused before the graph runs. -/
  | rejected (failure : Failure)
  /-- The graph ran to the next interrupt. -/
  | completed (message : Option String)
  /-- The graph raised. -/
  | raised (failure : Failure)
  deriving DecidableEq

/-- A session after its graph ran. -/
def sessionAfter (interruptId : String) : RunEnd → PlanSession
  | .paused record state payload => ⟨record, some ⟨state, .interrupted interruptId payload⟩⟩
  | .raised record node state _ => ⟨record, some ⟨state, .stuckAt node⟩⟩

def replyOf : RunEnd → ResumeReply
  | .paused _ state _ => .completed state.message
  | .raised _ _ _ failure => .raised failure

/-- The first node of a thread: wait for the user. -/
def startRun (services : LifecycleServices) (record : PlanSessionRecord) : RunEnd :=
  let state := initialLifecycleState record
  match services.fault, interruptPayload record state with
  | some failure, _ => .raised record .awaitUserAction state failure
  | none, .error failure => .raised record .awaitUserAction state failure
  | none, .ok payload => .paused record state payload

/-- `start_lifecycle`. -/
def startLifecycle (services : LifecycleServices) (interruptId : String)
    (record : PlanSessionRecord) : PlanSession :=
  sessionAfter interruptId (startRun services record)

/-- `resume_lifecycle`. -/
def resumeLifecycle (config : LifecycleConfig) (services : ℕ → LifecycleServices)
    (interruptId : String) (session : PlanSession) (request : LifecycleResumeRequest) :
    ResumeReply × PlanSession :=
  match session.record.receipts.get? request.requestId with
  | some receipt => (.replayed receipt, session)
  | none =>
    match session.thread with
    | none => (.rejected .lifecycleNotFound, session)
    | some thread =>
      if request.interruptId ∈ session.pendingInterrupts then
        let runEnd := runRequest config services session.record thread.state request
        (replyOf runEnd, sessionAfter interruptId runEnd)
      else (.rejected (.lifecycleConflict "stale_interrupt"), session)

/-- What the requirement workflow makes of an answer. -/
inductive RequirementOutcome where
  | needsClarification (interruptId : Option String)
  | completed (snapshot : PlanningSnapshot)
  | notCompleted (message : Option String)

/-- The record after an answer; a planning that does not complete is not saved. -/
def clarifiedRecord (session : PlanSessionRecord) (request : LifecycleResumeRequest) :
    RequirementOutcome → Result PlanSessionRecord
  | .needsClarification interruptId =>
    .ok { withReceipt session request none none none with externalInterrupt := interruptId }
  | .completed snapshot =>
    .ok { withReceipt session request none none none with
          snapshot := some snapshot, status := .awaitingCandidateSelection
          externalInterrupt := none }
  | .notCompleted message =>
    .error (.lifecycleAction "planning_not_completed"
      (message.getD "规划没有产生可进入生命周期的候选"))

/-- The checks of `_resume_requirement`, and the answer of the requirement workflow. -/
def answerRequirement (requirements : String → Result RequirementOutcome)
    (session : PlanSessionRecord) (request : LifecycleResumeRequest) :
    Result PlanSessionRecord :=
  match request.action with
  | .clarifyRequirement answer => do
    require (session.externalInterrupt = some request.interruptId)
      (.lifecycleConflict "stale_interrupt")
    clarifiedRecord session request (← requirements answer)
  | _ => .error (.lifecycleAction "invalid_action" "当前正在等待需求澄清")

/-- `_resume_requirement`. -/
def resumeRequirement (requirements : String → Result RequirementOutcome)
    (services : LifecycleServices) (interruptId : String) (session : PlanSession)
    (request : LifecycleResumeRequest) : ResumeReply × PlanSession :=
  match answerRequirement requirements session.record request with
  | .error failure => (.rejected failure, session)
  | .ok record =>
    if record.status = .needsRequirementClarification then
      (.completed none, { session with record })
    else (replyOf (startRun services record), startLifecycle services interruptId record)

/-- `PlanLifecycleService.resume`. -/
def resume (config : LifecycleConfig) (requirements : String → Result RequirementOutcome)
    (services : ℕ → LifecycleServices) (interruptId : String) (session : PlanSession)
    (request : LifecycleResumeRequest) : ResumeReply × PlanSession :=
  match session.record.receipts.get? request.requestId with
  | some receipt => (.replayed receipt, session)
  | none =>
    if session.record.status = .needsRequirementClarification then
      resumeRequirement requirements (services recursionLimit) interruptId session request
    else resumeLifecycle config services interruptId session request

/-- The sessions that the service creates: from a planning that completed, or from one that
still asks for requirements. -/
inductive Created : PlanSession → Prop where
  | planned (sessionId : String) (snapshot : PlanningSnapshot) (services : LifecycleServices)
      (interruptId : String) :
      Created (startLifecycle services interruptId
        (.created sessionId .awaitingCandidateSelection (some snapshot) none))
  | clarifying (sessionId : String) (externalInterrupt : Option String) :
      Created ⟨.created sessionId .needsRequirementClarification none externalInterrupt, none⟩

/-- The sessions that any sequence of requests can lead to, whatever the services answer and
whichever requests fail. -/
inductive Reachable (config : LifecycleConfig) : PlanSession → Prop where
  | created {session : PlanSession} : Created session → Reachable config session
  | resumed {session : PlanSession} (requirements : String → Result RequirementOutcome)
      (services : ℕ → LifecycleServices) (interruptId : String)
      (request : LifecycleResumeRequest) :
      Reachable config session →
      Reachable config (resume config requirements services interruptId session request).2

/-! ## What nodes preserve -/

section Preservation

variable {config : LifecycleConfig}

omit [Platform] in
@[simp] theorem record_sessionAfter (interruptId : String) (runEnd : RunEnd) :
    (sessionAfter interruptId runEnd).record = runEnd.record := by
  cases runEnd <;> rfl

omit [Platform] in
theorem record_followEdge (record : PlanSessionRecord) (node : LifecycleNode)
    (before after : LifecycleState) : (followEdge record node before after).record = record := by
  unfold followEdge
  split <;> rfl

variable (config) in
/-- A node leaves the record as it is, or as its outcome says. -/
theorem record_stepNode (services : LifecycleServices) (record : PlanSessionRecord)
    (state : LifecycleState) (node : LifecycleNode) :
    (stepNode config services record state node).record = record ∨
      ∃ outcome, execNode config services state record node = .ok outcome ∧
        (stepNode config services record state node).record = outcome.recordAfter record := by
  unfold stepNode
  split
  · exact .inl rfl
  · split
    · split <;> exact .inl rfl
    · split
      · exact .inl rfl
      · exact .inl (record_followEdge ..)
      · next saved after hexec => exact .inr ⟨_, hexec, record_followEdge ..⟩
      · next saved failure hexec => exact .inr ⟨_, hexec, rfl⟩

variable {motive : PlanSessionRecord → Prop}

/-- What every node preserves, a run of nodes preserves. -/
theorem runNodes_preserves
    (step : ∀ services state record node outcome, motive record →
      execNode config services state record node = .ok outcome →
      motive (outcome.recordAfter record))
    (services : ℕ → LifecycleServices) {fuel : ℕ} {record : PlanSessionRecord}
    {state : LifecycleState} {node : LifecycleNode} (h : motive record) :
    motive (runNodes config services fuel record state node).record := by
  induction fuel generalizing record state node with
  | zero => exact h
  | succ fuel ih =>
    have hrecord : motive (stepNode config (services fuel) record state node).record := by
      rcases record_stepNode config (services fuel) record state node with
        heq | ⟨outcome, hexec, heq⟩
      · rw [heq]
        exact h
      · rw [heq]
        exact step _ _ _ _ _ h hexec
    unfold runNodes
    cases hstep : stepNode config (services fuel) record state node with
    | ended runEnd =>
      rw [hstep] at hrecord
      exact hrecord
    | next record' state' node' =>
      rw [hstep] at hrecord
      exact ih hrecord

/-- What every node preserves, a request preserves. -/
theorem runRequest_preserves
    (step : ∀ services state record node outcome, motive record →
      execNode config services state record node = .ok outcome →
      motive (outcome.recordAfter record))
    (services : ℕ → LifecycleServices) {record : PlanSessionRecord} {state : LifecycleState}
    {request : LifecycleResumeRequest} (h : motive record) :
    motive (runRequest config services record state request).record := by
  unfold runRequest
  split
  · exact h
  · exact h
  · have hedge := record_followEdge record .dispatchAction { state with status := record.status }
      (dispatchAction { state with status := record.status } request)
    dsimp only
    split
    · exact h
    · next runEnd _ hended =>
      rw [hended] at hedge
      change runEnd.record = record at hedge
      rw [hedge]
      exact h
    · next record' state' node' _ hnext =>
      rw [hnext] at hedge
      change record' = record at hedge
      rw [hedge]
      exact runNodes_preserves step services h

theorem resumeLifecycle_preserves
    (step : ∀ services state record node outcome, motive record →
      execNode config services state record node = .ok outcome →
      motive (outcome.recordAfter record))
    (services : ℕ → LifecycleServices) (interruptId : String) {session : PlanSession}
    (request : LifecycleResumeRequest) (h : motive session.record) :
    motive (resumeLifecycle config services interruptId session request).2.record := by
  unfold resumeLifecycle
  split
  · exact h
  · split
    · exact h
    · split
      · rw [record_sessionAfter]
        exact runRequest_preserves step services h
      · exact h

omit [Platform] in
theorem record_startLifecycle (services : LifecycleServices) (interruptId : String)
    (record : PlanSessionRecord) :
    (startLifecycle services interruptId record).record = record := by
  unfold startLifecycle startRun
  dsimp only
  split <;> rfl

theorem resume_preserves
    (clarified : ∀ record request outcome record', motive record →
      record.status = .needsRequirementClarification →
      clarifiedRecord record request outcome = .ok record' → motive record')
    (step : ∀ services state record node outcome, motive record →
      execNode config services state record node = .ok outcome →
      motive (outcome.recordAfter record))
    (requirements : String → Result RequirementOutcome) (services : ℕ → LifecycleServices)
    (interruptId : String) {session : PlanSession} (request : LifecycleResumeRequest)
    (h : motive session.record) :
    motive (resume config requirements services interruptId session request).2.record := by
  unfold resume
  split
  · exact h
  · split
    · next hstatus =>
      unfold resumeRequirement
      split
      · exact h
      · next record hanswer =>
        have hrecord : motive record := by
          unfold answerRequirement at hanswer
          split at hanswer
          · obtain ⟨_, -, hanswer⟩ := bind_eq_ok hanswer
            obtain ⟨outcome, -, hanswer⟩ := bind_eq_ok hanswer
            exact clarified _ _ _ _ h hstatus hanswer
          · cases hanswer
        split
        · exact hrecord
        · rw [record_startLifecycle]
          exact hrecord
    · exact resumeLifecycle_preserves step services interruptId request h

omit [Platform] in
theorem Created.record {session : PlanSession} (h : Created session) :
    ∃ sessionId status snapshot externalInterrupt,
      (status = .awaitingCandidateSelection ∨ status = .needsRequirementClarification) ∧
        session.record = .created sessionId status snapshot externalInterrupt := by
  cases h with
  | planned sessionId snapshot services interruptId =>
    exact ⟨sessionId, _, some snapshot, none, .inl rfl, record_startLifecycle ..⟩
  | clarifying sessionId externalInterrupt =>
    exact ⟨sessionId, _, none, externalInterrupt, .inr rfl, rfl⟩

/-- What holds of a created record and is preserved by every node holds of every reachable
session. -/
theorem reachable_preserves
    (created : ∀ sessionId status snapshot externalInterrupt,
      status = .awaitingCandidateSelection ∨ status = .needsRequirementClarification →
      motive (.created sessionId status snapshot externalInterrupt))
    (clarified : ∀ record request outcome record', motive record →
      record.status = .needsRequirementClarification →
      clarifiedRecord record request outcome = .ok record' → motive record')
    (step : ∀ services state record node outcome, motive record →
      execNode config services state record node = .ok outcome →
      motive (outcome.recordAfter record))
    {session : PlanSession} (h : Reachable config session) : motive session.record := by
  induction h with
  | created hcreated =>
    obtain ⟨sessionId, status, snapshot, externalInterrupt, hstatus, hrecord⟩ := hcreated.record
    rw [hrecord]
    exact created _ _ _ _ hstatus
  | resumed requirements services interruptId request _ ih =>
    exact resume_preserves clarified step requirements services interruptId request ih

end Preservation

end TravelPlanAgent
