import TravelPlanAgent.Library.VersionedLog
import TravelPlanAgent.Lifecycle.SessionInvariant
import Mathlib.Logic.Function.Basic

/-!
# Several processes on one session

Processes share the repository, whose `save` compares and sets the revision, and the checkpoint
of the thread.  Each serves one request at a time; the reads and saves of different processes
interleave in any order.

* `ProcessPhase`, `Cluster`: where each process is, and what they share.
* `processMove`: what a process does next.
* `ClusterRun`: every interleaving.
* `ClusterInvariant`: the stored records are counted, receipts come from saves, and a process
  that returns has saved once.
* `exactlyOnce_iff`: a cluster is exactly-once if and only if no request was saved from a record
  that already held its receipt.
* `exists_clusterRun_twice`: two deliveries of one request, both saved.
-/

namespace TravelPlanAgent

variable [Platform]

/-! ## Processes -/

/-- Where a process is with the request that was delivered to it. -/
inductive ProcessPhase where
  | idle
  | received (request : LifecycleResumeRequest)
  /-- No receipt was found; the requirements are not clear yet. -/
  | clarifying (request : LifecycleResumeRequest) (read : PlanSessionRecord)
  /-- No receipt was found. -/
  | checked (request : LifecycleResumeRequest)
  /-- The interrupt was pending; its node runs again, with the answer. -/
  | resuming (request : LifecycleResumeRequest) (state : LifecycleState)
  | atNode (request : LifecycleResumeRequest) (state : LifecycleState) (node : LifecycleNode)
  /-- The node has read the record. -/
  | holding (request : LifecycleResumeRequest) (state : LifecycleState) (node : LifecycleNode)
      (read : PlanSessionRecord)
  | finished (request : LifecycleResumeRequest) (reply : ResumeReply)

/-- A save that succeeded.  It is applied when it stores the receipt of its request; a failed
weather refresh leaves a note instead, and its request raises. -/
structure Commit where
  request : LifecycleResumeRequest
  read : PlanSessionRecord
  written : PlanSessionRecord
  applied : Bool

/-- A process, with the saves of the request that it serves. -/
structure Process where
  phase : ProcessPhase
  committed : List Commit

/-- What the processes share, with the first record and all saves, newest first. -/
structure Cluster where
  initial : PlanSessionRecord
  record : PlanSessionRecord
  thread : Option LifecycleThread
  commits : List Commit
  processes : ℕ → Process

/-- What a process finds outside. -/
structure Environment where
  requirements : String → Result RequirementOutcome
  services : LifecycleServices
  interruptId : String

/-- What a process does next: perhaps a save, and where it leaves the thread and itself. -/
structure Move where
  commit : Option Commit
  thread : Option LifecycleThread
  phase : ProcessPhase

/-! ## Moves -/

/-- Look for a receipt before the graph runs. -/
def checkReceipt (record : PlanSessionRecord) (request : LifecycleResumeRequest) :
    ProcessPhase :=
  match record.receipts.get? request.requestId with
  | some receipt => .finished request (.replayed receipt)
  | none =>
    if record.status = .needsRequirementClarification then .clarifying request record
    else .checked request

/-- Save the answer of the requirement workflow, and start the thread when it has a plan. -/
def clarifyMove (record : PlanSessionRecord) (thread : Option LifecycleThread)
    (request : LifecycleResumeRequest) (read : PlanSessionRecord)
    (answer : Result PlanSessionRecord) : Move :=
  match answer with
  | .error failure => ⟨none, thread, .finished request (.rejected failure)⟩
  | .ok written =>
    let commit : Commit := ⟨request, read, written, true⟩
    let state := initialLifecycleState written
    if record.sessionRevision ≠ read.sessionRevision then
      ⟨none, thread, .finished request (.rejected (.lifecycleConflict "stale_revision"))⟩
    else if written.status = .needsRequirementClarification then
      ⟨some commit, thread, .finished request (.completed none)⟩
    else
      ⟨some commit, some ⟨state, .stuckAt .awaitUserAction⟩,
        .atNode request state .awaitUserAction⟩

/-- Enter the graph through the pending interrupt. -/
def enterThread (thread : Option LifecycleThread) (request : LifecycleResumeRequest) :
    ProcessPhase :=
  match thread with
  | none => .finished request (.rejected .lifecycleNotFound)
  | some ⟨state, .interrupted interruptId _⟩ =>
    if request.interruptId = interruptId then .resuming request state
    else .finished request (.rejected (.lifecycleConflict "stale_interrupt"))
  | some ⟨_, .stuckAt _⟩ => .finished request (.rejected (.lifecycleConflict "stale_interrupt"))

/-- Where the thread and the process are after a node. -/
def afterStep (request : LifecycleResumeRequest) (interruptId : String) :
    NodeStep → LifecycleThread × ProcessPhase
  | .next _ state node => (⟨state, .stuckAt node⟩, .atNode request state node)
  | .ended (.paused _ state payload) =>
    (⟨state, .interrupted interruptId payload⟩, .finished request (.completed state.message))
  | .ended (.raised _ node state failure) =>
    (⟨state, .stuckAt node⟩, .finished request (.raised failure))

def stepMove (commit : Option Commit) (after : LifecycleThread × ProcessPhase) : Move :=
  ⟨commit, some after.1, after.2⟩

/-- Leave the interrupt with the answer and dispatch the action. -/
def resumeMove (environment : Environment) (record : PlanSessionRecord)
    (request : LifecycleResumeRequest) (state : LifecycleState) : Move :=
  stepMove none <| afterStep request environment.interruptId <|
    match environment.services.fault, interruptPayload record state with
    | some failure, _ => .ended (.raised record .awaitUserAction state failure)
    | none, .error failure => .ended (.raised record .awaitUserAction state failure)
    | none, .ok _ =>
      let resumed := { state with status := record.status }
      followEdge record .dispatchAction resumed (dispatchAction resumed request)

/-- What a node is about to save, and whether it stores a receipt. -/
def savedBy (config : LifecycleConfig) (services : LifecycleServices) (state : LifecycleState)
    (read : PlanSessionRecord) (node : LifecycleNode) : Option (PlanSessionRecord × Bool) :=
  if services.fault.isSome ∨ node = .awaitUserAction then none
  else
    match execNode config services state read node with
    | .ok (.saved record _) => some (record, true)
    | .ok (.savedThenRaised record _) => some (record, false)
    | _ => none

/-- Finish a node: save by compare-and-set, then go on. -/
def finishMove (config : LifecycleConfig) (environment : Environment)
    (record : PlanSessionRecord) (request : LifecycleResumeRequest) (state : LifecycleState)
    (node : LifecycleNode) (read : PlanSessionRecord) : Move :=
  let after := afterStep request environment.interruptId
    (stepNode config environment.services read state node)
  match savedBy config environment.services state read node with
  | none => stepMove none after
  | some (written, applied) =>
    if record.sessionRevision = read.sessionRevision then
      stepMove (some ⟨request, read, written, applied⟩) after
    else
      stepMove none (⟨state, .stuckAt node⟩,
        .finished request (.raised (.lifecycleConflict "stale_revision")))

/-- What a process does next. -/
def processMove (config : LifecycleConfig) (environment : Environment)
    (record : PlanSessionRecord) (thread : Option LifecycleThread) : ProcessPhase → Move
  | .idle => ⟨none, thread, .idle⟩
  | .received request => ⟨none, thread, checkReceipt record request⟩
  | .clarifying request read => clarifyMove record thread request read
      (answerRequirement environment.requirements read request)
  | .checked request => ⟨none, thread, enterThread thread request⟩
  | .resuming request state => resumeMove environment record request state
  | .atNode request state node => ⟨none, thread, .holding request state node record⟩
  | .holding request state node read =>
    finishMove config environment record request state node read
  | .finished request reply => ⟨none, thread, .finished request reply⟩

/-! ## Clusters -/

namespace Cluster

/-- Idle processes on a session. -/
def start (session : PlanSession) : Cluster :=
  ⟨session.record, session.record, session.thread, [], fun _ => ⟨.idle, []⟩⟩

/-- Deliver a request to a process. -/
def deliver (cluster : Cluster) (i : ℕ) (request : LifecycleResumeRequest) : Cluster :=
  { cluster with processes := Function.update cluster.processes i ⟨.received request, []⟩ }

/-- Carry out the move of a process. -/
def apply (cluster : Cluster) (i : ℕ) (move : Move) : Cluster :=
  { cluster with
    record := (move.commit.map Commit.written).getD cluster.record
    thread := move.thread
    commits := move.commit.toList ++ cluster.commits
    processes := Function.update cluster.processes i
      ⟨move.phase, move.commit.toList ++ (cluster.processes i).committed⟩ }

/-- Let a process move. -/
def advance (config : LifecycleConfig) (environment : Environment) (cluster : Cluster) (i : ℕ) :
    Cluster :=
  cluster.apply i
    (processMove config environment cluster.record cluster.thread (cluster.processes i).phase)

/-- Every record that was stored, newest first. -/
def stored (cluster : Cluster) : List PlanSessionRecord :=
  cluster.commits.map Commit.written ++ [cluster.initial]

end Cluster

/-- A process that serves no request. -/
def ProcessPhase.isFree : ProcessPhase → Bool
  | .idle => true
  | .finished _ _ => true
  | _ => false

/-- Every interleaving of any processes with any requests, from a created session. -/
inductive ClusterRun (config : LifecycleConfig) : Cluster → Prop where
  | start {session : PlanSession} : Created session → ClusterRun config (.start session)
  | deliver {cluster : Cluster} (i : ℕ) (request : LifecycleResumeRequest) :
      ClusterRun config cluster → (cluster.processes i).phase.isFree = true →
      ClusterRun config (cluster.deliver i request)
  | advance {cluster : Cluster} (i : ℕ) (environment : Environment) :
      ClusterRun config cluster → ClusterRun config (cluster.advance config environment i)

/-! ## What should hold -/

/-- A save stores the receipt of its request, with the revision that it leads to. -/
def Commit.Carries (commit : Commit) : Prop :=
  ∃ receipt : ActionReceipt, receipt.requestId = commit.request.requestId ∧
    receipt.resultingRevision = commit.written.sessionRevision ∧
    commit.written.receipts = commit.read.receipts.set commit.request.requestId receipt

/-- The saves that apply a request. -/
def Cluster.appliedBy (cluster : Cluster) (requestId : String) : List Commit :=
  cluster.commits.filter fun commit =>
    commit.applied && decide (commit.request.requestId = requestId)

/-- Requests are atomic and applied exactly once. -/
structure ExactlyOnce (cluster : Cluster) : Prop where
  /-- Each save was computed from the record right before it. -/
  reads : cluster.commits.map Commit.read = cluster.stored.tail
  revisions : ∀ commit ∈ cluster.commits,
    commit.written.sessionRevision = commit.read.sessionRevision + 1
  /-- A request that returns has saved one record, with its receipt. -/
  completed : ∀ i request message,
    (cluster.processes i).phase = .finished request (.completed message) →
    ∃ commit ∈ cluster.commits, (cluster.processes i).committed = [commit] ∧
      commit.request = request ∧ commit.Carries
  /-- A request that is answered from a receipt changes nothing. -/
  replayed : ∀ i request receipt,
    (cluster.processes i).phase = .finished request (.replayed receipt) →
    (cluster.processes i).committed = [] ∧
      ∃ record ∈ cluster.stored, record.receipts.get? request.requestId = some receipt
  atMostOnce : ∀ requestId, (cluster.appliedBy requestId).length ≤ 1

/-- No request was saved from a record that already held its receipt. -/
def SavesFresh (cluster : Cluster) : Prop :=
  ∀ commit ∈ cluster.commits, commit.applied = true →
    commit.read.receipts.get? commit.request.requestId = none

/-! ## The invariant -/

/-- The one save of a request that is on its way back. -/
def Returns (request : LifecycleResumeRequest) (committed : List Commit) : Prop :=
  ∃ commit, committed = [commit] ∧ commit.request = request ∧ commit.applied = true

/-- Before its save a request runs through nodes that act; after it, only the user is awaited. -/
def NodeOk (request : LifecycleResumeRequest) (state : LifecycleState) (node : LifecycleNode)
    (committed : List Commit) : Prop :=
  (node ≠ .awaitUserAction ∧ state.action = some request ∧ committed = []) ∨
    (node = .awaitUserAction ∧ Returns request committed)

def ReplyOk (stored : List PlanSessionRecord) (request : LifecycleResumeRequest)
    (committed : List Commit) : ResumeReply → Prop
  | .completed _ => Returns request committed
  | .replayed receipt => committed = [] ∧
      ∃ record ∈ stored, record.receipts.get? request.requestId = some receipt
  | .rejected _ => True
  | .raised _ => True

/-- What a process knows in each phase. -/
def PhaseOk (stored : List PlanSessionRecord) (committed : List Commit) : ProcessPhase → Prop
  | .idle => True
  | .received _ => committed = []
  | .clarifying _ read => committed = [] ∧ read ∈ stored
  | .checked _ => committed = []
  | .resuming _ _ => committed = []
  | .atNode request state node => NodeOk request state node committed
  | .holding request state node read => NodeOk request state node committed ∧ read ∈ stored
  | .finished request reply => ReplyOk stored request committed reply

/-- What holds of every cluster. -/
structure ClusterInvariant (cluster : Cluster) : Prop where
  counted : VersionedLog.Counted PlanSessionRecord.sessionRevision cluster.stored
  current : cluster.stored.head? = some cluster.record
  reads : cluster.commits.map Commit.read = cluster.stored.tail
  revisions : ∀ commit ∈ cluster.commits,
    commit.written.sessionRevision = commit.read.sessionRevision + 1
  receipts : ∀ requestId, cluster.record.receipts.get? requestId = none ↔
    cluster.appliedBy requestId = []
  carries : ∀ commit ∈ cluster.commits, commit.applied = true → commit.Carries
  known : ∀ i, ∀ commit ∈ (cluster.processes i).committed, commit ∈ cluster.commits
  phases : ∀ i, PhaseOk cluster.stored (cluster.processes i).committed
    (cluster.processes i).phase

/-- A move saves over the record that is current, and leaves its process in order. -/
structure MoveOk (cluster : Cluster) (committed : List Commit) (move : Move) : Prop where
  read : ∀ commit ∈ move.commit, commit.read = cluster.record
  revision : ∀ commit ∈ move.commit,
    commit.written.sessionRevision = commit.read.sessionRevision + 1
  carries : ∀ commit ∈ move.commit, commit.applied = true → commit.Carries
  notes : ∀ commit ∈ move.commit, commit.applied = false →
    commit.written.receipts = commit.read.receipts
  phase : PhaseOk (move.commit.toList.map Commit.written ++ cluster.stored)
    (move.commit.toList ++ committed) move.phase

section Invariant

variable {config : LifecycleConfig} {cluster : Cluster} {request : LifecycleResumeRequest}
  {state : LifecycleState} {node : LifecycleNode} {read : PlanSessionRecord}
  {committed : List Commit}

omit [Platform] in
/-- What a process knows stays true when more records are stored. -/
theorem PhaseOk.mono {stored stored' : List PlanSessionRecord} {phase : ProcessPhase}
    (h : PhaseOk stored committed phase) (hsub : stored ⊆ stored') :
    PhaseOk stored' committed phase := by
  cases phase with
  | idle | received | checked | resuming | atNode => exact h
  | clarifying request read => exact ⟨h.1, hsub h.2⟩
  | holding request state node read => exact ⟨h.1, hsub h.2⟩
  | finished request reply =>
    cases reply with
    | completed | rejected | raised => exact h
    | replayed receipt =>
      obtain ⟨hnone, record, hrecord, hget⟩ := h
      exact ⟨hnone, record, hsub hrecord, hget⟩

omit [Platform] in
/-- A move that saves nothing only has to leave its process in order. -/
theorem moveOk_of_none {thread : Option LifecycleThread} {phase : ProcessPhase}
    (h : PhaseOk cluster.stored committed phase) :
    MoveOk cluster committed ⟨none, thread, phase⟩ where
  read commit hcommit := absurd hcommit (Option.not_mem_none commit)
  revision commit hcommit := absurd hcommit (Option.not_mem_none commit)
  carries commit hcommit := absurd hcommit (Option.not_mem_none commit)
  notes commit hcommit := absurd hcommit (Option.not_mem_none commit)
  phase := h

/-! ## One node -/

/-- A node that saves nothing hands on to a node that acts, answers after its save, or raises. -/
theorem phaseOk_of_savedBy_none {environment : Environment} {stored : List PlanSessionRecord}
    (h : NodeOk request state node committed)
    (hsaved : savedBy config environment.services state read node = none) :
    PhaseOk stored committed (afterStep request environment.interruptId
      (stepNode config environment.services read state node)).2 := by
  unfold stepNode
  cases hfault : environment.services.fault with
  | some failure => exact trivial
  | none =>
    by_cases hawait : node = .awaitUserAction
    · subst hawait
      have hreturns : Returns request committed := by
        rcases h with ⟨hne, -⟩ | ⟨-, hreturns⟩
        · exact absurd rfl hne
        · exact hreturns
      dsimp only
      split
      · exact hreturns
      · exact trivial
    · have hacts : state.action = some request ∧ committed = [] := by
        rcases h with ⟨-, hacts⟩ | ⟨heq, -⟩
        · exact hacts
        · exact absurd heq hawait
      have hnosave : (match execNode config environment.services state read node with
          | .ok (.saved record _) => some (record, true)
          | .ok (.savedThenRaised record _) => some (record, false)
          | _ => none) = none := by
        unfold savedBy at hsaved
        rwa [if_neg (by rw [hfault]; simpa using hawait)] at hsaved
      dsimp only
      split
      · exact absurd rfl hawait
      · next acting _ =>
        split
        · exact trivial
        · next after hexec =>
          cases nodeEffect_execNode hexec with
          | goto _ same goesOn =>
            unfold followEdge
            split
            · next next hnext =>
              refine .inl ⟨?_, same.trans hacts.1, hacts.2⟩
              rintro rfl
              exact goesOn hnext
            · exact trivial
        · next hexec => rw [hexec] at hnosave; cases hnosave
        · next hexec => rw [hexec] at hnosave; cases hnosave

/-- A node that runs goes on as its outcome says. -/
theorem stepNode_of_runs (config : LifecycleConfig) {services : LifecycleServices}
    {node : LifecycleNode} (hfault : services.fault = none) (hnode : node ≠ .awaitUserAction)
    (read : PlanSessionRecord) (state : LifecycleState) :
    stepNode config services read state node =
      match execNode config services state read node with
      | .error failure => .ended (.raised read node state failure)
      | .ok (.goto after) => followEdge read node state after
      | .ok (.saved saved after) => followEdge saved node state after
      | .ok (.savedThenRaised saved failure) => .ended (.raised saved node state failure) := by
  unfold stepNode
  rw [hfault]
  dsimp only
  split
  · exact absurd rfl hnode
  · rfl

/-- A node that saves stores the next revision with the receipt of its request and then waits
for the user, or stores a note and raises. -/
theorem moveOk_of_savedBy_some {environment : Environment} {written : PlanSessionRecord}
    {applied : Bool} (h : NodeOk request state node committed)
    (hread : read = cluster.record)
    (hsaved : savedBy config environment.services state read node = some (written, applied)) :
    MoveOk cluster committed (stepMove (some ⟨request, read, written, applied⟩)
      (afterStep request environment.interruptId
        (stepNode config environment.services read state node))) := by
  unfold savedBy at hsaved
  split at hsaved
  · cases hsaved
  · next hruns =>
    rw [not_or] at hruns
    have hfault : environment.services.fault = none := by
      simpa using hruns.1
    have hacts : state.action = some request ∧ committed = [] := by
      rcases h with ⟨-, hacts⟩ | ⟨heq, -⟩
      · exact hacts
      · exact absurd heq hruns.2
    have hstep := stepNode_of_runs config hfault hruns.2 read state
    split at hsaved
    · next record after hexec =>
      cases hsaved
      rw [hstep, hexec]
      cases nodeEffect_execNode hexec with
      | saved request' plan _ _ action step same waits =>
        obtain rfl : request' = request := Option.some.inj (action.symm.trans hacts.1)
        have hedge : followEdge written node state after =
            .next written after .awaitUserAction := by
          rw [followEdge, waits]
        refine ⟨?_, ?_, ?_, ?_, ?_⟩
        · rintro _ ⟨⟩
          exact hread
        · rintro _ ⟨⟩
          exact same.sessionRevision.trans step.sessionRevision
        · rintro _ ⟨⟩ -
          obtain ⟨receipt, hid, hrevision, hreceipts⟩ := step.receipts
          exact ⟨receipt, hid, hrevision.trans same.sessionRevision.symm,
            same.receipts.trans hreceipts⟩
        · rintro _ ⟨⟩ ⟨⟩
        · dsimp only
          rw [hedge]
          exact .inr ⟨rfl, _, by rw [hacts.2]; rfl, rfl, rfl⟩
    · next record failure hexec =>
      cases hsaved
      rw [hstep, hexec]
      cases nodeEffect_execNode hexec with
      | weatherFailed services code failure =>
        refine ⟨?_, ?_, ?_, ?_, trivial⟩
        · rintro _ ⟨⟩
          exact hread
        · rintro _ ⟨⟩
          rfl
        · rintro _ ⟨⟩ ⟨⟩
        · rintro _ ⟨⟩ -
          rfl
    · cases hsaved

theorem moveOk_finishMove (h : ClusterInvariant cluster) (environment : Environment)
    (hnode : NodeOk request state node committed) (hread : read ∈ cluster.stored) :
    MoveOk cluster committed
      (finishMove config environment cluster.record request state node read) := by
  unfold finishMove
  dsimp only
  split
  · next hsaved => exact moveOk_of_none (phaseOk_of_savedBy_none hnode hsaved)
  · next written applied hsaved =>
    split
    · next hrevision =>
      exact moveOk_of_savedBy_some hnode (h.counted.read_eq h.current hread hrevision) hsaved
    · exact moveOk_of_none trivial

/-! ## The other moves -/

omit [Platform] in
/-- Clarified requirements are the next revision, with the receipt of the answer. -/
theorem clarifiedRecord_eq_ok {session record : PlanSessionRecord} {outcome : RequirementOutcome}
    (h : clarifiedRecord session request outcome = .ok record) :
    record.sessionRevision = session.sessionRevision + 1 ∧
      ∃ receipt : ActionReceipt, receipt.requestId = request.requestId ∧
        receipt.resultingRevision = record.sessionRevision ∧
        record.receipts = session.receipts.set request.requestId receipt := by
  cases outcome <;> cases h <;> exact ⟨rfl, _, rfl, rfl, rfl⟩

omit [Platform] in
theorem exists_of_answerRequirement {requirements : String → Result RequirementOutcome}
    {session record : PlanSessionRecord}
    (h : answerRequirement requirements session request = .ok record) :
    ∃ outcome, clarifiedRecord session request outcome = .ok record := by
  unfold answerRequirement at h
  split at h
  · obtain ⟨_, -, h⟩ := bind_eq_ok h
    obtain ⟨outcome, -, h⟩ := bind_eq_ok h
    exact ⟨outcome, h⟩
  · cases h

omit [Platform] in
theorem moveOk_clarifyMove (h : ClusterInvariant cluster) (environment : Environment)
    (hnone : committed = []) (hread : read ∈ cluster.stored) :
    MoveOk cluster committed (clarifyMove cluster.record cluster.thread request read
      (answerRequirement environment.requirements read request)) := by
  unfold clarifyMove
  split
  · exact moveOk_of_none trivial
  · next written hanswer =>
    obtain ⟨outcome, houtcome⟩ := exists_of_answerRequirement hanswer
    obtain ⟨hrevision, hcarries⟩ := clarifiedRecord_eq_ok houtcome
    dsimp only
    split
    · exact moveOk_of_none trivial
    · next hcurrent =>
      have hread' := h.counted.read_eq h.current hread (not_not.mp hcurrent)
      have hreturns : Returns request ([⟨request, read, written, true⟩] ++ committed) :=
        ⟨_, by rw [hnone]; rfl, rfl, rfl⟩
      split
      all_goals
        refine ⟨?_, ?_, ?_, ?_, ?_⟩
        · rintro _ ⟨⟩
          exact hread'
        · rintro _ ⟨⟩
          exact hrevision
        · rintro _ ⟨⟩ -
          exact hcarries
        · rintro _ ⟨⟩ ⟨⟩
      · exact hreturns
      · exact .inr ⟨rfl, hreturns⟩

omit [Platform] in
theorem phaseOk_checkReceipt {stored : List PlanSessionRecord} {record : PlanSessionRecord}
    (hnone : committed = []) (hrecord : record ∈ stored) :
    PhaseOk stored committed (checkReceipt record request) := by
  unfold checkReceipt
  split
  · next receipt hget => exact ⟨hnone, record, hrecord, hget⟩
  · split
    · exact ⟨hnone, hrecord⟩
    · exact hnone

omit [Platform] in
theorem phaseOk_enterThread {stored : List PlanSessionRecord} {thread : Option LifecycleThread}
    (hnone : committed = []) : PhaseOk stored committed (enterThread thread request) := by
  unfold enterThread
  split
  · exact trivial
  · split
    · exact hnone
    · exact trivial
  · exact trivial

omit [Platform] in
/-- The dispatched action runs with its request in the state. -/
theorem moveOk_resumeMove (environment : Environment) (hnone : committed = []) :
    MoveOk cluster committed (resumeMove environment cluster.record request state) := by
  refine moveOk_of_none ?_
  split
  · exact trivial
  · exact trivial
  · unfold followEdge
    dsimp only
    split
    · next next hnext =>
      refine .inl ⟨?_, rfl, hnone⟩
      rintro rfl
      exact nextNode_dispatchAction_ne _ hnext
    · exact trivial

theorem moveOk_processMove (h : ClusterInvariant cluster) (environment : Environment) (i : ℕ) :
    MoveOk cluster (cluster.processes i).committed
      (processMove config environment cluster.record cluster.thread
        (cluster.processes i).phase) := by
  have hphase := h.phases i
  have hrecord : cluster.record ∈ cluster.stored := List.mem_of_mem_head? h.current
  cases hcase : (cluster.processes i).phase with
  | idle => exact moveOk_of_none trivial
  | received request =>
    rw [hcase] at hphase
    exact moveOk_of_none (phaseOk_checkReceipt hphase hrecord)
  | clarifying request read =>
    rw [hcase] at hphase
    exact moveOk_clarifyMove h environment hphase.1 hphase.2
  | checked request =>
    rw [hcase] at hphase
    exact moveOk_of_none (phaseOk_enterThread hphase)
  | resuming request state =>
    rw [hcase] at hphase
    exact moveOk_resumeMove environment hphase
  | atNode request state node =>
    rw [hcase] at hphase
    exact moveOk_of_none ⟨hphase, hrecord⟩
  | holding request state node read =>
    rw [hcase] at hphase
    exact moveOk_finishMove h environment hphase.1 hphase.2
  | finished request reply =>
    rw [hcase] at hphase
    exact moveOk_of_none hphase

/-! ## Every run -/

omit [Platform] in
theorem clusterInvariant_start {session : PlanSession} (h : Created session) :
    ClusterInvariant (.start session) where
  counted := VersionedLog.counted_singleton _
  current := rfl
  reads := rfl
  revisions _ hmem := absurd hmem List.not_mem_nil
  receipts requestId := by
    obtain ⟨_, _, _, _, -, hrecord⟩ := h.record
    refine ⟨fun _ => rfl, fun _ => ?_⟩
    rw [Cluster.start, hrecord]
    rfl
  carries _ hmem := absurd hmem List.not_mem_nil
  known _ _ hmem := absurd hmem List.not_mem_nil
  phases _ := trivial

omit [Platform] in
/-- A property of all processes, after one of them changed. -/
theorem forall_update {motive : Process → Prop} {processes : ℕ → Process} {i : ℕ}
    {process : Process} (h : ∀ j, motive (processes j)) (hi : motive process) (j : ℕ) :
    motive (Function.update processes i process j) := by
  by_cases hj : j = i
  · rw [hj, Function.update_self]
    exact hi
  · rw [Function.update_of_ne hj]
    exact h j

omit [Platform] in
theorem clusterInvariant_deliver (h : ClusterInvariant cluster) (i : ℕ)
    (request : LifecycleResumeRequest) : ClusterInvariant (cluster.deliver i request) :=
  { h with
    known := forall_update (motive := fun process => ∀ commit ∈ process.committed,
      commit ∈ cluster.commits) h.known fun _ hmem => absurd hmem List.not_mem_nil
    phases := forall_update (motive := fun process => PhaseOk cluster.stored process.committed
      process.phase) h.phases rfl }

omit [Platform] in
/-- The saves of a request, after one more save. -/
theorem appliedBy_cons (cluster : Cluster) (commit : Commit) (requestId : String)
    (record : PlanSessionRecord) (thread : Option LifecycleThread) (processes : ℕ → Process) :
    Cluster.appliedBy
        { cluster with record, thread, commits := commit :: cluster.commits, processes } requestId =
      if commit.applied = true ∧ commit.request.requestId = requestId
        then commit :: cluster.appliedBy requestId else cluster.appliedBy requestId := by
  unfold Cluster.appliedBy
  rw [List.filter_cons]
  simp only [Bool.and_eq_true, decide_eq_true_eq]

omit [Platform] in
/-- After a save its own request has a receipt, and the others have what they had. -/
theorem receipts_of_commit (h : ClusterInvariant cluster) {commit : Commit}
    (hread : commit.read = cluster.record)
    (hcarries : commit.applied = true → commit.Carries)
    (hnotes : commit.applied = false → commit.written.receipts = commit.read.receipts)
    (requestId : String) :
    commit.written.receipts.get? requestId = none ↔
      (if commit.applied = true ∧ commit.request.requestId = requestId
        then commit :: cluster.appliedBy requestId else cluster.appliedBy requestId) = [] := by
  cases happlied : commit.applied with
  | false =>
    rw [hnotes happlied, hread, if_neg (by simp)]
    exact h.receipts requestId
  | true =>
    obtain ⟨receipt, -, -, hreceipts⟩ := hcarries happlied
    rw [hreceipts, hread, Dict.get?_set]
    by_cases hid : commit.request.requestId = requestId
    · rw [if_pos hid.symm, if_pos ⟨rfl, hid⟩]
      exact ⟨nofun, nofun⟩
    · rw [if_neg (Ne.symm hid), if_neg fun hboth => hid hboth.2]
      exact h.receipts requestId

omit [Platform] in
theorem clusterInvariant_apply (h : ClusterInvariant cluster) {i : ℕ} {move : Move}
    (hmove : MoveOk cluster (cluster.processes i).committed move) :
    ClusterInvariant (cluster.apply i move) := by
  obtain ⟨commit, thread, phase⟩ := move
  cases commit with
  | none =>
    exact { h with
      known := forall_update (motive := fun process => ∀ commit ∈ process.committed,
        commit ∈ cluster.commits) h.known (h.known i)
      phases := forall_update (motive := fun process => PhaseOk cluster.stored process.committed
        process.phase) h.phases hmove.phase }
  | some commit =>
    have hread : commit.read = cluster.record := hmove.read commit rfl
    have hrevision := hmove.revision commit rfl
    have hstored : cluster.stored ⊆ commit.written :: cluster.stored :=
      List.subset_cons_self _ _
    exact
      { counted := h.counted.push h.current (hread ▸ hrevision)
        current := rfl
        reads := by
          change commit.read :: cluster.commits.map Commit.read = cluster.stored
          rw [h.reads, hread]
          exact List.cons_head?_tail h.current
        revisions := List.forall_mem_cons.mpr ⟨hrevision, h.revisions⟩
        receipts := fun requestId => by
          refine (receipts_of_commit h hread (hmove.carries commit rfl)
            (hmove.notes commit rfl) requestId).trans ?_
          rw [← appliedBy_cons cluster commit requestId]
          exact Iff.rfl
        carries := List.forall_mem_cons.mpr ⟨hmove.carries commit rfl, h.carries⟩
        known := forall_update (motive := fun process => ∀ other ∈ process.committed,
          other ∈ commit :: cluster.commits)
          (fun j other hother => List.mem_cons_of_mem _ (h.known j other hother))
          (List.forall_mem_cons.mpr ⟨List.mem_cons_self, fun other hother =>
            List.mem_cons_of_mem _ (h.known i other hother)⟩)
        phases := forall_update (motive := fun process =>
          PhaseOk (commit.written :: cluster.stored) process.committed process.phase)
          (fun j => (h.phases j).mono hstored) hmove.phase }

theorem clusterInvariant_of_run (h : ClusterRun config cluster) : ClusterInvariant cluster := by
  induction h with
  | start hcreated => exact clusterInvariant_start hcreated
  | deliver i request _ _ ih => exact clusterInvariant_deliver ih i request
  | advance i environment _ ih =>
    exact clusterInvariant_apply ih (moveOk_processMove ih environment i)

/-! ## Applied once -/

omit [Platform] in
/-- A save applies its request a second time if and only if it was computed from a record that
already held the receipt. -/
theorem atMostOnce_iff_apply (h : ClusterInvariant cluster) {i : ℕ} {move : Move}
    (hmove : MoveOk cluster (cluster.processes i).committed move)
    (hiff : (∀ requestId, (cluster.appliedBy requestId).length ≤ 1) ↔ SavesFresh cluster) :
    (∀ requestId, ((cluster.apply i move).appliedBy requestId).length ≤ 1) ↔
      SavesFresh (cluster.apply i move) := by
  obtain ⟨commit, thread, phase⟩ := move
  cases commit with
  | none => exact hiff
  | some commit =>
    have hread : commit.read = cluster.record := hmove.read commit rfl
    have hfresh : SavesFresh (cluster.apply i ⟨some commit, thread, phase⟩) ↔
        (commit.applied = true → cluster.appliedBy commit.request.requestId = []) ∧
          SavesFresh cluster := by
      rw [← h.receipts, ← hread]
      exact List.forall_mem_cons
    have happlied (requestId : String) :
        (cluster.apply i ⟨some commit, thread, phase⟩).appliedBy requestId =
          if commit.applied = true ∧ commit.request.requestId = requestId
            then commit :: cluster.appliedBy requestId else cluster.appliedBy requestId :=
      appliedBy_cons cluster commit requestId ..
    rw [hfresh, ← hiff]
    constructor
    · intro honce
      refine ⟨fun htrue => ?_, fun requestId => ?_⟩
      · have hown := honce commit.request.requestId
        rw [happlied, if_pos ⟨htrue, rfl⟩, List.length_cons] at hown
        exact List.length_eq_zero_iff.mp (by omega)
      · have hone := honce requestId
        rw [happlied] at hone
        split at hone
        · rw [List.length_cons] at hone
          omega
        · exact hone
    · rintro ⟨hnew, hold⟩ requestId
      rw [happlied]
      split
      · next hboth =>
        rw [← hboth.2, hnew hboth.1]
        exact le_rfl
      · exact hold requestId

theorem atMostOnce_iff (h : ClusterRun config cluster) :
    (∀ requestId, (cluster.appliedBy requestId).length ≤ 1) ↔ SavesFresh cluster := by
  induction h with
  | start hcreated =>
    exact ⟨fun _ _ hmem => absurd hmem List.not_mem_nil, fun _ _ => Nat.zero_le 1⟩
  | deliver i request _ _ ih => exact ih
  | advance i environment hrun ih =>
    have hinv := clusterInvariant_of_run hrun
    exact atMostOnce_iff_apply hinv (moveOk_processMove hinv environment i) ih

/-- In every interleaving no update is lost and a request that returns has saved one record with
its receipt, or was answered from a receipt; and the requests are applied at most once if and
only if none was saved from a record that already held its receipt. -/
theorem exactlyOnce_iff (h : ClusterRun config cluster) :
    ExactlyOnce cluster ↔ SavesFresh cluster := by
  refine ⟨fun honce => (atMostOnce_iff h).mp honce.atMostOnce, fun hfresh => ?_⟩
  have hinv := clusterInvariant_of_run h
  refine ⟨hinv.reads, hinv.revisions, ?_, ?_, (atMostOnce_iff h).mpr hfresh⟩
  · intro i request message hphase
    have hok := hinv.phases i
    rw [hphase] at hok
    obtain ⟨commit, hcommitted, hrequest, happlied⟩ := hok
    have hmem : commit ∈ cluster.commits :=
      hinv.known i commit (by rw [hcommitted]; exact List.mem_singleton_self commit)
    exact ⟨commit, hmem, hcommitted, hrequest, hinv.carries commit hmem happlied⟩
  · intro i request receipt hphase
    have hok := hinv.phases i
    rwa [hphase] at hok

end Invariant

/-! ## Two deliveries of one request -/

namespace Sample

omit [Platform]

def environment (interruptId : String) : Environment :=
  ⟨fun _ => .error .editUnavailable, services, interruptId⟩

/-- Let processes move in this order; the next interrupt has this id. -/
def moves (interruptId : String) (order : List ℕ) (cluster : Cluster) : Cluster :=
  order.foldl (@Cluster.advance plainPlatform config (environment interruptId)) cluster

theorem clusterRun_moves {cluster : Cluster} (h : @ClusterRun plainPlatform config cluster)
    (interruptId : String) (order : List ℕ) :
    @ClusterRun plainPlatform config (moves interruptId order cluster) := by
  induction order generalizing cluster with
  | nil => exact h
  | cons i rest ih => exact ih (@ClusterRun.advance plainPlatform _ _ i (environment interruptId) h)

/-- One process accepts the recommendation of the two-day trip. -/
def acceptedCluster : Cluster :=
  moves "i2" [0, 0, 0, 0, 0, 0, 0]
    ((Cluster.start (startedWith [draft] pois)).deliver 0
      (request "i1" "r1" .acceptRecommendation))

/-- A lock on the first day, sent without an expected revision. -/
def lockRequest : LifecycleResumeRequest := request "i2" "r2" (.lock .day day1.isoformat)

/-- The lock is delivered to one process. -/
def lockedCluster : Cluster :=
  moves "i3" [0, 0, 0, 0, 0, 0, 0] (acceptedCluster.deliver 0 lockRequest)

/-- The lock is delivered to two processes: both look for its receipt, then both save. -/
def lockedTwiceCluster : Cluster :=
  moves "i3" [0, 1, 0, 1, 0, 1, 0, 0, 1, 1]
    ((acceptedCluster.deliver 0 lockRequest).deliver 1 lockRequest)

theorem clusterRun_acceptedCluster : @ClusterRun plainPlatform config acceptedCluster :=
  clusterRun_moves (@ClusterRun.deliver plainPlatform _ _ 0 _
    (@ClusterRun.start plainPlatform _ _ (.planned ..)) rfl) _ _

theorem clusterRun_lockedCluster : @ClusterRun plainPlatform config lockedCluster :=
  clusterRun_moves (@ClusterRun.deliver plainPlatform _ _ 0 _ clusterRun_acceptedCluster
    (by decide +kernel)) _ _

theorem clusterRun_lockedTwiceCluster :
    @ClusterRun plainPlatform config lockedTwiceCluster :=
  clusterRun_moves (@ClusterRun.deliver plainPlatform _ _ 1 _
    (@ClusterRun.deliver plainPlatform _ _ 0 _ clusterRun_acceptedCluster (by decide +kernel))
    (by decide +kernel)) _ _

end Sample

omit [Platform] in
/-- Delivered to one process, the lock is applied once. -/
theorem exactlyOnce_lockedCluster :
    (Sample.lockedCluster.appliedBy "r2").length = 1 ∧ ExactlyOnce Sample.lockedCluster :=
  ⟨by decide +kernel, (@exactlyOnce_iff plainPlatform _ _ Sample.clusterRun_lockedCluster).mpr
    (by unfold SavesFresh; decide +kernel)⟩

omit [Platform] in
/-- Delivered to two processes at once, the lock is applied twice. -/
theorem exists_clusterRun_twice :
    @ClusterRun plainPlatform Sample.config Sample.lockedTwiceCluster ∧
      (Sample.lockedTwiceCluster.appliedBy "r2").length = 2 ∧
      ¬ ExactlyOnce Sample.lockedTwiceCluster := by
  have htwice : (Sample.lockedTwiceCluster.appliedBy "r2").length = 2 := by decide +kernel
  refine ⟨Sample.clusterRun_lockedTwiceCluster, htwice, fun honce => ?_⟩
  have := honce.atMostOnce "r2"
  omega

end TravelPlanAgent
