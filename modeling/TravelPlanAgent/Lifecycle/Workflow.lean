import TravelPlanAgent.Lifecycle.Preview
import TravelPlanAgent.Weather.Risk
import TravelPlanAgent.Weather.Persistence

/-!
# The nodes of the lifecycle graph

Every node reads the record of the session once and saves it at most once, so a node is a
function of the state of the graph and the record it read.

* `LifecycleState`: the state of the graph between two nodes.
* `NodeOutcome`: go on, save and go on, or save and fail.
* `selectCandidate`, `changeLock`, `parseEdit`, `applyEditClarification`, `analyzeImpact`,
  `buildPreview`, `resolveApproval` and the weather nodes: the nodes.
* `execNode`, `nextNode`: the node of a name, and the edges of the graph.
-/

namespace TravelPlanAgent

open Calendar Selection

variable [Platform]

/-! ## The state of the graph -/

inductive WeatherDecision where
  | terminal | analyze | repair | localReplan
  deriving DecidableEq

/-- `PlanLifecycleState`. -/
structure LifecycleState where
  sessionId : String
  lifecycleThreadId : String
  status : PlanSessionStatus
  action : Option LifecycleResumeRequest
  editPatch : Option EditPatch
  impactResult : Option ImpactResult
  weatherLocation : Option WeatherLocation
  weatherSnapshot : Option WeatherSnapshot
  weatherRisks : Option (List DailyWeatherRisk)
  weatherEvent : Option ChangeEvent
  weatherImpact : Option WeatherImpactResult
  weatherRepairPlan : Option WeatherRepairPlan
  weatherAlternatives : Option (List PlanningPOI)
  weatherDecision : Option WeatherDecision
  clarificationRound : ℕ
  approvalToken : Option String
  message : Option String

/-- `initial_lifecycle_state`. -/
def initialLifecycleState (session : PlanSessionRecord) : LifecycleState :=
  { sessionId := session.sessionId, lifecycleThreadId := session.lifecycleThreadId
    status := session.status, action := none, editPatch := none, impactResult := none
    weatherLocation := none, weatherSnapshot := none, weatherRisks := none, weatherEvent := none
    weatherImpact := none, weatherRepairPlan := none, weatherAlternatives := none
    weatherDecision := none, clarificationRound := 0, approvalToken := none, message := none }

/-- How a node ends when it does not raise before saving. -/
inductive NodeOutcome where
  | goto (state : LifecycleState)
  | saved (record : PlanSessionRecord) (state : LifecycleState)
  | savedThenRaised (record : PlanSessionRecord) (failure : Failure)

/-! ## Helpers -/

/-- `_request`. -/
def requestOf (state : LifecycleState) : Result LifecycleResumeRequest :=
  orRaise state.action (.runtimeError "lifecycle action is missing")

/-- `_ensure_expected`. -/
def ensureExpected (session : PlanSessionRecord) (request : LifecycleResumeRequest) :
    Result Unit := do
  require (∀ revision ∈ request.expectedSessionRevision, revision = session.sessionRevision)
    (.lifecycleConflict "stale_revision")
  require (∀ versionId ∈ request.expectedActiveVersionId,
      some versionId = session.activeVersionId)
    (.lifecycleConflict "stale_version")

/-- `_active_version`. -/
def activeVersion (session : PlanSessionRecord) : Result PlanVersion := do
  let versionId ← orRaise session.activeVersionId
    (.lifecycleAction "plan_not_selected" "请先选择候选计划")
  orRaise (session.versions.get? versionId) .keyError

/-- The next revision, with the receipt of the request that leads to it. -/
def withReceipt (session : PlanSessionRecord) (request : LifecycleResumeRequest)
    (versionId previewId eventId : Option String) : PlanSessionRecord :=
  { session with
    sessionRevision := session.sessionRevision + 1
    receipts := session.receipts.set request.requestId
      { requestId := request.requestId, actionKind := request.action.kind
        resultingRevision := session.sessionRevision + 1, resultingVersionId := versionId
        resultingPreviewId := previewId, resultingEventId := eventId } }

/-- The statuses in which a plan can be changed. -/
def isEditable (status : PlanSessionStatus) : Bool :=
  decide (status = .active ∨ status = .changeRejected ∨ status = .requiresNewPlan)

/-- `session.locks.values()`. -/
def lockList (session : PlanSessionRecord) : List PlanLock := session.locks.values

/-! ## Waiting for the user -/

/-- What an interrupt tells the user. -/
inductive InterruptPayload where
  | candidateSelection (recommendedCandidateId : String) (candidateIds : List String)
      (sessionRevision : ℕ)
  | changeApproval (previewId baseVersionId : String) (sessionRevision : ℕ)
      (approvalToken : Option String) (affectedDates : List String)
      (changeSource : Option ChangeSource) (weatherEventId : Option String)
  | editClarification (question : String) (round : ℕ) (items : List EditItemContext)
      (sessionRevision : ℕ)
  | planChange (activeVersionId : Option String) (sessionRevision : ℕ)
      (allowedActions : List String) (weatherAttentionEventId : Option String)

/-- `_allowed_actions`. -/
def allowedActions (session : PlanSessionRecord) : List String :=
  match session.status with
  | .awaitingCandidateSelection => ["accept_recommendation", "select_candidate"]
  | .awaitingChangeApproval => ["approve_preview", "reject_preview"]
  | .needsRequirementClarification => ["clarify_requirement"]
  | .needsEditClarification => ["clarify_edit"]
  | _ => ["lock", "unlock", "edit", "edit_text", "refresh_weather"] ++
      (if session.weatherMonitor.attentionEventId.isSome then ["dismiss_weather_event"] else [])

/-- `session.previews[session.pending_preview_id]`. -/
def pendingPreview (session : PlanSessionRecord) : Result PlanPreview :=
  orRaise (session.pendingPreviewId.bind session.previews.get?) .keyError

/-- The payload that `await_user_action` interrupts with. -/
def interruptPayload (session : PlanSessionRecord) (state : LifecycleState) :
    Result InterruptPayload :=
  match session.status with
  | .awaitingCandidateSelection => do
    let snapshot ← orRaise session.snapshot .assertionError
    return .candidateSelection snapshot.recommendedCandidateId
      (snapshot.candidates.map PlanCandidate.id) session.sessionRevision
  | .awaitingChangeApproval => do
    let preview ← pendingPreview session
    return .changeApproval preview.previewId preview.baseVersionId session.sessionRevision
      state.approvalToken (preview.impact.affectedDates.map Date.isoformat)
      (preview.changeTrigger.map PlanChangeTrigger.source)
      (preview.changeTrigger.bind PlanChangeTrigger.eventId)
  | .needsEditClarification => do
    let version ← activeVersion session
    return .editClarification "请从候选项目中选择要修改的 item_id" state.clarificationRound
      (editItemContext version.candidate) session.sessionRevision
  | _ => .ok (.planChange session.activeVersionId session.sessionRevision
      (allowedActions session) session.weatherMonitor.attentionEventId)

/-- `dispatch_action`: a new request forgets what earlier ones left in the state. -/
def dispatchAction (state : LifecycleState) (request : LifecycleResumeRequest) : LifecycleState :=
  { state with
    action := some request, approvalToken := none, message := none, weatherLocation := none
    weatherSnapshot := none, weatherRisks := none, weatherEvent := none, weatherImpact := none
    weatherRepairPlan := none, weatherAlternatives := none, weatherDecision := none }

/-! ## Selecting and locking -/

section Nodes

variable (config : LifecycleConfig) (services : LifecycleServices) (state : LifecycleState)
  (session : PlanSessionRecord)

/-- The first version of a plan. -/
def firstVersion (snapshot : PlanningSnapshot) (request : LifecycleResumeRequest)
    (candidate : PlanCandidate) (draft : CandidateDraft) : PlanVersion :=
  let versioned := withStableItemIds session.sessionId candidate
  { versionId := "V1", number := 1, parentVersionId := none
    sourceRequestId := request.requestId, selectedCandidateId := candidate.id
    candidate := versioned, candidateDraft := draft, planningPois := snapshot.planningPois
    routeResults := snapshot.routeResults, planFingerprint := planFingerprint versioned
    changeTrigger := none, criticStatus := snapshot.criticStatus }

/-- The candidate that a request selects. -/
def requestedCandidateId (snapshot : PlanningSnapshot) : LifecycleAction → Result String
  | .acceptRecommendation => .ok snapshot.recommendedCandidateId
  | .selectCandidate candidateId => .ok candidateId
  | _ => .error (.runtimeError "action has no candidate_id")

/-- `select_candidate`. -/
def selectCandidate : Result NodeOutcome := do
  let request ← requestOf state
  ensureExpected session request
  require (session.status = .awaitingCandidateSelection)
    (.lifecycleConflict "plan_session_conflict")
  let snapshot ← orRaise session.snapshot .assertionError
  let candidateId ← requestedCandidateId snapshot request.action
  let candidate ← orRaise (snapshot.candidates.find? fun c => decide (c.id = candidateId))
    (.lifecycleAction "unknown_candidate" "候选计划不存在")
  require (∃ validation ∈ candidate.validation, validation.status ≠ .invalid)
    (.lifecycleAction "invalid_candidate" "不能选择硬约束非法候选")
  let draft ← orRaise (snapshot.candidateDrafts.find? fun d => decide (d.id = candidateId))
    (.lifecycleAction "missing_candidate_draft" "候选缺少可编辑 Draft")
  let version := firstVersion session snapshot request candidate draft
  let record := withReceipt
    { session with
      versions := session.versions.set version.versionId version
      activeVersionId := some version.versionId, status := .active }
    request (some version.versionId) none none
  return .saved record { state with status := record.status, action := none }

/-- The fingerprint of what a lock protects. -/
def lockFingerprint (candidate : PlanCandidate) (kind : LockKind) (targetId : String) :
    Result String :=
  match kind with
  | .day => do
    let day ← orRaise (dayNamed candidate targetId)
      (.lifecycleAction "unknown_day" "锁定日期不存在")
    return dayFingerprint day
  | .item => do
    let (date, item) ← orRaise (locateItem candidate targetId)
      (.lifecycleAction "unknown_item" "锁定项目不存在")
    return itemFingerprint item date

/-- `f"{lock_kind}:{target_id}"`. -/
def lockIdOf (kind : LockKind) (targetId : String) : String := kind.value ++ ":" ++ targetId

/-- The locks after a lock or an unlock action. -/
def changedLocks (version : PlanVersion) (request : LifecycleResumeRequest) :
    Result (Dict String PlanLock) :=
  match request.action with
  | .lock kind targetId => do
    let fingerprint ← lockFingerprint version.candidate kind targetId
    return session.locks.set (lockIdOf kind targetId)
      { lockId := lockIdOf kind targetId, kind, targetId, expectedFingerprint := fingerprint
        createdByRequestId := request.requestId }
  | .unlock kind targetId => do
    require (session.locks.contains (lockIdOf kind targetId) = true)
      (.lifecycleAction "lock_not_found" "要解除的锁不存在")
    return session.locks.erase (lockIdOf kind targetId)
  | _ => .error (.runtimeError "action is not a lock action")

/-- `change_lock`. -/
def changeLock : Result NodeOutcome := do
  let request ← requestOf state
  ensureExpected session request
  require (isEditable session.status = true) (.lifecycleConflict "plan_session_conflict")
  let version ← activeVersion session
  let locks ← changedLocks session version request
  let record := withReceipt { session with locks, status := .active } request none none none
  return .saved record { state with status := record.status, action := none }

/-! ## Editing -/

/-- The patch of an edit action; a text is parsed by a model. -/
def requestedPatch (version : PlanVersion) : LifecycleAction → Result EditPatch
  | .edit patch => .ok patch
  | .editText text => do
    let snapshot ← orRaise session.snapshot (.runtimeError "snapshot is missing")
    let items := editItemContext version.candidate
    require (items.length ≤ 80) (.validationError "EditModelInput")
    services.parseEdit ⟨text, snapshot.trip.startDate, snapshot.trip.endDate, items⟩
  | _ => .error (.runtimeError "action is not an edit action")

/-- `parse_edit`. -/
def parseEdit : Result NodeOutcome := do
  let request ← requestOf state
  ensureExpected session request
  require (isEditable session.status = true) (.lifecycleConflict "plan_session_conflict")
  let version ← activeVersion session
  let patch ← requestedPatch services session version request.action
  return .goto { state with editPatch := some patch }

/-- Set the item id of the first operation without one. -/
def clarifyOperations (itemId : String) : List EditOperation → Option (List EditOperation)
  | [] => none
  | operation :: rest =>
    if operation.itemId = none then some ({ operation with itemId := some itemId } :: rest)
    else (clarifyOperations itemId rest).map (operation :: ·)

/-- The item that a clarification chooses. -/
def clarifiedItemId : LifecycleAction → Result String
  | .clarifyEdit itemId => .ok itemId
  | _ => .error (.runtimeError "action is not a clarification")

/-- `apply_edit_clarification`. -/
def applyEditClarification : Result NodeOutcome := do
  let request ← requestOf state
  let itemId ← clarifiedItemId request.action
  ensureExpected session request
  require (session.status = .needsEditClarification) (.lifecycleConflict "plan_session_conflict")
  let version ← activeVersion session
  require (itemId ∈ (identifiedItems version.candidate).map Prod.fst)
    (.lifecycleAction "unknown_item" "澄清选择的 item_id 不存在")
  let patch ← orRaise state.editPatch (.validationError "EditPatch")
  let operations ← orRaise (clarifyOperations itemId patch.operations)
    (.lifecycleAction "clarification_not_needed" "当前编辑不需要项目澄清")
  return .goto { state with editPatch := some ⟨operations⟩, status := .buildingPreview }

/-- Ask which item an edit is about, at most twice. -/
def askForClarification (request : LifecycleResumeRequest) (message : String) :
    Result NodeOutcome := do
  require (state.clarificationRound < 2)
    (.lifecycleAction "edit_clarification_exhausted" "编辑项目经过两轮仍无法唯一确定")
  let record := withReceipt { session with status := .needsEditClarification } request
    none none none
  return .saved record
    { state with
      status := record.status, clarificationRound := state.clarificationRound + 1
      message := some message }

/-- `analyze_impact`. -/
def analyzeImpact : Result NodeOutcome := do
  let request ← requestOf state
  let version ← activeVersion session
  let ungrounded ← orRaise state.editPatch (.validationError "EditPatch")
  match groundEditPatch version.candidate ungrounded with
  | .error (.lifecycleAction code message) =>
    if code = "ambiguous_item" ∨ code = "unknown_item" then
      askForClarification state session request message
    else .error (.lifecycleAction code message)
  | .error failure => .error failure
  | .ok patch =>
    let impact := analyzeChangeImpact version.candidate patch (lockList session)
      config.maxAffectedDays
    require (impact.lockConflicts = []) (.lifecycleAction "lock_conflict" "编辑会修改已锁定范围")
    if impact.scope = .requiresNewPlan then
      let record := withReceipt { session with status := .requiresNewPlan } request none none none
      return .saved record
        { state with
          editPatch := some patch, impactResult := some impact, status := record.status
          message := some "修改范围超过局部重规划预算，请创建新计划" }
    else
      return .goto
        { state with
          editPatch := some patch, impactResult := some impact, status := .buildingPreview }

/-! ## Previews -/

/-- What triggered a change. -/
def changeTrigger (request : LifecycleResumeRequest) : PlanChangeTrigger :=
  { source := if state.weatherEvent.isSome then .weather else .user
    requestId := request.requestId
    eventId := state.weatherEvent.map ChangeEvent.eventId
    snapshotId := state.weatherSnapshot.map WeatherSnapshot.snapshotId
    policyVersion := state.weatherEvent.map fun _ => weatherPolicyVersion }

/-- `f"P{len(session.previews) + 1}"`. -/
def nextPreviewId : String := "P" ++ toString (session.previews.size + 1)

/-- `valid` of a preview. -/
def previewValid (validation : ValidationResult) : Bool :=
  decide (validation.status ≠ .invalid) && !validation.violations.any Violation.isError

/-- Remember the weather that led to a preview. -/
def observePreviewWeather (valid : Bool) : PlanSessionRecord :=
  match state.weatherEvent, state.weatherSnapshot with
  | some event, some snapshot =>
    persistWeatherObservation session snapshot (state.weatherRisks.getD [])
      (if valid then .previewCreated else .needsUserAttention) (some event)
      (some (if valid then .previewCreated else .needsUserAttention)) config.weatherMaxEvents
  | _, _ => session

/-- Note in the receipt of an event what came of it. -/
def updateEventReceipt (session : PlanSessionRecord) (eventId : String)
    (update : WeatherEventReceipt → WeatherEventReceipt) : PlanSessionRecord :=
  match session.weatherMonitor.eventReceipts.get? eventId with
  | none => session
  | some receipt =>
    { session with
      weatherMonitor :=
        { session.weatherMonitor with
          eventReceipts := session.weatherMonitor.eventReceipts.set eventId (update receipt) } }

/-- The preview of an edited plan. -/
def previewOf (request : LifecycleResumeRequest) (version : PlanVersion) (plan : EditedPlan)
    (impact : ImpactResult) (diff : PlanDiff) (critique : PreviewCritique)
    (validation : ValidationResult) (token : String) : PlanPreview :=
  { previewId := nextPreviewId session, baseVersionId := version.versionId
    baseSessionRevision := session.sessionRevision + 1, sourceRequestId := request.requestId
    candidate := plan.candidate, candidateDraft := plan.draft
    planningPois := plan.planningPois, routeResults := plan.routes, impact, diff
    status := if previewValid validation then .pending else .invalid
    hardValidation := validation, criticStatus := critique.status
    criticSummary := critique.summary, softCritique := critique.critique
    approvalTokenHash := sha256 token, changeTrigger := some (changeTrigger state request) }

/-- Store a preview and wait for approval when it is valid. -/
def storePreview (request : LifecycleResumeRequest) (preview : PlanPreview) (valid : Bool) :
    Result PlanSessionRecord := do
  let observed := observePreviewWeather config state session valid
  let eventId := state.weatherEvent.map ChangeEvent.eventId
  let record := withReceipt
    { observed with
      previews := observed.previews.set preview.previewId preview
      pendingPreviewId := some preview.previewId
      status := if valid then .awaitingChangeApproval else .changeRejected }
    request none (some preview.previewId) eventId
  match eventId with
  | none => return record
  | some eventId =>
    require (record.weatherMonitor.eventReceipts.contains eventId = true) .keyError
    return updateEventReceipt record eventId fun receipt =>
      { receipt with resultingPreviewId := some preview.previewId }

/-- `build_preview`. -/
def buildPreview : Result NodeOutcome := do
  let request ← requestOf state
  ensureExpected session request
  let snapshot ← orRaise session.snapshot .assertionError
  let version ← activeVersion session
  let patch ← orRaise state.editPatch (.validationError "EditPatch")
  let plan ← editedPlan config services session.sessionId request.requestId snapshot.trip version
    (state.weatherAlternatives.getD []) (lockList session) patch
  let validation := validateCandidate snapshot.trip plan.candidate plan.planningPois
  let impact := { analyzeChangeImpact version.candidate patch (lockList session)
    config.maxAffectedDays with invalidatedRouteKeys := plan.invalidated }
  checkLocality version.candidate plan.candidate impact.preservedDates (lockList session)
  let critique ← previewCritique config services snapshot.trip plan.candidate validation
    plan.planningPois
  let diff ← buildPlanDiff version.candidate plan.candidate version.versionId
    (nextPreviewId session) none critique.score
  let valid := previewValid validation
  let token := if valid then services.token else ""
  let preview := previewOf state session request version plan impact diff critique validation token
  let record ← storePreview config state session request preview valid
  return .saved record
    { state with
      status := record.status, approvalToken := if token = "" then none else some token
      action := none, message := if valid then none else some "修改后的计划未通过硬约束验证" }

/-- The preview that an approval action names, and the token when it approves. -/
def approvalOf : LifecycleAction → Result (String × Option String)
  | .approvePreview previewId token => .ok (previewId, some token)
  | .rejectPreview previewId => .ok (previewId, none)
  | _ => .error (.runtimeError "action is not an approval action")

/-- The event that led to a preview. -/
def previewEventId (preview : PlanPreview) : Option String :=
  preview.changeTrigger.bind PlanChangeTrigger.eventId

/-- Update the receipt of the event that led to a preview, when there is one. -/
def updatePreviewEvent (session : PlanSessionRecord) (preview : PlanPreview)
    (update : WeatherEventReceipt → WeatherEventReceipt) : PlanSessionRecord :=
  match previewEventId preview with
  | none => session
  | some eventId => updateEventReceipt session eventId update

/-- Reject a preview. -/
def rejectPreview (request : LifecycleResumeRequest) (preview : PlanPreview) :
    PlanSessionRecord :=
  let rejected := { session with
    previews := session.previews.set (session.pendingPreviewId.getD "")
      { preview with status := .rejected } }
  let noted := updatePreviewEvent rejected preview fun receipt =>
    { receipt with status := .rejected, resultingPreviewId := some preview.previewId }
  withReceipt { noted with status := .active } request none (some preview.previewId) none

/-- The version that an approved preview becomes. -/
def approvedVersion (request : LifecycleResumeRequest) (preview : PlanPreview) : PlanVersion :=
  { versionId := "V" ++ toString (session.versions.size + 1)
    number := session.versions.size + 1, parentVersionId := some preview.baseVersionId
    sourceRequestId := request.requestId, selectedCandidateId := preview.candidate.id
    candidate := preview.candidate, candidateDraft := preview.candidateDraft
    planningPois := preview.planningPois, routeResults := preview.routeResults
    planFingerprint := planFingerprint preview.candidate
    changeTrigger := preview.changeTrigger, criticStatus := preview.criticStatus }

/-- Approve a preview. -/
def approvePreview (request : LifecycleResumeRequest) (preview : PlanPreview) :
    PlanSessionRecord :=
  let version := approvedVersion session request preview
  let approved := { session with
    previews := session.previews.set (session.pendingPreviewId.getD "")
      { preview with status := .approved }
    versions := session.versions.set version.versionId version
    activeVersionId := some version.versionId }
  let noted := updatePreviewEvent approved preview fun receipt =>
    { receipt with
      status := .approved, resultingPreviewId := some preview.previewId
      resultingVersionId := some version.versionId }
  withReceipt { noted with status := .active } request (some version.versionId)
    (some preview.previewId) (previewEventId preview)

/-- `resolve_approval`. -/
def resolveApproval : Result NodeOutcome := do
  let request ← requestOf state
  ensureExpected session request
  require (session.status = .awaitingChangeApproval) (.lifecycleConflict "plan_session_conflict")
  let preview ← pendingPreview session
  let (previewId, token) ← approvalOf request.action
  require (previewId = preview.previewId) (.lifecycleConflict "stale_preview")
  match token with
  | none =>
    let record := rejectPreview session request preview
    return .saved record { state with status := record.status, action := none }
  | some token =>
    require (sha256 token = preview.approvalTokenHash) (.lifecycleConflict "stale_approval_token")
    require (some preview.baseVersionId = session.activeVersionId ∧
        preview.baseSessionRevision = session.sessionRevision)
      (.lifecycleConflict "stale_preview")
    require (session.versions.size < config.maxVersions)
      (.lifecycleAction "version_budget_exhausted" "计划版本数量已达到上限")
    let record := approvePreview session request preview
    return .saved record { state with status := record.status, action := none }

/-! ## Weather -/

/-- `persist_weather_terminal`. -/
def persistWeatherTerminal (request : LifecycleResumeRequest) (snapshot : WeatherSnapshot)
    (risks : List DailyWeatherRisk) (outcome : WeatherRefreshOutcome)
    (event : Option ChangeEvent) (eventStatus : Option WeatherEventStatus) (message : String) :
    NodeOutcome :=
  let observed := persistWeatherObservation session snapshot risks outcome event eventStatus
    config.weatherMaxEvents
  let record := withReceipt { observed with status := .active } request none none
    (event.map ChangeEvent.eventId)
  .saved record
    { state with
      status := record.status, action := none, weatherDecision := some .terminal
      message := some message }

/-- `persist_weather_failure`, followed by the failure. -/
def persistWeatherFailure (code : String) (failure : Failure) : NodeOutcome :=
  let failed := markWeatherFailed session code services.now
  .savedThenRaised { failed with sessionRevision := failed.sessionRevision + 1 } failure

/-- `resolve_weather_location`. -/
def resolveWeatherLocation : Result NodeOutcome := do
  let request ← requestOf state
  ensureExpected session request
  require (config.weatherEnabled = true)
    (.lifecycleAction "weather_not_configured" "天气工具尚未配置")
  require (isEditable session.status = true)
    (.lifecycleConflict (if session.status = .awaitingChangeApproval
      then "pending_preview_exists" else "invalid_lifecycle_state"))
  let _ ← activeVersion session
  let snapshot ← orRaise session.snapshot .assertionError
  let located (location : WeatherLocation) : NodeOutcome :=
    .goto { state with weatherLocation := some location, weatherDecision := none }
  match session.weatherMonitor.location with
  | some location => return located location
  | none =>
    match ← services.resolveLocation snapshot.trip.destination with
    | .success location _ _ => return located location
    | .failed code safeMessage =>
      return persistWeatherFailure services session code
        (if code = "weather_location_unresolved" then
          .lifecycleAction "weather_location_unresolved" safeMessage
        else .weatherUnavailable)

/-- `fetch_weather_snapshot`. -/
def fetchWeatherSnapshot : Result NodeOutcome := do
  let request ← requestOf state
  ensureExpected session request
  require (config.weatherEnabled = true) .assertionError
  let planning ← orRaise session.snapshot .assertionError
  let location ← orRaise state.weatherLocation (.validationError "WeatherLocation")
  match ← services.getForecast location planning.trip.startDate planning.trip.endDate with
  | .failed code _ => return persistWeatherFailure services session code .weatherUnavailable
  | .success forecast fetchedAt expiresAt =>
    let fetchedAt := fetchedAt.getD services.now
    return .goto
      { state with
        weatherSnapshot := some (buildWeatherSnapshot forecast fetchedAt
          (expiresAt.getD fetchedAt)) }

/-- `classify_weather_risks`. -/
def classifyWeatherRisks : Result NodeOutcome := do
  let snapshot ← orRaise state.weatherSnapshot (.validationError "WeatherSnapshot")
  return .goto { state with weatherRisks := some (classifyForecast snapshot.days) }

/-- `derive_weather_change`. -/
def deriveWeatherChange : Result NodeOutcome := do
  let _ ← orRaise session.snapshot .assertionError
  let version ← activeVersion session
  let snapshot ← orRaise state.weatherSnapshot (.validationError "WeatherSnapshot")
  let previous := session.weatherMonitor.latestSnapshotId.bind session.weatherSnapshots.get?
  let previousRisks := (previous.bind fun p => session.weatherRisks.get? p.snapshotId).getD []
  let event := deriveChangeEvent session.sessionId version.versionId snapshot
    (state.weatherRisks.getD []) previous previousRisks
    (version.candidate.days.map DayPlan.date) services.now
  return .goto { state with weatherEvent := event }

/-- `deduplicate_weather_event`. -/
def deduplicateWeatherEvent : Result NodeOutcome := do
  let request ← requestOf state
  ensureExpected session request
  let snapshot ← orRaise state.weatherSnapshot (.validationError "WeatherSnapshot")
  let finish := persistWeatherTerminal config state session request snapshot
    (state.weatherRisks.getD [])
  match state.weatherEvent with
  | none => return finish .noChange none none "天气事实已刷新，未发现需要调整计划的变化"
  | some event =>
    match findEventByFingerprint session event.eventFingerprint with
    | some existing =>
      return finish .duplicate (some existing) none "相同天气事件已经处理，本次未重复创建 Preview"
    | none =>
      if event.kind = .weatherRecovered then
        return finish .recovered (some event) (some .noPlanImpact)
          "天气风险已经恢复；当前版本不会被自动回滚"
      else return .goto { state with weatherDecision := some .analyze }

/-- `analyze_weather_change_impact`. -/
def analyzeWeatherChangeImpact : Result NodeOutcome := do
  let request ← requestOf state
  let version ← activeVersion session
  let snapshot ← orRaise state.weatherSnapshot (.validationError "WeatherSnapshot")
  let event ← orRaise state.weatherEvent (.validationError "ChangeEvent")
  let risks := state.weatherRisks.getD []
  let impact := analyzeWeatherImpact event version.candidate version.planningPois risks
    (lockList session) config.maxAffectedDays
  let finish := persistWeatherTerminal config state session request snapshot risks
  if impact.affectedItemIds.isEmpty ∧ impact.requiresUserAttention = false then
    return finish .noPlanImpact (some event) (some .noPlanImpact)
      "天气发生变化，但当前计划没有需要调整的户外活动"
  else if impact.requiresUserAttention then
    return finish .needsUserAttention (some event) (some .needsUserAttention)
      "天气影响涉及锁定或未知活动，请先确认后再修改计划"
  else return .goto { state with weatherImpact := some impact, weatherDecision := some .repair }

/-- `build_weather_repair`. -/
def buildWeatherRepair : Result NodeOutcome := do
  let request ← requestOf state
  ensureExpected session request
  let planning ← orRaise session.snapshot .assertionError
  let version ← activeVersion session
  let snapshot ← orRaise state.weatherSnapshot (.validationError "WeatherSnapshot")
  let event ← orRaise state.weatherEvent (.validationError "ChangeEvent")
  let impact ← orRaise state.weatherImpact (.validationError "WeatherImpactResult")
  let risks := state.weatherRisks.getD []
  let alternatives ← resolveIndoorAlternatives services.tools config.unknownFactPolicy
    config.planningPolicy planning.trip version.candidate version.planningPois
    config.weatherMaxPoiSearches config.weatherMaxAlternatives
    config.weatherExposureMinConfidence
  match buildWeatherRepairPlan event.eventId version.versionId planning.trip version.candidate
      impact risks alternatives (lockList session) with
  | none =>
    return persistWeatherTerminal config state session request snapshot risks
      .needsUserAttention (some event) (some .needsUserAttention)
      "没有找到满足硬约束的安全局部替代方案"
  | some repair =>
    let patch := repairPlanToEditPatch repair
    require (patch.valid = true) (.validationError "EditOperation")
    return .goto
      { state with
        weatherRepairPlan := some repair, weatherAlternatives := some alternatives
        editPatch := some patch, weatherDecision := some .localReplan }

/-- The event that a dismissal names. -/
def dismissedEventId : LifecycleAction → Result String
  | .dismissWeatherEvent eventId => .ok eventId
  | _ => .error (.runtimeError "action is not a dismissal")

/-- `dismiss_weather_event`. -/
def dismissWeatherEvent : Result NodeOutcome := do
  let request ← requestOf state
  let eventId ← dismissedEventId request.action
  ensureExpected session request
  let notFound : Failure := .lifecycleAction "weather_event_not_found" "天气事件不存在"
  let event ← orRaise (session.weatherEvents.get? eventId) notFound
  let receipt ← orRaise (session.weatherMonitor.eventReceipts.get? eventId) notFound
  require (receipt.status = .needsUserAttention ∨ receipt.status = .observed)
    (.lifecycleConflict "weather_event_already_resolved")
  let dismissed := updateEventReceipt session eventId fun receipt =>
    { receipt with status := .dismissed }
  let record := withReceipt
    { dismissed with
      weatherMonitor := { dismissed.weatherMonitor with attentionEventId := none }
      status := .active }
    request none none (some event.eventId)
  return .saved record
    { state with status := record.status, action := none
                 message := some "已记录用户保留当前计划的决定" }

end Nodes

/-! ## The graph -/

/-- The nodes that a request can run through. -/
inductive LifecycleNode where
  | awaitUserAction | dispatchAction | selectCandidate | changeLock | parseEdit
  | applyEditClarification | analyzeChangeImpact | buildLocalPreview | resolveApproval
  | resolveWeatherLocation | fetchWeatherSnapshot | classifyWeatherRisks | deriveWeatherEvent
  | deduplicateWeatherEvent | analyzeWeatherImpact | buildWeatherRepairPlan
  | dismissWeatherEvent
  deriving DecidableEq

/-- Run the node of a name.  The two nodes around the interrupt save nothing. -/
def execNode (config : LifecycleConfig) (services : LifecycleServices) (state : LifecycleState)
    (session : PlanSessionRecord) : LifecycleNode → Result NodeOutcome
  | .awaitUserAction => .ok (.goto state)
  | .dispatchAction => .ok (.goto state)
  | .selectCandidate => selectCandidate state session
  | .changeLock => changeLock state session
  | .parseEdit => parseEdit services state session
  | .applyEditClarification => applyEditClarification state session
  | .analyzeChangeImpact => analyzeImpact config state session
  | .buildLocalPreview => buildPreview config services state session
  | .resolveApproval => resolveApproval config state session
  | .resolveWeatherLocation => resolveWeatherLocation config services state session
  | .fetchWeatherSnapshot => fetchWeatherSnapshot config services state session
  | .classifyWeatherRisks => classifyWeatherRisks state
  | .deriveWeatherEvent => deriveWeatherChange services state session
  | .deduplicateWeatherEvent => deduplicateWeatherEvent config state session
  | .analyzeWeatherImpact => analyzeWeatherChangeImpact config state session
  | .buildWeatherRepairPlan => buildWeatherRepair config services state session
  | .dismissWeatherEvent => dismissWeatherEvent state session

/-- `route_action`. -/
def routeAction (action : LifecycleAction) : Result LifecycleNode :=
  match action with
  | .acceptRecommendation => .ok .selectCandidate
  | .selectCandidate _ => .ok .selectCandidate
  | .lock _ _ => .ok .changeLock
  | .unlock _ _ => .ok .changeLock
  | .edit _ => .ok .parseEdit
  | .editText _ => .ok .parseEdit
  | .clarifyEdit _ => .ok .applyEditClarification
  | .approvePreview _ _ => .ok .resolveApproval
  | .rejectPreview _ => .ok .resolveApproval
  | .refreshWeather => .ok .resolveWeatherLocation
  | .dismissWeatherEvent _ => .ok .dismissWeatherEvent
  | .clarifyRequirement _ => .error (.lifecycleAction "invalid_action" "当前阶段不支持该动作")

/-- The edge that is taken after a node. -/
def nextNode (state : LifecycleState) : LifecycleNode → Result LifecycleNode
  | .awaitUserAction => .ok .dispatchAction
  | .dispatchAction => do routeAction (← requestOf state).action
  | .parseEdit => .ok .analyzeChangeImpact
  | .applyEditClarification => .ok .analyzeChangeImpact
  | .analyzeChangeImpact =>
    .ok (if state.status = .requiresNewPlan ∨ state.status = .needsEditClarification
      then .awaitUserAction else .buildLocalPreview)
  | .resolveWeatherLocation => .ok .fetchWeatherSnapshot
  | .fetchWeatherSnapshot => .ok .classifyWeatherRisks
  | .classifyWeatherRisks => .ok .deriveWeatherEvent
  | .deriveWeatherEvent => .ok .deduplicateWeatherEvent
  | .deduplicateWeatherEvent =>
    .ok (if state.weatherDecision = some .analyze then .analyzeWeatherImpact else .awaitUserAction)
  | .analyzeWeatherImpact =>
    .ok (if state.weatherDecision = some .repair then .buildWeatherRepairPlan
      else .awaitUserAction)
  | .buildWeatherRepairPlan =>
    .ok (if state.weatherDecision = some .localReplan then .analyzeChangeImpact
      else .awaitUserAction)
  | .selectCandidate => .ok .awaitUserAction
  | .changeLock => .ok .awaitUserAction
  | .buildLocalPreview => .ok .awaitUserAction
  | .resolveApproval => .ok .awaitUserAction
  | .dismissWeatherEvent => .ok .awaitUserAction

end TravelPlanAgent
