import TravelPlanAgent.Domain.Weather
import TravelPlanAgent.Domain.Critique
import TravelPlanAgent.Library.Binary64

/-!
# The session of a plan

The value types of `domain/lifecycle_models.py`: locks, edits, previews, versions, receipts and
the record that holds them.  Timestamps, tenant and user are left out.

* `PlanLock`, `EditOperation`, `EditPatch`: what a user asks for.
* `PlanVersion`, `PlanPreview`: an accepted plan, and one that waits for approval.
* `PlanSessionRecord`: everything that the repository stores about a session.
* `LifecycleAction`, `LifecycleResumeRequest`: the requests.
-/

namespace TravelPlanAgent

open Calendar

/-! ## Enumerations -/

inductive PlanSessionStatus where
  | needsRequirementClarification | awaitingCandidateSelection | active
  | needsEditClarification | buildingPreview | awaitingChangeApproval | changeRejected
  | requiresNewPlan
  deriving DecidableEq

inductive LockKind where
  | day | item
  deriving DecidableEq

def LockKind.value : LockKind → String
  | .day => "day"
  | .item => "item"

inductive EditOperationKind where
  | moveItem | reorderItem | removeItem | addItem | replaceItem
  deriving DecidableEq

def EditOperationKind.value : EditOperationKind → String
  | .moveItem => "move_item"
  | .reorderItem => "reorder_item"
  | .removeItem => "remove_item"
  | .addItem => "add_item"
  | .replaceItem => "replace_item"

inductive ImpactScope where
  | item | day | multiDay | requiresNewPlan
  deriving DecidableEq

inductive PreviewStatus where
  | pending | approved | rejected | stale | invalid
  deriving DecidableEq

inductive ChangeSource where
  | user | weather
  deriving DecidableEq

/-! ## Locks and edits -/

structure PlanChangeTrigger where
  source : ChangeSource
  requestId : String
  eventId : Option String
  snapshotId : Option String
  policyVersion : Option String

structure PlanLock where
  lockId : String
  kind : LockKind
  targetId : String
  expectedFingerprint : String
  createdByRequestId : String

structure EditOperation where
  kind : EditOperationKind
  itemId : Option String
  itemName : Option String
  targetDate : Option Date
  targetIndex : Option ℕ
  poiName : Option String
  deriving DecidableEq

/-- A text that is present and not empty. -/
def isGiven (text : Option String) : Bool := decide (text.getD "" ≠ "")

/-- `EditOperation.validate_operation`. -/
def EditOperation.valid (operation : EditOperation) : Bool :=
  (decide (operation.kind = .addItem) || isGiven operation.itemId || isGiven operation.itemName) &&
    (!decide (operation.kind = .moveItem ∨ operation.kind = .addItem) ||
      operation.targetDate.isSome) &&
    (!decide (operation.kind = .addItem ∨ operation.kind = .replaceItem) ||
      isGiven operation.poiName)

structure EditPatch where
  operations : List EditOperation
  deriving DecidableEq

/-- Between one and three valid operations. -/
def EditPatch.valid (patch : EditPatch) : Bool :=
  decide (1 ≤ patch.operations.length ∧ patch.operations.length ≤ 3) &&
    patch.operations.all EditOperation.valid

structure EditItemContext where
  itemId : String
  poiId : Option String
  name : String
  day : Date
  index : ℕ
  locked : Bool

structure EditModelInput where
  text : String
  tripStart : Date
  tripEnd : Date
  items : List EditItemContext

structure ImpactResult where
  scope : ImpactScope
  affectedDates : List Date
  affectedItemIds : List String
  preservedDates : List Date
  invalidatedRouteKeys : List String
  requiredToolOperations : List String
  lockConflicts : List String
  reasons : List String

/-! ## Differences -/

structure ItemDiff where
  itemId : String
  name : String
  fromDate : Option Date
  toDate : Option Date
  fromIndex : Option ℕ
  toIndex : Option ℕ

structure TimeDiff where
  itemId : String
  beforeStart : DateTime
  afterStart : DateTime
  beforeEnd : DateTime
  afterEnd : DateTime

structure RouteDiff where
  itemId : String
  beforeMinutes : ℕ
  afterMinutes : ℕ
  beforeMeters : ℕ
  afterMeters : ℕ

structure DayMetricDiff where
  day : Date
  travelMinutesDelta : ℤ
  walkingMetersDelta : ℤ
  knownCostDelta : Binary64.Double

structure PlanDiff where
  fromVersionId : String
  toId : String
  addedItems : List ItemDiff
  removedItems : List ItemDiff
  movedItems : List ItemDiff
  reorderedItems : List ItemDiff
  timeChanges : List TimeDiff
  routeChanges : List RouteDiff
  dayMetricChanges : List DayMetricDiff
  hardStatusBefore : Option String
  hardStatusAfter : Option String
  softQualityBefore : Option ℚ
  softQualityAfter : Option ℚ

/-! ## Versions and previews -/

/-- The normalised planning facts that a session starts from. -/
structure PlanningSnapshot where
  trip : TripSpec
  candidates : List PlanCandidate
  recommendedCandidateId : String
  candidateDrafts : List CandidateDraft
  planningPois : List PlanningPOI
  routeResults : Routes
  criticStatus : CriticStatus

structure PlanVersion where
  versionId : String
  number : ℕ
  parentVersionId : Option String
  sourceRequestId : String
  selectedCandidateId : String
  candidate : PlanCandidate
  candidateDraft : CandidateDraft
  planningPois : List PlanningPOI
  routeResults : Routes
  planFingerprint : String
  changeTrigger : Option PlanChangeTrigger
  criticStatus : CriticStatus

structure PlanPreview where
  previewId : String
  baseVersionId : String
  baseSessionRevision : ℕ
  sourceRequestId : String
  candidate : PlanCandidate
  candidateDraft : CandidateDraft
  planningPois : List PlanningPOI
  routeResults : Routes
  impact : ImpactResult
  diff : PlanDiff
  status : PreviewStatus
  hardValidation : ValidationResult
  criticStatus : CriticStatus
  criticSummary : Option CriticExecutionSummary
  softCritique : Option SoftCritique
  approvalTokenHash : String
  changeTrigger : Option PlanChangeTrigger

structure ActionReceipt where
  requestId : String
  actionKind : String
  resultingRevision : ℕ
  resultingVersionId : Option String
  resultingPreviewId : Option String
  resultingEventId : Option String
  deriving DecidableEq

/-- What the repository stores about a session. -/
structure PlanSessionRecord where
  sessionId : String
  lifecycleThreadId : String
  status : PlanSessionStatus
  sessionRevision : ℕ
  snapshot : Option PlanningSnapshot
  /-- The question of the requirement workflow that waits for an answer. -/
  externalInterrupt : Option String
  activeVersionId : Option String
  pendingPreviewId : Option String
  versions : Dict String PlanVersion
  previews : Dict String PlanPreview
  locks : Dict String PlanLock
  receipts : Dict String ActionReceipt
  weatherMonitor : WeatherMonitorState
  weatherSnapshots : Dict String WeatherSnapshot
  weatherRisks : Dict String (List DailyWeatherRisk)
  weatherEvents : Dict String ChangeEvent

/-- A session as the service creates it. -/
def PlanSessionRecord.created (sessionId : String) (status : PlanSessionStatus)
    (snapshot : Option PlanningSnapshot) (externalInterrupt : Option String) :
    PlanSessionRecord :=
  { sessionId, lifecycleThreadId := "lifecycle:" ++ sessionId, status, sessionRevision := 0
    snapshot, externalInterrupt, activeVersionId := none, pendingPreviewId := none
    versions := ∅, previews := ∅
    locks := ∅, receipts := ∅, weatherMonitor := {}, weatherSnapshots := ∅
    weatherRisks := ∅, weatherEvents := ∅ }

/-! ## Requests -/

inductive LifecycleAction where
  | acceptRecommendation
  | selectCandidate (candidateId : String)
  | lock (kind : LockKind) (targetId : String)
  | unlock (kind : LockKind) (targetId : String)
  | edit (patch : EditPatch)
  | editText (text : String)
  | approvePreview (previewId approvalToken : String)
  | rejectPreview (previewId : String)
  | clarifyRequirement (answer : String)
  | clarifyEdit (itemId : String)
  | refreshWeather
  | dismissWeatherEvent (eventId : String)

def LifecycleAction.kind : LifecycleAction → String
  | .acceptRecommendation => "accept_recommendation"
  | .selectCandidate _ => "select_candidate"
  | .lock _ _ => "lock"
  | .unlock _ _ => "unlock"
  | .edit _ => "edit"
  | .editText _ => "edit_text"
  | .approvePreview _ _ => "approve_preview"
  | .rejectPreview _ => "reject_preview"
  | .clarifyRequirement _ => "clarify_requirement"
  | .clarifyEdit _ => "clarify_edit"
  | .refreshWeather => "refresh_weather"
  | .dismissWeatherEvent _ => "dismiss_weather_event"

structure LifecycleResumeRequest where
  interruptId : String
  requestId : String
  expectedActiveVersionId : Option String
  expectedSessionRevision : Option ℕ
  action : LifecycleAction

end TravelPlanAgent
