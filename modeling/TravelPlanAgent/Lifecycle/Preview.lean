import TravelPlanAgent.Lifecycle.Impact
import TravelPlanAgent.Lifecycle.Diff
import TravelPlanAgent.Planning.RouteDelta
import TravelPlanAgent.Planning.Validator
import TravelPlanAgent.Weather.Response
import TravelPlanAgent.Critique.Grounding

/-!
# Building a preview

The parts of `build_preview`, in the order in which it runs them: complete the known places,
apply the edit, reload the routes that changed, materialise the edited draft, give its items
their ids, validate it, and check that nothing else moved.

* `LifecycleConfig`, `LifecycleServices`: the settings, and what lies outside the program.
* `previewPois`: the places that an edit can use.
* `editedPlan`: the edited candidate with everything it was built from.
* `checkLocality`: preserved days and locks are unchanged, or the preview is refused.
* `previewCritique`: the optional opinion of the critic.
-/

namespace TravelPlanAgent

open Calendar

variable [Platform]

/-! ## Settings and services -/

/-- The settings of `build_lifecycle_workflow`. -/
structure LifecycleConfig where
  planningPolicy : PlanningPolicy
  unknownFactPolicy : UnknownFactPolicy
  criticEnabled : Bool
  criticPolicy : CriticPolicy
  evidenceBudget : EvidenceBudget
  maxAffectedDays : ℕ := 2
  maxVersions : ℕ := 20
  weatherEnabled : Bool
  weatherMaxEvents : ℕ := 50
  weatherMaxPoiSearches : ℕ := 4
  weatherMaxAlternatives : ℕ := 6
  weatherExposureMinConfidence : ℚ := 8 / 10

/-- What a node finds outside the program: tools, models, the clock, a random token. -/
structure LifecycleServices where
  tools : ToolGateway
  resolveLocation : String → Result (ToolResult WeatherLocation)
  getForecast : WeatherLocation → Date → Date → Result (ToolResult WeatherForecast)
  parseEdit : EditModelInput → Result EditPatch
  critique : SoftCriticRequest → Result SoftCriticResult
  token : String
  now : DateTime
  /-- A failure of the repository or of the budget ledger before the node does anything. -/
  fault : Option Failure

/-! ## Places -/

/-- The planning context of a version with the weather alternatives that are new. -/
def withAlternatives (pois alternatives : List PlanningPOI) : List PlanningPOI :=
  alternatives.foldl (fun pois poi =>
    if pois.any fun known => decide (known.facts.id = poi.facts.id) then pois
    else pois ++ [poi]) pois

/-- The searches for places that an edit names and nobody knows. -/
def editQueries (config : LifecycleConfig) (trip : TripSpec) (pois : List PlanningPOI)
    (patch : EditPatch) : List POISearchQuery :=
  patch.operations.filterMap fun operation =>
    let name := operation.poiName.getD ""
    if (operation.kind = .addItem ∨ operation.kind = .replaceItem) ∧ isGiven operation.poiName ∧
        ¬ pois.any (fun poi => namesOverlap name poi.facts.name) then
      some
        { city := trip.destination, keyword := name, exactMatch := false
          limit := min 5 config.planningPolicy.poiQueryLimit, priority := 100 }
    else none

/-- The places that an edit can use. -/
def previewPois (config : LifecycleConfig) (services : LifecycleServices) (trip : TripSpec)
    (version : PlanVersion) (alternatives : List PlanningPOI) (patch : EditPatch) :
    Result (List PlanningPOI) := do
  let pois := withAlternatives version.planningPois alternatives
  let queries := editQueries config trip pois patch
  if queries.isEmpty then return pois
  else
    let found ← foundFacts (← services.tools.searchPois queries)
    return mergePlanningPois config.unknownFactPolicy trip pois found

/-! ## The edited candidate -/

/-- Give an item the id of its POI. -/
def attachItemId (itemIdsByPoi : Dict String String) (lockedItemIds : List String)
    (item : PlanItem) : PlanItem :=
  let itemId := itemIdsByPoi.get? (item.poiId.getD "")
  { item with
    itemId
    locked := match itemId with
      | none => false
      | some itemId => decide (itemId ∈ lockedItemIds) }

/-- Give every item the id of its POI. -/
def attachItemIds (itemIdsByPoi : Dict String String) (lockedItemIds : List String)
    (candidate : PlanCandidate) : PlanCandidate :=
  { candidate with
    days := candidate.days.map fun day =>
      { day with items := day.items.map (attachItemId itemIdsByPoi lockedItemIds) } }

/-- The targets of the item locks. -/
def lockedItemIds (locks : List PlanLock) : List String :=
  (locks.filter fun lock => decide (lock.kind = .item)).map PlanLock.targetId

/-- The routes after an edit: those that are still needed, and those that had to be loaded. -/
def previewRoutes (services : LifecycleServices) (trip : TripSpec) (draft : CandidateDraft)
    (pois : List PlanningPOI) (kept : Routes) (settings : RouteSettings) : Result Routes := do
  let delta ← collectRouteDelta trip draft pois kept settings
  if delta.missingQueries.isEmpty then return kept
  else storeRoutes kept (← services.tools.getRoutes delta.missingQueries)

/-- An edited draft with the candidate that it was materialised to. -/
structure EditedPlan where
  planningPois : List PlanningPOI
  draft : CandidateDraft
  itemIdsByPoi : Dict String String
  invalidated : List String
  routes : Routes
  candidate : PlanCandidate

/-- Materialise an edited draft and give its items their ids. -/
def rematerialize (trip : TripSpec) (draft : CandidateDraft) (pois : List PlanningPOI)
    (routes : Routes) (settings : RouteSettings) (itemIdsByPoi : Dict String String)
    (lockedItemIds : List String) : Result PlanCandidate := do
  let candidates ← materializeCandidates trip [draft] pois routes settings
  let raw ← orRaise candidates.head? .keyError
  return attachItemIds itemIdsByPoi lockedItemIds raw

/-- Apply an edit to a version and materialise the result. -/
def editedPlan (config : LifecycleConfig) (services : LifecycleServices) (sessionId : String)
    (requestId : String) (trip : TripSpec) (version : PlanVersion)
    (alternatives : List PlanningPOI) (locks : List PlanLock) (patch : EditPatch) :
    Result EditedPlan := do
  let settings := config.planningPolicy.routeSettings
  let pois ← previewPois config services trip version alternatives patch
  let (draft, itemIdsByPoi) ← applyEditPatch sessionId requestId trip version.candidate
    version.candidateDraft pois patch
  let invalidated ← invalidatedRouteKeys trip version.candidateDraft draft pois settings
  let kept := version.routeResults.filterKeys fun key => decide (key ∉ invalidated)
  let routes ← previewRoutes services trip draft pois kept settings
  let candidate ← rematerialize trip draft pois routes settings itemIdsByPoi
    (lockedItemIds locks)
  let validation := validateCandidate trip candidate pois
  return { planningPois := pois, draft, itemIdsByPoi, invalidated, routes
           candidate := { candidate with validation := some validation } }

/-- The parts of an edited plan, in the order in which they are computed. -/
theorem editedPlan_eq_ok {config : LifecycleConfig} {services : LifecycleServices}
    {sessionId requestId : String} {trip : TripSpec} {version : PlanVersion}
    {alternatives : List PlanningPOI} {locks : List PlanLock} {patch : EditPatch}
    {plan : EditedPlan}
    (h : editedPlan config services sessionId requestId trip version alternatives locks patch =
      .ok plan) :
    previewPois config services trip version alternatives patch = .ok plan.planningPois ∧
      applyEditPatch sessionId requestId trip version.candidate version.candidateDraft
        plan.planningPois patch = .ok (plan.draft, plan.itemIdsByPoi) ∧
      invalidatedRouteKeys trip version.candidateDraft plan.draft plan.planningPois
        config.planningPolicy.routeSettings = .ok plan.invalidated ∧
      previewRoutes services trip plan.draft plan.planningPois
        (version.routeResults.filterKeys fun key => decide (key ∉ plan.invalidated))
        config.planningPolicy.routeSettings = .ok plan.routes ∧
      ∃ candidate, rematerialize trip plan.draft plan.planningPois plan.routes
          config.planningPolicy.routeSettings plan.itemIdsByPoi (lockedItemIds locks) =
            .ok candidate ∧
        plan.candidate =
          { candidate with
            validation := some (validateCandidate trip candidate plan.planningPois) } := by
  obtain ⟨pois, hpois, h⟩ := bind_eq_ok h
  obtain ⟨⟨draft, ids⟩, hedit, h⟩ := bind_eq_ok h
  obtain ⟨invalidated, hinvalidated, h⟩ := bind_eq_ok h
  obtain ⟨routes, hroutes, h⟩ := bind_eq_ok h
  obtain ⟨candidate, hcandidate, h⟩ := bind_eq_ok h
  cases h
  exact ⟨hpois, hedit, hinvalidated, hroutes, candidate, hcandidate, rfl⟩

/-! ## Nothing else moved -/

/-- A preserved day has the same fingerprint before and after. -/
def checkPreservedDay (before after : PlanCandidate) (date : Date) : Result Unit := do
  let left ← orRaise (dayOn before date) .keyError
  let right ← orRaise (dayOn after date) .keyError
  require (dayFingerprint left = dayFingerprint right)
    (.runtimeError "unaffected day changed during local edit")

/-- What a lock protects is still there, with the fingerprint it had. -/
def lockHolds (candidate : PlanCandidate) (lock : PlanLock) : Bool :=
  match lock.kind with
  | .day =>
    ((Date.fromisoformat lock.targetId).bind (dayOn candidate)).any fun day =>
      decide (dayFingerprint day = lock.expectedFingerprint)
  | .item =>
    (locateItem candidate lock.targetId).any fun (date, item) =>
      decide (itemFingerprint item date = lock.expectedFingerprint)

/-- One lock of the guard. -/
def checkLock (after : PlanCandidate) (lock : PlanLock) : Result Unit :=
  match lock.kind with
  | .day => do
    let _ ← orRaise (Date.fromisoformat lock.targetId) (.valueError "Invalid isoformat string")
    require (lockHolds after lock = true) (.runtimeError "locked day changed during local edit")
  | .item => require (lockHolds after lock = true)
      (.runtimeError "locked item changed during local edit")

/-- The locality guard and the lock guard. -/
def checkLocality (before after : PlanCandidate) (preserved : List Date) (locks : List PlanLock) :
    Result Unit := do
  preserved.forM (checkPreservedDay before after)
  locks.forM (checkLock after)

/-! ## The critic -/

/-- What the critic said about a preview. -/
structure PreviewCritique where
  status : CriticStatus
  summary : Option CriticExecutionSummary := none
  critique : Option SoftCritique := none
  score : Option ℚ := none

/-- Ask the critic; an ungrounded answer is dropped. -/
def askCritic (config : LifecycleConfig) (services : LifecycleServices)
    (digests : List CandidateEvidenceDigest) : Result PreviewCritique := do
  let request ← SoftCriticRequest.create digests []
  let result ← services.critique request
  if (validateCritiqueGrounding digests result.critiques).isEmpty then
    let critique ← orRaise result.critiques.head? .keyError
    let score ← qualityScore critique config.criticPolicy
    return ⟨.success, some result.summary, some critique, some score⟩
  else return { status := .invalidGrounding }

/-- The critic of a preview: not asked about an invalid plan, and never missed. -/
def previewCritique (config : LifecycleConfig) (services : LifecycleServices) (trip : TripSpec)
    (candidate : PlanCandidate) (validation : ValidationResult) (pois : List PlanningPOI) :
    Result PreviewCritique :=
  if ¬ config.criticEnabled then .ok { status := .disabled }
  else if validation.status = .invalid then .ok { status := .pending }
  else
    match askCritic config services
        (buildEvidenceDigests trip [candidate] pois config.evidenceBudget) with
    | .error .executionBudgetExceeded => .ok { status := .unavailable }
    | .error .criticUnavailable => .ok { status := .unavailable }
    | answer => answer

end TravelPlanAgent
