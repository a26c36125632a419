import TravelPlanAgent.Planning.Critic
import TravelPlanAgent.Planning.RouteDelta

/-!
# Local repairs

A repair plan answers every hard violation of a candidate with actions on its draft: optional
places are removed, required ones are moved or inserted.  One violation without a safe action
gives the whole plan up.

* `bestTargetDay`: the emptiest day on which a place fits.
* `takeEnough`: remove until the excess is gone, or not at all.
* `actionsForViolation`, `buildRepairPlan`: the actions, and the plan made of them.
* `applyRepairPlan`: the repaired draft.
* `buildRepairPlan_some`, `applyRepairPlan_eq_ok`: what a plan and a repaired draft carry.
-/

namespace TravelPlanAgent

open Calendar Selection

variable [Platform]

/-! ## Days -/

/-- The length of a window in minutes, rounded. -/
def windowMinutes (window : TimeWindow) : ℤ :=
  roundHalfEven (((window.finish.micros : ℤ) - window.start.micros : ℤ) / 60000000)

/-- `_best_target_day`. -/
def bestTargetDay (trip : TripSpec) (draft : CandidateDraft) (poi : PlanningPOI)
    (excludedDay : Option Date) : Option Date :=
  let candidates := draft.days.filterMap fun day =>
    if some day.date = excludedDay then none
    else match poi.openingWindows.get? day.date with
      | none => none
      | some window =>
        let available := availableMinutes trip day.date
        if min (available : ℤ) (windowMinutes window) < poi.durationMinutes then none
        else some (toLex (day.poiIds.length, toLex (-(available : ℤ), day.date)) :
          ℕ ×ₗ ℤ ×ₗ Date)
  (minByKey id candidates).map fun best => (ofLex (ofLex best).2).2

/-! ## Actions -/

/-- `_preference_score`. -/
def preferenceScore (trip : TripSpec) (poi : PlanningPOI) : ℤ :=
  4 * categoryMatches poi trip.interests - 5 * categoryMatches poi trip.avoid

/-- Take elements until their amounts reach the excess; nothing when they never do. -/
def takeEnough {α : Type} (amount : α → ℚ) (excess saved : ℚ) : List α → Option (List α)
  | [] => none
  | a :: rest =>
    let saved := saved + amount a
    if excess ≤ saved then some [a]
    else (takeEnough amount excess saved rest).map (a :: ·)

/-- An action that removes a place from a day. -/
def removeAction (violationType poiId reason effect : String) (day : Date) : RepairAction :=
  { kind := .removeOptionalPoi, sourceViolationType := violationType, poiId
    fromDay := some day, toDay := none, reason, expectedEffect := effect }

/-- A scheduled activity with its day and its known place. -/
structure RemovableItem where
  day : Date
  item : PlanItem
  poiId : String
  poi : PlanningPOI

/-- The activities of some days that have a known place and are not required. -/
def removableItems (trip : TripSpec) (pois : List PlanningPOI) (items : List (Date × PlanItem)) :
    List RemovableItem :=
  items.filterMap fun (day, item) => do
    let poiId ← item.poiId
    let poi ← poiById pois poiId
    if isActivity item ∧ ¬trip.isMustVisit item.name then some ⟨day, item, poiId, poi⟩ else none

/-- The largest contribution first, then the least preferred. -/
def removalRank (trip : TripSpec) (amount : RemovableItem → ℚ) (option : RemovableItem) :
    ℚ ×ₗ ℤ ×ₗ String :=
  toLex (-amount option, toLex (preferenceScore trip option.poi, option.poiId))

/-- `_remove_actions_for_budget`. -/
def removeActionsForBudget (trip : TripSpec) (candidate : PlanCandidate)
    (pois : List PlanningPOI) : List RepairAction :=
  match trip.totalBudget with
  | none => []
  | some budget =>
    let excess := candidate.metrics.knownEstimatedCost - budget
    let amount (option : RemovableItem) : ℚ := option.item.estimatedCost.getD 0
    let options := (removableItems trip pois candidate.datedItems).filter fun option =>
      decide (0 < amount option)
    if excess ≤ 0 then []
    else match takeEnough amount excess 0 (sortByKey (removalRank trip amount) options) with
      | none => []
      | some removed => removed.map fun option =>
        removeAction "budget_exceeded" option.poiId "移除高费用且非必去的活动"
          ("减少已知费用 " ++ decimalText (amount option) ++ " 元") option.day

/-- How much an item adds to what a day limit counts. -/
def dayContribution (violationType : String) (item : PlanItem) : ℤ :=
  if violationType = "walking_limit" then
    min (roundHalfEven (item.distanceFromPreviousMeters * (12 / 100))) 2000
  else itemMinutes item

/-- By how much a day exceeds its limit. -/
def dayExcess (trip : TripSpec) (violationType : String) (day : DayPlan) : ℤ :=
  if violationType = "walking_limit" then
    day.walkingDistanceMeters - trip.mobility.maxDailyWalkingMeters
  else ((day.items.filter isActivity).map itemMinutes).sum - trip.mobility.maxDailyActivityMinutes

/-- `_remove_actions_for_day_limit`. -/
def removeActionsForDayLimit (trip : TripSpec) (candidate : PlanCandidate)
    (pois : List PlanningPOI) (day : Date) (violationType : String) : List RepairAction :=
  match candidate.days.find? fun planDay => decide (planDay.date = day) with
  | none => []
  | some planDay =>
    let excess := dayExcess trip violationType planDay
    let amount (option : RemovableItem) : ℚ := dayContribution violationType option.item
    let options := removableItems trip pois (planDay.items.map fun item => (day, item))
    if excess ≤ 0 then []
    else match takeEnough amount excess 0 (sortByKey (removalRank trip amount) options) with
      | none => []
      | some removed => removed.map fun option =>
        removeAction violationType option.poiId "降低受影响日期的活动密度"
          ("降低 " ++ violationType ++ " 约 " ++
            toString (dayContribution violationType option.item)) day

/-- The action that schedules a required place. -/
def mustVisitAction (trip : TripSpec) (draft : CandidateDraft) (pois : List PlanningPOI)
    (required : String) : Option RepairAction := do
  let poi ← pois.find? fun poi => namesOverlap required poi.facts.name
  let currentDay := (draft.days.find? fun day => decide (poi.facts.id ∈ day.poiIds)).map
    DraftDay.date
  let targetDay ← (bestTargetDay trip draft poi currentDay).or (bestTargetDay trip draft poi none)
  return {
    kind := if currentDay ≠ none ∧ currentDay ≠ some targetDay then .movePoi else .insertMustVisit
    sourceViolationType := "missing_must_visit"
    poiId := poi.facts.id
    fromDay := currentDay
    toDay := some targetDay
    reason := "把遗漏的必去地点放入可用时间更充足的日期"
    expectedEffect := "覆盖必去地点 " ++ required }

/-- `_actions_for_missing_must_visit`. -/
def actionsForMissingMustVisit (trip : TripSpec) (candidate : PlanCandidate)
    (draft : CandidateDraft) (pois : List PlanningPOI) : List RepairAction :=
  let missing := trip.mustVisit.filter fun required =>
    !mustVisitScheduled (scheduledNames candidate) required
  (missing.mapM (mustVisitAction trip draft pois)).getD []

/-- Required places first, then by preference, confidence and id. -/
def emptyPlanRank (trip : TripSpec) (poi : PlanningPOI) : ℕ ×ₗ ℤ ×ₗ ℚ ×ₗ String :=
  toLex (if isRequiredPoi trip poi then 0 else 1, toLex (-preferenceScore trip poi,
    toLex (-poi.dataConfidence, poi.facts.id)))

/-- `_actions_for_empty_plan`. -/
def actionsForEmptyPlan (trip : TripSpec) (draft : CandidateDraft) (pois : List PlanningPOI) :
    List RepairAction :=
  let action := (sortByKey (emptyPlanRank trip) pois).findSome? fun poi =>
    (bestTargetDay trip draft poi none).map fun target : Date =>
      ({ kind := .addAvailablePoi, sourceViolationType := "empty_plan", poiId := poi.facts.id
         fromDay := none, toDay := some target, reason := "为空计划补入可执行地点"
         expectedEffect := "计划至少包含一个活动" } : RepairAction)
  action.toList

/-- The activities that a local violation is about, the latest first. -/
def conflictingItems (day : DayPlan) (entityIds : List String) : List (PlanItem × String) :=
  let items := day.items.filterMap fun item => item.poiId.bind fun poiId =>
    if isActivity item ∧ (entityIds = [] ∨ poiId ∈ entityIds) then some (item, poiId) else none
  sortByKey (fun entry : PlanItem × String =>
    OrderDual.toDual (toLex (entry.1.startAt.instant, entry.2) : ℤ ×ₗ String)) items

/-- The action for one of the activities that a local violation is about. -/
def localTimeAction (trip : TripSpec) (draft : CandidateDraft) (pois : List PlanningPOI)
    (violationType : String) (day : Date) (entry : PlanItem × String) : Option RepairAction :=
  if ¬trip.isMustVisit entry.1.name then
    some (removeAction violationType entry.2 "移除造成时间冲突的非必去活动"
      ("修复 " ++ violationType) day)
  else do
    let poi ← poiById pois entry.2
    let target ← bestTargetDay trip draft poi (some day)
    return {
      kind := .movePoi
      sourceViolationType := violationType
      poiId := entry.2
      fromDay := some day
      toDay := some target
      reason := "把必去活动移动到可用日期"
      expectedEffect := "修复 " ++ violationType ++ " 且保留必去项" }

/-- `_actions_for_local_time_violation`. -/
def actionsForLocalTimeViolation (trip : TripSpec) (candidate : PlanCandidate)
    (draft : CandidateDraft) (pois : List PlanningPOI) (violation : Violation) :
    List RepairAction :=
  let action := do
    let day ← violation.day
    let planDay ← candidate.days.find? fun planDay : DayPlan => decide (planDay.date = day)
    (conflictingItems planDay violation.entityIds).findSome?
      (localTimeAction trip draft pois violation.type day)
  action.toList

/-! ## Plans -/

/-- The actions that one error calls for. -/
def actionsForViolation (trip : TripSpec) (candidate : PlanCandidate) (draft : CandidateDraft)
    (pois : List PlanningPOI) (violation : Violation) : List RepairAction :=
  if violation.type = "budget_exceeded" then removeActionsForBudget trip candidate pois
  else if violation.type = "walking_limit" ∨ violation.type = "activity_time_limit" then
    match violation.day with
    | some day => removeActionsForDayLimit trip candidate pois day violation.type
    | none => []
  else if violation.type = "missing_must_visit" then
    actionsForMissingMustVisit trip candidate draft pois
  else if violation.type = "empty_plan" then actionsForEmptyPlan trip draft pois
  else actionsForLocalTimeViolation trip candidate draft pois violation

/-- The actions for all errors, or the reason why there are none for one of them. -/
def generatedActions (trip : TripSpec) (candidate : PlanCandidate) (draft : CandidateDraft)
    (pois : List PlanningPOI) : List Violation → Except String (List RepairAction)
  | [] => .ok []
  | violation :: rest =>
    match actionsForViolation trip candidate draft pois violation with
    | [] => .error ("no_safe_repair_action:" ++ violation.type)
    | actions => (generatedActions trip candidate draft pois rest).map (actions ++ ·)

/-- What makes two actions the same. -/
def RepairAction.key (action : RepairAction) :
    RepairActionKind × String × Option Date × Option Date :=
  (action.kind, action.poiId, action.fromDay, action.toDay)

/-- `_deduplicate_actions`. -/
def deduplicateActions (seen : List (RepairActionKind × String × Option Date × Option Date)) :
    List RepairAction → List RepairAction
  | [] => []
  | action :: rest =>
    if action.key ∈ seen then deduplicateActions seen rest
    else action :: deduplicateActions (action.key :: seen) rest

/-- The text of one action in a fingerprint. -/
def actionText (action : RepairAction) : String :=
  ";".intercalate [action.kind.value, action.sourceViolationType, action.poiId,
    (action.fromDay.map Date.isoformat).getD "", (action.toDay.map Date.isoformat).getD ""]

/-- `_action_fingerprint`. -/
def actionFingerprint (actions : List RepairAction) : String :=
  prefixText 16 (sha256 ("|".intercalate ((actions.map actionText).insertionSort (· ≤ ·))))

/-- The plan that consists of some actions. -/
def repairPlanOf (candidate : PlanCandidate) (draft : CandidateDraft)
    (actions : List RepairAction) (repairRound : ℕ) : RepairPlan :=
  let affectedDays := sortedSet (actions.flatMap fun action =>
    action.fromDay.toList ++ action.toDay.toList)
  { round := repairRound
    targetCandidateId := candidate.id
    sourceViolationTypes := sortedSet (actions.map RepairAction.sourceViolationType)
    actions
    affectedDays
    preservedDays := (draft.days.map DraftDay.date).filter fun day => decide (day ∉ affectedDays)
    invalidatedRouteKeys := []
    expectedEffects := actions.map RepairAction.expectedEffect
    actionFingerprint := actionFingerprint actions }

/-- `build_repair_plan`: a plan, or the reason why there is none. -/
def buildRepairPlan (trip : TripSpec) (candidate : PlanCandidate) (draft : CandidateDraft)
    (pois : List PlanningPOI) (report : CriticReport) (repairRound : ℕ) :
    Option RepairPlan × Option String :=
  if ¬report.repairable then (none, report.terminalReason)
  else match generatedActions trip candidate draft pois (errorViolations candidate) with
    | .error reason => (none, some reason)
    | .ok actions =>
      match deduplicateActions [] actions with
      | [] => (none, some "empty_repair_plan")
      | actions => (some (repairPlanOf candidate draft actions repairRound), none)

/-! ## Applying a plan -/

/-- The POIs of each day of a draft; the last day of a date wins. -/
def dayPoisOf (draft : CandidateDraft) : Dict Date (List String) :=
  .ofList (draft.days.map fun day => (day.date, day.poiIds))

/-- Apply one action. -/
def applyRepairAction (dayPois : Dict Date (List String)) (action : RepairAction) :
    Result (Dict Date (List String)) :=
  let without (poiIds : List String) := poiIds.filter fun poiId => decide (poiId ≠ action.poiId)
  if action.kind = .removeOptionalPoi then
    match action.fromDay with
    | none => .ok dayPois
    | some day => do
      let poiIds ← orRaise (dayPois.get? day) .keyError
      return dayPois.set day (without poiIds)
  else
    let dayPois := dayPois.mapValues without
    match action.toDay with
    | none => .ok dayPois
    | some day => do
      let poiIds ← orRaise (dayPois.get? day) .keyError
      return dayPois.set day (action.poiId :: poiIds)

/-- The days of a draft with other POIs. -/
def daysWith (draft : CandidateDraft) (dayPois : Dict Date (List String)) : List DraftDay :=
  draft.days.map fun day => ⟨day.date, (dayPois.get? day.date).getD []⟩

/-- `apply_repair_plan`. -/
def applyRepairPlan (trip : TripSpec) (draft : CandidateDraft) (pois : List PlanningPOI)
    (plan : RepairPlan) (settings : RouteSettings) : Result (CandidateDraft × RepairPlan) := do
  let dayPois ← plan.actions.foldlM applyRepairAction (dayPoisOf draft)
  let repaired : CandidateDraft :=
    { id := draft.id ++ "-repair-r" ++ toString plan.round, style := draft.style
      days := daysWith draft dayPois }
  require (repaired.days ≠ draft.days)
    (.valueError "repair plan did not change candidate draft")
  let invalidated ← invalidatedRouteKeys trip draft repaired pois settings
  return (repaired, { plan with invalidatedRouteKeys := invalidated })

/-! ## What plans carry -/

section Plans

variable {trip : TripSpec} {candidate : PlanCandidate} {draft : CandidateDraft}
  {pois : List PlanningPOI}

/-- A plan is about the round and the candidate it was asked for. -/
theorem buildRepairPlan_some {report : CriticReport} {repairRound : ℕ} {plan : RepairPlan}
    {reason : Option String}
    (h : buildRepairPlan trip candidate draft pois report repairRound = (some plan, reason)) :
    plan.round = repairRound ∧ plan.targetCandidateId = candidate.id ∧ reason = none := by
  unfold buildRepairPlan at h
  split at h
  · exact absurd h (by simp)
  split at h
  · exact absurd h (by simp)
  · split at h
    · exact absurd h (by simp)
    · obtain ⟨hplan, hreason⟩ := Prod.mk.inj h
      obtain rfl := Option.some.inj hplan
      exact ⟨rfl, rfl, hreason.symm⟩

/-- Applying a plan only adds the invalidated routes to it. -/
theorem applyRepairPlan_eq_ok {plan applied : RepairPlan} {settings : RouteSettings}
    {repaired : CandidateDraft}
    (h : applyRepairPlan trip draft pois plan settings = .ok (repaired, applied)) :
    repaired.id = draft.id ++ "-repair-r" ++ toString plan.round ∧
      repaired.style = draft.style ∧ repaired.days ≠ draft.days ∧
      ∃ keys, applied = { plan with invalidatedRouteKeys := keys } := by
  obtain ⟨dayPois, _, h⟩ := bind_eq_ok h
  obtain ⟨_, hchanged, h⟩ := bind_eq_ok h
  obtain ⟨keys, _, h⟩ := bind_eq_ok h
  cases h
  exact ⟨rfl, rfl, require_eq_ok hchanged, keys, rfl⟩

end Plans

end TravelPlanAgent
