import TravelPlanAgent.Domain.Lifecycle
import TravelPlanAgent.Lifecycle.Fingerprints
import TravelPlanAgent.Planning.Defaults
import TravelPlanAgent.Planning.Drafts

/-!
# The response to a change of the weather

* `classifyPlanningPoi`: how exposed a place is, from its categories and its name.
* `analyzeWeatherImpact`: the exposed items on the affected dates, and what stands in the way.
* `resolveIndoorAlternatives`: indoor places that are not part of the plan.
* `buildWeatherRepairPlan`, `repairPlanToEditPatch`: replace, move or remove each item.
-/

namespace TravelPlanAgent

open Calendar Selection

variable [Platform]

/-! ## Exposure -/

def indoorTerms : List String :=
  ["博物馆", "美术馆", "展览馆", "展馆", "商场", "购物中心", "室内", "剧院", "科技馆"]

def outdoorTerms : List String := ["自然", "公园", "湿地", "山岳", "植物园", "动物园", "广场"]

def mixedTerms : List String := ["寺庙", "街区", "古镇", "景区", "校园"]

/-- `classify_planning_poi`. -/
def classifyPlanningPoi (poi : PlanningPOI) (itemId : String) : ActivityExposure :=
  let categories := poi.facts.categories.map strip
  let name := strip poi.facts.name
  let byCategory (terms : List String) : Bool := categories.any fun c => decide (c ∈ terms)
  let byName (terms : List String) : Bool := terms.any fun term => textIn term name
  if byCategory indoorTerms || byName indoorTerms then
    ⟨itemId, .indoor, some "category.indoor.v1",
      if byCategory indoorTerms then 95 / 100 else 8 / 10⟩
  else if byCategory outdoorTerms || byName outdoorTerms then
    ⟨itemId, .outdoor, some "category.outdoor.v1",
      if byCategory outdoorTerms then 95 / 100 else 8 / 10⟩
  else if byCategory mixedTerms || byName mixedTerms then
    ⟨itemId, .mixed, some "category.mixed.v1", 85 / 100⟩
  else ⟨itemId, .unknown, none, 0⟩

/-- `indoor_alternatives`: the most trusted first. -/
def indoorAlternatives (pois : List PlanningPOI) (excluded : List String)
    (minimumConfidence : ℚ) : List PlanningPOI :=
  (pois.filter fun poi =>
    decide (poi.facts.id ∉ excluded) &&
      (let exposure := classifyPlanningPoi poi poi.facts.id
       decide (exposure.exposure = .indoor ∧
         minimumConfidence ≤ exposure.confidence))).insertionSort
    fun a b => b.dataConfidence < a.dataConfidence ∨
      a.dataConfidence = b.dataConfidence ∧ a.facts.id ≤ b.facts.id

/-! ## Impact -/

/-- What the weather means for one item. -/
inductive WeatherFinding where
  | affected (itemId : String) (date : Date) (reason : String)
  | unclear (itemId : String) (reason : String)

/-- What the weather means for an item on a date at risk. -/
def itemFinding (pois : List PlanningPOI) (date : Date) (item : PlanItem) :
    Option WeatherFinding := do
  let itemId ← item.itemId
  let poiId ← item.poiId
  match poiById pois poiId with
  | none => some (.unclear itemId "planning_poi_missing")
  | some poi =>
    match (classifyPlanningPoi poi itemId).exposure with
    | .outdoor => some (.affected itemId date "exposure_outdoor")
    | .mixed => some (.affected itemId date "exposure_mixed")
    | .unknown => some (.unclear itemId "activity_exposure_unknown")
    | .indoor => none

/-- What the weather means for a day, with the reasons. -/
def dayFindings (event : ChangeEvent) (risks : List DailyWeatherRisk) (pois : List PlanningPOI)
    (day : DayPlan) : List WeatherFinding :=
  if day.date ∉ event.affectedDates then []
  else match lastWith (fun risk => decide (risk.date = day.date)) risks with
    | none => []
    | some risk =>
      match risk.level with
      | .normal => []
      | .unknown => day.items.filterMap fun item =>
          item.itemId.map fun itemId => .unclear itemId "weather_risk_unknown"
      | _ => day.items.filterMap (itemFinding pois day.date)

/-- A day whose risk is unknown is reported even when it has no items. -/
def unknownRiskDays (event : ChangeEvent) (risks : List DailyWeatherRisk) (days : List DayPlan) :
    Bool :=
  days.any fun day => decide (day.date ∈ event.affectedDates) &&
    (lastWith (fun risk => decide (risk.date = day.date)) risks).any fun risk =>
      decide (risk.level = .unknown)

/-- `analyze_weather_impact`. -/
def analyzeWeatherImpact (event : ChangeEvent) (candidate : PlanCandidate)
    (pois : List PlanningPOI) (risks : List DailyWeatherRisk) (locks : List PlanLock)
    (maxAffectedDays : ℕ) : WeatherImpactResult :=
  let findings := candidate.days.flatMap (dayFindings event risks pois)
  let items := sortedSet (findings.filterMap fun
    | .affected itemId _ _ => some itemId
    | .unclear _ _ => none)
  let dates := sortedSet (findings.filterMap fun
    | .affected _ date _ => some date
    | .unclear _ _ => none)
  let unknown := sortedSet (findings.filterMap fun
    | .affected _ _ _ => none
    | .unclear itemId _ => some itemId)
  let conflicts := sortedSet ((locks.filter fun lock =>
    match lock.kind with
    | .day => decide (lock.targetId ∈ dates.map Date.isoformat)
    | .item => decide (lock.targetId ∈ items)).map PlanLock.lockId)
  let tooManyDays := decide (maxAffectedDays < dates.length)
  let tooManyItems := decide (3 < items.length)
  { eventId := event.eventId, affectedDates := dates, affectedItemIds := items
    preservedDates := sortedSet ((candidate.days.map DayPlan.date).filter fun date =>
      decide (date ∉ dates))
    lockConflicts := conflicts, unknownExposureItemIds := unknown
    requiresUserAttention := !conflicts.isEmpty || !unknown.isEmpty || tooManyDays || tooManyItems
    reasons := sortedSet ((findings.map fun
        | .affected _ _ reason => reason
        | .unclear _ reason => reason) ++
      (if unknownRiskDays event risks candidate.days then ["weather_risk_unknown"] else []) ++
      (if tooManyDays then ["affected_day_budget_exceeded"] else []) ++
      (if tooManyItems then ["operation_budget_exceeded"] else [])) }

/-! ## Alternatives -/

/-- The searches for indoor places. -/
def indoorKeywords : List String :=
  ["博物馆", "美术馆", "科技馆", "展览馆", "室内景点", "购物中心", "剧院", "文化馆", "图书馆", "商场"]

/-- Add resolved places whose ids are new. -/
def mergePlanningPois (policy : UnknownFactPolicy) (trip : TripSpec) (pois : List PlanningPOI)
    (found : List POIFacts) : List PlanningPOI :=
  found.foldl (fun pois facts =>
    if pois.any fun poi => decide (poi.facts.id = facts.id) then pois
    else match resolvePlanningPoi policy facts trip with
      | some poi => pois ++ [poi]
      | none => pois) pois

/-- `{item.facts.id: item for item in pois}.values()`. -/
def uniquePois (pois : List PlanningPOI) : List PlanningPOI :=
  (Dict.ofList (pois.map fun poi => (poi.facts.id, poi))).values

/-- `resolve_indoor_alternatives`. -/
def resolveIndoorAlternatives (tools : ToolGateway) (policy : UnknownFactPolicy)
    (planningPolicy : PlanningPolicy) (trip : TripSpec) (candidate : PlanCandidate)
    (pois : List PlanningPOI) (maxSearches maxAlternatives : ℕ) (minimumConfidence : ℚ) :
    Result (List PlanningPOI) := do
  let queries := (indoorKeywords.take maxSearches).zipIdx.map fun (keyword, index) =>
    { city := trip.destination, keyword, exactMatch := false
      limit := min maxAlternatives planningPolicy.poiQueryLimit, priority := 100 - index }
  let found ← foundFacts (← tools.searchPois queries)
  let merged := mergePlanningPois policy trip (uniquePois pois) found
  let used := (candidate.days.flatMap DayPlan.items).filterMap PlanItem.poiId
  return (indoorAlternatives merged used minimumConfidence).take maxAlternatives

/-! ## Repair -/

/-- The action for one affected item, and the alternatives that are left. -/
def repairAction (trip : TripSpec) (safeDates : List Date) (alternatives : List PlanningPOI)
    (itemId : String) (located : Date × PlanItem) :
    Option (WeatherRepairAction × List PlanningPOI) :=
  if trip.isMustVisit located.2.name then
    (safeDates.find? fun date => decide (date ≠ located.1)).map fun target =>
      (⟨.moveToSafeDate, itemId, some target, none, none,
        ["must_visit_preserved", "target_weather_normal"]⟩, alternatives)
  else match alternatives with
    | poi :: rest =>
      some (⟨.replaceWithIndoor, itemId, none, some poi.facts.id, some poi.facts.name,
        ["indoor_alternative"]⟩, rest)
    | [] =>
      some (⟨.removeOptionalItem, itemId, none, none, none, ["no_safe_indoor_alternative"]⟩, [])

/-- The actions for the affected items, one after the other. -/
def repairActions (trip : TripSpec) (items : Dict String (Date × PlanItem))
    (safeDates : List Date) :
    List PlanningPOI → List String → Option (List WeatherRepairAction)
  | _, [] => some []
  | alternatives, itemId :: rest => do
    let located ← items.get? itemId
    let (action, alternatives) ← repairAction trip safeDates alternatives itemId located
    let actions ← repairActions trip items safeDates alternatives rest
    return action :: actions

/-- `build_weather_repair_plan`. -/
def buildWeatherRepairPlan (eventId baseVersionId : String) (trip : TripSpec)
    (candidate : PlanCandidate) (impact : WeatherImpactResult) (risks : List DailyWeatherRisk)
    (alternatives : List PlanningPOI) (locks : List PlanLock) : Option WeatherRepairPlan := do
  let items := Dict.ofList (candidate.datedItems.filterMap fun entry =>
    entry.2.itemId.map fun itemId => (itemId, entry))
  let lockedDays : List String :=
    (locks.filter fun lock => decide (lock.kind = .day)).map PlanLock.targetId
  let safeDates := (risks.filter fun risk =>
    decide (risk.level = .normal) && !lockedDays.contains risk.date.isoformat).map
      DailyWeatherRisk.date
  let actions ← repairActions trip items safeDates alternatives impact.affectedItemIds
  if actions.isEmpty ∨ 3 < actions.length then none
  else return {
    eventId, baseVersionId, affectedDates := impact.affectedDates, actions
    requiredToolOperations := ["poi.search", "route.delta"]
    preservedDayFingerprints :=
      (candidate.days.filter fun day => decide (day.date ∈ impact.preservedDates)).map
        fun day => (day.date.isoformat, dayFingerprint day) }

/-- `repair_plan_to_edit_patch`. -/
def repairPlanToEditPatch (plan : WeatherRepairPlan) : EditPatch :=
  ⟨plan.actions.map fun action =>
    let operation (kind : EditOperationKind) : EditOperation :=
      { kind, itemId := some action.itemId, itemName := none, targetDate := none
        targetIndex := none, poiName := none }
    match action.kind with
    | .replaceWithIndoor =>
      { operation .replaceItem with poiName := action.replacementPoiName }
    | .moveToSafeDate => { operation .moveItem with targetDate := action.targetDate }
    | .removeOptionalItem => operation .removeItem⟩

end TravelPlanAgent
