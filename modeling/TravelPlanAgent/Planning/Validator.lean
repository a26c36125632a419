import TravelPlanAgent.Planning.Planner

/-!
# The hard validator

`validateCandidate` checks a candidate against the trip without looking at how it was built:
it sorts the items of every day again and derives every limit from the trip.

* `itemViolations`, `dayViolations`, `budgetViolations`: what is reported about an item, a day
  and the whole candidate.
* `assumptionWarnings`: one warning for each kind of default fact.
* `mem_validateCandidate_iff`: a violation of a candidate comes from exactly these sources.
-/

namespace TravelPlanAgent

open Calendar Selection

variable [Platform]

/-! ## Violations -/

/-- A violation of severity `error`. -/
def errorViolation (type message : String) (day : Option Date) (entityIds : List String)
    (repairHint : Option String) : Violation :=
  { type, severity := .error, message, day, entityIds, repairHint }

/-- A violation of severity `warning`. -/
def warningViolation (type message : String) (repairHint : Option String) : Violation :=
  { type, severity := .warning, message, day := none, entityIds := [], repairHint }

/-- An optional id, left out when it is missing or empty. -/
def entityIdsOf (poiIds : List (Option String)) : List String :=
  poiIds.filterMap fun poiId => poiId.filter fun value => decide (value ≠ "")

def isActivity (item : PlanItem) : Bool := decide (item.type = .activity)

/-! ## Assumptions -/

/-- `_ASSUMPTION_WARNINGS`. -/
def assumptionWarning (field : String) : String × String :=
  if field = "opening_window" then
    ("opening_hours_unverified", "营业时间来自默认假设，尚未由 Provider 验证")
  else if field = "duration_minutes" then
    ("duration_unverified", "游览时长来自默认假设，尚未由 Provider 验证")
  else if field = "walking_distance" ∨ field = "walking_distance_meters" then
    ("walking_distance_estimated", "步行距离包含估算路线，尚未由 Provider 验证")
  else if field = "party_cost" then
    ("cost_unverified", "部分地点费用未知，尚未由 Provider 验证")
  else (field ++ "_unverified", field ++ " 来自默认假设，尚未验证")

/-- `dict.setdefault` for a warning. -/
def setDefaultWarning (warnings : Dict String Violation) (entry : String × String) :
    Dict String Violation :=
  if warnings.contains entry.1 then warnings
  else warnings.set entry.1 (warningViolation entry.1 entry.2 none)

/-- `_assumption_warnings`: one warning for each type, sorted by type. -/
def assumptionWarnings (assumptions : List PlanningAssumption) (openingHoursUnverified : Bool) :
    List Violation :=
  let entries := (assumptions.filter fun a => decide (a.source = .default)).map
    fun a => assumptionWarning a.field
  let unverified := if openingHoursUnverified then
    [("opening_hours_unverified", "部分日程营业时间来自默认假设，尚未由 Provider 验证")] else []
  let warnings := (entries ++ unverified).foldl setDefaultWarning ∅
  (sortedSet warnings.keys).filterMap warnings.get?

/-! ## Items and days -/

/-- `scheduled_names` mention a required place. -/
def mustVisitScheduled (names : List String) (required : String) : Bool :=
  names.any fun name => textIn (normalize required) name || textIn name (normalize required)

/-- Must-visit places that no activity mentions. -/
def mustVisitViolations (trip : TripSpec) (activities : List PlanItem) : List Violation :=
  let names := activities.map fun item => normalize item.name
  (trip.mustVisit.filter fun required => !mustVisitScheduled names required).map fun required =>
    errorViolation "missing_must_visit" ("必去地点未安排：" ++ required)
      none [] (some "调整每日活动上限或放宽其他约束")

/-- The source of the opening hours of a place on a day. -/
def openingSource (poi : PlanningPOI) (day : Date) : ValueSource :=
  (poi.openingWindowSources.get? day).getD .default

/-- The place of an item, when its id is not empty and known. -/
def itemPoi (pois : List PlanningPOI) (item : PlanItem) : Option PlanningPOI :=
  (item.poiId.filter fun value => decide (value ≠ "")).bind (poiById pois)

/-- The item's opening hours on a day are not known from the provider. -/
def openingUnverified (pois : List PlanningPOI) (day : Date) (item : PlanItem) : Bool :=
  match itemPoi pois item with
  | none => false
  | some poi => decide (openingSource poi day ≠ .provider)

/-- An item outside the opening hours that the provider gives for its place. -/
def openingViolations (pois : List PlanningPOI) (day : Date) (item : PlanItem) :
    List Violation :=
  match itemPoi pois item with
  | none => []
  | some poi =>
    if openingSource poi day ≠ .provider then []
    else match poi.openingWindows.get? day with
      | none => []
      | some window =>
        let opening := DateTime.combine day window.start item.startAt.offset
        let closing := DateTime.combine day window.finish item.startAt.offset
        if item.startAt.instant < opening.instant ∨ closing.instant < item.endAt.instant then
          [errorViolation "outside_opening_hours" (poi.facts.name ++ " 的访问时间不在营业时间内")
            (some day) [poi.facts.id] (some "调整访问时间或移动到其他日期")]
        else []

/-- What is reported about one item after its predecessor. -/
def itemViolations (trip : TripSpec) (pois : List PlanningPOI) (day : Date)
    (previous : Option PlanItem) (item : PlanItem) : List Violation :=
  let overlap := match previous with
    | none => []
    | some previous =>
      if item.startAt.instant < previous.endAt.instant then
        [errorViolation "time_overlap" (previous.name ++ " 与 " ++ item.name ++ " 时间重叠")
          (some day) (entityIdsOf [previous.poiId, item.poiId]) (some "重新排序或减少活动")]
      else []
  let dailyStart := DateTime.combine day trip.dailyStart trip.timezone
  let dailyEnd := DateTime.combine day trip.dailyEnd trip.timezone
  let dailyWindow :=
    if isActivity item ∧ (item.startAt.instant < dailyStart.instant ∨
        dailyEnd.instant < item.endAt.instant) then
      [errorViolation "outside_daily_window" (item.name ++ " 的访问时间不在每日时间窗内")
        (some day) (entityIdsOf [item.poiId]) (some "调整访问时间或移动到其他日期")]
    else []
  let arrival :=
    if day = trip.arrival.instant.date ∧
        item.startAt.instant < (trip.arrival.instant.addMinutes 60).instant then
      [errorViolation "arrival_buffer" (item.name ++ " 安排在到达缓冲时间之前")
        (some day) (entityIdsOf [item.poiId]) none]
    else []
  let departure :=
    if day = trip.departure.instant.date ∧
        (trip.departure.instant.addMinutes (-90)).instant < item.endAt.instant then
      [errorViolation "departure_buffer" (item.name ++ " 结束时间侵占返程缓冲")
        (some day) (entityIdsOf [item.poiId]) none]
    else []
  overlap ++ dailyWindow ++ arrival ++ departure ++ openingViolations pois day item

/-- The items of a day in the order of their starts. -/
def orderedItems (day : DayPlan) : List PlanItem :=
  day.items.insertionSort fun a b => a.startAt.instant ≤ b.startAt.instant

/-- `int(total_seconds() / 60)` of an item. -/
def wholeMinutes (item : PlanItem) : ℤ := item.duration.tdiv 60000000

/-- The activity minutes of a day. -/
def activityMinutes (items : List PlanItem) : ℤ :=
  ((items.filter isActivity).map wholeMinutes).sum

/-- More walking than the traveller accepts. -/
def walkingViolations (trip : TripSpec) (day : DayPlan) : List Violation :=
  if trip.mobility.maxDailyWalkingMeters < day.walkingDistanceMeters then
    [errorViolation "walking_limit"
      ("预计步行 " ++ toString day.walkingDistanceMeters ++ " 米，超过上限 " ++
        toString trip.mobility.maxDailyWalkingMeters ++ " 米")
      (some day.date) [] (some "减少跨区域活动或降低每日活动数量")]
  else []

/-- More activity minutes than the traveller accepts. -/
def activityViolations (trip : TripSpec) (day : DayPlan) : List Violation :=
  let minutes := activityMinutes (orderedItems day)
  if (trip.mobility.maxDailyActivityMinutes : ℤ) < minutes then
    [errorViolation "activity_time_limit"
      ("活动时间 " ++ toString minutes ++ " 分钟，超过每日上限 " ++
        toString trip.mobility.maxDailyActivityMinutes ++ " 分钟")
      (some day.date) [] (some "减少活动或移动到其他日期")]
  else []

/-- What is reported about one day. -/
def dayViolations (trip : TripSpec) (pois : List PlanningPOI) (day : DayPlan) :
    List Violation :=
  let ordered := orderedItems day
  (ordered.zip (none :: ordered.map some)).flatMap
      (fun (item, previous) => itemViolations trip pois day.date previous item) ++
    walkingViolations trip day ++ activityViolations trip day

/-! ## The candidate -/

/-- A plan without any activity. -/
def emptyPlanViolations (activities : List PlanItem) : List Violation :=
  if activities.isEmpty then
    [errorViolation "empty_plan" "计划中没有任何活动"
      none [] (some "增加可用时间、预算或候选地点")]
  else []

/-- What is reported about the budget. -/
def budgetViolations (trip : TripSpec) (items : List PlanItem) : List Violation :=
  match trip.totalBudget with
  | none => []
  | some budget =>
    let knownCost := (items.filterMap PlanItem.estimatedCost).sum
    let unknown := items.countP fun item => item.estimatedCost.isNone
    (if 0 < unknown then
      [warningViolation "budget_unverified"
        ("有 " ++ toString unknown ++ " 个日程费用未知；已知费用 " ++ decimalText knownCost ++
          " 元，无法验证总预算 " ++ decimalText budget ++ " 元")
        (some "补充地点、交通或餐饮费用后重新验证预算")]
    else []) ++
    (if budget < knownCost then
      [errorViolation "budget_exceeded"
        ("已知预计费用 " ++ decimalText knownCost ++ " 元，超过预算 " ++ decimalText budget ++ " 元")
        none [] (some "减少收费活动或提高预算")]
    else [])

/-- All violations, in the order in which they are reported. -/
def candidateViolations (trip : TripSpec) (candidate : PlanCandidate)
    (pois : List PlanningPOI) : List Violation :=
  let items := candidate.days.flatMap DayPlan.items
  let activities := items.filter isActivity
  let openingHoursUnverified := candidate.days.any fun day =>
    day.items.any (openingUnverified pois day.date)
  emptyPlanViolations activities ++ mustVisitViolations trip activities ++
    candidate.days.flatMap (dayViolations trip pois) ++ budgetViolations trip items ++
    assumptionWarnings candidate.assumptions openingHoursUnverified

/-- `validate_candidate`. -/
def validateCandidate (trip : TripSpec) (candidate : PlanCandidate) (pois : List PlanningPOI) :
    ValidationResult :=
  .fromViolations (candidateViolations trip candidate pois)

end TravelPlanAgent
