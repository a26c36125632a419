import TravelPlanAgent.Planning.Drafts

/-!
# Materialising drafts

`materializeCandidates` turns drafts into dated items.  A day is one loop over the POIs of the
draft day: choose a route for the leg, wait for the opening, and stop at the first POI that
does not fit before the end of the day or before closing time.

* `routeByMode`, `chooseLeg`: the routes of a leg and the one that is taken.
* `visitNext`, `visitAll`: one round of the loop and the loop.
* `materializeDay`, `materializeCandidate`, `materializeCandidates`: the days, the metrics and
  the score of a candidate.
* `visitNext_eq_some`: everything that one round does.
-/

namespace TravelPlanAgent

open Calendar Selection

variable [Platform]

/-! ## Legs -/

/-- The route taken for a leg and the walking it costs. -/
structure Leg where
  route : RouteResult
  walkingMeters : ℕ
  walkingIsEstimated : Bool

/-- The key of a leg in one mode. -/
def legKey (settings : RouteSettings) (origin destination : Coordinate)
    (originPoiId : Option String) (poiId : String) (mode : RouteMode) : String :=
  routeKey (legQuery settings origin destination originPoiId poiId mode)

/-- `route_by_mode`: the stored routes of a leg, for every mode that is looked up. -/
def routeByMode (settings : RouteSettings) (routes : Routes) (origin destination : Coordinate)
    (originPoiId : Option String) (poiId : String) : Result (Dict RouteMode RouteResult) := do
  let found ← (legModes settings origin destination).mapM fun mode => do
    let key := legKey settings origin destination originPoiId poiId mode
    let result ← orRaise (routes.get? key) (.missingRouteResult key)
    return (mode, result)
  return Dict.ofList found

/-- `hybrid_routes_enabled`. -/
def RouteSettings.hybrid (settings : RouteSettings) : Bool :=
  match settings.modes with
  | none => false
  | some modes => decide (.walking ∈ modes)

/-- Walk when the leg is short and the walking of the day stays within its limit; drive
otherwise.  Without real walking routes a share of the driven distance counts as walking. -/
def chooseLeg (trip : TripSpec) (settings : RouteSettings) (walkingTotal : ℕ)
    (byMode : Dict RouteMode RouteResult) : Result Leg :=
  match byMode.get? .walking, byMode.get? .driving with
  | some walking, some driving =>
    if settings.maxWalkingLegMeters < walking.distanceMeters ∨
        trip.mobility.maxDailyWalkingMeters < walkingTotal + walking.distanceMeters then
      .ok ⟨driving, 0, false⟩
    else .ok ⟨walking, walking.distanceMeters, false⟩
  | some walking, none => .ok ⟨walking, walking.distanceMeters, false⟩
  | none, some driving =>
    if settings.hybrid then .ok ⟨driving, 0, false⟩
    else .ok ⟨driving, min (roundHalfEven (driving.distanceMeters * (12 / 100))).toNat 2000, true⟩
  | none, none => .error .assertionError

/-! ## One day -/

/-- The day's first usable instant: the daily start, or an hour after the arrival. -/
def dayStart (trip : TripSpec) (date : Date) : DateTime :=
  let start := DateTime.combine date trip.dailyStart trip.timezone
  if date = trip.arrival.instant.date then start.later (trip.arrival.instant.addMinutes 60)
  else start

/-- The day's last usable instant: the daily end, or an hour and a half before the departure. -/
def dayEnd (trip : TripSpec) (date : Date) : DateTime :=
  let finish := DateTime.combine date trip.dailyEnd trip.timezone
  if date = trip.departure.instant.date then
    finish.earlier (trip.departure.instant.addMinutes (-90))
  else finish

/-- What the loop over the POIs of a day carries along. -/
structure DayProgress where
  coordinate : Coordinate
  poiId : Option String
  time : DateTime
  items : List PlanItem
  scheduledPois : List PlanningPOI
  legs : List Leg
  knownCost : ℚ
  unknownCostCount : ℕ
  travelMinutesTotal : ℕ
  walkingTotal : ℕ

/-- Before the first POI. -/
def DayProgress.initial (trip : TripSpec) (date : Date) : DayProgress :=
  { coordinate := trip.anchorCoordinate, poiId := none, time := dayStart trip date
    items := [], scheduledPois := [], legs := []
    knownCost := 0, unknownCostCount := 0, travelMinutesTotal := 0, walkingTotal := 0 }

/-- When a visit starts: on arrival, or when the place opens. -/
def visitStart (trip : TripSpec) (date : Date) (window : TimeWindow) (time : DateTime)
    (leg : Leg) : DateTime :=
  (time.addMinutes leg.route.durationMinutes).later
    (DateTime.combine date window.start trip.timezone)

/-- The visit does not end before the end of the day and before closing time. -/
def visitTooLate (trip : TripSpec) (date : Date) (window : TimeWindow) (finish : DateTime) :
    Bool :=
  (dayEnd trip date).instant < finish.instant ∨
    (DateTime.combine date window.finish trip.timezone).instant < finish.instant

/-- The item of one visit; `PlanItem` refuses an empty interval and a negative cost. -/
def visitItem (poi : PlanningPOI) (leg : Leg) (start : DateTime) : Result PlanItem :=
  if h : start.instant < (start.addMinutes poi.durationMinutes).instant ∧
      ∀ cost ∈ poi.partyCost, 0 ≤ cost then
    .ok
      { itemId := none, type := .activity, name := poi.facts.name, startAt := start
        endAt := start.addMinutes poi.durationMinutes, poiId := some poi.facts.id
        travelFromPreviousMinutes := leg.route.durationMinutes
        distanceFromPreviousMeters := leg.route.distanceMeters
        estimatedCost := poi.partyCost, walkingDistanceEstimated := leg.walkingIsEstimated
        locked := false, startAt_lt_endAt := h.1, estimatedCost_nonneg := h.2 }
  else .error (.validationError "PlanItem")

/-- The totals and the position after a visit. -/
def DayProgress.visited (progress : DayProgress) (poi : PlanningPOI) (leg : Leg)
    (item : PlanItem) : DayProgress :=
  { coordinate := poi.facts.coordinate
    poiId := some poi.facts.id
    time := item.endAt
    items := progress.items ++ [item]
    scheduledPois := progress.scheduledPois ++ [poi]
    legs := progress.legs ++ [leg]
    knownCost := progress.knownCost + poi.partyCost.getD 0
    unknownCostCount := progress.unknownCostCount + (if poi.partyCost.isNone then 1 else 0)
    travelMinutesTotal := progress.travelMinutesTotal + leg.route.durationMinutes
    walkingTotal := progress.walkingTotal + leg.walkingMeters }

section Loop

variable (trip : TripSpec) (settings : RouteSettings) (pois : List PlanningPOI) (routes : Routes)
  (date : Date)

/-- The leg from the current position to a POI. -/
def nextLeg (progress : DayProgress) (poi : PlanningPOI) (poiId : String) : Result Leg := do
  let byMode ← routeByMode settings routes progress.coordinate poi.facts.coordinate
    progress.poiId poiId
  chooseLeg trip settings progress.walkingTotal byMode

/-- One round of the loop; `none` leaves the loop. -/
def visitNext (progress : DayProgress) (poiId : String) : Result (Option DayProgress) := do
  let poi ← orRaise (poiById pois poiId) (.missingPlanningPoi poiId)
  let leg ← nextLeg trip settings routes progress poi poiId
  let window ← orRaise (poi.openingWindows.get? date) .keyError
  let start := visitStart trip date window progress.time leg
  if visitTooLate trip date window (start.addMinutes poi.durationMinutes) then return none
  else
    let item ← visitItem poi leg start
    return some (progress.visited poi leg item)

/-- The loop over the POIs of a day. -/
def visitAll (progress : DayProgress) : List String → Result DayProgress
  | [] => .ok progress
  | poiId :: rest => do
    match ← visitNext trip settings pois routes date progress poiId with
    | none => .ok progress
    | some progress => visitAll progress rest

/-- The whole minutes of an item, rounded. -/
def itemMinutes (item : PlanItem) : ℤ := roundHalfEven (item.duration / 1000000 / 60)

/-- The two most common categories, the first seen first among equals. -/
def dayTheme (pois : List PlanningPOI) : String :=
  let categories := pois.flatMap fun poi => poi.facts.categories
  let common := (categories.eraseDups.insertionSort fun a b =>
    categories.count b ≤ categories.count a).take 2
  let text := " / ".intercalate common
  if text = "" then "自由活动" else text

/-- `min(1.0, busy minutes / max_daily_activity_minutes)`, rounded to three decimals. -/
def dayFatigue (trip : TripSpec) (items : List PlanItem) (travelMinutes : ℕ) : ℚ :=
  roundTo 3 (min 1
    (((items.map itemMinutes).sum + travelMinutes) / trip.mobility.maxDailyActivityMinutes))

/-- The day that the loop leaves behind. -/
def dayPlanOf (progress : DayProgress) : DayPlan :=
  { date
    theme := dayTheme progress.scheduledPois
    primaryArea := if progress.items.isEmpty then "未安排" else trip.destination
    items := progress.items
    knownEstimatedCost := progress.knownCost
    unknownCostItemCount := progress.unknownCostCount
    totalTravelMinutes := progress.travelMinutesTotal
    walkingDistanceMeters := progress.walkingTotal
    fatigueScore := dayFatigue trip progress.items progress.travelMinutesTotal }

end Loop

/-- A materialised day with the POIs and the legs it used. -/
structure MaterializedDay where
  day : DayPlan
  scheduledPois : List PlanningPOI
  legs : List Leg

/-- `used_routes`. -/
def MaterializedDay.usedRoutes (materialized : MaterializedDay) : List RouteResult :=
  materialized.legs.map Leg.route

/-- `_materialize_day`. -/
def materializeDay (trip : TripSpec) (settings : RouteSettings) (pois : List PlanningPOI)
    (routes : Routes) (draftDay : DraftDay) : Result MaterializedDay := do
  let progress ← visitAll trip settings pois routes draftDay.date
    (.initial trip draftDay.date) draftDay.poiIds
  return ⟨dayPlanOf trip draftDay.date progress, progress.scheduledPois, progress.legs⟩

/-! ## A candidate -/

/-- `_append_unique_assumptions`. -/
def appendUniqueAssumptions (target additions : List PlanningAssumption) :
    List PlanningAssumption :=
  additions.foldl (fun target assumption =>
    if assumption ∈ target then target else target ++ [assumption]) target

/-- `statistics.mean`, and zero for no values. -/
def meanOrZero (values : List ℚ) : ℚ :=
  if values.isEmpty then 0 else values.sum / values.length

/-- The assumption that walking is a share of the driven distance. -/
def walkingAssumptions (settings : RouteSettings) (days : List MaterializedDay) :
    List PlanningAssumption :=
  let estimated := if .walking ∈ settings.activeModes then [] else
    (days.flatMap MaterializedDay.usedRoutes).filter fun route => decide (route.mode ≠ .walking)
  match firstMin (fun a b : DateTime => decide (a.instant < b.instant))
      (estimated.map RouteResult.fetchedAt) with
  | none => []
  | some createdAt =>
    [{ field := "walking_distance"
       value := "min(round(driving_distance_meters * 0.12), 2000)"
       reason := "基于路线 Provider 标准化距离派生接驳步行估算，非步行路线事实"
       source := .default
       affectedDates := (days.filter fun day => !day.day.items.isEmpty).map fun day => day.day.date
       createdAt }]

/-- The assumptions of a candidate, each once. -/
def candidateAssumptions (settings : RouteSettings) (days : List MaterializedDay) :
    List PlanningAssumption :=
  appendUniqueAssumptions
    ((days.flatMap MaterializedDay.scheduledPois).foldl
      (fun target poi => appendUniqueAssumptions target poi.assumptions) [])
    (walkingAssumptions settings days)

/-- The metrics of a candidate. -/
def candidateMetrics (trip : TripSpec) (days : List MaterializedDay) : PlanMetrics :=
  let pois := days.flatMap MaterializedDay.scheduledPois
  let routes := days.flatMap MaterializedDay.usedRoutes
  let plans := days.map MaterializedDay.day
  let interests := trip.interests.map normalize
  let matching := pois.countP fun poi =>
    poi.facts.categories.any fun category => decide (normalize category ∈ interests)
  let categories := (pois.flatMap fun poi => poi.facts.categories).dedup
  { preferenceMatch := roundTo 3 (if pois.isEmpty then 0 else (matching : ℚ) / pois.length)
    diversity := roundTo 3 (min 1 ((categories.length : ℚ) / 5))
    dataConfidence := roundTo 3 (meanOrZero
      (pois.map PlanningPOI.dataConfidence ++ routes.map RouteResult.dataConfidence))
    totalTravelMinutes := (plans.map DayPlan.totalTravelMinutes).sum
    walkingDistanceMeters := (plans.map DayPlan.walkingDistanceMeters).sum
    knownEstimatedCost := (plans.map DayPlan.knownEstimatedCost).sum
    unknownCostItemCount := (plans.map DayPlan.unknownCostItemCount).sum
    fatigueScore := roundTo 3 (meanOrZero (plans.map DayPlan.fatigueScore)) }

/-- The score of a candidate. -/
def candidateScore (trip : TripSpec) (metrics : PlanMetrics)
    (assumptions : List PlanningAssumption) : ℚ :=
  let budgetRisk := match trip.totalBudget with
    | some budget => min 1 (metrics.knownEstimatedCost / budget)
    | none => 0
  let warningTypes := ((assumptions.filter fun a => decide (a.source = .default)).map
    PlanningAssumption.field).dedup
  let warningRisk := min 1
    (((warningTypes.length : ℚ) + if 0 < metrics.unknownCostItemCount then 1 else 0) / 4)
  let travel : ℚ := metrics.totalTravelMinutes / max 1 (trip.dayCount * 180 : ℕ)
  roundTo 4 (35 / 100 * metrics.preferenceMatch + 20 / 100 * metrics.diversity +
    15 / 100 * metrics.dataConfidence - 10 / 100 * min 1 travel -
    10 / 100 * metrics.fatigueScore - 10 / 100 * budgetRisk - 10 / 100 * warningRisk)

/-- `_materialize_candidate`. -/
def materializeCandidate (trip : TripSpec) (settings : RouteSettings) (pois : List PlanningPOI)
    (routes : Routes) (draft : CandidateDraft) : Result PlanCandidate := do
  let days ← draft.days.mapM (materializeDay trip settings pois routes)
  let assumptions := candidateAssumptions settings days
  let metrics := candidateMetrics trip days
  return { id := draft.id, style := draft.style, days := days.map MaterializedDay.day, metrics
           validation := none, score := some (candidateScore trip metrics assumptions)
           assumptions }

/-- `materialize_candidates`. -/
def materializeCandidates (trip : TripSpec) (drafts : List CandidateDraft)
    (pois : List PlanningPOI) (routes : Routes) (settings : RouteSettings) :
    Result (List PlanCandidate) := do
  let queries ← collectRouteQueries trip drafts pois settings
  queries.forM fun query =>
    require (routes.contains (routeKey query)) (.missingRouteResult (routeKey query))
  drafts.mapM (materializeCandidate trip settings pois routes)

/-! ## What the loop does -/

omit [Platform] in
theorem visitItem_eq_ok {poi : PlanningPOI} {leg : Leg} {start : DateTime} {item : PlanItem}
    (h : visitItem poi leg start = .ok item) :
    item.itemId = none ∧ item.type = .activity ∧ item.name = poi.facts.name ∧
      item.startAt = start ∧ item.endAt = start.addMinutes poi.durationMinutes ∧
      item.poiId = some poi.facts.id ∧ item.locked = false ∧
      item.travelFromPreviousMinutes = leg.route.durationMinutes ∧
      item.distanceFromPreviousMeters = leg.route.distanceMeters ∧
      item.estimatedCost = poi.partyCost ∧
      item.walkingDistanceEstimated = leg.walkingIsEstimated := by
  unfold visitItem at h
  split at h
  · rw [Except.ok.injEq] at h
    subst h
    exact ⟨rfl, rfl, rfl, rfl, rfl, rfl, rfl, rfl, rfl, rfl, rfl⟩
  · exact absurd h (by simp)

section Loop

variable {trip : TripSpec} {settings : RouteSettings} {pois : List PlanningPOI} {routes : Routes}
  {date : Date}

/-- Everything that a round of the loop does when it schedules a visit. -/
theorem visitNext_eq_some {progress after : DayProgress} {poiId : String}
    (h : visitNext trip settings pois routes date progress poiId = .ok (some after)) :
    ∃ poi leg window item, poiById pois poiId = some poi ∧
      nextLeg trip settings routes progress poi poiId = .ok leg ∧
      poi.openingWindows.get? date = some window ∧
      visitTooLate trip date window
        ((visitStart trip date window progress.time leg).addMinutes poi.durationMinutes) = false ∧
      visitItem poi leg (visitStart trip date window progress.time leg) = .ok item ∧
      after = progress.visited poi leg item := by
  obtain ⟨poi, hpoi, h⟩ := bind_eq_ok h
  obtain ⟨leg, hleg, h⟩ := bind_eq_ok h
  obtain ⟨window, hwindow, h⟩ := bind_eq_ok h
  dsimp only at h
  refine ⟨poi, leg, window, ?_⟩
  split at h
  · exact absurd h (by simp [pure, Except.pure])
  · next hlate =>
    obtain ⟨item, hitem, h⟩ := bind_eq_ok h
    refine ⟨item, orRaise_eq_ok hpoi, hleg, orRaise_eq_ok hwindow, by simpa using hlate, hitem, ?_⟩
    exact (Option.some.inj (Except.ok.inj h)).symm

theorem visitAll_cons (progress : DayProgress) (poiId : String) (rest : List String) :
    visitAll trip settings pois routes date progress (poiId :: rest) =
      (visitNext trip settings pois routes date progress poiId >>= fun next =>
        match next with
        | none => .ok progress
        | some after => visitAll trip settings pois routes date after rest) := by
  rfl

/-- What every scheduled visit preserves, the loop preserves. -/
theorem visitAll_preserves {motive : DayProgress → Prop}
    (step : ∀ progress poiId after, motive progress →
      visitNext trip settings pois routes date progress poiId = .ok (some after) → motive after)
    {progress final : DayProgress} {poiIds : List String} (hstart : motive progress)
    (h : visitAll trip settings pois routes date progress poiIds = .ok final) :
    motive final := by
  induction poiIds generalizing progress with
  | nil => exact Except.ok.inj h ▸ hstart
  | cons poiId rest ih =>
    rw [visitAll_cons] at h
    obtain ⟨next, hnext, h⟩ := bind_eq_ok h
    cases next with
    | none => exact Except.ok.inj h ▸ hstart
    | some after => exact ih (step progress poiId after hstart hnext) h

/-- The loop schedules the POIs of a prefix, in order. -/
theorem visitAll_items {progress final : DayProgress} {poiIds : List String}
    (h : visitAll trip settings pois routes date progress poiIds = .ok final) :
    ∃ visited, visited <+: poiIds ∧
      final.items.map PlanItem.poiId =
        progress.items.map PlanItem.poiId ++ visited.map some := by
  induction poiIds generalizing progress with
  | nil => exact ⟨[], List.prefix_rfl, by simp [← Except.ok.inj h]⟩
  | cons poiId rest ih =>
    rw [visitAll_cons] at h
    obtain ⟨next, hnext, h⟩ := bind_eq_ok h
    cases next with
    | none => exact ⟨[], List.nil_prefix, by simp [← Except.ok.inj h]⟩
    | some after =>
      obtain ⟨poi, leg, window, item, hpoi, _, _, _, hitem, rfl⟩ := visitNext_eq_some hnext
      obtain ⟨visited, hprefix, hitems⟩ := ih h
      refine ⟨poiId :: visited, List.cons_prefix_cons.mpr ⟨rfl, hprefix⟩, ?_⟩
      obtain ⟨_, _, _, _, _, hid, _⟩ := visitItem_eq_ok hitem
      rw [hitems, DayProgress.visited, List.map_append, List.map_singleton, hid,
        facts_id_of_poiById hpoi, List.map_cons, List.append_assoc, List.singleton_append]

end Loop

end TravelPlanAgent
