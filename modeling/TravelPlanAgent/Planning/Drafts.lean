import TravelPlanAgent.Domain.Plan

/-!
# Which routes a draft needs

`collectRouteQueries` walks every day of every draft from the anchor through the POIs of the
day and asks for one route per leg and active mode, each key once.  A walking route is not
asked for when the straight line is already too long.

* `RouteSettings`, `PlanningPolicy`: the parameters of a route lookup.
* `legQueries`, `dayQueries`, `collectRouteQueries`: the queries of a leg, a day and a draft.
* `mem_keys_firstByKey`: dropping repeated keys loses no key.
* `exists_dayQueries_of_collect`: a collected draft has every day collected, key by key.
-/

namespace TravelPlanAgent

open Calendar

variable [Platform]

/-! ## Settings -/

/-- The keyword arguments that the route functions share. -/
structure RouteSettings where
  strategy : ℕ := 32
  mode : RouteMode := .driving
  modes : Option (List RouteMode) := none
  maxWalkingLegMeters : ℕ := 1500
  deriving DecidableEq

/-- `route_modes or (route_mode,)`. -/
def RouteSettings.activeModes (settings : RouteSettings) : List RouteMode :=
  match settings.modes with
  | none => [settings.mode]
  | some [] => [settings.mode]
  | some modes => modes

/-- `PlanningPolicy` with the bounds of its `__post_init__`. -/
structure PlanningPolicy where
  poiQueryLimit : ℕ := 10
  poiCandidateLimit : ℕ := 12
  routeStrategy : ℕ := 32
  maxWalkingLegMeters : ℕ := 1500
  useRealWalkingRoutes : Bool := true
  poiMaxQueries : ℕ := 12
  poiQueryLimit_bounds : 1 ≤ poiQueryLimit ∧ poiQueryLimit ≤ 25 := by decide
  poiCandidateLimit_bounds : 1 ≤ poiCandidateLimit ∧ poiCandidateLimit ≤ 100 := by decide
  poiMaxQueries_bounds : 1 ≤ poiMaxQueries ∧ poiMaxQueries ≤ 100 := by decide
  maxWalkingLegMeters_pos : 0 < maxWalkingLegMeters := by decide

/-- `PlanningPolicy()`. -/
def PlanningPolicy.default : PlanningPolicy := {}

/-- `PlanningPolicy.route_modes`. -/
def PlanningPolicy.routeModes (policy : PlanningPolicy) : List RouteMode :=
  if policy.useRealWalkingRoutes then [.driving, .walking] else [.driving]

/-- The route arguments that the workflows pass on from their policy. -/
def PlanningPolicy.routeSettings (policy : PlanningPolicy) : RouteSettings :=
  { strategy := policy.routeStrategy
    modes := some policy.routeModes
    maxWalkingLegMeters := policy.maxWalkingLegMeters }

/-! ## Legs -/

/-- The straight line is longer than `max_walking_leg_meters * 1.25`. -/
def walkingLegTooLong (settings : RouteSettings) (origin destination : Coordinate) : Bool :=
  5 * settings.maxWalkingLegMeters < 4 * haversineDistanceMeters origin destination

/-- The query for one leg in one mode. -/
def legQuery (settings : RouteSettings) (origin destination : Coordinate)
    (originPoiId : Option String) (destinationPoiId : String) (mode : RouteMode) : RouteQuery :=
  { origin, destination, originPoiId, destinationPoiId, mode
    strategy := if mode = .driving then settings.strategy else 0 }

/-- The modes that a leg is looked up in. -/
def legModes (settings : RouteSettings) (origin destination : Coordinate) : List RouteMode :=
  settings.activeModes.filter fun mode =>
    !(mode = .walking && walkingLegTooLong settings origin destination)

/-- The queries for one leg. -/
def legQueries (settings : RouteSettings) (origin destination : Coordinate)
    (originPoiId : Option String) (destinationPoiId : String) : List RouteQuery :=
  (legModes settings origin destination).map
    (legQuery settings origin destination originPoiId destinationPoiId)

/-- The queries for the legs of one day, from a position on. -/
def dayQueries (settings : RouteSettings) (pois : List PlanningPOI) :
    Coordinate → Option String → List String → Result (List RouteQuery)
  | _, _, [] => .ok []
  | origin, originPoiId, poiId :: rest => do
    let poi ← orRaise (poiById pois poiId) (.missingPlanningPoi poiId)
    let later ← dayQueries settings pois poi.facts.coordinate (some poiId) rest
    return legQueries settings origin poi.facts.coordinate originPoiId poiId ++ later

/-- Keep the first query of every key. -/
def firstByKey (seen : List String) : List RouteQuery → List RouteQuery
  | [] => []
  | query :: rest =>
    if routeKey query ∈ seen then firstByKey seen rest
    else query :: firstByKey (routeKey query :: seen) rest

/-- `collect_route_queries`. -/
def collectRouteQueries (trip : TripSpec) (drafts : List CandidateDraft)
    (pois : List PlanningPOI) (settings : RouteSettings) : Result (List RouteQuery) := do
  let perDay ← (drafts.flatMap CandidateDraft.days).mapM fun day =>
    dayQueries settings pois trip.anchorCoordinate none day.poiIds
  return firstByKey [] perDay.flatten

/-! ## Keys -/

omit [Platform] in
theorem mem_keys_firstByKey {queries : List RouteQuery} {seen : List String} {key : String} :
    key ∈ (firstByKey seen queries).map routeKey ↔
      key ∈ queries.map routeKey ∧ key ∉ seen := by
  induction queries generalizing seen with
  | nil => simp [firstByKey]
  | cons query rest ih =>
    by_cases hseen : routeKey query ∈ seen
    · rw [firstByKey, if_pos hseen, ih, List.map_cons, List.mem_cons]
      constructor
      · exact fun h => ⟨.inr h.1, h.2⟩
      · rintro ⟨rfl | h, hkey⟩
        · exact absurd hseen hkey
        · exact ⟨h, hkey⟩
    · rw [firstByKey, if_neg hseen, List.map_cons, List.mem_cons, ih, List.map_cons,
        List.mem_cons, List.mem_cons, not_or]
      constructor
      · rintro (rfl | ⟨h, _, hkey⟩)
        · exact ⟨.inl rfl, hseen⟩
        · exact ⟨.inr h, hkey⟩
      · rintro ⟨rfl | h, hkey⟩
        · exact .inl rfl
        · by_cases heq : key = routeKey query
          · exact .inl heq
          · exact .inr ⟨h, heq, hkey⟩

/-- When the queries of some drafts are collected, those of each of their days are. -/
theorem exists_dayQueries_of_collect {trip : TripSpec} {drafts : List CandidateDraft}
    {pois : List PlanningPOI} {settings : RouteSettings} {queries : List RouteQuery}
    (h : collectRouteQueries trip drafts pois settings = .ok queries)
    {draft : CandidateDraft} (hdraft : draft ∈ drafts) {day : DraftDay} (hday : day ∈ draft.days) :
    ∃ dayQs, dayQueries settings pois trip.anchorCoordinate none day.poiIds = .ok dayQs ∧
      ∀ query ∈ dayQs, routeKey query ∈ queries.map routeKey := by
  obtain ⟨perDay, hperDay, h⟩ := bind_eq_ok h
  obtain rfl : firstByKey [] perDay.flatten = queries := by
    simpa [pure, Except.pure] using h
  obtain ⟨dayQs, hmem, hdayQs⟩ :=
    exists_of_mapM hperDay (List.mem_flatMap.mpr ⟨draft, hdraft, hday⟩)
  refine ⟨dayQs, hdayQs, fun query hquery => ?_⟩
  rw [mem_keys_firstByKey]
  exact ⟨List.mem_map_of_mem (List.mem_flatten.mpr ⟨dayQs, hmem, hquery⟩), by simp⟩

end TravelPlanAgent
