import TravelPlanAgent.Planning.Drafts

/-!
# What an edit changes about the routes

* `collectRouteDelta`: the routes an edited draft needs, those missing and those reused.
* `invalidatedRouteKeys`: the routes that only the draft before the edit needed.
* `PlanningImpact.dayFingerprint`: a text that changes with anything about a scheduled day.
-/

namespace TravelPlanAgent

open Calendar Selection

variable [Platform]

structure RouteDelta where
  requiredQueries : List RouteQuery
  missingQueries : List RouteQuery
  reusedRouteKeys : List String

/-- `collect_route_delta`. -/
def collectRouteDelta (trip : TripSpec) (draft : CandidateDraft) (pois : List PlanningPOI)
    (routes : Routes) (settings : RouteSettings) : Result RouteDelta := do
  let required ← collectRouteQueries trip [draft] pois settings
  return {
    requiredQueries := required
    missingQueries := required.filter fun query => !routes.contains (routeKey query)
    reusedRouteKeys :=
      (required.filter fun query => routes.contains (routeKey query)).map routeKey }

/-- `invalidated_route_keys`. -/
def invalidatedRouteKeys (trip : TripSpec) (before after : CandidateDraft)
    (pois : List PlanningPOI) (settings : RouteSettings) : Result (List String) := do
  let beforeQueries ← collectRouteQueries trip [before] pois settings
  let afterQueries ← collectRouteQueries trip [after] pois settings
  return sortedSet ((beforeQueries.map routeKey).filter fun key =>
    decide (key ∉ afterQueries.map routeKey))

/-! ## Fingerprints of days -/

namespace PlanningImpact

/-- An optional value, or `null`. -/
def optionalJson {α : Type} (toJson : α → Json) : Option α → Json
  | none => .null
  | some a => toJson a

/-- The dump of an item. -/
def itemJson (item : PlanItem) : Json :=
  .obj
    [("item_id", optionalJson .str item.itemId), ("type", .str item.type.value),
     ("name", .str item.name), ("start_at", .str item.startAt.isoformat),
     ("end_at", .str item.endAt.isoformat), ("poi_id", optionalJson .str item.poiId),
     ("travel_from_previous_minutes", .num item.travelFromPreviousMinutes),
     ("distance_from_previous_meters", .num item.distanceFromPreviousMeters),
     ("estimated_cost", optionalJson (fun cost => .str (decimalText cost)) item.estimatedCost),
     ("walking_distance_estimated", .bool item.walkingDistanceEstimated),
     ("locked", .bool item.locked)]

/-- The dump of a day. -/
def dayJson (day : DayPlan) : Json :=
  .obj
    [("date", .str day.date.isoformat), ("theme", .str day.theme),
     ("primary_area", .str day.primaryArea), ("items", .arr (day.items.map itemJson)),
     ("known_estimated_cost", .str (decimalText day.knownEstimatedCost)),
     ("unknown_cost_item_count", .num day.unknownCostItemCount),
     ("total_travel_minutes", .num day.totalTravelMinutes),
     ("walking_distance_meters", .num day.walkingDistanceMeters),
     ("fatigue_score", .num day.fatigueScore),
     ("estimated_cost", .str (decimalText day.knownEstimatedCost))]

/-- `day_fingerprint` of `planning/impact.py`. -/
def dayFingerprint (day : DayPlan) : String := prefixText 16 (jsonHash (dayJson day))

end PlanningImpact

end TravelPlanAgent
