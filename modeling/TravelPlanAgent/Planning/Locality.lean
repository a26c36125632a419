import TravelPlanAgent.Planning.Planner
import TravelPlanAgent.Planning.RouteDelta
import TravelPlanAgent.Weather.Response

/-!
# A day reads only its own places and routes

Materialising a day looks up the places that the day names and the routes between them.  Adding
places with new ids, and adding routes under new keys, leaves these lookups as they were.

* `visitAll_congr`, `materializeDay_congr`: equal lookups give equal days.
* `KeepsPois`: the places that were known are still found.
* `get?_storeRoutes`: storing answers keeps the routes under other keys.
* `not_mem_invalidated`: a route that the edited draft needs is not invalidated.
-/

namespace TravelPlanAgent

open Calendar Selection

variable [Platform]

/-! ## Days -/

section Days

variable {trip : TripSpec} {settings : RouteSettings} {pois pois' : List PlanningPOI}
  {routes routes' : Routes} {date : Date}

/-- A leg reads the routes stored under its keys. -/
theorem nextLeg_congr {progress : DayProgress} {poi : PlanningPOI} {poiId : String}
    (hroutes : ∀ query ∈ legQueries settings progress.coordinate poi.facts.coordinate
      progress.poiId poiId, routes'.get? (routeKey query) = routes.get? (routeKey query)) :
    nextLeg trip settings routes' progress poi poiId =
      nextLeg trip settings routes progress poi poiId := by
  have hmodes : routeByMode settings routes' progress.coordinate poi.facts.coordinate
      progress.poiId poiId =
        routeByMode settings routes progress.coordinate poi.facts.coordinate
          progress.poiId poiId := by
    unfold routeByMode
    rw [mapM_congr fun mode hmode => ?_]
    have hkey := hroutes _ (List.mem_map_of_mem hmode)
    simp only [legKey, hkey]
  rw [nextLeg, nextLeg, hmodes]

/-- The loop over a day reads the places of the day and the routes between them. -/
theorem visitAll_congr {progress : DayProgress} {poiIds : List String}
    {queries : List RouteQuery}
    (hqueries : dayQueries settings pois progress.coordinate progress.poiId poiIds = .ok queries)
    (hpois : ∀ poiId ∈ poiIds, poiById pois' poiId = poiById pois poiId)
    (hroutes : ∀ query ∈ queries,
      routes'.get? (routeKey query) = routes.get? (routeKey query)) :
    visitAll trip settings pois' routes' date progress poiIds =
      visitAll trip settings pois routes date progress poiIds := by
  induction poiIds generalizing progress queries with
  | nil => rfl
  | cons poiId rest ih =>
    obtain ⟨hpoi, hrest⟩ := List.forall_mem_cons.mp hpois
    obtain ⟨poi, hfound, hqueries⟩ := bind_eq_ok hqueries
    obtain ⟨later, hlater, hqueries⟩ := bind_eq_ok hqueries
    cases hqueries
    have hfound := orRaise_eq_ok hfound
    have hnext : visitNext trip settings pois' routes' date progress poiId =
        visitNext trip settings pois routes date progress poiId := by
      have hleg : nextLeg trip settings routes' progress poi poiId =
          nextLeg trip settings routes progress poi poiId :=
        nextLeg_congr fun query hquery => hroutes query (List.mem_append_left _ hquery)
      rw [visitNext, visitNext, hpoi, hfound]
      change (nextLeg trip settings routes' progress poi poiId >>= _) =
        (nextLeg trip settings routes progress poi poiId >>= _)
      rw [hleg]
    rw [visitAll_cons, visitAll_cons, hnext]
    cases hround : visitNext trip settings pois routes date progress poiId with
    | error => rfl
    | ok after =>
      cases after with
      | none => rfl
      | some after =>
        -- The next position is the place just visited, where the later queries start.
        obtain ⟨poi', leg, window, item, hfound', -, -, -, -, rfl⟩ := visitNext_eq_some hround
        rw [hfound, Option.some.injEq] at hfound'
        subst hfound'
        have hlater' : dayQueries settings pois (progress.visited poi leg item).coordinate
            (progress.visited poi leg item).poiId rest = .ok later := by
          rw [DayProgress.visited, facts_id_of_poiById hfound]
          exact hlater
        exact ih hlater' hrest fun query hquery =>
          hroutes query (List.mem_append_right _ hquery)

/-- A day that looks up the same places and routes is the same day. -/
theorem materializeDay_congr {day : DraftDay} {queries : List RouteQuery}
    (hqueries : dayQueries settings pois trip.anchorCoordinate none day.poiIds = .ok queries)
    (hpois : ∀ poiId ∈ day.poiIds, poiById pois' poiId = poiById pois poiId)
    (hroutes : ∀ query ∈ queries,
      routes'.get? (routeKey query) = routes.get? (routeKey query)) :
    materializeDay trip settings pois' routes' day =
      materializeDay trip settings pois routes day := by
  rw [materializeDay, materializeDay, visitAll_congr hqueries hpois hroutes]

/-- The places of a day whose queries are collected are known. -/
theorem exists_poiById_of_dayQueries {origin : Coordinate} {originPoiId : Option String}
    {poiIds : List String} {queries : List RouteQuery}
    (h : dayQueries settings pois origin originPoiId poiIds = .ok queries) :
    ∀ poiId ∈ poiIds, ∃ poi, poiById pois poiId = some poi := by
  induction poiIds generalizing origin originPoiId queries with
  | nil => exact fun _ hmem => absurd hmem List.not_mem_nil
  | cons poiId rest ih =>
    obtain ⟨poi, hpoi, h⟩ := bind_eq_ok h
    obtain ⟨later, hlater, -⟩ := bind_eq_ok h
    exact List.forall_mem_cons.mpr ⟨⟨poi, orRaise_eq_ok hpoi⟩, ih hlater⟩

/-- The queries of a day read the places of the day. -/
theorem dayQueries_congr {origin : Coordinate} {originPoiId : Option String}
    {poiIds : List String} (hpois : ∀ poiId ∈ poiIds, poiById pois' poiId = poiById pois poiId) :
    dayQueries settings pois' origin originPoiId poiIds =
      dayQueries settings pois origin originPoiId poiIds := by
  induction poiIds generalizing origin originPoiId with
  | nil => rfl
  | cons poiId rest ih =>
    obtain ⟨hpoi, hrest⟩ := List.forall_mem_cons.mp hpois
    simp only [dayQueries, hpoi, ih hrest]

end Days

/-! ## Places -/

/-- Every place that was known is found as before. -/
def KeepsPois (pois pois' : List PlanningPOI) : Prop :=
  ∀ poiId poi, poiById pois poiId = some poi → poiById pois' poiId = some poi

section Places

variable {pois pois' : List PlanningPOI}

omit [Platform] in
theorem KeepsPois.refl (pois : List PlanningPOI) : KeepsPois pois pois := fun _ _ h => h

omit [Platform] in
theorem KeepsPois.trans {pois'' : List PlanningPOI} (h : KeepsPois pois pois')
    (h' : KeepsPois pois' pois'') : KeepsPois pois pois'' :=
  fun poiId poi hpoi => h' poiId poi (h poiId poi hpoi)

omit [Platform] in
/-- Appending a place whose id is new keeps the others. -/
theorem keepsPois_append {extra : PlanningPOI}
    (hnew : ¬ pois.any fun known => decide (known.facts.id = extra.facts.id)) :
    KeepsPois pois (pois ++ [extra]) := by
  intro poiId poi hpoi
  rw [poiById_append_of_not_mem, hpoi]
  intro other hother heq
  rw [List.mem_singleton] at hother
  subst hother
  refine hnew (List.any_eq_true.mpr ⟨poi, mem_of_poiById hpoi, decide_eq_true ?_⟩)
  rw [facts_id_of_poiById hpoi, heq]

omit [Platform] in
/-- What every round of a fold keeps, the fold keeps. -/
theorem keepsPois_foldl {α : Type} {step : List PlanningPOI → α → List PlanningPOI}
    (hstep : ∀ pois a, KeepsPois pois (step pois a)) (extra : List α) (pois : List PlanningPOI) :
    KeepsPois pois (extra.foldl step pois) := by
  induction extra generalizing pois with
  | nil => exact .refl pois
  | cons a rest ih => exact (hstep pois a).trans (ih _)

omit [Platform] in
theorem keepsPois_mergePlanningPois (policy : UnknownFactPolicy) (trip : TripSpec)
    (pois : List PlanningPOI) (found : List POIFacts) :
    KeepsPois pois (mergePlanningPois policy trip pois found) := by
  refine keepsPois_foldl (fun pois facts => ?_) found pois
  split
  · exact .refl pois
  · next hnew =>
    split
    · next poi hpoi =>
      refine keepsPois_append ?_
      rwa [facts_resolvePlanningPoi hpoi]
    · exact .refl pois

end Places

/-! ## Routes -/

section Stored

variable {trip : TripSpec} {settings : RouteSettings} {pois : List PlanningPOI}

omit [Platform] in
/-- The answers to some queries come under their keys. -/
theorem keys_getRoutes {gateway : ToolGateway} {queries : List RouteQuery}
    {answers : Dict String (ToolResult RouteResult)}
    (h : gateway.getRoutes queries = .ok answers) {key : String} (hkey : key ∈ answers.keys) :
    key ∈ queries.map routeKey := by
  obtain ⟨found, hfound, h⟩ := bind_eq_ok h
  cases h
  have hkeys : found.map Prod.fst =
      (Dict.ofList (queries.map fun query => (routeKey query, query))).keys := by
    rw [Dict.keys, ← List.forall₂_eq_eq_eq, List.forall₂_map_left_iff,
      List.forall₂_map_right_iff]
    refine (mapM_eq_ok.mp hfound).flip.imp fun entry unique hround => ?_
    obtain ⟨answer, -, hround⟩ := bind_eq_ok hround
    cases hround
    rfl
  rw [Dict.mem_keys_ofList, hkeys, Dict.mem_keys_ofList, List.map_map] at hkey
  exact hkey

omit [Platform] in
/-- Storing answers keeps the routes under other keys. -/
theorem get?_storeRoutes {routes stored : Routes}
    {answers : Dict String (ToolResult RouteResult)} (h : storeRoutes routes answers = .ok stored)
    {key : String} (hkey : key ∉ answers.keys) : stored.get? key = routes.get? key := by
  obtain ⟨loaded, hloaded, h⟩ := bind_eq_ok h
  cases h
  have hkeys : loaded.map Prod.fst = answers.keys := by
    rw [Dict.keys, ← List.forall₂_eq_eq_eq, List.forall₂_map_left_iff,
      List.forall₂_map_right_iff]
    refine (mapM_eq_ok.mp hloaded).flip.imp fun entry answer hround => ?_
    obtain ⟨answerKey, result⟩ := answer
    cases result <;> cases hround
    rfl
  rw [Dict.get?_foldl_set, Dict.lookupIn_eq_none_iff.mpr, Option.none_or]
  rw [List.map_reverse, List.mem_reverse, hkeys]
  exact hkey

/-- A route that the edited draft needs is not invalidated. -/
theorem not_mem_invalidated {before after : CandidateDraft} {invalidated : List String}
    (h : invalidatedRouteKeys trip before after pois settings = .ok invalidated)
    {queries : List RouteQuery}
    (hqueries : collectRouteQueries trip [after] pois settings = .ok queries)
    {key : String} (hkey : key ∈ queries.map routeKey) : key ∉ invalidated := by
  obtain ⟨beforeQueries, -, h⟩ := bind_eq_ok h
  obtain ⟨afterQueries, hafter, h⟩ := bind_eq_ok h
  rw [hqueries] at hafter
  cases hafter
  cases h
  rw [mem_sortedSet, List.mem_filter, decide_eq_true_eq]
  exact fun hboth => hboth.2 hkey

end Stored

end TravelPlanAgent
