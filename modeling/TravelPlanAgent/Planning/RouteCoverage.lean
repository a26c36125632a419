import TravelPlanAgent.Planning.Agreement
import TravelPlanAgent.Planning.Locality

/-!
# The routes of a delta are enough, and no more than needed

The collection of queries walks the whole draft, the materialisation only what fits; both take
the same legs from the same origins.

* `dayQueries_exists`, `collectRouteQueries_exists`: drafts of known places are collected.
* `nodup_keys_firstByKey`: no key is collected twice.
* `visitAll_eq_error`: with its routes at hand, the loop over a day fails for other reasons only.
* `routeDelta_covers`: what a delta drops, reuses and asks for.
-/

namespace TravelPlanAgent

open Calendar Selection

variable [Platform]

/-! ## Collecting -/

section Collecting

variable {settings : RouteSettings} {pois : List PlanningPOI}

/-- Every place of a draft is known. -/
def KnowsDraft (pois : List PlanningPOI) (draft : CandidateDraft) : Prop :=
  ∀ day ∈ draft.days, ∀ poiId ∈ day.poiIds, (poiById pois poiId).isSome

instance (draft : CandidateDraft) : Decidable (KnowsDraft pois draft) :=
  inferInstanceAs (Decidable (∀ day ∈ draft.days, ∀ poiId ∈ day.poiIds, _))

theorem dayQueries_exists (settings : RouteSettings) {poiIds : List String}
    (h : ∀ poiId ∈ poiIds, (poiById pois poiId).isSome) (origin : Coordinate)
    (originPoiId : Option String) :
    ∃ queries, dayQueries settings pois origin originPoiId poiIds = .ok queries := by
  induction poiIds generalizing origin originPoiId with
  | nil => exact ⟨[], rfl⟩
  | cons poiId rest ih =>
    obtain ⟨hpoi, hrest⟩ := List.forall_mem_cons.mp h
    obtain ⟨poi, hpoi⟩ := Option.isSome_iff_exists.mp hpoi
    obtain ⟨later, hlater⟩ := ih hrest poi.facts.coordinate (some poiId)
    refine ⟨legQueries settings origin poi.facts.coordinate originPoiId poiId ++ later, ?_⟩
    rw [dayQueries, hpoi]
    change (dayQueries settings pois _ _ rest >>= _) = _
    rw [hlater]
    rfl

theorem collectRouteQueries_exists (trip : TripSpec) (settings : RouteSettings)
    {draft : CandidateDraft} (h : KnowsDraft pois draft) :
    ∃ queries, collectRouteQueries trip [draft] pois settings = .ok queries := by
  obtain ⟨perDay, hperDay⟩ := exists_mapM (l := [draft].flatMap CandidateDraft.days)
    (f := fun day => dayQueries settings pois trip.anchorCoordinate none day.poiIds)
    fun day hday => dayQueries_exists settings (h day (by simpa using hday)) _ _
  exact ⟨firstByKey [] perDay.flatten, by rw [collectRouteQueries, hperDay]; rfl⟩

omit [Platform] in
/-- No key is collected twice. -/
theorem nodup_keys_firstByKey (seen : List String) (queries : List RouteQuery) :
    ((firstByKey seen queries).map routeKey).Nodup := by
  induction queries generalizing seen with
  | nil => exact List.nodup_nil
  | cons query rest ih =>
    rw [firstByKey]
    split
    · exact ih seen
    · rw [List.map_cons, List.nodup_cons]
      refine ⟨fun hmem => ?_, ih _⟩
      exact (mem_keys_firstByKey.mp hmem).2 List.mem_cons_self

theorem nodup_keys_collectRouteQueries {trip : TripSpec} {drafts : List CandidateDraft}
    {queries : List RouteQuery}
    (h : collectRouteQueries trip drafts pois settings = .ok queries) :
    (queries.map routeKey).Nodup := by
  obtain ⟨perDay, -, h⟩ := bind_eq_ok h
  cases h
  exact nodup_keys_firstByKey [] _

end Collecting

/-! ## Materialising -/

section Materialising

variable {trip : TripSpec} {settings : RouteSettings} {pois : List PlanningPOI} {routes : Routes}

/-- The failures that have nothing to do with routes or unknown places. -/
def OtherFailure (failure : Failure) : Prop :=
  failure = .keyError ∨ failure = .validationError "PlanItem"

theorem visitNext_eq_error {date : Date} {progress : DayProgress} {poi : PlanningPOI}
    {poiId : String} {failure : Failure} (hmode : RouteMode.driving ∈ settings.activeModes)
    (hpoi : poiById pois poiId = some poi)
    (hroutes : ∀ query ∈ legQueries settings progress.coordinate poi.facts.coordinate
      progress.poiId poiId, (routes.get? (routeKey query)).isSome)
    (h : visitNext trip settings pois routes date progress poiId = .error failure) :
    OtherFailure failure := by
  obtain ⟨leg, hleg⟩ : ∃ leg, nextLeg trip settings routes progress poi poiId = .ok leg :=
    nextLeg_exists hmode hroutes
  rw [visitNext, hpoi] at h
  change (nextLeg trip settings routes progress poi poiId >>= _) = _ at h
  rw [hleg] at h
  change (orRaise (poi.openingWindows.get? date) .keyError >>= _) = _ at h
  rcases bind_eq_error h with hwindow | ⟨window, -, h⟩
  · exact Or.inl (orRaise_eq_error hwindow).2
  · right
    dsimp only at h
    split at h
    · cases h
    · rcases bind_eq_error h with hitem | ⟨item, -, h⟩
      · unfold visitItem at hitem
        split at hitem
        · cases hitem
        · exact (Except.error.inj hitem).symm
      · cases h

/-- With the routes that were collected, the loop over a day fails for other reasons only. -/
theorem visitAll_eq_error {date : Date} {poiIds : List String} {progress : DayProgress}
    {queries : List RouteQuery} {failure : Failure}
    (hmode : RouteMode.driving ∈ settings.activeModes)
    (hqueries : dayQueries settings pois progress.coordinate progress.poiId poiIds = .ok queries)
    (hroutes : ∀ query ∈ queries, (routes.get? (routeKey query)).isSome)
    (h : visitAll trip settings pois routes date progress poiIds = .error failure) :
    OtherFailure failure := by
  induction poiIds generalizing progress queries with
  | nil => cases h
  | cons poiId rest ih =>
    obtain ⟨poi, hpoi, hqueries⟩ := bind_eq_ok hqueries
    obtain ⟨later, hlater, hqueries⟩ := bind_eq_ok hqueries
    cases hqueries
    have hfound := orRaise_eq_ok hpoi
    rw [visitAll_cons] at h
    rcases bind_eq_error h with hnext | ⟨next, hnext, h⟩
    · exact visitNext_eq_error hmode hfound
        (fun query hquery => hroutes query (List.mem_append_left _ hquery)) hnext
    · cases next with
      | none => cases h
      | some after =>
        -- the leg after this visit starts where the collected queries go on
        obtain ⟨poi', leg, window, item, hpoi', -, -, -, -, rfl⟩ := visitNext_eq_some hnext
        obtain rfl : poi' = poi := Option.some.inj (hpoi'.symm.trans hfound)
        have hlater' : dayQueries settings pois (progress.visited poi' leg item).coordinate
            (progress.visited poi' leg item).poiId rest = .ok later := by
          rw [DayProgress.visited, facts_id_of_poiById hfound]
          exact hlater
        exact ih hlater' (fun query hquery => hroutes query (List.mem_append_right _ hquery)) h

theorem materializeCandidates_eq_error {draft : CandidateDraft} {queries : List RouteQuery}
    {failure : Failure} (hmode : RouteMode.driving ∈ settings.activeModes)
    (hqueries : collectRouteQueries trip [draft] pois settings = .ok queries)
    (hroutes : ∀ query ∈ queries, routes.contains (routeKey query) = true)
    (h : materializeCandidates trip [draft] pois routes settings = .error failure) :
    OtherFailure failure := by
  rw [materializeCandidates, hqueries] at h
  change ((queries.forM fun query => require (routes.contains (routeKey query) = true)
    (.missingRouteResult (routeKey query))) >>= fun _ => [draft].mapM _ : Result _) = _ at h
  rw [forM_require_eq_ok.mpr hroutes] at h
  change [draft].mapM (materializeCandidate trip settings pois routes) = _ at h
  obtain ⟨draft', hdraft', hcandidate⟩ := exists_of_mapM_error h
  obtain rfl := List.mem_singleton.mp hdraft'
  rcases bind_eq_error hcandidate with hdays | ⟨days, -, hrest⟩
  · obtain ⟨day, hday, hmaterialize⟩ := exists_of_mapM_error hdays
    obtain ⟨dayQs, hdayQs, hkeys⟩ :=
      exists_dayQueries_of_collect hqueries (List.mem_singleton_self _) hday
    rcases bind_eq_error hmaterialize with hvisit | ⟨progress, -, hrest⟩
    · have hstart : dayQueries settings pois (DayProgress.initial trip day.date).coordinate
          (DayProgress.initial trip day.date).poiId day.poiIds = .ok dayQs := hdayQs
      refine visitAll_eq_error hmode hstart (fun query hquery => ?_) hvisit
      obtain ⟨other, hother, hkey⟩ := List.mem_map.mp (hkeys query hquery)
      rw [← hkey]
      exact hroutes other hother
    · cases hrest
  · cases hrest

end Materialising

/-! ## The delta -/

/-- The failures of a draft whose routes or places are not at hand. -/
def IsRouteFailure : Failure → Bool
  | .missingRouteResult _ => true
  | .missingPlanningPoi _ => true
  | .assertionError => true
  | _ => false

omit [Platform] in
theorem OtherFailure.not_isRouteFailure {failure : Failure} (h : OtherFailure failure) :
    IsRouteFailure failure = false := by
  rcases h with rfl | rfl <;> rfl

section Delta

variable {trip : TripSpec} {settings : RouteSettings} {pois : List PlanningPOI}

omit [Platform] in
/-- The keys of a list are those that are stored and those that are not. -/
theorem perm_stored_keys (routes : Routes) (queries : List RouteQuery) :
    ((queries.filter fun query => routes.contains (routeKey query)).map routeKey ++
      (queries.filter fun query => !routes.contains (routeKey query)).map routeKey).Perm
        (queries.map routeKey) := by
  rw [← List.map_append]
  exact (List.filter_append_perm _ queries).map routeKey

/-- Dropping the invalidated routes keeps every route of the edited draft; the delta splits the
keys that it requires into the reused and the missing ones, each once; and with the missing
routes at hand no route, no place and no mode is missing. -/
theorem routeDelta_covers (hmode : RouteMode.driving ∈ settings.activeModes)
    {before after : CandidateDraft} (hbefore : KnowsDraft pois before)
    (hafter : KnowsDraft pois after) (routes : Routes) :
    ∃ invalidated delta,
      invalidatedRouteKeys trip before after pois settings = .ok invalidated ∧
      collectRouteDelta trip after pois routes settings = .ok delta ∧
      collectRouteQueries trip [after] pois settings = .ok delta.requiredQueries ∧
      (∀ query ∈ delta.requiredQueries,
        (routes.filterKeys fun key => decide (key ∉ invalidated)).get? (routeKey query) =
          routes.get? (routeKey query)) ∧
      (delta.requiredQueries.map routeKey).Nodup ∧
      (delta.reusedRouteKeys ++ delta.missingQueries.map routeKey).Perm
        (delta.requiredQueries.map routeKey) ∧
      ∀ loaded : Routes, (∀ key, routes.contains key = true → loaded.contains key = true) →
        (∀ query ∈ delta.missingQueries, loaded.contains (routeKey query) = true) →
        ∀ failure, materializeCandidates trip [after] pois loaded settings = .error failure →
          IsRouteFailure failure = false := by
  obtain ⟨beforeQueries, hbeforeQueries⟩ := collectRouteQueries_exists trip settings hbefore
  obtain ⟨queries, hqueries⟩ := collectRouteQueries_exists trip settings hafter
  obtain ⟨invalidated, hinvalidated⟩ :
      ∃ invalidated, invalidatedRouteKeys trip before after pois settings = .ok invalidated :=
    ⟨_, by rw [invalidatedRouteKeys, hbeforeQueries, hqueries]; rfl⟩
  refine ⟨invalidated, _, hinvalidated, by rw [collectRouteDelta, hqueries]; rfl, hqueries,
    fun query hquery => ?_, nodup_keys_collectRouteQueries hqueries,
    perm_stored_keys routes queries, fun loaded hkept hloaded failure hfailure => ?_⟩
  · rw [Dict.get?_filterKeys, if_pos]
    exact decide_eq_true (not_mem_invalidated hinvalidated hqueries (List.mem_map_of_mem hquery))
  · refine (materializeCandidates_eq_error hmode hqueries (fun query hquery => ?_)
      hfailure).not_isRouteFailure
    by_cases hstored : routes.contains (routeKey query) = true
    · exact hkept _ hstored
    · exact hloaded query (List.mem_filter.mpr ⟨hquery, by simpa using hstored⟩)

/-- The sample draft with its two days exchanged. -/
def Sample.exchangedDraft : CandidateDraft :=
  ⟨"balanced-r1", .balanced, [⟨day1, ["c"]⟩, ⟨day2, ["a", "b"]⟩]⟩

omit [Platform] in
/-- The routes of the sample draft, for the draft with exchanged days. -/
theorem routeDelta_covers_sample :
    ∃ invalidated delta,
      @invalidatedRouteKeys plainPlatform Sample.trip Sample.draft Sample.exchangedDraft
        Sample.pois Sample.settings = .ok invalidated ∧
      @collectRouteDelta plainPlatform Sample.trip Sample.exchangedDraft Sample.pois ∅
        Sample.settings = .ok delta := by
  let := plainPlatform
  have hmode : RouteMode.driving ∈ Sample.settings.activeModes := by decide
  have hbefore : KnowsDraft Sample.pois Sample.draft := by decide
  have hafter : KnowsDraft Sample.pois Sample.exchangedDraft := by decide
  obtain ⟨invalidated, delta, hinvalidated, hdelta, -⟩ :=
    @routeDelta_covers plainPlatform Sample.trip Sample.settings Sample.pois hmode Sample.draft
      Sample.exchangedDraft hbefore hafter ∅
  exact ⟨invalidated, delta, hinvalidated, hdelta⟩

end Delta

end TravelPlanAgent
