import TravelPlanAgent.Planning.RouteCoverage

/-!
# What a materialised candidate consists of

Whatever the routes, the items of a materialised candidate are visits of known places, day by
day those of a prefix of the draft, and the costs of the candidate are those of its items.

* `VisitOf`: an item is a visit of a place.
* `DayVisits`: what the loop over the POIs of a day maintains.
* `FollowsDraft`: what a candidate is, next to its draft.
* `followsDraft_of_materializeCandidate`: materialised candidates are.
* `MaterializedFrom`: a candidate that the planner made of a draft, whatever its validation.
-/

namespace TravelPlanAgent

open Calendar Selection

variable [Platform]

/-! ## Visits -/

/-- An item is a visit of a known place. -/
structure VisitOf (pois : List PlanningPOI) (item : PlanItem) (poi : PlanningPOI) : Prop where
  known : poiById pois poi.facts.id = some poi
  type : item.type = .activity
  name : item.name = poi.facts.name
  poiId : item.poiId = some poi.facts.id
  cost : item.estimatedCost = poi.partyCost
  minutes : itemMinutes item = poi.durationMinutes
  wholeMinutes : wholeMinutes item = poi.durationMinutes

omit [Platform] in
theorem VisitOf.unique {pois : List PlanningPOI} {item item' : PlanItem} {poi poi' : PlanningPOI}
    (h : VisitOf pois item poi) (h' : VisitOf pois item' poi') (hid : item.poiId = item'.poiId) :
    poi = poi' := by
  rw [h.poiId, h'.poiId, Option.some.injEq] at hid
  have hknown := h.known
  rw [hid, h'.known] at hknown
  exact (Option.some.inj hknown).symm

omit [Platform] in
theorem roundHalfEven_intCast (n : ℤ) : roundHalfEven n = n := by
  unfold roundHalfEven
  simp

omit [Platform] in
theorem itemMinutes_of_endAt {item : PlanItem} {minutes : ℤ}
    (h : item.endAt = item.startAt.addMinutes minutes) : itemMinutes item = minutes := by
  have hduration : (item.duration : ℚ) / 1000000 / 60 = minutes := by
    rw [PlanItem.duration, h, DateTime.instant_addMinutes]
    unfold minuteMicros
    push_cast
    ring
  rw [itemMinutes, hduration, roundHalfEven_intCast]

omit [Platform] in
theorem wholeMinutes_of_endAt {item : PlanItem} {minutes : ℤ}
    (h : item.endAt = item.startAt.addMinutes minutes) : wholeMinutes item = minutes := by
  have hduration : item.duration = minutes * 60000000 := by
    rw [PlanItem.duration, h, DateTime.instant_addMinutes]
    unfold minuteMicros
    ring
  rw [TravelPlanAgent.wholeMinutes, hduration, Int.mul_tdiv_cancel _ (by decide)]

/-- What the loop over the POIs of a day maintains. -/
structure DayVisits (pois : List PlanningPOI) (progress : DayProgress) : Prop where
  visits : ∀ item ∈ progress.items, ∃ poi, VisitOf pois item poi
  knownCost : progress.knownCost = (progress.items.filterMap PlanItem.estimatedCost).sum

section Loop

variable {trip : TripSpec} {settings : RouteSettings} {pois : List PlanningPOI} {routes : Routes}

theorem dayVisits_visitNext {date : Date} {progress after : DayProgress} {poiId : String}
    (h : DayVisits pois progress)
    (hnext : visitNext trip settings pois routes date progress poiId = .ok (some after)) :
    DayVisits pois after := by
  obtain ⟨poi, leg, window, item, hpoi, -, -, -, hitem, rfl⟩ := visitNext_eq_some hnext
  obtain ⟨-, htype, hname, hstart, hend, hid, -, -, -, hcost, -⟩ := visitItem_eq_ok hitem
  refine ⟨fun other hother => ?_, ?_⟩ <;> dsimp only [DayProgress.visited] at *
  · rcases List.mem_append.mp hother with hold | hnew
    · exact h.visits other hold
    · rw [List.mem_singleton.mp hnew]
      have hends : item.endAt = item.startAt.addMinutes poi.durationMinutes := by
        rw [hend, hstart]
      refine ⟨poi, ?_, htype, hname, hid, hcost, itemMinutes_of_endAt hends,
        wholeMinutes_of_endAt hends⟩
      rw [facts_id_of_poiById hpoi]
      exact hpoi
  · rw [h.knownCost, List.filterMap_append, List.sum_append]
    cases hparty : poi.partyCost <;> simp [hcost, hparty]

theorem dayVisits_visitAll {date : Date} {poiIds : List String} {progress : DayProgress}
    (h : visitAll trip settings pois routes date (.initial trip date) poiIds = .ok progress) :
    DayVisits pois progress :=
  visitAll_preserves (fun _ _ _ hvisits hnext => dayVisits_visitNext hvisits hnext)
    ⟨by simp [DayProgress.initial], rfl⟩ h

end Loop

/-! ## Candidates -/

/-- A day of a candidate next to the day of its draft. -/
structure FollowsDraftDay (pois : List PlanningPOI) (draftDay : DraftDay) (day : DayPlan) :
    Prop where
  date : day.date = draftDay.date
  order : day.items.map PlanItem.poiId <+: draftDay.poiIds.map some
  visits : ∀ item ∈ day.items, ∃ poi, VisitOf pois item poi
  knownCost : day.knownEstimatedCost = (day.items.filterMap PlanItem.estimatedCost).sum

/-- A candidate next to its draft. -/
structure FollowsDraft (pois : List PlanningPOI) (draft : CandidateDraft)
    (candidate : PlanCandidate) : Prop where
  days : List.Forall₂ (FollowsDraftDay pois) draft.days candidate.days
  knownCost : candidate.metrics.knownEstimatedCost =
    (candidate.datedItems.filterMap fun entry => entry.2.estimatedCost).sum

theorem followsDraftDay_of_materializeDay {trip : TripSpec} {settings : RouteSettings}
    {pois : List PlanningPOI} {routes : Routes} {draftDay : DraftDay}
    {materialized : MaterializedDay}
    (h : materializeDay trip settings pois routes draftDay = .ok materialized) :
    FollowsDraftDay pois draftDay materialized.day := by
  obtain ⟨progress, hprogress, h⟩ := bind_eq_ok h
  cases h
  have hvisits := dayVisits_visitAll hprogress
  obtain ⟨visited, hstart, hitems⟩ := visitAll_items hprogress
  refine ⟨rfl, ?_, hvisits.visits, hvisits.knownCost⟩
  change progress.items.map PlanItem.poiId <+: _
  rw [hitems]
  exact hstart.map some

/-- A materialised candidate, with whatever validation is attached to it. -/
theorem followsDraft_of_materializeCandidate {trip : TripSpec} {settings : RouteSettings}
    {pois : List PlanningPOI} {routes : Routes} {draft : CandidateDraft}
    {candidate : PlanCandidate}
    (h : materializeCandidate trip settings pois routes draft =
      .ok { candidate with validation := none }) :
    FollowsDraft pois draft candidate := by
  obtain ⟨materialized, hdays, h⟩ := bind_eq_ok h
  have hcandidate := Except.ok.inj h
  have hplans : candidate.days = materialized.map MaterializedDay.day :=
    (congrArg PlanCandidate.days hcandidate).symm
  have hmetrics : candidate.metrics = candidateMetrics trip materialized :=
    (congrArg PlanCandidate.metrics hcandidate).symm
  have hbuilt : List.Forall₂ (fun draftDay day => FollowsDraftDay pois draftDay day.day)
      draft.days materialized :=
    (mapM_eq_ok.mp hdays).imp fun _ _ => followsDraftDay_of_materializeDay
  refine ⟨?_, ?_⟩
  · rw [hplans, List.forall₂_map_right_iff]
    exact hbuilt
  · rw [hmetrics, PlanCandidate.datedItems, hplans]
    simp only [candidateMetrics, List.map_map]
    rw [List.flatMap_map, List.filterMap_flatMap, List.flatMap, List.sum_flatten, List.map_map]
    refine congrArg List.sum (List.map_congr_left fun day hday => ?_)
    obtain ⟨draftDay, -, hday⟩ := exists_of_forall₂_right hbuilt hday
    rw [Function.comp_apply, Function.comp_apply, hday.knownCost, List.filterMap_map]
    rfl

namespace FollowsDraft

variable {pois : List PlanningPOI} {draft : CandidateDraft} {candidate : PlanCandidate}
  (h : FollowsDraft pois draft candidate)

include h

omit [Platform]

/-- The days of a candidate have the dates of its draft. -/
theorem dates : candidate.days.map DayPlan.date = draft.days.map DraftDay.date := by
  rw [← List.forall₂_eq_eq_eq, List.forall₂_map_left_iff, List.forall₂_map_right_iff]
  exact h.days.flip.imp fun _ _ hday => hday.date

/-- Every item is a visit, on a day of the draft that has its place. -/
theorem visit {date : Date} {item : PlanItem} (hitem : (date, item) ∈ candidate.datedItems) :
    ∃ poi, VisitOf pois item poi ∧
      ∃ day ∈ draft.days, day.date = date ∧ poi.facts.id ∈ day.poiIds := by
  obtain ⟨day, hday, hitem⟩ := List.mem_flatMap.mp hitem
  obtain ⟨item', hitem', heq⟩ := List.mem_map.mp hitem
  obtain ⟨rfl, rfl⟩ := Prod.mk.inj heq
  obtain ⟨draftDay, hdraftDay, hof⟩ := exists_of_forall₂_right h.days hday
  obtain ⟨poi, hvisit⟩ := hof.visits item' hitem'
  refine ⟨poi, hvisit, draftDay, hdraftDay, hof.date.symm, ?_⟩
  have hmem : item'.poiId ∈ draftDay.poiIds.map some :=
    hof.order.subset (List.mem_map_of_mem hitem')
  rw [hvisit.poiId] at hmem
  obtain ⟨poiId, hpoiId, heq⟩ := List.mem_map.mp hmem
  exact Option.some.inj heq ▸ hpoiId

end FollowsDraft

/-- The planner made a candidate of a draft whose places are known; only its validation may be
attached later. -/
structure MaterializedFrom (trip : TripSpec) (settings : RouteSettings)
    (pois : List PlanningPOI) (routes : Routes) (draft : CandidateDraft)
    (candidate : PlanCandidate) : Prop where
  known : KnowsDraft pois draft
  planned : materializeCandidate trip settings pois routes draft =
    .ok { candidate with validation := none }

section MaterializedFrom

variable {trip : TripSpec} {settings : RouteSettings} {pois : List PlanningPOI}
  {routes : Routes} {draft : CandidateDraft} {candidate : PlanCandidate}

theorem MaterializedFrom.follows
    (h : MaterializedFrom trip settings pois routes draft candidate) :
    FollowsDraft pois draft candidate :=
  followsDraft_of_materializeCandidate h.planned

/-- The days of a candidate are those that the planner makes of the days of the draft. -/
theorem MaterializedFrom.planned_days
    (h : MaterializedFrom trip settings pois routes draft candidate) :
    List.Forall₂ (fun draftDay day => ∃ materialized,
        materializeDay trip settings pois routes draftDay = .ok materialized ∧
          materialized.day = day) draft.days candidate.days := by
  obtain ⟨materialized, hdays, hcandidate⟩ := bind_eq_ok h.planned
  have hplans : materialized.map MaterializedDay.day = candidate.days :=
    congrArg PlanCandidate.days (Except.ok.inj hcandidate)
  rw [← hplans, List.forall₂_map_right_iff]
  exact (mapM_eq_ok.mp hdays).imp fun _ built hbuilt => ⟨built, hbuilt, rfl⟩

/-- Every candidate of a list of drafts is made so. -/
theorem materializedFrom_of_materializeCandidates {drafts : List CandidateDraft}
    {candidates : List PlanCandidate}
    (h : materializeCandidates trip drafts pois routes settings = .ok candidates) :
    List.Forall₂ (MaterializedFrom trip settings pois routes) drafts candidates := by
  obtain ⟨queries, hqueries, h⟩ := bind_eq_ok h
  obtain ⟨-, -, h⟩ := bind_eq_ok h
  rw [List.forall₂_iff_zip]
  refine ⟨(mapM_eq_ok.mp h).length_eq, fun {draft candidate} hzip => ?_⟩
  have hplanned := (List.forall₂_iff_zip.mp (mapM_eq_ok.mp h)).2 hzip
  refine ⟨fun day hday poiId hpoiId => ?_, ?_⟩
  · obtain ⟨dayQs, hdayQs, -⟩ :=
      exists_dayQueries_of_collect hqueries (List.of_mem_zip hzip).1 hday
    obtain ⟨poi, hpoi⟩ := exists_poiById_of_dayQueries hdayQs poiId hpoiId
    exact Option.isSome_of_eq_some hpoi
  · rw [hplanned]
    obtain ⟨days, -, hcandidate⟩ := bind_eq_ok hplanned
    cases hcandidate
    rfl

end MaterializedFrom

end TravelPlanAgent
