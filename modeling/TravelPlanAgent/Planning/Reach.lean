import TravelPlanAgent.Planning.Locality
import TravelPlanAgent.Planning.RepairedCandidate

/-!
# How far the planner gets on a day

The planner walks over the places of a day in order and stops at the first that is too late.
What it makes of the first places does not depend on the others, so days that begin alike are
scheduled alike as far as they do.  A place that would be too late without any travel is not
reached.

* `visitAll_take`: the loop over the first places of a day.
* `items_take_of_materializeDay`: days that begin alike are scheduled alike.
* `fitting`: the places that fit one after the other when travelling takes no time.
* `scheduledIds_prefix_fitting`: no other place is scheduled.
-/

namespace TravelPlanAgent

open Calendar Selection

variable [Platform]

/-! ## The first places of a day -/

section Beginnings

variable {trip : TripSpec} {settings : RouteSettings} {pois pois' : List PlanningPOI}
  {routes routes' : Routes} {date : Date}

/-- The loop over a day keeps the items that are there. -/
theorem items_prefix_of_visitAll {progress final : DayProgress} {poiIds : List String}
    (h : visitAll trip settings pois routes date progress poiIds = .ok final) :
    progress.items <+: final.items := by
  refine visitAll_preserves (motive := fun after => progress.items <+: after.items)
    (fun before poiId after hstart hnext => ?_) List.prefix_rfl h
  obtain ⟨poi, leg, window, item, -, -, -, -, -, rfl⟩ := visitNext_eq_some hnext
  exact hstart.trans (List.prefix_append ..)

/-- The loop over the first places of a day schedules the first items. -/
theorem visitAll_take {progress final : DayProgress} {poiIds : List String}
    (h : visitAll trip settings pois routes date progress poiIds = .ok final) (n : ℕ) :
    ∃ first, visitAll trip settings pois routes date progress (poiIds.take n) = .ok first ∧
      first.items = final.items.take (progress.items.length + n) := by
  induction poiIds generalizing progress n with
  | nil =>
    obtain rfl := Except.ok.inj h
    exact ⟨progress, by rw [List.take_nil]; rfl, (List.take_of_length_le (by omega)).symm⟩
  | cons poiId rest ih =>
    cases n with
    | zero =>
      exact ⟨progress, rfl, List.prefix_iff_eq_take.mp (items_prefix_of_visitAll h)⟩
    | succ n =>
      rw [visitAll_cons] at h
      obtain ⟨next, hnext, h⟩ := bind_eq_ok h
      rw [List.take_succ_cons, visitAll_cons, hnext]
      cases next with
      | none =>
        obtain rfl := Except.ok.inj h
        exact ⟨progress, rfl, (List.take_of_length_le (by omega)).symm⟩
      | some after =>
        obtain ⟨first, hfirst, hitems⟩ := ih h n
        obtain ⟨poi, leg, window, item, -, -, -, -, -, rfl⟩ := visitNext_eq_some hnext
        refine ⟨first, hfirst, hitems.trans (congrArg final.items.take ?_)⟩
        simp only [DayProgress.visited, List.length_append, List.length_singleton]
        omega

/-- The queries for the first places of a day are among those for the day. -/
theorem dayQueries_take {origin : Coordinate} {originPoiId : Option String}
    {poiIds : List String} {queries : List RouteQuery}
    (h : dayQueries settings pois origin originPoiId poiIds = .ok queries) (n : ℕ) :
    ∃ first, dayQueries settings pois origin originPoiId (poiIds.take n) = .ok first ∧
      first ⊆ queries := by
  induction poiIds generalizing origin originPoiId queries n with
  | nil => exact ⟨[], by rw [List.take_nil]; rfl, List.nil_subset _⟩
  | cons poiId rest ih =>
    cases n with
    | zero => exact ⟨[], rfl, List.nil_subset _⟩
    | succ n =>
      obtain ⟨poi, hpoi, h⟩ := bind_eq_ok h
      obtain ⟨later, hlater, h⟩ := bind_eq_ok h
      cases h
      obtain ⟨first, hfirst, hsubset⟩ := ih hlater n
      refine ⟨legQueries settings origin poi.facts.coordinate originPoiId poiId ++ first, ?_,
        List.append_subset.mpr ⟨List.subset_append_left .., fun query hquery =>
          List.mem_append_right _ (hsubset hquery)⟩⟩
      rw [List.take_succ_cons, dayQueries, hpoi]
      change (dayQueries settings pois poi.facts.coordinate (some poiId) (rest.take n) >>= _) = _
      rw [hfirst]
      rfl

/-- What a day schedules, place by place, is what the loop over its places schedules. -/
theorem items_of_materializeDay {day : DraftDay} {materialized : MaterializedDay}
    (h : materializeDay trip settings pois routes day = .ok materialized) :
    ∃ final, visitAll trip settings pois routes day.date (.initial trip day.date) day.poiIds =
      .ok final ∧ materialized.day.items = final.items := by
  obtain ⟨final, hfinal, h⟩ := bind_eq_ok h
  cases h
  exact ⟨final, hfinal, rfl⟩

/-- Days that begin alike are scheduled alike as far as they do. -/
theorem items_take_of_materializeDay {before after : DraftDay} (hdate : after.date = before.date)
    {n : ℕ} (hbegin : after.poiIds.take n = before.poiIds.take n) {queries : List RouteQuery}
    (hqueries : dayQueries settings pois trip.anchorCoordinate none (before.poiIds.take n) =
      .ok queries)
    (hpois : ∀ poiId ∈ before.poiIds.take n, poiById pois' poiId = poiById pois poiId)
    (hroutes : ∀ query ∈ queries,
      routes'.get? (routeKey query) = routes.get? (routeKey query))
    {materialized materialized' : MaterializedDay}
    (h : materializeDay trip settings pois routes before = .ok materialized)
    (h' : materializeDay trip settings pois' routes' after = .ok materialized') :
    materialized'.day.items.take n = materialized.day.items.take n := by
  obtain ⟨final, hfinal, hitems⟩ := items_of_materializeDay h
  obtain ⟨final', hfinal', hitems'⟩ := items_of_materializeDay h'
  obtain ⟨first, hfirst, htake⟩ := visitAll_take hfinal n
  obtain ⟨first', hfirst', htake'⟩ := visitAll_take hfinal' n
  have hsame : visitAll trip settings pois' routes' before.date (.initial trip before.date)
      (before.poiIds.take n) =
        visitAll trip settings pois routes before.date (.initial trip before.date)
          (before.poiIds.take n) := visitAll_congr hqueries hpois hroutes
  rw [hdate, hbegin, hsame, hfirst, Except.ok.injEq] at hfirst'
  rw [DayProgress.initial, List.length_nil, zero_add] at htake htake'
  rw [hitems, hitems', ← htake, ← htake', hfirst']

omit [Platform] in
/-- A day that begins like another up to the place after those scheduled is scheduled like it. -/
theorem items_eq_of_take {items items' : List PlanItem}
    (h : items'.take (items.length + 1) = items.take (items.length + 1)) : items' = items := by
  rw [List.take_of_length_le (Nat.le_succ _)] at h
  have hlength := congrArg List.length h
  rw [List.length_take] at hlength
  rwa [List.take_of_length_le (by omega)] at h

end Beginnings

/-! ## The places that fit without travel -/

/-- The places of a day that fit one after the other when travelling takes no time. -/
def fitting (trip : TripSpec) (pois : List PlanningPOI) (date : Date) (time : DateTime) :
    List String → List String
  | [] => []
  | poiId :: rest =>
    match poiById pois poiId with
    | none => []
    | some poi =>
      match poi.openingWindows.get? date with
      | none => []
      | some window =>
        let finish := (time.later (DateTime.combine date window.start trip.timezone)).addMinutes
          poi.durationMinutes
        if visitTooLate trip date window finish then []
        else poiId :: fitting trip pois date finish rest

section Fitting

variable {trip : TripSpec} {settings : RouteSettings} {pois : List PlanningPOI} {routes : Routes}
  {date : Date}

omit [Platform] in
theorem visitTooLate_mono {window : TimeWindow} {finish later : DateTime}
    (hle : finish.instant ≤ later.instant) (h : visitTooLate trip date window later = false) :
    visitTooLate trip date window finish = false := by
  unfold visitTooLate at h ⊢
  rw [decide_eq_false_iff_not, not_or, not_lt, not_lt] at h ⊢
  exact ⟨hle.trans h.1, hle.trans h.2⟩

/-- The loop over a day visits places that fit without travel, in order. -/
theorem visited_prefix_fitting {progress final : DayProgress} {time : DateTime}
    (htime : time.instant ≤ progress.time.instant) {poiIds : List String}
    (h : visitAll trip settings pois routes date progress poiIds = .ok final) :
    ∃ visited, visited <+: fitting trip pois date time poiIds ∧
      final.items.map PlanItem.poiId =
        progress.items.map PlanItem.poiId ++ visited.map some := by
  induction poiIds generalizing progress time with
  | nil =>
    obtain rfl := Except.ok.inj h
    exact ⟨[], List.nil_prefix, by rw [List.map_nil, List.append_nil]⟩
  | cons poiId rest ih =>
    rw [visitAll_cons] at h
    obtain ⟨next, hnext, h⟩ := bind_eq_ok h
    cases next with
    | none =>
      obtain rfl := Except.ok.inj h
      exact ⟨[], List.nil_prefix, by rw [List.map_nil, List.append_nil]⟩
    | some after =>
      obtain ⟨poi, leg, window, item, hpoi, -, hwindow, hfits, hitem, rfl⟩ :=
        visitNext_eq_some hnext
      obtain ⟨-, -, -, -, hend, hid, -⟩ := visitItem_eq_ok hitem
      -- Travelling only makes the visit end later.
      have hfinish : ((time.later (DateTime.combine date window.start trip.timezone)).addMinutes
          poi.durationMinutes).instant ≤ item.endAt.instant := by
        rw [hend, visitStart]
        simp only [DateTime.instant_addMinutes, DateTime.instant_later]
        have htravel : (0 : ℤ) ≤ (leg.route.durationMinutes : ℤ) * minuteMicros :=
          mul_nonneg (Int.natCast_nonneg _) (by decide)
        omega
      obtain ⟨visited, hvisited, hitems⟩ := ih hfinish h
      refine ⟨poiId :: visited, ?_, ?_⟩
      · rw [fitting, hpoi]
        dsimp only
        rw [hwindow]
        dsimp only
        rw [if_neg (Bool.eq_false_iff.mp (visitTooLate_mono (hend ▸ hfinish) hfits))]
        exact List.cons_prefix_cons.mpr ⟨rfl, hvisited⟩
      · rw [hitems, DayProgress.visited, List.map_append, List.map_singleton, hid,
          facts_id_of_poiById hpoi, List.map_cons, List.append_assoc, List.singleton_append]

/-- A day schedules places that fit without travel, in order. -/
theorem scheduledIds_prefix_fitting {day : DraftDay} {materialized : MaterializedDay}
    (h : materializeDay trip settings pois routes day = .ok materialized) :
    scheduledIds materialized.day.items <+:
      fitting trip pois day.date (dayStart trip day.date) day.poiIds := by
  obtain ⟨final, hfinal, hitems⟩ := items_of_materializeDay h
  obtain ⟨visited, hvisited, hids⟩ := visited_prefix_fitting le_rfl hfinal
  have hscheduled : scheduledIds final.items = visited := by
    have hmap : scheduledIds final.items = (final.items.map PlanItem.poiId).filterMap id := by
      rw [List.filterMap_map]
      rfl
    rw [hmap, hids]
    simp [DayProgress.initial]
  rw [hitems, hscheduled]
  exact hvisited

end Fitting

end TravelPlanAgent
