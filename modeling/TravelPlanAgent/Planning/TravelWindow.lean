import TravelPlanAgent.Planning.Agreement

/-!
# Activities between the arrival and the departure

The planner and the validator keep an hour after the arrival and an hour and a half before the
departure free, but each of them only on the day of the arrival or the departure itself.  A trip
may have other days outside of its own travel window.

* `WithinTravel`: an item that keeps both buffers.
* `RespectsTravelWindow`: every valid candidate and every materialised one keeps them.
* `DaysInsideTravel`: the limits of every usable day lie inside the travel window.
* `within_of_valid`, `within_of_materializeCandidates`: what the two of them do ensure.
* `momentCandidate`: a valid candidate that uses one moment of a day.
* `respectsTravelWindow_iff`: the days decide.
-/

namespace TravelPlanAgent

open Calendar Selection

variable [Platform]

/-! ## The travel window -/

/-- An item that starts an hour after the arrival and ends an hour and a half before the
departure, or keeps more distance. -/
structure WithinTravel (trip : TripSpec) (item : PlanItem) : Prop where
  starts : (trip.arrival.instant.addMinutes 60).instant ≤ item.startAt.instant
  ends : item.endAt.instant ≤ (trip.departure.instant.addMinutes (-90)).instant

/-- An item within the limits that the planner sets for a date. -/
structure WithinDay (trip : TripSpec) (date : Date) (item : PlanItem) : Prop where
  starts : (dayStart trip date).instant ≤ item.startAt.instant
  ends : item.endAt.instant ≤ (dayEnd trip date).instant

/-- The dates of a trip, from the first to the last. -/
abbrev datesOfTrip (trip : TripSpec) : List Date := Date.range trip.startDate trip.endDate

/-- Nothing that was validated or planned for a trip leaves its travel window. -/
structure RespectsTravelWindow (trip : TripSpec) : Prop where
  validated : ∀ (pois : List PlanningPOI) (candidate : PlanCandidate),
    (∀ day ∈ candidate.days, day.date ∈ datesOfTrip trip) →
    (validateCandidate trip candidate pois).status ≠ .invalid →
    ∀ day ∈ candidate.days, ∀ item ∈ day.items, item.type = .activity → WithinTravel trip item
  planned : ∀ (drafts : List CandidateDraft) (pois : List PlanningPOI) (routes : Routes)
    (settings : RouteSettings) (candidates : List PlanCandidate),
    (∀ draft ∈ drafts, ∀ day ∈ draft.days, day.date ∈ datesOfTrip trip) →
    materializeCandidates trip drafts pois routes settings = .ok candidates →
    ∀ candidate ∈ candidates, ∀ day ∈ candidate.days, ∀ item ∈ day.items, WithinTravel trip item

/-- Every day of a trip that leaves time for an activity starts an hour after the arrival and
ends an hour and a half before the departure. -/
def DaysInsideTravel (trip : TripSpec) : Prop :=
  ∀ date ∈ datesOfTrip trip, (dayStart trip date).instant < (dayEnd trip date).instant →
    (trip.arrival.instant.addMinutes 60).instant ≤ (dayStart trip date).instant ∧
      (dayEnd trip date).instant ≤ (trip.departure.instant.addMinutes (-90)).instant

omit [Platform] in
/-- Inside of the travel window, the limits of a day suffice. -/
theorem WithinDay.withinTravel {trip : TripSpec} {date : Date} {item : PlanItem}
    (h : WithinDay trip date item) (hdays : DaysInsideTravel trip)
    (hdate : date ∈ datesOfTrip trip) :
    WithinTravel trip item := by
  have hitem := item.startAt_lt_endAt
  have hstarts := h.starts
  have hends := h.ends
  obtain ⟨harrival, hdeparture⟩ := hdays date hdate (by omega)
  exact ⟨harrival.trans hstarts, hends.trans hdeparture⟩

/-! ## What the validator ensures -/

section Validated

variable {trip : TripSpec} {pois : List PlanningPOI} {candidate : PlanCandidate}

omit [Platform] in
/-- An activity for which nothing is reported lies within the limits of its day. -/
theorem within_of_itemViolations {date : Date} {previous : Option PlanItem} {item : PlanItem}
    (hactivity : item.type = .activity)
    (h : ∀ violation ∈ itemViolations trip pois date previous item,
      violation.severity ≠ .error) : WithinDay trip date item := by
  unfold itemViolations at h
  dsimp only at h
  simp only [List.mem_append, or_imp, forall_and] at h
  obtain ⟨⟨⟨⟨_, hdaily⟩, harrival⟩, hdeparture⟩, _⟩ := h
  have hitem : isActivity item = true := by rw [isActivity, hactivity]; rfl
  have hdaily : ¬(item.startAt.instant <
        (DateTime.combine date trip.dailyStart trip.timezone).instant ∨
      (DateTime.combine date trip.dailyEnd trip.timezone).instant < item.endAt.instant) := by
    intro hlate
    rw [if_pos ⟨hitem, hlate⟩] at hdaily
    exact hdaily _ (List.mem_singleton_self _) rfl
  have harrival : ¬(date = trip.arrival.instant.date ∧
      item.startAt.instant < (trip.arrival.instant.addMinutes 60).instant) := by
    intro hearly
    rw [if_pos hearly] at harrival
    exact harrival _ (List.mem_singleton_self _) rfl
  have hdeparture : ¬(date = trip.departure.instant.date ∧
      (trip.departure.instant.addMinutes (-90)).instant < item.endAt.instant) := by
    intro hlate
    rw [if_pos hlate] at hdeparture
    exact hdeparture _ (List.mem_singleton_self _) rfl
  rw [not_or, not_lt, not_lt] at hdaily
  constructor
  · unfold dayStart
    dsimp only
    split
    · next hdate =>
      rw [DateTime.instant_later, max_le_iff]
      exact ⟨hdaily.1, not_lt.mp fun hearly => harrival ⟨hdate, hearly⟩⟩
    · exact hdaily.1
  · unfold dayEnd
    dsimp only
    split
    · next hdate =>
      rw [DateTime.instant_earlier, le_min_iff]
      exact ⟨hdaily.2, not_lt.mp fun hlate => hdeparture ⟨hdate, hlate⟩⟩
    · exact hdaily.2

omit [Platform] in
/-- Every item of a day is looked at after some predecessor. -/
theorem exists_mem_zip_previous {l : List PlanItem} {item : PlanItem} (h : item ∈ l) :
    ∃ previous, (item, previous) ∈ l.zip (none :: l.map some) := by
  obtain ⟨i, hi, rfl⟩ := List.mem_iff_getElem.mp h
  have hlt : i < (none :: l.map some).length := by
    rw [List.length_cons, List.length_map]
    omega
  refine ⟨(none :: l.map some)[i], List.mem_iff_getElem.mpr ⟨i, ?_, ?_⟩⟩
  · rw [List.length_zip]
    omega
  · rw [List.getElem_zip]

/-- The activities of a candidate that is not invalid lie within the limits of their days. -/
theorem within_of_valid (h : (validateCandidate trip candidate pois).status ≠ .invalid)
    {day : DayPlan} (hday : day ∈ candidate.days) {item : PlanItem} (hitem : item ∈ day.items)
    (hactivity : item.type = .activity) : WithinDay trip day.date item := by
  rw [Ne, ValidationResult.status_eq_invalid_iff] at h
  push Not at h
  have hordered : item ∈ orderedItems day := by
    rw [orderedItems, List.mem_insertionSort]
    exact hitem
  obtain ⟨previous, hprevious⟩ := exists_mem_zip_previous hordered
  refine @within_of_itemViolations trip pois day.date previous item hactivity
    fun violation hviolation => h violation ?_
  change violation ∈ candidateViolations trip candidate pois
  unfold candidateViolations
  dsimp only
  refine List.mem_append_left _ (List.mem_append_left _ (List.mem_append_right _ ?_))
  refine List.mem_flatMap.mpr ⟨day, hday, ?_⟩
  unfold dayViolations
  dsimp only
  refine List.mem_append_left _ (List.mem_append_left _ ?_)
  exact List.mem_flatMap.mpr ⟨(item, previous), hprevious, hviolation⟩

end Validated

/-! ## What the planner ensures -/

section Planned

variable {trip : TripSpec} {settings : RouteSettings} {pois : List PlanningPOI} {routes : Routes}

/-- The loop over a day has kept the limits of the day so far. -/
structure DayWithin (trip : TripSpec) (date : Date) (progress : DayProgress) : Prop where
  started : (dayStart trip date).instant ≤ progress.time.instant
  within : ∀ item ∈ progress.items, WithinDay trip date item

theorem dayWithin_visitNext {date : Date} {progress after : DayProgress} {poiId : String}
    (h : DayWithin trip date progress)
    (hnext : visitNext trip settings pois routes date progress poiId = .ok (some after)) :
    DayWithin trip date after := by
  obtain ⟨poi, leg, window, item, _, _, _, hfits, hitem, rfl⟩ := visitNext_eq_some hnext
  obtain ⟨_, _, _, hstart, hend, _⟩ := visitItem_eq_ok hitem
  have hvisit := item.startAt_lt_endAt
  have hstarts : (dayStart trip date).instant ≤ item.startAt.instant := by
    rw [hstart, visitStart, DateTime.instant_later, DateTime.instant_addMinutes]
    refine le_trans ?_ (le_max_left _ _)
    have htravel : (0 : ℤ) ≤ leg.route.durationMinutes * minuteMicros :=
      Int.mul_nonneg (Int.natCast_nonneg _) (by decide)
    have hstarted := h.started
    omega
  have hends : item.endAt.instant ≤ (dayEnd trip date).instant := by
    rw [visitTooLate, decide_eq_false_iff_not, not_or, not_lt, not_lt] at hfits
    rw [hend]
    exact hfits.1
  constructor
  · exact hstarts.trans (le_of_lt hvisit)
  · intro other hother
    rcases List.mem_append.mp hother with hother | hother
    · exact h.within other hother
    · obtain rfl := List.mem_singleton.mp hother
      exact ⟨hstarts, hends⟩

/-- Everything on a materialised day lies within the limits of the day. -/
theorem within_of_materializeDay {draftDay : DraftDay} {materialized : MaterializedDay}
    (h : materializeDay trip settings pois routes draftDay = .ok materialized) :
    materialized.day.date = draftDay.date ∧
      ∀ item ∈ materialized.day.items, WithinDay trip draftDay.date item := by
  obtain ⟨progress, hprogress, h⟩ := bind_eq_ok h
  obtain rfl := Except.ok.inj h
  have hwithin : DayWithin trip draftDay.date progress :=
    visitAll_preserves (fun _ _ _ hinv hnext => dayWithin_visitNext hinv hnext)
      ⟨le_rfl, by simp [DayProgress.initial]⟩ hprogress
  exact ⟨rfl, hwithin.within⟩

/-- Everything in a materialised candidate lies within the limits of its day. -/
theorem within_of_materializeCandidates {drafts : List CandidateDraft}
    {candidates : List PlanCandidate}
    (h : materializeCandidates trip drafts pois routes settings = .ok candidates)
    {candidate : PlanCandidate} (hcandidate : candidate ∈ candidates) {day : DayPlan}
    (hday : day ∈ candidate.days) :
    (∃ draft ∈ drafts, ∃ draftDay ∈ draft.days, day.date = draftDay.date) ∧
      ∀ item ∈ day.items, WithinDay trip day.date item := by
  obtain ⟨queries, _, h⟩ := bind_eq_ok h
  obtain ⟨_, _, h⟩ := bind_eq_ok h
  obtain ⟨draft, hdraft, hmaterialized⟩ :=
    exists_of_forall₂_right (mapM_eq_ok.mp h) hcandidate
  obtain ⟨days, hdays, hmaterialized⟩ := bind_eq_ok hmaterialized
  obtain rfl := (Except.ok.inj hmaterialized).symm
  obtain ⟨materialized, hmem, rfl⟩ := List.mem_map.mp hday
  obtain ⟨draftDay, hdraftDay, hbuilt⟩ := exists_of_forall₂_right (mapM_eq_ok.mp hdays) hmem
  obtain ⟨hdate, hwithin⟩ := within_of_materializeDay hbuilt
  rw [hdate]
  exact ⟨⟨draft, hdraft, draftDay, hdraftDay, rfl⟩, hwithin⟩

end Planned

/-! ## Trips with a day outside of their travel window -/

section Outside

variable {trip : TripSpec} {date : Date}

/-- A visit without a place, a name or a cost, for one microsecond. -/
def momentItem (trip : TripSpec) (start : ℤ) : PlanItem :=
  { itemId := none, type := .activity, name := ""
    startAt := ⟨start, trip.timezone⟩, endAt := ⟨start + 1, trip.timezone⟩, poiId := none
    travelFromPreviousMinutes := 0, distanceFromPreviousMeters := 0, estimatedCost := none
    walkingDistanceEstimated := false, locked := false
    startAt_lt_endAt := Int.lt_add_one_of_le le_rfl, estimatedCost_nonneg := noCost_nonneg }

/-- A candidate with such a visit on one day. -/
def momentCandidate (trip : TripSpec) (date : Date) (start : ℤ) : PlanCandidate :=
  { id := "moment", style := .relaxed
    days := [{ date, theme := "", primaryArea := "", items := [momentItem trip start]
               knownEstimatedCost := 0, unknownCostItemCount := 1, totalTravelMinutes := 0
               walkingDistanceMeters := 0, fatigueScore := 0 }]
    metrics := { preferenceMatch := 0, diversity := 0, dataConfidence := 0, totalTravelMinutes := 0
                 walkingDistanceMeters := 0, knownEstimatedCost := 0, unknownCostItemCount := 1
                 fatigueScore := 0 }
    validation := none, score := none, assumptions := [] }

omit [Platform] in
/-- Nothing is reported about a visit within the limits of its day. -/
theorem itemViolations_momentItem {start : ℤ} (h : WithinDay trip date (momentItem trip start)) :
    itemViolations trip [] date none (momentItem trip start) = [] := by
  rw [itemViolations_eq_openingViolations h.starts h.ends (by simp)]
  rfl

omit [Platform] in
/-- Nothing is reported about a day with such a visit. -/
theorem dayViolations_momentCandidate {start : ℤ}
    (h : WithinDay trip date (momentItem trip start)) :
    (momentCandidate trip date start).days.flatMap (dayViolations trip []) = [] := by
  have hitem := itemViolations_momentItem h
  have hminutes : wholeMinutes (momentItem trip start) = 0 := by
    rw [wholeMinutes, PlanItem.duration]
    change (start + 1 - start).tdiv 60000000 = 0
    rw [show start + 1 - start = 1 by omega]
    rfl
  simp only [momentCandidate, List.flatMap_cons, List.flatMap_nil, List.append_nil, dayViolations,
    orderedItems, List.insertionSort_cons, List.insertionSort_nil, List.orderedInsert_nil,
    List.zip_cons_cons, List.zip_nil_left, hitem, walkingViolations, activityViolations,
    activityMinutes]
  simp [isActivity, momentItem, wholeMinutes, PlanItem.duration]

/-- A candidate with one visit within the limits of its day is delivered. -/
theorem status_momentCandidate (hempty : normalize "" = "") {start : ℤ}
    (h : WithinDay trip date (momentItem trip start)) :
    (validateCandidate trip (momentCandidate trip date start) []).status ≠ .invalid := by
  rw [Ne, ValidationResult.status_eq_invalid_iff]
  rintro ⟨violation, hviolation, herror⟩
  change violation ∈ candidateViolations trip (momentCandidate trip date start) [] at hviolation
  simp only [candidateViolations, List.mem_append] at hviolation
  rcases hviolation with (((hviolation | hviolation) | hviolation) | hviolation) | hviolation
  · simp [emptyPlanViolations, momentCandidate, momentItem, isActivity] at hviolation
  · obtain ⟨required, hrequired, rfl⟩ := List.mem_map.mp hviolation
    have hmissing := (List.mem_filter.mp hrequired).2
    simp [momentCandidate, momentItem, isActivity, mustVisitScheduled, hempty, textIn] at hmissing
  · rw [dayViolations_momentCandidate h] at hviolation
    cases hviolation
  · unfold budgetViolations at hviolation
    split at hviolation
    · cases hviolation
    next budget hbudget =>
    have hpos := trip.totalBudget_pos budget hbudget
    rcases List.mem_append.mp hviolation with hunknown | hexceeded
    · split at hunknown
      · rw [List.mem_singleton.mp hunknown] at herror
        cases herror
      · cases hunknown
    · rw [if_neg] at hexceeded
      · cases hexceeded
      · simpa [momentCandidate, momentItem] using le_of_lt hpos
  · rw [severity_of_mem_assumptionWarnings hviolation] at herror
    exact absurd herror (by decide)

/-- Only days that are usable inside of the travel window leave nothing to go wrong. -/
theorem daysInsideTravel_of_respects (hempty : normalize "" = "")
    (h : RespectsTravelWindow trip) : DaysInsideTravel trip := by
  intro date hdate husable
  -- a visit at either end of the day is delivered, so it has to be inside
  have hinside (start : ℤ) (hstart : (dayStart trip date).instant ≤ start)
      (hend : start + 1 ≤ (dayEnd trip date).instant) :
      WithinTravel trip (momentItem trip start) := by
    refine h.validated [] (momentCandidate trip date start) ?_
      (status_momentCandidate hempty ⟨hstart, hend⟩) _ (List.mem_singleton_self _) _
      (List.mem_singleton_self _) rfl
    intro day hday
    rw [List.mem_singleton.mp hday]
    exact hdate
  refine ⟨(hinside _ le_rfl (by omega)).starts, ?_⟩
  have hlast := (hinside ((dayEnd trip date).instant - 1) (by omega) (by omega)).ends
  change (dayEnd trip date).instant - 1 + 1 ≤ _ at hlast
  omega

end Outside

/-! ## The days decide -/

/-- Everything that is validated or planned for a trip lies in its travel window if and only if
every usable day of the trip does.  Stripping and folding leave the empty text empty. -/
theorem respectsTravelWindow_iff (hempty : normalize "" = "") {trip : TripSpec} :
    RespectsTravelWindow trip ↔ DaysInsideTravel trip := by
  refine ⟨daysInsideTravel_of_respects hempty, fun hdays => ⟨?_, ?_⟩⟩
  · intro pois candidate hdates hvalid day hday item hitem hactivity
    exact (within_of_valid hvalid hday hitem hactivity).withinTravel hdays (hdates day hday)
  · intro drafts pois routes settings candidates hdates hmaterialized candidate hcandidate day hday
      item hitem
    obtain ⟨⟨draft, hdraft, draftDay, hdraftDay, hdate⟩, hwithin⟩ :=
      within_of_materializeCandidates hmaterialized hcandidate hday
    refine (hwithin item hitem).withinTravel hdays ?_
    rw [hdate]
    exact hdates draft hdraft draftDay hdraftDay

omit [Platform] in
/-- A trip that starts with the day of its arrival and ends with the day of its departure. -/
theorem respectsTravelWindow_iff_sample :
    @RespectsTravelWindow plainPlatform Sample.trip := by
  let := plainPlatform
  rw [respectsTravelWindow_iff (by decide)]
  unfold DaysInsideTravel
  decide +kernel

/-- The two-day trip with an arrival on its second day. -/
def lateTrip : TripSpec :=
  { Sample.trip with
    arrival := ⟨"station", Sample.at_ Sample.day2 8, Sample.north 0⟩
    startDate_le_arrival := by decide +kernel
    arrival_lt_departure := by decide +kernel }

/-- A candidate over the dates of the late trip that is found valid and has an activity before
the arrival. -/
def ValidBeforeArrival (candidate : PlanCandidate) : Prop :=
  (∀ day ∈ candidate.days, day.date ∈ datesOfTrip lateTrip) ∧
    (validateCandidate lateTrip candidate Sample.pois).status = .valid ∧
    ∃ day ∈ candidate.days, ∃ item ∈ day.items, item.type = .activity ∧
      item.endAt.instant < lateTrip.arrival.instant.instant

instance (candidate : PlanCandidate) : Decidable (ValidBeforeArrival candidate) :=
  inferInstanceAs (Decidable (_ ∧ _))

omit [Platform] in
/-- The planner fills the day before the arrival of a late trip, and the validator agrees. -/
theorem exists_validBeforeArrival :
    ∃ candidates, @materializeCandidates plainPlatform lateTrip [Sample.draft] Sample.pois
        Sample.routes Sample.settings = .ok candidates ∧
      ∃ candidate ∈ candidates, @ValidBeforeArrival plainPlatform candidate := by
  let := plainPlatform
  have hany : ((materializeCandidates lateTrip [Sample.draft] Sample.pois Sample.routes
      Sample.settings).toOption.any fun candidates =>
        candidates.any fun candidate => decide (ValidBeforeArrival candidate)) = true := by
    decide +kernel
  obtain ⟨candidates, hcandidates, hvalid⟩ := (Option.any_eq_true _ _).mp hany
  obtain ⟨candidate, hcandidate, hvalid⟩ := List.any_eq_true.mp hvalid
  exact ⟨candidates, eq_ok_of_mem_toOption hcandidates, candidate, hcandidate,
    of_decide_eq_true hvalid⟩

omit [Platform] in
/-- The late trip does not respect its travel window. -/
theorem not_respectsTravelWindow_lateTrip : ¬@RespectsTravelWindow plainPlatform lateTrip := by
  let := plainPlatform
  intro h
  obtain ⟨_, _, candidate, _, hdates, hvalid, day, hday, item, hitem, hactivity, hearly⟩ :=
    exists_validBeforeArrival
  have hwithin := h.validated Sample.pois candidate hdates (by rw [hvalid]; decide) day hday item
    hitem hactivity
  have hstarts := hwithin.starts
  have hduration := item.startAt_lt_endAt
  rw [DateTime.instant_addMinutes] at hstarts
  have hbuffer : (0 : ℤ) ≤ 60 * minuteMicros := by decide
  omega

end TravelPlanAgent
