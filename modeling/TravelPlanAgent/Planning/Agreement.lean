import TravelPlanAgent.Planning.Validator

/-!
# The planner and the validator agree

The validator derives every limit again from the trip.  A day that `materializeDay` builds
meets them all, so the only errors left on a fresh candidate are those that the planner does
not look at: an empty plan, a missing place, too many activity minutes, and the budget.

* `get?_routeByMode`: the routes of a leg are those stored under its keys.
* `DayInvariant`: what the loop over the POIs of a day maintains.
* `dayInvariant_visitNext`, `dayInvariant_materializeDay`: one round, and the whole day.
* `visitAll_exists`: with all routes and opening hours at hand, the loop does not fail.
-/

namespace TravelPlanAgent

open Calendar Selection

variable [Platform]

/-! ## The routes of a leg -/

section Legs

variable {settings : RouteSettings} {routes : Routes} {origin destination : Coordinate}
  {originPoiId : Option String} {poiId : String} {byMode : Dict RouteMode RouteResult}

/-- The routes found for a leg are those stored under its keys. -/
theorem get?_routeByMode
    (h : routeByMode settings routes origin destination originPoiId poiId = .ok byMode)
    (mode : RouteMode) :
    byMode.get? mode = if mode ∈ legModes settings origin destination then
      routes.get? (legKey settings origin destination originPoiId poiId mode) else none := by
  obtain ⟨found, hfound, h⟩ := bind_eq_ok h
  obtain rfl : Dict.ofList found = byMode := Except.ok.inj h
  have hall : List.Forall₂ (fun mode pair => pair.1 = mode ∧ routes.get?
      (legKey settings origin destination originPoiId poiId mode) = some pair.2)
      (legModes settings origin destination) found := by
    refine (mapM_eq_ok.mp hfound).imp fun mode pair hpair => ?_
    obtain ⟨result, hresult, hpair⟩ := bind_eq_ok hpair
    obtain rfl : (mode, result) = pair := Except.ok.inj hpair
    exact ⟨rfl, orRaise_eq_ok hresult⟩
  have hmodes : found.map Prod.fst = legModes settings origin destination := by
    rw [← List.forall₂_eq_eq_eq, List.forall₂_map_left_iff]
    exact (hall.imp fun _ _ h => h.1).flip
  cases hget : (Dict.ofList found).get? mode with
  | none =>
    rw [if_neg]
    rw [← hmodes]
    exact Dict.get?_ofList_eq_none_iff.mp hget
  | some result =>
    have hmem := Dict.mem_of_get?_ofList hget
    have hmode : mode ∈ legModes settings origin destination :=
      hmodes ▸ List.mem_map_of_mem hmem
    obtain ⟨i, hi, hpair⟩ := List.mem_iff_getElem.mp hmem
    have hlt : i < (legModes settings origin destination).length := hall.length_eq ▸ hi
    obtain ⟨hfst, hvalue⟩ := List.Forall₂.get hall hlt hi
    simp only [List.get_eq_getElem, hpair] at hfst hvalue
    rw [if_pos hmode, hfst, hvalue]

/-- With driving and walking both looked up, a leg is driven, or walked within the limits. -/
theorem nextLeg_hybrid {trip : TripSpec} {progress : DayProgress} {poi : PlanningPOI} {leg : Leg}
    (hmodes : settings.modes = some [.driving, .walking])
    (h : nextLeg trip settings routes progress poi poiId = .ok leg) :
    leg.walkingIsEstimated = false ∧
      (leg.walkingMeters = 0 ∧
          routes.get? (legKey settings progress.coordinate poi.facts.coordinate
            progress.poiId poiId .driving) = some leg.route ∨
        leg.walkingMeters = leg.route.distanceMeters ∧
          routes.get? (legKey settings progress.coordinate poi.facts.coordinate
            progress.poiId poiId .walking) = some leg.route ∧
          progress.walkingTotal + leg.walkingMeters ≤ trip.mobility.maxDailyWalkingMeters) := by
  obtain ⟨byMode, hbyMode, h⟩ := bind_eq_ok h
  have hget := get?_routeByMode hbyMode
  have hactive : settings.activeModes = [.driving, .walking] := by
    rw [RouteSettings.activeModes, hmodes]
  have hhybrid : settings.hybrid = true := by
    rw [RouteSettings.hybrid, hmodes]
    decide
  have hdriving : RouteMode.driving ∈
      legModes settings progress.coordinate poi.facts.coordinate := by
    simp [legModes, hactive]
  have hdrive := hget .driving
  rw [if_pos hdriving] at hdrive
  have hwalk : ∀ walking, byMode.get? .walking = some walking → routes.get?
      (legKey settings progress.coordinate poi.facts.coordinate progress.poiId poiId .walking) =
        some walking := by
    intro walking hsome
    have hif := hget .walking
    rw [hsome] at hif
    split at hif
    · exact hif.symm
    · exact absurd hif (by simp)
  unfold chooseLeg at h
  split at h
  · next walking driving hwalking hdriving =>
    split at h
    · obtain rfl := Except.ok.inj h
      exact ⟨rfl, .inl ⟨rfl, hdrive.symm.trans hdriving⟩⟩
    · next hshort =>
      obtain rfl := Except.ok.inj h
      rw [not_or, not_lt, not_lt] at hshort
      exact ⟨rfl, .inr ⟨rfl, hwalk _ hwalking, hshort.2⟩⟩
  · next walking hwalking hnone =>
    rw [hnone] at hdrive
    -- the lookup of the driving route succeeded, so this branch is not reached
    obtain ⟨found, hfound, _⟩ := bind_eq_ok hbyMode
    obtain ⟨pair, _, hpair⟩ := exists_of_mapM hfound hdriving
    obtain ⟨result, hresult, _⟩ := bind_eq_ok hpair
    rw [orRaise_eq_ok hresult] at hdrive
    exact absurd hdrive (by simp)
  · next driving hwalking hdriving =>
    rw [if_pos hhybrid] at h
    obtain rfl := Except.ok.inj h
    exact ⟨rfl, .inl ⟨rfl, hdrive.symm.trans hdriving⟩⟩
  · exact absurd h (by simp)

end Legs

/-! ## What the loop maintains -/

/-- An item records the leg that leads to it. -/
structure ItemLeg (item : PlanItem) (leg : Leg) : Prop where
  travel : item.travelFromPreviousMinutes = leg.route.durationMinutes
  distance : item.distanceFromPreviousMeters = leg.route.distanceMeters
  measured : item.walkingDistanceEstimated = false
  walking : leg.walkingMeters = 0 ∨ leg.walkingMeters = item.distanceFromPreviousMeters

/-- A visit of a known place within the day and within the opening hours. -/
structure WithinLimits (trip : TripSpec) (pois : List PlanningPOI) (date : Date)
    (item : PlanItem) : Prop where
  isActivity : item.type = .activity
  offset : item.startAt.offset = trip.timezone
  starts : (dayStart trip date).instant ≤ item.startAt.instant
  ends : item.endAt.instant ≤ (dayEnd trip date).instant
  open_ : ∃ poi window, item.poiId = some poi.facts.id ∧ poiById pois poi.facts.id = some poi ∧
    poi.openingWindows.get? date = some window ∧
    (DateTime.combine date window.start trip.timezone).instant ≤ item.startAt.instant ∧
    item.endAt.instant ≤ (DateTime.combine date window.finish trip.timezone).instant

/-- What the loop over the POIs of a day maintains. -/
structure DayInvariant (trip : TripSpec) (pois : List PlanningPOI) (date : Date)
    (progress : DayProgress) : Prop where
  started : (dayStart trip date).instant ≤ progress.time.instant
  offset : progress.time.offset = trip.timezone
  within : ∀ item ∈ progress.items, WithinLimits trip pois date item
  ended : ∀ item ∈ progress.items, item.endAt.instant ≤ progress.time.instant
  separated : progress.items.Pairwise fun earlier later =>
    earlier.endAt.instant + later.travelFromPreviousMinutes * minuteMicros ≤
      later.startAt.instant
  legs : List.Forall₂ ItemLeg progress.items progress.legs
  knownCost : progress.knownCost = (progress.items.filterMap PlanItem.estimatedCost).sum
  unknownCost : progress.unknownCostCount =
    progress.items.countP fun item => item.estimatedCost.isNone
  travel : progress.travelMinutesTotal =
    (progress.items.map PlanItem.travelFromPreviousMinutes).sum
  walking : progress.walkingTotal = (progress.legs.map Leg.walkingMeters).sum
  walkingLimit : progress.walkingTotal ≤ trip.mobility.maxDailyWalkingMeters

omit [Platform] in
theorem offset_dayStart (trip : TripSpec) (date : Date) :
    (dayStart trip date).offset = trip.timezone := by
  unfold dayStart
  dsimp only
  split
  · exact DateTime.offset_later rfl
  · rfl

omit [Platform] in
theorem dailyStart_le_dayStart (trip : TripSpec) (date : Date) :
    (DateTime.combine date trip.dailyStart trip.timezone).instant ≤
      (dayStart trip date).instant := by
  unfold dayStart
  dsimp only
  split
  · rw [DateTime.instant_later]
    exact le_max_left _ _
  · exact le_rfl

omit [Platform] in
theorem dayEnd_le_dailyEnd (trip : TripSpec) (date : Date) :
    (dayEnd trip date).instant ≤
      (DateTime.combine date trip.dailyEnd trip.timezone).instant := by
  unfold dayEnd
  dsimp only
  split
  · rw [DateTime.instant_earlier]
    exact min_le_left _ _
  · exact le_rfl

omit [Platform] in
theorem arrivalBuffer_le_dayStart (trip : TripSpec) :
    (trip.arrival.instant.addMinutes 60).instant ≤
      (dayStart trip trip.arrival.instant.date).instant := by
  rw [dayStart, if_pos rfl, DateTime.instant_later]
  exact le_max_right _ _

omit [Platform] in
theorem dayEnd_le_departureBuffer (trip : TripSpec) :
    (dayEnd trip trip.departure.instant.date).instant ≤
      (trip.departure.instant.addMinutes (-90)).instant := by
  rw [dayEnd, if_pos rfl, DateTime.instant_earlier]
  exact min_le_right _ _

omit [Platform] in
theorem dayInvariant_initial (trip : TripSpec) (pois : List PlanningPOI) (date : Date) :
    DayInvariant trip pois date (.initial trip date) where
  started := le_rfl
  offset := offset_dayStart trip date
  within := by simp [DayProgress.initial]
  ended := by simp [DayProgress.initial]
  separated := List.Pairwise.nil
  legs := .nil
  knownCost := rfl
  unknownCost := rfl
  travel := rfl
  walking := rfl
  walkingLimit := Nat.zero_le _

/-- One round of the loop keeps the invariant. -/
theorem dayInvariant_visitNext {trip : TripSpec} {settings : RouteSettings}
    {pois : List PlanningPOI} {routes : Routes} {date : Date} {progress after : DayProgress}
    {poiId : String} (hmodes : settings.modes = some [.driving, .walking])
    (hinv : DayInvariant trip pois date progress)
    (h : visitNext trip settings pois routes date progress poiId = .ok (some after)) :
    DayInvariant trip pois date after := by
  obtain ⟨poi, leg, window, item, hpoi, hleg, hwindow, hlate, hitem, rfl⟩ := visitNext_eq_some h
  obtain ⟨hestimated, hwalked⟩ := nextLeg_hybrid hmodes hleg
  obtain ⟨-, htype, -, hstart, hend, hid, -, htravel, hdistance, hcost, hmeasured⟩ :=
    visitItem_eq_ok hitem
  have hoffset : item.startAt.offset = trip.timezone := by
    rw [hstart, visitStart, DateTime.offset_later]
    · exact hinv.offset
    · exact hinv.offset
  have hinstant : item.startAt.instant =
      max (progress.time.instant + leg.route.durationMinutes * minuteMicros)
        (DateTime.combine date window.start trip.timezone).instant := by
    rw [hstart, visitStart, DateTime.instant_later, DateTime.instant_addMinutes]
  have harrive : progress.time.instant + leg.route.durationMinutes * minuteMicros ≤
      item.startAt.instant := hinstant ▸ le_max_left _ _
  have hopen : (DateTime.combine date window.start trip.timezone).instant ≤
      item.startAt.instant := hinstant ▸ le_max_right _ _
  have htravelTime : (0 : ℤ) ≤ leg.route.durationMinutes * minuteMicros :=
    Int.mul_nonneg (Int.natCast_nonneg _) (by decide)
  have hpositive := item.startAt_lt_endAt
  have hstarted := hinv.started
  rw [visitTooLate, decide_eq_false_iff_not, not_or, not_lt, not_lt, ← hend] at hlate
  refine ⟨?_, ?_, ?_, ?_, ?_, ?_, ?_, ?_, ?_, ?_, ?_⟩ <;> dsimp only [DayProgress.visited]
  · omega
  · rw [hend, DateTime.offset_addMinutes, ← hstart, hoffset]
  · intro other hother
    rcases List.mem_append.mp hother with hother | hother
    · exact hinv.within other hother
    · rw [List.mem_singleton.mp hother]
      refine ⟨htype, hoffset, by omega, hlate.1, poi, window, hid, ?_, hwindow, hopen, hlate.2⟩
      rw [facts_id_of_poiById hpoi]
      exact hpoi
  · intro other hother
    rcases List.mem_append.mp hother with hother | hother
    · have := hinv.ended other hother
      omega
    · rw [List.mem_singleton.mp hother]
  · rw [List.pairwise_append]
    refine ⟨hinv.separated, List.pairwise_singleton _ _, fun earlier hearlier later hlater => ?_⟩
    rw [List.mem_singleton.mp hlater, htravel]
    have := hinv.ended earlier hearlier
    omega
  · refine List.rel_append hinv.legs (.cons ⟨htravel, hdistance, ?_, ?_⟩ .nil)
    · rw [hmeasured, hestimated]
    · rw [hdistance]
      exact hwalked.imp (fun h => h.1) fun h => h.1
  · rw [hinv.knownCost, List.filterMap_append, List.sum_append]
    cases hparty : poi.partyCost <;> simp [hcost, hparty]
  · rw [hinv.unknownCost, List.countP_append]
    simp [hcost]
  · rw [hinv.travel, List.map_append, List.sum_append]
    simp [htravel]
  · rw [hinv.walking, List.map_append, List.sum_append]
    simp
  · rcases hwalked with ⟨hzero, -⟩ | ⟨-, -, hlimit⟩
    · rw [hzero, Nat.add_zero]
      exact hinv.walkingLimit
    · exact hlimit

/-- The loop over the POIs of a day ends with the invariant. -/
theorem dayInvariant_visitAll {trip : TripSpec} {settings : RouteSettings}
    {pois : List PlanningPOI} {routes : Routes} {date : Date} {poiIds : List String}
    {progress : DayProgress} (hmodes : settings.modes = some [.driving, .walking])
    (h : visitAll trip settings pois routes date (.initial trip date) poiIds = .ok progress) :
    DayInvariant trip pois date progress :=
  visitAll_preserves (fun _ _ _ hinv hnext => dayInvariant_visitNext hmodes hinv hnext)
    (dayInvariant_initial trip pois date) h

/-! ## The validator on a materialised day -/

section Validation

variable {trip : TripSpec} {pois : List PlanningPOI} {date : Date}

omit [Platform] in
/-- Each element paired with its predecessor is related to it. -/
theorem rel_of_mem_zip_previous {α : Type} {R : α → α → Prop} {l : List α} (h : l.Pairwise R)
    {item previous : α} (hmem : (item, some previous) ∈ l.zip (none :: l.map some)) :
    R previous item := by
  obtain ⟨i, hi, heq⟩ := List.mem_iff_getElem.mp hmem
  rw [List.getElem_zip, Prod.mk.injEq] at heq
  rw [List.length_zip] at hi
  cases i with
  | zero => exact absurd heq.2 (by simp)
  | succ j =>
    rw [List.getElem_cons_succ, List.getElem_map, Option.some.injEq] at heq
    rw [← heq.1, ← heq.2]
    exact List.pairwise_iff_getElem.mp h j (j + 1) _ _ (Nat.lt_succ_self j)

omit [Platform] in
/-- The items of a materialised day are already in the order of their starts. -/
theorem orderedItems_dayPlanOf {progress : DayProgress}
    (hinv : DayInvariant trip pois date progress) :
    orderedItems (dayPlanOf trip date progress) = progress.items := by
  refine List.Pairwise.insertionSort_eq (hinv.separated.imp fun {earlier later} h => ?_)
  have hpositive := earlier.startAt_lt_endAt
  have htravel : (0 : ℤ) ≤ later.travelFromPreviousMinutes * minuteMicros :=
    Int.mul_nonneg (Int.natCast_nonneg _) (by decide)
  omega

omit [Platform] in
theorem openingViolations_eq_nil {item : PlanItem} (h : WithinLimits trip pois date item) :
    openingViolations pois date item = [] := by
  obtain ⟨poi, window, hid, hpoi, hwindow, hopen, hclose⟩ := h.open_
  unfold openingViolations
  split
  · rfl
  · next found hfound =>
    split
    · rfl
    · have hfoundPoi : found = poi := by
        rw [itemPoi, hid] at hfound
        by_cases hempty : poi.facts.id = ""
        · exact absurd hfound (by simp [hempty, Option.filter])
        · simpa [Option.filter, hempty, hpoi, eq_comm] using hfound
      rw [hfoundPoi, hwindow]
      dsimp only
      rw [h.offset, if_neg]
      omega

omit [Platform] in
/-- An item within the limits of its day is reported for its opening hours only. -/
theorem itemViolations_eq_openingViolations {item : PlanItem} {previous : Option PlanItem}
    (hstarts : (dayStart trip date).instant ≤ item.startAt.instant)
    (hends : item.endAt.instant ≤ (dayEnd trip date).instant)
    (hprevious : ∀ earlier ∈ previous, earlier.endAt.instant ≤ item.startAt.instant) :
    itemViolations trip pois date previous item = openingViolations pois date item := by
  have hdailyStart := dailyStart_le_dayStart trip date
  have hdailyEnd := dayEnd_le_dailyEnd trip date
  have hoverlap : ∀ earlier, previous = some earlier →
      ¬ item.startAt.instant < earlier.endAt.instant := fun earlier heq => by
    have := hprevious earlier heq
    omega
  have hdaily : ¬ (item.startAt.instant <
        (DateTime.combine date trip.dailyStart trip.timezone).instant ∨
      (DateTime.combine date trip.dailyEnd trip.timezone).instant < item.endAt.instant) := by
    omega
  have harrival : ¬ (date = trip.arrival.instant.date ∧
      item.startAt.instant < (trip.arrival.instant.addMinutes 60).instant) := by
    rintro ⟨rfl, hlt⟩
    have := arrivalBuffer_le_dayStart trip
    omega
  have hdeparture : ¬ (date = trip.departure.instant.date ∧
      (trip.departure.instant.addMinutes (-90)).instant < item.endAt.instant) := by
    rintro ⟨rfl, hlt⟩
    have := dayEnd_le_departureBuffer trip
    omega
  unfold itemViolations
  dsimp only
  rw [if_neg (fun hboth => hdaily hboth.2), if_neg harrival, if_neg hdeparture]
  cases previous with
  | none => rfl
  | some earlier =>
    simp only [if_neg (hoverlap earlier rfl), List.append_nil, List.nil_append]

omit [Platform] in
/-- No item of a materialised day breaks a limit. -/
theorem itemViolations_eq_nil {item : PlanItem} {previous : Option PlanItem}
    (h : WithinLimits trip pois date item)
    (hprevious : ∀ earlier ∈ previous, earlier.endAt.instant ≤ item.startAt.instant) :
    itemViolations trip pois date previous item = [] := by
  rw [itemViolations_eq_openingViolations h.starts h.ends hprevious]
  exact openingViolations_eq_nil h

omit [Platform] in
/-- A materialised day is reported for its activity minutes only. -/
theorem dayViolations_dayPlanOf {progress : DayProgress}
    (hinv : DayInvariant trip pois date progress) :
    dayViolations trip pois (dayPlanOf trip date progress) =
      activityViolations trip (dayPlanOf trip date progress) := by
  have hitem (entry : PlanItem × Option PlanItem)
      (hmem : entry ∈ progress.items.zip (none :: progress.items.map some)) :
      itemViolations trip pois date entry.2 entry.1 = [] := by
    obtain ⟨item, previous⟩ := entry
    refine itemViolations_eq_nil (hinv.within item (List.of_mem_zip hmem).1) ?_
    rintro earlier rfl
    have hsep := rel_of_mem_zip_previous hinv.separated hmem
    have htravel : (0 : ℤ) ≤ item.travelFromPreviousMinutes * minuteMicros :=
      Int.mul_nonneg (Int.natCast_nonneg _) (by decide)
    dsimp only
    omega
  have hwalking : walkingViolations trip (dayPlanOf trip date progress) = [] :=
    if_neg (Nat.not_lt.mpr hinv.walkingLimit)
  unfold dayViolations
  dsimp only
  rw [orderedItems_dayPlanOf hinv, hwalking, List.append_nil]
  refine (congrArg (· ++ _) (List.flatMap_eq_nil_iff.mpr ?_)).trans (List.nil_append _)
  exact hitem

end Validation

/-! ## The errors of a candidate -/

omit [Platform] in
/-- Only warnings come from assumptions. -/
theorem severity_of_mem_assumptionWarnings {assumptions : List PlanningAssumption}
    {unverified : Bool} {violation : Violation}
    (h : violation ∈ assumptionWarnings assumptions unverified) :
    violation.severity = .warning := by
  unfold assumptionWarnings at h
  dsimp only at h
  obtain ⟨key, -, hget⟩ := List.mem_filterMap.mp h
  generalize List.map (fun a : PlanningAssumption => assumptionWarning a.field) _ ++ _ =
    entries at hget
  have hall : ∀ (entries : List (String × String)) (warnings : Dict String Violation),
      (∀ key violation, warnings.get? key = some violation → violation.severity = .warning) →
      ∀ key violation, (entries.foldl setDefaultWarning warnings).get? key = some violation →
        violation.severity = .warning := by
    intro entries
    induction entries with
    | nil => exact fun warnings hwarnings => hwarnings
    | cons entry rest ih =>
      intro warnings hwarnings
      refine ih _ fun key violation hget => ?_
      unfold setDefaultWarning at hget
      split at hget
      · exact hwarnings key violation hget
      · rw [Dict.get?_set] at hget
        split at hget
        · rw [← Option.some.inj hget]
          rfl
        · exact hwarnings key violation hget
  exact hall entries ∅ (by simp) key violation hget

/-- The types of the errors that planning does not rule out. -/
def plannerErrorTypes : List String :=
  ["empty_plan", "missing_must_visit", "activity_time_limit", "budget_exceeded"]

/-- The errors of a candidate whose days are reported for their activity minutes only. -/
theorem type_of_mem_candidateViolations {trip : TripSpec} {candidate : PlanCandidate}
    {pois : List PlanningPOI}
    (hdays : ∀ day ∈ candidate.days, dayViolations trip pois day = activityViolations trip day)
    {violation : Violation} (h : violation ∈ candidateViolations trip candidate pois)
    (herror : violation.severity = .error) : violation.type ∈ plannerErrorTypes := by
  simp only [candidateViolations, List.mem_append] at h
  rcases h with (((h | h) | h) | h) | h
  · unfold emptyPlanViolations at h
    split at h
    · rw [List.mem_singleton.mp h]
      decide
    · exact absurd h List.not_mem_nil
  · obtain ⟨required, -, rfl⟩ := List.mem_map.mp h
    simp [errorViolation, plannerErrorTypes]
  · obtain ⟨day, hday, h⟩ := List.mem_flatMap.mp h
    rw [hdays day hday] at h
    unfold activityViolations at h
    dsimp only at h
    split at h
    · rw [List.mem_singleton.mp h]
      simp [errorViolation, plannerErrorTypes]
    · exact absurd h List.not_mem_nil
  · unfold budgetViolations at h
    split at h
    · exact absurd h List.not_mem_nil
    · rcases List.mem_append.mp h with h | h <;> split at h
      · rw [List.mem_singleton.mp h] at herror
        exact absurd herror (by simp [warningViolation])
      · exact absurd h List.not_mem_nil
      · rw [List.mem_singleton.mp h]
        simp [errorViolation, plannerErrorTypes]
      · exact absurd h List.not_mem_nil
  · rw [severity_of_mem_assumptionWarnings h] at herror
    exact absurd herror (by decide)

/-! ## Enough routes and opening hours -/

/-- Every route that some drafts need is stored. -/
def coversDrafts (trip : TripSpec) (drafts : List CandidateDraft) (pois : List PlanningPOI)
    (routes : Routes) (settings : RouteSettings) : Bool :=
  match collectRouteQueries trip drafts pois settings with
  | .ok queries => queries.all fun query => routes.contains (routeKey query)
  | .error _ => false

section Existence

variable {trip : TripSpec} {settings : RouteSettings} {pois : List PlanningPOI} {routes : Routes}
  {date : Date}

theorem routeByMode_exists {origin destination : Coordinate} {originPoiId : Option String}
    {poiId : String}
    (h : ∀ query ∈ legQueries settings origin destination originPoiId poiId,
      (routes.get? (routeKey query)).isSome) :
    ∃ byMode, routeByMode settings routes origin destination originPoiId poiId = .ok byMode := by
  obtain ⟨found, hfound⟩ := exists_mapM (l := legModes settings origin destination)
      (f := fun mode => do
        let result ← orRaise (routes.get?
          (legKey settings origin destination originPoiId poiId mode))
          (.missingRouteResult (legKey settings origin destination originPoiId poiId mode))
        return (mode, result)) fun mode hmode => by
    obtain ⟨result, hresult⟩ := Option.isSome_iff_exists.mp (h _ (List.mem_map_of_mem hmode))
    refine ⟨(mode, result), ?_⟩
    rw [legKey, hresult]
    rfl
  exact ⟨Dict.ofList found, by rw [routeByMode, hfound]; rfl⟩

theorem nextLeg_exists {progress : DayProgress} {poi : PlanningPOI} {poiId : String}
    (hmode : RouteMode.driving ∈ settings.activeModes)
    (h : ∀ query ∈ legQueries settings progress.coordinate poi.facts.coordinate progress.poiId
      poiId, (routes.get? (routeKey query)).isSome) :
    ∃ leg, nextLeg trip settings routes progress poi poiId = .ok leg := by
  obtain ⟨byMode, hbyMode⟩ := routeByMode_exists h
  have hdriving : RouteMode.driving ∈
      legModes settings progress.coordinate poi.facts.coordinate := by
    simp [legModes, hmode]
  obtain ⟨driving, hsome⟩ : ∃ driving, byMode.get? .driving = some driving := by
    rw [get?_routeByMode hbyMode, if_pos hdriving]
    exact Option.isSome_iff_exists.mp (h _ (List.mem_map_of_mem hdriving))
  rw [nextLeg, hbyMode]
  change ∃ leg, chooseLeg trip settings progress.walkingTotal byMode = .ok leg
  rw [chooseLeg, hsome]
  split
  · split <;> exact ⟨_, rfl⟩
  · exact ⟨_, rfl⟩
  · split <;> exact ⟨_, rfl⟩
  · next hnone => exact absurd hnone (by simp)

/-- With its POIs, routes and opening hours at hand, the loop over a day does not fail. -/
theorem visitAll_exists (hmodes : settings.modes = some [.driving, .walking])
    (hwindows : ∀ poi ∈ pois, (poi.openingWindows.get? date).isSome)
    (hdurations : ∀ poi ∈ pois, 0 < poi.durationMinutes)
    (hcosts : ∀ poi ∈ pois, ∀ cost ∈ poi.partyCost, 0 ≤ cost)
    {poiIds : List String} {progress : DayProgress} {queries : List RouteQuery}
    (hqueries : dayQueries settings pois progress.coordinate progress.poiId poiIds = .ok queries)
    (hroutes : ∀ query ∈ queries, (routes.get? (routeKey query)).isSome) :
    ∃ final, visitAll trip settings pois routes date progress poiIds = .ok final := by
  induction poiIds generalizing progress queries with
  | nil => exact ⟨progress, rfl⟩
  | cons poiId rest ih =>
    obtain ⟨poi, hpoi, hqueries⟩ := bind_eq_ok hqueries
    obtain ⟨later, hlater, hqueries⟩ := bind_eq_ok hqueries
    obtain rfl := (Except.ok.inj hqueries).symm
    have hfound := orRaise_eq_ok hpoi
    have hmem := mem_of_poiById hfound
    obtain ⟨leg, hleg⟩ : ∃ leg, nextLeg trip settings routes progress poi poiId = .ok leg :=
      nextLeg_exists (by simp [RouteSettings.activeModes, hmodes]) fun query hquery =>
        hroutes query (List.mem_append_left _ hquery)
    obtain ⟨window, hwindow⟩ := Option.isSome_iff_exists.mp (hwindows poi hmem)
    obtain ⟨item, hitem⟩ : ∃ item,
        visitItem poi leg (visitStart trip date window progress.time leg) = .ok item := by
      unfold visitItem
      rw [dif_pos]
      · exact ⟨_, rfl⟩
      · have := hdurations poi hmem
        refine ⟨?_, hcosts poi hmem⟩
        rw [DateTime.instant_addMinutes]
        unfold minuteMicros
        omega
    have hnext : visitNext trip settings pois routes date progress poiId =
        if visitTooLate trip date window ((visitStart trip date window progress.time leg).addMinutes
          poi.durationMinutes) then .ok none else .ok (some (progress.visited poi leg item)) := by
      rw [visitNext, hpoi]
      change (nextLeg trip settings routes progress poi poiId >>= _) = _
      rw [hleg]
      change (orRaise (poi.openingWindows.get? date) _ >>= _) = _
      rw [hwindow]
      change (if _ then pure none else visitItem poi leg _ >>= _) = _
      rw [hitem]
      rfl
    rw [visitAll_cons, hnext]
    split
    · exact ⟨progress, rfl⟩
    · have hrest : dayQueries settings pois (progress.visited poi leg item).coordinate
          (progress.visited poi leg item).poiId rest = .ok later := by
        rw [DayProgress.visited, facts_id_of_poiById hfound]
        exact hlater
      exact ih hrest fun query hquery => hroutes query (List.mem_append_right _ hquery)

end Existence

/-! ## Materialised candidates -/

/-- What a draft day becomes: its POIs up to the first that does not fit, one after the other
with the travel between them, and the totals of its items. -/
structure MaterializedAs (draftDay : DraftDay) (materialized : MaterializedDay) : Prop where
  date : materialized.day.date = draftDay.date
  order : materialized.day.items.map PlanItem.poiId <+: draftDay.poiIds.map some
  separated : materialized.day.items.Pairwise fun earlier later =>
    earlier.endAt.instant + later.travelFromPreviousMinutes * minuteMicros ≤
      later.startAt.instant
  legs : List.Forall₂ ItemLeg materialized.day.items materialized.legs
  knownCost : materialized.day.knownEstimatedCost =
    (materialized.day.items.filterMap PlanItem.estimatedCost).sum
  unknownCost : materialized.day.unknownCostItemCount =
    materialized.day.items.countP fun item => item.estimatedCost.isNone
  travel : materialized.day.totalTravelMinutes =
    (materialized.day.items.map PlanItem.travelFromPreviousMinutes).sum
  walking : materialized.day.walkingDistanceMeters =
    (materialized.legs.map Leg.walkingMeters).sum

/-- A candidate whose days are materialised from a draft and whose metrics are their totals. -/
structure CandidateOf (trip : TripSpec) (settings : RouteSettings) (pois : List PlanningPOI)
    (routes : Routes) (draft : CandidateDraft) (candidate : PlanCandidate)
    (materialized : List MaterializedDay) : Prop where
  days : candidate.days = materialized.map MaterializedDay.day
  built : List.Forall₂ (fun draftDay day => materializeDay trip settings pois routes draftDay =
    .ok day) draft.days materialized
  each : List.Forall₂ MaterializedAs draft.days materialized
  knownCost : candidate.metrics.knownEstimatedCost =
    ((candidate.days.flatMap DayPlan.items).filterMap PlanItem.estimatedCost).sum
  unknownCost : candidate.metrics.unknownCostItemCount =
    (candidate.days.flatMap DayPlan.items).countP fun item => item.estimatedCost.isNone
  travel : candidate.metrics.totalTravelMinutes =
    ((candidate.days.flatMap DayPlan.items).map PlanItem.travelFromPreviousMinutes).sum
  walking : candidate.metrics.walkingDistanceMeters =
    ((materialized.flatMap MaterializedDay.legs).map Leg.walkingMeters).sum

section Main

variable {trip : TripSpec} {settings : RouteSettings} {pois : List PlanningPOI} {routes : Routes}

omit [Platform] in
theorem sum_map_flatMap {α β M : Type} [AddMonoid M] (f : α → M) (g : α → List β)
    (h : β → M) {l : List α} (heq : ∀ a ∈ l, f a = ((g a).map h).sum) :
    (l.map f).sum = ((l.flatMap g).map h).sum := by
  rw [List.map_flatMap, List.flatMap, List.sum_flatten, List.map_map]
  exact congrArg List.sum (List.map_congr_left heq)

/-- A materialised day has its items in the order of the draft and its totals from its items. -/
theorem materializedAs_of_materializeDay (hmodes : settings.modes = some [.driving, .walking])
    {draftDay : DraftDay} {materialized : MaterializedDay}
    (h : materializeDay trip settings pois routes draftDay = .ok materialized) :
    MaterializedAs draftDay materialized := by
  obtain ⟨progress, hprogress, h⟩ := bind_eq_ok h
  obtain rfl := Except.ok.inj h
  have hinv := dayInvariant_visitAll hmodes hprogress
  obtain ⟨visited, hprefix, hitems⟩ := visitAll_items hprogress
  refine ⟨rfl, ?_, hinv.separated, hinv.legs, hinv.knownCost, hinv.unknownCost, hinv.travel,
    hinv.walking⟩
  change progress.items.map PlanItem.poiId <+: _
  rw [hitems]
  exact hprefix.map some

/-- The validator finds nothing but activity minutes on a materialised day. -/
theorem dayViolations_materializeDay (hmodes : settings.modes = some [.driving, .walking])
    {draftDay : DraftDay} {materialized : MaterializedDay}
    (h : materializeDay trip settings pois routes draftDay = .ok materialized) :
    dayViolations trip pois materialized.day = activityViolations trip materialized.day := by
  obtain ⟨progress, hprogress, h⟩ := bind_eq_ok h
  obtain rfl := Except.ok.inj h
  exact dayViolations_dayPlanOf (dayInvariant_visitAll hmodes hprogress)

theorem candidateOf_of_materializeCandidate
    (hmodes : settings.modes = some [.driving, .walking]) {draft : CandidateDraft}
    {candidate : PlanCandidate}
    (h : materializeCandidate trip settings pois routes draft = .ok candidate) :
    ∃ materialized, CandidateOf trip settings pois routes draft candidate materialized := by
  obtain ⟨materialized, hdays, h⟩ := bind_eq_ok h
  obtain rfl := (Except.ok.inj h).symm
  have hbuilt := mapM_eq_ok.mp hdays
  have heach : List.Forall₂ MaterializedAs draft.days materialized :=
    hbuilt.imp fun _ _ => materializedAs_of_materializeDay hmodes
  have hmem : ∀ day ∈ materialized, ∃ draftDay, MaterializedAs draftDay day := by
    intro day hday
    obtain ⟨i, hi, rfl⟩ := List.mem_iff_getElem.mp hday
    exact ⟨_, List.Forall₂.get heach (heach.length_eq ▸ hi) hi⟩
  refine ⟨materialized, rfl, hbuilt, heach, ?_, ?_, ?_, ?_⟩ <;>
    simp only [candidateMetrics, List.map_map, List.flatMap_map]
  · rw [List.filterMap_flatMap, List.flatMap, List.sum_flatten, List.map_map]
    refine congrArg List.sum (List.map_congr_left fun day hday => ?_)
    obtain ⟨draftDay, hday⟩ := hmem day hday
    exact hday.knownCost
  · rw [List.countP_flatMap]
    refine congrArg List.sum (List.map_congr_left fun day hday => ?_)
    obtain ⟨draftDay, hday⟩ := hmem day hday
    exact hday.unknownCost
  · refine sum_map_flatMap _ _ _ fun day hday => ?_
    obtain ⟨draftDay, hday⟩ := hmem day hday
    exact hday.travel
  · refine sum_map_flatMap _ _ _ fun day hday => ?_
    obtain ⟨draftDay, hday⟩ := hmem day hday
    exact hday.walking

theorem materializeCandidates_exists (hmodes : settings.modes = some [.driving, .walking])
    {drafts : List CandidateDraft}
    (hdates : ∀ draft ∈ drafts, ∀ day ∈ draft.days,
      day.date ∈ Date.range trip.startDate trip.endDate)
    (hwindows : ∀ poi ∈ pois, ∀ date ∈ Date.range trip.startDate trip.endDate,
      (poi.openingWindows.get? date).isSome)
    (hdurations : ∀ poi ∈ pois, 0 < poi.durationMinutes)
    (hroutes : coversDrafts trip drafts pois routes settings = true)
    (hcosts : ∀ poi ∈ pois, ∀ cost ∈ poi.partyCost, 0 ≤ cost) :
    ∃ candidates, materializeCandidates trip drafts pois routes settings = .ok candidates := by
  unfold coversDrafts at hroutes
  split at hroutes
  · next queries hqueries =>
    have hcontains : ∀ query ∈ queries, routes.contains (routeKey query) :=
      List.all_eq_true.mp hroutes
    have heach : ∀ draft ∈ drafts,
        ∃ candidate, materializeCandidate trip settings pois routes draft = .ok candidate := by
      intro draft hdraft
      obtain ⟨days, hdays⟩ := exists_mapM (l := draft.days)
          (f := materializeDay trip settings pois routes) fun day hday => by
        obtain ⟨dayQs, hdayQs, hkeys⟩ := exists_dayQueries_of_collect hqueries hdraft hday
        obtain ⟨final, hfinal⟩ : ∃ final, visitAll trip settings pois routes day.date
            (.initial trip day.date) day.poiIds = .ok final := visitAll_exists hmodes
          (fun poi hpoi => hwindows poi hpoi _ (hdates draft hdraft day hday)) hdurations hcosts
          hdayQs fun query hquery => by
            obtain ⟨other, hother, hkey⟩ := List.mem_map.mp (hkeys query hquery)
            rw [← hkey]
            exact hcontains other hother
        rw [materializeDay, hfinal]
        exact ⟨_, rfl⟩
      rw [materializeCandidate, hdays]
      exact ⟨_, rfl⟩
    obtain ⟨candidates, hcandidates⟩ := exists_mapM heach
    refine ⟨candidates, ?_⟩
    rw [materializeCandidates, hqueries]
    change ((queries.forM fun query => require (routes.contains (routeKey query) = true)
      (.missingRouteResult (routeKey query))) >>= fun _ => drafts.mapM _ : Result _) = _
    rw [forM_require_eq_ok.mpr hcontains]
    exact hcandidates
  · exact absurd hroutes (by simp)

/-- The planner and the validator agree.  With routes and opening hours at hand the drafts
are materialised; each candidate has, day by day, the POIs of a prefix of its draft with
travel in between and totals that are sums over its items; and the validator finds no error
on it that the planner could have avoided. -/
theorem materializeCandidates_agrees_with_validateCandidate
    (hmodes : settings.modes = some [.driving, .walking]) {drafts : List CandidateDraft}
    (hdates : ∀ draft ∈ drafts, ∀ day ∈ draft.days,
      day.date ∈ Date.range trip.startDate trip.endDate)
    (hwindows : ∀ poi ∈ pois, ∀ date ∈ Date.range trip.startDate trip.endDate,
      (poi.openingWindows.get? date).isSome)
    (hdurations : ∀ poi ∈ pois, 0 < poi.durationMinutes)
    (hroutes : coversDrafts trip drafts pois routes settings = true) :
    ((∀ poi ∈ pois, ∀ cost ∈ poi.partyCost, 0 ≤ cost) →
      ∃ candidates, materializeCandidates trip drafts pois routes settings = .ok candidates) ∧
    ∀ candidates, materializeCandidates trip drafts pois routes settings = .ok candidates →
      List.Forall₂ (fun draft candidate =>
        (∃ materialized, CandidateOf trip settings pois routes draft candidate materialized) ∧
        ∀ violation ∈ (validateCandidate trip candidate pois).violations,
          violation.severity = .error → violation.type ∈ plannerErrorTypes)
        drafts candidates := by
  refine ⟨materializeCandidates_exists hmodes hdates hwindows hdurations hroutes,
    fun candidates h => ?_⟩
  obtain ⟨queries, _, h⟩ := bind_eq_ok h
  obtain ⟨_, _, h⟩ := bind_eq_ok h
  refine (mapM_eq_ok.mp h).imp fun draft candidate hcandidate => ?_
  have hof := candidateOf_of_materializeCandidate hmodes hcandidate
  refine ⟨hof, fun violation hviolation herror => ?_⟩
  obtain ⟨materialized, hof⟩ := hof
  refine type_of_mem_candidateViolations (fun day hday => ?_) hviolation herror
  rw [hof.days] at hday
  obtain ⟨built, hbuilt, rfl⟩ := List.mem_map.mp hday
  obtain ⟨i, hi, rfl⟩ := List.mem_iff_getElem.mp hbuilt
  exact dayViolations_materializeDay hmodes
    (List.Forall₂.get hof.built (hof.built.length_eq ▸ hi) hi)

end Main

/-! ## A two-day trip -/

namespace Sample

/-- `hour:minute` on a day, eight hours east of Greenwich. -/
def at_ (date : Date) (hour : Fin 24) : DateTime :=
  DateTime.combine date (TimeOfDay.ofHourMinute hour 0) (8 * 60 * minuteMicros)

def day1 : Date := Date.ofYmd 2026 10 1

def day2 : Date := Date.ofYmd 2026 10 2

/-- A point so many hundredths of a degree north of the station. -/
def north (hundredths : ℕ) : Coordinate := ⟨120, 30 + hundredths / 100⟩

def trip : TripSpec :=
  { destination := "杭州", startDate := day1, endDate := day2, travelers := 1
    arrival := ⟨"station", at_ day1 8, north 0⟩
    departure := ⟨"station", at_ day2 20, north 0⟩
    accommodation := none, totalBudget := none, interests := [], avoid := [], mustVisit := []
    pace := .balanced
    mobility := {}
    dailyStart := TimeOfDay.ofHourMinute 9 0, dailyEnd := TimeOfDay.ofHourMinute 20 0
    startDate_le_endDate := by decide +kernel
    startDate_le_arrival := by decide +kernel
    departure_le_endDate := by decide +kernel
    arrival_lt_departure := by decide +kernel
    dailyStart_lt_dailyEnd := by decide +kernel
    totalBudget_pos := by simp }

/-! What other samples change of the trip. -/

omit [Platform] in
theorem sameDay_departure : (at_ day1 20).date ≤ day1 := by decide +kernel

omit [Platform] in
theorem arrival_lt_evening : (at_ day1 8).instant < (at_ day1 20).instant := by decide +kernel

omit [Platform] in
theorem nine_lt_ten : TimeOfDay.ofHourMinute 9 0 < TimeOfDay.ofHourMinute 10 0 := by
  decide +kernel

/-- Nine to six. -/
def openingHours : TimeWindow :=
  ⟨TimeOfDay.ofHourMinute 9 0, TimeOfDay.ofHourMinute 18 0, by decide +kernel⟩

/-- A place with this id, so far north, for a visit of so many minutes. -/
def poi (id : String) (hundredths : ℕ) (minutes : ℕ) : PlanningPOI :=
  { facts :=
      { id, name := id, city := "杭州", coordinate := north hundredths, categories := ["景点"]
        openingWindowsByWeekday := ∅, todayOpeningWindow := none, todayOpeningDate := none
        averageCostPerPerson := none, suggestedDurationMinutes := none, provider := "amap"
        fetchedAt := at_ day1 8, dataConfidence := 9 / 10
        averageCostPerPerson_nonneg := by simp, suggestedDurationMinutes_pos := by simp }
    openingWindows := Dict.ofList [(day1, openingHours), (day2, openingHours)]
    durationMinutes := minutes, partyCost := some 0, assumptions := []
    openingWindowSources := Dict.ofList [(day1, .provider), (day2, .provider)]
    dataConfidence := 9 / 10 }

/-- Every leg takes this many minutes, whichever way it is travelled. -/
def route (mode : RouteMode) (minutes : Fin 60) : RouteResult :=
  { distanceMeters := 1400, durationMinutes := minutes + 1, mode, provider := "amap"
    dataConfidence := 9 / 10, fetchedAt := at_ day1 8
    distanceMeters_pos := by decide, durationMinutes_pos := Nat.succ_pos _ }

/-- Answer every query: a quarter of an hour by car, twenty minutes on foot. -/
def answerAll (queries : List RouteQuery) : Routes :=
  Dict.ofList (queries.map fun query =>
    (routeKey query, route query.mode (if query.mode = .driving then 14 else 19)))

/-- The routes for some drafts. -/
def routesFor (drafts : List CandidateDraft) (pois : List PlanningPOI)
    (settings : RouteSettings) : Routes :=
  match collectRouteQueries trip drafts pois settings with
  | .ok queries => answerAll queries
  | .error _ => ∅

def pois : List PlanningPOI := [poi "a" 1 60, poi "b" 2 90, poi "c" 3 60]

def settings : RouteSettings := { modes := some [.driving, .walking] }

def draft : CandidateDraft :=
  ⟨"balanced-r0", .balanced, [⟨day1, ["a", "b"]⟩, ⟨day2, ["c"]⟩]⟩

def routes : Routes := @routesFor plainPlatform [draft] pois settings

end Sample

omit [Platform] in
/-- The two-day trip is materialised and meets the validator. -/
theorem materializeCandidates_agrees_with_validateCandidate_sample :
    ∃ candidates,
      @materializeCandidates plainPlatform Sample.trip [Sample.draft] Sample.pois Sample.routes
        Sample.settings = .ok candidates ∧
      ∀ candidate ∈ candidates, ∀ violation ∈
        (@validateCandidate plainPlatform Sample.trip candidate Sample.pois).violations,
        violation.severity = .error → violation.type ∈ plannerErrorTypes := by
  let := plainPlatform
  obtain ⟨hexists, hall⟩ := @materializeCandidates_agrees_with_validateCandidate plainPlatform
    Sample.trip Sample.settings Sample.pois Sample.routes rfl [Sample.draft] (by decide +kernel)
    (by decide +kernel) (by decide +kernel) (by decide +kernel)
  obtain ⟨candidates, hcandidates⟩ := hexists (by decide +kernel)
  refine ⟨candidates, hcandidates, fun candidate hmem => ?_⟩
  obtain ⟨i, hi, rfl⟩ := List.mem_iff_getElem.mp hmem
  have heach := hall candidates hcandidates
  exact (List.Forall₂.get heach (heach.length_eq ▸ hi) hi).2

end TravelPlanAgent
