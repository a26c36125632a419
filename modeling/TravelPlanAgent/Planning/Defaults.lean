import TravelPlanAgent.Domain.Tools

/-!
# Default facts

`resolvePlanningPoi` turns the facts of a provider into the facts that planning needs.  What
the provider leaves open is assumed and recorded, or the place is refused.

* `resolveOpeningWindow`, `resolveOpeningWindows`: the hours of a day, and of the trip.
* `missingFields`, `buildAssumptions`: what had to be assumed.
* `resolvePlanningPoi`: the place with every fact.
* `openingWindows_resolvePlanningPoi`: a resolved place has hours on every day of the trip.
-/

namespace TravelPlanAgent

open Calendar

/-- Ten to four. -/
def defaultOpeningWindow : TimeWindow :=
  ⟨TimeOfDay.ofHourMinute 10 0, TimeOfDay.ofHourMinute 16 0, by decide +kernel⟩

def defaultDurationMinutes : ℕ := 90

/-- The hours that the provider gives for a date. -/
def resolveOpeningWindow (facts : POIFacts) (date : Date) : Option TimeWindow :=
  if facts.todayOpeningDate = some date ∧ facts.todayOpeningWindow.isSome then
    facts.todayOpeningWindow
  else facts.openingWindowsByWeekday.get? date.weekday

/-- The hours of every date of the trip, with their source. -/
def resolveOpeningWindows (facts : POIFacts) (trip : TripSpec) :
    List (Date × TimeWindow × ValueSource) :=
  (Date.range trip.startDate trip.endDate).map fun date =>
    match resolveOpeningWindow facts date with
    | some window => (date, window, .provider)
    | none => (date, defaultOpeningWindow, .default)

/-- The dates whose hours are assumed. -/
def defaultOpeningDates (facts : POIFacts) (trip : TripSpec) : List Date :=
  ((resolveOpeningWindows facts trip).filter fun entry => decide (entry.2.2 = .default)).map
    Prod.fst

/-- The facts that the provider leaves open. -/
def missingFields (facts : POIFacts) (trip : TripSpec) : List String :=
  (if (defaultOpeningDates facts trip).isEmpty then [] else ["opening_window"]) ++
    (if facts.suggestedDurationMinutes.isNone then ["duration_minutes"] else []) ++
    (if facts.averageCostPerPerson.isNone then ["party_cost"] else [])

/-- The value and the reason recorded for an assumed field. -/
def assumptionDetails (field : String) : String × String :=
  if field = "opening_window" then
    ("10:00-16:00", "Provider 未提供适用于全部行程日期的营业时间，按默认 policy 补齐。")
  else if field = "duration_minutes" then
    (toString defaultDurationMinutes, "Provider 未提供建议游览时长，按默认 policy 估算。")
  else ("unknown", "Provider 未提供人均费用，费用保持未知而不进行猜测。")

/-- `_build_assumptions`. -/
def buildAssumptions (facts : POIFacts) (fields : List String) (dates : List Date) :
    List PlanningAssumption :=
  fields.map fun field =>
    { field, value := (assumptionDetails field).1, reason := (assumptionDetails field).2
      source := .default
      affectedDates := if field = "opening_window" then dates else []
      createdAt := facts.fetchedAt }

/-- `POIDefaultPolicy.resolve`; `none` when the strict policy refuses the place. -/
def resolvePlanningPoi (policy : UnknownFactPolicy) (facts : POIFacts) (trip : TripSpec) :
    Option PlanningPOI :=
  let windows := resolveOpeningWindows facts trip
  let fields := missingFields facts trip
  let assumptions := buildAssumptions facts fields (defaultOpeningDates facts trip)
  if policy = .strict ∧ fields ≠ [] then none
  else some
    { facts
      openingWindows := .ofList (windows.map fun entry => (entry.1, entry.2.1))
      durationMinutes := facts.suggestedDurationMinutes.getD defaultDurationMinutes
      partyCost := facts.averageCostPerPerson.map fun cost => cost * trip.travelers
      assumptions
      openingWindowSources := .ofList (windows.map fun entry => (entry.1, entry.2.2))
      dataConfidence := max (1 / 10) (facts.dataConfidence - 15 / 100 * assumptions.length) }

/-! ## Resolved places can be planned -/

section Resolved

variable {policy : UnknownFactPolicy} {facts : POIFacts} {trip : TripSpec} {poi : PlanningPOI}

theorem facts_resolvePlanningPoi (h : resolvePlanningPoi policy facts trip = some poi) :
    poi.facts = facts := by
  unfold resolvePlanningPoi at h
  dsimp only at h
  split at h
  · exact absurd h (by simp)
  · rw [← Option.some.inj h]

/-- A resolved place has hours on every day of the trip. -/
theorem openingWindows_resolvePlanningPoi (h : resolvePlanningPoi policy facts trip = some poi)
    {date : Date} (hdate : date ∈ Date.range trip.startDate trip.endDate) :
    (poi.openingWindows.get? date).isSome := by
  unfold resolvePlanningPoi at h
  dsimp only at h
  split at h
  · exact absurd h (by simp)
  · rw [← Option.some.inj h, Option.isSome_iff_ne_none]
    intro hnone
    refine Dict.get?_ofList_eq_none_iff.mp hnone ?_
    rw [List.map_map, resolveOpeningWindows, List.map_map, List.mem_map]
    refine ⟨date, hdate, ?_⟩
    simp only [Function.comp_apply]
    split <;> rfl

/-- A resolved place takes time. -/
theorem durationMinutes_resolvePlanningPoi (h : resolvePlanningPoi policy facts trip = some poi) :
    0 < poi.durationMinutes := by
  unfold resolvePlanningPoi at h
  dsimp only at h
  split at h
  · exact absurd h (by simp)
  · rw [← Option.some.inj h]
    cases hminutes : facts.suggestedDurationMinutes with
    | none => simp [defaultDurationMinutes]
    | some minutes => simpa using facts.suggestedDurationMinutes_pos minutes hminutes

/-- A resolved place costs nothing or something. -/
theorem partyCost_resolvePlanningPoi (h : resolvePlanningPoi policy facts trip = some poi) :
    ∀ cost ∈ poi.partyCost, 0 ≤ cost := by
  unfold resolvePlanningPoi at h
  dsimp only at h
  split at h
  · exact absurd h (by simp)
  · rw [← Option.some.inj h]
    intro cost hcost
    obtain ⟨perPerson, hperPerson, rfl⟩ := Option.map_eq_some_iff.mp hcost
    exact mul_nonneg (facts.averageCostPerPerson_nonneg perPerson hperPerson) (Nat.cast_nonneg _)

end Resolved

end TravelPlanAgent
