import TravelPlanAgent.Planning.Repair

/-!
# Soft repairs

A critique may suggest an action for each dimension.  The first suggestion that is safe, from
the worst dimension on, becomes the one action of a soft repair.

* `softAction`: what a suggestion asks for, when it is safe.
* `compileSoftRepairPlan`: the plan for a critique.
* `applySoftRepair`: the repaired draft.
* `compileSoftRepairPlan_some`, `applySoftRepair_eq_ok`: what a plan and a draft carry.
-/

namespace TravelPlanAgent

open Calendar Selection

variable [Platform]

/-! ## Suggestions -/

/-- Some remaining place has a category that the traveller is interested in. -/
def interestsRemain (trip : TripSpec) (pois : List PlanningPOI) (poiIds : List String) : Bool :=
  poiIds.any fun poiId =>
    match poiById pois poiId with
    | none => false
    | some poi => poi.facts.categories.any fun category =>
      decide (normalize category ∈ trip.interests.map normalize)

/-- The minutes that the known places of a day take. -/
def dayMinutes (pois : List PlanningPOI) (poiIds : List String) : ℤ :=
  ((poiIds.filterMap (poiById pois)).map PlanningPOI.durationMinutes).sum

/-- What a suggestion asks for and the target day, when it keeps the plan sound. -/
def softAction (trip : TripSpec) (pois : List PlanningPOI) (dayIds : Dict Date (List String))
    (suggestion : SuggestedSoftAction) :
    Option (RepairActionKind × String × Date × Option Date) := do
  let poiId ← suggestion.poiId
  let fromDay ← suggestion.fromDay
  let poi ← poiById pois poiId
  let sourceIds ← dayIds.get? fromDay
  if poiId ∉ sourceIds ∨ trip.isMustVisit poi.facts.name then none
  else match suggestion.kind with
    | .noAction => none
    | .removeOptionalPoi =>
      let remaining := (dayIds.values.flatten).filter fun id => decide (id ≠ poiId)
      if dayIds.values.flatten.length ≤ 1 then none
      else if trip.interests ≠ [] ∧ ¬interestsRemain trip pois remaining then none
      else some (.removeOptionalPoi, poiId, fromDay, none)
    | .moveOptionalPoi => do
      let toDay ← suggestion.toDay
      let targetIds ← dayIds.get? toDay
      if ¬poi.openingWindows.contains toDay then none
      else if (trip.mobility.maxDailyActivityMinutes : ℤ) <
          dayMinutes pois targetIds + poi.durationMinutes then none
      else some (.movePoi, poiId, fromDay, some toDay)
    | .reorderOptionalPoi =>
      if sourceIds.length < 2 then none
      else some (.reorderOptionalPoi, poiId, fromDay, some fromDay)

/-- The dimensions of a critique, the worst first. -/
def orderedDimensions (critique : SoftCritique) : List DimensionCritique :=
  sortByKey (fun dimension : DimensionCritique =>
    (toLex (dimension.score, dimension.dimension.value) : ℕ ×ₗ String)) critique.dimensions

/-! ## Plans -/

/-- The plan that one dimension leads to. -/
def softPlanOf (trip : TripSpec) (candidate : PlanCandidate) (draft : CandidateDraft)
    (pois : List PlanningPOI) (repairRound : ℕ) (dimension : DimensionCritique) :
    Option SoftRepairPlan := do
  let suggestion ← dimension.suggestedAction
  let (kind, poiId, fromDay, toDay) ← softAction trip pois (dayPoisOf draft) suggestion
  let affectedDays := sortedSet (fromDay :: toDay.toList)
  let fingerprintSource := "|".intercalate
    [candidate.id, kind.value, poiId, fromDay.isoformat, (toDay.map Date.isoformat).getD ""]
  return {
    round := repairRound
    targetCandidateId := candidate.id
    sourceDimension := dimension.dimension
    sourceEvidenceIds := suggestion.evidenceIds
    action :=
      { kind, sourceViolationType := "soft:" ++ dimension.dimension.value, poiId
        fromDay := some fromDay, toDay, reason := dimension.summary
        expectedEffect := "改善 " ++ dimension.dimension.value }
    affectedDays
    preservedDays := (draft.days.map DraftDay.date).filter fun day => decide (day ∉ affectedDays)
    actionFingerprint := prefixText 24 (sha256 fingerprintSource) }

/-- `compile_soft_repair_plan`: a plan, or the reason why there is none. -/
def compileSoftRepairPlan (trip : TripSpec) (candidate : PlanCandidate) (draft : CandidateDraft)
    (pois : List PlanningPOI) (critique : SoftCritique) (repairRound : ℕ) :
    Option SoftRepairPlan × Option String :=
  if critique.candidateId ≠ candidate.id ∨ draft.id ≠ candidate.id then
    (none, some "soft_context_mismatch")
  else match (orderedDimensions critique).findSome?
      (softPlanOf trip candidate draft pois repairRound) with
    | some plan => (some plan, none)
    | none => (none, some "no_safe_soft_action")

/-- The POIs of each day after a soft action on a day where its POI is scheduled. -/
def softActedOn (dayPois : Dict Date (List String)) (action : RepairAction) (sourceDay : Date)
    (sourceIds : List String) : Result (Dict Date (List String)) :=
  let without := dayPois.set sourceDay (sourceIds.erase action.poiId)
  match action.kind with
  | .removeOptionalPoi => .ok without
  | .movePoi => do
    let toDay ← orRaise action.toDay (.valueError "soft move requires a valid target day")
    let targetIds ← orRaise (without.get? toDay)
      (.valueError "soft move requires a valid target day")
    return without.set toDay (targetIds ++ [action.poiId])
  | .reorderOptionalPoi =>
    .ok (dayPois.set sourceDay (action.poiId :: sourceIds.erase action.poiId))
  | _ => .error (.valueError "unsupported soft repair action")

/-- `apply_soft_repair`. -/
def applySoftRepair (draft : CandidateDraft) (plan : SoftRepairPlan) : Result CandidateDraft := do
  let sourceDay ← orRaise plan.action.fromDay
    (.valueError "soft repair source POI is not scheduled on from_day")
  let sourceIds := ((dayPoisOf draft).get? sourceDay).getD []
  require (plan.action.poiId ∈ sourceIds)
    (.valueError "soft repair source POI is not scheduled on from_day")
  let dayPois ← softActedOn (dayPoisOf draft) plan.action sourceDay sourceIds
  return {
    id := draft.id ++ "-soft-r" ++ toString plan.round
    style := draft.style
    days := daysWith draft dayPois }

/-! ## What plans carry -/

section Plans

variable {trip : TripSpec} {candidate : PlanCandidate} {draft : CandidateDraft}
  {pois : List PlanningPOI}

/-- A plan is about the round and the candidate it was asked for. -/
theorem compileSoftRepairPlan_some {critique : SoftCritique} {repairRound : ℕ}
    {plan : SoftRepairPlan} {reason : Option String}
    (h : compileSoftRepairPlan trip candidate draft pois critique repairRound =
      (some plan, reason)) :
    plan.round = repairRound ∧ plan.targetCandidateId = candidate.id ∧ reason = none := by
  unfold compileSoftRepairPlan at h
  split at h
  · exact absurd h (by simp)
  split at h
  · next found hfound =>
    obtain ⟨hplan, hreason⟩ := Prod.mk.inj h
    obtain rfl := Option.some.inj hplan
    obtain ⟨dimension, _, hdimension⟩ := List.exists_of_findSome?_eq_some hfound
    obtain ⟨suggestion, _, hdimension⟩ := Option.bind_eq_some_iff.mp hdimension
    obtain ⟨chosen, _, hdimension⟩ := Option.bind_eq_some_iff.mp hdimension
    obtain rfl := Option.some.inj hdimension
    exact ⟨rfl, rfl, hreason.symm⟩
  · exact absurd h (by simp)

omit [Platform] in
/-- A repaired draft has an id of its own. -/
theorem applySoftRepair_eq_ok {plan : SoftRepairPlan} {repaired : CandidateDraft}
    (h : applySoftRepair draft plan = .ok repaired) :
    repaired.id = draft.id ++ "-soft-r" ++ toString plan.round ∧
      repaired.style = draft.style ∧
      repaired.days.map DraftDay.date = draft.days.map DraftDay.date := by
  obtain ⟨sourceDay, _, h⟩ := bind_eq_ok h
  obtain ⟨_, _, h⟩ := bind_eq_ok h
  obtain ⟨dayPois, _, h⟩ := bind_eq_ok h
  cases h
  exact ⟨rfl, rfl, by simp [daysWith, Function.comp_def]⟩

end Plans

end TravelPlanAgent
