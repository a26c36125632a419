import TravelPlanAgent.Planning.Agreement
import TravelPlanAgent.Planning.Critic

/-!
# Why the validator reports an error

Every error of a validated candidate has one of six reasons, and its type tells which.

* `ErrorReason`: the reasons, with what the validator found.
* `errorReason_of_mem_candidateViolations`: every error has one.
* `errorReason_of_mem_errorViolations`: also when the validation is attached to the candidate.
-/

namespace TravelPlanAgent

open Calendar Selection

variable [Platform]

/-- The types of the errors about single items. -/
def itemErrorTypes : List String :=
  ["time_overlap", "outside_daily_window", "arrival_buffer", "departure_buffer",
   "outside_opening_hours"]

/-- What the validator found when it reports an error. -/
inductive ErrorReason (trip : TripSpec) (candidate : PlanCandidate) (violation : Violation) :
    Prop where
  /-- No activity is scheduled. -/
  | empty (htype : violation.type = "empty_plan")
      (hnone : (candidate.days.flatMap DayPlan.items).filter isActivity = [])
  /-- A required place is not scheduled. -/
  | missing (htype : violation.type = "missing_must_visit")
  /-- An item is where it must not be. -/
  | item (htype : violation.type ∈ itemErrorTypes)
  /-- A day has too much walking. -/
  | walking (htype : violation.type = "walking_limit")
  /-- A day has too much activity. -/
  | activity (day : DayPlan) (hday : day ∈ candidate.days)
      (htype : violation.type = "activity_time_limit") (hdate : violation.day = some day.date)
      (hover : (trip.mobility.maxDailyActivityMinutes : ℤ) < activityMinutes (orderedItems day))
  /-- The known costs are over the budget. -/
  | budget (budget : ℚ) (htype : violation.type = "budget_exceeded")
      (hbudget : trip.totalBudget = some budget)
      (hover : budget <
        ((candidate.days.flatMap DayPlan.items).filterMap PlanItem.estimatedCost).sum)

omit [Platform] in
/-- What is reported under a condition. -/
theorem of_mem_ite {p : Prop} [Decidable p] {a b : Violation} (h : b ∈ if p then [a] else []) :
    p ∧ b = a := by
  split at h
  · exact ⟨‹p›, List.mem_singleton.mp h⟩
  · exact absurd h List.not_mem_nil

omit [Platform] in
theorem type_of_mem_itemViolations {trip : TripSpec} {pois : List PlanningPOI} {day : Date}
    {previous : Option PlanItem} {item : PlanItem} {violation : Violation}
    (h : violation ∈ itemViolations trip pois day previous item) :
    violation.type ∈ itemErrorTypes := by
  simp only [itemViolations, List.mem_append] at h
  rcases h with (((h | h) | h) | h) | h
  · split at h
    · exact absurd h List.not_mem_nil
    · rw [(of_mem_ite h).2]
      simp [errorViolation, itemErrorTypes]
  · rw [(of_mem_ite h).2]
    simp [errorViolation, itemErrorTypes]
  · rw [(of_mem_ite h).2]
    simp [errorViolation, itemErrorTypes]
  · rw [(of_mem_ite h).2]
    simp [errorViolation, itemErrorTypes]
  · unfold openingViolations at h
    split at h
    · exact absurd h List.not_mem_nil
    split at h
    · exact absurd h List.not_mem_nil
    split at h
    · exact absurd h List.not_mem_nil
    · rw [(of_mem_ite h).2]
      simp [errorViolation, itemErrorTypes]

section Candidates

variable {trip : TripSpec} {candidate : PlanCandidate} {pois : List PlanningPOI}
  {violation : Violation}

omit [Platform] in
/-- What is reported about a day. -/
theorem errorReason_of_mem_dayViolations {day : DayPlan} (hday : day ∈ candidate.days)
    (h : violation ∈ dayViolations trip pois day) : ErrorReason trip candidate violation := by
  simp only [dayViolations, List.mem_append] at h
  rcases h with (h | h) | h
  · obtain ⟨entry, -, h⟩ := List.mem_flatMap.mp h
    exact .item (type_of_mem_itemViolations h)
  · rw [(of_mem_ite h).2]
    exact .walking rfl
  · obtain ⟨hover, rfl⟩ := of_mem_ite h
    exact .activity day hday rfl rfl hover

/-- Every error has a reason. -/
theorem errorReason_of_mem_candidateViolations
    (h : violation ∈ candidateViolations trip candidate pois)
    (herror : violation.severity = .error) : ErrorReason trip candidate violation := by
  simp only [candidateViolations, List.mem_append] at h
  rcases h with (((h | h) | h) | h) | h
  · obtain ⟨hnone, rfl⟩ := of_mem_ite h
    exact .empty rfl (List.isEmpty_iff.mp hnone)
  · obtain ⟨required, -, rfl⟩ := List.mem_map.mp h
    exact .missing rfl
  · obtain ⟨day, hday, h⟩ := List.mem_flatMap.mp h
    exact errorReason_of_mem_dayViolations hday h
  · unfold budgetViolations at h
    split at h
    · exact absurd h List.not_mem_nil
    · rename_i budget hbudget
      rcases List.mem_append.mp h with h | h
      · rw [(of_mem_ite h).2] at herror
        exact absurd herror (by simp [warningViolation])
      · obtain ⟨hover, rfl⟩ := of_mem_ite h
        exact .budget budget rfl hbudget hover
  · rw [severity_of_mem_assumptionWarnings h] at herror
    exact absurd herror (by decide)

/-- Every error of a candidate has a reason, when the validator's result is attached to it. -/
theorem errorReason_of_mem_errorViolations
    (hvalidated : candidate.validation =
      some (validateCandidate trip { candidate with validation := none } pois))
    (h : violation ∈ errorViolations candidate) : ErrorReason trip candidate violation := by
  obtain ⟨hmem, herror⟩ := List.mem_filter.mp h
  rw [violationsOf, hvalidated] at hmem
  exact errorReason_of_mem_candidateViolations hmem (of_decide_eq_true herror)

/-- An error that the validator would report is among those of the candidate. -/
theorem mem_errorViolations_of_mem
    (hvalidated : candidate.validation =
      some (validateCandidate trip { candidate with validation := none } pois))
    (h : violation ∈ candidateViolations trip candidate pois)
    (herror : violation.severity = .error) : violation ∈ errorViolations candidate := by
  refine List.mem_filter.mpr ⟨?_, decide_eq_true herror⟩
  rw [violationsOf, hvalidated]
  exact h

end Candidates

end TravelPlanAgent
