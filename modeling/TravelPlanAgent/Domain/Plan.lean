import TravelPlanAgent.Domain.Trip

/-!
# Plans

A candidate plan is a list of days, each with its scheduled items, and the result of the hard
validation when there is one.

* `PlanItem`, `DayPlan`, `PlanCandidate`: a plan.
* `Violation`, `ValidationResult`: what the validator reports; the status of a result is
  always the one that its violations call for.
* `CandidateDraft`: the POIs of each day before they are scheduled.
-/

namespace TravelPlanAgent

open Calendar

/-! ## Scheduled items -/

inductive ItemType where
  | activity | meal | rest | transport
  deriving DecidableEq

def ItemType.value : ItemType → String
  | .activity => "activity"
  | .meal => "meal"
  | .rest => "rest"
  | .transport => "transport"

@[ext] structure PlanItem where
  itemId : Option String
  type : ItemType
  name : String
  startAt : DateTime
  endAt : DateTime
  poiId : Option String
  travelFromPreviousMinutes : ℕ
  distanceFromPreviousMeters : ℕ
  estimatedCost : Option ℚ
  walkingDistanceEstimated : Bool
  locked : Bool
  startAt_lt_endAt : startAt.instant < endAt.instant
  estimatedCost_nonneg : ∀ cost ∈ estimatedCost, 0 ≤ cost

instance : DecidableEq PlanItem := fun _ _ => decidable_of_iff' _ PlanItem.ext_iff

/-- The length of an item in microseconds. -/
def PlanItem.duration (item : PlanItem) : ℤ := item.endAt.instant - item.startAt.instant

structure DayPlan where
  date : Date
  theme : String
  primaryArea : String
  items : List PlanItem
  knownEstimatedCost : ℚ
  unknownCostItemCount : ℕ
  totalTravelMinutes : ℕ
  walkingDistanceMeters : ℕ
  fatigueScore : ℚ
  deriving DecidableEq

structure PlanMetrics where
  preferenceMatch : ℚ
  diversity : ℚ
  dataConfidence : ℚ
  totalTravelMinutes : ℕ
  walkingDistanceMeters : ℕ
  knownEstimatedCost : ℚ
  unknownCostItemCount : ℕ
  fatigueScore : ℚ
  deriving DecidableEq

/-! ## Hard validation -/

inductive ViolationSeverity where
  | error | warning
  deriving DecidableEq

inductive ValidationStatus where
  | valid | validWithWarnings | invalid
  deriving DecidableEq

def ViolationSeverity.value : ViolationSeverity → String
  | .error => "error"
  | .warning => "warning"

def ValidationStatus.value : ValidationStatus → String
  | .valid => "valid"
  | .validWithWarnings => "valid_with_warnings"
  | .invalid => "invalid"

structure Violation where
  type : String
  severity : ViolationSeverity
  message : String
  day : Option Date
  entityIds : List String
  repairHint : Option String
  deriving DecidableEq

def Violation.isError (violation : Violation) : Bool := violation.severity = .error

/-- `ValidationResult._status_from_violations`. -/
def statusFromViolations (violations : List Violation) : ValidationStatus :=
  if violations.any Violation.isError then .invalid
  else if violations.isEmpty then .valid
  else .validWithWarnings

/-- A validation result; its status follows from its violations. -/
structure ValidationResult where
  status : ValidationStatus
  violations : List Violation
  status_eq : status = statusFromViolations violations
  deriving DecidableEq

namespace ValidationResult

def fromViolations (violations : List Violation) : ValidationResult :=
  ⟨statusFromViolations violations, violations, rfl⟩

@[simp] theorem violations_fromViolations (violations : List Violation) :
    (fromViolations violations).violations = violations := rfl

/-- A result is invalid exactly when it reports an error. -/
theorem status_eq_invalid_iff (result : ValidationResult) :
    result.status = .invalid ↔ ∃ violation ∈ result.violations, violation.severity = .error := by
  rw [result.status_eq, statusFromViolations]
  constructor
  · intro h
    split at h
    · next hany => simpa [Violation.isError] using hany
    · split at h <;> exact absurd h (by decide)
  · rintro ⟨violation, hmem, herror⟩
    rw [if_pos]
    exact List.any_eq_true.mpr ⟨violation, hmem, by simp [Violation.isError, herror]⟩

end ValidationResult

/-! ## Candidates and drafts -/

structure PlanCandidate where
  id : String
  style : PlanStyle
  days : List DayPlan
  metrics : PlanMetrics
  validation : Option ValidationResult
  score : Option ℚ
  assumptions : List PlanningAssumption
  deriving DecidableEq

/-- The scheduled items of a candidate with their dates. -/
def PlanCandidate.datedItems (candidate : PlanCandidate) : List (Date × PlanItem) :=
  candidate.days.flatMap fun day => day.items.map fun item => (day.date, item)

/-- The POIs of one day, in visiting order. -/
structure DraftDay where
  date : Date
  poiIds : List String
  deriving DecidableEq

structure CandidateDraft where
  id : String
  style : PlanStyle
  days : List DraftDay
  deriving DecidableEq

end TravelPlanAgent
