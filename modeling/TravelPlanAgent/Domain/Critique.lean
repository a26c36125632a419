import TravelPlanAgent.Domain.Plan

/-!
# Evidence, critiques and repairs

The value types of `domain/critique_models.py` and `domain/repair_models.py`.  A critique is
untrusted model output: its type bounds the number of its parts and the range of its scores
and says nothing about what its ids refer to.

* `EvidenceItem`, `CandidateEvidenceDigest`: the facts a critic is given.
* `SoftCritique`, `SoftCriticRequest.create`: an answer of the critic, and a request to it.
* `RepairAction`, `RepairPlan`, `CriticReport`: hard repairs.
* `SoftRepairPlan`: the one action that a critique may lead to.
-/

namespace TravelPlanAgent

open Calendar

/-! ## Evidence -/

inductive EvidenceKind where
  | tripPreference | candidateMetric | dayMetric | poiFact | scheduleFact | routeFact
  | assumption
  deriving DecidableEq

def EvidenceKind.value : EvidenceKind → String
  | .tripPreference => "trip_preference"
  | .candidateMetric => "candidate_metric"
  | .dayMetric => "day_metric"
  | .poiFact => "poi_fact"
  | .scheduleFact => "schedule_fact"
  | .routeFact => "route_fact"
  | .assumption => "assumption"

/-- The value of a fact. -/
inductive EvidenceValue where
  | text (s : String)
  | number (q : ℚ)
  | truth (b : Bool)
  deriving DecidableEq

structure EvidenceItem where
  id : String
  kind : EvidenceKind
  candidateId : String
  day : Option Date
  entityId : Option String
  field : String
  value : EvidenceValue
  source : String
  confidence : ℚ
  deriving DecidableEq

structure CandidateEvidenceDigest where
  candidateId : String
  style : PlanStyle
  evidence : List EvidenceItem
  inputChars : ℕ
  truncated : Bool

/-! ## Critiques -/

inductive SoftDimension where
  | pace | interestCoverage | diversity | restFriendliness | geographicCoherence
  deriving DecidableEq

namespace SoftDimension

def value : SoftDimension → String
  | .pace => "pace"
  | .interestCoverage => "interest_coverage"
  | .diversity => "diversity"
  | .restFriendliness => "rest_friendliness"
  | .geographicCoherence => "geographic_coherence"

/-- Every soft dimension, in the order of its declaration. -/
def all : List SoftDimension :=
  [.pace, .interestCoverage, .diversity, .restFriendliness, .geographicCoherence]

theorem mem_all (dimension : SoftDimension) : dimension ∈ all := by
  cases dimension <;> decide

end SoftDimension

inductive SuggestedActionKind where
  | moveOptionalPoi | reorderOptionalPoi | removeOptionalPoi | noAction
  deriving DecidableEq

/-- `SuggestedSoftAction.validate_field_combination`. -/
def suggestionValid (kind : SuggestedActionKind) (poiId : Option String)
    (fromDay toDay : Option Date) : Bool :=
  match kind with
  | .noAction => decide ((poiId = none ∨ poiId = some "") ∧ fromDay = none ∧ toDay = none)
  | .moveOptionalPoi =>
    decide (poiId ≠ none ∧ fromDay ≠ none ∧ toDay ≠ none ∧ toDay ≠ fromDay)
  | _ => decide (poiId ≠ none ∧ fromDay ≠ none ∧ (toDay = none ∨ toDay = fromDay))

structure SuggestedSoftAction where
  kind : SuggestedActionKind
  poiId : Option String
  fromDay : Option Date
  toDay : Option Date
  evidenceIds : List String
  expectedDimension : Option SoftDimension
  valid : suggestionValid kind poiId fromDay toDay = true
  deriving DecidableEq

structure DimensionCritique where
  dimension : SoftDimension
  score : ℕ
  summary : String
  evidenceIds : List String
  suggestedAction : Option SuggestedSoftAction
  score_le : score ≤ 100
  evidenceIds_bounds : 1 ≤ evidenceIds.length ∧ evidenceIds.length ≤ 12

structure SoftCritique where
  candidateId : String
  dimensions : List DimensionCritique
  overallSummary : String
  tradeoffEvidenceIds : List String
  dimensions_bounds : 1 ≤ dimensions.length ∧ dimensions.length ≤ 5
  tradeoffEvidenceIds_le : tradeoffEvidenceIds.length ≤ 12

inductive CriticStatus where
  | notRun | pending | success | unavailable | invalidGrounding | disabled
  deriving DecidableEq

structure CriticExecutionSummary where
  provider : String
  model : String
  promptVersion : String
  status : CriticStatus
  attemptCount : ℕ
  groundingAttemptCount : ℕ
  inputChars : ℕ
  errorCategory : Option String

/-- A request to the critic: between one and three digests, at most twenty complaints. -/
structure SoftCriticRequest where
  digests : List CandidateEvidenceDigest
  groundingFeedback : List String
  digests_bounds : 1 ≤ digests.length ∧ digests.length ≤ 3
  groundingFeedback_le : groundingFeedback.length ≤ 20

/-- Build a request; the model refuses what does not fit. -/
def SoftCriticRequest.create (digests : List CandidateEvidenceDigest)
    (groundingFeedback : List String) : Result SoftCriticRequest :=
  if h : (1 ≤ digests.length ∧ digests.length ≤ 3) ∧ groundingFeedback.length ≤ 20 then
    .ok ⟨digests, groundingFeedback, h.1, h.2⟩
  else .error (.validationError "SoftCriticRequest")

structure SoftCriticResult where
  critiques : List SoftCritique
  summary : CriticExecutionSummary

/-! ## Hard repairs -/

inductive RepairActionKind where
  | removeOptionalPoi | movePoi | reorderOptionalPoi | insertMustVisit | addAvailablePoi
  deriving DecidableEq

def RepairActionKind.value : RepairActionKind → String
  | .removeOptionalPoi => "remove_optional_poi"
  | .movePoi => "move_poi"
  | .reorderOptionalPoi => "reorder_optional_poi"
  | .insertMustVisit => "insert_must_visit"
  | .addAvailablePoi => "add_available_poi"

inductive RepairOutcome where
  | resolved | improved | noProgress
  deriving DecidableEq

structure RepairAction where
  kind : RepairActionKind
  sourceViolationType : String
  poiId : String
  fromDay : Option Date
  toDay : Option Date
  reason : String
  expectedEffect : String

structure CriticReport where
  candidateId : String
  violationFingerprint : String
  errorCount : ℕ
  warningCount : ℕ
  violationTypes : List String
  affectedDays : List Date
  affectedPoiIds : List String
  repairable : Bool
  terminalReason : Option String

structure RepairPlan where
  round : ℕ
  targetCandidateId : String
  sourceViolationTypes : List String
  actions : List RepairAction
  affectedDays : List Date
  preservedDays : List Date
  invalidatedRouteKeys : List String
  expectedEffects : List String
  actionFingerprint : String

structure RepairAttempt where
  round : ℕ
  targetCandidateId : String
  beforeViolationFingerprint : String
  afterViolationFingerprint : String
  beforeErrorCount : ℕ
  afterErrorCount : ℕ
  actionFingerprint : String
  actionKinds : List RepairActionKind
  outcome : RepairOutcome
  affectedDays : List Date
  preservedDayCount : ℕ
  reusedRouteCount : ℕ
  loadedRouteCount : ℕ
  terminalReason : Option String

/-! ## Soft repairs -/

structure SoftRepairPlan where
  round : ℕ
  targetCandidateId : String
  sourceDimension : SoftDimension
  sourceEvidenceIds : List String
  action : RepairAction
  affectedDays : List Date
  preservedDays : List Date
  actionFingerprint : String

structure SoftRepairAttempt where
  round : ℕ
  beforeQualityScore : ℚ
  afterQualityScore : Option ℚ
  hardValidationPassed : Bool
  accepted : Bool
  reusedRouteCount : ℕ
  loadedRouteCount : ℕ
  terminalReason : String

end TravelPlanAgent
