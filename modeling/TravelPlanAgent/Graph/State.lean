import TravelPlanAgent.Agents.Specialists
import TravelPlanAgent.Critique.Explanation
import TravelPlanAgent.Planning.SearchPlan
import TravelPlanAgent.Planning.SoftRepair

/-!
# The planning graph: state and surroundings

* `PlanningRequest`, `PlanningSetup`: what a run is started with and what the graph is built from.
* `CriticAnswer`, `PlanningWorld`: the tools, the solver, the critic, the clock and the trace.
  They may answer differently in every step of a run.
* `TravelState`, `initialState`: the state that the nodes read and update.
* `PlanningNode`: the nodes of the graph.
-/

namespace TravelPlanAgent

open Calendar Selection

/-! ## What a run is started with -/

theorem usualReplanRounds_le : 2 ≤ 5 := by decide

structure PlanningRequest where
  trip : TripSpec
  maxReplanRounds : ℕ := 2
  maxReplanRounds_le : maxReplanRounds ≤ 5 := by first | exact usualReplanRounds_le | decide

/-- `PlanningEvaluationOverrides`: switches that only the offline evaluation sets. -/
structure PlanningEvaluationOverrides where
  skipValidator : Bool := false
  forceHeuristicOptimizer : Bool := false
  skipSoftCritic : Bool := false
  fullReplan : Bool := false

/-- The labels of a critic gateway. -/
structure CriticLabels where
  provider : String
  model : String
  promptVersion : String

/-- The arguments of `build_workflow`.  Without `critic` there is no critic gateway. -/
structure PlanningSetup where
  defaults : UnknownFactPolicy
  policy : PlanningPolicy
  optimizationBudget : OptimizationBudget
  critic : Option CriticLabels
  criticPolicy : CriticPolicy
  evidenceBudget : EvidenceBudget
  overrides : PlanningEvaluationOverrides
  agentMode : AgentMode
  specialists : SpecialistExecutor

/-! ## What a run meets -/

/-- The exceptions of a critic gateway. -/
inductive CriticException where
  /-- `CriticUnavailableError`. -/
  | unavailable (provider model category : String) (attemptCount : ℕ)
  | raised (failure : Failure)

/-- What a critic gateway answers. -/
abbrev CriticAnswer := Except CriticException SoftCriticResult

/-- The work that is handed to a specialist. -/
inductive HandoffWork where
  | plan (trip : TripSpec) (poiQueryLimit maxQueries : ℕ)
  | hardRepair (trip : TripSpec) (candidate : PlanCandidate) (draft : CandidateDraft)
    (pois : List PlanningPOI) (report : CriticReport) (repairRound : ℕ)
    (previousActionFingerprints : List String)
  | softCritique (request : SoftCriticRequest) (candidateIds : List String)

/-- How the surroundings of a run behave in its `n`-th step. -/
structure PlanningWorld where
  gateway : ℕ → ToolGateway
  solve : OptimizationProblem → SolverAnswer
  critique : ℕ → SoftCriticRequest → ℕ → CriticAnswer
  /-- The milliseconds that have passed at the `k`-th reading of the clock in a step. -/
  elapsedMs : ℕ → ℕ → ℕ
  /-- The checkpointer stores the state after a step. -/
  checkpoint : ℕ → Result Unit
  /-- The size, the time and the trace of a hand-off. -/
  handoffTerms : ℕ → HandoffWork → HandoffTerms
  queriesCharacters : List POISearchQuery → ℕ
  repairCharacters : Option RepairPlan × Option String → ℕ
  critiqueCharacters : SoftCriticResult → ℕ

/-! ## The state -/

/-- `TravelState`, without what is only logged. -/
structure TravelState where
  trip : TripSpec
  searchQueries : List POISearchQuery
  poiFacts : List POIFacts
  planningPois : List PlanningPOI
  optimizationPois : List PlanningPOI
  optimizationProblem : Option OptimizationProblem
  optimizationResult : Option OptimizationResult
  candidateDrafts : List CandidateDraft
  routeQueries : List RouteQuery
  deltaRouteQueries : List RouteQuery
  routeResults : Routes
  reusedRouteKeys : List String
  candidates : List PlanCandidate
  selectedPlan : Option PlanCandidate
  iterations : ℕ
  pendingReplanRound : Option ℕ
  maxReplanRounds : ℕ
  repairTargetCandidateId : Option String
  criticReport : Option CriticReport
  repairPlan : Option RepairPlan
  repairHistory : List RepairAttempt
  preservedDayHashes : Dict String String
  repairTerminalReason : Option String
  lastRouteLoadedCount : ℕ
  lastRouteReusedCount : ℕ
  criticEvidenceDigests : List CandidateEvidenceDigest
  softCritiques : List SoftCritique
  criticExecutionSummary : Option CriticExecutionSummary
  criticStatus : CriticStatus
  criticGroundingAttempts : ℕ
  criticGroundingMaxAttempts : ℕ
  criticGroundingErrors : List String
  qualityScores : Dict String ℚ
  softBaselineCandidates : List PlanCandidate
  softBaselineCandidateDrafts : List CandidateDraft
  softBaselineCritiques : List SoftCritique
  softBaselineEvidenceDigests : List CandidateEvidenceDigest
  softBaselineQualityScores : Dict String ℚ
  softBaselineCriticExecutionSummary : Option CriticExecutionSummary
  softRepairPlan : Option SoftRepairPlan
  softRepairHistory : List SoftRepairAttempt
  softIterations : ℕ
  maxSoftReplanRounds : ℕ
  pendingSoftReplanRound : Option ℕ
  softRepairTerminalReason : Option String
  groundedExplanation : Option GroundedExplanation
  status : String
  message : Option String

/-- `initial_state`. -/
def initialState (request : PlanningRequest) : TravelState where
  trip := request.trip
  searchQueries := []
  poiFacts := []
  planningPois := []
  optimizationPois := []
  optimizationProblem := none
  optimizationResult := none
  candidateDrafts := []
  routeQueries := []
  deltaRouteQueries := []
  routeResults := ∅
  reusedRouteKeys := []
  candidates := []
  selectedPlan := none
  iterations := 0
  pendingReplanRound := none
  maxReplanRounds := request.maxReplanRounds
  repairTargetCandidateId := none
  criticReport := none
  repairPlan := none
  repairHistory := []
  preservedDayHashes := ∅
  repairTerminalReason := none
  lastRouteLoadedCount := 0
  lastRouteReusedCount := 0
  criticEvidenceDigests := []
  softCritiques := []
  criticExecutionSummary := none
  criticStatus := .notRun
  criticGroundingAttempts := 0
  criticGroundingMaxAttempts := 2
  criticGroundingErrors := []
  qualityScores := ∅
  softBaselineCandidates := []
  softBaselineCandidateDrafts := []
  softBaselineCritiques := []
  softBaselineEvidenceDigests := []
  softBaselineQualityScores := ∅
  softBaselineCriticExecutionSummary := none
  softRepairPlan := none
  softRepairHistory := []
  softIterations := 0
  maxSoftReplanRounds := 1
  pendingSoftReplanRound := none
  softRepairTerminalReason := none
  groundedExplanation := none
  status := "started"
  message := none

/-- The validation of a candidate lets it be delivered. -/
def isDeliverable (candidate : PlanCandidate) : Bool :=
  match candidate.validation with
  | none => false
  | some validation => decide (validation.status ≠ .invalid)

/-- `_deliverable_candidates`. -/
def deliverableCandidates (state : TravelState) : List PlanCandidate :=
  state.candidates.filter isDeliverable

/-! ## The nodes -/

/-- The nodes of the planning graph. -/
inductive PlanningNode where
  | executionBudgetGuard | buildSearchPlan | loadPois | resolvePoiFacts | buildRouteMatrix
  | buildOptimizationProblem | solveCandidateVariants | materializeOptimizedCandidates
  | materializeCandidates | validateCandidates | selectRepairTarget | analyzeViolations
  | buildRepairPlan | applyLocalRepair | collectDeltaRoutes | loadDeltaRoutes
  | prepareCriticContext | softConstraintCritic | validateCriticEvidence | qualityGate
  | compileSoftRepairPlan | applySoftRepair | collectSoftDeltaRoutes | loadSoftDeltaRoutes
  | materializeSoftCandidate | restoreSoftBaseline | compareSoftRepair | selectByQuality
  | explainSelection | selectBest | markInfeasible | selectUnvalidatedForEvaluation
  deriving DecidableEq

namespace PlanningNode

/-- Nodes that may use the reserved steps of the budget. -/
def isTerminal : PlanningNode → Bool
  | validateCandidates | explainSelection | selectBest | markInfeasible
  | selectUnvalidatedForEvaluation => true
  | _ => false

/-- `_REPAIR_NODES`: nodes that are charged a repair round. -/
def isRepair : PlanningNode → Bool
  | applyLocalRepair | applySoftRepair => true
  | _ => false

end PlanningNode

end TravelPlanAgent
