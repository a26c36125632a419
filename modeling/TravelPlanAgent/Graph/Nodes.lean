import TravelPlanAgent.Graph.State

/-!
# The planning graph: nodes

Every node reads the state and answers with an updated one, or raises.  The three nodes that
hand work to a specialist also read and update the run.

* `buildSearchPlan` to `solveCandidateVariants`: from the trip to drafts.
* `materialize`, `validate`: candidates and their hard validation, with the record of a repair.
* `selectRepairTarget` to `loadDeltaRoutes`: one round of hard repair.
* `prepareCriticContext` to `qualityGate`: the soft critic.
* `compileSoftRepairPlan` to `compareSoftRepair`: the soft repair and its baseline.
* `selectByQuality` to `selectUnvalidatedForEvaluation`: the ends of a run.
-/

namespace TravelPlanAgent

namespace PlanningGraph

open Calendar Selection

variable [Platform]

/-! ## Hand-offs -/

section Handoffs

variable (setup : PlanningSetup) (world : PlanningWorld) (n : ℕ) (run : Option RunContext)

/-- Work that is handed to a specialist in the multi-agent modes and done in place otherwise. -/
def delegate {α ε : Type} (refuse : Failure → ε) (work : HandoffWork) (characters : α → ℕ)
    (operation : Except ε α) : Except ε α × Option RunContext :=
  if setup.agentMode = .singleGraph then (operation, run)
  else setup.specialists.invoke refuse run (world.handoffTerms n work) characters operation

variable (state : TravelState)

/-- `build_search_plan`. -/
def buildSearchPlan : Result (TravelState × Option RunContext) := do
  let limit := setup.policy.poiQueryLimit
  let maxQueries := setup.policy.poiMaxQueries
  let (answer, run) := delegate setup world n run id (.plan state.trip limit maxQueries)
    world.queriesCharacters (createSearchPlan state.trip limit maxQueries)
  let queries ← answer
  return ({ state with
    searchQueries := queries
    maxSoftReplanRounds := setup.criticPolicy.maxSoftReplanRounds
    criticGroundingMaxAttempts := setup.criticPolicy.groundingMaxAttempts
    status := "search_planned" }, run)

/-- The candidate and the draft that a round of hard repair works on. -/
def repairTarget : Result (PlanCandidate × CandidateDraft) := do
  let candidate ← orRaise (state.candidates.find? fun candidate =>
    decide (some candidate.id = state.repairTargetCandidateId)) .stopIteration
  let draft ← orRaise (state.candidateDrafts.find? fun draft =>
    decide (some draft.id = state.repairTargetCandidateId)) .stopIteration
  return (candidate, draft)

/-- An action that was tried before is not tried again. -/
def withoutRepeatedAction (history : List RepairAttempt)
    (answer : Option RepairPlan × Option String) : Option RepairPlan × Option String :=
  match answer.1 with
  | none => answer
  | some plan =>
    if plan.actionFingerprint ∈ history.map RepairAttempt.actionFingerprint then
      (none, some "repeated_repair_action")
    else answer

/-- `create_repair_plan`, the node `build_repair_plan`. -/
def createRepairPlan : Result (TravelState × Option RunContext) := do
  let (candidate, draft) ← repairTarget state
  let nextRound := state.iterations + 1
  let report ← orRaise state.criticReport (.runtimeError "repair plan requires critic report")
  let (answer, run) := delegate setup world n run id
    (.hardRepair state.trip candidate draft state.planningPois report nextRound
      (state.repairHistory.map RepairAttempt.actionFingerprint))
    world.repairCharacters
    (.ok (buildRepairPlan state.trip candidate draft state.planningPois report nextRound))
  let (plan, terminalReason) := withoutRepeatedAction state.repairHistory (← answer)
  return ({ state with
    repairPlan := plan
    repairTerminalReason := terminalReason
    status := if plan.isSome then "repair_plan_ready" else "repair_unavailable" }, run)

/-- The characters of the digests in the state. -/
def digestChars : ℕ := (state.criticEvidenceDigests.map CandidateEvidenceDigest.inputChars).sum

/-- Without a critic gateway there is no critique. -/
def criticDisabled : TravelState :=
  { state with
    criticStatus := .disabled
    criticExecutionSummary := some
      { provider := "disabled", model := "disabled", promptVersion := "disabled"
        status := .disabled, attemptCount := 0, groundingAttemptCount := 0
        inputChars := digestChars state, errorCategory := none }
    softCritiques := []
    criticGroundingAttempts := 0
    status := "critic_disabled" }

/-- An unavailable critic leaves no critique. -/
def criticUnavailable (provider model promptVersion category status : String)
    (attemptCount : ℕ) : TravelState :=
  { state with
    criticStatus := .unavailable
    criticExecutionSummary := some
      { provider, model, promptVersion, status := .unavailable, attemptCount
        groundingAttemptCount := state.criticGroundingAttempts + 1
        inputChars := digestChars state, errorCategory := some category }
    softCritiques := []
    criticGroundingAttempts := state.criticGroundingAttempts + 1
    criticGroundingErrors := []
    status }

/-- The critiques that a critic answers with. -/
def criticCompleted (result : SoftCriticResult) : TravelState :=
  { state with
    softCritiques := result.critiques
    criticExecutionSummary := some result.summary
    criticStatus := .success
    criticGroundingAttempts := state.criticGroundingAttempts + 1
    status := "critic_completed" }

/-- What the node makes of an answer: an exceeded budget and an unavailable critic are caught. -/
def criticAnswered (labels : CriticLabels) (answer : CriticAnswer) : Result TravelState :=
  match answer with
  | .ok result => .ok (criticCompleted state result)
  | .error (.unavailable provider model category attemptCount) =>
    .ok (criticUnavailable state provider model labels.promptVersion category
      "critic_unavailable" attemptCount)
  | .error (.raised .executionBudgetExceeded) =>
    .ok (criticUnavailable state labels.provider labels.model labels.promptVersion
      "execution_budget_exhausted" "critic_budget_exhausted" 0)
  | .error (.raised failure) => .error failure

/-- `soft_constraint_critic`. -/
def softConstraintCritic : Result (TravelState × Option RunContext) :=
  match setup.critic with
  | none => .ok (criticDisabled state, run)
  | some labels => do
    let request ← SoftCriticRequest.create state.criticEvidenceDigests state.criticGroundingErrors
    let (answer, run) := delegate setup world n run CriticException.raised
      (.softCritique request (state.criticEvidenceDigests.map CandidateEvidenceDigest.candidateId))
      world.critiqueCharacters (world.critique n request (state.criticGroundingAttempts + 1))
    return (← criticAnswered state labels answer, run)

end Handoffs

section Nodes

variable (setup : PlanningSetup) (world : PlanningWorld) (n : ℕ) (state : TravelState)

/-! ## From the trip to drafts -/

/-- `load_pois`. -/
def loadPois : Result TravelState := do
  let results ← (world.gateway n).searchPois state.searchQueries
  let facts ← loadedFacts setup.policy.poiCandidateLimit state.searchQueries results
  return { state with poiFacts := facts, status := "poi_facts_loaded" }

/-- `resolve_poi_facts`. -/
def resolvePoiFacts : TravelState :=
  { state with
    planningPois := state.poiFacts.filterMap fun facts =>
      resolvePlanningPoi setup.defaults facts state.trip
    status := "poi_context_loaded" }

/-- `build_route_matrix`. -/
def buildRouteMatrix : Result TravelState := do
  let pois := selectOptimizationPois state.trip state.planningPois setup.optimizationBudget
  let queries := collectRouteMatrixQueries state.trip pois setup.policy.routeSettings
  let answers ← (world.gateway n).getRoutes queries
  let routes ← storeRoutes ∅ answers
  return { state with
    optimizationPois := pois
    routeQueries := queries
    deltaRouteQueries := []
    routeResults := routes
    reusedRouteKeys := []
    lastRouteLoadedCount := routes.size
    lastRouteReusedCount := 0
    status := "route_matrix_loaded" }

/-- `build_optimization_problem`. -/
def buildOptimizationProblem : Result TravelState := do
  let problem ← createOptimizationProblem state.trip state.optimizationPois state.routeResults
    setup.optimizationBudget setup.policy.routeSettings
  return { state with
    optimizationProblem := some problem, status := "optimization_problem_built" }

/-- The drafts without an answer of the solver. -/
def fallbackDrafts (reason : String) : List CandidateDraft × OptimizationResult :=
  let drafts := prepareCandidateDrafts state.trip state.optimizationPois 0
  (drafts, degradedResult drafts reason)

/-- The drafts for an answer of the solver. -/
def draftsFor (answer : SolverAnswer) : Result (List CandidateDraft × OptimizationResult) :=
  match answer with
  | .raised failure => .error failure
  | .timedOut => .ok (fallbackDrafts state "optimizer_timeout")
  | .solved result =>
    if result.solutions.isEmpty then .ok (fallbackDrafts state "optimizer_infeasible")
    else .ok (draftsFromOptimization result, result)

/-- `solve_candidate_variants`. -/
def solveCandidateVariants : Result TravelState := do
  let problem ← orRaise state.optimizationProblem
    (.runtimeError "optimization requires a problem")
  let (drafts, result) ← draftsFor state
    (if setup.overrides.forceHeuristicOptimizer then .timedOut else world.solve problem)
  return { state with
    optimizationResult := some result
    candidateDrafts := drafts
    status := "optimization_solved" }

/-! ## Candidates and their validation -/

/-- `_materialize`, behind three nodes. -/
def materialize : Result TravelState := do
  let candidates ← materializeCandidates state.trip state.candidateDrafts state.planningPois
    state.routeResults setup.policy.routeSettings
  return { state with candidates, status := "candidates_materialized" }

/-- A candidate with its hard validation. -/
def validated (trip : TripSpec) (pois : List PlanningPOI) (candidate : PlanCandidate) :
    PlanCandidate :=
  { candidate with validation := some (validateCandidate trip candidate pois) }

/-- Every preserved day is still scheduled as it was. -/
def requirePreserved (complaint : String) (hashes : Dict String String)
    (candidate : PlanCandidate) : Result Unit :=
  hashes.entries.forM fun (dayText, expected) =>
    require ((lastWith (fun day : DayPlan => decide (day.date.isoformat = dayText))
        candidate.days).map PlanningImpact.dayFingerprint = some expected)
      (.runtimeError (complaint ++ dayText))

/-- A violation fingerprint was seen before, as the state before or after an attempt. -/
def seenBefore (history : List RepairAttempt) (fingerprint : String) : Bool :=
  history.any fun attempt => decide (fingerprint = attempt.beforeViolationFingerprint) ||
    decide (fingerprint = attempt.afterViolationFingerprint)

/-- Fewer errors, or as many with one of the sources gone. -/
def repairImproved (report : CriticReport) (plan : RepairPlan) (repaired : PlanCandidate) :
    Bool :=
  let after := errorViolations repaired
  let sourceResolved := plan.sourceViolationTypes.any fun type =>
    decide (type ∉ after.map Violation.type)
  decide (after.length < report.errorCount) ||
    (sourceResolved && decide (after.length ≤ report.errorCount))

/-- The outcome of an attempt and why it is the last one. -/
def repairVerdict (history : List RepairAttempt) (report : CriticReport) (plan : RepairPlan)
    (repaired : PlanCandidate) : RepairOutcome × Option String :=
  let fingerprint := violationFingerprint repaired
  if isDeliverable repaired then (.resolved, none)
  else if fingerprint = report.violationFingerprint ∨ seenBefore history fingerprint then
    (.noProgress, some "repeated_violation_fingerprint")
  else if repairImproved report plan repaired then (.improved, none)
  else (.noProgress, some "repair_no_progress")

/-- The record of an attempt. -/
def repairAttempt (report : CriticReport) (plan : RepairPlan) (round : ℕ)
    (repaired : PlanCandidate) : RepairAttempt :=
  let verdict := repairVerdict state.repairHistory report plan repaired
  { round
    targetCandidateId := plan.targetCandidateId
    beforeViolationFingerprint := report.violationFingerprint
    afterViolationFingerprint := violationFingerprint repaired
    beforeErrorCount := report.errorCount
    afterErrorCount := (errorViolations repaired).length
    actionFingerprint := plan.actionFingerprint
    actionKinds := plan.actions.map RepairAction.kind
    outcome := verdict.1
    affectedDays := plan.affectedDays
    preservedDayCount := plan.preservedDays.length
    reusedRouteCount := state.lastRouteReusedCount
    loadedRouteCount := state.lastRouteLoadedCount
    terminalReason := verdict.2 }

/-- A pending soft repair with a deliverable result has one candidate and kept its days. -/
def checkSoftRepair (candidates : List PlanCandidate) : Result Unit :=
  if state.pendingSoftReplanRound.isSome ∧ candidates.any isDeliverable then
    match candidates with
    | [repaired] =>
      requirePreserved "soft repair changed preserved day: " state.preservedDayHashes repaired
    | _ => .error (.runtimeError "soft repair validation requires one candidate")
  else .ok ()

/-- What a pending hard repair is recorded as. -/
def recordRepair (candidates : List PlanCandidate) (round : ℕ) : Result RepairAttempt :=
  match state.criticReport, state.repairPlan, candidates with
  | some report, some plan, [repaired] => do
    requirePreserved "local repair changed preserved day: " state.preservedDayHashes repaired
    return repairAttempt state report plan round repaired
  | _, _, _ =>
    .error (.runtimeError "repair validation requires one candidate and repair context")

/-- `validate`, the node `validate_candidates`. -/
def validate : Result TravelState := do
  let candidates := state.candidates.map (validated state.trip state.planningPois)
  checkSoftRepair state candidates
  match state.pendingReplanRound with
  | none => return { state with candidates, status := "validated" }
  | some round =>
    let attempt ← recordRepair state candidates round
    return { state with
      candidates
      status := "validated"
      iterations := round
      pendingReplanRound := none
      repairHistory := state.repairHistory ++ [attempt]
      repairTerminalReason := attempt.terminalReason }

/-! ## Hard repair -/

/-- `select_repair_target`. -/
def selectRepairTarget : Result TravelState := do
  let target ← TravelPlanAgent.selectRepairTarget state.trip state.candidates state.planningPois
  return { state with
    repairTargetCandidateId := some target.id
    criticReport := none
    repairPlan := none
    status := "repair_target_selected" }

/-- `analyze_violations`. -/
def analyzeViolations : Result TravelState := do
  let candidate ← orRaise (state.candidates.find? fun candidate =>
    decide (some candidate.id = state.repairTargetCandidateId)) .stopIteration
  let report := analyzeCandidate state.trip candidate state.planningPois
  return { state with
    criticReport := some report
    repairTerminalReason := report.terminalReason
    status := "violations_analyzed" }

/-- The fingerprints of the days that a repair preserves. -/
def preservedHashes (candidate : PlanCandidate) (preservedDays : List Date) :
    Dict String String :=
  .ofList ((candidate.days.filter fun day => decide (day.date ∈ preservedDays)).map fun day =>
    (day.date.isoformat, PlanningImpact.dayFingerprint day))

/-- `apply_local_repair`. -/
def applyLocalRepair : Result TravelState := do
  let (candidate, draft) ← repairTarget state
  let plan ← orRaise state.repairPlan (.runtimeError "local repair requires repair plan")
  let (repaired, applied) ← applyRepairPlan state.trip draft state.planningPois plan
    setup.policy.routeSettings
  return { state with
    pendingReplanRound := some applied.round
    candidateDrafts := [repaired]
    routeQueries := []
    deltaRouteQueries := []
    reusedRouteKeys := []
    candidates := []
    selectedPlan := none
    repairPlan := some applied
    preservedDayHashes := preservedHashes candidate applied.preservedDays
    lastRouteLoadedCount := 0
    lastRouteReusedCount := 0
    status := "local_repair_applied"
    message := some ("第 " ++ toString applied.round ++ " 轮局部修复：影响 " ++
      toString applied.affectedDays.length ++ " 个日期") }

/-- The routes that the first draft needs, behind two nodes. -/
def collectDelta (status : String) : Result TravelState := do
  let draft ← orRaise state.candidateDrafts.head? .keyError
  let reusable := if setup.overrides.fullReplan then ∅ else state.routeResults
  let delta ← collectRouteDelta state.trip draft state.planningPois reusable
    setup.policy.routeSettings
  return { state with
    routeQueries := delta.requiredQueries
    deltaRouteQueries := delta.missingQueries
    reusedRouteKeys := delta.reusedRouteKeys
    lastRouteReusedCount := delta.reusedRouteKeys.length
    lastRouteLoadedCount := 0
    status }

/-- `collect_delta_routes`. -/
def collectDeltaRoutes : Result TravelState := collectDelta setup state "delta_routes_collected"

/-- The missing routes, behind two nodes. -/
def loadDelta (status : String) : Result TravelState := do
  let answers ← (world.gateway n).getRoutes state.deltaRouteQueries
  let routes ← storeRoutes state.routeResults answers
  return { state with routeResults := routes, lastRouteLoadedCount := answers.size, status }

/-- `load_delta_routes`. -/
def loadDeltaRoutes : Result TravelState := loadDelta world n state "delta_routes_loaded"

/-! ## The soft critic -/

/-- `prepare_critic_context`. -/
def prepareCriticContext : Result TravelState := do
  let digests := buildEvidenceDigests state.trip (deliverableCandidates state) state.planningPois
    setup.evidenceBudget
  require (digests.isEmpty = false)
    (.runtimeError "soft critic requires at least one evidence digest")
  return { state with
    criticEvidenceDigests := digests
    softCritiques := []
    criticGroundingAttempts := 0
    criticGroundingErrors := []
    qualityScores := ∅
    criticStatus := .pending
    status := "critic_context_prepared" }

/-- `validate_critic_evidence`. -/
def validateCriticEvidence : TravelState :=
  if state.criticStatus ≠ .success then
    { state with criticGroundingErrors := [], status := "critic_degraded" }
  else
    let errors := validateCritiqueGrounding state.criticEvidenceDigests state.softCritiques
    let status : CriticStatus := if errors.isEmpty then .success else .invalidGrounding
    { state with
      criticStatus := status
      criticExecutionSummary := state.criticExecutionSummary.map fun summary =>
        { summary with status }
      criticGroundingErrors := errors
      status := if errors.isEmpty then "grounding_valid" else "grounding_invalid" }

/-- `quality_gate`. -/
def qualityGate : Result TravelState := do
  let scores ← if state.criticStatus = .success then
    qualityScores state.softCritiques setup.criticPolicy else .ok ∅
  return { state with qualityScores := scores, status := "quality_scored" }

/-! ## Soft repair -/

/-- The soft plan for the best candidate, or the reason why there is none. -/
def softPlanFor (selected : PlanCandidate) : Result (Option SoftRepairPlan × Option String) :=
  let score := state.qualityScores.get? selected.id
  if score = none ∨ (∃ s ∈ score, setup.criticPolicy.qualityThreshold ≤ s) ∨
      setup.criticPolicy.maxSoftReplanRounds ≤ state.softIterations then
    .ok (none, some "quality_acceptable_or_budget_exhausted")
  else do
    let critique ← orRaise (state.softCritiques.find? fun critique =>
      decide (critique.candidateId = selected.id)) .stopIteration
    let draft ← orRaise (state.candidateDrafts.find? fun draft =>
      decide (draft.id = selected.id)) .stopIteration
    return TravelPlanAgent.compileSoftRepairPlan state.trip selected draft state.planningPois
      critique (state.softIterations + 1)

/-- The state with a soft plan and a copy of everything that it may be restored to. -/
def withBaseline (plan : Option SoftRepairPlan) (reason : Option String) : TravelState :=
  { state with
    softRepairPlan := plan
    softRepairTerminalReason := reason
    softBaselineCandidates := if plan.isSome then state.candidates else []
    softBaselineCandidateDrafts := if plan.isSome then state.candidateDrafts else []
    softBaselineCritiques := if plan.isSome then state.softCritiques else []
    softBaselineEvidenceDigests := if plan.isSome then state.criticEvidenceDigests else []
    softBaselineQualityScores := if plan.isSome then state.qualityScores else ∅
    softBaselineCriticExecutionSummary :=
      if plan.isSome then state.criticExecutionSummary else none
    status := if plan.isSome then "soft_repair_ready" else "soft_repair_skipped" }

/-- `compile_soft_repair_plan`. -/
def compileSoftRepairPlan : Result TravelState := do
  let selected ← TravelPlanAgent.selectByQuality (deliverableCandidates state) state.qualityScores
  let (plan, reason) ← softPlanFor setup state selected
  return withBaseline state plan reason

/-- `apply_soft_repair`. -/
def applySoftRepair : Result TravelState := do
  let plan ← orRaise state.softRepairPlan (.runtimeError "soft repair requires a compiled plan")
  let candidate ← orRaise (state.softBaselineCandidates.find? fun candidate =>
    decide (candidate.id = plan.targetCandidateId)) .stopIteration
  let draft ← orRaise (state.softBaselineCandidateDrafts.find? fun draft =>
    decide (draft.id = plan.targetCandidateId)) .stopIteration
  let repaired ← TravelPlanAgent.applySoftRepair draft plan
  return { state with
    pendingSoftReplanRound := some plan.round
    candidateDrafts := [repaired]
    candidates := []
    selectedPlan := none
    routeQueries := []
    deltaRouteQueries := []
    reusedRouteKeys := []
    preservedDayHashes := preservedHashes candidate plan.preservedDays
    criticStatus := .pending
    softCritiques := []
    qualityScores := ∅
    lastRouteLoadedCount := 0
    lastRouteReusedCount := 0
    status := "soft_repair_applied" }

/-- `collect_soft_delta_routes`. -/
def collectSoftDeltaRoutes : Result TravelState :=
  collectDelta setup state "soft_delta_routes_collected"

/-- `load_soft_delta_routes`. -/
def loadSoftDeltaRoutes : Result TravelState := loadDelta world n state "soft_delta_routes_loaded"

/-- The record of a soft repair. -/
def softRepairAttempt (plan : SoftRepairPlan) (before : ℚ) (after : Option ℚ)
    (hardValidationPassed accepted : Bool) (reason : String) : SoftRepairAttempt :=
  { round := plan.round
    beforeQualityScore := before
    afterQualityScore := after
    hardValidationPassed
    accepted
    reusedRouteCount := state.lastRouteReusedCount
    loadedRouteCount := state.lastRouteLoadedCount
    terminalReason := reason }

/-- The end of a soft repair, whatever became of it. -/
def softRepairEnded (plan : SoftRepairPlan) (attempt : SoftRepairAttempt) : TravelState :=
  { state with
    pendingSoftReplanRound := none
    softIterations := plan.round
    softRepairHistory := state.softRepairHistory ++ [attempt]
    softRepairTerminalReason := some attempt.terminalReason
    softBaselineCandidates := []
    softBaselineCandidateDrafts := []
    softBaselineCritiques := []
    softBaselineEvidenceDigests := []
    softBaselineQualityScores := ∅
    softBaselineCriticExecutionSummary := none }

/-- `_restore_soft_values`. -/
def restoreSoftValues (reason : String) (hardValidationPassed : Bool) (afterScore : Option ℚ) :
    Result TravelState := do
  let plan ← orRaise state.softRepairPlan
    (.runtimeError "soft baseline restore requires a repair plan")
  let before ← orRaise (state.softBaselineQualityScores.get? plan.targetCandidateId) .keyError
  let attempt := softRepairAttempt state plan before afterScore hardValidationPassed false reason
  return { softRepairEnded state plan attempt with
    candidates := state.softBaselineCandidates
    candidateDrafts := state.softBaselineCandidateDrafts
    softCritiques := state.softBaselineCritiques
    criticEvidenceDigests := state.softBaselineEvidenceDigests
    qualityScores := state.softBaselineQualityScores
    criticExecutionSummary := state.softBaselineCriticExecutionSummary
    criticStatus := .success
    criticGroundingErrors := []
    status := "soft_baseline_restored" }

/-- `restore_soft_baseline`. -/
def restoreSoftBaseline : Result TravelState :=
  restoreSoftValues state "hard_validation_failed" false none

/-- The repaired candidate takes the place of the target in the baseline. -/
def mergeSoftRepair (plan : SoftRepairPlan) (attempt : SoftRepairAttempt) : TravelState :=
  let target := plan.targetCandidateId
  { softRepairEnded state plan attempt with
    candidates := (state.softBaselineCandidates.filter fun candidate =>
      decide (candidate.id ≠ target)) ++ state.candidates
    candidateDrafts := (state.softBaselineCandidateDrafts.filter fun draft =>
      decide (draft.id ≠ target)) ++ state.candidateDrafts
    softCritiques := (state.softBaselineCritiques.filter fun critique =>
      decide (critique.candidateId ≠ target)) ++ state.softCritiques
    criticEvidenceDigests := (state.softBaselineEvidenceDigests.filter fun digest =>
      decide (digest.candidateId ≠ target)) ++ state.criticEvidenceDigests
    qualityScores := (state.softBaselineQualityScores.filterKeys fun candidateId =>
      decide (candidateId ≠ target)).update state.qualityScores
    status := "soft_repair_accepted" }

/-- The difference of two scores reaches the required amount, as it is calculated with doubles. -/
def Improves (before after : ℚ) : Prop :=
  Binary64.nearest setup.criticPolicy.minImprovement ≤
    Binary64.nearest (Binary64.nearest after - Binary64.nearest before)

instance (before after : ℚ) : Decidable (Improves setup before after) :=
  inferInstanceAs (Decidable (_ ≤ _))

/-- The repaired candidate scores higher by the required amount. -/
def improvementAccepted (before : ℚ) (after : Option ℚ) : Bool :=
  match after with
  | none => false
  | some after => decide (state.criticStatus = .success) && decide (Improves setup before after)

/-- `compare_soft_repair`. -/
def compareSoftRepair : Result TravelState := do
  let plan ← orRaise state.softRepairPlan
    (.runtimeError "soft comparison requires pending repair context")
  require (state.pendingSoftReplanRound.isSome)
    (.runtimeError "soft comparison requires pending repair context")
  let before ← orRaise (state.softBaselineQualityScores.get? plan.targetCandidateId) .keyError
  let after := state.qualityScores.values.head?
  if improvementAccepted setup state before after then
    return mergeSoftRepair state plan
      (softRepairAttempt state plan before after true true "quality_improved")
  else
    restoreSoftValues state
      (if state.criticStatus ≠ .success then "critic_unavailable_after_repair"
        else "quality_improvement_below_threshold") true after

/-! ## The ends of a run -/

/-- `select_best_candidate`. -/
def selectBestCandidate (candidates : List PlanCandidate) : Result PlanCandidate :=
  orRaise (firstMin (rankedBefore [PlanCandidate.score]) candidates)
    (.valueError "min() arg is an empty sequence")

/-- The plan that `select_by_quality` chooses. -/
def chosenByQuality : Result PlanCandidate :=
  if state.qualityScores.size = 0 then selectBestCandidate (deliverableCandidates state)
  else TravelPlanAgent.selectByQuality (deliverableCandidates state) state.qualityScores

/-- `select_by_quality`. -/
def selectByQuality : Result TravelState := do
  let selected ← chosenByQuality state
  return { state with selectedPlan := some selected, status := "quality_selected" }

/-- What the user is told about a selection. -/
def selectionMessage (selected : PlanCandidate) : String :=
  "已选择 " ++ selected.style.value ++ " 方案"

/-- `explain_selection`. -/
def explainSelection : Result TravelState := do
  let selected ← orRaise state.selectedPlan
    (.runtimeError "selection explanation requires a selected plan")
  let explanation ← buildGroundedExplanation selected state.criticStatus
    (state.criticEvidenceDigests.find? fun digest => decide (digest.candidateId = selected.id))
    (state.softCritiques.find? fun critique => decide (critique.candidateId = selected.id))
  return { state with
    groundedExplanation := some explanation
    status := "completed"
    message := some (selectionMessage selected) }

/-- `select_best`. -/
def selectBest : Result TravelState := do
  let selected ← selectBestCandidate (deliverableCandidates state)
  return { state with
    selectedPlan := some selected
    status := "completed"
    message := some (selectionMessage selected) }

/-- What the user is told when no plan is found. -/
def infeasibleMessage (reason : Option String) : String :=
  "在当前约束和局部修复预算内没有找到合法方案" ++
    match reason with
    | none => ""
    | some reason => if reason = "" then "" else "（" ++ reason ++ "）"

/-- `mark_infeasible`. -/
def markInfeasible : TravelState :=
  { state with
    selectedPlan := none
    status := "infeasible"
    message := some (infeasibleMessage state.repairTerminalReason) }

/-- `select_unvalidated_for_evaluation`. -/
def selectUnvalidatedForEvaluation : Result TravelState := do
  let selected ← orRaise (minByKey (fun candidate : PlanCandidate =>
      (toLex (negatedScore candidate.score, candidate.id) : WithTop ℚ ×ₗ String)) state.candidates)
    (.runtimeError "unvalidated evaluation requires candidates")
  return { state with
    selectedPlan := some selected
    status := "completed"
    message := some "evaluation-only unvalidated candidate" }

end Nodes

end PlanningGraph

end TravelPlanAgent
