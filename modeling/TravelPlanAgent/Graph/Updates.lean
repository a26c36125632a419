import TravelPlanAgent.Graph.Workflow

/-!
# What the nodes of the planning graph do

One lemma for each node: what a successful call found, and which fields of the state it updated.
Invariants of runs are read off these lemmas, so that no invariant opens a node again.

* `delegate_eq_ok`: a hand-off that succeeds answers what the work itself does.
* `buildSearchPlan_eq_ok` to `solveCandidateVariants_eq_ok`: from the trip to drafts.
* `materialize_eq_ok`, `validate_eq_ok`: candidates and their validation.
* `selectRepairTarget_eq_ok` to `loadDelta_eq_ok`: a round of hard repair.
* `prepareCriticContext_eq_ok` to `compareSoftRepair_eq_ok`: the soft phase.
* `selectByQuality_eq_ok` to `selectUnvalidatedForEvaluation_eq_ok`: the ends of a run.
-/

namespace TravelPlanAgent

namespace PlanningGraph

open Calendar Selection

variable [Platform] {setup : PlanningSetup} {world : PlanningWorld} {n : ℕ}
  {run runAfter : Option RunContext} {state after : TravelState}

/-! ## Hand-offs -/

omit [Platform] in
/-- A hand-off that succeeds answers what the work itself does. -/
theorem delegate_eq_ok {α ε : Type} {refuse : Failure → ε} {work : HandoffWork}
    {characters : α → ℕ} {operation : Except ε α} {a : α}
    (h : (delegate setup world n run refuse work characters operation).1 = .ok a) :
    operation = .ok a := by
  unfold delegate SpecialistExecutor.invoke at h
  split at h
  · exact h
  split at h
  · cases h
  split at h
  · cases h
  dsimp only at h
  split at h
  · cases h
  cases operation with
  | error => cases h
  | ok b =>
    dsimp only at h
    split at h
    · cases h
    · exact h

/-! ## From the trip to drafts -/

omit [Platform] in
/-- `execution_budget_guard` leaves everything alone. -/
theorem guardBudget_eq_ok (h : guardBudget world n run state = .ok (after, runAfter)) :
    after = state := by
  unfold guardBudget at h
  cases run with
  | none => cases h; rfl
  | some context =>
    obtain ⟨_, _, h⟩ := bind_eq_ok h
    cases h
    rfl

/-- `build_search_plan` writes the queries and copies the limits of the critic policy. -/
theorem buildSearchPlan_eq_ok
    (h : buildSearchPlan setup world n run state = .ok (after, runAfter)) :
    ∃ queries, after = { state with
      searchQueries := queries
      maxSoftReplanRounds := setup.criticPolicy.maxSoftReplanRounds
      criticGroundingMaxAttempts := setup.criticPolicy.groundingMaxAttempts
      status := "search_planned" } := by
  obtain ⟨queries, _, h⟩ := bind_eq_ok h
  cases h
  exact ⟨queries, rfl⟩

omit [Platform] in
theorem loadPois_eq_ok (h : loadPois setup world n state = .ok after) :
    ∃ facts, after = { state with poiFacts := facts, status := "poi_facts_loaded" } := by
  obtain ⟨results, _, h⟩ := bind_eq_ok h
  obtain ⟨facts, _, h⟩ := bind_eq_ok h
  cases h
  exact ⟨facts, rfl⟩

theorem buildRouteMatrix_eq_ok (h : buildRouteMatrix setup world n state = .ok after) :
    ∃ pois queries routes, after = { state with
      optimizationPois := pois
      routeQueries := queries
      deltaRouteQueries := []
      routeResults := routes
      reusedRouteKeys := []
      lastRouteLoadedCount := routes.size
      lastRouteReusedCount := 0
      status := "route_matrix_loaded" } := by
  obtain ⟨answers, _, h⟩ := bind_eq_ok h
  obtain ⟨routes, _, h⟩ := bind_eq_ok h
  cases h
  exact ⟨_, _, routes, rfl⟩

theorem buildOptimizationProblem_eq_ok (h : buildOptimizationProblem setup state = .ok after) :
    ∃ problem, after = { state with
      optimizationProblem := some problem, status := "optimization_problem_built" } := by
  obtain ⟨problem, _, h⟩ := bind_eq_ok h
  cases h
  exact ⟨problem, rfl⟩

/-- `solve_candidate_variants` writes the drafts for some answer of the solver. -/
theorem solveCandidateVariants_eq_ok (h : solveCandidateVariants setup world state = .ok after) :
    ∃ problem drafts result,
      draftsFor state (if setup.overrides.forceHeuristicOptimizer then .timedOut
        else world.solve problem) = .ok (drafts, result) ∧
      after = { state with
        optimizationResult := some result
        candidateDrafts := drafts
        status := "optimization_solved" } := by
  obtain ⟨problem, _, h⟩ := bind_eq_ok h
  obtain ⟨⟨drafts, result⟩, hdrafts, h⟩ := bind_eq_ok h
  cases h
  exact ⟨problem, drafts, result, hdrafts, rfl⟩

/-! ## Candidates and their validation -/

/-- A materialisation replaces the candidates by those of the drafts. -/
theorem materialize_eq_ok (h : materialize setup state = .ok after) :
    ∃ candidates,
      materializeCandidates state.trip state.candidateDrafts state.planningPois
        state.routeResults setup.policy.routeSettings = .ok candidates ∧
      after = { state with candidates, status := "candidates_materialized" } := by
  obtain ⟨candidates, hcandidates, h⟩ := bind_eq_ok h
  cases h
  exact ⟨candidates, hcandidates, rfl⟩

/-- What is recorded of a pending repair. -/
theorem recordRepair_eq_ok {candidates : List PlanCandidate} {round : ℕ}
    {attempt : RepairAttempt} (h : recordRepair state candidates round = .ok attempt) :
    ∃ report plan repaired,
      state.criticReport = some report ∧ state.repairPlan = some plan ∧
      candidates = [repaired] ∧ attempt = repairAttempt state report plan round repaired := by
  unfold recordRepair at h
  split at h
  · next report plan repaired hreport hplan =>
    obtain ⟨_, _, h⟩ := bind_eq_ok h
    cases h
    exact ⟨report, plan, repaired, hreport, hplan, rfl, rfl⟩
  · cases h

/-- `validate` validates every candidate; a pending hard repair is recorded with it. -/
theorem validate_eq_ok (h : validate state = .ok after) :
    checkSoftRepair state (state.candidates.map (validated state.trip state.planningPois)) =
        .ok () ∧
      ((state.pendingReplanRound = none ∧
        after = { state with
          candidates := state.candidates.map (validated state.trip state.planningPois)
          status := "validated" }) ∨
      ∃ round attempt, state.pendingReplanRound = some round ∧
        recordRepair state (state.candidates.map (validated state.trip state.planningPois)) round =
          .ok attempt ∧
        after = { state with
          candidates := state.candidates.map (validated state.trip state.planningPois)
          status := "validated"
          iterations := round
          pendingReplanRound := none
          repairHistory := state.repairHistory ++ [attempt]
          repairTerminalReason := attempt.terminalReason }) := by
  obtain ⟨_, hsoft, h⟩ := bind_eq_ok h
  refine ⟨hsoft, ?_⟩
  cases hpending : state.pendingReplanRound with
  | none =>
    rw [hpending] at h
    cases h
    exact .inl ⟨rfl, rfl⟩
  | some round =>
    rw [hpending] at h
    obtain ⟨attempt, hattempt, h⟩ := bind_eq_ok h
    cases h
    exact .inr ⟨round, attempt, rfl, hattempt, rfl⟩

/-! ## Hard repair -/

theorem selectRepairTarget_eq_ok (h : selectRepairTarget state = .ok after) :
    ∃ target ∈ state.candidates, after = { state with
      repairTargetCandidateId := some target.id
      criticReport := none
      repairPlan := none
      status := "repair_target_selected" } := by
  obtain ⟨target, htarget, h⟩ := bind_eq_ok h
  cases h
  exact ⟨target, mem_of_minByKey (orRaise_eq_ok htarget), rfl⟩

/-- `analyze_violations` reports on one of the candidates. -/
theorem analyzeViolations_eq_ok (h : analyzeViolations state = .ok after) :
    ∃ candidate ∈ state.candidates, after = { state with
      criticReport := some (analyzeCandidate state.trip candidate state.planningPois)
      repairTerminalReason :=
        (analyzeCandidate state.trip candidate state.planningPois).terminalReason
      status := "violations_analyzed" } := by
  obtain ⟨candidate, hcandidate, h⟩ := bind_eq_ok h
  cases h
  exact ⟨candidate, List.mem_of_find?_eq_some (orRaise_eq_ok hcandidate), rfl⟩

omit [Platform] in
/-- A plan that is kept was there before, and its action is a new one. -/
theorem withoutRepeatedAction_eq {history : List RepairAttempt}
    {answer : Option RepairPlan × Option String} {plan : RepairPlan}
    (h : (withoutRepeatedAction history answer).1 = some plan) :
    answer.1 = some plan ∧ (withoutRepeatedAction history answer).2 = answer.2 ∧
      plan.actionFingerprint ∉ history.map RepairAttempt.actionFingerprint := by
  unfold withoutRepeatedAction at h ⊢
  split
  · next hnone => rw [hnone] at h; simp [hnone] at h
  · next found hfound =>
    rw [hfound] at h
    dsimp only at h
    split at h
    · cases h
    · next hnew =>
      obtain rfl : found = plan := Option.some.inj (hfound.symm.trans h)
      exact ⟨hfound, by rw [if_neg hnew], hnew⟩

/-- A plan of `build_repair_plan` is about the next round and has a new action. -/
theorem createRepairPlan_eq_ok
    (h : createRepairPlan setup world n run state = .ok (after, runAfter)) :
    ∃ (plan : Option RepairPlan) (reason : Option String) (text : String),
      (∀ found ∈ plan, found.round = state.iterations + 1 ∧
        found.actionFingerprint ∉ state.repairHistory.map RepairAttempt.actionFingerprint) ∧
      after = { state with
        repairPlan := plan, repairTerminalReason := reason, status := text } := by
  obtain ⟨⟨candidate, draft⟩, _, h⟩ := bind_eq_ok h
  obtain ⟨report, _, h⟩ := bind_eq_ok h
  obtain ⟨answer, hanswer, h⟩ := bind_eq_ok h
  cases h
  refine ⟨_, _, _, fun found hfound => ?_, rfl⟩
  obtain ⟨hplan, _, hnew⟩ := withoutRepeatedAction_eq hfound
  have hbuilt := Except.ok.inj (delegate_eq_ok hanswer)
  rw [← Prod.mk.eta (p := answer), hplan] at hbuilt
  exact ⟨(buildRepairPlan_some hbuilt).1, hnew⟩

/-- A local repair leaves one repaired draft and no candidate. -/
theorem applyLocalRepair_eq_ok (h : applyLocalRepair setup state = .ok after) :
    ∃ target plan repaired applied queries text,
      repairTarget state = .ok target ∧ state.repairPlan = some plan ∧
      applyRepairPlan state.trip target.2 state.planningPois plan setup.policy.routeSettings =
        .ok (repaired, applied) ∧
      applied = { plan with invalidatedRouteKeys := queries } ∧
      after = { state with
        pendingReplanRound := some plan.round
        candidateDrafts := [repaired]
        routeQueries := []
        deltaRouteQueries := []
        reusedRouteKeys := []
        candidates := []
        selectedPlan := none
        repairPlan := some applied
        preservedDayHashes := preservedHashes target.1 plan.preservedDays
        lastRouteLoadedCount := 0
        lastRouteReusedCount := 0
        status := "local_repair_applied"
        message := some text } := by
  obtain ⟨⟨candidate, draft⟩, htarget, h⟩ := bind_eq_ok h
  obtain ⟨plan, hplan, h⟩ := bind_eq_ok h
  obtain ⟨⟨repaired, applied⟩, happlied, h⟩ := bind_eq_ok h
  cases h
  obtain ⟨_, _, _, keys, hkeys⟩ := applyRepairPlan_eq_ok happlied
  subst hkeys
  exact ⟨(candidate, draft), plan, repaired, _, keys, _, htarget, orRaise_eq_ok hplan, happlied,
    rfl, rfl⟩

/-- The routes that the first draft needs and that are not there yet. -/
theorem collectDelta_eq_ok {text : String} (h : collectDelta setup state text = .ok after) :
    ∃ draft rest delta,
      state.candidateDrafts = draft :: rest ∧
      collectRouteDelta state.trip draft state.planningPois
        (if setup.overrides.fullReplan then ∅ else state.routeResults)
        setup.policy.routeSettings = .ok delta ∧
      after = { state with
        routeQueries := delta.requiredQueries
        deltaRouteQueries := delta.missingQueries
        reusedRouteKeys := delta.reusedRouteKeys
        lastRouteReusedCount := delta.reusedRouteKeys.length
        lastRouteLoadedCount := 0
        status := text } := by
  obtain ⟨draft, hdraft, h⟩ := bind_eq_ok h
  obtain ⟨delta, hdelta, h⟩ := bind_eq_ok h
  cases h
  obtain ⟨rest, hrest⟩ := List.head?_eq_some_iff.mp (orRaise_eq_ok hdraft)
  exact ⟨draft, rest, delta, hrest, hdelta, rfl⟩

omit [Platform] in
/-- The missing routes are stored over the ones that are there. -/
theorem loadDelta_eq_ok {text : String} (h : loadDelta world n state text = .ok after) :
    ∃ answers routes,
      (world.gateway n).getRoutes state.deltaRouteQueries = .ok answers ∧
      storeRoutes state.routeResults answers = .ok routes ∧
      after = { state with
        routeResults := routes, lastRouteLoadedCount := answers.size, status := text } := by
  obtain ⟨answers, hanswers, h⟩ := bind_eq_ok h
  obtain ⟨routes, hroutes, h⟩ := bind_eq_ok h
  cases h
  exact ⟨answers, routes, hanswers, hroutes, rfl⟩

/-! ## The soft phase -/

/-- The critic is given the digests of the deliverable candidates. -/
theorem prepareCriticContext_eq_ok (h : prepareCriticContext setup state = .ok after) :
    ∃ digests,
      buildEvidenceDigests state.trip (deliverableCandidates state) state.planningPois
        setup.evidenceBudget = digests ∧
      digests ≠ [] ∧
      after = { state with
        criticEvidenceDigests := digests
        softCritiques := []
        criticGroundingAttempts := 0
        criticGroundingErrors := []
        qualityScores := ∅
        criticStatus := .pending
        status := "critic_context_prepared" } := by
  obtain ⟨_, hdigests, h⟩ := bind_eq_ok h
  cases h
  exact ⟨_, rfl, by simpa using require_eq_ok hdigests, rfl⟩

omit [Platform] in
/-- A critic changes its critiques and their status; without success there are no critiques. -/
theorem softConstraintCritic_eq_ok
    (h : softConstraintCritic setup world n run state = .ok (after, runAfter)) :
    ∃ critiques summary status attempts errors text,
      (status = .success ∨ critiques = []) ∧
      (status = .success ∨ status = .disabled ∨ status = .unavailable) ∧
      after = { state with
        softCritiques := critiques
        criticExecutionSummary := summary
        criticStatus := status
        criticGroundingAttempts := attempts
        criticGroundingErrors := errors
        status := text } := by
  unfold softConstraintCritic at h
  split at h
  · cases h
    exact ⟨_, _, _, _, _, _, .inr rfl, .inr (.inl rfl), rfl⟩
  · next labels _ =>
    obtain ⟨request, _, h⟩ := bind_eq_ok h
    obtain ⟨answered, hanswered, h⟩ := bind_eq_ok h
    cases h
    unfold criticAnswered at hanswered
    split at hanswered
    · cases hanswered
      exact ⟨_, _, _, _, _, _, .inl rfl, .inl rfl, rfl⟩
    · cases hanswered
      exact ⟨_, _, _, _, _, _, .inr rfl, .inr (.inr rfl), rfl⟩
    · cases hanswered
      exact ⟨_, _, _, _, _, _, .inr rfl, .inr (.inr rfl), rfl⟩
    · cases hanswered

omit [Platform] in
/-- Only grounded critiques are scored. -/
theorem qualityGate_eq_ok (h : qualityGate setup state = .ok after) :
    ∃ scores,
      ((state.criticStatus = .success ∧
          qualityScores state.softCritiques setup.criticPolicy = .ok scores) ∨
        (state.criticStatus ≠ .success ∧ scores = ∅)) ∧
      after = { state with qualityScores := scores, status := "quality_scored" } := by
  unfold qualityGate at h
  split at h
  · next hsuccess =>
    obtain ⟨scores, hscores, h⟩ := bind_eq_ok h
    cases h
    exact ⟨scores, .inl ⟨hsuccess, hscores⟩, rfl⟩
  · next hsuccess =>
    cases h
    exact ⟨∅, .inr ⟨hsuccess, rfl⟩, rfl⟩

/-- A soft plan is about the best candidate, which has a score and a draft. -/
theorem softPlanFor_some {selected : PlanCandidate} {plan : SoftRepairPlan}
    {reason : Option String}
    (h : softPlanFor setup state selected = .ok (some plan, reason)) :
    plan.round = state.softIterations + 1 ∧ plan.targetCandidateId = selected.id ∧
      (∃ score, state.qualityScores.get? selected.id = some score) ∧
      ∃ draft ∈ state.candidateDrafts, draft.id = selected.id := by
  unfold softPlanFor at h
  dsimp only at h
  split at h
  · cases h
  · next hscore =>
    obtain ⟨critique, _, h⟩ := bind_eq_ok h
    obtain ⟨draft, hdraft, h⟩ := bind_eq_ok h
    obtain ⟨hround, htarget, _⟩ := compileSoftRepairPlan_some (Except.ok.inj h)
    obtain ⟨hdraft, hid⟩ := of_find?_decide (orRaise_eq_ok hdraft)
    refine ⟨hround, htarget, ?_, draft, hdraft, hid⟩
    exact Option.ne_none_iff_exists'.mp fun hnone => hscore (.inl hnone)

/-- A soft plan is for the candidate that quality selects. -/
theorem compileSoftRepairPlan_eq_ok (h : compileSoftRepairPlan setup state = .ok after) :
    ∃ selected plan reason,
      TravelPlanAgent.selectByQuality (deliverableCandidates state) state.qualityScores =
        .ok selected ∧
      softPlanFor setup state selected = .ok (plan, reason) ∧
      after = withBaseline state plan reason := by
  obtain ⟨selected, hselected, h⟩ := bind_eq_ok h
  obtain ⟨⟨plan, reason⟩, hplan, h⟩ := bind_eq_ok h
  cases h
  exact ⟨selected, plan, reason, hselected, hplan, rfl⟩

/-- A soft repair leaves one repaired draft of the target and no candidate. -/
theorem applySoftRepair_eq_ok (h : applySoftRepair state = .ok after) :
    ∃ plan, ∃ candidate ∈ state.softBaselineCandidates,
      ∃ draft ∈ state.softBaselineCandidateDrafts, ∃ repaired,
      state.softRepairPlan = some plan ∧ candidate.id = plan.targetCandidateId ∧
      draft.id = plan.targetCandidateId ∧
      TravelPlanAgent.applySoftRepair draft plan = .ok repaired ∧
      after = { state with
        pendingSoftReplanRound := some plan.round
        candidateDrafts := [repaired]
        candidates := []
        selectedPlan := none
        routeQueries := []
        deltaRouteQueries := []
        reusedRouteKeys := []
        preservedDayHashes := preservedHashes candidate plan.preservedDays
        criticStatus := .pending
        softCritiques := []
        qualityScores := ∅
        lastRouteLoadedCount := 0
        lastRouteReusedCount := 0
        status := "soft_repair_applied" } := by
  obtain ⟨plan, hplan, h⟩ := bind_eq_ok h
  obtain ⟨candidate, hcandidate, h⟩ := bind_eq_ok h
  obtain ⟨draft, hdraft, h⟩ := bind_eq_ok h
  obtain ⟨repaired, hrepaired, h⟩ := bind_eq_ok h
  cases h
  obtain ⟨hcandidate, hcandidateId⟩ := of_find?_decide (orRaise_eq_ok hcandidate)
  obtain ⟨hdraft, hdraftId⟩ := of_find?_decide (orRaise_eq_ok hdraft)
  exact ⟨plan, candidate, hcandidate, draft, hdraft, repaired, orRaise_eq_ok hplan, hcandidateId,
    hdraftId, hrepaired, rfl⟩

omit [Platform] in
/-- A restored state has everything of the baseline. -/
theorem restoreSoftValues_eq_ok {reason : String} {passed : Bool} {afterScore : Option ℚ}
    (h : restoreSoftValues state reason passed afterScore = .ok after) :
    ∃ plan attempt, state.softRepairPlan = some plan ∧
      after = { softRepairEnded state plan attempt with
        candidates := state.softBaselineCandidates
        candidateDrafts := state.softBaselineCandidateDrafts
        softCritiques := state.softBaselineCritiques
        criticEvidenceDigests := state.softBaselineEvidenceDigests
        qualityScores := state.softBaselineQualityScores
        criticExecutionSummary := state.softBaselineCriticExecutionSummary
        criticStatus := .success
        criticGroundingErrors := []
        status := "soft_baseline_restored" } := by
  obtain ⟨plan, hplan, h⟩ := bind_eq_ok h
  obtain ⟨before, _, h⟩ := bind_eq_ok h
  cases h
  exact ⟨plan, _, orRaise_eq_ok hplan, rfl⟩

omit [Platform] in
/-- A comparison merges an accepted repair and restores the baseline otherwise. -/
theorem compareSoftRepair_eq_ok (h : compareSoftRepair setup state = .ok after) :
    ∃ plan before, state.softRepairPlan = some plan ∧
      state.softBaselineQualityScores.get? plan.targetCandidateId = some before ∧
      ((improvementAccepted setup state before state.qualityScores.values.head? = true ∧
          ∃ attempt, attempt.accepted = true ∧ after = mergeSoftRepair state plan attempt) ∨
        (improvementAccepted setup state before state.qualityScores.values.head? = false ∧
          ∃ reason, restoreSoftValues state reason true state.qualityScores.values.head? =
            .ok after)) := by
  obtain ⟨plan, hplan, h⟩ := bind_eq_ok h
  obtain ⟨_, _, h⟩ := bind_eq_ok h
  obtain ⟨before, hbefore, h⟩ := bind_eq_ok h
  refine ⟨plan, before, orRaise_eq_ok hplan, orRaise_eq_ok hbefore, ?_⟩
  dsimp only at h
  by_cases haccepted :
      improvementAccepted setup state before state.qualityScores.values.head? = true
  · rw [if_pos haccepted] at h
    cases h
    exact .inl ⟨haccepted, _, rfl, rfl⟩
  · rw [if_neg haccepted] at h
    exact .inr ⟨Bool.eq_false_iff.mpr haccepted, _, h⟩

/-! ## The ends of a run -/

omit [Platform] in
theorem mem_of_selectBestCandidate {candidates : List PlanCandidate} {best : PlanCandidate}
    (h : selectBestCandidate candidates = .ok best) : best ∈ candidates :=
  mem_of_firstMin (orRaise_eq_ok h)

omit [Platform] in
/-- The plan that quality chooses is deliverable. -/
theorem mem_of_chosenByQuality {chosen : PlanCandidate} (h : chosenByQuality state = .ok chosen) :
    chosen ∈ deliverableCandidates state := by
  unfold chosenByQuality at h
  split at h
  · exact mem_of_selectBestCandidate h
  · exact mem_of_firstMin (orRaise_eq_ok h)

omit [Platform] in
theorem selectByQuality_eq_ok (h : selectByQuality state = .ok after) :
    ∃ selected, chosenByQuality state = .ok selected ∧
      after = { state with selectedPlan := some selected, status := "quality_selected" } := by
  obtain ⟨selected, hselected, h⟩ := bind_eq_ok h
  cases h
  exact ⟨selected, hselected, rfl⟩

omit [Platform] in
/-- An explanation is added to the plan that was selected. -/
theorem explainSelection_eq_ok (h : explainSelection state = .ok after) :
    ∃ selected explanation, state.selectedPlan = some selected ∧
      after = { state with
        groundedExplanation := some explanation
        status := "completed"
        message := some (selectionMessage selected) } := by
  obtain ⟨selected, hselected, h⟩ := bind_eq_ok h
  obtain ⟨explanation, _, h⟩ := bind_eq_ok h
  cases h
  exact ⟨selected, explanation, orRaise_eq_ok hselected, rfl⟩

omit [Platform] in
theorem selectBest_eq_ok (h : selectBest state = .ok after) :
    ∃ selected, selected ∈ deliverableCandidates state ∧
      after = { state with
        selectedPlan := some selected
        status := "completed"
        message := some (selectionMessage selected) } := by
  obtain ⟨selected, hselected, h⟩ := bind_eq_ok h
  cases h
  exact ⟨selected, mem_of_selectBestCandidate hselected, rfl⟩

omit [Platform] in
theorem selectUnvalidatedForEvaluation_eq_ok
    (h : selectUnvalidatedForEvaluation state = .ok after) :
    ∃ selected ∈ state.candidates, after = { state with
      selectedPlan := some selected
      status := "completed"
      message := some "evaluation-only unvalidated candidate" } := by
  obtain ⟨selected, hselected, h⟩ := bind_eq_ok h
  cases h
  exact ⟨selected, mem_of_minByKey (orRaise_eq_ok hselected), rfl⟩

/-! ## What a node leaves alone -/

/-- What a node leaves alone, for the fields that several nodes share. -/
structure Frame (node : PlanningNode) (state after : TravelState) : Prop where
  trip : after.trip = state.trip
  maxReplanRounds : after.maxReplanRounds = state.maxReplanRounds
  planningPois : node ≠ .resolvePoiFacts → after.planningPois = state.planningPois
  history : node ≠ .validateCandidates → after.repairHistory = state.repairHistory
  iterations : node ≠ .validateCandidates → after.iterations = state.iterations
  pending : node ∉ [.validateCandidates, .applyLocalRepair] →
    after.pendingReplanRound = state.pendingReplanRound
  softPending : node ∉ [.applySoftRepair, .restoreSoftBaseline, .compareSoftRepair] →
    after.pendingSoftReplanRound = state.pendingSoftReplanRound
  routes : node ∉ [.buildRouteMatrix, .loadDeltaRoutes, .loadSoftDeltaRoutes] →
    after.routeResults = state.routeResults
  drafts : node ∉ [.solveCandidateVariants, .applyLocalRepair, .applySoftRepair,
    .restoreSoftBaseline, .compareSoftRepair] → after.candidateDrafts = state.candidateDrafts
  candidates : node ∉ [.materializeOptimizedCandidates, .materializeCandidates,
    .materializeSoftCandidate, .validateCandidates, .applyLocalRepair, .applySoftRepair,
    .restoreSoftBaseline, .compareSoftRepair] → after.candidates = state.candidates
  baseline : node ∉ [.compileSoftRepairPlan, .restoreSoftBaseline, .compareSoftRepair] →
    after.softBaselineCandidates = state.softBaselineCandidates ∧
      after.softBaselineCandidateDrafts = state.softBaselineCandidateDrafts ∧
      after.softBaselineCritiques = state.softBaselineCritiques ∧
      after.softBaselineEvidenceDigests = state.softBaselineEvidenceDigests ∧
      after.softBaselineQualityScores = state.softBaselineQualityScores
  softPlan : node ≠ .compileSoftRepairPlan → after.softRepairPlan = state.softRepairPlan
  report : node ∉ [.selectRepairTarget, .analyzeViolations] →
    after.criticReport = state.criticReport
  repairPlan : node ∉ [.selectRepairTarget, .buildRepairPlan, .applyLocalRepair] →
    after.repairPlan = state.repairPlan

/-- What a node leaves alone, for the fields of the critic and of the soft repair. -/
structure CriticFrame (node : PlanningNode) (state after : TravelState) : Prop where
  softHistory : node ∉ [.restoreSoftBaseline, .compareSoftRepair] →
    after.softRepairHistory = state.softRepairHistory
  maxAttempts : node ≠ .buildSearchPlan →
    after.criticGroundingMaxAttempts = state.criticGroundingMaxAttempts
  attempts : node ∉ [.prepareCriticContext, .softConstraintCritic] →
    after.criticGroundingAttempts = state.criticGroundingAttempts
  status : node ∉ [.prepareCriticContext, .softConstraintCritic, .validateCriticEvidence,
    .applySoftRepair, .restoreSoftBaseline, .compareSoftRepair] →
    after.criticStatus = state.criticStatus
  critiques : node ∉ [.prepareCriticContext, .softConstraintCritic, .applySoftRepair,
    .restoreSoftBaseline, .compareSoftRepair] → after.softCritiques = state.softCritiques
  digests : node ∉ [.prepareCriticContext, .restoreSoftBaseline, .compareSoftRepair] →
    after.criticEvidenceDigests = state.criticEvidenceDigests
  scores : node ∉ [.prepareCriticContext, .qualityGate, .applySoftRepair, .restoreSoftBaseline,
    .compareSoftRepair] → after.qualityScores = state.qualityScores
  summary : node ∉ [.softConstraintCritic, .validateCriticEvidence, .restoreSoftBaseline,
    .compareSoftRepair] → after.criticExecutionSummary = state.criticExecutionSummary
  baselineSummary : node ∉ [.compileSoftRepairPlan, .restoreSoftBaseline, .compareSoftRepair] →
    after.softBaselineCriticExecutionSummary = state.softBaselineCriticExecutionSummary
  selected : node ∉ [.applyLocalRepair, .applySoftRepair, .selectByQuality, .selectBest,
    .markInfeasible, .selectUnvalidatedForEvaluation] → after.selectedPlan = state.selectedPlan

section Frames

variable {node : PlanningNode}

/-- Every node leaves alone what its frames say. -/
theorem frames_of_execute (h : node.execute setup world n run state = .ok (after, runAfter)) :
    Frame node state after ∧ CriticFrame node state after := by
  cases node
  case' executionBudgetGuard => obtain rfl := guardBudget_eq_ok h
  case' buildSearchPlan => obtain ⟨_, rfl⟩ := buildSearchPlan_eq_ok h
  case' loadPois => obtain ⟨_, rfl⟩ := loadPois_eq_ok (plainNode_eq_ok h)
  case' resolvePoiFacts => cases h
  case' buildRouteMatrix => obtain ⟨_, _, _, rfl⟩ := buildRouteMatrix_eq_ok (plainNode_eq_ok h)
  case' buildOptimizationProblem =>
    obtain ⟨_, rfl⟩ := buildOptimizationProblem_eq_ok (plainNode_eq_ok h)
  case' solveCandidateVariants =>
    obtain ⟨_, _, _, _, rfl⟩ := solveCandidateVariants_eq_ok (plainNode_eq_ok h)
  case' materializeOptimizedCandidates | materializeCandidates | materializeSoftCandidate =>
    obtain ⟨_, _, rfl⟩ := materialize_eq_ok (plainNode_eq_ok h)
  case' validateCandidates =>
    obtain ⟨_, ⟨_, rfl⟩ | ⟨_, _, _, _, rfl⟩⟩ := validate_eq_ok (plainNode_eq_ok h)
  case' selectRepairTarget => obtain ⟨_, _, rfl⟩ := selectRepairTarget_eq_ok (plainNode_eq_ok h)
  case' analyzeViolations => obtain ⟨_, _, rfl⟩ := analyzeViolations_eq_ok (plainNode_eq_ok h)
  case' buildRepairPlan => obtain ⟨_, _, _, _, rfl⟩ := createRepairPlan_eq_ok h
  case' applyLocalRepair =>
    obtain ⟨_, _, _, _, _, _, _, _, _, rfl, rfl⟩ := applyLocalRepair_eq_ok (plainNode_eq_ok h)
  case' collectDeltaRoutes | collectSoftDeltaRoutes =>
    obtain ⟨_, _, _, _, _, rfl⟩ := collectDelta_eq_ok (plainNode_eq_ok h)
  case' loadDeltaRoutes | loadSoftDeltaRoutes =>
    obtain ⟨_, _, _, _, rfl⟩ := loadDelta_eq_ok (plainNode_eq_ok h)
  case' prepareCriticContext =>
    obtain ⟨_, _, _, rfl⟩ := prepareCriticContext_eq_ok (plainNode_eq_ok h)
  case' softConstraintCritic =>
    obtain ⟨_, _, _, _, _, _, _, _, rfl⟩ := softConstraintCritic_eq_ok h
  case' validateCriticEvidence =>
    cases h
    unfold PlanningGraph.validateCriticEvidence
    split
  case' qualityGate => obtain ⟨_, _, rfl⟩ := qualityGate_eq_ok (plainNode_eq_ok h)
  case' compileSoftRepairPlan =>
    obtain ⟨_, _, _, _, _, rfl⟩ := compileSoftRepairPlan_eq_ok (plainNode_eq_ok h)
  case' applySoftRepair =>
    obtain ⟨_, _, _, _, _, _, _, _, _, _, rfl⟩ := applySoftRepair_eq_ok (plainNode_eq_ok h)
  case' restoreSoftBaseline =>
    obtain ⟨_, _, _, rfl⟩ := restoreSoftValues_eq_ok (plainNode_eq_ok h)
  case' compareSoftRepair =>
    obtain ⟨_, _, _, _, ⟨_, _, _, rfl⟩ | ⟨_, _, hrestored⟩⟩ :=
      compareSoftRepair_eq_ok (plainNode_eq_ok h)
    on_goal 2 => obtain ⟨_, _, _, rfl⟩ := restoreSoftValues_eq_ok hrestored
  case' selectByQuality => obtain ⟨_, _, rfl⟩ := selectByQuality_eq_ok (plainNode_eq_ok h)
  case' explainSelection => obtain ⟨_, _, _, rfl⟩ := explainSelection_eq_ok (plainNode_eq_ok h)
  case' selectBest => obtain ⟨_, _, rfl⟩ := selectBest_eq_ok (plainNode_eq_ok h)
  case' markInfeasible => cases h
  case' selectUnvalidatedForEvaluation =>
    obtain ⟨_, _, rfl⟩ := selectUnvalidatedForEvaluation_eq_ok (plainNode_eq_ok h)
  all_goals
    refine ⟨?_, ?_⟩ <;> constructor <;> intros <;> first
      | rfl | exact ⟨rfl, rfl, rfl, rfl, rfl⟩ | next hnot => exact (hnot (by decide)).elim

theorem frame_of_execute (h : node.execute setup world n run state = .ok (after, runAfter)) :
    Frame node state after := (frames_of_execute h).1

theorem criticFrame_of_execute
    (h : node.execute setup world n run state = .ok (after, runAfter)) :
    CriticFrame node state after := (frames_of_execute h).2

end Frames

end PlanningGraph

end TravelPlanAgent
