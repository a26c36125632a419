import TravelPlanAgent.Graph.HardLoop

/-!
# How long a run of the planning graph can be

A run goes through nine nodes to its first validation, through eight nodes in a round of hard
repair and, once there is something to deliver, through the soft critic, at most one soft repair
and the critic again.

* `stepsLeft`: how many nodes a run can still go through.
* `stepsLeft_next`: every node lowers it, except that a soft repair that passes its validation is
  scored once more.
* `RepairPassed`: a soft repair has passed its hard validation.
* `steps_le`: the length of a run, and when it can outlast its recursion limit.
-/

namespace TravelPlanAgent

open PlanningGraph

/-! ## What is left of a run -/

/-- The rounds of hard repair that are left once the pending one is over. -/
def roundsLeft (state : TravelState) : ℕ :=
  state.maxReplanRounds - state.pendingReplanRound.getD state.iterations

/-- The steps from the quality gate on; `again` are those that a repaired plan takes more when it
is scored again. -/
def stepsFromGate (again : ℕ) (state : TravelState) : ℕ :=
  if state.pendingSoftReplanRound.isSome then 4 else 10 + again

/-- The steps that are left at a node, at most. -/
def stepsLeft (again : ℕ) (state : TravelState) : PlanningNode → ℕ
  | .executionBudgetGuard => 24 + again + 8 * roundsLeft state
  | .buildSearchPlan => 23 + again + 8 * roundsLeft state
  | .loadPois => 22 + again + 8 * roundsLeft state
  | .resolvePoiFacts => 21 + again + 8 * roundsLeft state
  | .buildRouteMatrix => 20 + again + 8 * roundsLeft state
  | .buildOptimizationProblem => 19 + again + 8 * roundsLeft state
  | .solveCandidateVariants => 18 + again + 8 * roundsLeft state
  | .materializeOptimizedCandidates => 17 + again + 8 * roundsLeft state
  | .validateCandidates =>
    if state.pendingSoftReplanRound.isSome then 4 + again else 16 + again + 8 * roundsLeft state
  | .selectRepairTarget => 15 + again + 8 * roundsLeft state
  | .analyzeViolations => 14 + again + 8 * roundsLeft state
  | .buildRepairPlan => 13 + again + 8 * roundsLeft state
  | .applyLocalRepair => 12 + again + 8 * roundsLeft state
  | .collectDeltaRoutes => 19 + again + 8 * roundsLeft state
  | .loadDeltaRoutes => 18 + again + 8 * roundsLeft state
  | .materializeCandidates => 17 + again + 8 * roundsLeft state
  | .prepareCriticContext => stepsFromGate again state + 5
  | .softConstraintCritic =>
    stepsFromGate again state + 2 * max 1 (2 - state.criticGroundingAttempts)
  | .validateCriticEvidence => stepsFromGate again state + 1 +
    if state.criticStatus = .success then 2 * (2 - state.criticGroundingAttempts) else 0
  | .qualityGate => stepsFromGate again state
  | .compileSoftRepairPlan => 9 + again
  | .applySoftRepair => 8 + again
  | .collectSoftDeltaRoutes => 7 + again
  | .loadSoftDeltaRoutes => 6 + again
  | .materializeSoftCandidate => 5 + again
  | .restoreSoftBaseline | .compareSoftRepair => 3
  | .selectByQuality => 2
  | .explainSelection | .selectBest | .markInfeasible | .selectUnvalidatedForEvaluation => 1

/-- The nodes between the validation of a soft repair and its comparison. -/
def scoredAgain : List PlanningNode :=
  [.prepareCriticContext, .softConstraintCritic, .validateCriticEvidence, .qualityGate,
   .compareSoftRepair]

/-- A soft repair has passed its hard validation. -/
def RepairPassed (node : Option PlanningNode) (state : TravelState) : Prop :=
  (∃ attempt ∈ state.softRepairHistory, attempt.hardValidationPassed = true) ∨
    (state.pendingSoftReplanRound.isSome = true ∧ ∃ next ∈ scoredAgain, node = some next)

variable [Platform] {setup : PlanningSetup} {world : PlanningWorld} {again maxRounds n : ℕ}
  {run runAfter : Option RunContext} {state after : TravelState} {node : PlanningNode}

section Frames

omit [Platform]

/-- Outside of validation and local repair the rounds are where they were. -/
theorem roundsLeft_eq (hframe : Frame node state after)
    (hnode : node ∉ [.validateCandidates, .applyLocalRepair]) :
    roundsLeft after = roundsLeft state := by
  have hvalidate : node ≠ .validateCandidates := by
    rintro rfl
    exact hnode List.mem_cons_self
  rw [roundsLeft, roundsLeft, hframe.maxReplanRounds, hframe.pending hnode,
    hframe.iterations hvalidate]

/-- Outside of soft repairs, what is left from the quality gate on is the same. -/
theorem stepsFromGate_eq (hframe : Frame node state after)
    (hnode : node ∉ [.applySoftRepair, .restoreSoftBaseline, .compareSoftRepair]) :
    stepsFromGate again after = stepsFromGate again state := by
  rw [stepsFromGate, stepsFromGate, hframe.softPending hnode]

end Frames

/-! ## The nodes that decide -/

/-- A validation ends the pending round: as many rounds are left after it. -/
theorem roundsLeft_validate (h : validate state = .ok after) :
    roundsLeft after = roundsLeft state ∧ after.pendingReplanRound = none := by
  obtain ⟨-, ⟨hnone, rfl⟩ | ⟨round, attempt, hpending, -, rfl⟩⟩ := validate_eq_ok h
  · exact ⟨rfl, hnone⟩
  · refine ⟨?_, rfl⟩
    rw [roundsLeft, roundsLeft, hpending]
    rfl

omit [Platform] in
/-- A repair that was applied is the next round. -/
theorem roundsLeft_of_roundPending (h : RoundPending after)
    (hpending : state.pendingReplanRound = none)
    (hiterations : after.iterations = state.iterations)
    (hmax : after.maxReplanRounds = state.maxReplanRounds) :
    roundsLeft after + 1 = roundsLeft state := by
  have hroom := h.mayRepair.room
  rw [roundsLeft, roundsLeft, hpending, h.pending, Option.getD_some, Option.getD_none]
  omega

omit [Platform] in
/-- A critic that answers has been asked once more. -/
theorem attempts_of_softConstraintCritic
    (h : PlanningGraph.softConstraintCritic setup world n run state = .ok (after, runAfter))
    (hsuccess : after.criticStatus = .success) :
    after.criticGroundingAttempts = state.criticGroundingAttempts + 1 := by
  unfold PlanningGraph.softConstraintCritic at h
  split at h
  · cases h
    cases hsuccess
  · obtain ⟨request, -, h⟩ := bind_eq_ok h
    obtain ⟨answered, hanswered, h⟩ := bind_eq_ok h
    cases h
    unfold criticAnswered at hanswered
    split at hanswered <;> cases hanswered
    · rfl
    · cases hsuccess
    · cases hsuccess

omit [Platform] in
/-- The critic is asked again only about critiques that it gave. -/
theorem success_of_routeAfterGrounding
    (hagain : routeAfterGrounding (PlanningGraph.validateCriticEvidence state) =
      .softConstraintCritic) :
    state.criticStatus = .success ∧
      state.criticGroundingAttempts < state.criticGroundingMaxAttempts := by
  unfold routeAfterGrounding at hagain
  split at hagain
  · next hretry =>
    unfold PlanningGraph.validateCriticEvidence at hretry
    split at hretry
    · exact absurd rfl hretry.1
    · next hsuccess => exact ⟨not_not.mp hsuccess, hretry.2.1⟩
  · cases hagain

/-! ## One step -/

section OneStep

variable {next : PlanningNode}

/-- A validation leads on to the critic, to another round or to an end. -/
theorem stepsLeft_validate (h : validate state = .ok after)
    (hframe : Frame .validateCandidates state after)
    (hscored : after.pendingSoftReplanRound.isSome = true →
      routeAfterValidation setup after = .prepareCriticContext → 6 ≤ again) :
    stepsLeft again after (routeAfterValidation setup after) + 1 ≤
      stepsLeft again state .validateCandidates := by
  obtain ⟨hrounds, -⟩ := roundsLeft_validate h
  have hsoft : after.pendingSoftReplanRound = state.pendingSoftReplanRound :=
    hframe.softPending (by decide)
  rw [stepsLeft, ← hsoft, ← hrounds]
  unfold routeAfterValidation at hscored ⊢
  dsimp only at hscored ⊢
  split at hscored
  · next hrestore =>
    rw [if_pos hrestore, if_pos hrestore.1, stepsLeft]
    omega
  next hrestore =>
  rw [if_neg hrestore]
  split
  · next hdeliverable =>
    split
    · rw [stepsLeft]
      split <;> omega
    · next hcritic =>
      rw [if_pos hdeliverable, if_neg hcritic] at hscored
      rw [stepsLeft, stepsFromGate]
      split
      · next hpending =>
        have hagain := hscored hpending rfl
        omega
      · omega
  · next hnone =>
    rw [not_not] at hnone
    have hpending : ¬after.pendingSoftReplanRound.isSome = true := fun hpending =>
      hrestore ⟨hpending, hnone⟩
    rw [if_neg hpending]
    split <;> rw [stepsLeft] <;> omega

omit [Platform] in
/-- The critic answers at most twice. -/
theorem stepsLeft_softConstraintCritic
    (h : PlanningGraph.softConstraintCritic setup world n run state = .ok (after, runAfter))
    (hframe : Frame .softConstraintCritic state after) :
    stepsLeft again after .validateCriticEvidence + 1 ≤
      stepsLeft again state .softConstraintCritic := by
  rw [stepsLeft, stepsLeft, stepsFromGate_eq hframe (by decide)]
  split
  · next hsuccess =>
    rw [attempts_of_softConstraintCritic h hsuccess]
    omega
  · omega

omit [Platform] in
/-- Critiques that are not grounded are asked for once more while there are attempts left. -/
theorem stepsLeft_validateCriticEvidence
    (hframe : Frame .validateCriticEvidence state (PlanningGraph.validateCriticEvidence state))
    (hattempts : state.criticGroundingMaxAttempts ≤ 2) :
    stepsLeft again (PlanningGraph.validateCriticEvidence state)
        (routeAfterGrounding (PlanningGraph.validateCriticEvidence state)) + 1 ≤
      stepsLeft again state .validateCriticEvidence := by
  have hgate : stepsFromGate again (PlanningGraph.validateCriticEvidence state) =
      stepsFromGate again state := stepsFromGate_eq hframe (by decide)
  have hcases : routeAfterGrounding (PlanningGraph.validateCriticEvidence state) =
      .softConstraintCritic ∨
      routeAfterGrounding (PlanningGraph.validateCriticEvidence state) = .qualityGate := by
    unfold routeAfterGrounding
    split
    · exact .inl rfl
    · exact .inr rfl
  rcases hcases with hroute | hroute
  · obtain ⟨hsuccess, hroom⟩ := success_of_routeAfterGrounding hroute
    have hsame : (PlanningGraph.validateCriticEvidence state).criticGroundingAttempts =
        state.criticGroundingAttempts := by
      unfold PlanningGraph.validateCriticEvidence
      split <;> rfl
    rw [hroute, stepsLeft, stepsLeft, hgate, hsame, if_pos hsuccess]
    omega
  · rw [hroute, stepsLeft, stepsLeft, hgate]
    omega

/-- Every node brings a run closer to its end, except that a soft repair that passes its validation
is scored once more. -/
theorem stepsLeft_next (h : node.execute setup world n run state = .ok (after, runAfter))
    (hbefore : LoopInvariant maxRounds (some node) state)
    (hafter : LoopInvariant maxRounds (node.next setup after) after)
    (hattempts : state.criticGroundingMaxAttempts ≤ 2)
    (hnext : node.next setup after = some next)
    (hscored : node = .validateCandidates → next = .prepareCriticContext →
      after.pendingSoftReplanRound.isSome = true → 6 ≤ again) :
    stepsLeft again after next + 1 ≤ stepsLeft again state node := by
  have hframe := frame_of_execute h
  have hbefore := hbefore.2 node rfl
  have hafter := hafter.2 next hnext
  cases node with
  | executionBudgetGuard | buildSearchPlan | loadPois | resolvePoiFacts | buildRouteMatrix
  | buildOptimizationProblem | solveCandidateVariants | selectRepairTarget | loadDeltaRoutes =>
    cases hnext
    rw [stepsLeft, stepsLeft, roundsLeft_eq hframe (by decide)]
    omega
  | materializeOptimizedCandidates | materializeCandidates =>
    cases hnext
    unfold validationTarget
    rw [stepsLeft]
    split
    · rw [stepsLeft]
      omega
    · rw [stepsLeft, roundsLeft_eq hframe (by decide)]
      split <;> omega
  | validateCandidates =>
    cases hnext
    exact stepsLeft_validate (plainNode_eq_ok h) hframe fun hpending hroute =>
      hscored rfl hroute hpending
  | analyzeViolations =>
    cases hnext
    have hrounds := roundsLeft_eq hframe (by decide)
    unfold routeAfterCritic
    split
    · rw [stepsLeft, stepsLeft]
      omega
    · split <;> rw [stepsLeft, stepsLeft] <;> omega
  | buildRepairPlan =>
    cases hnext
    have hrounds := roundsLeft_eq hframe (by decide)
    unfold routeAfterRepairPlan
    split <;> rw [stepsLeft, stepsLeft] <;> omega
  | applyLocalRepair =>
    cases hnext
    have hrounds := roundsLeft_of_roundPending hafter hbefore.2.1
      (hframe.iterations (by decide)) hframe.maxReplanRounds
    rw [stepsLeft, stepsLeft]
    omega
  | collectDeltaRoutes =>
    cases hnext
    have hrounds := roundsLeft_eq hframe (by decide)
    unfold routeAfterDeltaRoutes
    split <;> rw [stepsLeft, stepsLeft] <;> omega
  | prepareCriticContext =>
    cases hnext
    obtain ⟨_, _, _, rfl⟩ := prepareCriticContext_eq_ok (plainNode_eq_ok h)
    rw [stepsLeft, stepsLeft, stepsFromGate_eq hframe (by decide)]
    dsimp only
    omega
  | softConstraintCritic =>
    cases hnext
    exact stepsLeft_softConstraintCritic h hframe
  | validateCriticEvidence =>
    cases hnext
    cases h
    exact stepsLeft_validateCriticEvidence hframe hattempts
  | qualityGate =>
    cases hnext
    rw [stepsLeft, ← stepsFromGate_eq hframe (by decide), stepsFromGate]
    unfold routeAfterQualityGate
    split
    · rw [stepsLeft]
    · split <;> rw [stepsLeft] <;> omega
  | compileSoftRepairPlan =>
    cases hnext
    unfold routeAfterSoftRepairPlan
    split <;> rw [stepsLeft, stepsLeft] <;> omega
  | collectSoftDeltaRoutes =>
    cases hnext
    unfold routeAfterSoftDeltaRoutes
    split <;> rw [stepsLeft, stepsLeft] <;> omega
  | materializeSoftCandidate =>
    cases hnext
    have hpending : after.pendingSoftReplanRound.isSome = true := by
      rw [hframe.softPending (by decide)]
      exact hbefore.2
    rw [stepsLeft, stepsLeft, if_pos hpending]
    omega
  | applySoftRepair | loadSoftDeltaRoutes | restoreSoftBaseline | compareSoftRepair
  | selectByQuality =>
    cases hnext
    rw [stepsLeft, stepsLeft]
    try omega
  | explainSelection | selectBest | markInfeasible | selectUnvalidatedForEvaluation =>
    cases hnext

end OneStep

/-! ## A repair that has passed -/

omit [Platform] in
/-- The record of a soft repair says whether its result was valid. -/
theorem softHistory_of_restoreSoftValues {reason : String} {passed : Bool} {afterScore : Option ℚ}
    (h : restoreSoftValues state reason passed afterScore = .ok after) :
    ∃ attempt, attempt.hardValidationPassed = passed ∧
      after.softRepairHistory = state.softRepairHistory ++ [attempt] := by
  obtain ⟨plan, -, h⟩ := bind_eq_ok h
  obtain ⟨before, -, h⟩ := bind_eq_ok h
  cases h
  exact ⟨_, rfl, rfl⟩

omit [Platform] in
/-- Only repairs that passed are compared. -/
theorem softHistory_of_compareSoftRepair
    (h : PlanningGraph.compareSoftRepair setup state = .ok after) :
    ∃ attempt, attempt.hardValidationPassed = true ∧
      after.softRepairHistory = state.softRepairHistory ++ [attempt] := by
  unfold PlanningGraph.compareSoftRepair at h
  obtain ⟨plan, -, h⟩ := bind_eq_ok h
  obtain ⟨-, -, h⟩ := bind_eq_ok h
  obtain ⟨before, -, h⟩ := bind_eq_ok h
  dsimp only at h
  split at h
  · cases h
    exact ⟨_, rfl, rfl⟩
  · exact softHistory_of_restoreSoftValues h

/-- A record of a soft repair is not lost. -/
theorem softHistory_extends (h : node.execute setup world n run state = .ok (after, runAfter)) :
    ∃ attempts, after.softRepairHistory = state.softRepairHistory ++ attempts := by
  by_cases hnode : node ∈ [.restoreSoftBaseline, .compareSoftRepair]
  · simp only [List.mem_cons, List.not_mem_nil, or_false] at hnode
    rcases hnode with rfl | rfl
    · obtain ⟨attempt, -, heq⟩ := softHistory_of_restoreSoftValues (plainNode_eq_ok h)
      exact ⟨[attempt], heq⟩
    · obtain ⟨attempt, -, heq⟩ := softHistory_of_compareSoftRepair (plainNode_eq_ok h)
      exact ⟨[attempt], heq⟩
  · exact ⟨[], by rw [(criticFrame_of_execute h).softHistory hnode, List.append_nil]⟩

/-- Once a repair has passed its validation, it has passed. -/
theorem repairPassed_next (h : node.execute setup world n run state = .ok (after, runAfter))
    (hpassed : RepairPassed (some node) state) :
    RepairPassed (node.next setup after) after := by
  rcases hpassed with ⟨attempt, hattempt, hpassed⟩ | ⟨hpending, next, hnext, hnode⟩
  · obtain ⟨attempts, heq⟩ := softHistory_extends h
    exact .inl ⟨attempt, heq ▸ List.mem_append_left _ hattempt, hpassed⟩
  obtain rfl := Option.some.inj hnode
  have hframe := frame_of_execute h
  simp only [scoredAgain, List.mem_cons, List.not_mem_nil, or_false] at hnext
  rcases hnext with rfl | rfl | rfl | rfl | rfl
  · exact .inr ⟨hframe.softPending (by decide) ▸ hpending, .softConstraintCritic, by decide, rfl⟩
  · exact .inr ⟨hframe.softPending (by decide) ▸ hpending, .validateCriticEvidence, by decide, rfl⟩
  · refine .inr ⟨hframe.softPending (by decide) ▸ hpending, routeAfterGrounding after, ?_, rfl⟩
    unfold routeAfterGrounding
    split <;> decide
  · have hpending : after.pendingSoftReplanRound.isSome = true :=
      hframe.softPending (by decide) ▸ hpending
    refine .inr ⟨hpending, .compareSoftRepair, by decide, ?_⟩
    change some (routeAfterQualityGate after) = _
    rw [routeAfterQualityGate, if_pos hpending]
  · obtain ⟨attempt, hattempt, heq⟩ := softHistory_of_compareSoftRepair (plainNode_eq_ok h)
    exact .inl ⟨attempt, heq ▸ List.mem_append_right _ (List.mem_singleton_self _), hattempt⟩

/-! ## The length of a run -/

section Runs

variable {request : PlanningRequest} {position before : Position}

/-- The critic is asked at most twice in a row. -/
theorem maxAttempts_le_of_visits (h : Visits setup world request run position) :
    position.state.criticGroundingMaxAttempts ≤ 2 := by
  refine reaches_preserves (motive := fun _ state => state.criticGroundingMaxAttempts ≤ 2) h
    le_rfl fun node n runBefore runAfter state after hexecute hle => ?_
  by_cases hnode : node = .buildSearchPlan
  · subst hnode
    obtain ⟨queries, rfl⟩ := buildSearchPlan_eq_ok hexecute
    exact setup.criticPolicy.groundingMaxAttempts_bounds.2
  · rw [(criticFrame_of_execute hexecute).maxAttempts hnode]
    exact hle

/-- The steps that are left from a position on, at most. -/
def Position.stepsLeft (again : ℕ) (position : Position) : ℕ :=
  position.node.elim 0 (TravelPlanAgent.stepsLeft again position.state)

/-- A step of a run lowers what is left, or scores a repair once more. -/
theorem stepsLeft_of_next (hvisits : Visits setup world request run before)
    (hnext : (planningMachine setup world).Next before position) :
    (again < 6 ∧ RepairPassed position.node position.state) ∨
      position.stepsLeft again + 1 ≤ before.stepsLeft again := by
  have hbefore := loopInvariant_of_visits hvisits
  have hafter := loopInvariant_of_visits (hvisits.next hnext)
  have hattempts := maxAttempts_le_of_visits hvisits
  obtain ⟨node, hnode, hsuperstep⟩ := next_iff.mp hnext
  obtain ⟨⟨runBefore, runAfter, hexecute⟩, hedge, -⟩ := superstep_eq_ok hsuperstep
  rw [hnode] at hbefore
  rw [Position.stepsLeft, Position.stepsLeft, hnode, Option.elim_some]
  cases hgoes : position.node with
  | none =>
    refine .inr ?_
    rw [Option.elim_none]
    cases node <;> simp only [stepsLeft, stepsFromGate] <;> first | omega | (split <;> omega)
  | some next =>
    rw [hedge] at hafter
    rw [Option.elim_some]
    by_cases hscored : node = .validateCandidates ∧ next = .prepareCriticContext ∧
        position.state.pendingSoftReplanRound.isSome = true ∧ again < 6
    · obtain ⟨-, rfl, hpending, hlt⟩ := hscored
      exact .inl ⟨hlt, .inr ⟨hpending, .prepareCriticContext, by decide, rfl⟩⟩
    · refine .inr (stepsLeft_next hexecute hbefore hafter hattempts (hedge ▸ hgoes) ?_)
      intro hvalidate hprepare hpending
      by_contra hlt
      exact hscored ⟨hvalidate, hprepare, hpending, Nat.lt_of_not_le hlt⟩

/-- Once a repair has passed its validation, it has passed for the rest of the run. -/
theorem repairPassed_of_next (hnext : (planningMachine setup world).Next before position)
    (hpassed : RepairPassed before.node before.state) :
    RepairPassed position.node position.state := by
  obtain ⟨node, hnode, hsuperstep⟩ := next_iff.mp hnext
  obtain ⟨⟨runBefore, runAfter, hexecute⟩, hedge, -⟩ := superstep_eq_ok hsuperstep
  rw [hedge]
  exact repairPassed_next hexecute (hnode ▸ hpassed)

omit [Platform] in
/-- What is left at the start of a run. -/
theorem stepsLeft_startPosition :
    (startPosition request run).stepsLeft again = 24 + again + 8 * request.maxReplanRounds := rfl

/-- **The length of a run** and its recursion limit.  A run takes at most `30 + 8 r` steps, and it
outlasts its recursion limit only when it may repair and a soft repair has passed its hard
validation. -/
theorem steps_le {steps : ℕ}
    (h : (planningMachine setup world).Steps (startPosition request run) steps position) :
    steps ≤ 30 + 8 * request.maxReplanRounds ∧
      (position.node ≠ none → planningRecursionLimit request ≤ steps →
        1 ≤ request.maxReplanRounds ∧ RepairPassed position.node position.state) := by
  have hlength : steps + position.stepsLeft 6 ≤ (startPosition request run).stepsLeft 6 :=
    Machine.Steps.length_le (fun b c hreaches hnext =>
      (stepsLeft_of_next hreaches hnext).resolve_left fun hlt => absurd hlt.1 (lt_irrefl 6)) h
  have huntil : RepairPassed position.node position.state ∨
      steps + position.stepsLeft 0 ≤ (startPosition request run).stepsLeft 0 :=
    Machine.Steps.length_le_or (fun b c _ hnext => repairPassed_of_next hnext)
      (fun b c hreaches hnext => (stepsLeft_of_next hreaches hnext).imp_left And.right) h
  rw [stepsLeft_startPosition] at hlength huntil
  refine ⟨by omega, fun hrunning hlimit => ?_⟩
  obtain ⟨node, hnode⟩ := Option.ne_none_iff_exists'.mp hrunning
  have hpositive (again : ℕ) : 1 ≤ position.stepsLeft again := by
    rw [Position.stepsLeft, hnode, Option.elim_some]
    cases node <;> simp only [stepsLeft, stepsFromGate] <;> first | omega | (split <;> omega)
  have hfirst := hpositive 6
  have hsecond := hpositive 0
  rw [planningRecursionLimit] at hlimit
  refine ⟨by omega, huntil.resolve_right fun hle => ?_⟩
  omega

omit [Platform] in
/-- The run that fills the empty day ends in time. -/
theorem steps_le_emptyDay : ∃ steps position,
    (@planningMachine plainPlatform PlanningSample.setup PlanningSample.emptyDay).Steps
      (startPosition PlanningSample.request none) steps position ∧
    position.state.status = "completed" ∧ steps ≤ 46 := by
  let := plainPlatform
  have hrun : ((runPlanning PlanningSample.setup PlanningSample.emptyDay PlanningSample.request
      none).toOption.map TravelState.status) = some "completed" := by
    decide +kernel
  obtain ⟨state, hstate, hstatus⟩ := Option.map_eq_some_iff.mp hrun
  obtain ⟨position, ⟨steps, hsteps⟩, -, rfl⟩ :=
    exists_of_runPlanning (eq_ok_of_mem_toOption hstate)
  exact ⟨steps, position, hsteps, hstatus, (steps_le hsteps).1⟩

end Runs

end TravelPlanAgent
