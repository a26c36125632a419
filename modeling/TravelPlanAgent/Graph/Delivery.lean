import TravelPlanAgent.Graph.ExplainedChoice

/-!
# What a run of the planning graph delivers

Candidates go through hard repair, are put aside for a soft repair, are restored and are merged.
Wherever they are, they carry the validation of the trip and the places of the run, and the plan
that is delivered is one of them.

* `Checked`: candidates that carry their validation.
* `DeliveryFacts`, `deliveryFacts_next`: what holds before each node, and that every node keeps it.
* `Completes`, `GivesUp`: the two ends of a run.
* `delivers_of_runPlanning`: every run that ends does so in one of the two.
-/

namespace TravelPlanAgent

open Selection PlanningGraph

variable [Platform]

/-! ## Checked candidates -/

/-- Candidates that carry the validation of a state. -/
def Checked (state : TravelState) (candidates : List PlanCandidate) : Prop :=
  ∀ candidate ∈ candidates,
    candidate.validation = some (validateCandidate state.trip candidate state.planningPois)

/-- A deliverable plan is selected, and no candidate is of a better tier. -/
def SelectsDeliverable (state : TravelState) : Prop :=
  ∃ plan ∈ deliverableCandidates state, state.selectedPlan = some plan ∧
    ∀ other ∈ deliverableCandidates state, validationRank plan ≤ validationRank other

/-- A run ends with a plan. -/
structure Completes (state : TravelState) : Prop where
  status : state.status = "completed"
  selects : SelectsDeliverable state

/-- A run ends without a plan: nothing can be delivered, and nothing can be repaired. -/
structure GivesUp (state : TravelState) : Prop where
  status : state.status = "infeasible"
  selectedPlan : state.selectedPlan = none
  undeliverable : deliverableCandidates state = []
  irreparable : mayRepair state = false

/-- What holds of the candidates before each node. -/
def DeliveryFacts (state : TravelState) : PlanningNode → Prop
  | .executionBudgetGuard | .buildSearchPlan | .loadPois | .resolvePoiFacts | .buildRouteMatrix
  | .buildOptimizationProblem | .solveCandidateVariants | .materializeOptimizedCandidates =>
    state.softBaselineCandidates = []
  | .validateCandidates | .applyLocalRepair | .collectDeltaRoutes | .loadDeltaRoutes
  | .materializeCandidates | .applySoftRepair | .collectSoftDeltaRoutes | .loadSoftDeltaRoutes
  | .materializeSoftCandidate => Checked state state.softBaselineCandidates
  | .selectRepairTarget | .analyzeViolations =>
    (Checked state state.candidates ∧ Checked state state.softBaselineCandidates) ∧
      deliverableCandidates state = []
  | .buildRepairPlan =>
    (Checked state state.candidates ∧ Checked state state.softBaselineCandidates) ∧
      deliverableCandidates state = [] ∧ ∀ report ∈ state.criticReport, report.repairable = true
  | .explainSelection => Checked state state.candidates ∧ SelectsDeliverable state
  | .markInfeasible => Checked state state.candidates ∧ deliverableCandidates state = [] ∧
    mayRepair state = false
  | .selectUnvalidatedForEvaluation => False
  | _ => Checked state state.candidates ∧ Checked state state.softBaselineCandidates

/-- What holds of the candidates wherever a run is. -/
def DeliveryInvariant (state : TravelState) : Option PlanningNode → Prop
  | some node => DeliveryFacts state node
  | none => Checked state state.candidates ∧ (Completes state ∨ GivesUp state)

variable {setup : PlanningSetup} {world : PlanningWorld} {n : ℕ}
  {run runAfter : Option RunContext} {state after : TravelState}

theorem checked_nil : Checked state [] := by
  intro candidate hcandidate
  cases hcandidate

/-- Candidates stay checked while the trip and the places stay. -/
theorem Checked.keep {candidates : List PlanCandidate} (h : Checked state candidates)
    (htrip : after.trip = state.trip) (hpois : after.planningPois = state.planningPois) :
    Checked after candidates := by
  intro candidate hcandidate
  rw [htrip, hpois]
  exact h candidate hcandidate

/-- The validation does not look at itself. -/
theorem checked_validated (candidates : List PlanCandidate) :
    Checked state (candidates.map (validated state.trip state.planningPois)) := by
  intro candidate hcandidate
  obtain ⟨before, -, rfl⟩ := List.mem_map.mp hcandidate
  rfl

/-- A repaired baseline is still checked. -/
theorem Checked.merge {candidates merged : List PlanCandidate} (h : Checked state candidates)
    (hmerged : Checked state merged) (keep : PlanCandidate → Bool) :
    Checked state (candidates.filter keep ++ merged) := by
  intro candidate hcandidate
  rcases List.mem_append.mp hcandidate with hkept | hnew
  · exact h candidate (List.mem_filter.mp hkept).1
  · exact hmerged candidate hnew

/-! ## Selections -/

section Selections

omit [Platform]

/-- The tier decides before any score does. -/
theorem rank_le_of_firstMin {scores : List (PlanCandidate → Option ℚ)}
    {candidates : List PlanCandidate} {plan other : PlanCandidate}
    (h : firstMin (rankedBefore scores) candidates = some plan) (hother : other ∈ candidates) :
    validationRank plan ≤ validationRank other := by
  have hafter := not_rankedBefore_of_firstMin h hother
  rw [Bool.eq_false_iff, Ne, rankedBefore_iff, not_or] at hafter
  exact not_lt.mp hafter.1

theorem selectsDeliverable_of_firstMin {scores : List (PlanCandidate → Option ℚ)}
    {plan : PlanCandidate}
    (h : firstMin (rankedBefore scores) (deliverableCandidates state) = some plan)
    (hsame : after.candidates = state.candidates) (hselected : after.selectedPlan = some plan) :
    SelectsDeliverable after := by
  have hdeliverable : deliverableCandidates after = deliverableCandidates state := by
    rw [deliverableCandidates, deliverableCandidates, hsame]
  refine ⟨plan, ?_, hselected, fun other hother => ?_⟩
  · rw [hdeliverable]
    exact mem_of_firstMin h
  · rw [hdeliverable] at hother
    exact rank_le_of_firstMin h hother

/-- Behind `select_by_quality` a deliverable plan is selected. -/
theorem selectsDeliverable_selectByQuality
    (h : PlanningGraph.selectByQuality state = .ok after) : SelectsDeliverable after := by
  obtain ⟨plan, hplan, rfl⟩ := selectByQuality_eq_ok h
  unfold chosenByQuality at hplan
  split at hplan
  · exact selectsDeliverable_of_firstMin (orRaise_eq_ok hplan) rfl rfl
  · exact selectsDeliverable_of_firstMin (orRaise_eq_ok hplan) rfl rfl

theorem completes_selectBest (h : PlanningGraph.selectBest state = .ok after) :
    Completes after := by
  obtain ⟨plan, hplan, h⟩ := bind_eq_ok h
  cases h
  exact ⟨rfl, selectsDeliverable_of_firstMin (orRaise_eq_ok hplan) rfl rfl⟩

/-- A selection survives as long as the candidates and the selected plan do. -/
theorem SelectsDeliverable.keep (h : SelectsDeliverable state)
    (hcandidates : after.candidates = state.candidates)
    (hselected : after.selectedPlan = state.selectedPlan) : SelectsDeliverable after := by
  obtain ⟨plan, hplan, hchosen, hbest⟩ := h
  rw [SelectsDeliverable, deliverableCandidates, hcandidates, hselected]
  exact ⟨plan, hplan, hchosen, hbest⟩

end Selections

/-! ## Steps -/

section OneStep

variable {node : PlanningNode}

/-- A validation checks the candidates and leads to where they belong. -/
theorem deliveryFacts_validate (h : validate state = .ok after)
    (hframe : Frame .validateCandidates state after)
    (hbaseline : Checked state state.softBaselineCandidates) :
    DeliveryFacts after (routeAfterValidation setup after) := by
  have hcandidates : Checked after after.candidates := by
    obtain ⟨-, ⟨-, rfl⟩ | ⟨round, attempt, -, -, rfl⟩⟩ := validate_eq_ok h
    · exact checked_validated state.candidates
    · exact checked_validated state.candidates
  have hkept : Checked after after.softBaselineCandidates := by
    rw [(hframe.baseline (by decide)).1]
    exact hbaseline.keep hframe.trip (hframe.planningPois (by decide))
  have hboth := And.intro hcandidates hkept
  unfold routeAfterValidation
  dsimp only
  split
  · exact hboth
  split
  · split <;> exact hboth
  next hnone =>
  rw [not_not] at hnone
  split
  · exact ⟨hboth, hnone⟩
  · next hmay => exact ⟨hcandidates, hnone, Bool.eq_false_iff.mpr hmay⟩

/-- A report that cannot be repaired ends the run. -/
theorem deliveryFacts_analyzeViolations (h : PlanningGraph.analyzeViolations state = .ok after)
    (hboth : Checked state state.candidates ∧ Checked state state.softBaselineCandidates)
    (hnone : deliverableCandidates state = []) :
    DeliveryFacts after (routeAfterCritic after) := by
  obtain ⟨candidate, -, rfl⟩ := analyzeViolations_eq_ok h
  unfold routeAfterCritic
  dsimp only
  split
  · next hrepairable =>
    refine ⟨hboth, hnone, fun report hreport => ?_⟩
    obtain rfl := Option.some.inj hreport
    exact hrepairable
  · next hirreparable =>
    refine ⟨hboth.1, hnone, ?_⟩
    rw [repairable_analyzeCandidate, ← Option.isNone_iff_eq_none, Bool.not_eq_true] at hirreparable
    unfold mayRepair
    dsimp only
    rw [hirreparable, Bool.false_and, Bool.false_and]

omit [Platform] in
/-- Without a plan for a repairable report there is a reason. -/
theorem reason_of_withoutRepeatedAction {history : List RepairAttempt}
    {answer : Option RepairPlan × Option String}
    (hreason : answer.1 = none → answer.2.isSome = true)
    (hplan : (withoutRepeatedAction history answer).1 = none) :
    (withoutRepeatedAction history answer).2.isSome = true := by
  unfold withoutRepeatedAction at hplan ⊢
  split
  · next hnone => exact hreason hnone
  · split
    · rfl
    · next plan hsome hnew =>
      rw [hsome] at hplan
      dsimp only at hplan
      rw [if_neg hnew, hsome] at hplan
      cases hplan

theorem reason_of_buildRepairPlan {trip : TripSpec} {candidate : PlanCandidate}
    {draft : CandidateDraft} {pois : List PlanningPOI} {report : CriticReport} {round : ℕ}
    (hrepairable : report.repairable = true)
    (hplan : (buildRepairPlan trip candidate draft pois report round).1 = none) :
    (buildRepairPlan trip candidate draft pois report round).2.isSome = true := by
  unfold buildRepairPlan at hplan ⊢
  rw [if_neg (not_not.mpr hrepairable)] at hplan ⊢
  split
  · rfl
  · next hactions =>
    rw [hactions] at hplan
    dsimp only at hplan ⊢
    split
    · rfl
    · next hnonempty =>
      split at hplan
      · next hempty => exact absurd hempty hnonempty
      · cases hplan

/-- A round goes on with its plan, and without one the run ends for a reason. -/
theorem deliveryFacts_routeAfterRepairPlan
    (hboth : Checked state state.candidates ∧ Checked state state.softBaselineCandidates)
    (hnone : deliverableCandidates state = [])
    (hwhy : state.repairPlan = none → state.repairTerminalReason.isSome = true) :
    DeliveryFacts state (routeAfterRepairPlan state) := by
  unfold routeAfterRepairPlan
  split
  · exact hboth.2
  · next hend =>
    refine ⟨hboth.1, hnone, ?_⟩
    have hreason : state.repairTerminalReason.isSome = true := by
      cases hplan : state.repairPlan with
      | none => exact hwhy hplan
      | some plan =>
        rw [hplan, not_and] at hend
        exact Option.isSome_iff_ne_none.mpr (hend rfl)
    rw [mayRepair, Option.isNone_eq_false_iff.mpr hreason, Bool.false_and, Bool.false_and]

theorem deliveryFacts_createRepairPlan
    (h : createRepairPlan setup world n run state = .ok (after, runAfter))
    (hboth : Checked state state.candidates ∧ Checked state state.softBaselineCandidates)
    (hnone : deliverableCandidates state = [])
    (hreport : ∀ report ∈ state.criticReport, report.repairable = true) :
    DeliveryFacts after (routeAfterRepairPlan after) := by
  obtain ⟨⟨candidate, draft⟩, -, h⟩ := bind_eq_ok h
  obtain ⟨report, hfound, h⟩ := bind_eq_ok h
  obtain ⟨answer, hanswer, h⟩ := bind_eq_ok h
  have hbuilt := Except.ok.inj (delegate_eq_ok hanswer)
  cases h
  refine deliveryFacts_routeAfterRepairPlan hboth hnone (reason_of_withoutRepeatedAction ?_)
  rw [← hbuilt]
  exact reason_of_buildRepairPlan (hreport report (orRaise_eq_ok hfound))

/-- A soft repair that is compared is merged into the baseline or gives way to it. -/
theorem checked_compareSoftRepair (h : PlanningGraph.compareSoftRepair setup state = .ok after)
    (hboth : Checked state state.candidates ∧ Checked state state.softBaselineCandidates) :
    Checked after after.candidates ∧ Checked after after.softBaselineCandidates := by
  obtain ⟨plan, before, -, -, ⟨-, attempt, -, rfl⟩ | ⟨-, reason, hrestored⟩⟩ :=
    compareSoftRepair_eq_ok h
  · exact ⟨hboth.2.merge hboth.1 _, checked_nil⟩
  · obtain ⟨plan, attempt, -, rfl⟩ := restoreSoftValues_eq_ok hrestored
    exact ⟨hboth.2, checked_nil⟩

/-- Every node keeps what holds of the candidates. -/
theorem deliveryFacts_next (hvalidator : setup.overrides.skipValidator = false)
    (h : node.execute setup world n run state = .ok (after, runAfter))
    (hfacts : DeliveryFacts state node) :
    DeliveryInvariant after (node.next setup after) := by
  have hframe := frame_of_execute h
  have hselected := (criticFrame_of_execute h).selected
  have hkeep (hnode : node ≠ .resolvePoiFacts) {candidates : List PlanCandidate}
      (hchecked : Checked state candidates) : Checked after candidates :=
    hchecked.keep hframe.trip (hframe.planningPois hnode)
  have htarget : validationTarget setup = .validateCandidates := by
    rw [validationTarget, hvalidator]
    rfl
  cases node with
  | executionBudgetGuard | buildSearchPlan | loadPois | resolvePoiFacts | buildRouteMatrix
  | buildOptimizationProblem | solveCandidateVariants =>
    exact (hframe.baseline (by decide)).1.trans hfacts
  | materializeOptimizedCandidates =>
    change DeliveryFacts after (validationTarget setup)
    rw [htarget]
    change Checked after after.softBaselineCandidates
    rw [(hframe.baseline (by decide)).1, show state.softBaselineCandidates = [] from hfacts]
    exact checked_nil
  | applyLocalRepair | loadDeltaRoutes | applySoftRepair | loadSoftDeltaRoutes
  | materializeSoftCandidate =>
    change Checked after after.softBaselineCandidates
    rw [(hframe.baseline (by decide)).1]
    exact hkeep (by decide) hfacts
  | materializeCandidates =>
    change DeliveryFacts after (validationTarget setup)
    rw [htarget]
    change Checked after after.softBaselineCandidates
    rw [(hframe.baseline (by decide)).1]
    exact hkeep (by decide) hfacts
  | collectDeltaRoutes =>
    have hbaseline : Checked after after.softBaselineCandidates := by
      rw [(hframe.baseline (by decide)).1]
      exact hkeep (by decide) hfacts
    change DeliveryFacts after (routeAfterDeltaRoutes after)
    unfold routeAfterDeltaRoutes
    split <;> exact hbaseline
  | collectSoftDeltaRoutes =>
    have hbaseline : Checked after after.softBaselineCandidates := by
      rw [(hframe.baseline (by decide)).1]
      exact hkeep (by decide) hfacts
    change DeliveryFacts after (routeAfterSoftDeltaRoutes after)
    unfold routeAfterSoftDeltaRoutes
    split <;> exact hbaseline
  | validateCandidates => exact deliveryFacts_validate (plainNode_eq_ok h) hframe hfacts
  | selectRepairTarget =>
    obtain ⟨_, _, rfl⟩ := selectRepairTarget_eq_ok (plainNode_eq_ok h)
    exact hfacts
  | analyzeViolations =>
    exact deliveryFacts_analyzeViolations (plainNode_eq_ok h) hfacts.1 hfacts.2
  | buildRepairPlan => exact deliveryFacts_createRepairPlan h hfacts.1 hfacts.2.1 hfacts.2.2
  | prepareCriticContext | softConstraintCritic =>
    change Checked after after.candidates ∧ Checked after after.softBaselineCandidates
    rw [hframe.candidates (by decide), (hframe.baseline (by decide)).1]
    exact ⟨hkeep (by decide) hfacts.1, hkeep (by decide) hfacts.2⟩
  | validateCriticEvidence =>
    have hboth : Checked after after.candidates ∧ Checked after after.softBaselineCandidates := by
      rw [hframe.candidates (by decide), (hframe.baseline (by decide)).1]
      exact ⟨hkeep (by decide) hfacts.1, hkeep (by decide) hfacts.2⟩
    change DeliveryFacts after (routeAfterGrounding after)
    unfold routeAfterGrounding
    split <;> exact hboth
  | qualityGate =>
    have hboth : Checked after after.candidates ∧ Checked after after.softBaselineCandidates := by
      rw [hframe.candidates (by decide), (hframe.baseline (by decide)).1]
      exact ⟨hkeep (by decide) hfacts.1, hkeep (by decide) hfacts.2⟩
    change DeliveryFacts after (routeAfterQualityGate after)
    unfold routeAfterQualityGate
    split
    · exact hboth
    · split <;> exact hboth
  | compileSoftRepairPlan =>
    obtain ⟨_, plan, _, _, _, rfl⟩ := compileSoftRepairPlan_eq_ok (plainNode_eq_ok h)
    cases plan with
    | none => exact ⟨hfacts.1, checked_nil⟩
    | some plan => exact hfacts.1
  | restoreSoftBaseline =>
    obtain ⟨_, _, _, rfl⟩ := restoreSoftValues_eq_ok (plainNode_eq_ok h)
    exact ⟨hfacts.2, checked_nil⟩
  | compareSoftRepair => exact checked_compareSoftRepair (plainNode_eq_ok h) hfacts
  | selectByQuality =>
    refine ⟨?_, selectsDeliverable_selectByQuality (plainNode_eq_ok h)⟩
    rw [hframe.candidates (by decide)]
    exact hkeep (by decide) hfacts.1
  | explainSelection =>
    refine ⟨?_, .inl ⟨?_, hfacts.2.keep (hframe.candidates (by decide)) (hselected (by decide))⟩⟩
    · rw [hframe.candidates (by decide)]
      exact hkeep (by decide) hfacts.1
    · obtain ⟨_, _, _, rfl⟩ := explainSelection_eq_ok (plainNode_eq_ok h)
      rfl
  | selectBest =>
    refine ⟨?_, .inl (completes_selectBest (plainNode_eq_ok h))⟩
    rw [hframe.candidates (by decide)]
    exact hkeep (by decide) hfacts.1
  | markInfeasible =>
    cases h
    exact ⟨hfacts.1, .inr ⟨rfl, rfl, hfacts.2.1, hfacts.2.2⟩⟩
  | selectUnvalidatedForEvaluation => exact hfacts.elim

end OneStep

/-! ## Runs -/

section Runs

variable {request : PlanningRequest} {position : Position}

/-- A run plans the trip of its request. -/
theorem trip_of_visits (h : Visits setup world request run position) :
    position.state.trip = request.trip :=
  reaches_preserves (motive := fun _ state => state.trip = request.trip) h rfl
    fun _ _ _ _ _ _ hexecute htrip => (frame_of_execute hexecute).trip.trans htrip

/-- Wherever a run gets, its candidates are checked. -/
theorem deliveryInvariant_of_visits (hvalidator : setup.overrides.skipValidator = false)
    (h : Visits setup world request run position) :
    DeliveryInvariant position.state position.node :=
  reaches_preserves (motive := fun node state => DeliveryInvariant state node) h rfl
    fun _ _ _ _ _ _ hexecute => deliveryFacts_next hvalidator hexecute

/-- At its end a run has delivered something or given up. -/
theorem deliveryInvariant_of_runPlanning (hvalidator : setup.overrides.skipValidator = false)
    (h : runPlanning setup world request run = .ok state) : DeliveryInvariant state none := by
  obtain ⟨position, hvisits, hend, rfl⟩ := exists_of_runPlanning h
  exact hend ▸ deliveryInvariant_of_visits hvalidator hvisits

/-- **What a run delivers.**  A run that ends leaves candidates that all carry the validation of its
own trip and places.  Either it is completed, and a candidate that is not invalid and of the best
tier is selected, or it is infeasible, nothing is selected, every candidate is invalid, and another
repair is out of the question. -/
theorem delivers_of_runPlanning (hvalidator : setup.overrides.skipValidator = false)
    (h : runPlanning setup world request run = .ok state) :
    state.trip = request.trip ∧ Checked state state.candidates ∧
      (Completes state ∨ GivesUp state) := by
  have hinvariant := deliveryInvariant_of_runPlanning hvalidator h
  obtain ⟨position, hvisits, -, rfl⟩ := exists_of_runPlanning h
  exact ⟨trip_of_visits hvisits, hinvariant⟩

omit [Platform] in
/-- The run that fills the empty day delivers a checked plan. -/
theorem delivers_of_runPlanning_emptyDay : ∃ state,
    @runPlanning plainPlatform PlanningSample.setup PlanningSample.emptyDay PlanningSample.request
      none = .ok state ∧ @Checked plainPlatform state state.candidates ∧ Completes state := by
  let := plainPlatform
  have hrun : ((runPlanning PlanningSample.setup PlanningSample.emptyDay PlanningSample.request
      none).toOption.map TravelState.status) = some "completed" := by
    decide +kernel
  obtain ⟨state, hstate, hstatus⟩ := Option.map_eq_some_iff.mp hrun
  have hdelivers := delivers_of_runPlanning rfl (eq_ok_of_mem_toOption hstate)
  refine ⟨state, eq_ok_of_mem_toOption hstate, hdelivers.2.1, hdelivers.2.2.resolve_right ?_⟩
  intro hgivesUp
  exact absurd (hstatus.symm.trans hgivesUp.status) (by decide)

end Runs

end TravelPlanAgent
