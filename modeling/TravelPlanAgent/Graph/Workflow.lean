import TravelPlanAgent.Graph.Nodes
import TravelPlanAgent.Library.Machine

/-!
# The planning graph: edges and runs

* `routeAfterValidation` to `routeAfterSoftDeltaRoutes`: the conditional edges.
* `PlanningNode.next`: the node after a node.
* `RunContext.enter`, `RunContext.recordDomainEvent`: what the instrumentation charges.
* `Position`, `planningMachine`: where a run is, and the machine that it runs on.
* `runPlanning`: a whole run, within its recursion limit.
-/

namespace TravelPlanAgent

open PlanningGraph

variable [Platform]

/-! ## Edges -/

section Routes

variable (setup : PlanningSetup) (state : TravelState)

/-- A further round of hard repair may be tried. -/
def mayRepair : Bool :=
  state.repairTerminalReason.isNone && !state.planningPois.isEmpty &&
    decide (state.iterations < state.maxReplanRounds)

/-- `route_after_validation` and `_route_after_validation_without_soft_critic`, which differ in
where a deliverable candidate goes. -/
def routeAfterValidation : PlanningNode :=
  let deliverable := deliverableCandidates state
  if state.pendingSoftReplanRound.isSome ∧ deliverable = [] then .restoreSoftBaseline
  else if deliverable ≠ [] then
    if setup.overrides.skipSoftCritic then .selectBest else .prepareCriticContext
  else if mayRepair state then .selectRepairTarget
  else .markInfeasible

/-- `route_after_critic`. -/
def routeAfterCritic : PlanningNode :=
  match state.criticReport with
  | none => .markInfeasible
  | some report => if report.repairable then .buildRepairPlan else .markInfeasible

/-- `route_after_repair_plan`. -/
def routeAfterRepairPlan : PlanningNode :=
  if state.repairPlan.isSome ∧ state.repairTerminalReason = none then .applyLocalRepair
  else .markInfeasible

/-- `route_after_delta_routes`. -/
def routeAfterDeltaRoutes : PlanningNode :=
  if state.deltaRouteQueries.isEmpty then .materializeCandidates else .loadDeltaRoutes

/-- `route_after_grounding`. -/
def routeAfterGrounding : PlanningNode :=
  if ¬state.criticGroundingErrors.isEmpty ∧
      state.criticGroundingAttempts < state.criticGroundingMaxAttempts ∧
      state.criticStatus = .invalidGrounding then .softConstraintCritic
  else .qualityGate

/-- `route_after_quality_gate`. -/
def routeAfterQualityGate : PlanningNode :=
  if state.pendingSoftReplanRound.isSome then .compareSoftRepair
  else if state.criticStatus = .success ∧ state.qualityScores.size ≠ 0 then .compileSoftRepairPlan
  else .selectByQuality

/-- `route_after_soft_repair_plan`. -/
def routeAfterSoftRepairPlan : PlanningNode :=
  if state.softRepairPlan.isSome then .applySoftRepair else .selectByQuality

/-- `route_after_soft_delta_routes`. -/
def routeAfterSoftDeltaRoutes : PlanningNode :=
  if state.deltaRouteQueries.isEmpty then .materializeSoftCandidate else .loadSoftDeltaRoutes

/-- Where materialised candidates go. -/
def validationTarget : PlanningNode :=
  if setup.overrides.skipValidator then .selectUnvalidatedForEvaluation else .validateCandidates

/-- The edges of the graph; `none` is its end. -/
def PlanningNode.next : PlanningNode → Option PlanningNode
  | executionBudgetGuard => some buildSearchPlan
  | buildSearchPlan => some loadPois
  | loadPois => some resolvePoiFacts
  | resolvePoiFacts => some buildRouteMatrix
  | buildRouteMatrix => some buildOptimizationProblem
  | buildOptimizationProblem => some solveCandidateVariants
  | solveCandidateVariants => some materializeOptimizedCandidates
  | materializeOptimizedCandidates => some (validationTarget setup)
  | materializeCandidates => some (validationTarget setup)
  | validateCandidates => some (routeAfterValidation setup state)
  | selectRepairTarget => some analyzeViolations
  | analyzeViolations => some (routeAfterCritic state)
  | buildRepairPlan => some (routeAfterRepairPlan state)
  | applyLocalRepair => some collectDeltaRoutes
  | collectDeltaRoutes => some (routeAfterDeltaRoutes state)
  | loadDeltaRoutes => some materializeCandidates
  | prepareCriticContext => some softConstraintCritic
  | softConstraintCritic => some validateCriticEvidence
  | validateCriticEvidence => some (routeAfterGrounding state)
  | qualityGate => some (routeAfterQualityGate state)
  | compileSoftRepairPlan => some (routeAfterSoftRepairPlan state)
  | applySoftRepair => some collectSoftDeltaRoutes
  | collectSoftDeltaRoutes => some (routeAfterSoftDeltaRoutes state)
  | loadSoftDeltaRoutes => some materializeSoftCandidate
  | materializeSoftCandidate => some validateCandidates
  | restoreSoftBaseline => some selectByQuality
  | compareSoftRepair => some selectByQuality
  | selectByQuality => some explainSelection
  | explainSelection => none
  | selectBest => none
  | markInfeasible => none
  | selectUnvalidatedForEvaluation => none

end Routes

/-! ## Instrumented nodes -/

section Instrumented

variable (setup : PlanningSetup) (world : PlanningWorld) (n : ℕ)

/-- The charges before a node runs. -/
def RunContext.enter (run : RunContext) (node : PlanningNode) : Result RunContext := do
  let ledger ← run.ledger.consumeGraphStep (world.elapsedMs n 0) node.isTerminal
  let ledger ← if node.isRepair then ledger.consumeRepairRound (world.elapsedMs n 1)
    else .ok ledger
  return { run with ledger }

/-- The fingerprint that the result of a node is charged with. -/
def notedFingerprint (node : PlanningNode) (state : TravelState) : Option String :=
  match node with
  | .buildRepairPlan => state.repairPlan.map RepairPlan.actionFingerprint
  | .compileSoftRepairPlan => state.softRepairPlan.map SoftRepairPlan.actionFingerprint
  | _ => none

/-- `_record_domain_event`, as far as it is charged. -/
def RunContext.recordDomainEvent (run : RunContext) (node : PlanningNode) (state : TravelState) :
    Result RunContext :=
  match notedFingerprint node state with
  | none => .ok run
  | some fingerprint =>
    if fingerprint = "" then .ok run
    else do return { run with ledger := ← run.ledger.noteActionFingerprint fingerprint }

/-- Charge the current run, when there is one. -/
def charge (run : Option RunContext) (consume : RunContext → Result RunContext) :
    Result (Option RunContext) :=
  match run with
  | none => .ok none
  | some run => (consume run).map some

variable (run : Option RunContext) (state : TravelState)

/-- A node that does not touch the run. -/
def plainNode (after : Result TravelState) : Result (TravelState × Option RunContext) :=
  after.map fun state => (state, run)

/-- `execution_budget_guard`; what it reports is not read by any node. -/
def guardBudget : Result (TravelState × Option RunContext) := do
  match run with
  | none => return (state, run)
  | some context =>
    context.ledger.ensureCanContinue (world.elapsedMs n 2)
    return (state, run)

/-- What a node does. -/
def PlanningNode.execute : PlanningNode → Result (TravelState × Option RunContext)
  | executionBudgetGuard => guardBudget world n run state
  | buildSearchPlan => PlanningGraph.buildSearchPlan setup world n run state
  | loadPois => plainNode run (PlanningGraph.loadPois setup world n state)
  | resolvePoiFacts => .ok (PlanningGraph.resolvePoiFacts setup state, run)
  | buildRouteMatrix => plainNode run (PlanningGraph.buildRouteMatrix setup world n state)
  | buildOptimizationProblem => plainNode run (PlanningGraph.buildOptimizationProblem setup state)
  | solveCandidateVariants =>
    plainNode run (PlanningGraph.solveCandidateVariants setup world state)
  | materializeOptimizedCandidates => plainNode run (materialize setup state)
  | materializeCandidates => plainNode run (materialize setup state)
  | validateCandidates => plainNode run (validate state)
  | selectRepairTarget => plainNode run (PlanningGraph.selectRepairTarget state)
  | analyzeViolations => plainNode run (PlanningGraph.analyzeViolations state)
  | buildRepairPlan => createRepairPlan setup world n run state
  | applyLocalRepair => plainNode run (PlanningGraph.applyLocalRepair setup state)
  | collectDeltaRoutes => plainNode run (PlanningGraph.collectDeltaRoutes setup state)
  | loadDeltaRoutes => plainNode run (PlanningGraph.loadDeltaRoutes world n state)
  | prepareCriticContext => plainNode run (PlanningGraph.prepareCriticContext setup state)
  | softConstraintCritic => PlanningGraph.softConstraintCritic setup world n run state
  | validateCriticEvidence => .ok (PlanningGraph.validateCriticEvidence state, run)
  | qualityGate => plainNode run (PlanningGraph.qualityGate setup state)
  | compileSoftRepairPlan => plainNode run (PlanningGraph.compileSoftRepairPlan setup state)
  | applySoftRepair => plainNode run (PlanningGraph.applySoftRepair state)
  | collectSoftDeltaRoutes => plainNode run (PlanningGraph.collectSoftDeltaRoutes setup state)
  | loadSoftDeltaRoutes => plainNode run (PlanningGraph.loadSoftDeltaRoutes world n state)
  | materializeSoftCandidate => plainNode run (materialize setup state)
  | restoreSoftBaseline => plainNode run (PlanningGraph.restoreSoftBaseline state)
  | compareSoftRepair => plainNode run (PlanningGraph.compareSoftRepair setup state)
  | selectByQuality => plainNode run (PlanningGraph.selectByQuality state)
  | explainSelection => plainNode run (PlanningGraph.explainSelection state)
  | selectBest => plainNode run (PlanningGraph.selectBest state)
  | markInfeasible => .ok (PlanningGraph.markInfeasible state, run)
  | selectUnvalidatedForEvaluation =>
    plainNode run (PlanningGraph.selectUnvalidatedForEvaluation state)

/-- `instrument_node`: a node with its charges. -/
def PlanningNode.instrumented (node : PlanningNode) : Result (TravelState × Option RunContext) := do
  let run ← charge run fun run => run.enter world n node
  let (state, run) ← node.execute setup world n run state
  let run ← charge run fun run => run.recordDomainEvent node state
  return (state, run)

end Instrumented

/-! ## Runs -/

/-- Where a run of the graph is: the next node, the state, the run and the steps so far. -/
structure Position where
  node : Option PlanningNode
  state : TravelState
  run : Option RunContext
  stepCount : ℕ

/-- One superstep: a node, the checkpoint after it and the edge that is taken. -/
def superstep (setup : PlanningSetup) (world : PlanningWorld) (position : Position)
    (node : PlanningNode) : Result Position := do
  let (state, run) ← node.instrumented setup world position.stepCount position.run position.state
  world.checkpoint position.stepCount
  return { node := node.next setup state, state, run, stepCount := position.stepCount + 1 }

/-- The machine that a run of the graph runs on. -/
def planningMachine (setup : PlanningSetup) (world : PlanningWorld) :
    Machine Position Failure where
  step position := position.node.map (superstep setup world position)

/-- The first position of a run. -/
def startPosition (request : PlanningRequest) (run : Option RunContext) : Position :=
  { node := some .executionBudgetGuard, state := initialState request, run, stepCount := 0 }

/-- `recursion_limit` of a run. -/
def planningRecursionLimit (request : PlanningRequest) : ℕ :=
  max 32 (24 + request.maxReplanRounds * 8)

/-- `run_planning`: the last state of a run, or the exception that it ends with. -/
def runPlanning (setup : PlanningSetup) (world : PlanningWorld) (request : PlanningRequest)
    (run : Option RunContext) : Result TravelState :=
  ((planningMachine setup world).run .graphRecursion (planningRecursionLimit request)
    (startPosition request run)).map Position.state

/-- A position that some run of a request gets to. -/
def Visits (setup : PlanningSetup) (world : PlanningWorld) (request : PlanningRequest)
    (run : Option RunContext) (position : Position) : Prop :=
  (planningMachine setup world).Reaches (startPosition request run) position

/-! ## Steps of the machine -/

section Steps

variable {setup : PlanningSetup} {world : PlanningWorld} {request : PlanningRequest}
  {run : Option RunContext} {before after : Position}

/-- What a successful step does. -/
theorem next_iff : (planningMachine setup world).Next before after ↔
    ∃ node, before.node = some node ∧ superstep setup world before node = .ok after := by
  rw [Machine.Next, planningMachine, Option.map_eq_some_iff]

theorem halted_iff : (planningMachine setup world).Halted before ↔ before.node = none := by
  rw [Machine.Halted, planningMachine, Option.map_eq_none_iff]

/-- A superstep runs the node with some run and follows its edge. -/
theorem superstep_eq_ok {node : PlanningNode} (h : superstep setup world before node = .ok after) :
    (∃ runBefore runAfter,
      node.execute setup world before.stepCount runBefore before.state =
        .ok (after.state, runAfter)) ∧
      after.node = node.next setup after.state ∧ after.stepCount = before.stepCount + 1 := by
  obtain ⟨⟨state, run⟩, hnode, h⟩ := bind_eq_ok h
  obtain ⟨_, _, h⟩ := bind_eq_ok h
  obtain ⟨runBefore, _, hnode⟩ := bind_eq_ok hnode
  obtain ⟨⟨state', runAfter⟩, hexecute, hnode⟩ := bind_eq_ok hnode
  obtain ⟨run', _, hnode⟩ := bind_eq_ok hnode
  cases hnode
  cases h
  exact ⟨⟨runBefore, runAfter, hexecute⟩, rfl, rfl⟩

/-- What every node keeps holds wherever a run gets from a position on. -/
theorem reaches_preserves {motive : Option PlanningNode → TravelState → Prop}
    (h : (planningMachine setup world).Reaches before after)
    (start : motive before.node before.state)
    (step : ∀ (node : PlanningNode) (n : ℕ) (runBefore runAfter : Option RunContext)
      (state updated : TravelState),
      node.execute setup world n runBefore state = .ok (updated, runAfter) →
      motive (some node) state → motive (node.next setup updated) updated) :
    motive after.node after.state := by
  refine h.preserves (motive := fun position => motive position.node position.state) start ?_
  intro b c hb hnext
  obtain ⟨node, hnode, hsuperstep⟩ := next_iff.mp hnext
  obtain ⟨⟨runBefore, runAfter, hexecute⟩, hedge, _⟩ := superstep_eq_ok hsuperstep
  rw [hnode] at hb
  rw [hedge]
  exact step node _ runBefore runAfter b.state c.state hexecute hb

omit [Platform] in
theorem plainNode_eq_ok {result : Result TravelState} {state : TravelState}
    {runAfter : Option RunContext} (h : plainNode run result = .ok (state, runAfter)) :
    result = .ok state := by
  cases result with
  | error => cases h
  | ok => cases h; rfl

/-- A run that ends well ends in a reachable position without a next node. -/
theorem exists_of_runPlanning {state : TravelState}
    (h : runPlanning setup world request run = .ok state) :
    ∃ position, Visits setup world request run position ∧ position.node = none ∧
      position.state = state := by
  rw [runPlanning] at h
  cases hrun : (planningMachine setup world).run .graphRecursion (planningRecursionLimit request)
      (startPosition request run) with
  | error => rw [hrun] at h; cases h
  | ok position =>
    rw [hrun] at h
    obtain ⟨hreaches, hhalted⟩ := Machine.reaches_of_run hrun
    exact ⟨position, hreaches, halted_iff.mp hhalted, Except.ok.inj h⟩

/-- A run that ends well gets from every position on its way to its end. -/
theorem exists_end_of_visits {state : TravelState}
    (h : runPlanning setup world request run = .ok state)
    (hvisits : Visits setup world request run before) :
    ∃ last, (planningMachine setup world).Reaches before last ∧ last.node = none ∧
      last.state = state := by
  obtain ⟨last, hlast, hend, hstate⟩ := exists_of_runPlanning h
  obtain hreaches | hback := hvisits.total hlast
  · exact ⟨last, hreaches, hend, hstate⟩
  · obtain rfl | ⟨next, hnext, -⟩ := hback.head
    · exact ⟨last, .refl last, hend, hstate⟩
    · obtain ⟨node, hnode, -⟩ := next_iff.mp hnext
      rw [hend] at hnode
      cases hnode

/-- A run that ends well goes on from every position that has a node. -/
theorem exists_superstep {state : TravelState} {node : PlanningNode}
    (h : runPlanning setup world request run = .ok state)
    (hvisits : Visits setup world request run before) (hnode : before.node = some node) :
    ∃ next, superstep setup world before node = .ok next := by
  obtain ⟨last, hreaches, hend, -⟩ := exists_end_of_visits h hvisits
  obtain rfl | ⟨next, hnext, -⟩ := hreaches.head
  · rw [hend] at hnode
    cases hnode
  · obtain ⟨node', hnode', hstep⟩ := next_iff.mp hnext
    obtain rfl := Option.some.inj (hnode.symm.trans hnode')
    exact ⟨next, hstep⟩

end Steps

end TravelPlanAgent
