import TravelPlanAgent.Graph.HardLoop
import TravelPlanAgent.Library.Outcomes

/-!
# Specialists refine the single graph

In the multi-agent modes three nodes hand their work to a specialist, who refuses what exceeds his
limits.  Otherwise the graph is the same.

* `SameLedger`: runs that differ in the hand-offs that are on record.
* `HandsOffWithin`: the hand-off of a node is within the limits of the executor.
* `execute_within`, `execute_refused`: a node with specialists next to one without.
* `completes_iff_singleGraph`: the runs with specialists that complete.
-/

namespace TravelPlanAgent

open Calendar Selection PlanningGraph

/-! ## Hand-offs -/

section Handoffs

universe u v

/-- The failures by which a hand-off is refused. -/
inductive Refusal : Failure → Prop where
  | rejected (code : String) : Refusal (.specialistRejected code)
  | timeout : Refusal .specialistTimeout

/-- A hand-off that is not within its limits is refused. -/
theorem invoke_of_not_within {α : Type u} {ε : Type v} {executor : SpecialistExecutor}
    {refuse : Failure → ε} {run : Option RunContext} {terms : HandoffTerms}
    {outputCharacters : α → ℕ} {operation : Except ε α}
    (h : ¬executor.Within run terms outputCharacters operation) :
    ∃ failure, Refusal failure ∧
      (executor.invoke refuse run terms outputCharacters operation).1 =
        .error (refuse failure) := by
  unfold SpecialistExecutor.invoke
  by_cases hcontext : executor.defaultBudget.maxContextCharacters < terms.contextCharacters
  · rw [if_pos hcontext]
    exact ⟨_, .rejected _, rfl⟩
  rw [if_neg hcontext]
  by_cases hhandoffs : run.isSome ∧ executor.maxHandoffs ≤ recordedHandoffs run
  · rw [if_pos hhandoffs]
    exact ⟨_, .rejected _, rfl⟩
  rw [if_neg hhandoffs]
  dsimp only
  by_cases htime : terms.timesOut = true
  · rw [if_pos htime]
    exact ⟨_, .timeout, rfl⟩
  rw [if_neg htime]
  cases hoperation : operation with
  | error e =>
    refine absurd ⟨not_lt.mp hcontext, fun hsome => ?_, Bool.eq_false_iff.mpr htime, ?_⟩ h
    · exact not_le.mp fun hle => hhandoffs ⟨hsome, hle⟩
    · intro a ha
      rw [hoperation] at ha
      cases ha
  | ok a =>
    dsimp only
    by_cases houtput : executor.defaultBudget.maxOutputCharacters < outputCharacters a
    · rw [if_pos houtput]
      exact ⟨_, .rejected _, rfl⟩
    · refine absurd ⟨not_lt.mp hcontext, fun hsome => ?_, Bool.eq_false_iff.mpr htime, ?_⟩ h
      · exact not_le.mp fun hle => hhandoffs ⟨hsome, hle⟩
      · intro b hb
        obtain rfl := Except.ok.inj (hoperation.symm.trans hb)
        exact not_lt.mp houtput

/-- Two runs that differ in the hand-offs that are on record. -/
def SameLedger (run run' : Option RunContext) : Prop :=
  run.map RunContext.ledger = run'.map RunContext.ledger

theorem SameLedger.handoffStarted {run run' : Option RunContext} (h : SameLedger run run')
    (terms : HandoffTerms) : SameLedger (run.map fun run => run.handoffStarted terms) run' := by
  rw [SameLedger, Option.map_map]
  exact h

end Handoffs

variable {setup : PlanningSetup} {world : PlanningWorld} {n : ℕ} {run run' : Option RunContext}
  {state after : TravelState} {node : PlanningNode}

/-- The setup without specialists. -/
def PlanningSetup.single (setup : PlanningSetup) : PlanningSetup :=
  { setup with agentMode := .singleGraph }

section Delegates

variable {α ε : Type} {refuse : Failure → ε} {work : HandoffWork} {characters : α → ℕ}
  {operation : Except ε α}

theorem delegate_within (hmode : setup.agentMode ≠ .singleGraph)
    (h : setup.specialists.Within run (world.handoffTerms n work) characters operation) :
    delegate setup world n run refuse work characters operation =
      (operation, run.map fun run => run.handoffStarted (world.handoffTerms n work)) := by
  rw [delegate, if_neg hmode, SpecialistExecutor.invoke_of_within h]

theorem delegate_refused (refuse : Failure → ε) (hmode : setup.agentMode ≠ .singleGraph)
    (h : ¬setup.specialists.Within run (world.handoffTerms n work) characters operation) :
    ∃ failure, Refusal failure ∧
      (delegate setup world n run refuse work characters operation).1 =
        .error (refuse failure) := by
  rw [delegate, if_neg hmode]
  exact invoke_of_not_within h

theorem delegate_single : delegate setup.single world n run refuse work characters operation =
    (operation, run) := by
  rw [delegate, if_pos (show setup.single.agentMode = .singleGraph from rfl)]

end Delegates

/-! ## Nodes -/

variable [Platform]

/-- The hand-off of a node, if it makes one, is within the limits of the executor. -/
def HandsOffWithin (setup : PlanningSetup) (world : PlanningWorld) (n : ℕ)
    (run : Option RunContext) (state : TravelState) : PlanningNode → Prop
  | .buildSearchPlan =>
    let limit := setup.policy.poiQueryLimit
    let maxQueries := setup.policy.poiMaxQueries
    setup.specialists.Within run (world.handoffTerms n (.plan state.trip limit maxQueries))
      world.queriesCharacters (createSearchPlan state.trip limit maxQueries)
  | .buildRepairPlan => ∀ candidate draft report, repairTarget state = .ok (candidate, draft) →
    state.criticReport = some report →
    setup.specialists.Within (ε := Failure) run
      (world.handoffTerms n (.hardRepair state.trip candidate draft state.planningPois report
        (state.iterations + 1) (state.repairHistory.map RepairAttempt.actionFingerprint)))
      world.repairCharacters (.ok (buildRepairPlan state.trip candidate draft state.planningPois
        report (state.iterations + 1)))
  | .softConstraintCritic => ∀ request, setup.critic.isSome →
    SoftCriticRequest.create state.criticEvidenceDigests state.criticGroundingErrors =
      .ok request →
    setup.specialists.Within run
      (world.handoffTerms n (.softCritique request
        (state.criticEvidenceDigests.map CandidateEvidenceDigest.candidateId)))
      world.critiqueCharacters (world.critique n request (state.criticGroundingAttempts + 1))
  | _ => True

/-- Two results of nodes agree up to the hand-offs on record. -/
def SameUpdate : TravelState × Option RunContext → TravelState × Option RunContext → Prop :=
  fun update update' => update.1 = update'.1 ∧ SameLedger update.2 update'.2

omit [Platform] in
theorem sameUpdate_plainNode (hledger : SameLedger run run') (result : Result TravelState) :
    SameOutcome SameUpdate (plainNode run result) (plainNode run' result) := by
  cases result with
  | error failure => exact .error failure
  | ok state => exact .ok ⟨rfl, hledger⟩

omit [Platform] in
theorem sameUpdate_guardBudget (hledger : SameLedger run run') :
    SameOutcome SameUpdate (guardBudget world n run state) (guardBudget world n run' state) := by
  cases run with
  | none =>
    cases run' with
    | none => exact .ok ⟨rfl, rfl⟩
    | some run' => cases hledger
  | some run =>
    cases run' with
    | none => cases hledger
    | some run' =>
      have hsame : run.ledger = run'.ledger := Option.some.inj hledger
      unfold guardBudget
      dsimp only
      rw [← hsame]
      cases run.ledger.ensureCanContinue (world.elapsedMs n 2) with
      | error failure => exact .error failure
      | ok _ => exact .ok ⟨rfl, hledger⟩

/-- A node whose hand-off is within its limits does what it does without specialists. -/
theorem execute_within (hmode : setup.agentMode ≠ .singleGraph)
    (h : HandsOffWithin setup world n run state node) (hledger : SameLedger run run') :
    SameOutcome SameUpdate (node.execute setup world n run state)
      (node.execute setup.single world n run' state) := by
  cases node with
  | executionBudgetGuard => exact sameUpdate_guardBudget hledger
  | buildSearchPlan =>
    change SameOutcome SameUpdate (PlanningGraph.buildSearchPlan setup world n run state)
      (PlanningGraph.buildSearchPlan setup.single world n run' state)
    unfold PlanningGraph.buildSearchPlan
    dsimp only
    rw [delegate_within hmode h, delegate_single]
    refine SameOutcome.bind (SameOutcome.of_eq rfl) fun queries queries' hqueries => ?_
    subst hqueries
    exact .ok ⟨rfl, hledger.handoffStarted _⟩
  | buildRepairPlan =>
    change SameOutcome SameUpdate (createRepairPlan setup world n run state)
      (createRepairPlan setup.single world n run' state)
    unfold createRepairPlan
    cases htarget : repairTarget state with
    | error failure => exact .error failure
    | ok target =>
      obtain ⟨candidate, draft⟩ := target
      cases hreport : state.criticReport with
      | none => exact .error _
      | some report =>
        have hwithin := h candidate draft report htarget hreport
        dsimp only [bind, Except.bind, orRaise]
        rw [delegate_within hmode hwithin, delegate_single]
        exact .ok ⟨rfl, hledger.handoffStarted _⟩
  | softConstraintCritic =>
    change SameOutcome SameUpdate (PlanningGraph.softConstraintCritic setup world n run state)
      (PlanningGraph.softConstraintCritic setup.single world n run' state)
    unfold PlanningGraph.softConstraintCritic
    rw [show setup.single.critic = setup.critic from rfl]
    cases hcritic : setup.critic with
    | none => exact .ok ⟨rfl, hledger⟩
    | some labels =>
      dsimp only
      cases hrequest : SoftCriticRequest.create state.criticEvidenceDigests
          state.criticGroundingErrors with
      | error failure => exact .error failure
      | ok request =>
        have hwithin := h request (hcritic ▸ rfl) hrequest
        dsimp only [bind, Except.bind]
        rw [delegate_within hmode hwithin, delegate_single]
        refine SameOutcome.bind (SameOutcome.of_eq rfl) fun answered answered' hanswered => ?_
        subst hanswered
        exact .ok ⟨rfl, hledger.handoffStarted _⟩
  | resolvePoiFacts | validateCriticEvidence | markInfeasible => exact .ok ⟨rfl, hledger⟩
  | _ => exact sameUpdate_plainNode hledger _

/-- A node whose hand-off exceeds a limit fails with a refusal. -/
theorem execute_refused (hmode : setup.agentMode ≠ .singleGraph)
    (h : ¬HandsOffWithin setup world n run state node) :
    ∃ failure, Refusal failure ∧ node.execute setup world n run state = .error failure := by
  cases node with
  | buildSearchPlan =>
    obtain ⟨failure, hrefusal, hrefused⟩ := delegate_refused id hmode h
    refine ⟨failure, hrefusal, ?_⟩
    change PlanningGraph.buildSearchPlan setup world n run state = _
    unfold PlanningGraph.buildSearchPlan
    dsimp only
    rw [hrefused]
    rfl
  | buildRepairPlan =>
    simp only [HandsOffWithin, not_forall] at h
    obtain ⟨candidate, draft, report, htarget, hreport, hnot⟩ := h
    obtain ⟨failure, hrefusal, hrefused⟩ := delegate_refused id hmode hnot
    refine ⟨failure, hrefusal, ?_⟩
    change createRepairPlan setup world n run state = _
    unfold createRepairPlan
    rw [htarget, hreport]
    dsimp only [bind, Except.bind, orRaise]
    rw [hrefused]
    rfl
  | softConstraintCritic =>
    simp only [HandsOffWithin, not_forall] at h
    obtain ⟨request, hcritic, hrequest, hnot⟩ := h
    obtain ⟨labels, hlabels⟩ := Option.isSome_iff_exists.mp hcritic
    obtain ⟨failure, hrefusal, hrefused⟩ :=
      delegate_refused CriticException.raised hmode hnot
    refine ⟨failure, hrefusal, ?_⟩
    change PlanningGraph.softConstraintCritic setup world n run state = _
    unfold PlanningGraph.softConstraintCritic
    rw [hlabels]
    dsimp only
    rw [hrequest]
    dsimp only [bind, Except.bind]
    rw [hrefused]
    -- A refusal is none of the failures that the node catches.
    cases hrefusal with
    | rejected code => rfl
    | timeout => rfl
  | _ => exact absurd trivial h

/-! ## Charges -/

section Charges

omit [Platform]

/-- A charge that depends on the ledger only. -/
def ChargesLedger (consume : RunContext → Result RunContext) : Prop :=
  ∀ run run' : RunContext, run.ledger = run'.ledger →
    SameOutcome (fun after after' => after.ledger = after'.ledger ∧
      after.handoffsStarted = run.handoffsStarted) (consume run) (consume run')

theorem chargesLedger_enter (world : PlanningWorld) (n : ℕ) (node : PlanningNode) :
    ChargesLedger fun run => run.enter world n node := by
  intro run run' hledger
  unfold RunContext.enter
  beta_reduce
  rw [← hledger]
  refine SameOutcome.bind (SameOutcome.of_eq rfl) fun ledger ledger' hstep => ?_
  subst hstep
  dsimp only
  by_cases hrepair : node.isRepair = true
  · rw [if_pos hrepair, if_pos hrepair]
    refine SameOutcome.bind (SameOutcome.of_eq rfl) fun after after' hround => ?_
    subst hround
    exact .ok ⟨rfl, rfl⟩
  · rw [if_neg hrepair, if_neg hrepair]
    exact .ok ⟨rfl, rfl⟩

theorem chargesLedger_recordDomainEvent :
    ChargesLedger fun run => run.recordDomainEvent node state := by
  intro run run' hledger
  unfold RunContext.recordDomainEvent
  beta_reduce
  rw [← hledger]
  cases notedFingerprint node state with
  | none => exact .ok ⟨hledger, rfl⟩
  | some fingerprint =>
    dsimp only
    by_cases hempty : fingerprint = ""
    · rw [if_pos hempty, if_pos hempty]
      exact .ok ⟨hledger, rfl⟩
    · rw [if_neg hempty, if_neg hempty]
      refine SameOutcome.bind (SameOutcome.of_eq rfl) fun after after' hnoted => ?_
      subst hnoted
      exact .ok ⟨rfl, rfl⟩

theorem sameOutcome_charge {consume : RunContext → Result RunContext}
    (h : ChargesLedger consume) (hledger : SameLedger run run') :
    SameOutcome (fun after after' => SameLedger after after' ∧
      after.map RunContext.handoffsStarted = run.map RunContext.handoffsStarted)
      (charge run consume) (charge run' consume) := by
  cases run with
  | none =>
    cases run' with
    | none => exact .ok ⟨rfl, rfl⟩
    | some run' => cases hledger
  | some run =>
    cases run' with
    | none => cases hledger
    | some run' =>
      refine SameOutcome.map (h run run' (Option.some.inj hledger)) fun after after' hafter => ?_
      exact ⟨congrArg some hafter.1, congrArg some hafter.2⟩

end Charges

/-- Only the hand-offs on record matter. -/
theorem handsOffWithin_congr
    (hcount : run'.map RunContext.handoffsStarted = run.map RunContext.handoffsStarted)
    (h : HandsOffWithin setup world n run state node) :
    HandsOffWithin setup world n run' state node := by
  have hwithin {α ε : Type} {terms : HandoffTerms} {characters : α → ℕ} {operation : Except ε α}
      (h : setup.specialists.Within run terms characters operation) :
      setup.specialists.Within run' terms characters operation := by
    refine ⟨h.context_le, fun hsome => ?_, h.inTime, h.output_le⟩
    have hlt := h.handoffs_lt
    cases run with
    | none =>
      cases run' with
      | none => cases hsome
      | some run' => cases hcount
    | some run =>
      cases run' with
      | none => cases hsome
      | some run' =>
        have hsame : run'.handoffsStarted = run.handoffsStarted := Option.some.inj hcount
        rw [recordedHandoffs, hsame]
        exact hlt rfl
  cases node with
  | buildSearchPlan => exact hwithin h
  | buildRepairPlan =>
    exact fun candidate draft report htarget hreport =>
      hwithin (h candidate draft report htarget hreport)
  | softConstraintCritic =>
    exact fun request hcritic hrequest => hwithin (h request hcritic hrequest)
  | _ => exact trivial

/-! ## Steps -/

/-- Two runs of the graph are at the same place. -/
structure SamePlace (position position' : Position) : Prop where
  node : position.node = position'.node
  state : position.state = position'.state
  ledger : SameLedger position.run position'.run
  stepCount : position.stepCount = position'.stepCount

omit [Platform] in
theorem next_single : node.next setup.single state = node.next setup state := by
  cases node <;> rfl

section Supersteps

variable {position position' : Position}

/-- A hand-off within its limits leads to the same place. -/
theorem superstep_within (hmode : setup.agentMode ≠ .singleGraph)
    (hsame : SamePlace position position')
    (h : HandsOffWithin setup world position.stepCount position.run position.state node) :
    SameOutcome SamePlace (superstep setup world position node)
      (superstep setup.single world position' node) := by
  obtain ⟨-, hstate, hledger, hcount⟩ := hsame
  have hinstrumented : SameOutcome SameUpdate
      (node.instrumented setup world position.stepCount position.run position.state)
      (node.instrumented setup.single world position'.stepCount position'.run position'.state) := by
    rw [← hstate, ← hcount]
    have hentering := sameOutcome_charge (chargesLedger_enter world position.stepCount node) hledger
    refine SameOutcome.bind hentering fun entered entered' hentered => ?_
    refine SameOutcome.bind (execute_within hmode (handsOffWithin_congr hentered.2 h) hentered.1)
      fun update update' hupdate => ?_
    obtain ⟨updated, updatedRun⟩ := update
    obtain ⟨updated', updatedRun'⟩ := update'
    obtain ⟨rfl, hrun⟩ := hupdate
    refine SameOutcome.bind (sameOutcome_charge chargesLedger_recordDomainEvent hrun)
      fun recorded recorded' hrecorded => ?_
    exact .ok ⟨rfl, hrecorded.1⟩
  refine SameOutcome.bind hinstrumented fun update update' hupdate => ?_
  obtain ⟨updated, updatedRun⟩ := update
  obtain ⟨updated', updatedRun'⟩ := update'
  obtain ⟨rfl, hrun⟩ := hupdate
  dsimp only
  rw [← hcount]
  refine SameOutcome.bind (SameOutcome.of_eq rfl) fun stored stored' _ => ?_
  exact .ok ⟨next_single.symm, rfl, hrun, by rw [hcount]⟩

/-- A hand-off beyond its limits fails with a refusal where the single graph goes on. -/
theorem superstep_refused (hmode : setup.agentMode ≠ .singleGraph)
    (hsame : SamePlace position position')
    (h : ¬HandsOffWithin setup world position.stepCount position.run position.state node)
    {next : Position} (hok : superstep setup.single world position' node = .ok next) :
    ∃ failure, Refusal failure ∧ superstep setup world position node = .error failure := by
  obtain ⟨-, hstate, hledger, hcount⟩ := hsame
  obtain ⟨_, hinstrumented, -⟩ := bind_eq_ok hok
  obtain ⟨entered', hentered', -⟩ := bind_eq_ok hinstrumented
  have hcharge := sameOutcome_charge (chargesLedger_enter world position.stepCount node) hledger
  rw [hcount, hentered'] at hcharge
  obtain ⟨entered, hentered, -, hhandoffs⟩ := hcharge.exists_of_ok_right
  obtain ⟨failure, hrefusal, hrefused⟩ := execute_refused hmode
    (fun hwithin => h (handsOffWithin_congr hhandoffs.symm hwithin))
  refine ⟨failure, hrefusal, ?_⟩
  rw [superstep, PlanningNode.instrumented, hcount, hentered]
  dsimp only [bind, Except.bind]
  rw [← hcount, hrefused]

/-- A step that succeeds is within its limits. -/
theorem within_of_superstep (hmode : setup.agentMode ≠ .singleGraph) {next : Position}
    (h : superstep setup world position node = .ok next) :
    HandsOffWithin setup world position.stepCount position.run position.state node := by
  obtain ⟨_, hinstrumented, -⟩ := bind_eq_ok h
  obtain ⟨entered, hentered, hinstrumented⟩ := bind_eq_ok hinstrumented
  obtain ⟨_, hexecute, -⟩ := bind_eq_ok hinstrumented
  have hcharge := sameOutcome_charge (chargesLedger_enter world position.stepCount node)
    (show SameLedger position.run position.run from rfl)
  rw [hentered] at hcharge
  obtain ⟨_, -, -, hhandoffs⟩ := hcharge.exists_of_ok
  by_contra hnot
  obtain ⟨failure, -, hrefused⟩ := execute_refused hmode
    (fun hwithin => hnot (handsOffWithin_congr hhandoffs.symm hwithin))
  rw [hrefused] at hexecute
  cases hexecute

end Supersteps

/-! ## Runs -/

section Runs

variable {request : PlanningRequest}

omit [Platform] in
theorem samePlace_start : SamePlace (startPosition request run) (startPosition request run) :=
  ⟨rfl, rfl, rfl, rfl⟩

/-- The graph without specialists does what the graph with specialists does. -/
theorem follows_single (hmode : setup.agentMode ≠ .singleGraph) :
    (planningMachine setup world).Follows (planningMachine setup.single world) SamePlace where
  halted hsame hhalted := halted_iff.mpr (hsame.node.symm.trans (halted_iff.mp hhalted))
  next hsame hnext := by
    obtain ⟨node, hnode, hstep⟩ := next_iff.mp hnext
    have hboth := superstep_within hmode hsame (within_of_superstep hmode hstep)
    rw [hstep] at hboth
    obtain ⟨next, hnext, hrelated⟩ := hboth.exists_of_ok
    exact ⟨next, next_iff.mpr ⟨node, hsame.node.symm.trans hnode, hnext⟩, hrelated⟩

/-- A position where a hand-off is refused. -/
def RefusedAt (setup : PlanningSetup) (world : PlanningWorld) (position : Position)
    (failure : Failure) : Prop :=
  Refusal failure ∧ ∃ node, position.node = some node ∧
    ¬HandsOffWithin setup world position.stepCount position.run position.state node

/-- The graph with specialists does what the graph without them does, unless it is refused a
hand-off. -/
theorem single_followsOrFails (hmode : setup.agentMode ≠ .singleGraph) :
    (planningMachine setup.single world).FollowsOrFails (planningMachine setup world)
      (fun position' position => SamePlace position position') (RefusedAt setup world) where
  halted hsame hhalted := halted_iff.mpr (hsame.node.trans (halted_iff.mp hhalted))
  next {before' after' before} hsame hnext := by
    obtain ⟨node, hnode, hstep⟩ := next_iff.mp hnext
    have hnode' := hsame.node.trans hnode
    by_cases hwithin :
        HandsOffWithin setup world before.stepCount before.run before.state node
    · have hboth := superstep_within hmode hsame hwithin
      rw [hstep] at hboth
      obtain ⟨next, hnext, hrelated⟩ := hboth.exists_of_ok_right
      exact .inl ⟨next, next_iff.mpr ⟨node, hnode', hnext⟩, hrelated⟩
    · obtain ⟨failure, hrefusal, hrefused⟩ := superstep_refused hmode hsame hwithin hstep
      refine .inr ⟨failure, ?_, hrefusal, node, hnode', hwithin⟩
      change before.node.map (superstep setup world before) = some (.error failure)
      rw [hnode', Option.map_some, hrefused]

/-- **Specialists refine the single graph.**  A run with specialists completes in a state if and
only if the run without them does and every hand-off on the way is within the limits of the
executor.  A run with specialists that fails where the run without them completes fails because a
hand-off is refused. -/
theorem completes_iff_singleGraph (hmode : setup.agentMode ≠ .singleGraph) :
    (runPlanning setup world request run = .ok state ↔
      runPlanning setup.single world request run = .ok state ∧
        ∀ position node, Visits setup world request run position → position.node = some node →
          HandsOffWithin setup world position.stepCount position.run position.state node) ∧
    ∀ failure, runPlanning setup.single world request run = .ok state →
      runPlanning setup world request run = .error failure →
        ∃ position, Visits setup world request run position ∧
          RefusedAt setup world position failure := by
  have hback (hsingle : runPlanning setup.single world request run = .ok state) :
      runPlanning setup world request run = .ok state ∨
        ∃ position failure, Visits setup world request run position ∧
          RefusedAt setup world position failure ∧
          runPlanning setup world request run = .error failure := by
    cases hrun : (planningMachine setup.single world).run .graphRecursion
        (planningRecursionLimit request) (startPosition request run) with
    | error failure =>
      rw [runPlanning, hrun] at hsingle
      cases hsingle
    | ok position' =>
      rw [runPlanning, hrun] at hsingle
      obtain rfl := Except.ok.inj hsingle
      obtain ⟨position, hposition, hsame⟩ | ⟨position, failure, hreaches, hrefused, herror⟩ :=
        (single_followsOrFails hmode).run_eq samePlace_start hrun
      · rw [runPlanning, hposition]
        exact .inl (congrArg Except.ok hsame.state)
      · refine .inr ⟨position, failure, hreaches, hrefused, ?_⟩
        rw [runPlanning, herror]
        rfl
  refine ⟨⟨fun hrun => ⟨?_, fun position node hvisits hnode => ?_⟩, fun hsingle => ?_⟩,
    fun failure hsingle hfails => ?_⟩
  · cases hmachine : (planningMachine setup world).run .graphRecursion
        (planningRecursionLimit request) (startPosition request run) with
    | error failure =>
      rw [runPlanning, hmachine] at hrun
      cases hrun
    | ok position =>
      rw [runPlanning, hmachine] at hrun
      obtain rfl := Except.ok.inj hrun
      obtain ⟨position', hposition, hsame⟩ :=
        (follows_single hmode).run_eq_ok samePlace_start hmachine
      rw [runPlanning, hposition]
      exact congrArg Except.ok hsame.state.symm
  · obtain ⟨next, hstep⟩ := exists_superstep hrun hvisits hnode
    exact within_of_superstep hmode hstep
  · obtain hrun | ⟨position, failure, hvisits, ⟨-, node, hnode, hnot⟩, -⟩ := hback hsingle.1
    · exact hrun
    · exact absurd (hsingle.2 position node hvisits hnode) hnot
  · obtain hrun | ⟨position, failure', hvisits, hrefused, herror⟩ := hback hsingle
    · rw [hrun] at hfails
      cases hfails
    · obtain rfl := Except.error.inj (herror.symm.trans hfails)
      exact ⟨position, hvisits, hrefused⟩

omit [Platform] in
/-- The empty day is filled with specialists as without. -/
theorem completes_iff_singleGraph_emptyDay : ∃ state,
    @runPlanning plainPlatform { PlanningSample.setup with agentMode := .specialistSubagents }
      PlanningSample.emptyDay PlanningSample.request none = .ok state ∧
    @runPlanning plainPlatform PlanningSample.setup PlanningSample.emptyDay PlanningSample.request
      none = .ok state := by
  let := plainPlatform
  have hrun : ((runPlanning { PlanningSample.setup with agentMode := .specialistSubagents }
      PlanningSample.emptyDay PlanningSample.request none).toOption.map TravelState.status) =
      some "completed" := by
    decide +kernel
  obtain ⟨state, hstate, -⟩ := Option.map_eq_some_iff.mp hrun
  have hok := eq_ok_of_mem_toOption hstate
  have hmode : AgentMode.specialistSubagents ≠ .singleGraph := AgentMode.noConfusion
  exact ⟨state, hok, ((completes_iff_singleGraph hmode).1.mp hok).1⟩

end Runs

end TravelPlanAgent
