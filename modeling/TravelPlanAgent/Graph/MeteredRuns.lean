import TravelPlanAgent.Execution.Budget
import TravelPlanAgent.Graph.Workflow

/-!
# The graph is charged to the ledger of its run

A graph knows a few fields of the ledger and charges it in four ways.  What it sees is always a part
of the ledger of the run after some calls, so whatever the budget promises about such calls holds
while a graph runs.

* `RunLedger.toExecutionLedger`: the part of a ledger that a graph sees.
* `Granted`: a charge of a graph does what an operation of the ledger does.
* `granted_consumeGraphStep`, `granted_consumeRepairRound`, `granted_noteActionFingerprint`,
  `granted_ensureCanContinue`: the charges of the planning graph.
* `Counted`, `counted_superstep`: the ledger of a graph comes from calls of the ledger.
* `counted_of_visits`, `withinBudget_of_visits`: every position of a run.
-/

namespace TravelPlanAgent

open PlanningGraph Selection

/-! ## Two views of a ledger -/

/-- The part of a ledger that the nodes of a graph are charged to. -/
def RunLedger.toExecutionLedger (ledger : RunLedger) : ExecutionLedger :=
  { budget := ledger.budget.toExecutionBudget, graphSteps := ledger.values .graphSteps
    repairRounds := ledger.values .repairRounds
    lastActionFingerprint := ledger.lastActionFingerprint
    repeatedFingerprintCount := ledger.repeatedFingerprintCount }

/-- A charge of a graph succeeds when the operation on the ledger does, and leaves what the graph
sees of the ledger after it. -/
def Granted (ledger : RunLedger) (operation : Metered Unit) (charged : Result ExecutionLedger) :
    Prop :=
  charged.toOption = match operation.outcome ledger with
    | (.ok _, after) => some after.toExecutionLedger
    | (.error _, _) => none

section Charges

variable {ledger : RunLedger} {clock : ClockReadings} {elapsedMs : ℕ}

/-- The deadline has passed for a graph when it has passed for the ledger. -/
theorem remainingSeconds_eq (h : (ledger.elapsedMs clock.now).toNat = elapsedMs) :
    ledger.toExecutionLedger.remainingSeconds elapsedMs =
      if ledger.Passed clock.now then .error .executionBudgetExceeded else .ok () := by
  have hnonneg : 0 ≤ ledger.elapsedMs clock.now := le_max_left _ _
  have hopen : elapsedMs < ledger.budget.deadlineMs ↔ ¬ ledger.Passed clock.now := by
    change _ ↔ ¬ _ ≤ _
    omega
  change (if elapsedMs < ledger.budget.deadlineMs then _ else _) = _
  by_cases hpassed : ledger.Passed clock.now
  · rw [if_pos hpassed, if_neg fun hlt => hopen.mp hlt hpassed]
  · rw [if_neg hpassed, if_pos (hopen.mpr hpassed)]

/-- One more of a counter that a graph sees. -/
theorem granted_consume (h : (ledger.elapsedMs clock.now).toNat = elapsedMs) {key : UsageKey}
    {maximum : LedgerBudget → ℕ} (limit : String) {used most : ℕ} {next : ExecutionLedger}
    (hused : ledger.values key = used) (hmost : maximum ledger.budget = most)
    (hnext : (ledger.setValue key (used + 1)).toExecutionLedger = next) :
    Granted ledger (Metered.consume clock key 1 maximum limit) (do
      ledger.toExecutionLedger.remainingSeconds elapsedMs
      require (used + 1 ≤ most) .executionBudgetExceeded
      return next) := by
  subst hused hmost hnext
  unfold Granted Metered.consume
  rw [remainingSeconds_eq h]
  rcases Metered.outcome_look ledger clock _ with ⟨error, hpassed, hread⟩ | ⟨_, hopen, hread⟩
  · rw [hread, if_pos hpassed]
    rfl
  · rw [hread, if_neg hopen]
    simp only [Metered.outcome_bind, Metered.outcome_get, Metered.outcome_ite,
      Metered.outcome_throw, Metered.outcome_set]
    by_cases hroom : ledger.values key + 1 ≤ maximum ledger.budget
    · rw [if_neg (not_lt.mpr hroom), require, if_pos hroom]
      rfl
    · rw [if_pos (not_le.mp hroom), require, if_neg hroom]
      rfl

variable (clock) in
theorem granted_consumeGraphStep (h : (ledger.elapsedMs clock.now).toNat = elapsedMs)
    (terminal : Bool) : Granted ledger (Metered.consumeGraphStep clock terminal)
      (ledger.toExecutionLedger.consumeGraphStep elapsedMs terminal) :=
  granted_consume h "max_graph_steps" rfl rfl rfl

variable (clock) in
theorem granted_consumeRepairRound (h : (ledger.elapsedMs clock.now).toNat = elapsedMs) :
    Granted ledger (Metered.consumeRepairRound clock)
      (ledger.toExecutionLedger.consumeRepairRound elapsedMs) :=
  granted_consume h "max_repair_rounds" rfl rfl rfl

theorem granted_noteActionFingerprint (ledger : RunLedger) (fingerprint : String) :
    Granted ledger (Metered.noteActionFingerprint fingerprint)
      (ledger.toExecutionLedger.noteActionFingerprint fingerprint) := by
  unfold Granted Metered.noteActionFingerprint ExecutionLedger.noteActionFingerprint
  simp only [Metered.outcome_bind, Metered.outcome_modify, Metered.outcome_get,
    Metered.outcome_ite, Metered.outcome_throw]
  have hlast : ledger.toExecutionLedger.lastActionFingerprint = ledger.lastActionFingerprint := rfl
  have hcount : ledger.toExecutionLedger.repeatedFingerprintCount =
    ledger.repeatedFingerprintCount := rfl
  have hmost : ledger.toExecutionLedger.budget.maxRepeatedFingerprintCount =
    ledger.budget.maxRepeatedFingerprintCount := rfl
  rw [hlast, hcount, hmost]
  by_cases hrepeated : ledger.lastActionFingerprint = some fingerprint
  · rw [if_pos hrepeated, if_pos hrepeated, require]
    dsimp only
    by_cases hroom : ledger.repeatedFingerprintCount + 1 ≤
        ledger.budget.maxRepeatedFingerprintCount
    · rw [if_pos hroom, if_neg (not_lt.mpr hroom)]
      rw [← hrepeated]
      rfl
    · rw [if_neg hroom, if_pos (not_le.mp hroom)]
      rfl
  · rw [if_neg hrepeated, if_neg hrepeated, require]
    dsimp only
    by_cases hroom : 1 ≤ ledger.budget.maxRepeatedFingerprintCount
    · rw [if_pos hroom, if_neg (not_lt.mpr hroom)]
      rfl
    · rw [if_neg hroom, if_pos (not_le.mp hroom)]
      rfl

variable (clock) in
theorem granted_ensureCanContinue (h : (ledger.elapsedMs clock.now).toNat = elapsedMs) :
    Granted ledger (Metered.ensureCanContinue clock true)
      ((ledger.toExecutionLedger.ensureCanContinue elapsedMs).map
        fun _ => ledger.toExecutionLedger) := by
  unfold Granted Metered.ensureCanContinue ExecutionLedger.ensureCanContinue
  rw [remainingSeconds_eq h]
  rcases Metered.outcome_look ledger clock _ with ⟨error, hpassed, hread⟩ | ⟨_, hopen, hread⟩
  · rw [hread, if_pos hpassed]
    rfl
  · rw [hread, if_neg hopen]
    simp only [Metered.outcome_bind, Metered.outcome_get, Metered.outcome_ite,
      Metered.outcome_throw, Metered.outcome_pure, if_true]
    have hused : ledger.toExecutionLedger.graphSteps = ledger.values .graphSteps := rfl
    have hmost : ledger.toExecutionLedger.stepLimit false =
      ledger.budget.maxGraphSteps - ledger.budget.terminalStepReserve := rfl
    rw [hused, hmost, require]
    by_cases hroom : ledger.values .graphSteps <
        ledger.budget.maxGraphSteps - ledger.budget.terminalStepReserve
    · rw [if_pos hroom, if_neg (not_le.mpr hroom)]
      rfl
    · rw [if_neg hroom, if_pos (not_lt.mp hroom)]
      rfl

/-- Any number of milliseconds can have passed on the clock. -/
theorem exists_elapsedMs (ledger : RunLedger) (elapsedMs : ℕ) :
    ∃ now, (ledger.elapsedMs now).toNat = elapsedMs := by
  refine ⟨ledger.started + elapsedMs / 1000, ?_⟩
  have hround : roundHalfEven ((ledger.started + elapsedMs / 1000 - ledger.started) * 1000) =
      elapsedMs := by
    rw [add_sub_cancel_left, div_mul_cancel₀ _ (by norm_num)]
    refine le_antisymm (roundHalfEven_le ?_) (le_roundHalfEven ?_)
    · push_cast
      linarith
    · push_cast
      exact le_rfl
  rw [RunLedger.elapsedMs, hround]
  omega

end Charges

/-! ## Counted ledgers -/

/-- What a graph sees of a ledger comes from some calls of it. -/
def Counted (start : RunLedger) (ledger : ExecutionLedger) : Prop :=
  ∃ calls, ledger = (performAll start calls).toExecutionLedger

section Counted

variable {start : RunLedger} {ledger next : ExecutionLedger} {elapsedMs : ℕ}

/-- A charge is one more call. -/
theorem counted_of_granted {calls : List LedgerCall} (call : LedgerCall)
    {charged : Result ExecutionLedger}
    (h : Granted (performAll start calls) call.perform charged) (hok : charged = .ok next) :
    Counted start next := by
  refine ⟨calls ++ [call], ?_⟩
  rw [performAll_concat]
  rw [Granted, hok] at h
  rcases houtcome : call.perform.outcome (performAll start calls) with ⟨_ | _, after⟩
  · rw [houtcome] at h
    cases h
  · rw [houtcome] at h
    exact Option.some.inj h

theorem Counted.consumeGraphStep (h : Counted start ledger) {terminal : Bool}
    (hok : ledger.consumeGraphStep elapsedMs terminal = .ok next) : Counted start next := by
  obtain ⟨calls, rfl⟩ := h
  obtain ⟨now, hnow⟩ := exists_elapsedMs (performAll start calls) elapsedMs
  exact counted_of_granted ⟨.consumeGraphStep terminal, ⟨now, now⟩⟩
    (granted_consumeGraphStep ⟨now, now⟩ hnow terminal) hok

theorem Counted.consumeRepairRound (h : Counted start ledger)
    (hok : ledger.consumeRepairRound elapsedMs = .ok next) : Counted start next := by
  obtain ⟨calls, rfl⟩ := h
  obtain ⟨now, hnow⟩ := exists_elapsedMs (performAll start calls) elapsedMs
  exact counted_of_granted ⟨.consumeRepairRound, ⟨now, now⟩⟩
    (granted_consumeRepairRound ⟨now, now⟩ hnow) hok

theorem Counted.noteActionFingerprint (h : Counted start ledger) {fingerprint : String}
    (hok : ledger.noteActionFingerprint fingerprint = .ok next) : Counted start next := by
  obtain ⟨calls, rfl⟩ := h
  exact counted_of_granted ⟨.noteActionFingerprint fingerprint, ⟨0, 0⟩⟩
    (granted_noteActionFingerprint _ fingerprint) hok

theorem Counted.ensureCanContinue (h : Counted start ledger)
    (hok : ledger.ensureCanContinue elapsedMs = .ok ()) : Counted start ledger := by
  obtain ⟨calls, rfl⟩ := h
  obtain ⟨now, hnow⟩ := exists_elapsedMs (performAll start calls) elapsedMs
  refine counted_of_granted ⟨.ensureCanContinue true, ⟨now, now⟩⟩
    (granted_ensureCanContinue ⟨now, now⟩ hnow) ?_
  rw [hok]
  rfl

/-- Every counter that a graph sees stays within its limit. -/
theorem Counted.within {runId : String} {budget : LedgerBudget} {started : ℚ}
    (h : Counted (.start runId budget started) ledger) :
    ledger.budget = budget.toExecutionBudget ∧ ledger.graphSteps ≤ budget.maxGraphSteps ∧
      ledger.repairRounds ≤ budget.maxRepairRounds := by
  obtain ⟨calls, rfl⟩ := h
  have hreserved := stepsReserved_performAll (stepsReserved_start runId budget started) calls
  exact ⟨congrArg LedgerBudget.toExecutionBudget hreserved.budget_eq,
    hreserved.within .graphSteps _ rfl, hreserved.within .repairRounds _ rfl⟩

end Counted

/-! ## Runs of the planning graph -/

/-- The ledger of a run comes from calls of the ledger it began with. -/
def CountedRun (start : RunLedger) (run : Option RunContext) : Prop :=
  ∃ context, run = some context ∧ Counted start context.ledger

section Runs

variable {setup : PlanningSetup} {world : PlanningWorld} {request : PlanningRequest} {n : ℕ}
  {node : PlanningNode} {state after : TravelState} {run runAfter : Option RunContext}
  {start : RunLedger} {before position : Position}

theorem countedRun_charge {consume : RunContext → Result RunContext}
    (hconsume : ∀ context next, Counted start context.ledger → consume context = .ok next →
      Counted start next.ledger)
    (h : CountedRun start run) (hok : charge run consume = .ok runAfter) :
    CountedRun start runAfter := by
  obtain ⟨context, rfl, hcounted⟩ := h
  cases hnext : consume context with
  | error failure =>
    rw [charge, hnext] at hok
    cases hok
  | ok next =>
    rw [charge, hnext] at hok
    exact ⟨next, (Except.ok.inj hok).symm, hconsume context next hcounted hnext⟩

theorem counted_enter {context next : RunContext} (h : Counted start context.ledger)
    (hok : context.enter world n node = .ok next) : Counted start next.ledger := by
  obtain ⟨stepped, hstep, hok⟩ := bind_eq_ok hok
  have hstepped := h.consumeGraphStep hstep
  dsimp only at hok
  split at hok
  · obtain ⟨rounded, hround, hok⟩ := bind_eq_ok hok
    cases hok
    exact hstepped.consumeRepairRound hround
  · cases hok
    exact hstepped

theorem counted_recordDomainEvent {context next : RunContext} (h : Counted start context.ledger)
    (hok : context.recordDomainEvent node state = .ok next) : Counted start next.ledger := by
  unfold RunContext.recordDomainEvent at hok
  split at hok
  · cases hok
    exact h
  split at hok
  · cases hok
    exact h
  · obtain ⟨noted, hnoted, hok⟩ := bind_eq_ok hok
    cases hok
    exact h.noteActionFingerprint hnoted

/-- A hand-off is not charged. -/
theorem countedRun_delegate {α ε : Type} {refuse : Failure → ε} {work : HandoffWork}
    {characters : α → ℕ} {operation : Except ε α} (h : CountedRun start run) :
    CountedRun start (delegate setup world n run refuse work characters operation).2 := by
  have hstarted (terms : HandoffTerms) :
      CountedRun start (run.map fun run => run.handoffStarted terms) := by
    obtain ⟨context, rfl, hcounted⟩ := h
    exact ⟨context.handoffStarted terms, rfl, hcounted⟩
  unfold delegate SpecialistExecutor.invoke
  split
  · exact h
  split
  · exact h
  split
  · exact h
  dsimp only
  split
  · exact hstarted _
  split
  · exact hstarted _
  split
  · exact hstarted _
  · exact hstarted _

theorem countedRun_plainNode {result : Result TravelState} (h : CountedRun start run)
    (hok : plainNode run result = .ok (after, runAfter)) : CountedRun start runAfter := by
  cases result with
  | error failure => cases hok
  | ok state =>
    cases hok
    exact h

variable [Platform]

/-- A node itself charges nothing; the guard at the start only asks. -/
theorem countedRun_execute (h : CountedRun start run)
    (hok : node.execute setup world n run state = .ok (after, runAfter)) :
    CountedRun start runAfter := by
  cases node with
  | executionBudgetGuard =>
    obtain ⟨context, rfl, hcounted⟩ := h
    obtain ⟨_, hcontinue, hok⟩ := bind_eq_ok hok
    cases hok
    exact ⟨context, rfl, hcounted.ensureCanContinue hcontinue⟩
  | buildSearchPlan =>
    change PlanningGraph.buildSearchPlan setup world n run state = _ at hok
    unfold PlanningGraph.buildSearchPlan at hok
    obtain ⟨queries, -, hok⟩ := bind_eq_ok hok
    cases hok
    exact countedRun_delegate h
  | buildRepairPlan =>
    obtain ⟨target, -, hok⟩ := bind_eq_ok hok
    obtain ⟨report, -, hok⟩ := bind_eq_ok hok
    obtain ⟨answer, -, hok⟩ := bind_eq_ok hok
    cases hok
    exact countedRun_delegate h
  | softConstraintCritic =>
    change PlanningGraph.softConstraintCritic setup world n run state = _ at hok
    unfold PlanningGraph.softConstraintCritic at hok
    split at hok
    · cases hok
      exact h
    · obtain ⟨critique, -, hok⟩ := bind_eq_ok hok
      obtain ⟨answered, -, hok⟩ := bind_eq_ok hok
      cases hok
      exact countedRun_delegate h
  | resolvePoiFacts | validateCriticEvidence | markInfeasible =>
    cases hok
    exact h
  | _ => exact countedRun_plainNode h hok

/-- What one superstep keeps. -/
theorem counted_superstep (h : CountedRun start before.run)
    (hok : superstep setup world before node = .ok position) :
    CountedRun start position.run := by
  obtain ⟨⟨state, run⟩, hnode, hok⟩ := bind_eq_ok hok
  obtain ⟨_, -, hok⟩ := bind_eq_ok hok
  cases hok
  obtain ⟨entered, henter, hnode⟩ := bind_eq_ok hnode
  obtain ⟨⟨state', executed⟩, hexecute, hnode⟩ := bind_eq_ok hnode
  obtain ⟨recorded, hrecord, hnode⟩ := bind_eq_ok hnode
  cases hnode
  have hentered := countedRun_charge (fun _ _ => counted_enter) h henter
  have hexecuted := countedRun_execute hentered hexecute
  exact countedRun_charge (fun _ _ => counted_recordDomainEvent) hexecuted hrecord

/-- In every position of a run, the ledger of the graph is the one of its run after some calls. -/
theorem counted_of_visits {context : RunContext}
    (hledger : context.ledger = start.toExecutionLedger)
    (hvisits : Visits setup world request (some context) position) :
    CountedRun start position.run := by
  refine hvisits.preserves (motive := fun position => CountedRun start position.run)
    ⟨context, rfl, [], hledger⟩ fun before after hbefore hnext => ?_
  obtain ⟨node, -, hsuperstep⟩ := next_iff.mp hnext
  exact counted_superstep hbefore hsuperstep

/-- A run of the graph takes no more steps and repair rounds than the budget of its run allows. -/
theorem withinBudget_of_visits {runId : String} {budget : LedgerBudget} {started : ℚ}
    {context : RunContext}
    (hledger : context.ledger = (RunLedger.start runId budget started).toExecutionLedger)
    (hvisits : Visits setup world request (some context) position) :
    ∃ now, position.run = some now ∧ now.ledger.graphSteps ≤ budget.maxGraphSteps ∧
      now.ledger.repairRounds ≤ budget.maxRepairRounds := by
  obtain ⟨now, hnow, hcounted⟩ := counted_of_visits hledger hvisits
  exact ⟨now, hnow, hcounted.within.2⟩

end Runs

end TravelPlanAgent
