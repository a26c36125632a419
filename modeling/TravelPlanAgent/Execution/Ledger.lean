import TravelPlanAgent.Domain.Platform

/-!
# The budget of a run

Every node of a graph is charged to the ledger of the current run before it does anything.  The
clock is not under the program's control, so each charge is given the milliseconds that have
passed.

* `ExecutionBudget`, `ExecutionLedger`: the limits that a graph is held to, and what it used.
* `consumeGraphStep`, `consumeRepairRound`, `noteActionFingerprint`: the charges.
* `RunContext`: a run with its ledger and the hand-offs that its trace has recorded.
-/

namespace TravelPlanAgent

/-- `ExecutionBudget` with the bounds of its fields, as far as nodes are charged. -/
structure ExecutionBudget where
  maxGraphSteps : ℕ := 120
  maxRepairRounds : ℕ := 4
  maxRepeatedFingerprintCount : ℕ := 2
  deadlineMs : ℕ := 120000
  terminalStepReserve : ℕ := 2
  maxGraphSteps_bounds : 4 ≤ maxGraphSteps ∧ maxGraphSteps ≤ 10000 := by decide
  maxRepairRounds_le : maxRepairRounds ≤ 100 := by decide
  maxRepeatedFingerprintCount_bounds :
    1 ≤ maxRepeatedFingerprintCount ∧ maxRepeatedFingerprintCount ≤ 100 := by decide
  deadlineMs_bounds : 100 ≤ deadlineMs ∧ deadlineMs ≤ 3600000 := by decide
  terminalStepReserve_bounds : 1 ≤ terminalStepReserve ∧ terminalStepReserve ≤ 100 := by decide
  terminalStepReserve_lt : terminalStepReserve < maxGraphSteps := by decide

/-- What a run has used so far. -/
structure ExecutionLedger where
  budget : ExecutionBudget
  graphSteps : ℕ := 0
  repairRounds : ℕ := 0
  lastActionFingerprint : Option String := none
  repeatedFingerprintCount : ℕ := 0

namespace ExecutionLedger

variable (ledger : ExecutionLedger) (elapsedMs : ℕ)

/-- `remaining_seconds`: the deadline has not passed. -/
def remainingSeconds : Result Unit :=
  require (elapsedMs < ledger.budget.deadlineMs) .executionBudgetExceeded

/-- The steps that a node may use up; a terminal node may use the reserve too. -/
def stepLimit (terminal : Bool) : ℕ :=
  if terminal then ledger.budget.maxGraphSteps
  else ledger.budget.maxGraphSteps - ledger.budget.terminalStepReserve

/-- `ensure_can_continue`. -/
def ensureCanContinue : Result Unit := do
  ledger.remainingSeconds elapsedMs
  require (ledger.graphSteps < ledger.stepLimit false) .executionBudgetExceeded

/-- `consume_graph_step`. -/
def consumeGraphStep (terminal : Bool) : Result ExecutionLedger := do
  ledger.remainingSeconds elapsedMs
  require (ledger.graphSteps + 1 ≤ ledger.stepLimit terminal) .executionBudgetExceeded
  return { ledger with graphSteps := ledger.graphSteps + 1 }

/-- `consume_repair_round`. -/
def consumeRepairRound : Result ExecutionLedger := do
  ledger.remainingSeconds elapsedMs
  require (ledger.repairRounds + 1 ≤ ledger.budget.maxRepairRounds) .executionBudgetExceeded
  return { ledger with repairRounds := ledger.repairRounds + 1 }

/-- `note_action_fingerprint`. -/
def noteActionFingerprint (fingerprint : String) : Result ExecutionLedger := do
  let count := if ledger.lastActionFingerprint = some fingerprint then
    ledger.repeatedFingerprintCount + 1 else 1
  require (count ≤ ledger.budget.maxRepeatedFingerprintCount) .executionBudgetExceeded
  return { ledger with
    lastActionFingerprint := some fingerprint, repeatedFingerprintCount := count }

end ExecutionLedger

/-- The run that a graph belongs to. -/
structure RunContext where
  ledger : ExecutionLedger
  handoffsStarted : ℕ := 0

end TravelPlanAgent
