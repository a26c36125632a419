import TravelPlanAgent.Execution.Ledger

/-!
# The budget of a run is a hard limit

The ledger of a run counts what the run uses.  An operation that would go beyond a limit raises,
and keeps what it changed before; so the order of checks and updates matters.

* `LedgerBudget`, `RunLedger`: all limits and all counters; `Metered`: an operation on them.
* `LedgerOperation`, `LedgerCall`: the operations, with what they read from the clock.
* `Charge`, `LedgerOperation.charges`: what an operation takes from which counter.
* `settled_perform`: an operation takes all of its charges or none.
* `StepsReserved`, `budgetHolds`: what holds after any sequence of calls.
* `exists_charge_after_deadline`: the tokens of a call are counted after the deadline, too.
-/

namespace TravelPlanAgent

open Selection

/-! ## The ledger -/

/-- The limits of `ExecutionBudget` that its ledger checks. -/
structure LedgerBudget extends ExecutionBudget where
  maxToolCalls : ℕ := 160
  maxProviderAttempts : ℕ := 240
  maxLlmCalls : ℕ := 8
  maxLlmAttempts : ℕ := 12
  maxLlmInputChars : ℕ := 80000
  maxInputTokens : ℕ := 40000
  maxOutputTokens : ℕ := 12000
  maxInterrupts : ℕ := 1
  maxCheckpointWrites : ℕ := 160
  maxToolCalls_bounds : 1 ≤ maxToolCalls ∧ maxToolCalls ≤ 10000 := by decide
  maxProviderAttempts_bounds : 1 ≤ maxProviderAttempts ∧ maxProviderAttempts ≤ 20000 := by decide
  maxLlmCalls_bounds : 1 ≤ maxLlmCalls ∧ maxLlmCalls ≤ 1000 := by decide
  maxLlmAttempts_bounds : 1 ≤ maxLlmAttempts ∧ maxLlmAttempts ≤ 2000 := by decide
  maxLlmInputChars_bounds : 1 ≤ maxLlmInputChars ∧ maxLlmInputChars ≤ 10000000 := by decide
  maxInputTokens_bounds : 1 ≤ maxInputTokens ∧ maxInputTokens ≤ 10000000 := by decide
  maxOutputTokens_bounds : 1 ≤ maxOutputTokens ∧ maxOutputTokens ≤ 10000000 := by decide
  maxInterrupts_le : maxInterrupts ≤ 20 := by decide
  maxCheckpointWrites_bounds : 1 ≤ maxCheckpointWrites ∧ maxCheckpointWrites ≤ 20000 := by decide
  toolCalls_covered : maxToolCalls ≤ maxProviderAttempts := by decide
  llmCalls_covered : maxLlmCalls ≤ maxLlmAttempts := by decide

/-- The counters of a ledger. -/
inductive UsageKey where
  | graphSteps | toolCalls | providerAttempts | cacheHits | llmCalls | llmAttempts
  | llmInputChars | inputTokens | outputTokens | repairRounds | interrupts | checkpointWrites
  | traceEvents
  deriving DecidableEq

/-- The limit of a counter; cache hits and trace events are only counted. -/
def LedgerBudget.maximum? (budget : LedgerBudget) : UsageKey → Option ℕ
  | .graphSteps => some budget.maxGraphSteps
  | .toolCalls => some budget.maxToolCalls
  | .providerAttempts => some budget.maxProviderAttempts
  | .cacheHits => none
  | .llmCalls => some budget.maxLlmCalls
  | .llmAttempts => some budget.maxLlmAttempts
  | .llmInputChars => some budget.maxLlmInputChars
  | .inputTokens => some budget.maxInputTokens
  | .outputTokens => some budget.maxOutputTokens
  | .repairRounds => some budget.maxRepairRounds
  | .interrupts => some budget.maxInterrupts
  | .checkpointWrites => some budget.maxCheckpointWrites
  | .traceEvents => none

/-- `ExecutionBudgetExceeded`. -/
structure BudgetExceeded where
  runId : String
  limit : String
  used : ℤ
  maximum : ℕ
  deadline : Bool := false
  deriving DecidableEq

/-- `ExecutionLedger`.  The clock counts seconds. -/
structure RunLedger where
  runId : String
  budget : LedgerBudget
  started : ℚ
  values : UsageKey → ℕ := fun _ => 0
  tokenUsageComplete : Bool := true
  lastActionFingerprint : Option String := none
  repeatedFingerprintCount : ℕ := 0

/-- `ExecutionUsage`, the tokens as far as every call has reported them. -/
structure ExecutionUsage where
  values : UsageKey → ℕ
  inputTokens : Option ℕ
  outputTokens : Option ℕ

/-- What an operation reads from the clock: once to decide, and once more when it raises. -/
structure ClockReadings where
  now : ℚ
  again : ℚ

/-- An operation on a ledger.  What was changed before an exception stays changed. -/
abbrev Metered (α : Type) := ExceptT BudgetExceeded (StateM RunLedger) α

/-- What an operation returns or raises, and the ledger after it. -/
def Metered.outcome {α : Type} (operation : Metered α) (ledger : RunLedger) :
    Except BudgetExceeded α × RunLedger :=
  StateT.run (ExceptT.run operation) ledger

namespace RunLedger

variable (ledger : RunLedger)

/-- `elapsed_ms`. -/
def elapsedMs (now : ℚ) : ℤ := max 0 (roundHalfEven ((now - ledger.started) * 1000))

/-- The deadline has passed. -/
def Passed (now : ℚ) : Prop := (ledger.budget.deadlineMs : ℤ) ≤ ledger.elapsedMs now

instance (now : ℚ) : Decidable (ledger.Passed now) := inferInstanceAs (Decidable (_ ≤ _))

/-- `_exceeded`. -/
def exceeded (limit : String) (used : ℤ) (maximum : ℕ) (deadline : Bool) : BudgetExceeded :=
  ⟨ledger.runId, limit, used, maximum, deadline⟩

/-- The counter `key` is set. -/
def setValue (key : UsageKey) (value : ℕ) : RunLedger :=
  { ledger with values := Function.update ledger.values key value }

end RunLedger

namespace Metered

variable (clock : ClockReadings)

/-- `remaining_seconds`. -/
def remainingSeconds : Metered ℚ := do
  let ledger ← get
  let remaining : ℚ := ((ledger.budget.deadlineMs : ℤ) - ledger.elapsedMs clock.now : ℤ) / 1000
  if remaining ≤ 0 then
    throw (ledger.exceeded "deadline_ms" (ledger.elapsedMs clock.again)
      ledger.budget.deadlineMs true)
  return remaining

/-- `effective_timeout`. -/
def effectiveTimeout (componentTimeout : ℚ) : Metered ℚ := do
  let remaining ← remainingSeconds clock
  return max (1 / 1000) (min componentTimeout remaining)

/-- `ensure_can_continue`. -/
def ensureCanContinue (reserveTerminalSteps : Bool) : Metered Unit := do
  let _ ← remainingSeconds clock
  let ledger ← get
  let maximum := if reserveTerminalSteps
    then ledger.budget.maxGraphSteps - ledger.budget.terminalStepReserve
    else ledger.budget.maxGraphSteps
  if maximum ≤ ledger.values .graphSteps then
    throw (ledger.exceeded "max_graph_steps" (ledger.values .graphSteps)
      ledger.budget.maxGraphSteps false)

/-- `_consume`. -/
def consume (key : UsageKey) (amount : ℕ) (maximum : LedgerBudget → ℕ) (limit : String) :
    Metered Unit := do
  let _ ← remainingSeconds clock
  let ledger ← get
  let value := ledger.values key + amount
  if maximum ledger.budget < value then
    throw (ledger.exceeded limit (ledger.values key) (maximum ledger.budget) false)
  set (ledger.setValue key value)

/-- `_increment`. -/
def increment (key : UsageKey) : Metered Unit := do
  modify fun ledger => ledger.setValue key (ledger.values key + 1)

/-- `consume_graph_step`. -/
def consumeGraphStep (terminal : Bool) : Metered Unit :=
  consume clock .graphSteps 1
    (fun budget => if terminal then budget.maxGraphSteps
      else budget.maxGraphSteps - budget.terminalStepReserve)
    "max_graph_steps"

/-- `consume_tool_call`. -/
def consumeToolCall : Metered Unit :=
  consume clock .toolCalls 1 LedgerBudget.maxToolCalls "max_tool_calls"

/-- `consume_provider_attempt`. -/
def consumeProviderAttempt : Metered Unit :=
  consume clock .providerAttempts 1 LedgerBudget.maxProviderAttempts "max_provider_attempts"

/-- `note_cache_hit`. -/
def noteCacheHit : Metered Unit := increment .cacheHits

/-- `consume_llm_call`. -/
def consumeLlmCall (inputChars : ℕ) : Metered Unit := do
  let _ ← remainingSeconds clock
  let ledger ← get
  if ledger.budget.maxLlmCalls < ledger.values .llmCalls + 1 then
    throw (ledger.exceeded "max_llm_calls" (ledger.values .llmCalls) ledger.budget.maxLlmCalls
      false)
  if ledger.budget.maxLlmInputChars < ledger.values .llmInputChars + inputChars then
    throw (ledger.exceeded "max_llm_input_chars" (ledger.values .llmInputChars)
      ledger.budget.maxLlmInputChars false)
  modify fun ledger => ledger.setValue .llmCalls (ledger.values .llmCalls + 1)
  modify fun ledger => ledger.setValue .llmInputChars (ledger.values .llmInputChars + inputChars)

/-- `consume_llm_attempt`. -/
def consumeLlmAttempt : Metered Unit :=
  consume clock .llmAttempts 1 LedgerBudget.maxLlmAttempts "max_llm_attempts"

/-- `complete_llm`. -/
def completeLlm (inputTokens outputTokens : Option ℕ) : Metered Unit := do
  match inputTokens, outputTokens with
  | some inputTokens, some outputTokens =>
    let ledger ← get
    if ledger.budget.maxInputTokens < ledger.values .inputTokens + inputTokens then
      throw (ledger.exceeded "max_input_tokens" (ledger.values .inputTokens + inputTokens : ℕ)
        ledger.budget.maxInputTokens false)
    if ledger.budget.maxOutputTokens < ledger.values .outputTokens + outputTokens then
      throw (ledger.exceeded "max_output_tokens" (ledger.values .outputTokens + outputTokens : ℕ)
        ledger.budget.maxOutputTokens false)
    modify fun ledger => ledger.setValue .inputTokens (ledger.values .inputTokens + inputTokens)
    modify fun ledger => ledger.setValue .outputTokens (ledger.values .outputTokens + outputTokens)
  | _, _ => modify fun ledger => { ledger with tokenUsageComplete := false }

/-- `consume_repair_round`. -/
def consumeRepairRound : Metered Unit :=
  consume clock .repairRounds 1 (fun budget => budget.maxRepairRounds) "max_repair_rounds"

/-- `consume_interrupt`. -/
def consumeInterrupt : Metered Unit :=
  consume clock .interrupts 1 LedgerBudget.maxInterrupts "max_interrupts"

/-- `consume_checkpoint_write`. -/
def consumeCheckpointWrite : Metered Unit :=
  consume clock .checkpointWrites 1 LedgerBudget.maxCheckpointWrites "max_checkpoint_writes"

/-- `note_trace_event`. -/
def noteTraceEvent : Metered Unit := increment .traceEvents

/-- `note_action_fingerprint`. -/
def noteActionFingerprint (fingerprint : String) : Metered Unit := do
  modify fun ledger =>
    if ledger.lastActionFingerprint = some fingerprint then
      { ledger with repeatedFingerprintCount := ledger.repeatedFingerprintCount + 1 }
    else { ledger with lastActionFingerprint := some fingerprint, repeatedFingerprintCount := 1 }
  let ledger ← get
  let maximum := ledger.budget.maxRepeatedFingerprintCount
  if maximum < ledger.repeatedFingerprintCount then
    throw (ledger.exceeded "max_repeated_fingerprint_count"
      (ledger.repeatedFingerprintCount - 1 : ℕ) maximum false)

/-- `snapshot`. -/
def snapshot : Metered ExecutionUsage := do
  let ledger ← get
  let reported (key : UsageKey) : Option ℕ :=
    if ledger.tokenUsageComplete then some (ledger.values key) else none
  return ⟨ledger.values, reported .inputTokens, reported .outputTokens⟩

/-! ## Outcomes -/

section Outcomes

variable {α β : Type} {operation : Metered α} {next : α → Metered β} {ledger after : RunLedger}

/-- An operation that returns is followed by the next one. -/
theorem outcome_bind : Metered.outcome (operation >>= next) ledger =
    match operation.outcome ledger with
    | (.ok a, after) => (next a).outcome after
    | (.error error, after) => (.error error, after) := by
  unfold Metered.outcome
  rw [ExceptT.run_bind, StateT.run_bind]
  change (match (StateT.run operation.run ledger : Except BudgetExceeded α × RunLedger) with
    | (result, after) => _) = _
  rcases (StateT.run operation.run ledger : Except BudgetExceeded α × RunLedger) with ⟨_ | a, after⟩
  · rfl
  · rfl

@[simp] theorem outcome_pure (a : α) :
    Metered.outcome (pure a : Metered α) ledger = (.ok a, ledger) := rfl

@[simp] theorem outcome_throw (error : BudgetExceeded) :
    Metered.outcome (throw error : Metered α) ledger = (.error error, ledger) := rfl

@[simp] theorem outcome_get :
    Metered.outcome (get : Metered RunLedger) ledger = (.ok ledger, ledger) := rfl

@[simp] theorem outcome_set (after : RunLedger) :
    Metered.outcome (set after : Metered PUnit) ledger = (.ok ⟨⟩, after) := rfl

@[simp] theorem outcome_modify (change : RunLedger → RunLedger) :
    Metered.outcome (modify change : Metered PUnit) ledger = (.ok ⟨⟩, change ledger) := rfl

@[simp] theorem outcome_ite (c : Prop) [Decidable c] (other : Metered α) :
    Metered.outcome (if c then operation else other) ledger =
      if c then operation.outcome ledger else other.outcome ledger := by
  split <;> rfl

variable (ledger) in
/-- The deadline is checked, and nothing changes. -/
theorem outcome_remainingSeconds (clock : ClockReadings) :
    (∃ error, ledger.Passed clock.now ∧
      (remainingSeconds clock).outcome ledger = (.error error, ledger)) ∨
    ∃ remaining, ¬ ledger.Passed clock.now ∧
      (remainingSeconds clock).outcome ledger = (.ok remaining, ledger) := by
  have hsign : (((ledger.budget.deadlineMs : ℤ) - ledger.elapsedMs clock.now : ℤ) / 1000 : ℚ) ≤
      0 ↔ ledger.Passed clock.now := by
    rw [div_le_iff₀ (by norm_num), zero_mul, Int.cast_nonpos, sub_nonpos]
    exact Iff.rfl
  unfold remainingSeconds
  simp only [outcome_bind, outcome_get, outcome_ite]
  by_cases hpassed : ledger.Passed clock.now
  · refine .inl ⟨ledger.exceeded "deadline_ms" (ledger.elapsedMs clock.again)
      ledger.budget.deadlineMs true, hpassed, ?_⟩
    rw [if_pos (hsign.mpr hpassed)]
    rfl
  · refine .inr ⟨((ledger.budget.deadlineMs : ℤ) - ledger.elapsedMs clock.now : ℤ) / 1000,
      hpassed, ?_⟩
    rw [if_neg (mt hsign.mp hpassed)]
    rfl

variable (ledger) in
/-- What follows a look at the clock. -/
theorem outcome_look {α : Type} (clock : ClockReadings) (next : ℚ → Metered α) :
    (∃ error, ledger.Passed clock.now ∧
      Metered.outcome (remainingSeconds clock >>= next) ledger = (.error error, ledger)) ∨
    ∃ remaining, ¬ ledger.Passed clock.now ∧
      Metered.outcome (remainingSeconds clock >>= next) ledger =
        (next remaining).outcome ledger := by
  rw [outcome_bind]
  rcases outcome_remainingSeconds ledger clock with
    ⟨error, hpassed, hread⟩ | ⟨remaining, hopen, hread⟩
  · exact .inl ⟨error, hpassed, by rw [hread]⟩
  · exact .inr ⟨remaining, hopen, by rw [hread]⟩

end Outcomes

end Metered

/-! ## Charges -/

/-- What an operation takes from a counter, up to a limit. -/
structure Charge where
  key : UsageKey
  amount : ℕ
  limit : Option ℕ

/-- The counters after some charges. -/
def charged (values : UsageKey → ℕ) (charges : List Charge) : UsageKey → ℕ := fun key =>
  values key + ((charges.filter fun charge => charge.key = key).map Charge.amount).sum

/-- A charge stays within its limit. -/
def Charge.Fits (charge : Charge) (values : UsageKey → ℕ) : Prop :=
  ∀ limit ∈ charge.limit, values charge.key + charge.amount ≤ limit

/-- The operations of a ledger. -/
inductive LedgerOperation where
  | remainingSeconds
  | effectiveTimeout (componentTimeout : ℚ)
  | ensureCanContinue (reserveTerminalSteps : Bool)
  | consumeGraphStep (terminal : Bool)
  | consumeToolCall
  | consumeProviderAttempt
  | noteCacheHit
  | consumeLlmCall (inputChars : ℕ)
  | consumeLlmAttempt
  | completeLlm (inputTokens outputTokens : Option ℕ)
  | consumeRepairRound
  | consumeInterrupt
  | consumeCheckpointWrite
  | noteTraceEvent
  | noteActionFingerprint (fingerprint : String)
  | snapshot

/-- An operation with what it reads from the clock. -/
structure LedgerCall where
  operation : LedgerOperation
  clock : ClockReadings

/-- Make a call, whatever it returns. -/
def LedgerCall.perform (call : LedgerCall) : Metered Unit :=
  match call.operation with
  | .remainingSeconds => do let _ ← Metered.remainingSeconds call.clock
  | .effectiveTimeout componentTimeout => do
    let _ ← Metered.effectiveTimeout call.clock componentTimeout
  | .ensureCanContinue reserve => Metered.ensureCanContinue call.clock reserve
  | .consumeGraphStep terminal => Metered.consumeGraphStep call.clock terminal
  | .consumeToolCall => Metered.consumeToolCall call.clock
  | .consumeProviderAttempt => Metered.consumeProviderAttempt call.clock
  | .noteCacheHit => Metered.noteCacheHit
  | .consumeLlmCall inputChars => Metered.consumeLlmCall call.clock inputChars
  | .consumeLlmAttempt => Metered.consumeLlmAttempt call.clock
  | .completeLlm inputTokens outputTokens => Metered.completeLlm inputTokens outputTokens
  | .consumeRepairRound => Metered.consumeRepairRound call.clock
  | .consumeInterrupt => Metered.consumeInterrupt call.clock
  | .consumeCheckpointWrite => Metered.consumeCheckpointWrite call.clock
  | .noteTraceEvent => Metered.noteTraceEvent
  | .noteActionFingerprint fingerprint => Metered.noteActionFingerprint fingerprint
  | .snapshot => do let _ ← Metered.snapshot

/-- What an operation takes from which counter, when it returns. -/
def LedgerOperation.charges (budget : LedgerBudget) : LedgerOperation → List Charge
  | .consumeGraphStep terminal =>
    [⟨.graphSteps, 1, some (if terminal then budget.maxGraphSteps
      else budget.maxGraphSteps - budget.terminalStepReserve)⟩]
  | .consumeToolCall => [⟨.toolCalls, 1, some budget.maxToolCalls⟩]
  | .consumeProviderAttempt => [⟨.providerAttempts, 1, some budget.maxProviderAttempts⟩]
  | .noteCacheHit => [⟨.cacheHits, 1, none⟩]
  | .consumeLlmCall inputChars =>
    [⟨.llmCalls, 1, some budget.maxLlmCalls⟩,
      ⟨.llmInputChars, inputChars, some budget.maxLlmInputChars⟩]
  | .consumeLlmAttempt => [⟨.llmAttempts, 1, some budget.maxLlmAttempts⟩]
  | .completeLlm (some inputTokens) (some outputTokens) =>
    [⟨.inputTokens, inputTokens, some budget.maxInputTokens⟩,
      ⟨.outputTokens, outputTokens, some budget.maxOutputTokens⟩]
  | .consumeRepairRound => [⟨.repairRounds, 1, some budget.maxRepairRounds⟩]
  | .consumeInterrupt => [⟨.interrupts, 1, some budget.maxInterrupts⟩]
  | .consumeCheckpointWrite => [⟨.checkpointWrites, 1, some budget.maxCheckpointWrites⟩]
  | .noteTraceEvent => [⟨.traceEvents, 1, none⟩]
  | _ => []

/-- The operations that check the deadline before they charge a counter that has a limit. -/
def LedgerOperation.consumes : LedgerOperation → Bool
  | .consumeGraphStep _ | .consumeToolCall | .consumeProviderAttempt | .consumeLlmCall _
  | .consumeLlmAttempt | .consumeRepairRound | .consumeInterrupt | .consumeCheckpointWrite => true
  | _ => false

/-- A counter that has a limit is charged. -/
def LedgerOperation.ChargesLimited (budget : LedgerBudget) (operation : LedgerOperation) : Prop :=
  ∃ charge ∈ operation.charges budget, charge.limit.isSome

/-- Only the tokens of a call are charged without a look at the clock. -/
theorem chargesLimited_iff (budget : LedgerBudget) (operation : LedgerOperation) :
    operation.ChargesLimited budget ↔ operation.consumes = true ∨
      ∃ inputTokens outputTokens,
        operation = .completeLlm (some inputTokens) (some outputTokens) := by
  unfold LedgerOperation.ChargesLimited
  cases operation with
  | completeLlm inputTokens outputTokens =>
    cases inputTokens <;> cases outputTokens <;>
      simp [LedgerOperation.charges, LedgerOperation.consumes]
  | _ => simp [LedgerOperation.charges, LedgerOperation.consumes]

/-! ## All charges or none -/

namespace Metered

/-- How a call leaves a ledger: an exception changes no counter, a call that returns has made all
of its charges within their limits. -/
structure Settled (ledger : RunLedger) (call : LedgerCall)
    (outcome : Except BudgetExceeded Unit × RunLedger) : Prop where
  budget_eq : outcome.2.budget = ledger.budget
  started_eq : outcome.2.started = ledger.started
  raised : ∀ error, outcome.1 = .error error → outcome.2.values = ledger.values
  returned : outcome.1 = .ok () →
    (∀ charge ∈ call.operation.charges ledger.budget, charge.Fits ledger.values) ∧
      outcome.2.values = charged ledger.values (call.operation.charges ledger.budget)
  inTime : call.operation.consumes = true → outcome.1 = .ok () → ¬ ledger.Passed call.clock.now

section Settled

variable {ledger after : RunLedger} {call : LedgerCall}

theorem settled_error (error : BudgetExceeded) (hbudget : after.budget = ledger.budget)
    (hstarted : after.started = ledger.started) (hvalues : after.values = ledger.values) :
    Settled ledger call (.error error, after) :=
  ⟨hbudget, hstarted, fun _ _ => hvalues, (fun h => by cases h), (fun _ h => by cases h)⟩

theorem settled_ok (hbudget : after.budget = ledger.budget)
    (hstarted : after.started = ledger.started)
    (hfits : ∀ charge ∈ call.operation.charges ledger.budget, charge.Fits ledger.values)
    (hvalues : after.values = charged ledger.values (call.operation.charges ledger.budget))
    (htime : call.operation.consumes = true → ¬ ledger.Passed call.clock.now) :
    Settled ledger call (.ok (), after) :=
  ⟨hbudget, hstarted, (fun _ h => by cases h), fun _ => ⟨hfits, hvalues⟩, fun h _ => htime h⟩

theorem charged_nil (values : UsageKey → ℕ) : charged values [] = values := rfl

theorem charged_singleton (values : UsageKey → ℕ) (key : UsageKey) (amount : ℕ)
    (limit : Option ℕ) :
    charged values [⟨key, amount, limit⟩] = Function.update values key (values key + amount) := by
  ext other
  rw [charged, Function.update_apply]
  by_cases h : other = key
  · subst h
    simp
  · have h' : key ≠ other := fun heq => h heq.symm
    simp [h, h']

/-- Two charges for different counters. -/
theorem charged_pair (values : UsageKey → ℕ) {key key' : UsageKey} (h : key ≠ key')
    (amount amount' : ℕ) (limit limit' : Option ℕ) :
    charged values [⟨key, amount, limit⟩, ⟨key', amount', limit'⟩] =
      Function.update (Function.update values key (values key + amount)) key'
        (Function.update values key (values key + amount) key' + amount') := by
  rw [Function.update_of_ne h.symm]
  ext other
  rw [charged, Function.update_apply, Function.update_apply]
  by_cases hsecond : other = key'
  · subst hsecond
    simp [h]
  · have hsecond' : key' ≠ other := fun heq => hsecond heq.symm
    by_cases hfirst : other = key
    · subst hfirst
      simp [hsecond, hsecond']
    · have hfirst' : key ≠ other := fun heq => hfirst heq.symm
      simp [hsecond, hsecond', hfirst, hfirst']

variable (call) in
/-- A single charge after a look at the clock. -/
theorem settled_consume {key : UsageKey} {amount : ℕ} {maximum : LedgerBudget → ℕ}
    (limit : String) (hcharges : call.operation.charges ledger.budget =
      [⟨key, amount, some (maximum ledger.budget)⟩]) :
    Settled ledger call ((consume call.clock key amount maximum limit).outcome ledger) := by
  unfold consume
  rcases outcome_look ledger call.clock _ with ⟨error, -, hread⟩ | ⟨remaining, hopen, hread⟩
  · rw [hread]
    exact settled_error error rfl rfl rfl
  · rw [hread]
    simp only [outcome_bind, outcome_get, outcome_ite, outcome_throw, outcome_set]
    split
    · exact settled_error _ rfl rfl rfl
    · next hfits =>
      refine settled_ok rfl rfl ?_ ?_ fun _ => hopen
      · rw [hcharges]
        simpa [Charge.Fits] using hfits
      · rw [hcharges, charged_singleton]
        rfl

/-- A count without a limit. -/
theorem settled_increment {key : UsageKey}
    (hcharges : call.operation.charges ledger.budget = [⟨key, 1, none⟩])
    (hfree : call.operation.consumes = false) :
    Settled ledger call ((increment key).outcome ledger) := by
  refine settled_ok rfl rfl ?_ ?_ fun h => by rw [hfree] at h; cases h
  · rw [hcharges]
    simp [Charge.Fits]
  · rw [hcharges, charged_singleton]
    rfl

/-- A call that looks at the ledger and changes nothing. -/
theorem settled_look (hcharges : call.operation.charges ledger.budget = [])
    (hfree : call.operation.consumes = false) {operation : Metered Unit}
    (hlook : (∃ error, operation.outcome ledger = (.error error, ledger)) ∨
      operation.outcome ledger = (.ok (), ledger)) :
    Settled ledger call (operation.outcome ledger) := by
  rcases hlook with ⟨error, hx⟩ | hx
  · rw [hx]
    exact settled_error error rfl rfl rfl
  · rw [hx]
    refine settled_ok rfl rfl ?_ ?_ fun h => by rw [hfree] at h; cases h
    · rw [hcharges]
      simp
    · rw [hcharges, charged_nil]

variable (ledger call) in
/-- Every call settles. -/
theorem settled_perform : Settled ledger call (call.perform.outcome ledger) := by
  obtain ⟨operation, clock⟩ := call
  cases operation with
  | remainingSeconds =>
    refine settled_look rfl rfl ?_
    rcases outcome_look ledger clock fun _ => pure () with ⟨error, -, hread⟩ | ⟨_, -, hread⟩
    · exact .inl ⟨error, hread⟩
    · exact .inr hread
  | effectiveTimeout componentTimeout =>
    refine settled_look rfl rfl ?_
    unfold LedgerCall.perform effectiveTimeout
    rw [outcome_bind]
    rcases outcome_look ledger clock fun remaining =>
        pure (max (1 / 1000) (min componentTimeout remaining)) with
      ⟨error, -, hread⟩ | ⟨remaining, -, hread⟩
    · exact .inl ⟨error, by rw [hread]⟩
    · exact .inr (by rw [hread]; rfl)
  | ensureCanContinue reserve =>
    refine settled_look rfl rfl ?_
    unfold LedgerCall.perform ensureCanContinue
    rcases outcome_look ledger clock _ with ⟨error, -, hread⟩ | ⟨remaining, -, hread⟩
    · exact .inl ⟨error, hread⟩
    · rw [hread]
      simp only [outcome_bind, outcome_get, outcome_ite, outcome_throw, outcome_pure]
      generalize (if reserve then _ else _ : ℕ) = maximum
      split
      · exact .inl ⟨_, rfl⟩
      · exact .inr rfl
  | consumeGraphStep terminal =>
    unfold LedgerCall.perform consumeGraphStep
    exact settled_consume ⟨.consumeGraphStep terminal, clock⟩ _ rfl
  | consumeToolCall => exact settled_consume ⟨_, clock⟩ _ rfl
  | consumeProviderAttempt => exact settled_consume ⟨_, clock⟩ _ rfl
  | noteCacheHit => exact settled_increment rfl rfl
  | consumeLlmCall inputChars =>
    unfold LedgerCall.perform consumeLlmCall
    rcases outcome_look ledger clock _ with ⟨error, -, hread⟩ | ⟨remaining, hopen, hread⟩
    · exact hread ▸ settled_error error rfl rfl rfl
    · rw [hread]
      simp only [outcome_bind, outcome_get, outcome_ite, outcome_throw, outcome_modify]
      split
      · exact settled_error _ rfl rfl rfl
      · next hcalls =>
        split
        · exact settled_error _ rfl rfl rfl
        · next hchars =>
          refine settled_ok rfl rfl ?_ ?_ fun _ => hopen
          · simpa [LedgerOperation.charges, Charge.Fits] using And.intro hcalls hchars
          · exact (charged_pair ledger.values (by decide) _ _ _ _).symm
  | consumeLlmAttempt => exact settled_consume ⟨_, clock⟩ _ rfl
  | completeLlm inputTokens outputTokens =>
    cases inputTokens with
    | none =>
      refine settled_ok rfl rfl ?_ rfl fun h => by cases h
      simp [LedgerOperation.charges]
    | some inputTokens =>
      cases outputTokens with
      | none =>
        refine settled_ok rfl rfl ?_ rfl fun h => by cases h
        simp [LedgerOperation.charges]
      | some outputTokens =>
        unfold LedgerCall.perform completeLlm
        simp only [outcome_bind, outcome_get, outcome_ite, outcome_throw, outcome_modify]
        split
        · exact settled_error _ rfl rfl rfl
        · next hinput =>
          split
          · exact settled_error _ rfl rfl rfl
          · next houtput =>
            refine settled_ok rfl rfl ?_ ?_ fun h => by cases h
            · simpa [LedgerOperation.charges, Charge.Fits] using And.intro hinput houtput
            · exact (charged_pair ledger.values (by decide) _ _ _ _).symm
  | consumeRepairRound =>
    unfold LedgerCall.perform consumeRepairRound
    exact settled_consume ⟨.consumeRepairRound, clock⟩ _ rfl
  | consumeInterrupt => exact settled_consume ⟨_, clock⟩ _ rfl
  | consumeCheckpointWrite => exact settled_consume ⟨_, clock⟩ _ rfl
  | noteTraceEvent => exact settled_increment rfl rfl
  | noteActionFingerprint fingerprint =>
    unfold LedgerCall.perform noteActionFingerprint
    simp only [outcome_bind, outcome_get, outcome_ite, outcome_throw, outcome_modify,
      outcome_pure]
    have hnoted : ∀ noted : RunLedger, noted.budget = ledger.budget →
        noted.started = ledger.started → noted.values = ledger.values →
        Settled ledger ⟨.noteActionFingerprint fingerprint, clock⟩
          (if noted.budget.maxRepeatedFingerprintCount < noted.repeatedFingerprintCount then
            (.error (noted.exceeded "max_repeated_fingerprint_count"
              (noted.repeatedFingerprintCount - 1 : ℕ) noted.budget.maxRepeatedFingerprintCount
              false), noted)
          else (.ok (), noted)) := by
      intro noted hbudget hstarted hvalues
      split
      · exact settled_error _ hbudget hstarted hvalues
      · refine settled_ok hbudget hstarted ?_ hvalues fun h => by cases h
        simp [LedgerOperation.charges]
    refine hnoted _ ?_ ?_ ?_ <;> split <;> rfl
  | snapshot => exact settled_look rfl rfl (.inr rfl)

end Settled

end Metered

/-! ## What every operation charges -/

section Charges

variable (budget : LedgerBudget) (operation : LedgerOperation)

/-- No counter is charged twice. -/
theorem charges_nodup : ((operation.charges budget).map Charge.key).Nodup := by
  cases operation with
  | completeLlm inputTokens outputTokens =>
    cases inputTokens <;> cases outputTokens <;> simp [LedgerOperation.charges]
  | _ => simp [LedgerOperation.charges]

/-- No limit of a charge is above the maximum of its counter. -/
theorem charges_limit {charge : Charge} (hcharge : charge ∈ operation.charges budget)
    {maximum : ℕ} (hmaximum : budget.maximum? charge.key = some maximum) :
    ∃ limit ∈ charge.limit, limit ≤ maximum := by
  cases operation with
  | consumeGraphStep terminal =>
    obtain rfl := List.mem_singleton.mp hcharge
    obtain rfl := Option.some.inj hmaximum
    refine ⟨_, rfl, ?_⟩
    split
    · exact le_rfl
    · exact Nat.sub_le _ _
  | completeLlm inputTokens outputTokens =>
    cases inputTokens <;> cases outputTokens <;>
      simp [LedgerOperation.charges] at hcharge
    rcases hcharge with rfl | rfl <;> exact ⟨_, rfl, (Option.some.inj hmaximum).le⟩
  | consumeLlmCall inputChars =>
    simp [LedgerOperation.charges] at hcharge
    rcases hcharge with rfl | rfl <;> exact ⟨_, rfl, (Option.some.inj hmaximum).le⟩
  | noteCacheHit | noteTraceEvent =>
    obtain rfl := List.mem_singleton.mp hcharge
    cases hmaximum
  | remainingSeconds | effectiveTimeout | ensureCanContinue | noteActionFingerprint | snapshot =>
    cases hcharge
  | _ =>
    obtain rfl := List.mem_singleton.mp hcharge
    exact ⟨_, rfl, (Option.some.inj hmaximum).le⟩

theorem charged_of_not_mem {values : UsageKey → ℕ} {charges : List Charge} {key : UsageKey}
    (h : key ∉ charges.map Charge.key) : charged values charges key = values key := by
  have hnone : (charges.filter fun charge => charge.key = key) = [] := by
    refine List.filter_eq_nil_iff.mpr fun charge hcharge heq => h ?_
    exact List.mem_map.mpr ⟨charge, hcharge, of_decide_eq_true heq⟩
  rw [charged, hnone]
  rfl

theorem charged_of_mem {values : UsageKey → ℕ} {charges : List Charge}
    (hnodup : (charges.map Charge.key).Nodup) {charge : Charge} (h : charge ∈ charges) :
    charged values charges charge.key = values charge.key + charge.amount := by
  obtain ⟨before, after, rfl⟩ := List.append_of_mem h
  rw [List.map_append, List.map_cons, List.nodup_middle, List.nodup_cons, List.mem_append,
    not_or] at hnodup
  have hother (others : List Charge) (hothers : charge.key ∉ others.map Charge.key) :
      (others.filter fun other => other.key = charge.key) = [] := by
    refine List.filter_eq_nil_iff.mpr fun other hmem heq => hothers ?_
    exact List.mem_map.mpr ⟨other, hmem, of_decide_eq_true heq⟩
  rw [charged, List.filter_append, hother before hnodup.1.1,
    List.filter_cons_of_pos (by simp), hother after hnodup.1.2]
  simp

variable {budget operation} in
/-- Only a graph step is charged as one. -/
theorem exists_step_of_charge
    (h : UsageKey.graphSteps ∈ (operation.charges budget).map Charge.key) :
    ∃ terminal, operation = .consumeGraphStep terminal := by
  cases operation with
  | consumeGraphStep terminal => exact ⟨terminal, rfl⟩
  | completeLlm inputTokens outputTokens =>
    cases inputTokens <;> cases outputTokens <;> simp [LedgerOperation.charges] at h
  | _ => simp [LedgerOperation.charges] at h

end Charges

/-! ## Runs -/

/-- A ledger when its run starts. -/
def RunLedger.start (runId : String) (budget : LedgerBudget) (started : ℚ) : RunLedger :=
  { runId, budget, started }

/-- Make some calls, one after the other. -/
def performAll (ledger : RunLedger) (calls : List LedgerCall) : RunLedger :=
  calls.foldl (fun ledger call => (call.perform.outcome ledger).2) ledger

/-- A call for a terminal step. -/
def LedgerCall.isTerminalStep (call : LedgerCall) : Bool :=
  match call.operation with
  | .consumeGraphStep terminal => terminal
  | _ => false

/-- Every counter is within its limit, and only terminal steps use the reserve. -/
structure StepsReserved (budget : LedgerBudget) (terminalSteps : ℕ) (ledger : RunLedger) :
    Prop where
  budget_eq : ledger.budget = budget
  within : ∀ key maximum, budget.maximum? key = some maximum → ledger.values key ≤ maximum
  steps_le : ledger.values .graphSteps ≤
    budget.maxGraphSteps - budget.terminalStepReserve + terminalSteps

section Runs

variable {budget : LedgerBudget} {terminalSteps : ℕ} {ledger : RunLedger}

theorem stepsReserved_start (runId : String) (budget : LedgerBudget) (started : ℚ) :
    StepsReserved budget 0 (.start runId budget started) :=
  ⟨rfl, fun _ _ _ => Nat.zero_le _, Nat.zero_le _⟩

/-- What one call keeps. -/
theorem stepsReserved_perform (h : StepsReserved budget terminalSteps ledger) (call : LedgerCall) :
    StepsReserved budget (terminalSteps + if call.isTerminalStep then 1 else 0)
      (call.perform.outcome ledger).2 := by
  have hsettled := Metered.settled_perform ledger call
  rcases hresult : (call.perform.outcome ledger).1 with error | ⟨⟩
  · have hvalues := hsettled.raised error hresult
    refine ⟨hsettled.budget_eq.trans h.budget_eq, ?_, ?_⟩
    · rw [hvalues]
      exact h.within
    · rw [hvalues]
      exact h.steps_le.trans (Nat.add_le_add_left (Nat.le_add_right _ _) _)
  obtain ⟨hfits, hvalues⟩ := hsettled.returned hresult
  rw [h.budget_eq] at hfits hvalues
  refine ⟨hsettled.budget_eq.trans h.budget_eq, fun key maximum hmaximum => ?_, ?_⟩
  · rw [hvalues]
    by_cases hmem : key ∈ (call.operation.charges budget).map Charge.key
    · obtain ⟨charge, hcharge, rfl⟩ := List.mem_map.mp hmem
      rw [charged_of_mem (charges_nodup budget call.operation) hcharge]
      obtain ⟨limit, hlimit, hle⟩ := charges_limit budget call.operation hcharge hmaximum
      exact (hfits charge hcharge limit hlimit).trans hle
    · rw [charged_of_not_mem hmem]
      exact h.within key maximum hmaximum
  · rw [hvalues]
    by_cases hstep : ∃ terminal, call.operation = .consumeGraphStep terminal
    · obtain ⟨terminal, hoperation⟩ := hstep
      have hcharge : ⟨.graphSteps, 1, some (if terminal then budget.maxGraphSteps
          else budget.maxGraphSteps - budget.terminalStepReserve)⟩ ∈
            call.operation.charges budget := by
        rw [hoperation]
        exact List.mem_singleton_self _
      rw [charged_of_mem (charges_nodup budget call.operation) hcharge, LedgerCall.isTerminalStep,
        hoperation]
      have hfit := hfits _ hcharge _ rfl
      have hsteps := h.steps_le
      cases terminal with
      | true =>
        dsimp only at hfit ⊢
        rw [if_pos rfl]
        omega
      | false =>
        rw [if_neg Bool.false_ne_true] at hfit
        dsimp only at hfit ⊢
        omega
    · rw [charged_of_not_mem (mt exists_step_of_charge hstep)]
      exact h.steps_le.trans (Nat.add_le_add_left (Nat.le_add_right _ _) _)

/-- What all calls keep. -/
theorem stepsReserved_performAll (h : StepsReserved budget terminalSteps ledger)
    (calls : List LedgerCall) :
    StepsReserved budget (terminalSteps + calls.countP LedgerCall.isTerminalStep)
      (performAll ledger calls) := by
  induction calls generalizing ledger terminalSteps with
  | nil => exact h
  | cons call calls ih =>
    have hrest := ih (stepsReserved_perform h call)
    rw [List.countP_cons, Nat.add_comm (calls.countP _), ← Nat.add_assoc]
    exact hrest

theorem started_performAll (ledger : RunLedger) (calls : List LedgerCall) :
    (performAll ledger calls).started = ledger.started := by
  induction calls generalizing ledger with
  | nil => rfl
  | cons call calls ih => exact (ih _).trans (Metered.settled_perform ledger call).started_eq

/-- A terminal step is granted in time while a step is left. -/
theorem perform_terminalStep {clock : ClockReadings} (hopen : ¬ ledger.Passed clock.now)
    (hleft : ledger.values .graphSteps < ledger.budget.maxGraphSteps) :
    ((LedgerCall.perform ⟨.consumeGraphStep true, clock⟩).outcome ledger).1 = .ok () := by
  unfold LedgerCall.perform Metered.consumeGraphStep Metered.consume
  rcases Metered.outcome_look ledger clock _ with ⟨error, hpassed, -⟩ | ⟨remaining, -, hread⟩
  · exact absurd hpassed hopen
  · rw [hread]
    simp only [Metered.outcome_bind, Metered.outcome_get, Metered.outcome_ite,
      Metered.outcome_throw, Metered.outcome_set, if_true]
    rw [if_neg (by omega)]

/-- The deadline stays passed. -/
theorem RunLedger.Passed.mono {now later : ℚ} (h : ledger.Passed now) (hle : now ≤ later) :
    ledger.Passed later := by
  have hround : roundHalfEven ((now - ledger.started) * 1000) ≤
      roundHalfEven ((later - ledger.started) * 1000) := roundHalfEven_mono (by linarith)
  exact h.trans (max_le_max le_rfl hround)

end Runs

/-! ## The limits -/

/-- What the calls read from the clock, in order. -/
def clockReadings (calls : List LedgerCall) : List ℚ :=
  calls.flatMap fun call => [call.clock.now, call.clock.again]

/-- The clock never goes back. -/
def NonDecreasing (started : ℚ) (calls : List LedgerCall) : Prop :=
  (started :: clockReadings calls).Pairwise (· ≤ ·)

/-- What the budget promises about a call after some others. -/
structure BudgetHolds (start : RunLedger) (calls : List LedgerCall) (call : LedgerCall) : Prop where
  /-- Every counter that has a limit is within it, before and after. -/
  within : ∀ key maximum, start.budget.maximum? key = some maximum →
    (performAll start calls).values key ≤ maximum ∧
      (performAll start (calls ++ [call])).values key ≤ maximum
  /-- A call that raises changes no counter. -/
  unchanged : ∀ error, (call.perform.outcome (performAll start calls)).1 = .error error →
    (performAll start (calls ++ [call])).values = (performAll start calls).values
  /-- Without terminal steps the reserve is not used. -/
  reserve : (calls ++ [call]).countP LedgerCall.isTerminalStep = 0 →
    (performAll start (calls ++ [call])).values .graphSteps ≤
      start.budget.maxGraphSteps - start.budget.terminalStepReserve
  /-- A terminal step is granted before the deadline while the reserve is larger than the number
  of terminal steps so far. -/
  terminalSteps : call.operation = .consumeGraphStep true → ¬ start.Passed call.clock.now →
    calls.countP LedgerCall.isTerminalStep < start.budget.terminalStepReserve →
      (call.perform.outcome (performAll start calls)).1 = .ok ()
  /-- After the deadline nothing is consumed. -/
  late : call.operation.consumes = true →
    (∃ reading ∈ start.started :: clockReadings calls ++ [call.clock.now], start.Passed reading) →
      ∃ error, (call.perform.outcome (performAll start calls)).1 = .error error

/-- No reading before a call is later than the one that it decides with. -/
theorem le_of_mem_readings {started : ℚ} {calls : List LedgerCall} {call : LedgerCall}
    (h : NonDecreasing started (calls ++ [call])) {reading : ℚ}
    (hreading : reading ∈ started :: clockReadings calls ++ [call.clock.now]) :
    reading ≤ call.clock.now := by
  have hsplit : started :: clockReadings (calls ++ [call]) =
      (started :: clockReadings calls) ++ [call.clock.now, call.clock.again] := by
    rw [clockReadings, List.flatMap_append]
    rfl
  rw [NonDecreasing, hsplit] at h
  rcases List.mem_append.mp hreading with hearlier | hown
  · exact (List.pairwise_append.mp h).2.2 reading hearlier _ List.mem_cons_self
  · exact (List.mem_singleton.mp hown).le

theorem performAll_concat (ledger : RunLedger) (calls : List LedgerCall) (call : LedgerCall) :
    performAll ledger (calls ++ [call]) =
      (call.perform.outcome (performAll ledger calls)).2 := by
  rw [performAll, List.foldl_append]
  rfl

/-- Some terminal steps leave a step for the next one while the reserve is larger. -/
theorem steps_left {budget : LedgerBudget} {terminalSteps : ℕ} {ledger : RunLedger}
    (h : StepsReserved budget terminalSteps ledger)
    (hterminal : terminalSteps < budget.terminalStepReserve) :
    ledger.values .graphSteps < ledger.budget.maxGraphSteps := by
  have hsteps := h.steps_le
  have hreserve := budget.terminalStepReserve_lt
  rw [h.budget_eq]
  omega

/-- The budget is a hard limit: for every run of calls, and the call after them. -/
theorem budgetHolds (runId : String) (budget : LedgerBudget) (started : ℚ)
    (calls : List LedgerCall) (call : LedgerCall)
    (hclock : NonDecreasing started (calls ++ [call])) :
    BudgetHolds (.start runId budget started) calls call := by
  have hstart := stepsReserved_start runId budget started
  have hbefore := stepsReserved_performAll hstart calls
  have hafter := stepsReserved_performAll hstart (calls ++ [call])
  have hsettled := Metered.settled_perform (performAll (.start runId budget started) calls) call
  have hstarted := started_performAll (.start runId budget started) calls
  -- the deadline is the same before and after the calls
  have hpassed (now : ℚ) : (performAll (.start runId budget started) calls).Passed now ↔
      (RunLedger.start runId budget started).Passed now := by
    rw [RunLedger.Passed, RunLedger.Passed, RunLedger.elapsedMs, RunLedger.elapsedMs, hstarted,
      hbefore.budget_eq]
    exact Iff.rfl
  refine ⟨fun key maximum hmaximum => ⟨?_, ?_⟩, fun error hraised => ?_, fun hnone => ?_,
    fun hstep hopen hleft => ?_, fun hconsumes hlate => ?_⟩
  · exact hbefore.within key maximum hmaximum
  · exact hafter.within key maximum hmaximum
  · rw [performAll_concat]
    exact hsettled.raised error hraised
  · have hsteps := hafter.steps_le
    rw [hnone] at hsteps
    exact hsteps
  · obtain ⟨operation, clock⟩ := call
    obtain rfl : operation = .consumeGraphStep true := hstep
    refine perform_terminalStep (mt (hpassed _).mp hopen) (steps_left hbefore ?_)
    rwa [Nat.zero_add]
  · obtain ⟨reading, hreading, hreached⟩ := hlate
    have hle := le_of_mem_readings hclock hreading
    rcases hresult : (call.perform.outcome (performAll (.start runId budget started) calls)).1 with
      error | ⟨⟩
    · exact ⟨error, rfl⟩
    · exact absurd ((hpassed _).mpr (hreached.mono hle)) (hsettled.inTime hconsumes hresult)

section Late

/-- A call of a model in the second second. -/
def earlyLlmCall : LedgerCall := ⟨.consumeLlmCall 100, ⟨1, 1⟩⟩

/-- Its answer after the deadline of two minutes. -/
def lateCompletion : LedgerCall := ⟨.completeLlm (some 10) (some 20), ⟨121, 121⟩⟩

theorem nonDecreasing_late : NonDecreasing 0 ([earlyLlmCall] ++ [lateCompletion]) := by
  change ([0, 1, 1, 121, 121] : List ℚ).Pairwise (· ≤ ·)
  decide +kernel

theorem budgetHolds_late :
    NonDecreasing 0 ([earlyLlmCall] ++ [lateCompletion]) ∧
      BudgetHolds (.start "run" {} 0) [earlyLlmCall] lateCompletion :=
  ⟨nonDecreasing_late, budgetHolds "run" {} 0 [earlyLlmCall] lateCompletion nonDecreasing_late⟩

/-- The tokens of a call are added to counters that have limits, after the deadline. -/
theorem exists_charge_after_deadline :
    ∃ (budget : LedgerBudget) (calls : List LedgerCall) (call : LedgerCall),
      NonDecreasing 0 (calls ++ [call]) ∧ call.operation.ChargesLimited budget ∧
      (RunLedger.start "run" budget 0).Passed call.clock.now ∧
      (call.perform.outcome (performAll (.start "run" budget 0) calls)).1 = .ok () ∧
      (performAll (.start "run" budget 0) (calls ++ [call])).values .inputTokens =
        (performAll (.start "run" budget 0) calls).values .inputTokens + 10 := by
  refine ⟨{}, [earlyLlmCall], lateCompletion, nonDecreasing_late,
    (chargesLimited_iff _ _).mpr (.inr ⟨10, 20, rfl⟩), ?_, ?_, ?_⟩
  · decide +kernel
  · decide +kernel
  · decide +kernel

end Late

end TravelPlanAgent
