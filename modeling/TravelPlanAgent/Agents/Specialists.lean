import TravelPlanAgent.Execution.Ledger

/-!
# Hand-offs to specialists

In the multi-agent modes a node hands its work to a specialist.  The executor checks the size of
the context and of the answer, the time the work takes and the number of hand-offs of the run.

* `AgentBudget`, `SpecialistExecutor`: the limits.
* `HandoffTerms`: what a hand-off is measured by.
* `SpecialistExecutor.invoke`: one hand-off.
* `HandoffTerms.Within`, `invoke_of_within`: a hand-off within its limits changes nothing.
-/

universe u v

namespace TravelPlanAgent

inductive AgentMode where
  | singleGraph | specialistSubagents | shadowSubagents
  deriving DecidableEq

/-- `AgentBudget` with the bounds of its fields; its deadline is left to the clock. -/
structure AgentBudget where
  maxContextCharacters : ℕ := 40000
  maxOutputCharacters : ℕ := 120000
  maxContextCharacters_bounds :
    128 ≤ maxContextCharacters ∧ maxContextCharacters ≤ 1000000 := by decide
  maxOutputCharacters_bounds :
    128 ≤ maxOutputCharacters ∧ maxOutputCharacters ≤ 5000000 := by decide

/-- `SpecialistExecutor`. -/
structure SpecialistExecutor where
  maxHandoffs : ℕ := 8
  defaultBudget : AgentBudget := {}
  maxHandoffs_bounds : 1 ≤ maxHandoffs ∧ maxHandoffs ≤ 100 := by decide

/-- What a hand-off is measured by: the characters of its context, whether the work outlasts the
deadline, and whether the trace still has room for the start event. -/
structure HandoffTerms where
  contextCharacters : ℕ
  timesOut : Bool
  recorded : Bool

/-- Count a hand-off that the trace records. -/
def RunContext.handoffStarted (run : RunContext) (terms : HandoffTerms) : RunContext :=
  { run with handoffsStarted := run.handoffsStarted + if terms.recorded then 1 else 0 }

/-- The hand-offs of a run that the trace has recorded; without a run none are counted. -/
def recordedHandoffs (run : Option RunContext) : ℕ :=
  match run with
  | none => 0
  | some run => run.handoffsStarted

namespace SpecialistExecutor

variable {α : Type u} {ε : Type v} (executor : SpecialistExecutor)

/-- `invoke`: the work of a specialist, or the reason why it is refused. -/
def invoke (refuse : Failure → ε) (run : Option RunContext) (terms : HandoffTerms)
    (outputCharacters : α → ℕ) (operation : Except ε α) : Except ε α × Option RunContext :=
  if executor.defaultBudget.maxContextCharacters < terms.contextCharacters then
    (.error (refuse (.specialistRejected "context_budget_exceeded")), run)
  else if run.isSome ∧ executor.maxHandoffs ≤ recordedHandoffs run then
    (.error (refuse (.specialistRejected "handoff_budget_exceeded")), run)
  else
    let run := run.map fun run => run.handoffStarted terms
    if terms.timesOut then (.error (refuse .specialistTimeout), run)
    else match operation with
      | .error e => (.error e, run)
      | .ok a =>
        if executor.defaultBudget.maxOutputCharacters < outputCharacters a then
          (.error (refuse (.specialistRejected "output_budget_exceeded")), run)
        else (.ok a, run)

/-- A hand-off stays within the limits of its executor. -/
structure Within (run : Option RunContext) (terms : HandoffTerms)
    (outputCharacters : α → ℕ) (operation : Except ε α) : Prop where
  context_le : terms.contextCharacters ≤ executor.defaultBudget.maxContextCharacters
  handoffs_lt : run.isSome → recordedHandoffs run < executor.maxHandoffs
  inTime : terms.timesOut = false
  output_le : ∀ a, operation = .ok a →
    outputCharacters a ≤ executor.defaultBudget.maxOutputCharacters

/-- A hand-off within its limits answers what the work itself does. -/
theorem invoke_of_within {executor : SpecialistExecutor} {refuse : Failure → ε}
    {run : Option RunContext} {terms : HandoffTerms} {outputCharacters : α → ℕ}
    {operation : Except ε α} (h : executor.Within run terms outputCharacters operation) :
    executor.invoke refuse run terms outputCharacters operation =
      (operation, run.map fun run => run.handoffStarted terms) := by
  have hcontext := h.context_le
  have hhandoffs : ¬(run.isSome ∧ executor.maxHandoffs ≤ recordedHandoffs run) := by
    rintro ⟨hsome, hle⟩
    have hlt := h.handoffs_lt hsome
    omega
  unfold invoke
  rw [if_neg (by omega), if_neg hhandoffs]
  dsimp only
  rw [h.inTime, if_neg (by decide)]
  cases hoperation : operation with
  | error e => rfl
  | ok a =>
    have houtput := h.output_le a hoperation
    dsimp only
    rw [if_neg (by omega)]

end SpecialistExecutor

end TravelPlanAgent
