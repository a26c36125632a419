import TravelPlanAgent.Lifecycle.SessionInvariant

/-!
# A thread that raised

A node that raises leaves its thread at that node, without an interrupt.  `resume_lifecycle`
accepts a request only for an interrupt that is pending, and never runs the node again, so the
session answers no later request.

* `Recovers`: what a request that raises should leave behind.
* `resume_of_stuck`: a stuck session refuses every request and stays as it is.
* `stuck_of_raised`: every request that raises leaves a stuck session.
* `not_recovers_of_raised`: so no request that raises leaves what it should.
-/

namespace TravelPlanAgent

variable [Platform]

variable {config : LifecycleConfig} {session : PlanSession}

/-! ## What a failed request should leave behind -/

/-- The record is as before, up to the note of a failed weather refresh. -/
def RecordKept (before after : PlanSessionRecord) : Prop :=
  after = before ∨ ∃ code now,
    after = { markWeatherFailed before code now with
      sessionRevision := before.sessionRevision + 1 }

/-- The record is kept, an interrupt is pending, and some later request is accepted. -/
structure Recovers (config : LifecycleConfig) (before after : PlanSession) : Prop where
  record : RecordKept before.record after.record
  pending : after.pendingInterrupts ≠ []
  accepted : ∃ requirements services interruptId request message,
    (resume config requirements services interruptId after request).1 = .completed message

/-! ## Stuck sessions -/

/-- The thread stands at a node that raised. -/
def Stuck (session : PlanSession) : Prop :=
  session.record.status ≠ .needsRequirementClarification ∧
    ∃ state node, session.thread = some ⟨state, .stuckAt node⟩

omit [Platform] in
theorem Stuck.pendingInterrupts (h : Stuck session) : session.pendingInterrupts = [] := by
  obtain ⟨-, state, node, hthread⟩ := h
  unfold PlanSession.pendingInterrupts
  rw [hthread]

/-- A stuck session replays what it has, refuses everything else, and stays as it is. -/
theorem resume_of_stuck (h : Stuck session)
    (requirements : String → Result RequirementOutcome) (services : ℕ → LifecycleServices)
    (interruptId : String) (request : LifecycleResumeRequest) :
    (resume config requirements services interruptId session request).2 = session ∧
      ((∃ receipt, (resume config requirements services interruptId session request).1 =
          .replayed receipt) ∨
        (resume config requirements services interruptId session request).1 =
          .rejected (.lifecycleConflict "stale_interrupt")) := by
  obtain ⟨hstatus, state, node, hthread⟩ := id h
  unfold resume
  cases hreceipt : session.record.receipts.get? request.requestId with
  | some receipt => exact ⟨rfl, .inl ⟨receipt, rfl⟩⟩
  | none =>
    dsimp only
    rw [if_neg hstatus]
    unfold resumeLifecycle
    rw [hreceipt, hthread]
    dsimp only
    rw [h.pendingInterrupts, if_neg List.not_mem_nil]
    exact ⟨rfl, .inr rfl⟩

/-! ## Requests that raise -/

/-- The requirements are clear once the graph runs, and stay clear. -/
theorem status_of_planStep {record after : PlanSessionRecord}
    (h : record.status ≠ .needsRequirementClarification) (step : PlanStep config record after) :
    after.status ≠ .needsRequirementClarification := by
  cases step with
  | unchanged => exact h
  | clarified request outcome after status clarifies => exact absurd status h
  | weather after same => rw [same.status]; exact h
  | changed request plan after step same =>
    rw [same.status]
    cases step with
    | settled status eventId settles => rcases settles with rfl | rfl | rfl <;> nofun
    | selected => nofun
    | locked => nofun
    | previewed version preview =>
      change (if previewValid preview.hardValidation then PlanSessionStatus.awaitingChangeApproval
        else .changeRejected) ≠ _
      split <;> nofun
    | rejected => nofun
    | approved => nofun

omit [Platform] in
theorem thread_of_raised {runEnd : RunEnd} {failure : Failure}
    (h : replyOf runEnd = .raised failure) (interruptId : String) :
    ∃ state node, (sessionAfter interruptId runEnd).thread = some ⟨state, .stuckAt node⟩ := by
  cases runEnd with
  | paused record state payload => cases h
  | raised record node state failure => exact ⟨state, node, rfl⟩

omit [Platform] in
theorem stuck_of_resumeRequirement {requirements : String → Result RequirementOutcome}
    {services : LifecycleServices} {interruptId : String} {request : LifecycleResumeRequest}
    {failure : Failure}
    (h : (resumeRequirement requirements services interruptId session request).1 =
      .raised failure) :
    Stuck (resumeRequirement requirements services interruptId session request).2 := by
  revert h
  unfold resumeRequirement
  split
  · exact nofun
  · next record hanswer =>
    split
    · exact nofun
    · next hstatus =>
      intro h
      refine ⟨?_, thread_of_raised h interruptId⟩
      rw [record_startLifecycle]
      exact hstatus

theorem stuck_of_resumeLifecycle {services : ℕ → LifecycleServices} {interruptId : String}
    {request : LifecycleResumeRequest} {failure : Failure}
    (hstatus : session.record.status ≠ .needsRequirementClarification)
    (h : (resumeLifecycle config services interruptId session request).1 = .raised failure) :
    Stuck (resumeLifecycle config services interruptId session request).2 := by
  have hafter : (resumeLifecycle config services interruptId session request).2.record.status ≠
      .needsRequirementClarification := resumeLifecycle_preserves
    (motive := fun record => record.status ≠ .needsRequirementClarification)
    (fun _ _ _ _ _ hmotive hexec => status_of_planStep hmotive (planStep_execNode hexec))
    services interruptId request hstatus
  refine ⟨hafter, ?_⟩
  revert h
  unfold resumeLifecycle
  split
  · exact nofun
  · split
    · exact nofun
    · split
      · exact fun h => thread_of_raised h interruptId
      · exact nofun

/-- Every request that raises leaves a stuck session. -/
theorem stuck_of_raised {requirements : String → Result RequirementOutcome}
    {services : ℕ → LifecycleServices} {interruptId : String} {request : LifecycleResumeRequest}
    {failure : Failure}
    (h : (resume config requirements services interruptId session request).1 =
      .raised failure) :
    Stuck (resume config requirements services interruptId session request).2 := by
  revert h
  unfold resume
  split
  · exact nofun
  · split
    · exact stuck_of_resumeRequirement
    · next hstatus => exact stuck_of_resumeLifecycle hstatus

theorem Stuck.not_recovers (h : Stuck session) (before : PlanSession) :
    ¬ Recovers config before session :=
  fun hrecovers => hrecovers.pending h.pendingInterrupts

/-- A rejected action bricks its session: whatever raises inside the graph, in whichever state,
no interrupt is left, and every later request is refused. -/
theorem not_recovers_of_raised {requirements : String → Result RequirementOutcome}
    {services : ℕ → LifecycleServices} {interruptId : String} {request : LifecycleResumeRequest}
    {failure : Failure}
    (h : (resume config requirements services interruptId session request).1 =
      .raised failure) :
    ¬ Recovers config session
        (resume config requirements services interruptId session request).2 ∧
      ∀ later, Later config (resume config requirements services interruptId session request).2
        later → later = (resume config requirements services interruptId session request).2 := by
  have hstuck := stuck_of_raised h
  refine ⟨hstuck.not_recovers session, fun later hlater => ?_⟩
  induction hlater with
  | refl => rfl
  | tail _ hnext ih =>
    obtain ⟨requirements', services', interruptId', request', rfl⟩ := hnext
    rw [ih]
    exact (resume_of_stuck hstuck ..).1

omit [Platform] in
/-- A lock on a day outside the trip raises, and the session is lost. -/
theorem not_recovers_of_raised_sample :
    let := plainPlatform
    let session := Sample.selectedFrom [Sample.draft] Sample.pois
    let after := (Sample.send session "after r1" "r2" (.lock .day "2030-01-01")).2
    ¬ Recovers Sample.config session after ∧
      ∀ later, Later Sample.config after later → later = after :=
  @not_recovers_of_raised plainPlatform _ _ _ _ _ _
    (.lifecycleAction "unknown_day" "锁定日期不存在") (by decide +kernel)

omit [Platform] in
/-- The session was reachable and waited for an action, and the action was only mistyped. -/
theorem exists_reachable_not_recovers :
    let := plainPlatform
    let session := Sample.selectedFrom [Sample.draft] Sample.pois
    let outcome := Sample.send session "after r1" "r2" (.lock .day "2030-01-01")
    Reachable Sample.config session ∧ session.pendingInterrupts = ["after r1"] ∧
      outcome.1 = .raised (.lifecycleAction "unknown_day" "锁定日期不存在") ∧
      outcome.2.record.sessionRevision = session.record.sessionRevision ∧
      ¬ Recovers Sample.config session outcome.2 := by
  have hraised : (Sample.send (Sample.selectedFrom [Sample.draft] Sample.pois) "after r1" "r2"
      (.lock .day "2030-01-01")).1 =
        .raised (.lifecycleAction "unknown_day" "锁定日期不存在") := by decide +kernel
  exact ⟨Sample.reachable_send (Sample.reachable_startedWith ..) .., by decide +kernel, hraised,
    by decide +kernel, @Stuck.not_recovers plainPlatform _ _
      (@stuck_of_raised plainPlatform _ _ _ _ _ _ _ hraised) _⟩

end TravelPlanAgent
