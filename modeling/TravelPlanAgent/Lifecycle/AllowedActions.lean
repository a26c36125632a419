import TravelPlanAgent.Lifecycle.Positions

/-!
# The table of allowed actions

An interrupt advertises the kinds of action that it accepts, and every node tests the status of
the session for itself.  The two agree for every kind but one: a dismissal tests no status.

* `Refused`: the record is as before, and the answer is a replay, a lifecycle error or a fault.
* `exists_failure_of_not_allowed`: every node but one refuses what is not advertised.
* `AdmitsDismissal`: what a dismissal tests instead of the status.
* `refused_iff`: a request that is not advertised is refused unless it is such a dismissal.
-/

namespace TravelPlanAgent

open Calendar

variable [Platform]

/-! ## Refusals -/

/-- The errors that the API answers with: an action error, a conflict, an unknown session. -/
def Failure.isLifecycle : Failure → Bool
  | .lifecycleAction _ _ => true
  | .lifecycleConflict _ => true
  | .lifecycleNotFound => true
  | _ => false

/-- An answer that is a replay, a lifecycle error, or a fault of the environment. -/
def IsRefusal (services : ℕ → LifecycleServices) (session : PlanSession)
    (request : LifecycleResumeRequest) : ResumeReply → Prop
  | .replayed receipt => session.record.receipts.get? request.requestId = some receipt
  | .rejected failure => failure.isLifecycle = true
  | .completed _ => False
  | .raised failure => failure.isLifecycle = true ∨ ∃ n, (services n).fault = some failure

/-- A request that changes nothing in the record and is answered with a refusal. -/
structure Refused (services : ℕ → LifecycleServices) (session : PlanSession)
    (request : LifecycleResumeRequest) (answer : ResumeReply × PlanSession) : Prop where
  record : answer.2.record = session.record
  reply : IsRefusal services session request answer.1

/-! ## The tests of the nodes -/

section Guards

variable {config : LifecycleConfig} {services : LifecycleServices} {state : LifecycleState}
  {session : PlanSessionRecord} {request : LifecycleResumeRequest}

omit [Platform] in
theorem requestOf_eq_ok_of_action (h : state.action = some request) :
    requestOf state = .ok request := by
  rw [requestOf, h]
  rfl

omit [Platform] in
/-- The expectations of a request are met, or it is refused with a conflict. -/
theorem ensureExpected_cases (session : PlanSessionRecord) (request : LifecycleResumeRequest) :
    ensureExpected session request = .ok () ∨
      ∃ code, ensureExpected session request = .error (.lifecycleConflict code) := by
  unfold ensureExpected require
  split
  · split
    · exact .inl rfl
    · exact .inr ⟨"stale_version", rfl⟩
  · exact .inr ⟨"stale_revision", rfl⟩

omit [Platform] in
/-- A test that fails after the expectations were checked ends in a lifecycle error. -/
theorem exists_failure_of_guard {α : Type} {p : Prop} [Decidable p] {failure : Failure}
    {rest : Result α} (hp : ¬ p) (hfailure : failure.isLifecycle = true) :
    ∃ f : Failure, (do
      ensureExpected session request
      require p failure
      rest) = .error f ∧ f.isLifecycle = true := by
  rcases ensureExpected_cases session request with hok | ⟨code, herror⟩
  · refine ⟨failure, ?_, hfailure⟩
    rw [hok, require, if_neg hp]
    rfl
  · refine ⟨.lifecycleConflict code, ?_, rfl⟩
    rw [herror]
    rfl

omit [Platform] in
/-- What can be changed is advertised as such. -/
theorem not_isEditable_of_not_mem {kind : String}
    (hplan : kind ∈ ["lock", "unlock", "edit", "edit_text", "refresh_weather"])
    (h : kind ∉ allowedActions session) : isEditable session.status ≠ true := by
  intro heditable
  rcases of_decide_eq_true heditable with hstatus | hstatus | hstatus <;>
    exact h (by rw [allowedActions, hstatus]; exact List.mem_append_left _ hplan)

theorem exists_failure_selectCandidate (hrequest : requestOf state = .ok request)
    (h : session.status ≠ .awaitingCandidateSelection) :
    ∃ failure, selectCandidate state session = .error failure ∧ failure.isLifecycle = true := by
  unfold selectCandidate
  rw [hrequest]
  exact exists_failure_of_guard h rfl

theorem exists_failure_changeLock (hrequest : requestOf state = .ok request)
    (h : isEditable session.status ≠ true) :
    ∃ failure, changeLock state session = .error failure ∧ failure.isLifecycle = true := by
  unfold changeLock
  rw [hrequest]
  exact exists_failure_of_guard h rfl

omit [Platform] in
theorem exists_failure_parseEdit (hrequest : requestOf state = .ok request)
    (h : isEditable session.status ≠ true) :
    ∃ failure, parseEdit services state session = .error failure ∧
      failure.isLifecycle = true := by
  unfold parseEdit
  rw [hrequest]
  exact exists_failure_of_guard h rfl

theorem exists_failure_resolveApproval (hrequest : requestOf state = .ok request)
    (h : session.status ≠ .awaitingChangeApproval) :
    ∃ failure, resolveApproval config state session = .error failure ∧
      failure.isLifecycle = true := by
  unfold resolveApproval
  rw [hrequest]
  exact exists_failure_of_guard h rfl

omit [Platform] in
theorem exists_failure_applyEditClarification {itemId : String}
    (hrequest : requestOf state = .ok request) (hitem : clarifiedItemId request.action = .ok itemId)
    (h : session.status ≠ .needsEditClarification) :
    ∃ failure, applyEditClarification state session = .error failure ∧
      failure.isLifecycle = true := by
  unfold applyEditClarification
  rw [hrequest]
  dsimp only [bind, Except.bind]
  rw [hitem]
  exact exists_failure_of_guard h rfl

omit [Platform] in
theorem exists_failure_resolveWeatherLocation (hrequest : requestOf state = .ok request)
    (h : isEditable session.status ≠ true) :
    ∃ failure, resolveWeatherLocation config services state session = .error failure ∧
      failure.isLifecycle = true := by
  unfold resolveWeatherLocation
  rw [hrequest]
  by_cases henabled : config.weatherEnabled = true
  · rcases ensureExpected_cases session request with hok | ⟨code, herror⟩
    · refine ⟨.lifecycleConflict (if session.status = .awaitingChangeApproval
        then "pending_preview_exists" else "invalid_lifecycle_state"), ?_, rfl⟩
      simp only [bind, Except.bind, hok, require, if_pos henabled, if_neg h]
    · refine ⟨.lifecycleConflict code, ?_, rfl⟩
      simp only [bind, Except.bind, herror]
  · exact exists_failure_of_guard henabled rfl

/-- A node refuses an action that its session does not advertise, unless it is a dismissal. -/
theorem exists_failure_of_not_allowed {node : LifecycleNode}
    (hkind : request.action.kind ∉ allowedActions session)
    (hother : ∀ eventId, request.action ≠ .dismissWeatherEvent eventId)
    (haction : state.action = some request) (hroute : routeAction request.action = .ok node) :
    ∃ failure, execNode config services state session node = .error failure ∧
      failure.isLifecycle = true := by
  have hrequest := requestOf_eq_ok_of_action haction
  obtain ⟨interruptId, requestId, versionId, revision, action⟩ := request
  -- In the three statuses that wait for an answer, the answers are what is advertised.
  have hselect (hmem : action.kind ∈ ["accept_recommendation", "select_candidate"]) :
      session.status ≠ .awaitingCandidateSelection := by
    intro hstatus
    rw [allowedActions, hstatus] at hkind
    exact hkind hmem
  have happroval (hmem : action.kind ∈ ["approve_preview", "reject_preview"]) :
      session.status ≠ .awaitingChangeApproval := by
    intro hstatus
    rw [allowedActions, hstatus] at hkind
    exact hkind hmem
  have hclarify (hmem : action.kind ∈ ["clarify_edit"]) :
      session.status ≠ .needsEditClarification := by
    intro hstatus
    rw [allowedActions, hstatus] at hkind
    exact hkind hmem
  have hplan (hmem : action.kind ∈ ["lock", "unlock", "edit", "edit_text", "refresh_weather"]) :
      isEditable session.status ≠ true :=
    not_isEditable_of_not_mem hmem hkind
  cases action with
  | acceptRecommendation =>
    cases hroute
    exact exists_failure_selectCandidate hrequest (hselect (by simp [LifecycleAction.kind]))
  | selectCandidate candidateId =>
    cases hroute
    exact exists_failure_selectCandidate hrequest (hselect (by simp [LifecycleAction.kind]))
  | lock kind targetId =>
    cases hroute
    exact exists_failure_changeLock hrequest (hplan (by simp [LifecycleAction.kind]))
  | unlock kind targetId =>
    cases hroute
    exact exists_failure_changeLock hrequest (hplan (by simp [LifecycleAction.kind]))
  | edit patch =>
    cases hroute
    exact exists_failure_parseEdit hrequest (hplan (by simp [LifecycleAction.kind]))
  | editText text =>
    cases hroute
    exact exists_failure_parseEdit hrequest (hplan (by simp [LifecycleAction.kind]))
  | approvePreview previewId token =>
    cases hroute
    exact exists_failure_resolveApproval hrequest (happroval (by simp [LifecycleAction.kind]))
  | rejectPreview previewId =>
    cases hroute
    exact exists_failure_resolveApproval hrequest (happroval (by simp [LifecycleAction.kind]))
  | clarifyRequirement answer => cases hroute
  | clarifyEdit itemId =>
    cases hroute
    exact exists_failure_applyEditClarification hrequest rfl
      (hclarify (by simp [LifecycleAction.kind]))
  | refreshWeather =>
    cases hroute
    exact exists_failure_resolveWeatherLocation hrequest (hplan (by simp [LifecycleAction.kind]))
  | dismissWeatherEvent eventId => exact absurd rfl (hother eventId)

end Guards

/-! ## Dismissals -/

/-- What a dismissal tests: an event that is kept and still open.  It asks neither for the status
of the session nor for the event that the session points at. -/
structure Dismissible (session : PlanSessionRecord) (eventId : String) : Prop where
  event : session.weatherEvents.contains eventId = true
  receipt : ∃ receipt, session.weatherMonitor.eventReceipts.get? eventId = some receipt ∧
    (receipt.status = .needsUserAttention ∨ receipt.status = .observed)

/-- A dismissal that reaches its node, meets the expectations of its request and finds its event
open. -/
structure AdmitsDismissal (services : ℕ → LifecycleServices) (session : PlanSession)
    (request : LifecycleResumeRequest) : Prop where
  fresh : session.record.receipts.get? request.requestId = none
  pending : request.interruptId ∈ session.pendingInterrupts
  running : ∀ n ∈ [recursionLimit, recursionLimit - 1, recursionLimit - 3],
    (services n).fault = none
  expected : ensureExpected session.record request = .ok ()
  event : ∃ eventId, request.action = .dismissWeatherEvent eventId ∧
    Dismissible session.record eventId

section Dismissals

variable {config : LifecycleConfig} {services : LifecycleServices} {state : LifecycleState}
  {session : PlanSessionRecord} {request : LifecycleResumeRequest} {eventId : String}

omit [Platform] in
/-- A dismissal that is saved was expected, and its event was open. -/
theorem dismissible_of_eq_ok {outcome : NodeOutcome} (haction : state.action = some request)
    (hdismiss : request.action = .dismissWeatherEvent eventId)
    (h : dismissWeatherEvent state session = .ok outcome) :
    ensureExpected session request = .ok () ∧ Dismissible session eventId := by
  unfold dismissWeatherEvent at h
  obtain ⟨request', hrequest, h⟩ := bind_eq_ok h
  obtain rfl : request = request' :=
    Except.ok.inj ((requestOf_eq_ok_of_action haction).symm.trans hrequest)
  obtain ⟨eventId', hevent, h⟩ := bind_eq_ok h
  rw [hdismiss] at hevent
  obtain rfl : eventId = eventId' := Except.ok.inj hevent
  obtain ⟨_, hexpected, h⟩ := bind_eq_ok h
  dsimp only at h
  obtain ⟨event, hget, h⟩ := bind_eq_ok h
  obtain ⟨receipt, hreceipt, h⟩ := bind_eq_ok h
  obtain ⟨_, hopen, -⟩ := bind_eq_ok h
  refine ⟨hexpected, ?_, receipt, orRaise_eq_ok hreceipt, require_eq_ok hopen⟩
  rw [Dict.contains, orRaise_eq_ok hget]
  rfl

omit [Platform] in
/-- A dismissal that is expected, of an open event, is saved under the next revision. -/
theorem exists_saved_of_dismissible (haction : state.action = some request)
    (hdismiss : request.action = .dismissWeatherEvent eventId)
    (hexpected : ensureExpected session request = .ok ()) (hopen : Dismissible session eventId) :
    ∃ record after, dismissWeatherEvent state session = .ok (.saved record after) ∧
      record.sessionRevision = session.sessionRevision + 1 := by
  obtain ⟨hevent, receipt, hreceipt, hopen⟩ := hopen
  obtain ⟨event, hget⟩ := Option.isSome_iff_exists.mp hevent
  have hrequest := requestOf_eq_ok_of_action haction
  unfold dismissWeatherEvent
  simp only [hrequest, hdismiss, hexpected, hget, hreceipt, orRaise, require, if_pos hopen,
    dismissedEventId, bind, Except.bind, pure, Except.pure]
  have hsame := samePlan_updateEventReceipt session eventId fun receipt =>
    { receipt with status := .dismissed }
  exact ⟨_, _, rfl, congrArg (· + 1) hsame.sessionRevision⟩

omit [Platform] in
/-- A dismissal that is not saved is refused. -/
theorem isLifecycle_of_dismissal {failure : Failure} (haction : state.action = some request)
    (hdismiss : request.action = .dismissWeatherEvent eventId)
    (h : dismissWeatherEvent state session = .error failure) : failure.isLifecycle = true := by
  unfold dismissWeatherEvent at h
  rw [requestOf_eq_ok_of_action haction] at h
  dsimp only [bind, Except.bind] at h
  rw [hdismiss] at h
  dsimp only [dismissedEventId] at h
  rcases ensureExpected_cases session request with hok | ⟨code, herror⟩
  · rw [hok] at h
    dsimp only at h
    cases hevent : session.weatherEvents.get? eventId with
    | none =>
      rw [hevent] at h
      cases h
      rfl
    | some event =>
      cases hreceipt : session.weatherMonitor.eventReceipts.get? eventId with
      | none =>
        rw [hevent, hreceipt] at h
        cases h
        rfl
      | some receipt =>
        rw [hevent, hreceipt] at h
        dsimp only [orRaise, require] at h
        split at h
        · next hif =>
          split at hif
          · cases hif
          · cases hif
            cases h
            rfl
        · cases h
  · rw [herror] at h
    cases h
    rfl

end Dismissals

/-! ## Requests -/

section Requests

variable {config : LifecycleConfig} {services : ℕ → LifecycleServices}
  {record : PlanSessionRecord} {state : LifecycleState} {request : LifecycleResumeRequest}
  {payload : InterruptPayload} {node : LifecycleNode}

/-- A run that ends with the record as it was, in a lifecycle error or a fault. -/
structure RefusedRun (services : ℕ → LifecycleServices) (record : PlanSessionRecord)
    (runEnd : RunEnd) : Prop where
  record : runEnd.record = record
  raised : ∃ failure, replyOf runEnd = .raised failure ∧
    (failure.isLifecycle = true ∨ ∃ n, (services n).fault = some failure)

/-- A dispatched request runs its node third, after the interrupt and the dispatch. -/
theorem runRequest_eq (hpayload : interruptPayload record state = .ok payload)
    (hroute : routeAction request.action = .ok node)
    (hinterrupt : (services recursionLimit).fault = none)
    (hdispatch : (services (recursionLimit - 1)).fault = none) :
    runRequest config services record state request =
      runNodes config services (recursionLimit - 2) record (dispatched record state request)
        node := by
  have hedge : followEdge record .dispatchAction { state with status := record.status }
      (dispatched record state request) = .next record (dispatched record state request) node := by
    unfold followEdge
    have hnext : nextNode (dispatched record state request) .dispatchAction = .ok node := hroute
    rw [hnext]
  unfold dispatched at hedge ⊢
  simp only [runRequest, hinterrupt, hpayload, hdispatch, hedge]

omit [Platform] in
/-- An action is routed to a node that acts. -/
theorem acts_of_routeAction {action : LifecycleAction} (h : routeAction action = .ok node) :
    node ≠ .awaitUserAction := by
  rintro rfl
  cases action <;> cases h

theorem stepNode_of_fault {services : LifecycleServices} {failure : Failure}
    (h : services.fault = some failure) :
    stepNode config services record state node = .ended (.raised record node state failure) := by
  unfold stepNode
  rw [h]

theorem stepNode_of_error {services : LifecycleServices} {failure : Failure}
    (hfault : services.fault = none) (hacts : node ≠ .awaitUserAction)
    (h : execNode config services state record node = .error failure) :
    stepNode config services record state node = .ended (.raised record node state failure) := by
  unfold stepNode
  rw [hfault]
  cases node with
  | awaitUserAction => exact absurd rfl hacts
  | _ => simp only [h]

theorem runNodes_succ {fuel : ℕ} {runEnd : RunEnd}
    (h : stepNode config (services fuel) record state node = .ended runEnd) :
    runNodes config services (fuel + 1) record state node = runEnd := by
  unfold runNodes
  rw [h]

omit [Platform] in
theorem refusedRun_of_raised {failure : Failure}
    (h : failure.isLifecycle = true ∨ ∃ n, (services n).fault = some failure) :
    RefusedRun services record (.raised record node state failure) :=
  ⟨rfl, failure, rfl, h⟩

omit [Platform] in
/-- An action that has no node is refused. -/
theorem isLifecycle_of_routeAction {action : LifecycleAction} {failure : Failure}
    (h : routeAction action = .error failure) : failure.isLifecycle = true := by
  cases action <;> cases h
  rfl

/-- A request whose node fails is refused. -/
theorem refusedRun_of_failure (hpayload : interruptPayload record state = .ok payload)
    (hfails : ∀ node, routeAction request.action = .ok node →
      (∀ n ∈ [recursionLimit, recursionLimit - 1, recursionLimit - 3],
        (services n).fault = none) →
      ∃ failure, execNode config (services (recursionLimit - 3))
        (dispatched record state request) record node = .error failure ∧
          failure.isLifecycle = true) :
    RefusedRun services record (runRequest config services record state request) := by
  cases hinterrupt : (services recursionLimit).fault with
  | some failure =>
    have hrun : runRequest config services record state request =
        .raised record .awaitUserAction state failure := by
      simp only [runRequest, hinterrupt]
    rw [hrun]
    exact refusedRun_of_raised (.inr ⟨_, hinterrupt⟩)
  | none =>
    cases hdispatch : (services (recursionLimit - 1)).fault with
    | some failure =>
      have hrun : runRequest config services record state request =
          .raised record .dispatchAction { state with status := record.status } failure := by
        simp only [runRequest, hinterrupt, hpayload, hdispatch]
      rw [hrun]
      exact refusedRun_of_raised (.inr ⟨_, hdispatch⟩)
    | none =>
      cases hroute : routeAction request.action with
      | error failure =>
        have hedge : followEdge record .dispatchAction { state with status := record.status }
            (dispatchAction { state with status := record.status } request) =
              .ended (.raised record .dispatchAction { state with status := record.status }
                failure) := by
          unfold followEdge
          have hnext : nextNode (dispatchAction { state with status := record.status } request)
              .dispatchAction = .error failure := hroute
          rw [hnext]
        have hrun : runRequest config services record state request =
            .raised record .dispatchAction { state with status := record.status } failure := by
          simp only [runRequest, hinterrupt, hpayload, hdispatch, hedge]
        rw [hrun]
        exact refusedRun_of_raised (.inl (isLifecycle_of_routeAction hroute))
      | ok node =>
        have hfuel : recursionLimit - 2 = recursionLimit - 3 + 1 := rfl
        rw [runRequest_eq hpayload hroute hinterrupt hdispatch, hfuel]
        cases hnode : (services (recursionLimit - 3)).fault with
        | some fault =>
          rw [runNodes_succ (stepNode_of_fault hnode)]
          exact refusedRun_of_raised (.inr ⟨_, hnode⟩)
        | none =>
          obtain ⟨failure, hfailure, hlifecycle⟩ := hfails node hroute (by
            simp [hinterrupt, hdispatch, hnode])
          rw [runNodes_succ (stepNode_of_error hnode (acts_of_routeAction hroute) hfailure)]
          exact refusedRun_of_raised (.inl hlifecycle)

/-- Once a node has saved, the run ends with what it saved. -/
theorem record_awaitUserAction {fuel : ℕ} :
    (runNodes config services fuel record state .awaitUserAction).record = record := by
  cases fuel with
  | zero => rfl
  | succ fuel =>
    have hrecord := record_stepNode_awaitUserAction config (services fuel) record state
    unfold runNodes
    cases hstep : stepNode config (services fuel) record state .awaitUserAction with
    | ended runEnd =>
      rw [hstep] at hrecord
      exact hrecord
    | next after stateAfter nodeAfter => exact absurd rfl (stepNode_eq_next hstep).acts

variable (config) in
/-- A dismissal that is admitted is saved, whatever the status of the session. -/
theorem sessionRevision_of_dismissal {eventId : String}
    (hpayload : interruptPayload record state = .ok payload)
    (hdismiss : request.action = .dismissWeatherEvent eventId)
    (hrunning : ∀ n ∈ [recursionLimit, recursionLimit - 1, recursionLimit - 3],
      (services n).fault = none)
    (hexpected : ensureExpected record request = .ok ()) (hopen : Dismissible record eventId) :
    (runRequest config services record state request).record.sessionRevision =
      record.sessionRevision + 1 := by
  have hroute : routeAction request.action = .ok .dismissWeatherEvent := by rw [hdismiss]; rfl
  obtain ⟨saved, after, hsaved, hrevision⟩ := exists_saved_of_dismissible
    (show (dispatched record state request).action = some request from rfl) hdismiss hexpected
    hopen
  have hfuel : recursionLimit - 2 = recursionLimit - 3 + 1 := rfl
  rw [runRequest_eq hpayload hroute (hrunning _ (by simp)) (hrunning _ (by simp)), hfuel]
  have hstep : stepNode config (services (recursionLimit - 3)) record
      (dispatched record state request) .dismissWeatherEvent =
        .next saved after .awaitUserAction := by
    unfold stepNode
    rw [hrunning _ (by simp)]
    simp only [execNode, hsaved]
    rfl
  unfold runNodes
  rw [hstep]
  dsimp only
  rw [record_awaitUserAction, hrevision]

end Requests

/-! ## The table is enforced but for dismissals -/

section Enforcement

variable {config : LifecycleConfig} {services : ℕ → LifecycleServices} {session : PlanSession}
  {request : LifecycleResumeRequest}

omit [Platform] in
theorem exists_thread_of_pending {interruptId : String}
    (h : interruptId ∈ session.pendingInterrupts) :
    ∃ state payload, session.thread = some ⟨state, .interrupted interruptId payload⟩ := by
  unfold PlanSession.pendingInterrupts at h
  split at h
  · next state interruptId' payload hthread =>
    obtain rfl := List.mem_singleton.mp h
    exact ⟨state, payload, hthread⟩
  · cases h

omit [Platform] in
theorem refused_of_refusedRun {runEnd : RunEnd} (interruptId : String)
    (h : RefusedRun services session.record runEnd) :
    Refused services session request (replyOf runEnd, sessionAfter interruptId runEnd) := by
  obtain ⟨failure, hreply, hfailure⟩ := h.raised
  refine ⟨?_, ?_⟩
  · rw [record_sessionAfter]
    exact h.record
  · dsimp only
    rw [hreply]
    exact hfailure

/-- The table of allowed actions is enforced, but for dismissals: in every reachable session a
request whose kind is not advertised is refused exactly when it is not a dismissal of an event
that is kept and still open. -/
theorem refused_iff (h : Reachable config session)
    (hkind : request.action.kind ∉ allowedActions session.record)
    (requirements : String → Result RequirementOutcome) (services : ℕ → LifecycleServices)
    (interruptId : String) :
    Refused services session request
        (resume config requirements services interruptId session request) ↔
      ¬ AdmitsDismissal services session request := by
  have hthread := threadInvariant_of_reachable h
  unfold resume
  cases hreceipt : session.record.receipts.get? request.requestId with
  | some receipt =>
    refine ⟨fun _ hadmits => ?_, fun _ => ⟨rfl, hreceipt⟩⟩
    rw [hadmits.fresh] at hreceipt
    cases hreceipt
  | none =>
    dsimp only
    by_cases hunclear : session.record.status = .needsRequirementClarification
    · -- Only an answer is accepted, and there is no thread that a dismissal could resume.
      rw [if_pos hunclear]
      have hanswer : answerRequirement requirements session.record request =
          .error (.lifecycleAction "invalid_action" "当前正在等待需求澄清") := by
        unfold answerRequirement
        split
        · next answer haction =>
          rw [allowedActions, hunclear, haction] at hkind
          exact absurd List.mem_cons_self hkind
        · rfl
      unfold resumeRequirement
      rw [hanswer]
      refine ⟨fun _ hadmits => ?_, fun _ => ⟨rfl, rfl⟩⟩
      obtain ⟨state, payload, hsome⟩ := exists_thread_of_pending hadmits.pending
      rw [hthread.unclear hunclear] at hsome
      cases hsome
    · rw [if_neg hunclear]
      unfold resumeLifecycle
      rw [hreceipt]
      dsimp only
      by_cases hpending : request.interruptId ∈ session.pendingInterrupts
      · obtain ⟨state, payload, hsome⟩ := exists_thread_of_pending hpending
        have hpayload := hthread.payload _ _ _ hsome
        rw [hsome]
        dsimp only
        rw [if_pos hpending]
        constructor
        · intro hrefused hadmits
          obtain ⟨eventId, hdismiss, hopen⟩ := hadmits.event
          have hrevision := sessionRevision_of_dismissal config hpayload hdismiss
            hadmits.running hadmits.expected hopen
          have hrecord := hrefused.record
          rw [record_sessionAfter] at hrecord
          rw [hrecord] at hrevision
          omega
        · intro hadmits
          refine refused_of_refusedRun interruptId (refusedRun_of_failure hpayload ?_)
          intro node hroute hrunning
          by_cases hdismiss : ∃ eventId, request.action = .dismissWeatherEvent eventId
          · obtain ⟨eventId, hdismiss⟩ := hdismiss
            rw [hdismiss] at hroute
            cases hroute
            cases hexec : dismissWeatherEvent (dispatched session.record state request)
                session.record with
            | error failure => exact ⟨failure, hexec, isLifecycle_of_dismissal rfl hdismiss hexec⟩
            | ok outcome =>
              obtain ⟨hexpected, hopen⟩ := dismissible_of_eq_ok rfl hdismiss hexec
              exact absurd ⟨hreceipt, hpending, hrunning, hexpected, eventId, hdismiss, hopen⟩
                hadmits
          · exact exists_failure_of_not_allowed hkind (fun eventId h => hdismiss ⟨eventId, h⟩)
              rfl hroute
      · refine ⟨fun _ hadmits => hpending hadmits.pending, fun _ => ?_⟩
        cases session.thread with
        | none => exact ⟨rfl, rfl⟩
        | some thread =>
          dsimp only
          rw [if_neg hpending]
          exact ⟨rfl, rfl⟩

end Enforcement

/-! ## A session with an open event -/

namespace Sample

omit [Platform]

def weatherConfig : LifecycleConfig := { config with weatherEnabled := true }

def location : WeatherLocation := ⟨"杭州", "330100", "Asia/Shanghai", "amap", none, none⟩

/-- The same weather by day and by night. -/
def weatherOn (date : Date) (phenomenon : WeatherPhenomenon) : DailyWeather :=
  ⟨date, phenomenon, phenomenon, none, none, none, none, by simp⟩

/-- Services with a forecast for these days, fetched at this time. -/
def weatherServices (fetchedAt : DateTime) (days : List DailyWeather) : LifecycleServices :=
  { services with
    resolveLocation := fun _ => .ok (.success location none none)
    getForecast := fun _ _ _ => .ok (.success ⟨location, "amap", days⟩ (some fetchedAt) none)
    now := fetchedAt }

/-- Send a request while the services answer so; the next interrupt is named after it. -/
def deliver (services : LifecycleServices) (session : PlanSession)
    (interruptId requestId : String) (action : LifecycleAction) : ResumeReply × PlanSession :=
  @resume plainPlatform weatherConfig (fun _ => .error .editUnavailable) (fun _ => services)
    ("after " ++ requestId) session (request interruptId requestId action)

theorem reachable_deliver {session : PlanSession}
    (h : @Reachable plainPlatform weatherConfig session) (services : LifecycleServices)
    (interruptId requestId : String) (action : LifecycleAction) :
    @Reachable plainPlatform weatherConfig
      (deliver services session interruptId requestId action).2 :=
  @Reachable.resumed plainPlatform weatherConfig session _ _ _ _ h

/-- One visit on the first day, selected. -/
def loneSession : PlanSession :=
  (deliver services
    (startedWith [⟨"balanced-r0", .balanced, [⟨day1, ["a"]⟩, ⟨day2, []⟩]⟩] [poi "a" 1 60])
    "i1" "r1" .acceptRecommendation).2

theorem reachable_loneSession : @Reachable plainPlatform weatherConfig loneSession :=
  reachable_deliver (@Reachable.created plainPlatform weatherConfig _
    (.planned "s" (snapshotOf _ _) services "i1")) ..

/-- Rain is forecast for a visit that may be outdoors, and the user is asked to look at it. -/
def alertedSession : PlanSession :=
  (deliver (weatherServices (at_ day1 8) [weatherOn day1 .rain]) loneSession "after r1" "r2"
    .refreshWeather).2

/-- The event that a session points at. -/
def attentionEventOf (session : PlanSession) : String :=
  (session.record.weatherMonitor.attentionEventId).getD ""

/-- The user then edits an item that does not exist, and is asked which one was meant. -/
def askedSession : PlanSession :=
  (deliver services alertedSession "after r2" "r3"
    (.edit ⟨[⟨.removeItem, some "x", none, none, none, none⟩]⟩)).2

end Sample

omit [Platform] in
/-- A session that waits for a selection refuses a lock. -/
theorem refused_iff_lock :
    let := plainPlatform
    let session := Sample.startedWith [Sample.draft] Sample.pois
    let request := Sample.request "i1" "r1" (.lock .day "2026-10-01")
    Refused (fun _ => Sample.services) session request
      (Sample.send session "i1" "r1" (.lock .day "2026-10-01")) := by
  refine (@refused_iff plainPlatform Sample.config _ _ (Sample.reachable_startedWith ..)
    (by decide +kernel) _ _ _).mpr fun hadmits => ?_
  obtain ⟨eventId, hdismiss, -⟩ := hadmits.event
  cases hdismiss

omit [Platform] in
/-- A session that waits for the answer to a question forgets the question when the open event is
dismissed, which it does not advertise. -/
theorem exists_reachable_not_refused :
    let := plainPlatform
    let session := Sample.askedSession
    let request := Sample.request "after r3" "r4"
      (.dismissWeatherEvent (Sample.attentionEventOf session))
    let answer := Sample.deliver Sample.services session "after r3" "r4" request.action
    Reachable Sample.weatherConfig session ∧ session.record.status = .needsEditClarification ∧
      request.action.kind ∉ allowedActions session.record ∧
      answer.2.record.status = .active ∧ ¬ Refused (fun _ => Sample.services) session request
        answer := by
  have hstatus : Sample.askedSession.record.status = .needsEditClarification ∧
      (Sample.deliver Sample.services Sample.askedSession "after r3" "r4"
        (.dismissWeatherEvent (Sample.attentionEventOf Sample.askedSession))).2.record.status =
          .active := by decide +kernel
  refine ⟨Sample.reachable_deliver (Sample.reachable_deliver Sample.reachable_loneSession ..) ..,
    hstatus.1, ?_, hstatus.2, fun hrefused => ?_⟩
  · rw [allowedActions, hstatus.1]
    decide
  · have hrecord := congrArg PlanSessionRecord.status hrefused.record
    exact absurd (hstatus.2.symm.trans (hrecord.trans hstatus.1)) nofun

end TravelPlanAgent
