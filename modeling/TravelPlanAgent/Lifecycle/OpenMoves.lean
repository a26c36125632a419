import Mathlib.Data.Fintype.EquivFin
import TravelPlanAgent.Lifecycle.AllowedActions
import TravelPlanAgent.Lifecycle.NodeSpecs
import TravelPlanAgent.Lifecycle.SessionInvariant

/-!
# Sessions that can go on

A session that waits for an action should accept one of those that it advertises.  A preview can
always be rejected and a day of an active plan can always be locked.  A question about an edit can
be answered only when some operation of the edit names no item; an edit that names an unknown one
leads to a question that nobody can answer.

* `HasMove`: some advertised action is completed and saved.
* `AcceptsEdit`, `Answerable`: an edit that some node saves, and a question with an answer.
* `Saves`: a run that saves and waits again; `saves_of_saved` and `saves_of_goto` build it.
* `hasMove_rejection`, `hasMove_lock`, `hasMove_clarification`: the three moves.
* `AnswerableReachable`, `hasMove_of_answerable`: runs whose questions all have an answer.
* `not_hasMove_of_identified`: a question without one is the end.
-/

namespace TravelPlanAgent

open Calendar

variable [Platform]

/-! ## Moves -/

/-- Some advertised action, with services that succeed, is completed and saved. -/
def HasMove (config : LifecycleConfig) (session : PlanSession) : Prop :=
  ∃ (requirements : String → Result RequirementOutcome) (services : ℕ → LifecycleServices)
    (interruptId : String) (request : LifecycleResumeRequest) (message : Option String),
    request.action.kind ∈ allowedActions session.record ∧
    (resume config requirements services interruptId session request).1 = .completed message ∧
    (resume config requirements services interruptId session request).2.record.sessionRevision =
      session.record.sessionRevision + 1

/-- With services that succeed, the preview of an edit of a version is built. -/
structure PreviewableWith (config : LifecycleConfig) (services : LifecycleServices)
    (session : PlanSessionRecord) (requestId : String) (version : PlanVersion) (patch : EditPatch)
    (planning : PlanningSnapshot) (plan : EditedPlan) (critique : PreviewCritique)
    (diff : PlanDiff) : Prop where
  running : services.fault = none
  fresh : session.receipts.get? requestId = none
  planned : session.snapshot = some planning
  edited : editedPlan config services session.sessionId requestId planning.trip version []
    (lockList session) patch = .ok plan
  local_ : checkLocality version.candidate plan.candidate
    (analyzeChangeImpact version.candidate patch (lockList session)
      config.maxAffectedDays).preservedDates (lockList session) = .ok ()
  criticised : previewCritique config services planning.trip plan.candidate
    (validateCandidate planning.trip plan.candidate plan.planningPois) plan.planningPois =
      .ok critique
  compared : buildPlanDiff version.candidate plan.candidate version.versionId
    (nextPreviewId session) none critique.score = .ok diff

/-- What the impact of an edit has to be so that a node saves. -/
inductive AcceptsEdit (config : LifecycleConfig) (session : PlanSessionRecord)
    (version : PlanVersion) (patch : EditPatch) (round : ℕ) : Prop where
  | asks (failure : Failure) (unclear : groundEditPatch version.candidate patch = .error failure)
      (again : round < 2)
  | tooFar (grounded : EditPatch)
      (clear : groundEditPatch version.candidate patch = .ok grounded)
      (free : (analyzeChangeImpact version.candidate grounded (lockList session)
        config.maxAffectedDays).lockConflicts = [])
      (scope : (analyzeChangeImpact version.candidate grounded (lockList session)
        config.maxAffectedDays).scope = .requiresNewPlan)
  | previews (grounded : EditPatch) (services : LifecycleServices) (requestId : String)
      (planning : PlanningSnapshot) (plan : EditedPlan) (critique : PreviewCritique)
      (diff : PlanDiff)
      (clear : groundEditPatch version.candidate patch = .ok grounded)
      (free : (analyzeChangeImpact version.candidate grounded (lockList session)
        config.maxAffectedDays).lockConflicts = [])
      (previewable : PreviewableWith config services session requestId version grounded planning
        plan critique diff)

/-- The item of some operation is open, and with some item of the version the edit is accepted. -/
structure Answerable (config : LifecycleConfig) (session : PlanSessionRecord) (patch : EditPatch)
    (round : ℕ) : Prop where
  answer : ∃ version itemId operations, activeVersion session = .ok version ∧
    itemId ∈ (identifiedItems version.candidate).map Prod.fst ∧
    clarifyOperations itemId patch.operations = some operations ∧
    AcceptsEdit config session version ⟨operations⟩ round

/-! ## Runs that save -/

section Running

variable {config : LifecycleConfig} {services : LifecycleServices} {fuel : ℕ}
  {record after : PlanSessionRecord} {state next : LifecycleState} {node node' : LifecycleNode}
  {payload : InterruptPayload} {session : PlanSession} {version : PlanVersion}

/-- From a node on, a run saves and waits for the user again. -/
def Saves (config : LifecycleConfig) (services : LifecycleServices) (fuel : ℕ)
    (record : PlanSessionRecord) (state : LifecycleState) (node : LifecycleNode) : Prop :=
  ∃ after stateAfter payload,
    runNodes config (fun _ => services) fuel record state node =
      .paused after stateAfter payload ∧
    after.sessionRevision = record.sessionRevision + 1

theorem stepNode_of_goto (hfault : services.fault = none) (hacts : node ≠ .awaitUserAction)
    (hexec : execNode config services state record node = .ok (.goto next))
    (hedge : nextNode next node = .ok node') :
    stepNode config services record state node = .next record next node' := by
  unfold stepNode
  rw [hfault]
  cases node with
  | awaitUserAction => exact absurd rfl hacts
  | _ => simp only [hexec, followEdge, hedge]

theorem stepNode_of_saved (hfault : services.fault = none)
    (hexec : execNode config services state record node = .ok (.saved after next)) :
    stepNode config services record state node = .next after next .awaitUserAction := by
  have hwaits : nextNode next node = .ok .awaitUserAction := by
    cases nodeEffect_execNode hexec with
    | saved request plan record after action step same waits => exact waits
  unfold stepNode
  rw [hfault]
  cases node with
  | awaitUserAction => cases hexec
  | _ => simp only [hexec, followEdge, hwaits]

section Steps

variable {services : ℕ → LifecycleServices}

/-- A node that goes on is followed by the node that its edge names. -/
theorem runNodes_of_goto (hfault : (services fuel).fault = none) (hacts : node ≠ .awaitUserAction)
    (hexec : execNode config (services fuel) state record node = .ok (.goto next))
    (hedge : nextNode next node = .ok node') :
    runNodes config services (fuel + 1) record state node =
      runNodes config services fuel record next node' := by
  rw [runNodes, stepNode_of_goto hfault hacts hexec hedge]

/-- A node that saves is followed by the next interrupt. -/
theorem runNodes_of_saved (hfault : ∀ n, (services n).fault = none)
    (hexec : execNode config (services (fuel + 1)) state record node = .ok (.saved after next))
    (hpayload : interruptPayload after next = .ok payload) :
    runNodes config services (fuel + 2) record state node = .paused after next payload := by
  have hawait : stepNode config (services fuel) after next .awaitUserAction =
      .ended (.paused after next payload) := by
    unfold stepNode
    rw [hfault fuel]
    simp only [hpayload]
  unfold runNodes
  rw [stepNode_of_saved (hfault (fuel + 1)) hexec]
  exact runNodes_succ hawait

end Steps

theorem saves_of_saved (hfault : services.fault = none)
    (hexec : execNode config services state record node = .ok (.saved after next))
    (hpayload : interruptPayload after next = .ok payload) :
    Saves config services (fuel + 2) record state node := by
  refine ⟨after, next, payload, runNodes_of_saved (fun _ => hfault) hexec hpayload, ?_⟩
  cases nodeEffect_execNode hexec with
  | saved request plan record after action step same waits =>
    exact same.sessionRevision.trans step.sessionRevision

theorem saves_of_goto (hfault : services.fault = none) (hacts : node ≠ .awaitUserAction)
    (hexec : execNode config services state record node = .ok (.goto next))
    (hedge : nextNode next node = .ok node') (h : Saves config services fuel record next node') :
    Saves config services (fuel + 1) record state node := by
  obtain ⟨after, stateAfter, payload, hrun, hrevision⟩ := h
  exact ⟨after, stateAfter, payload,
    (@runNodes_of_goto _ config _ _ _ _ _ _ (fun _ => services) hfault hacts hexec hedge).trans
      hrun,
    hrevision⟩

omit [Platform] in
/-- There is always a request id that has no receipt. -/
theorem exists_fresh (receipts : Dict String ActionReceipt) :
    ∃ requestId, receipts.get? requestId = none := by
  have hinfinite : Infinite String := .of_injective _ toString_nat_injective
  obtain ⟨requestId, hnew⟩ := Infinite.exists_notMem_finset receipts.keys.toFinset
  refine ⟨requestId, ?_⟩
  cases hget : receipts.get? requestId with
  | none => rfl
  | some receipt => exact absurd (List.mem_toFinset.mpr (Dict.mem_keys_of_get? hget)) hnew

/-- A new request for the interrupt that is pending runs. -/
theorem resume_of_pending {services : ℕ → LifecycleServices} {request : LifecycleResumeRequest}
    (hthread : session.thread = some ⟨state, .interrupted request.interruptId payload⟩)
    (hclear : session.record.status ≠ .needsRequirementClarification)
    (hfresh : session.record.receipts.get? request.requestId = none)
    (requirements : String → Result RequirementOutcome) (interruptId : String) :
    resume config requirements services interruptId session request =
      (replyOf (runRequest config services session.record state request),
        sessionAfter interruptId (runRequest config services session.record state request)) := by
  have hpending : request.interruptId ∈ session.pendingInterrupts := by
    unfold PlanSession.pendingInterrupts
    rw [hthread]
    exact List.mem_cons_self
  unfold resume resumeLifecycle
  simp only [hfresh, if_neg hclear, hthread, if_pos hpending]

/-- A request whose run saves is a move. -/
theorem hasMove_of_saves {request : LifecycleResumeRequest}
    (hthread : session.thread = some ⟨state, .interrupted request.interruptId payload⟩)
    (hpayload : interruptPayload session.record state = .ok payload)
    (hclear : session.record.status ≠ .needsRequirementClarification)
    (hfresh : session.record.receipts.get? request.requestId = none)
    (hkind : request.action.kind ∈ allowedActions session.record)
    (hroute : routeAction request.action = .ok node) (hfault : services.fault = none)
    (h : Saves config services (recursionLimit - 2) session.record
      (dispatched session.record state request) node) : HasMove config session := by
  obtain ⟨after, stateAfter, payloadAfter, hrun, hrevision⟩ := h
  have hrequest : runRequest config (fun _ => services) session.record state request =
      .paused after stateAfter payloadAfter :=
    (runRequest_eq hpayload hroute hfault hfault).trans hrun
  have hresume : resume config (fun _ => .error .editUnavailable) (fun _ => services) "next"
      session request = (.completed stateAfter.message,
        ⟨after, some ⟨stateAfter, .interrupted "next" payloadAfter⟩⟩) := by
    rw [resume_of_pending hthread hclear hfresh, hrequest]
    rfl
  refine ⟨fun _ => .error .editUnavailable, fun _ => services, "next", request,
    stateAfter.message, hkind, ?_, ?_⟩
  · rw [hresume]
  · rw [hresume]
    exact hrevision

end Running

/-! ## The three moves -/

section ThreeMoves

variable {config : LifecycleConfig} {session : PlanSession} {version : PlanVersion}
  {state : LifecycleState} {interruptId : String} {payload : InterruptPayload}

omit [Platform] in
/-- A request that expects nothing is never stale. -/
theorem ensureExpected_of_none (record : PlanSessionRecord) (interruptId requestId : String)
    (action : LifecycleAction) :
    ensureExpected record ⟨interruptId, requestId, none, none, action⟩ = .ok () := by
  unfold ensureExpected require
  rw [if_pos (by simp), if_pos (by simp)]
  rfl

omit [Platform] in
/-- A session with a version was selected. -/
theorem status_of_active (hinv : SessionInvariant config session.record)
    (hactive : activeVersion session.record = .ok version) :
    session.record.status ≠ .awaitingCandidateSelection ∧
      session.record.status ≠ .needsRequirementClarification := by
  have hsize : session.record.versions.size ≠ 0 := by
    intro hzero
    obtain ⟨versionId, hid, -⟩ := bind_eq_ok hactive
    have hnone := hinv.active
    rw [if_pos hzero, orRaise_eq_ok hid] at hnone
    cases hnone
  exact ⟨fun h => hsize (hinv.unselected (.inl h)), fun h => hsize (hinv.unselected (.inr h))⟩

section NodesThatSave

variable {record : PlanSessionRecord} {request : LifecycleResumeRequest}

theorem resolveApproval_rejection {preview : PlanPreview} (haction : state.action = some request)
    (hexpected : ensureExpected record request = .ok ())
    (hstatus : record.status = .awaitingChangeApproval)
    (hpending : pendingPreview record = .ok preview)
    (hreject : request.action = .rejectPreview preview.previewId) :
    resolveApproval config state record = .ok (.saved (rejectPreview record request preview)
      { state with status := (rejectPreview record request preview).status, action := none }) := by
  unfold resolveApproval
  rw [requestOf_eq_ok_of_action haction]
  simp only [bind, Except.bind, hexpected, require, if_pos hstatus, hpending, hreject, approvalOf,
    if_true]
  rfl

/-- A day that the active version has can be locked. -/
theorem exists_saved_changeLock {day : DayPlan} (haction : state.action = some request)
    (hexpected : ensureExpected record request = .ok ())
    (hstatus : isEditable record.status = true) (hactive : activeVersion record = .ok version)
    (hday : day ∈ version.candidate.days)
    (hlock : request.action = .lock .day day.date.isoformat) :
    ∃ saved after, changeLock state record = .ok (.saved saved after) ∧
      saved.status = .active := by
  obtain ⟨named, hnamed⟩ : ∃ named,
      dayNamed version.candidate day.date.isoformat = some named := by
    refine Option.isSome_iff_exists.mp (List.find?_isSome.mpr ⟨day, hday, ?_⟩)
    exact decide_eq_true rfl
  obtain ⟨locks, hlocks⟩ : ∃ locks, changedLocks record version request = .ok locks := by
    simp only [changedLocks, hlock, lockFingerprint, hnamed, orRaise, bind, Except.bind]
    exact ⟨_, rfl⟩
  unfold changeLock
  rw [requestOf_eq_ok_of_action haction]
  simp only [bind, Except.bind, hexpected, require, if_pos hstatus, hactive, hlocks]
  exact ⟨_, _, rfl, rfl⟩

/-- The record of a session that is asked about its edit. -/
def askedRecord (record : PlanSessionRecord) (request : LifecycleResumeRequest) :
    PlanSessionRecord :=
  withReceipt { record with status := .needsEditClarification } request none none none

/-- An operation that is not grounded names an item that is unknown or ambiguous. -/
theorem groundOperation_error {candidate : PlanCandidate} {operation : EditOperation}
    {failure : Failure} (h : groundOperation candidate operation = .error failure) :
    ∃ code message, failure = .lifecycleAction code message ∧
      (code = "ambiguous_item" ∨ code = "unknown_item") := by
  unfold groundOperation at h
  dsimp only at h
  split at h
  · split at h
    · cases h
    · cases h
      exact ⟨_, _, rfl, .inr rfl⟩
  · split at h
    · split at h
      · cases h
      · cases h
        exact ⟨_, _, rfl, .inr rfl⟩
      · cases h
        exact ⟨_, _, rfl, .inl rfl⟩
    · cases h

theorem groundEditPatch_error {candidate : PlanCandidate} {patch : EditPatch} {failure : Failure}
    (h : groundEditPatch candidate patch = .error failure) :
    ∃ code message, failure = .lifecycleAction code message ∧
      (code = "ambiguous_item" ∨ code = "unknown_item") := by
  obtain ⟨operations⟩ := patch
  unfold groundEditPatch at h
  dsimp only at h
  induction operations generalizing failure with
  | nil => cases h
  | cons operation rest ih =>
    rw [List.mapM_cons] at h
    cases hfirst : groundOperation candidate operation with
    | error first =>
      rw [hfirst] at h
      cases h
      exact groundOperation_error hfirst
    | ok grounded =>
      rw [hfirst] at h
      cases hrest : rest.mapM (groundOperation candidate) with
      | error later =>
        rw [hrest] at h
        cases h
        exact ih (by rw [hrest]; rfl)
      | ok others =>
        rw [hrest] at h
        cases h

omit [Platform] in
theorem applyEditClarification_answer {itemId : String} {patch : EditPatch}
    {operations : List EditOperation} (haction : state.action = some request)
    (hanswer : request.action = .clarifyEdit itemId)
    (hexpected : ensureExpected record request = .ok ())
    (hstatus : record.status = .needsEditClarification)
    (hactive : activeVersion record = .ok version)
    (hknown : itemId ∈ (identifiedItems version.candidate).map Prod.fst)
    (hpatch : state.editPatch = some patch)
    (hclarified : clarifyOperations itemId patch.operations = some operations) :
    applyEditClarification state record = .ok (.goto
      { state with editPatch := some ⟨operations⟩, status := .buildingPreview }) := by
  unfold applyEditClarification
  rw [requestOf_eq_ok_of_action haction]
  simp only [bind, Except.bind, hanswer, clarifiedItemId, hexpected, require, if_pos hstatus,
    hactive, if_pos hknown, hpatch, orRaise, hclarified]
  rfl

/-- The state of a session that is asked about its edit. -/
def askedState (state : LifecycleState) (message : String) : LifecycleState :=
  { state with
    status := .needsEditClarification, clarificationRound := state.clarificationRound + 1
    message := some message }

theorem analyzeImpact_asks {patch : EditPatch} {failure : Failure}
    (haction : state.action = some request) (hactive : activeVersion record = .ok version)
    (hpatch : state.editPatch = some patch)
    (hunclear : groundEditPatch version.candidate patch = .error failure)
    (hround : state.clarificationRound < 2) :
    ∃ message, analyzeImpact config state record =
      .ok (.saved (askedRecord record request) (askedState state message)) := by
  obtain ⟨code, message, rfl, hcode⟩ := groundEditPatch_error hunclear
  unfold analyzeImpact
  rw [requestOf_eq_ok_of_action haction]
  simp only [bind, Except.bind, hactive, hpatch, orRaise, hunclear, if_pos hcode,
    askForClarification, require, if_pos hround]
  refine ⟨message, ?_⟩
  unfold askedState
  rw [hpatch]
  rfl

omit [Platform] in
/-- A session that is asked shows the items of its active version. -/
theorem exists_payload_askedRecord (hactive : activeVersion record = .ok version)
    (after : LifecycleState) :
    ∃ payload, interruptPayload (askedRecord record request) after = .ok payload := by
  have hasked : activeVersion (askedRecord record request) = .ok version := hactive
  have hstatus : (askedRecord record request).status = .needsEditClarification := rfl
  unfold interruptPayload
  rw [hstatus]
  dsimp only
  rw [hasked]
  exact ⟨_, rfl⟩

theorem analyzeImpact_tooFar {patch grounded : EditPatch} (haction : state.action = some request)
    (hactive : activeVersion record = .ok version) (hpatch : state.editPatch = some patch)
    (hclear : groundEditPatch version.candidate patch = .ok grounded)
    (hfree : (analyzeChangeImpact version.candidate grounded (lockList record)
      config.maxAffectedDays).lockConflicts = [])
    (hscope : (analyzeChangeImpact version.candidate grounded (lockList record)
      config.maxAffectedDays).scope = .requiresNewPlan) :
    ∃ saved after, analyzeImpact config state record = .ok (.saved saved after) ∧
      saved.status = .requiresNewPlan := by
  unfold analyzeImpact
  rw [requestOf_eq_ok_of_action haction]
  simp only [bind, Except.bind, hactive, hpatch, orRaise, hclear, require, if_pos hfree,
    if_pos hscope]
  exact ⟨_, _, rfl, rfl⟩

theorem analyzeImpact_local {patch grounded : EditPatch} (haction : state.action = some request)
    (hactive : activeVersion record = .ok version) (hpatch : state.editPatch = some patch)
    (hclear : groundEditPatch version.candidate patch = .ok grounded)
    (hfree : (analyzeChangeImpact version.candidate grounded (lockList record)
      config.maxAffectedDays).lockConflicts = [])
    (hscope : (analyzeChangeImpact version.candidate grounded (lockList record)
      config.maxAffectedDays).scope ≠ .requiresNewPlan) :
    ∃ impact, analyzeImpact config state record = .ok (.goto
      { state with
        editPatch := some grounded, impactResult := some impact, status := .buildingPreview }) := by
  unfold analyzeImpact
  rw [requestOf_eq_ok_of_action haction]
  simp only [bind, Except.bind, hactive, hpatch, orRaise, hclear, require, if_pos hfree,
    if_neg hscope]
  exact ⟨_, rfl⟩

omit [Platform] in
/-- A session with a preview has something to tell. -/
theorem exists_payload_storedPreview (hevent : state.weatherEvent = none) (preview : PlanPreview)
    (valid : Bool) (after : LifecycleState) :
    ∃ payload, interruptPayload (storedPreview config state record request preview valid) after =
      .ok payload := by
  have hobserved : observePreviewWeather config state record valid = record := by
    rw [observePreviewWeather, hevent]
  have hstatus : (storedPreview config state record request preview valid).status =
      if valid then .awaitingChangeApproval else .changeRejected := rfl
  have hpending : pendingPreview (storedPreview config state record request preview valid) =
      .ok preview := by
    unfold storedPreview
    rw [hobserved]
    simp only [pendingPreview, withReceipt, Option.bind_some, Dict.get?_set_self, orRaise]
  unfold interruptPayload
  rw [hstatus]
  cases valid with
  | false => exact ⟨_, rfl⟩
  | true =>
    rw [if_pos rfl]
    dsimp only
    rw [hpending]
    exact ⟨_, rfl⟩

/-- A preview that can be built is saved, and waits for approval or is refused. -/
theorem exists_saved_buildPreview {services : LifecycleServices} {patch : EditPatch}
    {planning : PlanningSnapshot} {plan : EditedPlan} {critique : PreviewCritique}
    {diff : PlanDiff} (haction : state.action = some request)
    (hexpected : ensureExpected record request = .ok ())
    (hactive : activeVersion record = .ok version) (hpatch : state.editPatch = some patch)
    (hevent : state.weatherEvent = none) (halternatives : state.weatherAlternatives = none)
    (h : PreviewableWith config services record request.requestId version patch planning plan
      critique diff) :
    ∃ saved after payload, buildPreview config services state record =
      .ok (.saved saved after) ∧ interruptPayload saved after = .ok payload := by
  have hstored (preview : PlanPreview) (valid : Bool) :
      storePreview config state record request preview valid =
        .ok (storedPreview config state record request preview valid) := by
    simp only [storePreview, storedPreview, hevent, Option.map_none]
    rfl
  have hedited : editedPlan config services record.sessionId request.requestId planning.trip
      version (state.weatherAlternatives.getD []) (lockList record) patch = .ok plan := by
    rw [halternatives]
    exact h.edited
  unfold buildPreview
  rw [requestOf_eq_ok_of_action haction]
  simp only [bind, Except.bind, hexpected, h.planned, orRaise, hactive, hpatch, hedited, h.local_,
    h.criticised, h.compared, hstored]
  obtain ⟨payload, hpayload⟩ := exists_payload_storedPreview hevent _ _ _
  exact ⟨_, _, payload, rfl, hpayload⟩

/-! An edit that is accepted is saved, by the node that finds its impact or by the next one. -/

variable {services : LifecycleServices} {fuel : ℕ} {patch grounded : EditPatch}

theorem saves_of_asks {failure : Failure} (hfault : services.fault = none)
    (haction : state.action = some request) (hactive : activeVersion record = .ok version)
    (hpatch : state.editPatch = some patch)
    (hunclear : groundEditPatch version.candidate patch = .error failure)
    (hround : state.clarificationRound < 2) :
    Saves config services (fuel + 2) record state .analyzeChangeImpact := by
  obtain ⟨message, hexec⟩ := analyzeImpact_asks haction hactive hpatch hunclear hround
  obtain ⟨payload, hpayload⟩ := exists_payload_askedRecord hactive (askedState state message)
  exact saves_of_saved hfault hexec hpayload

theorem saves_of_tooFar (hfault : services.fault = none) (haction : state.action = some request)
    (hactive : activeVersion record = .ok version) (hpatch : state.editPatch = some patch)
    (hclear : groundEditPatch version.candidate patch = .ok grounded)
    (hfree : (analyzeChangeImpact version.candidate grounded (lockList record)
      config.maxAffectedDays).lockConflicts = [])
    (hscope : (analyzeChangeImpact version.candidate grounded (lockList record)
      config.maxAffectedDays).scope = .requiresNewPlan) :
    Saves config services (fuel + 2) record state .analyzeChangeImpact := by
  obtain ⟨saved, after, hexec, hstatus⟩ :=
    analyzeImpact_tooFar haction hactive hpatch hclear hfree hscope
  obtain ⟨payload, hpayload⟩ : ∃ payload, interruptPayload saved after = .ok payload := by
    unfold interruptPayload
    rw [hstatus]
    exact ⟨_, rfl⟩
  exact saves_of_saved hfault hexec hpayload

theorem saves_of_previewable {planning : PlanningSnapshot} {plan : EditedPlan}
    {critique : PreviewCritique} {diff : PlanDiff} (haction : state.action = some request)
    (hexpected : ensureExpected record request = .ok ())
    (hactive : activeVersion record = .ok version) (hpatch : state.editPatch = some patch)
    (hevent : state.weatherEvent = none) (halternatives : state.weatherAlternatives = none)
    (hclear : groundEditPatch version.candidate patch = .ok grounded)
    (hfree : (analyzeChangeImpact version.candidate grounded (lockList record)
      config.maxAffectedDays).lockConflicts = [])
    (h : PreviewableWith config services record request.requestId version grounded planning plan
      critique diff) :
    Saves config services (fuel + 3) record state .analyzeChangeImpact := by
  by_cases hscope : (analyzeChangeImpact version.candidate grounded (lockList record)
      config.maxAffectedDays).scope = .requiresNewPlan
  · exact saves_of_tooFar h.running haction hactive hpatch hclear hfree hscope
  · obtain ⟨impact, hexec⟩ := analyzeImpact_local haction hactive hpatch hclear hfree hscope
    let next : LifecycleState :=
      { state with
        editPatch := some grounded, impactResult := some impact, status := .buildingPreview }
    have hnext : next.action = some request := haction
    obtain ⟨saved, after, payload, hbuilt, hpayload⟩ := exists_saved_buildPreview hnext hexpected
      hactive rfl hevent halternatives h
    have hsaves : Saves config services (fuel + 2) record next .buildLocalPreview :=
      saves_of_saved h.running hbuilt hpayload
    exact saves_of_goto h.running (by nofun) hexec rfl hsaves

end NodesThatSave

/-- A preview that waits for approval can be rejected. -/
theorem hasMove_rejection (hinv : SessionInvariant config session.record)
    (hthread : session.thread = some ⟨state, .interrupted interruptId payload⟩)
    (hpayload : interruptPayload session.record state = .ok payload)
    (hstatus : session.record.status = .awaitingChangeApproval) : HasMove config session := by
  obtain ⟨requestId, hfresh⟩ := exists_fresh session.record.receipts
  obtain ⟨previewId, preview, hid, hget, -⟩ := hinv.pending hstatus
  have hpending : pendingPreview session.record = .ok preview := by
    simp only [pendingPreview, hid, Option.bind_some, hget, orRaise]
  let request : LifecycleResumeRequest :=
    ⟨interruptId, requestId, none, none, .rejectPreview preview.previewId⟩
  have hexec : execNode config Sample.services (dispatched session.record state request)
      session.record .resolveApproval = .ok (.saved (rejectPreview session.record request preview)
        { dispatched session.record state request with
          status := (rejectPreview session.record request preview).status, action := none }) :=
    resolveApproval_rejection rfl (ensureExpected_of_none ..) hstatus hpending rfl
  refine hasMove_of_saves hthread hpayload (by rw [hstatus]; decide) hfresh ?_ rfl rfl
    (saves_of_saved rfl hexec rfl)
  rw [allowedActions, hstatus]
  exact List.mem_cons_of_mem _ List.mem_cons_self

/-- A day of a plan that can be changed can be locked. -/
theorem hasMove_lock
    (hthread : session.thread = some ⟨state, .interrupted interruptId payload⟩)
    (hpayload : interruptPayload session.record state = .ok payload)
    (hstatus : isEditable session.record.status = true)
    (hactive : activeVersion session.record = .ok version) {day : DayPlan}
    (hday : day ∈ version.candidate.days) : HasMove config session := by
  obtain ⟨requestId, hfresh⟩ := exists_fresh session.record.receipts
  let request : LifecycleResumeRequest :=
    ⟨interruptId, requestId, none, none, .lock .day day.date.isoformat⟩
  have hdispatched : (dispatched session.record state request).action = some request := rfl
  obtain ⟨saved, after, hexec, hafter⟩ := exists_saved_changeLock hdispatched
    (ensureExpected_of_none ..) hstatus hactive hday rfl
  have hexec : execNode config Sample.services (dispatched session.record state request)
      session.record .changeLock = .ok (.saved saved after) := hexec
  obtain ⟨payloadAfter, hpayloadAfter⟩ : ∃ payload, interruptPayload saved after = .ok payload := by
    unfold interruptPayload
    rw [hafter]
    exact ⟨_, rfl⟩
  refine hasMove_of_saves hthread hpayload ?_ hfresh ?_ rfl rfl
    (saves_of_saved rfl hexec hpayloadAfter)
  · intro hunclear
    rw [hunclear] at hstatus
    cases hstatus
  · rcases of_decide_eq_true hstatus with h | h | h <;> rw [allowedActions, h] <;>
      exact List.mem_append_left _ List.mem_cons_self

/-- The state in which an answered edit is looked at. -/
def answeredState (record : PlanSessionRecord) (state : LifecycleState)
    (request : LifecycleResumeRequest) (operations : List EditOperation) : LifecycleState :=
  { dispatched record state request with
    editPatch := some ⟨operations⟩, status := .buildingPreview }

/-- An answer is a move when the impact of the edit that it leads to is saved. -/
theorem hasMove_of_impact {services : LifecycleServices} {requestId itemId : String}
    {patch : EditPatch} {operations : List EditOperation}
    (hthread : session.thread = some ⟨state, .interrupted interruptId payload⟩)
    (hpayload : interruptPayload session.record state = .ok payload)
    (hstatus : session.record.status = .needsEditClarification)
    (hactive : activeVersion session.record = .ok version)
    (hknown : itemId ∈ (identifiedItems version.candidate).map Prod.fst)
    (hpatch : state.editPatch = some patch)
    (hclarified : clarifyOperations itemId patch.operations = some operations)
    (hfresh : session.record.receipts.get? requestId = none) (hfault : services.fault = none)
    (h : Saves config services 37 session.record
      (answeredState session.record state
        ⟨interruptId, requestId, none, none, .clarifyEdit itemId⟩ operations)
      .analyzeChangeImpact) : HasMove config session := by
  let request : LifecycleResumeRequest :=
    ⟨interruptId, requestId, none, none, .clarifyEdit itemId⟩
  have hexec : execNode config services (dispatched session.record state request) session.record
      .applyEditClarification =
        .ok (.goto (answeredState session.record state request operations)) :=
    applyEditClarification_answer rfl rfl (ensureExpected_of_none ..) hstatus hactive hknown hpatch
      hclarified
  have hsaves : Saves config services (recursionLimit - 2) session.record
      (dispatched session.record state request) .applyEditClarification :=
    saves_of_goto hfault (by nofun) hexec rfl h
  refine hasMove_of_saves hthread hpayload (by rw [hstatus]; nofun) hfresh ?_ rfl hfault hsaves
  rw [allowedActions, hstatus]
  exact List.mem_cons_self

/-- A question that has an answer can be answered. -/
theorem hasMove_clarification {patch : EditPatch}
    (hthread : session.thread = some ⟨state, .interrupted interruptId payload⟩)
    (hpayload : interruptPayload session.record state = .ok payload)
    (hstatus : session.record.status = .needsEditClarification)
    (hpatch : state.editPatch = some patch)
    (h : Answerable config session.record patch state.clarificationRound) :
    HasMove config session := by
  obtain ⟨version, itemId, operations, hactive, hknown, hclarified, haccepts⟩ := h.answer
  cases haccepts with
  | asks failure unclear again =>
    obtain ⟨requestId, hfresh⟩ := exists_fresh session.record.receipts
    have hservices : Sample.services.fault = none := rfl
    refine hasMove_of_impact hthread hpayload hstatus hactive hknown hpatch hclarified hfresh
      hservices ?_
    exact saves_of_asks hservices rfl hactive rfl unclear again
  | tooFar grounded clear free scope =>
    obtain ⟨requestId, hfresh⟩ := exists_fresh session.record.receipts
    have hservices : Sample.services.fault = none := rfl
    refine hasMove_of_impact hthread hpayload hstatus hactive hknown hpatch hclarified hfresh
      hservices ?_
    exact saves_of_tooFar hservices rfl hactive rfl clear free scope
  | previews grounded services requestId planning plan critique diff clear free previewable =>
    refine hasMove_of_impact hthread hpayload hstatus hactive hknown hpatch hclarified
      previewable.fresh previewable.running ?_
    exact saves_of_previewable rfl (ensureExpected_of_none ..) hactive rfl rfl rfl clear free
      previewable

end ThreeMoves

/-! ## Questions that nodes ask -/

section Questions

variable {config : LifecycleConfig} {services : LifecycleServices} {state after : LifecycleState}
  {session record : PlanSessionRecord} {node : LifecycleNode}

/-- Only the node that finds the impact of an edit asks about it. -/
theorem status_of_saved (hnode : node ≠ .analyzeChangeImpact)
    (h : execNode config services state session node = .ok (.saved record after)) :
    record.status ≠ .needsEditClarification := by
  cases node with
  | awaitUserAction => cases h
  | dispatchAction => cases h
  | analyzeChangeImpact => exact absurd rfl hnode
  | selectCandidate =>
    simp only [execNode, selectCandidate] at h
    obtain ⟨_, -, h⟩ := bind_eq_ok h
    obtain ⟨_, -, h⟩ := bind_eq_ok h
    obtain ⟨_, -, h⟩ := bind_eq_ok h
    obtain ⟨_, -, h⟩ := bind_eq_ok h
    obtain ⟨_, -, h⟩ := bind_eq_ok h
    obtain ⟨_, -, h⟩ := bind_eq_ok h
    obtain ⟨_, -, h⟩ := bind_eq_ok h
    obtain ⟨_, -, h⟩ := bind_eq_ok h
    cases h
    exact PlanSessionStatus.noConfusion
  | changeLock =>
    simp only [execNode, changeLock] at h
    obtain ⟨_, -, h⟩ := bind_eq_ok h
    obtain ⟨_, -, h⟩ := bind_eq_ok h
    obtain ⟨_, -, h⟩ := bind_eq_ok h
    obtain ⟨_, -, h⟩ := bind_eq_ok h
    obtain ⟨_, -, h⟩ := bind_eq_ok h
    cases h
    exact PlanSessionStatus.noConfusion
  | parseEdit =>
    obtain ⟨patch, heq⟩ := parseEdit_eq_ok h
    cases heq
  | applyEditClarification =>
    obtain ⟨operations, heq⟩ := applyEditClarification_eq_ok h
    cases heq
  | buildLocalPreview =>
    obtain ⟨request, planning, version, patch, plan, preview, stored, last, hbuilt, heq⟩ :=
      buildPreview_eq_ok h
    cases heq
    have hstatus (valid : Bool) :
        (storedPreview config state session request preview valid).status ≠
          .needsEditClarification := by
      cases valid <;> exact PlanSessionStatus.noConfusion
    rcases storePreview_eq_ok hbuilt.stored with ⟨-, rfl⟩ | ⟨event, -, -, rfl⟩
    · exact hstatus _
    · rw [(samePlan_updateEventReceipt ..).status]
      exact hstatus _
  | resolveApproval =>
    simp only [execNode, resolveApproval] at h
    obtain ⟨_, -, h⟩ := bind_eq_ok h
    obtain ⟨_, -, h⟩ := bind_eq_ok h
    obtain ⟨_, -, h⟩ := bind_eq_ok h
    obtain ⟨_, -, h⟩ := bind_eq_ok h
    obtain ⟨⟨_, token⟩, -, h⟩ := bind_eq_ok h
    obtain ⟨_, -, h⟩ := bind_eq_ok h
    cases token with
    | none =>
      cases h
      exact PlanSessionStatus.noConfusion
    | some token =>
      obtain ⟨_, -, h⟩ := bind_eq_ok h
      obtain ⟨_, -, h⟩ := bind_eq_ok h
      obtain ⟨_, -, h⟩ := bind_eq_ok h
      cases h
      exact PlanSessionStatus.noConfusion
  | dismissWeatherEvent =>
    simp only [execNode, dismissWeatherEvent] at h
    obtain ⟨_, -, h⟩ := bind_eq_ok h
    obtain ⟨_, -, h⟩ := bind_eq_ok h
    obtain ⟨_, -, h⟩ := bind_eq_ok h
    obtain ⟨_, -, h⟩ := bind_eq_ok h
    obtain ⟨_, -, h⟩ := bind_eq_ok h
    obtain ⟨_, -, h⟩ := bind_eq_ok h
    cases h
    exact PlanSessionStatus.noConfusion
  | resolveWeatherLocation =>
    rcases resolveWeatherLocation_eq_ok h with ⟨_, heq⟩ | ⟨_, _, heq⟩ <;> cases heq
  | fetchWeatherSnapshot =>
    rcases fetchWeatherSnapshot_eq_ok h with ⟨_, _, heq⟩ | ⟨_, _, heq⟩ <;> cases heq
  | classifyWeatherRisks =>
    obtain ⟨_, _, heq⟩ := classifyWeatherRisks_eq_ok h
    cases heq
  | deriveWeatherEvent =>
    obtain ⟨_, _, _, _, heq⟩ := deriveWeatherChange_eq_ok h
    cases heq
  | deduplicateWeatherEvent =>
    obtain ⟨request, snapshot, -, -, hdeduplicated⟩ := deduplicateWeatherEvent_eq_ok h
    cases hdeduplicated <;> exact PlanSessionStatus.noConfusion
  | analyzeWeatherImpact =>
    obtain ⟨request, version, snapshot, event, -, -, -, -, hanalyzed⟩ :=
      analyzeWeatherChangeImpact_eq_ok h
    cases hanalyzed <;> exact PlanSessionStatus.noConfusion
  | buildWeatherRepairPlan =>
    obtain ⟨request, snapshot, event, -, -, -, hbuilt⟩ := buildWeatherRepair_eq_ok h
    cases hbuilt
    exact PlanSessionStatus.noConfusion

end Questions

/-! ## Runs whose questions have answers -/

/-- A question that a node is about to ask has an answer. -/
def AnswerableNode (config : LifecycleConfig) (session : PlanSessionRecord)
    (state : LifecycleState) (node : LifecycleNode) : Prop :=
  node = .analyzeChangeImpact → ∀ request version patch failure, state.action = some request →
    activeVersion session = .ok version → state.editPatch = some patch →
    groundEditPatch version.candidate patch = .error failure → state.clarificationRound < 2 →
    Answerable config (askedRecord session request) patch (state.clarificationRound + 1)

/-- The sessions that runs of such nodes lead to. -/
inductive AnswerableReachable (config : LifecycleConfig) : PlanSession → Prop where
  | created {session : PlanSession} : Created session → AnswerableReachable config session
  | resumed {session : PlanSession} (requirements : String → Result RequirementOutcome)
      (services : ℕ → LifecycleServices) (interruptId : String)
      (request : LifecycleResumeRequest)
      (answerable : EveryNodeOf config (fun _ => AnswerableNode config) services session request) :
      AnswerableReachable config session →
      AnswerableReachable config
        (resume config requirements services interruptId session request).2

/-- The question that a state waits with has an answer. -/
def AnswerOpen (config : LifecycleConfig) (record : PlanSessionRecord) (state : LifecycleState) :
    Prop :=
  record.status = .needsEditClarification → ∃ patch, state.editPatch = some patch ∧
    Answerable config record patch state.clarificationRound

section Runs

variable {config : LifecycleConfig} {session : PlanSession} {version : PlanVersion}

theorem AnswerableReachable.reachable (h : AnswerableReachable config session) :
    Reachable config session := by
  induction h with
  | created hcreated => exact .created hcreated
  | resumed requirements services interruptId request _ _ ih => exact .resumed _ _ _ _ ih

/-- A node that hands on to the interrupt leaves an answer open. -/
theorem answerOpen_handsOn {services : LifecycleServices} {record record' : PlanSessionRecord}
    {state state' : LifecycleState} {node : LifecycleNode}
    (hanswerable : AnswerableNode config record state node)
    (hands : HandsOn config services record state node record' state' .awaitUserAction) :
    AnswerOpen config record' state' := by
  intro hstatus
  rcases hands.exec with ⟨hexec, -⟩ | hexec
  · cases nodeEffect_execNode hexec with
    | goto after same goesOn => exact absurd hands.edge goesOn
  · by_cases hnode : node = .analyzeChangeImpact
    · subst hnode
      obtain ⟨request, version, ungrounded, haction, hactive, hpatch, himpact⟩ :=
        analyzeImpact_eq_ok hexec
      generalize hsaved : NodeOutcome.saved record' state' = outcome at himpact
      cases himpact with
      | asked code message unclear round =>
        cases hsaved
        exact ⟨ungrounded, hpatch,
          hanswerable rfl _ _ _ _ haction hactive hpatch unclear round⟩
      | tooFar =>
        cases hsaved
        cases hstatus
      | local_ => cases hsaved
    · exact absurd hstatus (status_of_saved hnode hexec)

omit [Platform] in
/-- An answer to a requirement leads to another one, or to a selection. -/
theorem status_of_clarifiedRecord {record after : PlanSessionRecord}
    {request : LifecycleResumeRequest} {outcome : RequirementOutcome}
    (hunclear : record.status = .needsRequirementClarification)
    (h : clarifiedRecord record request outcome = .ok after) :
    after.status ≠ .needsEditClarification := by
  cases outcome with
  | needsClarification =>
    cases h
    change record.status ≠ _
    rw [hunclear]
    exact nofun
  | completed =>
    cases h
    exact nofun
  | notCompleted => cases h

/-- After every request, a session that waits with a question has an answer. -/
theorem answerOpen_of_thread (h : AnswerableReachable config session) {state : LifecycleState}
    {interruptId : String} {payload : InterruptPayload}
    (hthread : session.thread = some ⟨state, .interrupted interruptId payload⟩) :
    AnswerOpen config session.record state := by
  suffices AtInterrupt (AnswerOpen config) session from this _ _ _ hthread
  clear hthread
  induction h with
  | created hcreated =>
    obtain ⟨_, status, _, _, hstatus, hrecord⟩ := hcreated.record
    intro _ _ _ _ hasked
    rw [hrecord] at hasked
    change status = _ at hasked
    rcases hstatus with rfl | rfl <;> cases hasked
  | resumed requirements services newId request answerable hreachable ih =>
    refine atInterrupt_resume
      (motive := fun record state node => node = .awaitUserAction → AnswerOpen config record state)
      (fun _ _ _ _ _ hroute hawait => absurd hawait (acts_of_routeAction hroute))
      (fun _ _ hopen => hopen rfl)
      (fun _ _ _ _ hunclear hclarified hasked =>
        absurd hasked (status_of_clarifiedRecord hunclear hclarified))
      (fun _ _ _ _ _ _ _ _ hanswerable hands hawait =>
        answerOpen_handsOn hanswerable (hawait ▸ hands))
      requirements newId (threadInvariant_of_reachable hreachable.reachable) ih answerable

/-- No record is stored while its preview is being built. -/
theorem status_ne_buildingPreview (h : Reachable config session) :
    session.record.status ≠ .buildingPreview := by
  refine reachable_of_planStep (motive := fun record => record.status ≠ .buildingPreview) ?_ ?_ h
  · intro _ status _ _ hstatus hbuilding
    change status = _ at hbuilding
    rcases hstatus with rfl | rfl <;> cases hbuilding
  · intro record after hne hstep
    cases hstep with
    | unchanged => exact hne
    | clarified request outcome after status clarifies =>
      cases outcome with
      | needsClarification =>
        cases clarifies
        exact hne
      | completed =>
        cases clarifies
        exact nofun
      | notCompleted => cases clarifies
    | weather after same =>
      rw [same.status]
      exact hne
    | changed request plan after step same =>
      rw [same.status]
      cases step with
      | settled status eventId settles => rcases settles with rfl | rfl | rfl <;> exact nofun
      | selected => exact nofun
      | locked => exact nofun
      | previewed version preview =>
        change (if previewValid preview.hardValidation then
          PlanSessionStatus.awaitingChangeApproval else .changeRejected) ≠ _
        split <;> exact nofun
      | rejected => exact nofun
      | approved => exact nofun

/-- In every run whose questions all have an answer, a session with a version of at least one day
that waits for the user has a move. -/
theorem hasMove_of_answerable (h : AnswerableReachable config session)
    (hactive : activeVersion session.record = .ok version) (hdays : version.candidate.days ≠ [])
    (hpending : session.pendingInterrupts ≠ []) : HasMove config session := by
  have hreachable := h.reachable
  have hinv := sessionInvariant_of_reachable hreachable
  obtain ⟨interruptId, hmem⟩ := List.exists_mem_of_ne_nil _ hpending
  obtain ⟨state, payload, hthread⟩ := exists_thread_of_pending hmem
  have hpayload := (threadInvariant_of_reachable hreachable).payload _ _ _ hthread
  obtain ⟨day, hday⟩ := List.exists_mem_of_ne_nil _ hdays
  obtain ⟨hselected, hclear⟩ := status_of_active hinv hactive
  cases hstatus : session.record.status with
  | needsRequirementClarification => exact absurd hstatus hclear
  | awaitingCandidateSelection => exact absurd hstatus hselected
  | buildingPreview => exact absurd hstatus (status_ne_buildingPreview hreachable)
  | awaitingChangeApproval => exact hasMove_rejection hinv hthread hpayload hstatus
  | needsEditClarification =>
    obtain ⟨patch, hpatch, hanswer⟩ := answerOpen_of_thread h hthread hstatus
    exact hasMove_clarification hthread hpayload hstatus hpatch hanswer
  | active => exact hasMove_lock hthread hpayload (by rw [hstatus]; rfl) hactive hday
  | changeRejected => exact hasMove_lock hthread hpayload (by rw [hstatus]; rfl) hactive hday
  | requiresNewPlan => exact hasMove_lock hthread hpayload (by rw [hstatus]; rfl) hactive hday

end Runs

/-! ## Questions without an answer -/

section Exactness

variable {config : LifecycleConfig} {services : LifecycleServices} {state : LifecycleState}
  {record : PlanSessionRecord} {request : LifecycleResumeRequest} {outcome : NodeOutcome}
  {version : PlanVersion} {patch : EditPatch}

omit [Platform] in
/-- An answer that is taken fills the first open operation with an item of the version. -/
theorem answered_of_applyEditClarification (hpatch : state.editPatch = some patch)
    (h : applyEditClarification state record = .ok outcome) :
    ∃ version itemId operations, activeVersion record = .ok version ∧
      itemId ∈ (identifiedItems version.candidate).map Prod.fst ∧
      clarifyOperations itemId patch.operations = some operations ∧
      outcome = .goto
        { state with editPatch := some ⟨operations⟩, status := .buildingPreview } := by
  unfold applyEditClarification at h
  obtain ⟨_, -, h⟩ := bind_eq_ok h
  obtain ⟨itemId, -, h⟩ := bind_eq_ok h
  obtain ⟨_, -, h⟩ := bind_eq_ok h
  obtain ⟨_, -, h⟩ := bind_eq_ok h
  obtain ⟨version, hactive, h⟩ := bind_eq_ok h
  obtain ⟨_, hknown, h⟩ := bind_eq_ok h
  obtain ⟨pending, hpending, h⟩ := bind_eq_ok h
  obtain ⟨operations, hclarified, h⟩ := bind_eq_ok h
  cases h
  rw [hpatch] at hpending
  cases hpending
  exact ⟨version, itemId, operations, hactive, require_eq_ok hknown, orRaise_eq_ok hclarified, rfl⟩

/-- An impact that is found is asked about, reaches too far, or goes on without a lock in its
way. -/
theorem impact_of_analyzeImpact (hactive : activeVersion record = .ok version)
    (hpatch : state.editPatch = some patch) (h : analyzeImpact config state record = .ok outcome) :
    (∃ failure, groundEditPatch version.candidate patch = .error failure ∧
      state.clarificationRound < 2) ∨
    ∃ grounded, groundEditPatch version.candidate patch = .ok grounded ∧
      (analyzeChangeImpact version.candidate grounded (lockList record)
        config.maxAffectedDays).lockConflicts = [] ∧
      ((analyzeChangeImpact version.candidate grounded (lockList record)
          config.maxAffectedDays).scope = .requiresNewPlan ∨
        ∃ impact, outcome = .goto
          { state with
            editPatch := some grounded, impactResult := some impact
            status := .buildingPreview }) := by
  unfold analyzeImpact at h
  obtain ⟨request, -, h⟩ := bind_eq_ok h
  obtain ⟨version', hactive', h⟩ := bind_eq_ok h
  obtain ⟨ungrounded, hpatch', h⟩ := bind_eq_ok h
  rw [hactive] at hactive'
  rw [hpatch] at hpatch'
  cases hactive'
  cases hpatch'
  split at h
  · next code message hground =>
    split at h
    · unfold askForClarification at h
      obtain ⟨_, hround, -⟩ := bind_eq_ok h
      exact .inl ⟨_, hground, require_eq_ok hround⟩
    · cases h
  · cases h
  · next grounded hground =>
    obtain ⟨_, hfree, h⟩ := bind_eq_ok h
    refine .inr ⟨grounded, hground, require_eq_ok hfree, ?_⟩
    split at h
    · next hscope => exact .inl hscope
    · cases h
      exact .inr ⟨_, rfl⟩

/-- A preview that is built could be built. -/
theorem previewable_of_buildPreview (hrunning : services.fault = none)
    (haction : state.action = some request) (hactive : activeVersion record = .ok version)
    (hpatch : state.editPatch = some patch) (halternatives : state.weatherAlternatives = none)
    (hfresh : record.receipts.get? request.requestId = none)
    (h : buildPreview config services state record = .ok outcome) :
    ∃ planning plan critique diff, PreviewableWith config services record request.requestId version
      patch planning plan critique diff := by
  unfold buildPreview at h
  obtain ⟨request', hrequest, h⟩ := bind_eq_ok h
  obtain rfl : request = request' :=
    Except.ok.inj ((requestOf_eq_ok_of_action haction).symm.trans hrequest)
  obtain ⟨_, -, h⟩ := bind_eq_ok h
  obtain ⟨planning, hplanning, h⟩ := bind_eq_ok h
  obtain ⟨version', hactive', h⟩ := bind_eq_ok h
  obtain ⟨patch', hpatch', h⟩ := bind_eq_ok h
  rw [hactive] at hactive'
  rw [hpatch] at hpatch'
  cases hactive'
  cases hpatch'
  obtain ⟨plan, hplan, h⟩ := bind_eq_ok h
  obtain ⟨_, hlocal, h⟩ := bind_eq_ok h
  obtain ⟨critique, hcritique, h⟩ := bind_eq_ok h
  obtain ⟨diff, hdiff, h⟩ := bind_eq_ok h
  rw [halternatives] at hplan
  exact ⟨planning, plan, critique, diff, hrunning, hfresh, orRaise_eq_ok hplanning, hplan, hlocal,
    hcritique, hdiff⟩

/-- A session that waits with a question has a move exactly when the question has an answer. -/
theorem hasMove_iff_answerable {session : PlanSession} {interruptId : String}
    {payload : InterruptPayload} (hreachable : Reachable config session)
    (hthread : session.thread = some ⟨state, .interrupted interruptId payload⟩)
    (hstatus : session.record.status = .needsEditClarification)
    (hpatch : state.editPatch = some patch) :
    HasMove config session ↔
      Answerable config session.record patch state.clarificationRound := by
  constructor
  · rintro ⟨requirements, services, newId, request, message, hkind, hcompleted, -⟩
    have hclear : session.record.status ≠ .needsRequirementClarification := by
      rw [hstatus]
      exact PlanSessionStatus.noConfusion
    have hfresh : session.record.receipts.get? request.requestId = none := by
      unfold resume at hcompleted
      cases hget : session.record.receipts.get? request.requestId with
      | none => rfl
      | some receipt =>
        rw [hget] at hcompleted
        cases hcompleted
    obtain ⟨node, before, oldId, oldPayload, after, payload', hroute, hthread', hrun, -⟩ :=
      exists_run_of_clear hclear hcompleted
    rw [hthread] at hthread'
    cases hthread'
    obtain rfl : node = .applyEditClarification := by
      rw [allowedActions, hstatus] at hkind
      have haction := List.mem_singleton.mp hkind
      cases hanswer : request.action <;> rw [hanswer] at haction hroute <;>
        first
          | (cases hroute; rfl)
          | simp [LifecycleAction.kind] at haction
    have hpending : (dispatched session.record state request).editPatch = some patch := hpatch
    -- The answer is taken, and then the impact of the edit is found.
    obtain ⟨rest₁, record₁, state₁, node₁, hands₁, hrest₁, -⟩ :=
      exists_handsOn_of_paused (fun _ _ _ _ => True) hrun LifecycleNode.noConfusion
    obtain ⟨version, itemId, operations, hactive, hknown, hclarified, rfl, rfl⟩ :
        ∃ version itemId operations, activeVersion session.record = .ok version ∧
          itemId ∈ (identifiedItems version.candidate).map Prod.fst ∧
          clarifyOperations itemId patch.operations = some operations ∧
          state₁ = answeredState session.record state request operations ∧
          record₁ = session.record := by
      rcases hands₁.exec with ⟨hexec, rfl⟩ | hexec <;>
        obtain ⟨version, itemId, operations, hactive, hknown, hclarified, heq⟩ :=
          answered_of_applyEditClarification hpending hexec <;>
        cases heq
      exact ⟨version, itemId, operations, hactive, hknown, hclarified, rfl, rfl⟩
    obtain rfl : node₁ = .analyzeChangeImpact := (Except.ok.inj hands₁.edge).symm
    refine ⟨version, itemId, operations, hactive, hknown, hclarified, ?_⟩
    obtain ⟨rest₂, record₂, state₂, node₂, hands₂, hrest₂, -⟩ :=
      exists_handsOn_of_paused (fun _ _ _ _ => True) hrest₁ LifecycleNode.noConfusion
    rcases hands₂.exec with ⟨hexec, rfl⟩ | hexec
    · rcases impact_of_analyzeImpact hactive rfl hexec with
        ⟨failure, hunclear, hround⟩ | ⟨grounded, hground, hfree, hscope | ⟨impact, heq⟩⟩
      · exact .asks failure hunclear hround
      · exact .tooFar grounded hground hfree hscope
      · cases heq
        obtain rfl : node₂ = .buildLocalPreview := (Except.ok.inj hands₂.edge).symm
        -- The edit goes on to its preview, which is then built.
        obtain ⟨rest₃, record₃, state₃, node₃, hands₃, -, -⟩ :=
          exists_handsOn_of_paused (fun _ _ _ _ => True) hrest₂ LifecycleNode.noConfusion
        obtain ⟨outcome, hbuilt⟩ : ∃ outcome, buildPreview config (services rest₃)
            { answeredState session.record state request operations with
              editPatch := some grounded, impactResult := some impact
              status := .buildingPreview } session.record = .ok outcome := by
          rcases hands₃.exec with ⟨hexec, -⟩ | hexec <;> exact ⟨_, hexec⟩
        obtain ⟨planning, plan, critique, diff, hpreviewable⟩ :=
          previewable_of_buildPreview hands₃.fault (by exact rfl) hactive rfl rfl hfresh hbuilt
        exact .previews grounded _ _ planning plan critique diff hground hfree hpreviewable
    · rcases impact_of_analyzeImpact hactive rfl hexec with
        ⟨failure, hunclear, hround⟩ | ⟨grounded, hground, hfree, hscope | ⟨impact, heq⟩⟩
      · exact .asks failure hunclear hround
      · exact .tooFar grounded hground hfree hscope
      · cases heq
  · intro hanswer
    have hpayload := (threadInvariant_of_reachable hreachable).payload _ _ _ hthread
    exact hasMove_clarification hthread hpayload hstatus hpatch hanswer

omit [Platform] in
/-- An edit whose operations all name their items has nothing to fill in. -/
theorem clarifyOperations_eq_none {itemId : String} {operations : List EditOperation}
    (h : ∀ operation ∈ operations, operation.itemId ≠ none) :
    clarifyOperations itemId operations = none := by
  induction operations with
  | nil => rfl
  | cons operation rest ih =>
    unfold clarifyOperations
    rw [if_neg (h operation List.mem_cons_self),
      ih fun other hother => h other (List.mem_cons_of_mem _ hother)]
    rfl

/-- A session that is asked about an edit whose operations all name their items is at its end. -/
theorem not_hasMove_of_identified {session : PlanSession} {interruptId : String}
    {payload : InterruptPayload} (hreachable : Reachable config session)
    (hthread : session.thread = some ⟨state, .interrupted interruptId payload⟩)
    (hstatus : session.record.status = .needsEditClarification)
    (hpatch : state.editPatch = some patch)
    (hidentified : ∀ operation ∈ patch.operations, operation.itemId ≠ none) :
    ¬ HasMove config session := by
  intro hmove
  obtain ⟨version, itemId, operations, -, -, hclarified, -⟩ :=
    ((hasMove_iff_answerable hreachable hthread hstatus hpatch).mp hmove).answer
  rw [clarifyOperations_eq_none hidentified] at hclarified
  cases hclarified

/-- A selection is the only node before the next interrupt. -/
theorem everyNode_selectCandidate
    {condition : LifecycleServices → PlanSessionRecord → LifecycleState → LifecycleNode → Prop}
    (hselect : ∀ services record state, condition services record state .selectCandidate)
    (hawait : ∀ services record state, condition services record state .awaitUserAction)
    {services : ℕ → LifecycleServices} {fuel : ℕ} :
    EveryNode config condition services fuel record state .selectCandidate := by
  cases fuel with
  | zero => trivial
  | succ fuel =>
    refine ⟨hselect .., ?_⟩
    split
    · trivial
    · next hstep =>
      obtain rfl := Except.ok.inj (stepNode_eq_next hstep).edge
      cases fuel with
      | zero => trivial
      | succ fuel =>
        refine ⟨hawait .., ?_⟩
        split
        · trivial
        · next hnext => exact absurd rfl (stepNode_eq_next hnext).acts

end Exactness

/-! ## An edit of an item that does not exist -/

namespace Sample

omit [Platform]

/-- The user edits an item by an id that no item has. -/
def unansweredSession : PlanSession :=
  (send (selectedFrom [draft] pois) "after r1" "r2"
    (.edit ⟨[⟨.removeItem, some "x", none, none, none, none⟩]⟩)).2

theorem answerableReachable_selectedFrom :
    @AnswerableReachable plainPlatform config (selectedFrom [draft] pois) := by
  refine @AnswerableReachable.resumed plainPlatform config _ _ _ _ _ ?_
    (@AnswerableReachable.created plainPlatform config _
      (.planned "s" (snapshotOf [draft] pois) services "i1"))
  intro state interruptId payload node _ hroute
  cases hroute
  exact @everyNode_selectCandidate plainPlatform _ _ _ _
    (fun _ _ _ hnode => nomatch hnode) (fun _ _ _ hnode => nomatch hnode) _ _

end Sample

omit [Platform] in
/-- The two-day trip, once selected, has a move. -/
theorem hasMove_of_answerable_selected :
    @HasMove plainPlatform Sample.config (Sample.selectedFrom [Sample.draft] Sample.pois) := by
  let := plainPlatform
  have hsession : ((activeVersion (Sample.selectedFrom [Sample.draft]
      Sample.pois).record).toOption.any fun version => !version.candidate.days.isEmpty) = true ∧
      (Sample.selectedFrom [Sample.draft] Sample.pois).pendingInterrupts ≠ [] := by
    decide +kernel
  cases hactive : activeVersion (Sample.selectedFrom [Sample.draft] Sample.pois).record with
  | error failure =>
    rw [hactive] at hsession
    cases hsession.1
  | ok version =>
    rw [hactive] at hsession
    refine @hasMove_of_answerable plainPlatform _ _ _ Sample.answerableReachable_selectedFrom
      hactive (fun hempty => ?_) hsession.2
    have hnonempty : (!version.candidate.days.isEmpty) = true := hsession.1
    rw [hempty] at hnonempty
    cases hnonempty

omit [Platform] in
/-- The question about an item that does not exist is the end of the session. -/
theorem exists_reachable_not_hasMove :
    let := plainPlatform
    Reachable Sample.config Sample.unansweredSession ∧
      Sample.unansweredSession.record.activeVersionId = some "V1" ∧
      Sample.unansweredSession.pendingInterrupts = ["after r2"] ∧
      allowedActions Sample.unansweredSession.record = ["clarify_edit"] ∧
      ¬ HasMove Sample.config Sample.unansweredSession := by
  let := plainPlatform
  have hreachable : Reachable Sample.config Sample.unansweredSession :=
    Sample.reachable_send (Sample.reachable_send (Sample.reachable_startedWith ..) ..) ..
  have hsession : Sample.unansweredSession.record.activeVersionId = some "V1" ∧
      Sample.unansweredSession.pendingInterrupts = ["after r2"] ∧
      Sample.unansweredSession.record.status = .needsEditClarification ∧
      (Sample.unansweredSession.thread.any fun thread => thread.state.editPatch.any fun patch =>
        patch.operations.all fun operation => operation.itemId.isSome) = true := by decide +kernel
  obtain ⟨hactive, hpending, hstatus, hpatch⟩ := hsession
  refine ⟨hreachable, hactive, hpending, by rw [allowedActions, hstatus], ?_⟩
  obtain ⟨state, payload, hthread⟩ :=
    exists_thread_of_pending (hpending ▸ List.mem_cons_self : "after r2" ∈ _)
  rw [hthread] at hpatch
  cases hedit : state.editPatch with
  | none =>
    change state.editPatch.any _ = true at hpatch
    rw [hedit] at hpatch
    cases hpatch
  | some patch =>
    change state.editPatch.any _ = true at hpatch
    rw [hedit] at hpatch
    refine @not_hasMove_of_identified plainPlatform _ _ _ _ _ _ hreachable hthread hstatus hedit
      fun operation hoperation hnone => ?_
    have hall := List.all_eq_true.mp hpatch operation hoperation
    rw [hnone] at hall
    cases hall

end TravelPlanAgent
