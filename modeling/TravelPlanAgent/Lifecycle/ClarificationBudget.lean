import TravelPlanAgent.Lifecycle.Clarification

/-!
# How often an edit is asked about

An edit whose items are not clear is asked about, at most twice.  The questions are counted in the
state of the thread.  No edit starts a new count, so an edit has only the questions that the edits
before it have left.

* `EditBudget`: every edit that is accepted and not clear has two questions.
* `grantsRounds_of_impact`: an edit has the questions that are left.
* `editBudget_iff`: an edit has two questions exactly when none was asked before.
* `AsksNothing`, `asksNothing_execNode`: only an edit that is not clear is counted.
* `GroundedReachable`, `editBudget_of_grounded`: sessions whose edits were all clear so far.
-/

namespace TravelPlanAgent

open Calendar

variable [Platform]

/-! ## The budget -/

/-- A new request for the interrupt that is pending, expecting what is there. -/
structure InTurn (session : PlanSession) (request : LifecycleResumeRequest) : Prop where
  fresh : session.record.receipts.get? request.requestId = none
  pending : request.interruptId ∈ session.pendingInterrupts
  expected : ensureExpected session.record request = .ok ()

/-- An edit that the session accepts, given as a patch or as a text. -/
structure AcceptedEdit (services : ℕ → LifecycleServices) (session : PlanSession)
    (request : LifecycleResumeRequest) (patch : EditPatch) : Prop where
  inTurn : InTurn session request
  editable : isEditable session.record.status = true
  requested : ∃ version, activeVersion session.record = .ok version ∧
    requestedPatch (services (recursionLimit - 3)) session.record version request.action =
      .ok patch

/-- An answer that the session accepts, with the edit that it completes. -/
structure AcceptedAnswer (session : PlanSession) (request : LifecycleResumeRequest)
    (patch : EditPatch) : Prop where
  inTurn : InTurn session request
  asked : session.record.status = .needsEditClarification
  answered : ∃ state interruptId payload version itemId ungrounded,
    session.thread = some ⟨state, .interrupted interruptId payload⟩ ∧
    activeVersion session.record = .ok version ∧ request.action = .clarifyEdit itemId ∧
    itemId ∈ (identifiedItems version.candidate).map Prod.fst ∧
    state.editPatch = some ungrounded ∧
    clarifyOperations itemId ungrounded.operations = some patch.operations

/-- Some item of the edit is unknown in the active version, or not the only one of its name. -/
def NotGrounded (session : PlanSession) (patch : EditPatch) : Prop :=
  ∃ version failure, activeVersion session.record = .ok version ∧
    groundEditPatch version.candidate patch = .error failure

/-- How an edit is refused that may not be asked about again. -/
def clarificationExhausted : Failure :=
  .lifecycleAction "edit_clarification_exhausted" "编辑项目经过两轮仍无法唯一确定"

/-- This many times the edit is asked about, as long as its items are not clear. -/
def GrantsRounds (config : LifecycleConfig) : ℕ → ResumeReply × PlanSession → Prop
  | 0, after => after.1 = .raised clarificationExhausted
  | rounds + 1, after =>
    (∃ message, after.1 = .completed message) ∧
      after.2.record.status = .needsEditClarification ∧
      ∀ requirements services interruptId answer patch, (∀ n, (services n).fault = none) →
        AcceptedAnswer after.2 answer patch → NotGrounded after.2 patch →
        GrantsRounds config rounds
          (resume config requirements services interruptId after.2 answer)

/-- Every edit that is accepted and not clear is asked about, and up to twice. -/
def EditBudget (config : LifecycleConfig) (session : PlanSession) : Prop :=
  ∀ requirements services interruptId request patch, (∀ n, (services n).fault = none) →
    AcceptedEdit services session request patch → NotGrounded session patch →
    GrantsRounds config 2 (resume config requirements services interruptId session request)

/-! ## Runs up to the impact of an edit -/

section Impact

variable {config : LifecycleConfig} {services : ℕ → LifecycleServices} {session : PlanSession}
  {state : LifecycleState} {request : LifecycleResumeRequest} {patch : EditPatch}
  {interruptId : String} {payload : InterruptPayload}

/-- The request runs up to the node that finds the impact of this edit, and nothing was counted
on the way. -/
def ReachesImpact (config : LifecycleConfig) (services : ℕ → LifecycleServices)
    (session : PlanSession) (state : LifecycleState) (request : LifecycleResumeRequest)
    (patch : EditPatch) : Prop :=
  ∃ fuel before, runRequest config services session.record state request =
      runNodes config services (fuel + 2) session.record before .analyzeChangeImpact ∧
    before.action = some request ∧ before.editPatch = some patch ∧
    before.clarificationRound = state.clarificationRound

omit [Platform] in
/-- A request in turn is for the interrupt at which the thread waits. -/
theorem InTurn.thread (h : InTurn session request)
    (hthread : session.thread = some ⟨state, .interrupted interruptId payload⟩) :
    session.thread = some ⟨state, .interrupted request.interruptId payload⟩ := by
  have hpending := h.pending
  unfold PlanSession.pendingInterrupts at hpending
  rw [hthread] at hpending
  rw [hthread, List.mem_singleton.mp hpending]

/-- A request in turn runs from its node. -/
theorem InTurn.runRequest_eq {node : LifecycleNode} (hreachable : Reachable config session)
    (hthread : session.thread = some ⟨state, .interrupted interruptId payload⟩)
    (hroute : routeAction request.action = .ok node) (hworking : ∀ n, (services n).fault = none) :
    runRequest config services session.record state request =
      runNodes config services (recursionLimit - 2) session.record
        (dispatched session.record state request) node :=
  TravelPlanAgent.runRequest_eq
    ((threadInvariant_of_reachable hreachable).payload _ _ _ hthread) hroute (hworking _)
    (hworking _)

omit [Platform] in
/-- A patch that was requested was requested by an edit. -/
theorem routeAction_of_requestedPatch {services : LifecycleServices} {record : PlanSessionRecord}
    {version : PlanVersion} {action : LifecycleAction}
    (h : requestedPatch services record version action = .ok patch) :
    routeAction action = .ok .parseEdit := by
  cases action with
  | edit patch => rfl
  | editText text => rfl
  | _ => cases h

omit [Platform] in
/-- The patch that was requested is handed on. -/
theorem parseEdit_of_requested {services : LifecycleServices} {record : PlanSessionRecord}
    {version : PlanVersion} (haction : state.action = some request)
    (hexpected : ensureExpected record request = .ok ())
    (heditable : isEditable record.status = true) (hactive : activeVersion record = .ok version)
    (hrequested : requestedPatch services record version request.action = .ok patch) :
    parseEdit services state record = .ok (.goto { state with editPatch := some patch }) := by
  unfold parseEdit
  rw [requestOf_eq_ok_of_action haction]
  simp only [bind, Except.bind, hexpected, require, if_pos heditable, hactive, hrequested]
  rfl

theorem reachesImpact_of_edit (hreachable : Reachable config session)
    (hthread : session.thread = some ⟨state, .interrupted interruptId payload⟩)
    (hworking : ∀ n, (services n).fault = none)
    (h : AcceptedEdit services session request patch) :
    ReachesImpact config services session state request patch := by
  obtain ⟨version, hactive, hrequested⟩ := h.requested
  have hroute := routeAction_of_requestedPatch hrequested
  have hexec : execNode config (services 37) (dispatched session.record state request)
      session.record .parseEdit =
        .ok (.goto { dispatched session.record state request with editPatch := some patch }) :=
    parseEdit_of_requested rfl h.inTurn.expected h.editable hactive hrequested
  refine ⟨35, { dispatched session.record state request with editPatch := some patch }, ?_,
    rfl, rfl, rfl⟩
  rw [InTurn.runRequest_eq hreachable hthread hroute hworking]
  exact runNodes_of_goto (hworking 37) (by simp) hexec rfl

theorem reachesImpact_of_answer (hreachable : Reachable config session)
    (hthread : session.thread = some ⟨state, .interrupted interruptId payload⟩)
    (hworking : ∀ n, (services n).fault = none) (h : AcceptedAnswer session request patch) :
    ReachesImpact config services session state request patch := by
  obtain ⟨state', _, _, version, itemId, ungrounded, hthread', hactive, haction, hknown, hpatch,
    hclarified⟩ := h.answered
  obtain rfl : state' = state := by
    rw [hthread] at hthread'
    cases hthread'
    rfl
  have hroute : routeAction request.action = .ok .applyEditClarification := by
    rw [haction]
    rfl
  have hpending : (dispatched session.record state' request).editPatch = some ungrounded := hpatch
  have hexec : execNode config (services 37) (dispatched session.record state' request)
      session.record .applyEditClarification =
        .ok (.goto (answeredState session.record state' request patch.operations)) :=
    applyEditClarification_answer rfl haction h.inTurn.expected h.asked hactive hknown hpending
      hclarified
  refine ⟨35, answeredState session.record state' request patch.operations, ?_, rfl, rfl, rfl⟩
  rw [InTurn.runRequest_eq hreachable hthread hroute hworking]
  exact runNodes_of_goto (hworking 37) (by simp) hexec rfl

end Impact

/-! ## Questions that are left -/

section Rounds

variable {config : LifecycleConfig} {services : ℕ → LifecycleServices} {session : PlanSession}
  {state : LifecycleState} {request : LifecycleResumeRequest} {patch : EditPatch}
  {interruptId : String} {payload : InterruptPayload}

/-- An edit that is not clear is asked about while questions are left. -/
theorem resume_asks (hthread : session.thread = some ⟨state, .interrupted interruptId payload⟩)
    (hturn : InTurn session request)
    (hclear : session.record.status ≠ .needsRequirementClarification)
    (hworking : ∀ n, (services n).fault = none)
    (himpact : ReachesImpact config services session state request patch)
    (hnotGrounded : NotGrounded session patch) (hround : state.clarificationRound < 2)
    (requirements : String → Result RequirementOutcome) (newId : String) :
    ∃ message after newPayload,
      resume config requirements services newId session request = (.completed message,
        ⟨askedRecord session.record request, some ⟨after, .interrupted newId newPayload⟩⟩) ∧
      after.editPatch = some patch ∧
      after.clarificationRound = state.clarificationRound + 1 := by
  obtain ⟨fuel, before, hrun, haction, hpatch, hcounted⟩ := himpact
  obtain ⟨version, failure, hactive, hunclear⟩ := hnotGrounded
  rw [← hcounted] at hround
  obtain ⟨message, hexec⟩ : ∃ message, execNode config (services (fuel + 1)) before
      session.record .analyzeChangeImpact =
        .ok (.saved (askedRecord session.record request) (askedState before message)) :=
    analyzeImpact_asks haction hactive hpatch hunclear hround
  obtain ⟨newPayload, hpayload⟩ : ∃ newPayload,
      interruptPayload (askedRecord session.record request) (askedState before message) =
        .ok newPayload := exists_payload_askedRecord hactive _
  have hpaused := runNodes_of_saved hworking hexec hpayload
  refine ⟨some message, askedState before message, newPayload, ?_, hpatch,
    congrArg (· + 1) hcounted⟩
  rw [resume_of_pending (hturn.thread hthread) hclear hturn.fresh, hrun, hpaused]
  rfl

/-- An edit that is not clear is refused when no question is left. -/
theorem resume_exhausted
    (hthread : session.thread = some ⟨state, .interrupted interruptId payload⟩)
    (hturn : InTurn session request)
    (hclear : session.record.status ≠ .needsRequirementClarification)
    (hworking : ∀ n, (services n).fault = none)
    (himpact : ReachesImpact config services session state request patch)
    (hnotGrounded : NotGrounded session patch) (hround : 2 ≤ state.clarificationRound)
    (requirements : String → Result RequirementOutcome) (newId : String) :
    (resume config requirements services newId session request).1 =
      .raised clarificationExhausted := by
  obtain ⟨fuel, before, hrun, haction, hpatch, hcounted⟩ := himpact
  obtain ⟨version, failure, hactive, hunclear⟩ := hnotGrounded
  obtain ⟨code, message, rfl, hcode⟩ := groundEditPatch_error hunclear
  have hspent : ¬ before.clarificationRound < 2 := by omega
  have hexec : execNode config (services (fuel + 1)) before session.record .analyzeChangeImpact =
      .error clarificationExhausted := by
    unfold execNode analyzeImpact
    rw [requestOf_eq_ok_of_action haction]
    simp only [bind, Except.bind, hactive, hpatch, orRaise, hunclear, if_pos hcode,
      askForClarification, require, if_neg hspent]
    rfl
  have hstep := stepNode_of_error (hworking (fuel + 1)) (by simp) hexec
  rw [resume_of_pending (hturn.thread hthread) hclear hturn.fresh, hrun, runNodes_succ hstep]
  rfl

omit [Platform] in
/-- A plan that can be changed has clear requirements. -/
theorem clear_of_isEditable {record : PlanSessionRecord} (h : isEditable record.status = true) :
    record.status ≠ .needsRequirementClarification := by
  intro hstatus
  rw [hstatus] at h
  cases h

/-- **An edit has the questions that are left.**  It is asked about once for each of them, as long
as the answers leave it unclear, and then refused. -/
theorem grantsRounds_of_impact {rounds : ℕ} (hreachable : Reachable config session)
    (hthread : session.thread = some ⟨state, .interrupted interruptId payload⟩)
    (hturn : InTurn session request)
    (hclear : session.record.status ≠ .needsRequirementClarification)
    (hworking : ∀ n, (services n).fault = none)
    (himpact : ReachesImpact config services session state request patch)
    (hnotGrounded : NotGrounded session patch) (hrounds : rounds = 2 - state.clarificationRound)
    (requirements : String → Result RequirementOutcome) (newId : String) :
    GrantsRounds config rounds
      (resume config requirements services newId session request) := by
  induction rounds generalizing session state request patch interruptId payload services
    requirements newId with
  | zero =>
    exact resume_exhausted hthread hturn hclear hworking himpact hnotGrounded (by omega) ..
  | succ rounds ih =>
    obtain ⟨message, after, newPayload, hresume, -, hcounted⟩ := resume_asks hthread hturn
      hclear hworking himpact hnotGrounded (by omega) requirements newId
    have hnext : Reachable config
        (resume config requirements services newId session request).2 := .resumed _ _ _ _ hreachable
    rw [hresume] at hnext ⊢
    refine ⟨⟨message, rfl⟩, rfl, ?_⟩
    intro requirements' services' newId' answer patch' hworking' hanswer hnotGrounded'
    have hwaits : (askedRecord session.record request).status ≠
        .needsRequirementClarification := by
      change PlanSessionStatus.needsEditClarification ≠ _
      simp
    exact ih hnext rfl hanswer.inTurn hwaits hworking'
      (reachesImpact_of_answer hnext rfl hworking' hanswer) hnotGrounded' (by omega) ..

/-- An edit has two questions where none was asked before. -/
theorem editBudget_of_unasked (hreachable : Reachable config session)
    (hunasked : AtInterrupt (fun _ state => state.clarificationRound = 0) session) :
    EditBudget config session := by
  intro requirements services newId request patch hworking hedit hnotGrounded
  obtain ⟨state, payload, hthread⟩ := exists_thread_of_pending hedit.inTurn.pending
  have hrounds : 2 = 2 - state.clarificationRound := by
    rw [hunasked _ _ _ hthread]
  exact grantsRounds_of_impact hreachable hthread hedit.inTurn (clear_of_isEditable hedit.editable)
    hworking (reachesImpact_of_edit hreachable hthread hworking hedit) hnotGrounded hrounds ..

/-! An edit that removes an unknown item stays unclear after an answer about another operation, so
it needs every question that there is. -/

/-- Add a place, and remove the item of this id. -/
def additionAndRemoval (answer : Option String) (itemId : String) : EditPatch :=
  ⟨[{ Sample.addition with itemId := answer },
    ⟨.removeItem, some itemId, none, none, none, none⟩]⟩

theorem notGrounded_additionAndRemoval {version : PlanVersion} {answer : Option String}
    {itemId : String} (hactive : activeVersion session.record = .ok version)
    (hanswer : ∀ known ∈ answer, known ∈ (identifiedItems version.candidate).map Prod.fst)
    (hunknown : itemId ∉ (identifiedItems version.candidate).map Prod.fst) :
    NotGrounded session (additionAndRemoval answer itemId) := by
  have hfirst : ∃ grounded, groundOperation version.candidate
      { Sample.addition with itemId := answer } = .ok grounded := by
    cases answer with
    | none => exact ⟨_, rfl⟩
    | some known =>
      unfold groundOperation
      dsimp only
      rw [if_pos (hanswer known rfl)]
      exact ⟨_, rfl⟩
  have hsecond : groundOperation version.candidate
      ⟨.removeItem, some itemId, none, none, none, none⟩ =
        .error (.lifecycleAction "unknown_item" "编辑引用的计划项目不存在") := by
    unfold groundOperation
    dsimp only
    rw [if_neg hunknown]
  exact ⟨version, _, hactive, groundEditPatch_eq_error_iff.mpr
    ⟨_, _, [], rfl, List.forall_mem_singleton.mpr hfirst, hsecond⟩⟩

omit [Platform] in
/-- Some item id is unknown. -/
theorem exists_unknown (items : List String) : ∃ itemId, itemId ∉ items := by
  have hinfinite : Infinite String := .of_injective _ toString_nat_injective
  obtain ⟨itemId, hunknown⟩ := Infinite.exists_notMem_finset items.toFinset
  exact ⟨itemId, fun hmem => hunknown (List.mem_toFinset.mpr hmem)⟩

/-- Where questions were asked before, some edit has fewer than two. -/
theorem unasked_of_editBudget {version : PlanVersion} (hreachable : Reachable config session)
    (hthread : session.thread = some ⟨state, .interrupted interruptId payload⟩)
    (heditable : isEditable session.record.status = true)
    (hactive : activeVersion session.record = .ok version)
    (hitems : identifiedItems version.candidate ≠ []) (h : EditBudget config session) :
    state.clarificationRound = 0 := by
  obtain ⟨requestId, hfresh⟩ := exists_fresh session.record.receipts
  obtain ⟨unknown, hunknown⟩ := exists_unknown ((identifiedItems version.candidate).map Prod.fst)
  let patch := additionAndRemoval none unknown
  let request : LifecycleResumeRequest := ⟨interruptId, requestId, none, none, .edit patch⟩
  have hworking : ∀ n : ℕ, ((fun _ => Sample.services : ℕ → LifecycleServices) n).fault = none :=
    fun _ => rfl
  have hpending : interruptId ∈ session.pendingInterrupts := by
    unfold PlanSession.pendingInterrupts
    rw [hthread]
    exact List.mem_cons_self
  have hturn : InTurn session request := ⟨hfresh, hpending, ensureExpected_of_none ..⟩
  have hedit : AcceptedEdit (fun _ => Sample.services) session request patch :=
    ⟨hturn, heditable, version, hactive, rfl⟩
  have hnotGrounded : NotGrounded session patch :=
    notGrounded_additionAndRemoval hactive (by simp) hunknown
  have hclear := clear_of_isEditable heditable
  have himpact := reachesImpact_of_edit hreachable hthread hworking hedit
  let requirements : String → Result RequirementOutcome := fun _ => .error .editUnavailable
  obtain ⟨⟨message, hcompleted⟩, -, hanswers⟩ :=
    h requirements _ "next" request patch hworking hedit hnotGrounded
  by_contra hasked
  by_cases hround : state.clarificationRound < 2
  · -- The first question was the last one.
    obtain ⟨message', after, newPayload, hresume, hpatch, hcounted⟩ := resume_asks hthread hturn
      hclear hworking himpact hnotGrounded hround requirements "next"
    have hnext : Reachable config (resume config requirements (fun _ => Sample.services) "next"
        session request).2 := .resumed _ _ _ _ hreachable
    rw [hresume] at hnext hanswers
    obtain ⟨answerId, hfreshAnswer⟩ := exists_fresh (askedRecord session.record request).receipts
    obtain ⟨entry, hentry⟩ := List.exists_mem_of_ne_nil _ hitems
    have hknown := List.mem_map_of_mem (f := Prod.fst) hentry
    let answer : LifecycleResumeRequest := ⟨"next", answerId, none, none, .clarifyEdit entry.1⟩
    have hanswer : AcceptedAnswer
        ⟨askedRecord session.record request, some ⟨after, .interrupted "next" newPayload⟩⟩ answer
        (additionAndRemoval (some entry.1) unknown) :=
      ⟨⟨hfreshAnswer, List.mem_cons_self, ensureExpected_of_none ..⟩, rfl, after, "next",
        newPayload, version, entry.1, patch, rfl, hactive, rfl, hknown, hpatch, rfl⟩
    have hstill : NotGrounded
        ⟨askedRecord session.record request, some ⟨after, .interrupted "next" newPayload⟩⟩
        (additionAndRemoval (some entry.1) unknown) :=
      notGrounded_additionAndRemoval hactive (by rintro known ⟨⟩; exact hknown) hunknown
    obtain ⟨⟨_, hagain⟩, -⟩ := hanswers requirements _ "later" answer _ hworking hanswer hstill
    have hwaits : (askedRecord session.record request).status ≠
        .needsRequirementClarification := by
      change PlanSessionStatus.needsEditClarification ≠ _
      simp
    have hspent := resume_exhausted rfl hanswer.inTurn hwaits hworking
      (reachesImpact_of_answer hnext rfl hworking hanswer) hstill (by omega) requirements "later"
    rw [hspent] at hagain
    cases hagain
  · have hspent := resume_exhausted hthread hturn hclear hworking himpact hnotGrounded (by omega)
      requirements "next"
    rw [hspent] at hcompleted
    cases hcompleted

/-- An edit has two questions exactly where none was asked before. -/
theorem editBudget_iff {version : PlanVersion} (hreachable : Reachable config session)
    (hthread : session.thread = some ⟨state, .interrupted interruptId payload⟩)
    (heditable : isEditable session.record.status = true)
    (hactive : activeVersion session.record = .ok version)
    (hitems : identifiedItems version.candidate ≠ []) :
    EditBudget config session ↔ state.clarificationRound = 0 := by
  refine ⟨unasked_of_editBudget hreachable hthread heditable hactive hitems, fun hround => ?_⟩
  refine editBudget_of_unasked hreachable fun state' _ _ hthread' => ?_
  rw [hthread] at hthread'
  cases hthread'
  exact hround

end Rounds

/-! ## Where questions are counted -/

/-- A node that goes on with this many questions counted. -/
def AsksNothing (round : ℕ) (outcome : Result NodeOutcome) : Prop :=
  ∀ left after, outcome = .ok left → left.stateAfter = some after →
    after.clarificationRound = round

section AsksNothing

variable {round : ℕ}

omit [Platform] in
theorem asksNothing_bind {α : Type} {x : Result α} {f : α → Result NodeOutcome}
    (h : ∀ a, AsksNothing round (f a)) : AsksNothing round (x >>= f) := by
  intro left after hleft hafter
  obtain ⟨a, -, ha⟩ := bind_eq_ok hleft
  exact h a left after ha hafter

omit [Platform] in
theorem asksNothing_ok {left : NodeOutcome}
    (h : ∀ after, left.stateAfter = some after → after.clarificationRound = round) :
    AsksNothing round (.ok left) := by
  intro left' after hleft hafter
  cases hleft
  exact h after hafter

omit [Platform] in
theorem asksNothing_error (failure : Failure) : AsksNothing round (.error failure) := by
  intro left after hleft
  cases hleft

omit [Platform] in
theorem asksNothing_goto {after : LifecycleState} (h : after.clarificationRound = round) :
    AsksNothing round (.ok (.goto after)) :=
  asksNothing_ok fun _ hafter => Option.some.inj hafter ▸ h

omit [Platform] in
theorem asksNothing_saved {record : PlanSessionRecord} {after : LifecycleState}
    (h : after.clarificationRound = round) : AsksNothing round (.ok (.saved record after)) :=
  asksNothing_ok fun _ hafter => Option.some.inj hafter ▸ h

omit [Platform] in
theorem asksNothing_raised {record : PlanSessionRecord} {failure : Failure} :
    AsksNothing round (.ok (.savedThenRaised record failure)) :=
  asksNothing_ok fun _ hafter => nomatch hafter

end AsksNothing

/-- The items of an edit whose impact is found are clear. -/
def GroundedNode (session : PlanSessionRecord) (state : LifecycleState) (node : LifecycleNode) :
    Prop :=
  node = .analyzeChangeImpact → ∀ version patch, activeVersion session = .ok version →
    state.editPatch = some patch →
      ∃ grounded, groundEditPatch version.candidate patch = .ok grounded

section Nodes

variable {config : LifecycleConfig} {services : LifecycleServices} {state : LifecycleState}
  {session : PlanSessionRecord}

/-- The impact of an edit that is clear is found without a question. -/
theorem asksNothing_analyzeImpact (h : GroundedNode session state .analyzeChangeImpact) :
    AsksNothing state.clarificationRound (analyzeImpact config state session) := by
  unfold analyzeImpact
  refine asksNothing_bind fun request => ?_
  cases hactive : activeVersion session with
  | error failure => exact asksNothing_error failure
  | ok version =>
    cases hpatch : state.editPatch with
    | none => exact asksNothing_error _
    | some patch =>
      obtain ⟨grounded, hgrounded⟩ := h rfl version patch hactive hpatch
      dsimp only [orRaise, bind, Except.bind]
      rw [hgrounded]
      refine asksNothing_bind fun _ => ?_
      split
      · exact asksNothing_saved rfl
      · exact asksNothing_goto rfl

/-- Only an edit that is not clear is counted. -/
theorem asksNothing_execNode {node : LifecycleNode} (h : GroundedNode session state node) :
    AsksNothing state.clarificationRound (execNode config services state session node) := by
  cases node with
  | awaitUserAction => exact asksNothing_goto rfl
  | dispatchAction => exact asksNothing_goto rfl
  | analyzeChangeImpact => exact asksNothing_analyzeImpact h
  | selectCandidate =>
    unfold execNode selectCandidate
    iterate 8 refine asksNothing_bind fun _ => ?_
    exact asksNothing_saved rfl
  | changeLock =>
    unfold execNode changeLock
    iterate 5 refine asksNothing_bind fun _ => ?_
    exact asksNothing_saved rfl
  | parseEdit =>
    unfold execNode parseEdit
    iterate 5 refine asksNothing_bind fun _ => ?_
    exact asksNothing_goto rfl
  | applyEditClarification =>
    unfold execNode applyEditClarification
    iterate 8 refine asksNothing_bind fun _ => ?_
    exact asksNothing_goto rfl
  | buildLocalPreview =>
    unfold execNode buildPreview
    iterate 10 refine asksNothing_bind fun _ => ?_
    exact asksNothing_saved rfl
  | resolveApproval =>
    unfold execNode resolveApproval
    iterate 4 refine asksNothing_bind fun _ => ?_
    refine asksNothing_bind fun approval => ?_
    obtain ⟨previewId, token⟩ := approval
    refine asksNothing_bind fun _ => ?_
    cases token with
    | none => exact asksNothing_saved rfl
    | some token =>
      iterate 3 refine asksNothing_bind fun _ => ?_
      exact asksNothing_saved rfl
  | resolveWeatherLocation =>
    unfold execNode resolveWeatherLocation
    iterate 6 refine asksNothing_bind fun _ => ?_
    dsimp only
    split
    · exact asksNothing_goto rfl
    · refine asksNothing_bind fun located => ?_
      cases located with
      | success => exact asksNothing_goto rfl
      | failed => exact asksNothing_raised
  | fetchWeatherSnapshot =>
    unfold execNode fetchWeatherSnapshot
    iterate 5 refine asksNothing_bind fun _ => ?_
    refine asksNothing_bind fun fetched => ?_
    cases fetched with
    | success => exact asksNothing_goto rfl
    | failed => exact asksNothing_raised
  | classifyWeatherRisks =>
    unfold execNode classifyWeatherRisks
    exact asksNothing_bind fun _ => asksNothing_goto rfl
  | deriveWeatherEvent =>
    unfold execNode deriveWeatherChange
    iterate 3 refine asksNothing_bind fun _ => ?_
    exact asksNothing_goto rfl
  | deduplicateWeatherEvent =>
    unfold execNode deduplicateWeatherEvent
    iterate 3 refine asksNothing_bind fun _ => ?_
    dsimp only
    split
    · exact asksNothing_saved rfl
    · split
      · exact asksNothing_saved rfl
      · split
        · exact asksNothing_saved rfl
        · exact asksNothing_goto rfl
  | analyzeWeatherImpact =>
    unfold execNode analyzeWeatherChangeImpact
    iterate 4 refine asksNothing_bind fun _ => ?_
    dsimp only
    split
    · exact asksNothing_saved rfl
    · split
      · exact asksNothing_saved rfl
      · exact asksNothing_goto rfl
  | buildWeatherRepairPlan =>
    unfold execNode buildWeatherRepair
    iterate 7 refine asksNothing_bind fun _ => ?_
    refine asksNothing_bind fun _ => ?_
    dsimp only
    split
    · exact asksNothing_saved rfl
    · refine asksNothing_bind fun _ => ?_
      exact asksNothing_goto rfl
  | dismissWeatherEvent =>
    unfold execNode dismissWeatherEvent
    iterate 6 refine asksNothing_bind fun _ => ?_
    exact asksNothing_saved rfl

/-- What a node hands on has as many questions counted as what it found. -/
theorem clarificationRound_handsOn {record' : PlanSessionRecord} {state' : LifecycleState}
    {node node' : LifecycleNode} (h : GroundedNode session state node)
    (hands : HandsOn config services session state node record' state' node') :
    state'.clarificationRound = state.clarificationRound := by
  rcases hands.exec with ⟨hexec, -⟩ | hexec <;> exact asksNothing_execNode h _ _ hexec rfl

end Nodes

/-! ## Sessions that were never asked -/

/-- The sessions that runs lead to in which every edit was clear so far. -/
inductive GroundedReachable (config : LifecycleConfig) : PlanSession → Prop where
  | created {session : PlanSession} : Created session → GroundedReachable config session
  | resumed {session : PlanSession} (requirements : String → Result RequirementOutcome)
      (services : ℕ → LifecycleServices) (interruptId : String)
      (request : LifecycleResumeRequest)
      (grounded : EveryNodeOf config (fun _ => GroundedNode) services session request) :
      GroundedReachable config session →
      GroundedReachable config
        (resume config requirements services interruptId session request).2

section Runs

variable {config : LifecycleConfig} {session : PlanSession}

theorem GroundedReachable.reachable (h : GroundedReachable config session) :
    Reachable config session := by
  induction h with
  | created hcreated => exact .created hcreated
  | resumed requirements services interruptId request _ _ ih => exact .resumed _ _ _ _ ih

/-- Where every edit was clear so far, no question was counted. -/
theorem unasked_of_groundedReachable (h : GroundedReachable config session) :
    AtInterrupt (fun _ state => state.clarificationRound = 0) session := by
  induction h with
  | created hcreated =>
    cases hcreated with
    | planned sessionId snapshot services interruptId =>
      exact atInterrupt_startLifecycle services interruptId rfl
    | clarifying sessionId externalInterrupt =>
      intro state interruptId payload hthread
      cases hthread
  | resumed requirements services newId request grounded hreachable ih =>
    exact atInterrupt_resume (motive := fun _ state _ => state.clarificationRound = 0)
      (fun _ _ _ _ hround _ => hround) (fun _ _ hround => hround) (fun _ _ _ _ _ _ => rfl)
      (fun _ _ _ _ _ _ _ hround hgrounded hands =>
        (clarificationRound_handsOn hgrounded hands).trans hround)
      requirements newId (threadInvariant_of_reachable hreachable.reachable) ih grounded

/-- **The budget of an edit.**  In every session whose edits were all clear so far, an edit that is
accepted and not clear is asked about, and up to twice. -/
theorem editBudget_of_grounded (h : GroundedReachable config session) : EditBudget config session :=
  editBudget_of_unasked h.reachable (unasked_of_groundedReachable h)

end Runs

/-! ## An edit after an edit that was asked about -/

namespace Sample

omit [Platform]

/-- Two items are moved over three days, by names that no item has. -/
def unclearMoves : EditPatch :=
  ⟨[⟨.moveItem, none, some "x", some (Date.ofYmd 2026 10 3), none, none⟩,
    ⟨.moveItem, none, some "y", some day2, none, none⟩]⟩

/-- The first item of the active version. -/
def firstItemId (session : PlanSession) : String :=
  match activeVersion session.record with
  | .ok version => ((identifiedItems version.candidate).map Prod.fst).headD ""
  | .error _ => ""

/-- The session that was asked twice about its edit, and found that it reaches too far. -/
def askedTwice : PlanSession :=
  let selected := selectedFrom [draft] pois
  let edited := (send selected "after r1" "r2" (.edit unclearMoves)).2
  let answered := (send edited "after r2" "r3" (.clarifyEdit (firstItemId selected))).2
  (send answered "after r3" "r4" (.clarifyEdit (firstItemId selected))).2

theorem reachable_askedTwice : @Reachable plainPlatform config askedTwice :=
  reachable_send (reachable_send (reachable_send (reachable_send (reachable_startedWith ..) ..) ..)
    ..) ..

theorem groundedReachable_selectedFrom :
    @GroundedReachable plainPlatform config (selectedFrom [draft] pois) := by
  refine @GroundedReachable.resumed plainPlatform config _ _ _ _ _ ?_
    (@GroundedReachable.created plainPlatform config _
      (.planned "s" (snapshotOf [draft] pois) services "i1"))
  intro state interruptId payload node _ hroute
  cases hroute
  exact @everyNode_selectCandidate plainPlatform _ _ _ _
    (fun _ _ _ hnode => nomatch hnode) (fun _ _ _ hnode => nomatch hnode) _ _

end Sample

omit [Platform] in
/-- The first edit of the two-day trip has its questions. -/
theorem editBudget_of_grounded_selected :
    (Sample.questionedSession [Sample.unclearRemoval]).record.status = .needsEditClarification ∧
      @EditBudget plainPlatform Sample.config (Sample.selectedFrom [Sample.draft] Sample.pois) :=
  ⟨by decide +kernel,
    @editBudget_of_grounded plainPlatform _ _ Sample.groundedReachable_selectedFrom⟩

omit [Platform] in
/-- After an edit that was asked about twice, the next one that is not clear is refused. -/
theorem exists_reachable_not_editBudget :
    let := plainPlatform
    Reachable Sample.config Sample.askedTwice ∧
      Sample.askedTwice.record.status = .requiresNewPlan ∧
      EditPatch.valid ⟨[Sample.unclearRemoval]⟩ = true ∧
      (Sample.send Sample.askedTwice "after r4" "r5" (.edit ⟨[Sample.unclearRemoval]⟩)).1 =
        .raised clarificationExhausted ∧
      ¬ EditBudget Sample.config Sample.askedTwice := by
  have hrun : Sample.askedTwice.record.status = .requiresNewPlan ∧
      Sample.askedTwice.pendingInterrupts = ["after r4"] ∧
      Sample.askedTwice.record.receipts.get? "r5" = none ∧
      (Sample.send Sample.askedTwice "after r4" "r5" (.edit ⟨[Sample.unclearRemoval]⟩)).1 =
        .raised clarificationExhausted ∧
      okAnd (activeVersion Sample.askedTwice.record) (fun version =>
        (@groundEditPatch plainPlatform version.candidate
          ⟨[Sample.unclearRemoval]⟩).toOption.isNone) = true := by decide +kernel
  obtain ⟨hstatus, hpending, hfresh, hraised, hversion⟩ := hrun
  refine ⟨Sample.reachable_askedTwice, hstatus, by decide, hraised, fun hbudget => ?_⟩
  obtain ⟨version, hactive, hunclear⟩ := okAnd_eq_true hversion
  have hedit : AcceptedEdit (fun _ => Sample.services) Sample.askedTwice
      (Sample.request "after r4" "r5" (.edit ⟨[Sample.unclearRemoval]⟩))
      ⟨[Sample.unclearRemoval]⟩ := by
    refine ⟨⟨hfresh, ?_, ensureExpected_of_none ..⟩, ?_, version, hactive, rfl⟩
    · rw [hpending]
      exact List.mem_cons_self
    · rw [hstatus]
      rfl
  have hnotGrounded : @NotGrounded plainPlatform Sample.askedTwice ⟨[Sample.unclearRemoval]⟩ := by
    cases hground : @groundEditPatch plainPlatform version.candidate ⟨[Sample.unclearRemoval]⟩ with
    | error failure => exact ⟨version, failure, hactive, hground⟩
    | ok grounded =>
      rw [hground] at hunclear
      cases hunclear
  obtain ⟨⟨message, hcompleted⟩, -⟩ :=
    hbudget (fun _ => .error .editUnavailable) _ ("after " ++ "r5") _ _ (fun _ => rfl) hedit
      hnotGrounded
  have hreply := hraised.symm.trans hcompleted
  cases hreply

end TravelPlanAgent
