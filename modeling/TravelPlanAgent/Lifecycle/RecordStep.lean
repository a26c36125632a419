import TravelPlanAgent.Lifecycle.Thread

/-!
# What a node can do to a record

The nodes differ in what they check and agree in what they write: there are six ways in which a
node that saves changes the plan.  Every invariant of the record is proved from this list, and
no such proof opens a node again.

* `softScore_of_previewCritique`: the score in a preview is that of its critique.
* `RecordStep`: the six ways, with the facts that the node checked before saving.
* `NodeEffect`: a node goes on with the request it has, notes a weather failure, or saves.
* `nodeEffect_execNode`: every node has one of these effects.
* `RecordStep.sessionRevision`, `RecordStep.receipts`: one revision and one receipt each.
* `PlanStep`: the effects on the record alone; `reachable_of_planStep` is the induction over
  every run.
-/

namespace TravelPlanAgent

variable [Platform]

/-! ## Helpers that touch one event receipt -/

omit [Platform] in
theorem samePlan_updateEventReceipt (session : PlanSessionRecord) (eventId : String)
    (update : WeatherEventReceipt → WeatherEventReceipt) :
    SamePlan session (updateEventReceipt session eventId update) := by
  unfold updateEventReceipt
  split
  · exact SamePlan.refl session
  · exact ⟨rfl, rfl, rfl, rfl, rfl, rfl, rfl, rfl, rfl, rfl, rfl, rfl⟩

omit [Platform] in
theorem samePlan_updatePreviewEvent (session : PlanSessionRecord) (preview : PlanPreview)
    (update : WeatherEventReceipt → WeatherEventReceipt) :
    SamePlan session (updatePreviewEvent session preview update) := by
  unfold updatePreviewEvent
  split
  · exact SamePlan.refl session
  · exact samePlan_updateEventReceipt ..

omit [Platform] in
theorem samePlan_observePreviewWeather (config : LifecycleConfig) (state : LifecycleState)
    (session : PlanSessionRecord) (valid : Bool) :
    SamePlan session (observePreviewWeather config state session valid) := by
  unfold observePreviewWeather
  split
  · exact samePlan_persistWeatherObservation ..
  · exact SamePlan.refl session

omit [Platform] in
theorem SamePlan.withMonitor {a b : PlanSessionRecord} (h : SamePlan a b)
    (monitor : WeatherMonitorState) : SamePlan a { b with weatherMonitor := monitor } :=
  ⟨h.sessionId, h.lifecycleThreadId, h.status, h.sessionRevision, h.snapshot, h.activeVersionId,
    h.pendingPreviewId, h.versions, h.previews, h.locks, h.receipts, h.externalInterrupt⟩

omit [Platform] in
/-- The status and the receipt of a request do not touch the weather. -/
theorem SamePlan.withReceipt {a b : PlanSessionRecord} (h : SamePlan a b)
    (status : PlanSessionStatus) (request : LifecycleResumeRequest)
    (versionId previewId eventId : Option String) :
    SamePlan (TravelPlanAgent.withReceipt { a with status } request versionId previewId eventId)
      (TravelPlanAgent.withReceipt { b with status } request versionId previewId eventId) :=
  ⟨h.sessionId, h.lifecycleThreadId, rfl, congrArg (· + 1) h.sessionRevision, h.snapshot,
    h.activeVersionId, h.pendingPreviewId, h.versions, h.previews, h.locks, by
    change Dict.set b.receipts _ _ = Dict.set a.receipts _ _
    rw [h.receipts, h.sessionRevision], h.externalInterrupt⟩

/-! ## The score of a preview -/

/-- The score of what the critic said about a preview, if it said anything. -/
def softScore (config : LifecycleConfig) (critique : Option SoftCritique) : Result (Option ℚ) :=
  match critique with
  | none => .ok none
  | some critique => (qualityScore critique config.criticPolicy).map some

theorem softScore_of_previewCritique {config : LifecycleConfig} {services : LifecycleServices}
    {trip : TripSpec} {candidate : PlanCandidate} {validation : ValidationResult}
    {pois : List PlanningPOI} {opinion : PreviewCritique}
    (h : previewCritique config services trip candidate validation pois = .ok opinion) :
    softScore config opinion.critique = .ok opinion.score := by
  unfold previewCritique at h
  split at h
  · cases h
    rfl
  split at h
  · cases h
    rfl
  split at h
  · cases h
    rfl
  · cases h
    rfl
  · unfold askCritic at h
    obtain ⟨request, -, h⟩ := bind_eq_ok h
    obtain ⟨result, -, h⟩ := bind_eq_ok h
    split at h
    · obtain ⟨critique, -, h⟩ := bind_eq_ok h
      obtain ⟨score, hscore, h⟩ := bind_eq_ok h
      cases h
      change (qualityScore critique config.criticPolicy).map some = _
      rw [hscore]
      rfl
    · cases h
      rfl

/-! ## The changes -/

/-- What a node saves for a request, up to the weather fields. -/
inductive RecordStep (config : LifecycleConfig) (session : PlanSessionRecord)
    (request : LifecycleResumeRequest) : PlanSessionRecord → Prop where
  /-- A new status: a question, an oversized edit, the end of a refresh or a dismissal. -/
  | settled (status : PlanSessionStatus) (eventId : Option String)
      (settles : status = .active ∨ status = .needsEditClarification ∨
        status = .requiresNewPlan) :
      RecordStep config session request
        (withReceipt { session with status } request none none eventId)
  /-- The first version. -/
  | selected (snapshot : PlanningSnapshot) (candidate : PlanCandidate) (draft : CandidateDraft)
      (awaiting : session.status = .awaitingCandidateSelection)
      (deliverable : ∃ validation ∈ candidate.validation, validation.status ≠ .invalid) :
      RecordStep config session request
        (withReceipt
          { session with
            versions := session.versions.set "V1"
              (firstVersion session snapshot request candidate draft)
            activeVersionId := some "V1", status := .active }
          request (some "V1") none none)
  /-- A lock set or removed on the active version. -/
  | locked (version : PlanVersion) (locks : Dict String PlanLock)
      (editable : isEditable session.status = true)
      (active : activeVersion session = .ok version)
      (changed : changedLocks session version request = .ok locks) :
      RecordStep config session request
        (withReceipt { session with locks, status := .active } request none none none)
  /-- A preview of the active version that keeps every lock. -/
  | previewed (version : PlanVersion) (preview : PlanPreview) (eventId : Option String)
      (active : activeVersion session = .ok version)
      (previewId : preview.previewId = nextPreviewId session)
      (base : preview.baseVersionId = version.versionId)
      (validated : preview.candidate.validation = some preview.hardValidation)
      (status : preview.status =
        if previewValid preview.hardValidation then .pending else .invalid)
      (locksHold : ∀ lock ∈ lockList session, lockHolds preview.candidate lock = true)
      (reported : ∃ score, softScore config preview.softCritique = .ok score ∧
        buildPlanDiff version.candidate preview.candidate version.versionId preview.previewId none
          score = .ok preview.diff) :
      RecordStep config session request
        (withReceipt
          { session with
            previews := session.previews.set preview.previewId preview
            pendingPreviewId := some preview.previewId
            status := if previewValid preview.hardValidation then .awaitingChangeApproval
              else .changeRejected }
          request none (some preview.previewId) eventId)
  /-- The pending preview is rejected. -/
  | rejected (preview : PlanPreview)
      (awaiting : session.status = .awaitingChangeApproval)
      (pending : pendingPreview session = .ok preview) :
      RecordStep config session request
        (withReceipt
          { session with
            previews := session.previews.set (session.pendingPreviewId.getD "")
              { preview with status := .rejected }
            status := .active }
          request none (some preview.previewId) none)
  /-- The pending preview becomes the next version. -/
  | approved (preview : PlanPreview)
      (awaiting : session.status = .awaitingChangeApproval)
      (pending : pendingPreview session = .ok preview)
      (base : some preview.baseVersionId = session.activeVersionId)
      (room : session.versions.size < config.maxVersions) :
      RecordStep config session request
        (withReceipt
          { session with
            previews := session.previews.set (session.pendingPreviewId.getD "")
              { preview with status := .approved }
            versions := session.versions.set (approvedVersion session request preview).versionId
              (approvedVersion session request preview)
            activeVersionId := some (approvedVersion session request preview).versionId
            status := .active }
          request (some (approvedVersion session request preview).versionId)
          (some preview.previewId) (previewEventId preview))

/-- What a node that returns leads to.  It waits for the user if and only if it saved. -/
inductive NodeEffect (config : LifecycleConfig) (state : LifecycleState)
    (session : PlanSessionRecord) (node : LifecycleNode) : NodeOutcome → Prop where
  | goto (after : LifecycleState) (same : after.action = state.action)
      (goesOn : nextNode after node ≠ .ok .awaitUserAction) :
      NodeEffect config state session node (.goto after)
  | weatherFailed (services : LifecycleServices) (code : String) (failure : Failure) :
      NodeEffect config state session node (persistWeatherFailure services session code failure)
  | saved (request : LifecycleResumeRequest) (plan record : PlanSessionRecord)
      (after : LifecycleState) (action : state.action = some request)
      (step : RecordStep config session request plan) (same : SamePlan plan record)
      (waits : nextNode after node = .ok .awaitUserAction) :
      NodeEffect config state session node (.saved record after)

/-! ## The nodes -/

section Effects

variable {config : LifecycleConfig} {services : LifecycleServices} {state : LifecycleState}
  {session : PlanSessionRecord} {outcome : NodeOutcome}

omit [Platform] in
theorem requestOf_eq_ok {request : LifecycleResumeRequest} (h : requestOf state = .ok request) :
    state.action = some request :=
  orRaise_eq_ok h

theorem nodeEffect_selectCandidate (h : selectCandidate state session = .ok outcome) :
    NodeEffect config state session .selectCandidate outcome := by
  unfold selectCandidate at h
  obtain ⟨request, hrequest, h⟩ := bind_eq_ok h
  obtain ⟨_, -, h⟩ := bind_eq_ok h
  obtain ⟨_, hawaiting, h⟩ := bind_eq_ok h
  obtain ⟨snapshot, -, h⟩ := bind_eq_ok h
  obtain ⟨_, -, h⟩ := bind_eq_ok h
  obtain ⟨candidate, -, h⟩ := bind_eq_ok h
  obtain ⟨_, hvalid, h⟩ := bind_eq_ok h
  obtain ⟨draft, -, h⟩ := bind_eq_ok h
  cases h
  exact .saved request _ _ _ (requestOf_eq_ok hrequest)
    (.selected snapshot candidate draft (require_eq_ok hawaiting) (require_eq_ok hvalid))
    (SamePlan.refl _) rfl

theorem nodeEffect_changeLock (h : changeLock state session = .ok outcome) :
    NodeEffect config state session .changeLock outcome := by
  unfold changeLock at h
  obtain ⟨request, hrequest, h⟩ := bind_eq_ok h
  obtain ⟨_, -, h⟩ := bind_eq_ok h
  obtain ⟨_, heditable, h⟩ := bind_eq_ok h
  obtain ⟨version, hactive, h⟩ := bind_eq_ok h
  obtain ⟨locks, hlocks, h⟩ := bind_eq_ok h
  cases h
  exact .saved request _ _ _ (requestOf_eq_ok hrequest)
    (.locked version locks (require_eq_ok heditable) hactive hlocks) (SamePlan.refl _) rfl

theorem nodeEffect_parseEdit (h : parseEdit services state session = .ok outcome) :
    NodeEffect config state session .parseEdit outcome := by
  unfold parseEdit at h
  obtain ⟨_, -, h⟩ := bind_eq_ok h
  obtain ⟨_, -, h⟩ := bind_eq_ok h
  obtain ⟨_, -, h⟩ := bind_eq_ok h
  obtain ⟨_, -, h⟩ := bind_eq_ok h
  obtain ⟨_, -, h⟩ := bind_eq_ok h
  cases h
  exact .goto _ rfl nofun

theorem nodeEffect_applyEditClarification
    (h : applyEditClarification state session = .ok outcome) :
    NodeEffect config state session .applyEditClarification outcome := by
  unfold applyEditClarification at h
  obtain ⟨_, -, h⟩ := bind_eq_ok h
  obtain ⟨_, -, h⟩ := bind_eq_ok h
  obtain ⟨_, -, h⟩ := bind_eq_ok h
  obtain ⟨_, -, h⟩ := bind_eq_ok h
  obtain ⟨_, -, h⟩ := bind_eq_ok h
  obtain ⟨_, -, h⟩ := bind_eq_ok h
  obtain ⟨_, -, h⟩ := bind_eq_ok h
  obtain ⟨_, -, h⟩ := bind_eq_ok h
  cases h
  exact .goto _ rfl nofun

theorem nodeEffect_askForClarification {request : LifecycleResumeRequest} {message : String}
    (hrequest : state.action = some request)
    (h : askForClarification state session request message = .ok outcome) :
    NodeEffect config state session .analyzeChangeImpact outcome := by
  unfold askForClarification at h
  obtain ⟨_, -, h⟩ := bind_eq_ok h
  cases h
  exact .saved request _ _ _ hrequest (.settled _ none (.inr (.inl rfl))) (SamePlan.refl _) rfl

theorem nodeEffect_analyzeImpact (h : analyzeImpact config state session = .ok outcome) :
    NodeEffect config state session .analyzeChangeImpact outcome := by
  unfold analyzeImpact at h
  obtain ⟨request, hrequest, h⟩ := bind_eq_ok h
  obtain ⟨version, -, h⟩ := bind_eq_ok h
  obtain ⟨ungrounded, -, h⟩ := bind_eq_ok h
  split at h
  · split at h
    · exact nodeEffect_askForClarification (requestOf_eq_ok hrequest) h
    · cases h
  · cases h
  · obtain ⟨_, -, h⟩ := bind_eq_ok h
    split at h
    · cases h
      exact .saved request _ _ _ (requestOf_eq_ok hrequest) (.settled _ none (.inr (.inr rfl)))
        (SamePlan.refl _) rfl
    · cases h
      exact .goto _ rfl nofun

theorem lockHolds_of_checkLock {after : PlanCandidate} {lock : PlanLock}
    (h : checkLock after lock = .ok ()) : lockHolds after lock = true := by
  unfold checkLock at h
  split at h
  · obtain ⟨_, -, h⟩ := bind_eq_ok h
    exact require_eq_ok h
  · exact require_eq_ok h

/-- The lock guard lets a candidate pass only when every lock holds on it. -/
theorem lockHolds_of_checkLocality {before after : PlanCandidate} {preserved : List Calendar.Date}
    {locks : List PlanLock} (h : checkLocality before after preserved locks = .ok ()) :
    ∀ lock ∈ locks, lockHolds after lock = true := by
  unfold checkLocality at h
  obtain ⟨_, -, h⟩ := bind_eq_ok h
  exact fun lock hlock => lockHolds_of_checkLock (forM_eq_ok.mp h lock hlock)

/-- An edited candidate carries its own validation. -/
theorem validation_of_editedPlan {sessionId requestId : String} {trip : TripSpec}
    {version : PlanVersion} {alternatives : List PlanningPOI} {locks : List PlanLock}
    {patch : EditPatch} {plan : EditedPlan}
    (h : editedPlan config services sessionId requestId trip version alternatives locks patch =
      .ok plan) :
    plan.candidate.validation =
      some (validateCandidate trip plan.candidate plan.planningPois) := by
  unfold editedPlan at h
  obtain ⟨pois, -, h⟩ := bind_eq_ok h
  obtain ⟨⟨draft, itemIdsByPoi⟩, -, h⟩ := bind_eq_ok h
  obtain ⟨invalidated, -, h⟩ := bind_eq_ok h
  obtain ⟨routes, -, h⟩ := bind_eq_ok h
  obtain ⟨candidate, -, h⟩ := bind_eq_ok h
  cases h
  rfl

omit [Platform] in
theorem samePlan_storePreview {request : LifecycleResumeRequest} {preview : PlanPreview}
    {valid : Bool} {record : PlanSessionRecord}
    (h : storePreview config state session request preview valid = .ok record) :
    SamePlan
      (withReceipt
        { session with
          previews := session.previews.set preview.previewId preview
          pendingPreviewId := some preview.previewId
          status := if valid then .awaitingChangeApproval else .changeRejected }
        request none (some preview.previewId) (state.weatherEvent.map ChangeEvent.eventId))
      record := by
  have hseen := samePlan_observePreviewWeather config state session valid
  have hstored : SamePlan
      { session with
        previews := session.previews.set preview.previewId preview
        pendingPreviewId := some preview.previewId }
      { observePreviewWeather config state session valid with
        previews := (observePreviewWeather config state session valid).previews.set
          preview.previewId preview
        pendingPreviewId := some preview.previewId } :=
    { hseen with
      pendingPreviewId := rfl
      previews := congrArg (Dict.set · preview.previewId preview) hseen.previews }
  have hreceipt := hstored.withReceipt (if valid then .awaitingChangeApproval else .changeRejected)
    request none (some preview.previewId) (state.weatherEvent.map ChangeEvent.eventId)
  unfold storePreview at h
  dsimp only at h
  split at h
  · cases h
    exact hreceipt
  · obtain ⟨_, -, h⟩ := bind_eq_ok h
    cases h
    exact hreceipt.trans (samePlan_updateEventReceipt ..)

theorem nodeEffect_buildPreview (h : buildPreview config services state session = .ok outcome) :
    NodeEffect config state session .buildLocalPreview outcome := by
  unfold buildPreview at h
  obtain ⟨request, hrequest, h⟩ := bind_eq_ok h
  obtain ⟨_, -, h⟩ := bind_eq_ok h
  obtain ⟨snapshot, -, h⟩ := bind_eq_ok h
  obtain ⟨version, hactive, h⟩ := bind_eq_ok h
  obtain ⟨patch, -, h⟩ := bind_eq_ok h
  obtain ⟨plan, hplan, h⟩ := bind_eq_ok h
  obtain ⟨_, hguard, h⟩ := bind_eq_ok h
  obtain ⟨critique, hcritique, h⟩ := bind_eq_ok h
  obtain ⟨diff, hdiff, h⟩ := bind_eq_ok h
  obtain ⟨record, hrecord, h⟩ := bind_eq_ok h
  cases h
  exact .saved request _ _ _ (requestOf_eq_ok hrequest)
    (.previewed version _ _ hactive rfl rfl (validation_of_editedPlan hplan) rfl
      (lockHolds_of_checkLocality hguard)
      ⟨critique.score, softScore_of_previewCritique hcritique, hdiff⟩)
    (samePlan_storePreview hrecord) rfl

omit [Platform] in
theorem samePlan_rejectPreview (request : LifecycleResumeRequest) (preview : PlanPreview) :
    SamePlan
      (withReceipt
        { session with
          previews := session.previews.set (session.pendingPreviewId.getD "")
            { preview with status := .rejected }
          status := .active }
        request none (some preview.previewId) none)
      (rejectPreview session request preview) :=
  (samePlan_updatePreviewEvent
    { session with
      previews := session.previews.set (session.pendingPreviewId.getD "")
        { preview with status := .rejected } }
    preview _).withReceipt .active request none (some preview.previewId) none

theorem samePlan_approvePreview (request : LifecycleResumeRequest) (preview : PlanPreview) :
    SamePlan
      (withReceipt
        { session with
          previews := session.previews.set (session.pendingPreviewId.getD "")
            { preview with status := .approved }
          versions := session.versions.set (approvedVersion session request preview).versionId
            (approvedVersion session request preview)
          activeVersionId := some (approvedVersion session request preview).versionId
          status := .active }
        request (some (approvedVersion session request preview).versionId)
        (some preview.previewId) (previewEventId preview))
      (approvePreview session request preview) :=
  (samePlan_updatePreviewEvent
    { session with
      previews := session.previews.set (session.pendingPreviewId.getD "")
        { preview with status := .approved }
      versions := session.versions.set (approvedVersion session request preview).versionId
        (approvedVersion session request preview)
      activeVersionId := some (approvedVersion session request preview).versionId }
    preview _).withReceipt .active request _ (some preview.previewId) _

theorem nodeEffect_resolveApproval (h : resolveApproval config state session = .ok outcome) :
    NodeEffect config state session .resolveApproval outcome := by
  unfold resolveApproval at h
  obtain ⟨request, hrequest, h⟩ := bind_eq_ok h
  obtain ⟨_, -, h⟩ := bind_eq_ok h
  obtain ⟨_, hawaiting, h⟩ := bind_eq_ok h
  obtain ⟨preview, hpending, h⟩ := bind_eq_ok h
  obtain ⟨⟨previewId, token⟩, -, h⟩ := bind_eq_ok h
  obtain ⟨_, -, h⟩ := bind_eq_ok h
  cases token with
  | none =>
    cases h
    exact .saved request _ _ _ (requestOf_eq_ok hrequest)
      (.rejected preview (require_eq_ok hawaiting) hpending) (samePlan_rejectPreview ..) rfl
  | some token =>
    obtain ⟨_, -, h⟩ := bind_eq_ok h
    obtain ⟨_, hbase, h⟩ := bind_eq_ok h
    obtain ⟨_, hroom, h⟩ := bind_eq_ok h
    cases h
    exact .saved request _ _ _ (requestOf_eq_ok hrequest)
      (.approved preview (require_eq_ok hawaiting) hpending (require_eq_ok hbase).1
        (require_eq_ok hroom))
      (samePlan_approvePreview ..) rfl

/-! ## The weather nodes -/

theorem nodeEffect_persistWeatherTerminal {request : LifecycleResumeRequest}
    {node : LifecycleNode} (hwaits : ∀ after : LifecycleState,
      after.weatherDecision = some .terminal → nextNode after node = .ok .awaitUserAction)
    (hrequest : state.action = some request) (snapshot : WeatherSnapshot)
    (risks : List DailyWeatherRisk) (result : WeatherRefreshOutcome) (event : Option ChangeEvent)
    (eventStatus : Option WeatherEventStatus) (message : String) :
    NodeEffect config state session node
      (persistWeatherTerminal config state session request snapshot risks result event
        eventStatus message) :=
  .saved request _ _ _ hrequest (.settled .active (event.map ChangeEvent.eventId) (.inl rfl))
    ((samePlan_persistWeatherObservation session snapshot risks result event eventStatus
      config.weatherMaxEvents).withReceipt .active request none none _) (hwaits _ rfl)

theorem nodeEffect_resolveWeatherLocation
    (h : resolveWeatherLocation config services state session = .ok outcome) :
    NodeEffect config state session .resolveWeatherLocation outcome := by
  unfold resolveWeatherLocation at h
  obtain ⟨_, -, h⟩ := bind_eq_ok h
  obtain ⟨_, -, h⟩ := bind_eq_ok h
  obtain ⟨_, -, h⟩ := bind_eq_ok h
  obtain ⟨_, -, h⟩ := bind_eq_ok h
  obtain ⟨_, -, h⟩ := bind_eq_ok h
  obtain ⟨_, -, h⟩ := bind_eq_ok h
  dsimp only at h
  split at h
  · cases h
    exact .goto _ rfl nofun
  · obtain ⟨located, -, h⟩ := bind_eq_ok h
    split at h
    · cases h
      exact .goto _ rfl nofun
    · cases h
      exact .weatherFailed ..

theorem nodeEffect_fetchWeatherSnapshot
    (h : fetchWeatherSnapshot config services state session = .ok outcome) :
    NodeEffect config state session .fetchWeatherSnapshot outcome := by
  unfold fetchWeatherSnapshot at h
  obtain ⟨_, -, h⟩ := bind_eq_ok h
  obtain ⟨_, -, h⟩ := bind_eq_ok h
  obtain ⟨_, -, h⟩ := bind_eq_ok h
  obtain ⟨_, -, h⟩ := bind_eq_ok h
  obtain ⟨_, -, h⟩ := bind_eq_ok h
  obtain ⟨forecast, -, h⟩ := bind_eq_ok h
  split at h
  · cases h
    exact .weatherFailed ..
  · cases h
    exact .goto _ rfl nofun

theorem nodeEffect_classifyWeatherRisks (h : classifyWeatherRisks state = .ok outcome) :
    NodeEffect config state session .classifyWeatherRisks outcome := by
  unfold classifyWeatherRisks at h
  obtain ⟨_, -, h⟩ := bind_eq_ok h
  cases h
  exact .goto _ rfl nofun

theorem nodeEffect_deriveWeatherChange
    (h : deriveWeatherChange services state session = .ok outcome) :
    NodeEffect config state session .deriveWeatherEvent outcome := by
  unfold deriveWeatherChange at h
  obtain ⟨_, -, h⟩ := bind_eq_ok h
  obtain ⟨_, -, h⟩ := bind_eq_ok h
  obtain ⟨_, -, h⟩ := bind_eq_ok h
  cases h
  exact .goto _ rfl nofun

theorem nodeEffect_deduplicateWeatherEvent
    (h : deduplicateWeatherEvent config state session = .ok outcome) :
    NodeEffect config state session .deduplicateWeatherEvent outcome := by
  unfold deduplicateWeatherEvent at h
  obtain ⟨request, hrequest, h⟩ := bind_eq_ok h
  have haction := requestOf_eq_ok hrequest
  have hwaits (after : LifecycleState) (h : after.weatherDecision = some .terminal) :
      nextNode after .deduplicateWeatherEvent = .ok .awaitUserAction := by
    rw [nextNode, h]
    rfl
  obtain ⟨_, -, h⟩ := bind_eq_ok h
  obtain ⟨snapshot, -, h⟩ := bind_eq_ok h
  dsimp only at h
  split at h
  · cases h
    exact nodeEffect_persistWeatherTerminal hwaits haction ..
  · split at h
    · cases h
      exact nodeEffect_persistWeatherTerminal hwaits haction ..
    · split at h
      · cases h
        exact nodeEffect_persistWeatherTerminal hwaits haction ..
      · cases h
        exact .goto _ rfl nofun

theorem nodeEffect_analyzeWeatherChangeImpact
    (h : analyzeWeatherChangeImpact config state session = .ok outcome) :
    NodeEffect config state session .analyzeWeatherImpact outcome := by
  unfold analyzeWeatherChangeImpact at h
  obtain ⟨request, hrequest, h⟩ := bind_eq_ok h
  have haction := requestOf_eq_ok hrequest
  have hwaits (after : LifecycleState) (h : after.weatherDecision = some .terminal) :
      nextNode after .analyzeWeatherImpact = .ok .awaitUserAction := by
    rw [nextNode, h]
    rfl
  obtain ⟨_, -, h⟩ := bind_eq_ok h
  obtain ⟨_, -, h⟩ := bind_eq_ok h
  obtain ⟨_, -, h⟩ := bind_eq_ok h
  dsimp only at h
  split at h
  · cases h
    exact nodeEffect_persistWeatherTerminal hwaits haction ..
  · split at h
    · cases h
      exact nodeEffect_persistWeatherTerminal hwaits haction ..
    · cases h
      exact .goto _ rfl nofun

theorem nodeEffect_buildWeatherRepair
    (h : buildWeatherRepair config services state session = .ok outcome) :
    NodeEffect config state session .buildWeatherRepairPlan outcome := by
  unfold buildWeatherRepair at h
  obtain ⟨request, hrequest, h⟩ := bind_eq_ok h
  have haction := requestOf_eq_ok hrequest
  have hwaits (after : LifecycleState) (h : after.weatherDecision = some .terminal) :
      nextNode after .buildWeatherRepairPlan = .ok .awaitUserAction := by
    rw [nextNode, h]
    rfl
  obtain ⟨_, -, h⟩ := bind_eq_ok h
  obtain ⟨_, -, h⟩ := bind_eq_ok h
  obtain ⟨_, -, h⟩ := bind_eq_ok h
  obtain ⟨_, -, h⟩ := bind_eq_ok h
  obtain ⟨_, -, h⟩ := bind_eq_ok h
  obtain ⟨_, -, h⟩ := bind_eq_ok h
  dsimp only at h
  obtain ⟨_, -, h⟩ := bind_eq_ok h
  split at h
  · cases h
    exact nodeEffect_persistWeatherTerminal hwaits haction ..
  · obtain ⟨_, -, h⟩ := bind_eq_ok h
    cases h
    exact .goto _ rfl nofun

theorem nodeEffect_dismissWeatherEvent (h : dismissWeatherEvent state session = .ok outcome) :
    NodeEffect config state session .dismissWeatherEvent outcome := by
  unfold dismissWeatherEvent at h
  obtain ⟨request, hrequest, h⟩ := bind_eq_ok h
  obtain ⟨eventId, -, h⟩ := bind_eq_ok h
  obtain ⟨_, -, h⟩ := bind_eq_ok h
  dsimp only at h
  obtain ⟨event, -, h⟩ := bind_eq_ok h
  obtain ⟨receipt, -, h⟩ := bind_eq_ok h
  obtain ⟨_, -, h⟩ := bind_eq_ok h
  cases h
  have hsame := samePlan_updateEventReceipt session eventId fun receipt =>
    { receipt with status := .dismissed }
  refine .saved request _ _ _ (requestOf_eq_ok hrequest)
    (.settled .active (some event.eventId) (.inl rfl)) ?_ rfl
  refine (hsame.withMonitor
    { (updateEventReceipt session eventId fun receipt =>
        { receipt with status := .dismissed }).weatherMonitor with
      attentionEventId := none }).withReceipt .active request none none (some event.eventId)

omit [Platform] in
/-- Every action is dispatched to a node that acts. -/
theorem nextNode_dispatchAction_ne (after : LifecycleState) :
    nextNode after .dispatchAction ≠ .ok .awaitUserAction := by
  intro h
  obtain ⟨request, -, h⟩ := bind_eq_ok h
  revert h
  cases request.action <;> exact nofun

/-- Every node goes on with its request, notes a weather failure, or takes one of the steps. -/
theorem nodeEffect_execNode {node : LifecycleNode}
    (h : execNode config services state session node = .ok outcome) :
    NodeEffect config state session node outcome := by
  cases node with
  | awaitUserAction => cases h; exact .goto _ rfl nofun
  | dispatchAction => cases h; exact .goto _ rfl (nextNode_dispatchAction_ne _)
  | selectCandidate => exact nodeEffect_selectCandidate h
  | changeLock => exact nodeEffect_changeLock h
  | parseEdit => exact nodeEffect_parseEdit h
  | applyEditClarification => exact nodeEffect_applyEditClarification h
  | analyzeChangeImpact => exact nodeEffect_analyzeImpact h
  | buildLocalPreview => exact nodeEffect_buildPreview h
  | resolveApproval => exact nodeEffect_resolveApproval h
  | resolveWeatherLocation => exact nodeEffect_resolveWeatherLocation h
  | fetchWeatherSnapshot => exact nodeEffect_fetchWeatherSnapshot h
  | classifyWeatherRisks => exact nodeEffect_classifyWeatherRisks h
  | deriveWeatherEvent => exact nodeEffect_deriveWeatherChange h
  | deduplicateWeatherEvent => exact nodeEffect_deduplicateWeatherEvent h
  | analyzeWeatherImpact => exact nodeEffect_analyzeWeatherChangeImpact h
  | buildWeatherRepairPlan => exact nodeEffect_buildWeatherRepair h
  | dismissWeatherEvent => exact nodeEffect_dismissWeatherEvent h

end Effects

/-! ## Revisions and receipts -/

section Steps

variable {config : LifecycleConfig} {session record : PlanSessionRecord}
  {request : LifecycleResumeRequest}

theorem RecordStep.sessionRevision (h : RecordStep config session request record) :
    record.sessionRevision = session.sessionRevision + 1 := by
  cases h <;> rfl

/-- Every step leaves the receipt of its request, and no other. -/
theorem RecordStep.receipts (h : RecordStep config session request record) :
    ∃ receipt : ActionReceipt, receipt.requestId = request.requestId ∧
      receipt.resultingRevision = record.sessionRevision ∧
      record.receipts = session.receipts.set request.requestId receipt := by
  cases h <;> exact ⟨_, rfl, rfl, rfl⟩

theorem RecordStep.snapshot (h : RecordStep config session request record) :
    record.snapshot = session.snapshot := by
  cases h <;> rfl

end Steps

/-! ## Runs -/

/-- A request leaves the record, clarifies the requirements, or takes one of the steps, up to
the weather. -/
inductive PlanStep (config : LifecycleConfig) (session : PlanSessionRecord) :
    PlanSessionRecord → Prop where
  | unchanged : PlanStep config session session
  | clarified (request : LifecycleResumeRequest) (outcome : RequirementOutcome)
      (record : PlanSessionRecord) (status : session.status = .needsRequirementClarification)
      (clarifies : clarifiedRecord session request outcome = .ok record) :
      PlanStep config session record
  | weather (record : PlanSessionRecord) (same : SamePlan { session with
      sessionRevision := session.sessionRevision + 1 } record) : PlanStep config session record
  | changed (request : LifecycleResumeRequest) (plan record : PlanSessionRecord)
      (step : RecordStep config session request plan) (same : SamePlan plan record) :
      PlanStep config session record

theorem planStep_execNode {config : LifecycleConfig} {services : LifecycleServices}
    {state : LifecycleState} {session : PlanSessionRecord} {node : LifecycleNode}
    {outcome : NodeOutcome} (h : execNode config services state session node = .ok outcome) :
    PlanStep config session (outcome.recordAfter session) := by
  cases nodeEffect_execNode h with
  | goto after same goesOn => exact .unchanged
  | weatherFailed services code failure =>
    exact .weather _ ⟨rfl, rfl, rfl, rfl, rfl, rfl, rfl, rfl, rfl, rfl, rfl, rfl⟩
  | saved request plan record after action step same waits =>
    exact .changed request plan _ step same

/-- What every step keeps, a request keeps. -/
theorem resume_of_planStep {config : LifecycleConfig} {motive : PlanSessionRecord → Prop}
    (step : ∀ session record, motive session → PlanStep config session record → motive record)
    (requirements : String → Result RequirementOutcome) (services : ℕ → LifecycleServices)
    (interruptId : String) {session : PlanSession} (request : LifecycleResumeRequest)
    (h : motive session.record) :
    motive (resume config requirements services interruptId session request).2.record :=
  resume_preserves
    (fun _ request outcome _ hmotive hstatus hclarified =>
      step _ _ hmotive (.clarified request outcome _ hstatus hclarified))
    (fun _ _ _ _ _ hmotive hexec => step _ _ hmotive (planStep_execNode hexec))
    requirements services interruptId request h

/-- What holds of a created record and is kept by every step holds of every reachable session. -/
theorem reachable_of_planStep {config : LifecycleConfig} {motive : PlanSessionRecord → Prop}
    (created : ∀ sessionId status snapshot externalInterrupt,
      status = .awaitingCandidateSelection ∨ status = .needsRequirementClarification →
      motive (.created sessionId status snapshot externalInterrupt))
    (step : ∀ session record, motive session → PlanStep config session record → motive record)
    {session : PlanSession} (h : Reachable config session) : motive session.record :=
  reachable_preserves created
    (fun _ request outcome _ hmotive hstatus hclarified =>
      step _ _ hmotive (.clarified request outcome _ hstatus hclarified))
    (fun _ _ _ _ _ hmotive hexec => step _ _ hmotive (planStep_execNode hexec)) h

end TravelPlanAgent
