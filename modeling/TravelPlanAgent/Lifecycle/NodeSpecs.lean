import TravelPlanAgent.Lifecycle.Workflow

/-!
# What each node returns

One lemma for each node that goes on to another one, with what it read and what it found.  Facts
about a refresh or an edit from its first node to its last are proved from these.

* `parseEdit_eq_ok`, `applyEditClarification_eq_ok`: the nodes before the impact of an edit.
* `AnalyzedImpact`, `analyzeImpact_eq_ok`: a question, a plan that is too different, or a preview.
* `PreviewBuilt`, `buildPreview_eq_ok`, `storePreview_eq_ok`: what a preview leaves in the record.
* `resolveWeatherLocation_eq_ok`, …, `buildWeatherRepair_eq_ok`: the nodes of a refresh, in order.
-/

namespace TravelPlanAgent

variable [Platform]

section Specs

variable {config : LifecycleConfig} {services : LifecycleServices} {state : LifecycleState}
  {session : PlanSessionRecord} {outcome : NodeOutcome}

/-! ## Edits -/

omit [Platform] in
theorem parseEdit_eq_ok (h : parseEdit services state session = .ok outcome) :
    ∃ patch, outcome = .goto { state with editPatch := some patch } := by
  unfold parseEdit at h
  obtain ⟨_, -, h⟩ := bind_eq_ok h
  obtain ⟨_, -, h⟩ := bind_eq_ok h
  obtain ⟨_, -, h⟩ := bind_eq_ok h
  obtain ⟨_, -, h⟩ := bind_eq_ok h
  obtain ⟨patch, -, h⟩ := bind_eq_ok h
  cases h
  exact ⟨patch, rfl⟩

omit [Platform] in
theorem applyEditClarification_eq_ok (h : applyEditClarification state session = .ok outcome) :
    ∃ operations, outcome = .goto
      { state with editPatch := some ⟨operations⟩, status := .buildingPreview } := by
  unfold applyEditClarification at h
  obtain ⟨_, -, h⟩ := bind_eq_ok h
  obtain ⟨_, -, h⟩ := bind_eq_ok h
  obtain ⟨_, -, h⟩ := bind_eq_ok h
  obtain ⟨_, -, h⟩ := bind_eq_ok h
  obtain ⟨_, -, h⟩ := bind_eq_ok h
  obtain ⟨_, -, h⟩ := bind_eq_ok h
  obtain ⟨_, -, h⟩ := bind_eq_ok h
  obtain ⟨operations, -, h⟩ := bind_eq_ok h
  cases h
  exact ⟨operations, rfl⟩

/-- What `analyze_impact` makes of an edit of the active version. -/
inductive AnalyzedImpact (config : LifecycleConfig) (state : LifecycleState)
    (session : PlanSessionRecord) (request : LifecycleResumeRequest) (version : PlanVersion)
    (ungrounded : EditPatch) : NodeOutcome → Prop where
  /-- The item of an operation is not clear. -/
  | asked (code message : String)
      (unclear : groundEditPatch version.candidate ungrounded =
        .error (.lifecycleAction code message))
      (round : state.clarificationRound < 2) :
      AnalyzedImpact config state session request version ungrounded
        (.saved (withReceipt { session with status := .needsEditClarification } request
            none none none)
          { state with
            status := .needsEditClarification, clarificationRound := state.clarificationRound + 1
            message := some message })
  /-- The edit reaches too far. -/
  | tooFar (patch : EditPatch) (grounded : groundEditPatch version.candidate ungrounded = .ok patch)
      (scope : (analyzeChangeImpact version.candidate patch (lockList session)
        config.maxAffectedDays).scope = .requiresNewPlan) (after : LifecycleState)
      (status : after.status = .requiresNewPlan) :
      AnalyzedImpact config state session request version ungrounded
        (.saved (withReceipt { session with status := .requiresNewPlan } request none none none)
          after)
  /-- The edit can be previewed. -/
  | local_ (patch : EditPatch) (impact : ImpactResult)
      (grounded : groundEditPatch version.candidate ungrounded = .ok patch)
      (scope : (analyzeChangeImpact version.candidate patch (lockList session)
        config.maxAffectedDays).scope ≠ .requiresNewPlan) :
      AnalyzedImpact config state session request version ungrounded
        (.goto
          { state with
            editPatch := some patch, impactResult := some impact, status := .buildingPreview })

theorem analyzeImpact_eq_ok (h : analyzeImpact config state session = .ok outcome) :
    ∃ request version ungrounded, state.action = some request ∧
      activeVersion session = .ok version ∧ state.editPatch = some ungrounded ∧
      AnalyzedImpact config state session request version ungrounded outcome := by
  unfold analyzeImpact at h
  obtain ⟨request, hrequest, h⟩ := bind_eq_ok h
  obtain ⟨version, hactive, h⟩ := bind_eq_ok h
  obtain ⟨ungrounded, hpatch, h⟩ := bind_eq_ok h
  refine ⟨request, version, ungrounded, orRaise_eq_ok hrequest, hactive, orRaise_eq_ok hpatch, ?_⟩
  split at h
  · next code message hground =>
    split at h
    · unfold askForClarification at h
      obtain ⟨_, hround, h⟩ := bind_eq_ok h
      cases h
      exact .asked code message hground (require_eq_ok hround)
    · cases h
  · cases h
  · next patch hground =>
    obtain ⟨_, -, h⟩ := bind_eq_ok h
    split at h
    · next hscope =>
      cases h
      exact .tooFar patch hground hscope _ rfl
    · next hscope =>
      cases h
      exact .local_ patch _ hground hscope

/-! ## Previews -/

/-- The record that holds a preview, before the receipt of its event names it. -/
def storedPreview (config : LifecycleConfig) (state : LifecycleState)
    (session : PlanSessionRecord) (request : LifecycleResumeRequest) (preview : PlanPreview)
    (valid : Bool) : PlanSessionRecord :=
  withReceipt
    { observePreviewWeather config state session valid with
      previews := (observePreviewWeather config state session valid).previews.set
        preview.previewId preview
      pendingPreviewId := some preview.previewId
      status := if valid then .awaitingChangeApproval else .changeRejected }
    request none (some preview.previewId) (state.weatherEvent.map ChangeEvent.eventId)

omit [Platform] in
theorem storePreview_eq_ok {request : LifecycleResumeRequest} {preview : PlanPreview}
    {valid : Bool} {record : PlanSessionRecord}
    (h : storePreview config state session request preview valid = .ok record) :
    (state.weatherEvent = none ∧
      record = storedPreview config state session request preview valid) ∨
    ∃ event, state.weatherEvent = some event ∧
      (storedPreview config state session request preview
        valid).weatherMonitor.eventReceipts.contains event.eventId = true ∧
      record = updateEventReceipt (storedPreview config state session request preview valid)
        event.eventId fun receipt =>
          { receipt with resultingPreviewId := some preview.previewId } := by
  cases hevent : state.weatherEvent with
  | none =>
    simp only [storePreview, hevent, Option.map_none] at h
    cases h
    refine .inl ⟨rfl, ?_⟩
    rw [storedPreview, hevent]
    rfl
  | some event =>
    simp only [storePreview, hevent, Option.map_some] at h
    obtain ⟨_, hcontains, h⟩ := bind_eq_ok h
    cases h
    exact .inr ⟨event, rfl, require_eq_ok hcontains, by rw [storedPreview, hevent]; rfl⟩

/-- What `build_preview` stores: the preview of an edited plan, valid or not. -/
structure PreviewBuilt (config : LifecycleConfig) (services : LifecycleServices)
    (state : LifecycleState) (session : PlanSessionRecord) (request : LifecycleResumeRequest)
    (snapshot : PlanningSnapshot) (version : PlanVersion) (patch : EditPatch) (plan : EditedPlan)
    (preview : PlanPreview) (record : PlanSessionRecord) : Prop where
  action : state.action = some request
  planned : session.snapshot = some snapshot
  active : activeVersion session = .ok version
  edits : state.editPatch = some patch
  edited : editedPlan config services session.sessionId request.requestId snapshot.trip version
    (state.weatherAlternatives.getD []) (lockList session) patch = .ok plan
  trigger : previewEventId preview = state.weatherEvent.map ChangeEvent.eventId
  stored : storePreview config state session request preview
    (previewValid (validateCandidate snapshot.trip plan.candidate plan.planningPois)) = .ok record

theorem buildPreview_eq_ok (h : buildPreview config services state session = .ok outcome) :
    ∃ request snapshot version patch plan preview record after,
      PreviewBuilt config services state session request snapshot version patch plan preview
        record ∧ outcome = .saved record after := by
  unfold buildPreview at h
  obtain ⟨request, hrequest, h⟩ := bind_eq_ok h
  obtain ⟨_, -, h⟩ := bind_eq_ok h
  obtain ⟨snapshot, hsnapshot, h⟩ := bind_eq_ok h
  obtain ⟨version, hactive, h⟩ := bind_eq_ok h
  obtain ⟨patch, hpatch, h⟩ := bind_eq_ok h
  obtain ⟨plan, hplan, h⟩ := bind_eq_ok h
  obtain ⟨_, -, h⟩ := bind_eq_ok h
  obtain ⟨critique, -, h⟩ := bind_eq_ok h
  obtain ⟨diff, -, h⟩ := bind_eq_ok h
  obtain ⟨record, hrecord, h⟩ := bind_eq_ok h
  cases h
  exact ⟨request, snapshot, version, patch, plan, _, record, _,
    ⟨orRaise_eq_ok hrequest, orRaise_eq_ok hsnapshot, hactive, orRaise_eq_ok hpatch, hplan, rfl,
      hrecord⟩, rfl⟩

/-! ## Refreshes -/

omit [Platform] in
theorem resolveWeatherLocation_eq_ok
    (h : resolveWeatherLocation config services state session = .ok outcome) :
    (∃ location, outcome = .goto
      { state with weatherLocation := some location, weatherDecision := none }) ∨
    ∃ code failure, outcome = persistWeatherFailure services session code failure := by
  unfold resolveWeatherLocation at h
  obtain ⟨_, -, h⟩ := bind_eq_ok h
  obtain ⟨_, -, h⟩ := bind_eq_ok h
  obtain ⟨_, -, h⟩ := bind_eq_ok h
  obtain ⟨_, -, h⟩ := bind_eq_ok h
  obtain ⟨_, -, h⟩ := bind_eq_ok h
  obtain ⟨_, -, h⟩ := bind_eq_ok h
  dsimp only at h
  split at h
  · next location _ =>
    cases h
    exact .inl ⟨location, rfl⟩
  · obtain ⟨located, -, h⟩ := bind_eq_ok h
    split at h
    · next location _ _ =>
      cases h
      exact .inl ⟨location, rfl⟩
    · cases h
      exact .inr ⟨_, _, rfl⟩

/-- A snapshot is what the provider forecasts for the days of the trip. -/
def Fetched (services : LifecycleServices) (session : PlanSessionRecord)
    (snapshot : WeatherSnapshot) : Prop :=
  ∃ planning location forecast fetchedAt expiresAt, session.snapshot = some planning ∧
    services.getForecast location planning.trip.startDate planning.trip.endDate =
      .ok (.success forecast fetchedAt expiresAt) ∧
    snapshot = buildWeatherSnapshot forecast (fetchedAt.getD services.now)
      (expiresAt.getD (fetchedAt.getD services.now))

theorem fetchWeatherSnapshot_eq_ok
    (h : fetchWeatherSnapshot config services state session = .ok outcome) :
    (∃ snapshot, Fetched services session snapshot ∧
      outcome = .goto { state with weatherSnapshot := some snapshot }) ∨
    ∃ code failure, outcome = persistWeatherFailure services session code failure := by
  unfold fetchWeatherSnapshot at h
  obtain ⟨_, -, h⟩ := bind_eq_ok h
  obtain ⟨_, -, h⟩ := bind_eq_ok h
  obtain ⟨_, -, h⟩ := bind_eq_ok h
  obtain ⟨planning, hplanning, h⟩ := bind_eq_ok h
  obtain ⟨location, -, h⟩ := bind_eq_ok h
  obtain ⟨result, hresult, h⟩ := bind_eq_ok h
  split at h
  · cases h
    exact .inr ⟨_, _, rfl⟩
  · next forecast fetchedAt expiresAt =>
    cases h
    exact .inl ⟨_, ⟨planning, location, forecast, fetchedAt, expiresAt, orRaise_eq_ok hplanning,
      hresult, rfl⟩, rfl⟩

theorem classifyWeatherRisks_eq_ok (h : classifyWeatherRisks state = .ok outcome) :
    ∃ snapshot, state.weatherSnapshot = some snapshot ∧
      outcome = .goto { state with weatherRisks := some (classifyForecast snapshot.days) } := by
  unfold classifyWeatherRisks at h
  obtain ⟨snapshot, hsnapshot, h⟩ := bind_eq_ok h
  cases h
  exact ⟨snapshot, orRaise_eq_ok hsnapshot, rfl⟩

/-- The event that a refresh derives from what the session stored last. -/
def derivedEvent (services : LifecycleServices) (session : PlanSessionRecord)
    (version : PlanVersion) (snapshot : WeatherSnapshot) (risks : List DailyWeatherRisk) :
    Option ChangeEvent :=
  let previous := session.weatherMonitor.latestSnapshotId.bind session.weatherSnapshots.get?
  deriveChangeEvent session.sessionId version.versionId snapshot risks previous
    ((previous.bind fun p => session.weatherRisks.get? p.snapshotId).getD [])
    (version.candidate.days.map DayPlan.date) services.now

theorem deriveWeatherChange_eq_ok
    (h : deriveWeatherChange services state session = .ok outcome) :
    ∃ version snapshot, activeVersion session = .ok version ∧
      state.weatherSnapshot = some snapshot ∧
      outcome = .goto
        { state with
          weatherEvent := derivedEvent services session version snapshot
            (state.weatherRisks.getD []) } := by
  unfold deriveWeatherChange at h
  obtain ⟨_, -, h⟩ := bind_eq_ok h
  obtain ⟨version, hactive, h⟩ := bind_eq_ok h
  obtain ⟨snapshot, hsnapshot, h⟩ := bind_eq_ok h
  cases h
  exact ⟨version, snapshot, hactive, orRaise_eq_ok hsnapshot, rfl⟩

/-- What a refresh makes of its event before it looks at the plan. -/
inductive Deduplicated (config : LifecycleConfig) (state : LifecycleState)
    (session : PlanSessionRecord) (request : LifecycleResumeRequest)
    (snapshot : WeatherSnapshot) : NodeOutcome → Prop where
  | unchanged (message : String) (none_ : state.weatherEvent = none) :
      Deduplicated config state session request snapshot
        (persistWeatherTerminal config state session request snapshot (state.weatherRisks.getD [])
          .noChange none none message)
  | duplicate (event existing : ChangeEvent) (message : String)
      (some_ : state.weatherEvent = some event)
      (known : findEventByFingerprint session event.eventFingerprint = some existing) :
      Deduplicated config state session request snapshot
        (persistWeatherTerminal config state session request snapshot (state.weatherRisks.getD [])
          .duplicate (some existing) none message)
  | recovered (event : ChangeEvent) (message : String) (some_ : state.weatherEvent = some event)
      (new : findEventByFingerprint session event.eventFingerprint = none)
      (kind : event.kind = .weatherRecovered) :
      Deduplicated config state session request snapshot
        (persistWeatherTerminal config state session request snapshot (state.weatherRisks.getD [])
          .recovered (some event) (some .noPlanImpact) message)
  | analyze (event : ChangeEvent) (some_ : state.weatherEvent = some event)
      (new : findEventByFingerprint session event.eventFingerprint = none) :
      Deduplicated config state session request snapshot
        (.goto { state with weatherDecision := some .analyze })

omit [Platform] in
theorem deduplicateWeatherEvent_eq_ok
    (h : deduplicateWeatherEvent config state session = .ok outcome) :
    ∃ request snapshot, state.action = some request ∧ state.weatherSnapshot = some snapshot ∧
      Deduplicated config state session request snapshot outcome := by
  unfold deduplicateWeatherEvent at h
  obtain ⟨request, hrequest, h⟩ := bind_eq_ok h
  obtain ⟨_, -, h⟩ := bind_eq_ok h
  obtain ⟨snapshot, hsnapshot, h⟩ := bind_eq_ok h
  refine ⟨request, snapshot, orRaise_eq_ok hrequest, orRaise_eq_ok hsnapshot, ?_⟩
  dsimp only at h
  split at h
  · next hnone =>
    cases h
    exact .unchanged _ hnone
  · next event hsome =>
    split at h
    · next existing hknown =>
      cases h
      exact .duplicate event existing _ hsome hknown
    · next hnew =>
      split at h
      · next hkind =>
        cases h
        exact .recovered event _ hsome hnew hkind
      · cases h
        exact .analyze event hsome hnew

/-- The impact that a refresh computes on the active version. -/
def eventImpact (config : LifecycleConfig) (state : LifecycleState) (session : PlanSessionRecord)
    (version : PlanVersion) (event : ChangeEvent) : WeatherImpactResult :=
  analyzeWeatherImpact event version.candidate version.planningPois (state.weatherRisks.getD [])
    (lockList session) config.maxAffectedDays

/-- What a refresh makes of the impact of its event. -/
inductive Analyzed (config : LifecycleConfig) (state : LifecycleState)
    (session : PlanSessionRecord) (request : LifecycleResumeRequest)
    (snapshot : WeatherSnapshot) (event : ChangeEvent) (impact : WeatherImpactResult) :
    NodeOutcome → Prop where
  | unaffected (message : String) (noItem : impact.affectedItemIds.isEmpty = true)
      (noAttention : impact.requiresUserAttention = false) :
      Analyzed config state session request snapshot event impact
        (persistWeatherTerminal config state session request snapshot (state.weatherRisks.getD [])
          .noPlanImpact (some event) (some .noPlanImpact) message)
  | attention (message : String) (needs : impact.requiresUserAttention = true) :
      Analyzed config state session request snapshot event impact
        (persistWeatherTerminal config state session request snapshot (state.weatherRisks.getD [])
          .needsUserAttention (some event) (some .needsUserAttention) message)
  | repair :
      Analyzed config state session request snapshot event impact
        (.goto { state with weatherImpact := some impact, weatherDecision := some .repair })

theorem analyzeWeatherChangeImpact_eq_ok
    (h : analyzeWeatherChangeImpact config state session = .ok outcome) :
    ∃ request version snapshot event, state.action = some request ∧
      activeVersion session = .ok version ∧ state.weatherSnapshot = some snapshot ∧
      state.weatherEvent = some event ∧
      Analyzed config state session request snapshot event
        (eventImpact config state session version event) outcome := by
  unfold analyzeWeatherChangeImpact at h
  obtain ⟨request, hrequest, h⟩ := bind_eq_ok h
  obtain ⟨version, hactive, h⟩ := bind_eq_ok h
  obtain ⟨snapshot, hsnapshot, h⟩ := bind_eq_ok h
  obtain ⟨event, hevent, h⟩ := bind_eq_ok h
  refine ⟨request, version, snapshot, event, orRaise_eq_ok hrequest, hactive,
    orRaise_eq_ok hsnapshot, orRaise_eq_ok hevent, ?_⟩
  dsimp only at h
  split at h
  · next hnothing =>
    cases h
    exact .unaffected _ hnothing.1 hnothing.2
  · split at h
    · next hneeds =>
      cases h
      exact .attention _ hneeds
    · cases h
      exact .repair

/-- What a refresh makes of the impact when it looks for a repair. -/
inductive RepairBuilt (config : LifecycleConfig) (state : LifecycleState)
    (session : PlanSessionRecord) (request : LifecycleResumeRequest)
    (snapshot : WeatherSnapshot) (event : ChangeEvent) : NodeOutcome → Prop where
  | attention (message : String) :
      RepairBuilt config state session request snapshot event
        (persistWeatherTerminal config state session request snapshot (state.weatherRisks.getD [])
          .needsUserAttention (some event) (some .needsUserAttention) message)
  | planned (planning : PlanningSnapshot) (version : PlanVersion) (impact : WeatherImpactResult)
      (alternatives : List PlanningPOI) (repair : WeatherRepairPlan)
      (active : activeVersion session = .ok version)
      (impacted : state.weatherImpact = some impact)
      (built : buildWeatherRepairPlan event.eventId version.versionId planning.trip
        version.candidate impact (state.weatherRisks.getD []) alternatives (lockList session) =
          some repair) :
      RepairBuilt config state session request snapshot event
        (.goto
          { state with
            weatherRepairPlan := some repair, weatherAlternatives := some alternatives
            editPatch := some (repairPlanToEditPatch repair)
            weatherDecision := some .localReplan })

theorem buildWeatherRepair_eq_ok
    (h : buildWeatherRepair config services state session = .ok outcome) :
    ∃ request snapshot event, state.action = some request ∧
      state.weatherSnapshot = some snapshot ∧ state.weatherEvent = some event ∧
      RepairBuilt config state session request snapshot event outcome := by
  unfold buildWeatherRepair at h
  obtain ⟨request, hrequest, h⟩ := bind_eq_ok h
  obtain ⟨_, -, h⟩ := bind_eq_ok h
  obtain ⟨planning, -, h⟩ := bind_eq_ok h
  obtain ⟨version, hactive, h⟩ := bind_eq_ok h
  obtain ⟨snapshot, hsnapshot, h⟩ := bind_eq_ok h
  obtain ⟨event, hevent, h⟩ := bind_eq_ok h
  obtain ⟨impact, himpact, h⟩ := bind_eq_ok h
  refine ⟨request, snapshot, event, orRaise_eq_ok hrequest, orRaise_eq_ok hsnapshot,
    orRaise_eq_ok hevent, ?_⟩
  dsimp only at h
  obtain ⟨alternatives, -, h⟩ := bind_eq_ok h
  split at h
  · cases h
    exact .attention _
  · next repair hbuilt =>
    obtain ⟨_, -, h⟩ := bind_eq_ok h
    cases h
    exact .planned planning version impact alternatives repair hactive (orRaise_eq_ok himpact)
      hbuilt

end Specs

end TravelPlanAgent
