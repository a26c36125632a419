import TravelPlanAgent.Lifecycle.AllowedActions
import TravelPlanAgent.Lifecycle.NodeSpecs
import TravelPlanAgent.Weather.Attention

/-!
# The attention pointer over runs

A dismissal empties the pointer, whichever event it names, and so does a refresh that settles its
event.  The pointer stays right as long as no other kept event is open when that happens, and as
long as an event that is reported is also kept.

* `PendingObserved`, `AttentionInvariant`: what holds between two requests.
* `Settles`, `CarefulNode`: a refresh that settles its event, and the condition on a node.
* `attentionInvariant_execNode`: a node that meets the condition keeps the invariant.
* `CarefulReachable`, `attention_of_careful`: every run whose nodes meet it.
-/

namespace TravelPlanAgent

variable [Platform]

/-! ## The invariant -/

/-- While a preview waits for approval, the event that led to it has the receipt that says so. -/
def PendingObserved (session : PlanSessionRecord) : Prop :=
  session.status = .awaitingChangeApproval → ∀ preview, pendingPreview session = .ok preview →
    ∀ eventId ∈ previewEventId preview, ∃ receipt,
      session.weatherMonitor.eventReceipts.get? eventId = some receipt ∧
        receipt.status = .previewCreated

structure AttentionInvariant (config : LifecycleConfig) (session : PlanSessionRecord) : Prop where
  kept : EventsKept config.weatherMaxEvents session
  consistent : AttentionConsistent session
  pending : PendingObserved session

/-- An event is derived from a snapshot. -/
def WeatherSeen (state : LifecycleState) : Prop :=
  state.weatherEvent.isSome = true → state.weatherSnapshot.isSome = true

/-! ## The condition -/

/-- A refresh settles its event at a node: the risk is gone, the plan is not affected, or a
valid preview answers it. -/
inductive Settles (config : LifecycleConfig) (services : LifecycleServices)
    (session : PlanSessionRecord) (state : LifecycleState) (event : ChangeEvent) :
    LifecycleNode → Prop where
  | recovered (kind : event.kind = .weatherRecovered)
      (new : findEventByFingerprint session event.eventFingerprint = none) :
      Settles config services session state event .deduplicateWeatherEvent
  | unaffected (version : PlanVersion) (active : activeVersion session = .ok version)
      (noItem : (eventImpact config state session version event).affectedItemIds.isEmpty = true)
      (noAttention :
        (eventImpact config state session version event).requiresUserAttention = false) :
      Settles config services session state event .analyzeWeatherImpact
  | previewed (request : LifecycleResumeRequest) (snapshot : PlanningSnapshot)
      (version : PlanVersion) (patch : EditPatch) (plan : EditedPlan)
      (action : state.action = some request) (planned : session.snapshot = some snapshot)
      (active : activeVersion session = .ok version) (edits : state.editPatch = some patch)
      (edited : editedPlan config services session.sessionId request.requestId snapshot.trip
        version (state.weatherAlternatives.getD []) (lockList session) patch = .ok plan)
      (valid : previewValid
        (validateCandidate snapshot.trip plan.candidate plan.planningPois) = true) :
      Settles config services session state event .buildLocalPreview

/-- The pointer is emptied only when no other event is open, and what is reported is kept. -/
structure CarefulNode (config : LifecycleConfig) (services : LifecycleServices)
    (session : PlanSessionRecord) (state : LifecycleState) (node : LifecycleNode) : Prop where
  settles : ∀ event ∈ state.weatherEvent, Settles config services session state event node →
    OthersSettled session event.eventId
  retained : node = .analyzeWeatherImpact ∨ node = .buildWeatherRepairPlan ∨
      node = .buildLocalPreview →
    ∀ event ∈ state.weatherEvent, Retained config.weatherMaxEvents session event
  dismissal : node = .dismissWeatherEvent → ∀ request ∈ state.action,
    ∀ eventId, request.action = .dismissWeatherEvent eventId → OthersSettled session eventId

/-- The sessions that runs of such nodes lead to. -/
inductive CarefulReachable (config : LifecycleConfig) : PlanSession → Prop where
  | created {session : PlanSession} : Created session → CarefulReachable config session
  | resumed {session : PlanSession} (requirements : String → Result RequirementOutcome)
      (services : ℕ → LifecycleServices) (interruptId : String)
      (request : LifecycleResumeRequest)
      (careful : EveryNodeOf config (CarefulNode config) services session request) :
      CarefulReachable config session →
      CarefulReachable config
        (resume config requirements services interruptId session request).2

/-! ## What the nodes write -/

section Nodes

variable {config : LifecycleConfig} {services : LifecycleServices} {state : LifecycleState}
  {session record : PlanSessionRecord} {outcome : NodeOutcome}

omit [Platform] in
/-- A record that waits for no approval and agrees on the events is as good as the last. -/
theorem AttentionInvariant.settled (h : AttentionInvariant config session)
    (same : SameAttention session record) (hstatus : record.status ≠ .awaitingChangeApproval) :
    AttentionInvariant config record :=
  ⟨same.kept h.kept, same.consistent h.consistent, fun hawaiting => absurd hawaiting hstatus⟩

omit [Platform] in
/-- The same, from the two parts that a record inherits. -/
theorem attentionInvariant_of_eq (hkept : EventsKept config.weatherMaxEvents session)
    (hconsistent : AttentionConsistent session)
    (hevents : record.weatherEvents = session.weatherEvents)
    (hmonitor : record.weatherMonitor = session.weatherMonitor)
    (hpending : PendingObserved record) : AttentionInvariant config record :=
  have same := SameAttention.of_eq hevents hmonitor
  ⟨same.kept hkept, same.consistent hconsistent, hpending⟩

theorem attentionInvariant_selectCandidate (h : AttentionInvariant config session)
    (hexec : selectCandidate state session = .ok outcome) :
    AttentionInvariant config (outcome.recordAfter session) := by
  unfold selectCandidate at hexec
  obtain ⟨_, -, hexec⟩ := bind_eq_ok hexec
  obtain ⟨_, -, hexec⟩ := bind_eq_ok hexec
  obtain ⟨_, -, hexec⟩ := bind_eq_ok hexec
  obtain ⟨_, -, hexec⟩ := bind_eq_ok hexec
  obtain ⟨_, -, hexec⟩ := bind_eq_ok hexec
  obtain ⟨_, -, hexec⟩ := bind_eq_ok hexec
  obtain ⟨_, -, hexec⟩ := bind_eq_ok hexec
  obtain ⟨_, -, hexec⟩ := bind_eq_ok hexec
  cases hexec
  exact h.settled (.of_eq rfl rfl) nofun

theorem attentionInvariant_changeLock (h : AttentionInvariant config session)
    (hexec : changeLock state session = .ok outcome) :
    AttentionInvariant config (outcome.recordAfter session) := by
  unfold changeLock at hexec
  obtain ⟨_, -, hexec⟩ := bind_eq_ok hexec
  obtain ⟨_, -, hexec⟩ := bind_eq_ok hexec
  obtain ⟨_, -, hexec⟩ := bind_eq_ok hexec
  obtain ⟨_, -, hexec⟩ := bind_eq_ok hexec
  obtain ⟨_, -, hexec⟩ := bind_eq_ok hexec
  cases hexec
  exact h.settled (.of_eq rfl rfl) nofun

theorem attentionInvariant_analyzeImpact (h : AttentionInvariant config session)
    (hexec : analyzeImpact config state session = .ok outcome) :
    AttentionInvariant config (outcome.recordAfter session) := by
  obtain ⟨request, version, ungrounded, -, -, -, himpact⟩ := analyzeImpact_eq_ok hexec
  cases himpact with
  | asked => exact h.settled (.of_eq rfl rfl) nofun
  | tooFar => exact h.settled (.of_eq rfl rfl) nofun
  | local_ => exact h

/-- A dismissal keeps the invariant when no other event is open. -/
theorem attentionInvariant_dismissWeatherEvent (h : AttentionInvariant config session)
    (hcareful : CarefulNode config services session state .dismissWeatherEvent)
    (hexec : dismissWeatherEvent state session = .ok outcome) :
    AttentionInvariant config (outcome.recordAfter session) := by
  unfold dismissWeatherEvent at hexec
  obtain ⟨request, hrequest, hexec⟩ := bind_eq_ok hexec
  obtain ⟨eventId, hevent, hexec⟩ := bind_eq_ok hexec
  obtain ⟨_, -, hexec⟩ := bind_eq_ok hexec
  dsimp only at hexec
  obtain ⟨_, -, hexec⟩ := bind_eq_ok hexec
  obtain ⟨_, -, hexec⟩ := bind_eq_ok hexec
  obtain ⟨_, -, hexec⟩ := bind_eq_ok hexec
  cases hexec
  have hdismiss : request.action = .dismissWeatherEvent eventId := by
    unfold dismissedEventId at hevent
    split at hevent
    · next id haction =>
      cases hevent
      exact haction
    · cases hevent
  have hothers := hcareful.dismissal rfl request (requestOf_eq_ok hrequest) eventId hdismiss
  have hkept : EventsKept config.weatherMaxEvents (dismissedRecord session eventId) := by
    have hupdated : EventsKept config.weatherMaxEvents (updateEventReceipt session eventId
        fun receipt => { receipt with status := .dismissed }) :=
      eventsKept_updateEventReceipt h.kept
    exact ⟨hupdated.eventId, hupdated.size⟩
  have hconsistent := attentionConsistent_dismissal_iff.mpr hothers
  exact attentionInvariant_of_eq hkept hconsistent rfl rfl nofun

/-! ## Approvals -/

omit [Platform] in
/-- The answer to a preview touches no open event: the receipt of its event says that a preview
was created. -/
theorem attentionInvariant_decided {preview : PlanPreview} {decided : PlanSessionRecord}
    {update : WeatherEventReceipt → WeatherEventReceipt} (h : AttentionInvariant config session)
    (hreceipt : ∀ eventId ∈ previewEventId preview, ∃ receipt,
      session.weatherMonitor.eventReceipts.get? eventId = some receipt ∧
        receipt.status = .previewCreated)
    (hupdate : ∀ receipt, (update receipt).status ≠ .needsUserAttention)
    (hevents : decided.weatherEvents = session.weatherEvents)
    (hmonitor : decided.weatherMonitor = session.weatherMonitor)
    (request : LifecycleResumeRequest) (versionId previewId eventId : Option String) :
    AttentionInvariant config
      (withReceipt { updatePreviewEvent decided preview update with status := .active } request
        versionId previewId eventId) := by
  have same := SameAttention.of_eq hevents hmonitor
  have hkept := same.kept h.kept
  have hconsistent := same.consistent h.consistent
  have hupdated : EventsKept config.weatherMaxEvents (updatePreviewEvent decided preview update) ∧
      AttentionConsistent (updatePreviewEvent decided preview update) := by
    unfold updatePreviewEvent
    split
    · exact ⟨hkept, hconsistent⟩
    · next eventId hid =>
      obtain ⟨receipt, hget, hstatus⟩ := hreceipt eventId hid
      refine ⟨eventsKept_updateEventReceipt hkept,
        attentionConsistent_updateEventReceipt hconsistent fun receipt' hget' => ?_⟩
      rw [hmonitor, hget] at hget'
      cases hget'
      exact iff_of_false (hupdate receipt) (by rw [hstatus]; nofun)
  exact attentionInvariant_of_eq hupdated.1 hupdated.2 rfl rfl nofun

theorem attentionInvariant_resolveApproval (h : AttentionInvariant config session)
    (hexec : resolveApproval config state session = .ok outcome) :
    AttentionInvariant config (outcome.recordAfter session) := by
  unfold resolveApproval at hexec
  obtain ⟨request, -, hexec⟩ := bind_eq_ok hexec
  obtain ⟨_, -, hexec⟩ := bind_eq_ok hexec
  obtain ⟨_, hawaiting, hexec⟩ := bind_eq_ok hexec
  obtain ⟨preview, hpending, hexec⟩ := bind_eq_ok hexec
  have hreceipt := h.pending (require_eq_ok hawaiting) preview hpending
  obtain ⟨⟨previewId, token⟩, -, hexec⟩ := bind_eq_ok hexec
  obtain ⟨_, -, hexec⟩ := bind_eq_ok hexec
  cases token with
  | none =>
    cases hexec
    change AttentionInvariant config (rejectPreview session request preview)
    refine attentionInvariant_decided h hreceipt ?_ ?_ ?_ request none (some preview.previewId) none
    · exact fun _ => nofun
    · rfl
    · rfl
  | some token =>
    obtain ⟨_, -, hexec⟩ := bind_eq_ok hexec
    obtain ⟨_, -, hexec⟩ := bind_eq_ok hexec
    obtain ⟨_, -, hexec⟩ := bind_eq_ok hexec
    cases hexec
    change AttentionInvariant config (approvePreview session request preview)
    refine attentionInvariant_decided h hreceipt ?_ ?_ ?_ request _ (some preview.previewId) _
    · exact fun _ => nofun
    · rfl
    · rfl

/-! ## Refreshes -/

omit [Platform] in
/-- A refresh that ends without a preview, from what it observed. -/
theorem attentionInvariant_terminal {event : Option ChangeEvent}
    {eventStatus : Option WeatherEventStatus} {snapshot : WeatherSnapshot}
    {risks : List DailyWeatherRisk} {result : WeatherRefreshOutcome}
    (hparts : EventsKept config.weatherMaxEvents (persistWeatherObservation session snapshot
      risks result event eventStatus config.weatherMaxEvents) ∧
      AttentionConsistent (persistWeatherObservation session snapshot risks result event
        eventStatus config.weatherMaxEvents))
    (request : LifecycleResumeRequest) (message : String) :
    AttentionInvariant config ((persistWeatherTerminal config state session request snapshot risks
      result event eventStatus message).recordAfter session) :=
  attentionInvariant_of_eq hparts.1 hparts.2 rfl rfl fun h => by cases h

omit [Platform] in
theorem attentionInvariant_reported (h : AttentionInvariant config session) {event : ChangeEvent}
    {status : WeatherEventStatus}
    (hsettles : status ≠ .needsUserAttention → OthersSettled session event.eventId)
    (hretained : status = .needsUserAttention → Retained config.weatherMaxEvents session event)
    (request : LifecycleResumeRequest) (snapshot : WeatherSnapshot)
    (risks : List DailyWeatherRisk) (result : WeatherRefreshOutcome) (message : String) :
    AttentionInvariant config ((persistWeatherTerminal config state session request snapshot risks
      result (some event) (some status) message).recordAfter session) :=
  attentionInvariant_terminal
    ⟨eventsKept_observation h.kept, attentionConsistent_observation hsettles hretained⟩ ..

omit [Platform] in
theorem attentionInvariant_same (h : AttentionInvariant config session)
    {event : Option ChangeEvent} {snapshot : WeatherSnapshot} {risks : List DailyWeatherRisk}
    {result : WeatherRefreshOutcome}
    (same : SameAttention session (persistWeatherObservation session snapshot risks result event
      none config.weatherMaxEvents)) (request : LifecycleResumeRequest) (message : String) :
    AttentionInvariant config ((persistWeatherTerminal config state session request snapshot risks
      result event none message).recordAfter session) :=
  attentionInvariant_terminal ⟨same.kept h.kept, same.consistent h.consistent⟩ ..

theorem attentionInvariant_deduplicateWeatherEvent (h : AttentionInvariant config session)
    (hcareful : CarefulNode config services session state .deduplicateWeatherEvent)
    (hexec : deduplicateWeatherEvent config state session = .ok outcome) :
    AttentionInvariant config (outcome.recordAfter session) := by
  obtain ⟨request, snapshot, -, -, hdeduplicated⟩ := deduplicateWeatherEvent_eq_ok hexec
  cases hdeduplicated with
  | unchanged message hnone => exact attentionInvariant_same h (sameAttention_unchanged h.kept) ..
  | duplicate event existing message hevent hknown =>
    have hmem : existing ∈ session.weatherEvents.values := List.mem_of_find?_eq_some hknown
    exact attentionInvariant_same h (sameAttention_duplicate h.kept hmem) ..
  | recovered event message hevent hnew hkind =>
    refine attentionInvariant_reported h (fun _ => ?_) (fun hstatus => ?_) ..
    · exact hcareful.settles event hevent (.recovered hkind hnew)
    · cases hstatus
  | analyze event hevent hnew => exact h

theorem attentionInvariant_analyzeWeatherChangeImpact (h : AttentionInvariant config session)
    (hcareful : CarefulNode config services session state .analyzeWeatherImpact)
    (hexec : analyzeWeatherChangeImpact config state session = .ok outcome) :
    AttentionInvariant config (outcome.recordAfter session) := by
  obtain ⟨request, version, snapshot, event, -, hactive, -, hevent, hanalyzed⟩ :=
    analyzeWeatherChangeImpact_eq_ok hexec
  cases hanalyzed with
  | unaffected message hnoItem hnoAttention =>
    refine attentionInvariant_reported h (fun _ => ?_) (fun hstatus => ?_) ..
    · exact hcareful.settles event hevent (.unaffected version hactive hnoItem hnoAttention)
    · cases hstatus
  | attention message hneeds =>
    exact attentionInvariant_reported h (absurd rfl)
      (fun _ => hcareful.retained (.inl rfl) event hevent) ..
  | repair => exact h

theorem attentionInvariant_buildWeatherRepair (h : AttentionInvariant config session)
    (hcareful : CarefulNode config services session state .buildWeatherRepairPlan)
    (hexec : buildWeatherRepair config services state session = .ok outcome) :
    AttentionInvariant config (outcome.recordAfter session) := by
  obtain ⟨request, snapshot, event, -, -, hevent, hbuilt⟩ := buildWeatherRepair_eq_ok hexec
  cases hbuilt with
  | attention message =>
    exact attentionInvariant_reported h (absurd rfl)
      (fun _ => hcareful.retained (.inr (.inl rfl)) event hevent) ..
  | planned => exact h

omit [Platform] in
/-- A refresh that failed leaves the events and the preview that waits alone. -/
theorem attentionInvariant_weatherFailed (h : AttentionInvariant config session) (code : String)
    (failure : Failure) :
    AttentionInvariant config
      ((persistWeatherFailure services session code failure).recordAfter session) := by
  have same : SameAttention session
      ((persistWeatherFailure services session code failure).recordAfter session) :=
    ⟨fun _ => rfl, rfl, rfl, rfl⟩
  exact ⟨same.kept h.kept, same.consistent h.consistent, h.pending⟩

/-! ## Previews -/

omit [Platform] in
/-- The parts of the invariant that a preview keeps, before its receipt names it. -/
theorem attention_observePreviewWeather (h : AttentionInvariant config session) {valid : Bool}
    (hsettles : valid = true → ∀ event ∈ state.weatherEvent, OthersSettled session event.eventId)
    (hretained : ∀ event ∈ state.weatherEvent, Retained config.weatherMaxEvents session event) :
    EventsKept config.weatherMaxEvents (observePreviewWeather config state session valid) ∧
      AttentionConsistent (observePreviewWeather config state session valid) := by
  unfold observePreviewWeather
  split
  · next event snapshot hevent hsnapshot =>
    refine ⟨eventsKept_observation h.kept, attentionConsistent_observation ?_ fun _ =>
      hretained event hevent⟩
    intro hstatus
    cases valid with
    | true => exact hsettles rfl event hevent
    | false => exact absurd rfl hstatus
  · exact ⟨h.kept, h.consistent⟩

omit [Platform] in
/-- The event of a valid preview has the receipt that says so. -/
theorem receipt_observePreviewWeather (hseen : WeatherSeen state) {event : ChangeEvent}
    (hevent : state.weatherEvent = some event) {receipt : WeatherEventReceipt}
    (h : (observePreviewWeather config state session true).weatherMonitor.eventReceipts.get?
      event.eventId = some receipt) : receipt.status = .previewCreated := by
  obtain ⟨snapshot, hsnapshot⟩ := Option.isSome_iff_exists.mp (hseen (by rw [hevent]; rfl))
  rw [observePreviewWeather, hevent, hsnapshot] at h
  exact status_of_observation h

omit [Platform] in
theorem eq_of_pendingPreview_stored {request : LifecycleResumeRequest}
    {preview pending : PlanPreview} {valid : Bool}
    (h : pendingPreview (storedPreview config state session request preview valid) =
      .ok pending) : pending = preview := by
  have hget : ((observePreviewWeather config state session valid).previews.set
      preview.previewId preview).get? preview.previewId = some pending := orRaise_eq_ok h
  rw [Dict.get?_set_self] at hget
  exact (Option.some.inj hget).symm

omit [Platform] in
theorem attentionInvariant_storePreview (h : AttentionInvariant config session)
    (hseen : WeatherSeen state) {request : LifecycleResumeRequest} {preview : PlanPreview}
    {valid : Bool} (htrigger : previewEventId preview = state.weatherEvent.map ChangeEvent.eventId)
    (hsettles : valid = true → ∀ event ∈ state.weatherEvent, OthersSettled session event.eventId)
    (hretained : ∀ event ∈ state.weatherEvent, Retained config.weatherMaxEvents session event)
    (hstore : storePreview config state session request preview valid = .ok record) :
    AttentionInvariant config record := by
  obtain ⟨hkept, hconsistent⟩ := attention_observePreviewWeather h hsettles hretained
  have same : SameAttention (observePreviewWeather config state session valid)
      (storedPreview config state session request preview valid) := .of_eq rfl rfl
  have hstored := And.intro (same.kept hkept) (same.consistent hconsistent)
  rcases storePreview_eq_ok hstore with ⟨hnone, rfl⟩ | ⟨event, hevent, hcontains, rfl⟩
  · refine ⟨hstored.1, hstored.2, fun _ pending hget eventId hid => ?_⟩
    rw [eq_of_pendingPreview_stored hget, htrigger, hnone] at hid
    cases hid
  · obtain ⟨receipt, hreceipt⟩ := Option.isSome_iff_exists.mp hcontains
    refine ⟨eventsKept_updateEventReceipt hstored.1,
      attentionConsistent_updateEventReceipt hstored.2 fun _ _ => Iff.rfl, ?_⟩
    intro hawaiting pending hget eventId hid
    have hsame := samePlan_updateEventReceipt
      (storedPreview config state session request preview valid) event.eventId
      fun receipt => { receipt with resultingPreviewId := some preview.previewId }
    rw [pendingPreview, hsame.pendingPreviewId, hsame.previews] at hget
    rw [eq_of_pendingPreview_stored hget, htrigger, hevent] at hid
    obtain rfl : event.eventId = eventId := Option.some.inj hid
    have hvalid : valid = true := by
      by_contra hinvalid
      rw [hsame.status] at hawaiting
      change (if valid = true then PlanSessionStatus.awaitingChangeApproval else .changeRejected) =
        _ at hawaiting
      rw [if_neg hinvalid] at hawaiting
      cases hawaiting
    subst hvalid
    have hcreated : receipt.status = .previewCreated :=
      receipt_observePreviewWeather hseen hevent hreceipt
    refine ⟨{ receipt with resultingPreviewId := some preview.previewId }, ?_, hcreated⟩
    rw [get?_updateEventReceipt, if_pos rfl, hreceipt]
    rfl

theorem attentionInvariant_buildPreview (h : AttentionInvariant config session)
    (hseen : WeatherSeen state)
    (hcareful : CarefulNode config services session state .buildLocalPreview)
    (hexec : buildPreview config services state session = .ok outcome) :
    AttentionInvariant config (outcome.recordAfter session) := by
  obtain ⟨request, snapshot, version, patch, plan, preview, record, after, hbuilt, rfl⟩ :=
    buildPreview_eq_ok hexec
  refine attentionInvariant_storePreview h hseen hbuilt.trigger (fun hvalid event hevent => ?_)
    (hcareful.retained (.inr (.inr rfl))) hbuilt.stored
  exact hcareful.settles event hevent (.previewed request snapshot version patch plan
    hbuilt.action hbuilt.planned hbuilt.active hbuilt.edits hbuilt.edited hvalid)

/-! ## Every node -/

/-- A node hands on a state whose event comes from a snapshot. -/
theorem weatherSeen_execNode {node : LifecycleNode} (hseen : WeatherSeen state)
    (hexec : execNode config services state session node = .ok outcome)
    {after : LifecycleState} (hafter : after ∈ outcome.stateAfter) {next : LifecycleNode}
    (hnext : nextNode after node = .ok next) (hacts : next ≠ .awaitUserAction) :
    WeatherSeen after := by
  -- A node that saves waits for the user; of the others, two touch the weather.
  cases nodeEffect_execNode hexec with
  | weatherFailed => cases hafter
  | saved request plan record after' action step same waits =>
    obtain rfl : after' = after := Option.some.inj hafter
    rw [waits] at hnext
    exact absurd (Except.ok.inj hnext).symm hacts
  | goto after' same goesOn =>
    obtain rfl : after' = after := Option.some.inj hafter
    cases node with
    | awaitUserAction => cases hexec; exact hseen
    | dispatchAction => cases hexec; exact hseen
    | selectCandidate => exact absurd rfl goesOn
    | changeLock => exact absurd rfl goesOn
    | parseEdit =>
      obtain ⟨patch, heq⟩ := parseEdit_eq_ok hexec
      cases heq
      exact hseen
    | applyEditClarification =>
      obtain ⟨operations, heq⟩ := applyEditClarification_eq_ok hexec
      cases heq
      exact hseen
    | analyzeChangeImpact =>
      obtain ⟨request, version, ungrounded, -, -, -, himpact⟩ := analyzeImpact_eq_ok hexec
      cases himpact
      exact hseen
    | buildLocalPreview => exact absurd rfl goesOn
    | resolveApproval => exact absurd rfl goesOn
    | resolveWeatherLocation =>
      rcases resolveWeatherLocation_eq_ok hexec with ⟨location, heq⟩ | ⟨code, failure, heq⟩
      · cases heq
        exact hseen
      · cases heq
    | fetchWeatherSnapshot =>
      rcases fetchWeatherSnapshot_eq_ok hexec with ⟨snapshot, -, heq⟩ | ⟨code, failure, heq⟩
      · cases heq
        exact fun _ => rfl
      · cases heq
    | classifyWeatherRisks =>
      obtain ⟨snapshot, -, heq⟩ := classifyWeatherRisks_eq_ok hexec
      cases heq
      exact hseen
    | deriveWeatherEvent =>
      obtain ⟨version, snapshot, -, hsnapshot, heq⟩ := deriveWeatherChange_eq_ok hexec
      cases heq
      exact fun _ => by rw [hsnapshot]; rfl
    | deduplicateWeatherEvent =>
      obtain ⟨request, snapshot, -, -, hdeduplicated⟩ := deduplicateWeatherEvent_eq_ok hexec
      cases hdeduplicated
      exact hseen
    | analyzeWeatherImpact =>
      obtain ⟨request, version, snapshot, event, -, -, -, -, hanalyzed⟩ :=
        analyzeWeatherChangeImpact_eq_ok hexec
      cases hanalyzed
      exact hseen
    | buildWeatherRepairPlan =>
      obtain ⟨request, snapshot, event, -, -, -, hbuilt⟩ := buildWeatherRepair_eq_ok hexec
      cases hbuilt
      exact hseen
    | dismissWeatherEvent => exact absurd rfl goesOn

/-- A node that meets the condition keeps the invariant. -/
theorem attentionInvariant_execNode {node : LifecycleNode} (h : AttentionInvariant config session)
    (hseen : WeatherSeen state) (hcareful : CarefulNode config services session state node)
    (hexec : execNode config services state session node = .ok outcome) :
    AttentionInvariant config (outcome.recordAfter session) := by
  cases node with
  | awaitUserAction => cases hexec; exact h
  | dispatchAction => cases hexec; exact h
  | selectCandidate => exact attentionInvariant_selectCandidate h hexec
  | changeLock => exact attentionInvariant_changeLock h hexec
  | parseEdit =>
    obtain ⟨patch, rfl⟩ := parseEdit_eq_ok hexec
    exact h
  | applyEditClarification =>
    obtain ⟨operations, rfl⟩ := applyEditClarification_eq_ok hexec
    exact h
  | analyzeChangeImpact => exact attentionInvariant_analyzeImpact h hexec
  | buildLocalPreview => exact attentionInvariant_buildPreview h hseen hcareful hexec
  | resolveApproval => exact attentionInvariant_resolveApproval h hexec
  | resolveWeatherLocation =>
    rcases resolveWeatherLocation_eq_ok hexec with ⟨location, rfl⟩ | ⟨code, failure, rfl⟩
    · exact h
    · exact attentionInvariant_weatherFailed h code failure
  | fetchWeatherSnapshot =>
    rcases fetchWeatherSnapshot_eq_ok hexec with ⟨snapshot, -, rfl⟩ | ⟨code, failure, rfl⟩
    · exact h
    · exact attentionInvariant_weatherFailed h code failure
  | classifyWeatherRisks =>
    obtain ⟨snapshot, -, rfl⟩ := classifyWeatherRisks_eq_ok hexec
    exact h
  | deriveWeatherEvent =>
    obtain ⟨version, snapshot, -, -, rfl⟩ := deriveWeatherChange_eq_ok hexec
    exact h
  | deduplicateWeatherEvent => exact attentionInvariant_deduplicateWeatherEvent h hcareful hexec
  | analyzeWeatherImpact => exact attentionInvariant_analyzeWeatherChangeImpact h hcareful hexec
  | buildWeatherRepairPlan => exact attentionInvariant_buildWeatherRepair h hcareful hexec
  | dismissWeatherEvent => exact attentionInvariant_dismissWeatherEvent h hcareful hexec

end Nodes

/-! ## Every run -/

section Runs

variable {config : LifecycleConfig} {session : PlanSession}

omit [Platform] in
theorem attentionInvariant_created (sessionId : String) (status : PlanSessionStatus)
    (snapshot : Option PlanningSnapshot) (externalInterrupt : Option String)
    (h : status = .awaitingCandidateSelection ∨ status = .needsRequirementClarification) :
    AttentionInvariant config (.created sessionId status snapshot externalInterrupt) where
  kept := ⟨fun _ _ hget => absurd hget (by simp [PlanSessionRecord.created]), Nat.zero_le _⟩
  consistent := ⟨fun _ hid => absurd hid (by simp [PlanSessionRecord.created]),
    fun _ _ hneeds => absurd hneeds.1 (by simp [PlanSessionRecord.created, Dict.contains])⟩
  pending hstatus := by
    change status = .awaitingChangeApproval at hstatus
    rcases h with rfl | rfl <;> cases hstatus

omit [Platform] in
theorem attentionInvariant_clarified {record record' : PlanSessionRecord}
    {request : LifecycleResumeRequest} {outcome : RequirementOutcome}
    (h : AttentionInvariant config record)
    (hstatus : record.status = .needsRequirementClarification)
    (hclarified : clarifiedRecord record request outcome = .ok record') :
    AttentionInvariant config record' := by
  cases outcome with
  | needsClarification interruptId =>
    cases hclarified
    refine h.settled (.of_eq rfl rfl) fun hawaiting => ?_
    rw [withReceipt] at hawaiting
    dsimp only at hawaiting
    rw [hstatus] at hawaiting
    cases hawaiting
  | completed snapshot =>
    cases hclarified
    exact h.settled (.of_eq rfl rfl) fun hawaiting => by cases hawaiting
  | notCompleted message => cases hclarified

theorem attentionInvariant_of_careful (h : CarefulReachable config session) :
    AttentionInvariant config session.record := by
  induction h with
  | created hcreated =>
    obtain ⟨sessionId, status, snapshot, externalInterrupt, hstatus, hrecord⟩ := hcreated.record
    rw [hrecord]
    exact attentionInvariant_created _ _ _ _ hstatus
  | resumed requirements services interruptId request careful _ ih =>
    refine resume_keeps (CarefulNode config)
      (motive := fun record state node => AttentionInvariant config record ∧
        (node ≠ .awaitUserAction → WeatherSeen state))
      ?_ ?_ ?_ ?_ requirements interruptId ih careful
    · exact fun record state request node hinv _ => ⟨hinv, fun _ hsome => by cases hsome⟩
    · exact fun _ _ _ hboth => hboth.1
    · exact fun _ _ _ _ hinv hstatus hclarified =>
        attentionInvariant_clarified hinv hstatus hclarified
    · rintro services record state node outcome ⟨hinv, hseen⟩ hcareful hacts hexec
      have hafter := attentionInvariant_execNode hinv (hseen hacts) hcareful hexec
      exact ⟨hafter, fun after hmem next hnext =>
        ⟨hafter, weatherSeen_execNode (hseen hacts) hexec hmem hnext⟩⟩

/-- The statuses in which an interrupt offers changes of the plan. -/
def offersChanges (status : PlanSessionStatus) : Bool :=
  decide (status ≠ .awaitingCandidateSelection ∧ status ≠ .awaitingChangeApproval ∧
    status ≠ .needsRequirementClarification ∧ status ≠ .needsEditClarification)

omit [Platform] in
theorem dismissal_mem_allowedActions {record : PlanSessionRecord}
    (hstatus : offersChanges record.status = true)
    (hpointer : record.weatherMonitor.attentionEventId.isSome = true) :
    "dismiss_weather_event" ∈ allowedActions record := by
  have hmem : "dismiss_weather_event" ∈
      ["lock", "unlock", "edit", "edit_text", "refresh_weather"] ++
      if record.weatherMonitor.attentionEventId.isSome then ["dismiss_weather_event"] else [] := by
    rw [if_pos hpointer]
    exact List.mem_append_right _ List.mem_cons_self
  unfold allowedActions
  split
  · next hcase => rw [hcase] at hstatus; cases hstatus
  · next hcase => rw [hcase] at hstatus; cases hstatus
  · next hcase => rw [hcase] at hstatus; cases hstatus
  · next hcase => rw [hcase] at hstatus; cases hstatus
  · exact hmem

/-- In every run that settles an event only when no other one is open, and that keeps every event
that it reports, the monitor points at an event exactly when one needs attention; then it names
such an event, offers its dismissal whenever it offers changes of the plan, and a dismissal of the
event that it names is saved. -/
theorem attention_of_careful (h : CarefulReachable config session) :
    (session.record.weatherMonitor.attentionEventId ≠ none ↔
      ∃ eventId, NeedsAttention session.record eventId) ∧
    ((∃ eventId, NeedsAttention session.record eventId) →
      offersChanges session.record.status = true →
      "dismiss_weather_event" ∈ allowedActions session.record) ∧
    ∀ eventId, session.record.weatherMonitor.attentionEventId = some eventId →
      NeedsAttention session.record eventId ∧
        ∀ (state : LifecycleState) (request : LifecycleResumeRequest),
          state.action = some request → request.action = .dismissWeatherEvent eventId →
          ensureExpected session.record request = .ok () →
          ∃ record after, dismissWeatherEvent state session.record = .ok (.saved record after) := by
  have hinv := (attentionInvariant_of_careful h).consistent
  have hiff := hinv.isSome_iff
  refine ⟨hiff, fun hsome hoffers => ?_, fun eventId hid => ?_⟩
  · exact dismissal_mem_allowedActions hoffers
      (Option.isSome_iff_ne_none.mpr (hiff.mpr hsome))
  · have hneeds := hinv.named eventId hid
    refine ⟨hneeds, fun state request haction hdismiss hexpected => ?_⟩
    obtain ⟨hevent, receipt, hreceipt, hstatus⟩ := hneeds
    obtain ⟨record, after, hsaved, -⟩ := exists_saved_of_dismissible haction hdismiss hexpected
      ⟨hevent, receipt, hreceipt, .inl hstatus⟩
    exact ⟨record, after, hsaved⟩

/-- As long as no event was stored, every node meets the condition. -/
theorem everyNode_of_noEvents (hmax : 1 ≤ config.weatherMaxEvents)
    {services : ℕ → LifecycleServices} {fuel : ℕ} {record : PlanSessionRecord}
    {state : LifecycleState} {node : LifecycleNode}
    (h : record.weatherEvents = ∅ ∨ node = .awaitUserAction) :
    EveryNode config (CarefulNode config) services fuel record state node := by
  induction fuel generalizing record state node with
  | zero => trivial
  | succ fuel ih =>
    refine ⟨?_, ?_⟩
    · rcases h with hempty | rfl
      · have hsettled (eventId : String) : OthersSettled record eventId := by
          intro other _ hneeds
          have hcontains := hneeds.1
          rw [hempty] at hcontains
          cases hcontains
        refine ⟨fun event _ _ => hsettled event.eventId, fun _ event _ => .inl ?_,
          fun _ _ _ eventId _ => hsettled eventId⟩
        rw [hempty]
        exact hmax
      · exact ⟨fun _ _ hsettles => (by cases hsettles), fun hnode => (by simp at hnode),
          fun hnode => (by cases hnode)⟩
    · split
      · trivial
      · next after stateAfter nodeAfter hstep =>
        have hands := stepNode_eq_next hstep
        refine ih ?_
        rcases hands.exec with ⟨hexec, rfl⟩ | hexec
        · exact .inl (h.resolve_right hands.acts)
        · cases nodeEffect_execNode hexec with
          | saved request plan saved after' action step same waits =>
            exact .inr (Except.ok.inj (hands.edge.symm.trans waits))

/-- A request to a session without events meets the condition. -/
theorem CarefulReachable.resumed_of_noEvents (h : CarefulReachable config session)
    (hmax : 1 ≤ config.weatherMaxEvents) (hempty : session.record.weatherEvents = ∅)
    (requirements : String → Result RequirementOutcome) (services : ℕ → LifecycleServices)
    (interruptId : String) (request : LifecycleResumeRequest) :
    CarefulReachable config
      (resume config requirements services interruptId session request).2 :=
  .resumed requirements services interruptId request
    (fun _ _ _ _ _ _ => everyNode_of_noEvents hmax (.inl hempty)) h

end Runs

namespace Sample

omit [Platform]

instance (session : PlanSessionRecord) (eventId : String) :
    Decidable (NeedsAttention session eventId) :=
  inferInstanceAs (Decidable (session.weatherEvents.contains eventId = true ∧
    ∃ receipt ∈ session.weatherMonitor.eventReceipts.get? eventId,
      receipt.status = .needsUserAttention))

/-- After the alert the sky clears: the second refresh stores that the risk is gone. -/
def clearedSession : PlanSession :=
  (deliver (weatherServices (at_ day1 9) [weatherOn day1 .clear]) alertedSession "after r2" "r3"
    .refreshWeather).2

theorem carefulReachable_loneSession : @CarefulReachable plainPlatform weatherConfig loneSession :=
  @CarefulReachable.resumed_of_noEvents plainPlatform weatherConfig _
    (@CarefulReachable.created plainPlatform weatherConfig _
      (.planned "s" (snapshotOf _ _) services "i1"))
    (by decide) (Dict.eq_empty_of_size (by decide +kernel)) _ _ _ _

theorem carefulReachable_alertedSession :
    @CarefulReachable plainPlatform weatherConfig alertedSession :=
  @CarefulReachable.resumed_of_noEvents plainPlatform weatherConfig _ carefulReachable_loneSession
    (by decide) (Dict.eq_empty_of_size (by decide +kernel)) _ _ _ _

end Sample

omit [Platform] in
/-- The first alert of a session meets the condition, and the monitor points at its event. -/
theorem attention_of_careful_alerted :
    (∃ eventId, NeedsAttention Sample.alertedSession.record eventId) ∧
      "dismiss_weather_event" ∈ allowedActions Sample.alertedSession.record := by
  obtain ⟨hiff, hoffered, -⟩ := @attention_of_careful plainPlatform _ _
    Sample.carefulReachable_alertedSession
  have hsession : Sample.alertedSession.record.weatherMonitor.attentionEventId ≠ none ∧
      offersChanges Sample.alertedSession.record.status = true := by decide +kernel
  have hneeds := hiff.mp hsession.1
  exact ⟨hneeds, hoffered hneeds hsession.2⟩

omit [Platform] in
/-- The first event still needs attention, but the second one emptied the pointer. -/
theorem exists_reachable_unpointed :
    let := plainPlatform
    let session := Sample.clearedSession.record
    Reachable Sample.weatherConfig Sample.clearedSession ∧
      NeedsAttention session (Sample.attentionEventOf Sample.alertedSession) ∧
      session.weatherMonitor.attentionEventId = none ∧
      "dismiss_weather_event" ∉ allowedActions session := by
  have hsession : NeedsAttention Sample.clearedSession.record
      (Sample.attentionEventOf Sample.alertedSession) ∧
      Sample.clearedSession.record.weatherMonitor.attentionEventId = none ∧
      "dismiss_weather_event" ∉ allowedActions Sample.clearedSession.record := by decide +kernel
  exact ⟨Sample.reachable_deliver (Sample.reachable_deliver Sample.reachable_loneSession ..) ..,
    hsession⟩

end TravelPlanAgent
