import TravelPlanAgent.Lifecycle.AllowedActions
import TravelPlanAgent.Lifecycle.NodeSpecs
import TravelPlanAgent.Lifecycle.Positions
import TravelPlanAgent.Lifecycle.SessionInvariant
import TravelPlanAgent.Weather.Announced

/-!
# The risks that a session is told about

A session that keeps its version is refreshed again and again, and between two refreshes previews
are rejected, events dismissed and days locked.  `Watched` collects the events that its refreshes
derive.  No risk is missed as long as every forecast covers the days that the next one puts at
risk.

* `CoversNode`: the condition on the node that derives the event.
* `Notes`, `notes_execNode`: every other node keeps what a refresh read, or stores it.
* `Following`, `following_handsOn`: what holds at every node of a run.
* `Watched`, `noneMissed_of_watched`: what holds after every request.
-/

namespace TravelPlanAgent

open Calendar

variable [Platform]

/-! ## The condition -/

/-- The days of a version. -/
def tripDates (version : PlanVersion) : List Date := version.candidate.days.map DayPlan.date

/-- The event is derived from a forecast that puts no uncovered day at risk. -/
def CoversNode (events : List ChangeEvent) (session : PlanSessionRecord) (state : LifecycleState)
    (node : LifecycleNode) : Prop :=
  node = .deriveWeatherEvent → ∀ version, activeVersion session = .ok version →
    Covers events (tripDates version) (state.weatherRisks.getD []) (storedRisks session)
      (storedSnapshot session)

/-! ## What the nodes do with a forecast -/

/-- The nodes of a refresh up to the one that derives the event. -/
def LifecycleNode.reads : LifecycleNode → Bool
  | .resolveWeatherLocation | .fetchWeatherSnapshot | .classifyWeatherRisks
  | .deriveWeatherEvent => true
  | _ => false

/-- What a refresh read is still there. -/
structure KeepsForecast (state after : LifecycleState) : Prop where
  snapshot : after.weatherSnapshot = state.weatherSnapshot
  risks : after.weatherRisks = state.weatherRisks
  event : after.weatherEvent = state.weatherEvent

/-- The stored risks are the old ones, the ones that were read, or forgotten. -/
def NotedRisks (state : LifecycleState) (session record : PlanSessionRecord) : Prop :=
  storedRisks record = storedRisks session ∨ ∃ snapshot, state.weatherSnapshot = some snapshot ∧
    (storedRisks record = state.weatherRisks.getD [] ∨ storedRisks record = [])

/-- A node that goes on keeps what was read, and a node that saves notes it. -/
inductive Notes (state : LifecycleState) (session : PlanSessionRecord) : NodeOutcome → Prop where
  | goto (after : LifecycleState) (keeps : KeepsForecast state after) :
      Notes state session (.goto after)
  | saved (record : PlanSessionRecord) (after : LifecycleState)
      (keeps : KeepsForecast state after) (noted : NotedRisks state session record) :
      Notes state session (.saved record after)
  | savedThenRaised (record : PlanSessionRecord) (failure : Failure) :
      Notes state session (.savedThenRaised record failure)

section Nodes

variable {config : LifecycleConfig} {services : LifecycleServices} {state : LifecycleState}
  {session : PlanSessionRecord} {outcome : NodeOutcome} {node : LifecycleNode}

omit [Platform] in
theorem storedRisks_updateEventReceipt (session : PlanSessionRecord) (eventId : String)
    (update : WeatherEventReceipt → WeatherEventReceipt) :
    storedRisks (updateEventReceipt session eventId update) = storedRisks session := by
  unfold updateEventReceipt
  split <;> rfl

omit [Platform] in
theorem storedRisks_updatePreviewEvent (session : PlanSessionRecord) (preview : PlanPreview)
    (update : WeatherEventReceipt → WeatherEventReceipt) :
    storedRisks (updatePreviewEvent session preview update) = storedRisks session := by
  unfold updatePreviewEvent
  split
  · rfl
  · exact storedRisks_updateEventReceipt ..

theorem notes_selectCandidate (h : selectCandidate state session = .ok outcome) :
    Notes state session outcome := by
  unfold selectCandidate at h
  obtain ⟨_, -, h⟩ := bind_eq_ok h
  obtain ⟨_, -, h⟩ := bind_eq_ok h
  obtain ⟨_, -, h⟩ := bind_eq_ok h
  obtain ⟨_, -, h⟩ := bind_eq_ok h
  obtain ⟨_, -, h⟩ := bind_eq_ok h
  obtain ⟨_, -, h⟩ := bind_eq_ok h
  obtain ⟨_, -, h⟩ := bind_eq_ok h
  obtain ⟨_, -, h⟩ := bind_eq_ok h
  cases h
  exact .saved _ _ ⟨rfl, rfl, rfl⟩ (.inl rfl)

theorem notes_changeLock (h : changeLock state session = .ok outcome) :
    Notes state session outcome := by
  unfold changeLock at h
  obtain ⟨_, -, h⟩ := bind_eq_ok h
  obtain ⟨_, -, h⟩ := bind_eq_ok h
  obtain ⟨_, -, h⟩ := bind_eq_ok h
  obtain ⟨_, -, h⟩ := bind_eq_ok h
  obtain ⟨_, -, h⟩ := bind_eq_ok h
  cases h
  exact .saved _ _ ⟨rfl, rfl, rfl⟩ (.inl rfl)

theorem notes_analyzeImpact (h : analyzeImpact config state session = .ok outcome) :
    Notes state session outcome := by
  unfold analyzeImpact at h
  obtain ⟨_, -, h⟩ := bind_eq_ok h
  obtain ⟨_, -, h⟩ := bind_eq_ok h
  obtain ⟨_, -, h⟩ := bind_eq_ok h
  split at h
  · split at h
    · unfold askForClarification at h
      obtain ⟨_, -, h⟩ := bind_eq_ok h
      cases h
      exact .saved _ _ ⟨rfl, rfl, rfl⟩ (.inl rfl)
    · cases h
  · cases h
  · obtain ⟨_, -, h⟩ := bind_eq_ok h
    split at h
    · cases h
      exact .saved _ _ ⟨rfl, rfl, rfl⟩ (.inl rfl)
    · cases h
      exact .goto _ ⟨rfl, rfl, rfl⟩

theorem notes_resolveApproval (h : resolveApproval config state session = .ok outcome) :
    Notes state session outcome := by
  unfold resolveApproval at h
  obtain ⟨_, -, h⟩ := bind_eq_ok h
  obtain ⟨_, -, h⟩ := bind_eq_ok h
  obtain ⟨_, -, h⟩ := bind_eq_ok h
  obtain ⟨_, -, h⟩ := bind_eq_ok h
  obtain ⟨⟨previewId, token⟩, -, h⟩ := bind_eq_ok h
  obtain ⟨_, -, h⟩ := bind_eq_ok h
  cases token with
  | none =>
    cases h
    exact .saved _ _ ⟨rfl, rfl, rfl⟩ (.inl (storedRisks_updatePreviewEvent ..))
  | some token =>
    obtain ⟨_, -, h⟩ := bind_eq_ok h
    obtain ⟨_, -, h⟩ := bind_eq_ok h
    obtain ⟨_, -, h⟩ := bind_eq_ok h
    cases h
    exact .saved _ _ ⟨rfl, rfl, rfl⟩ (.inl (storedRisks_updatePreviewEvent ..))

omit [Platform] in
theorem notes_dismissWeatherEvent (h : dismissWeatherEvent state session = .ok outcome) :
    Notes state session outcome := by
  unfold dismissWeatherEvent at h
  obtain ⟨_, -, h⟩ := bind_eq_ok h
  obtain ⟨_, -, h⟩ := bind_eq_ok h
  obtain ⟨_, -, h⟩ := bind_eq_ok h
  dsimp only at h
  obtain ⟨_, -, h⟩ := bind_eq_ok h
  obtain ⟨_, -, h⟩ := bind_eq_ok h
  obtain ⟨_, -, h⟩ := bind_eq_ok h
  cases h
  exact .saved _ _ ⟨rfl, rfl, rfl⟩ (.inl (storedRisks_updateEventReceipt session _ _))

omit [Platform] in
/-- A refresh that ends at a node notes what it read. -/
theorem notes_persistWeatherTerminal {snapshot : WeatherSnapshot}
    (hsnapshot : state.weatherSnapshot = some snapshot) (request : LifecycleResumeRequest)
    (result : WeatherRefreshOutcome) (event : Option ChangeEvent)
    (status : Option WeatherEventStatus) (message : String) :
    Notes state session (persistWeatherTerminal config state session request snapshot
      (state.weatherRisks.getD []) result event status message) :=
  .saved _ _ ⟨rfl, rfl, rfl⟩ (.inr ⟨snapshot, hsnapshot, storedRisks_observation ..⟩)

theorem notes_buildPreview (h : buildPreview config services state session = .ok outcome) :
    Notes state session outcome := by
  unfold buildPreview at h
  obtain ⟨_, -, h⟩ := bind_eq_ok h
  obtain ⟨_, -, h⟩ := bind_eq_ok h
  obtain ⟨_, -, h⟩ := bind_eq_ok h
  obtain ⟨_, -, h⟩ := bind_eq_ok h
  obtain ⟨_, -, h⟩ := bind_eq_ok h
  obtain ⟨_, -, h⟩ := bind_eq_ok h
  obtain ⟨_, -, h⟩ := bind_eq_ok h
  obtain ⟨_, -, h⟩ := bind_eq_ok h
  obtain ⟨_, -, h⟩ := bind_eq_ok h
  obtain ⟨record, hrecord, h⟩ := bind_eq_ok h
  cases h
  refine .saved _ _ ⟨rfl, rfl, rfl⟩ ?_
  have hobserved (valid : Bool) :
      NotedRisks state session (observePreviewWeather config state session valid) := by
    unfold observePreviewWeather
    split
    · next snapshot hevent hsnapshot =>
      exact .inr ⟨snapshot, hsnapshot, storedRisks_observation ..⟩
    · exact .inl rfl
  rcases storePreview_eq_ok hrecord with ⟨-, rfl⟩ | ⟨event, -, -, rfl⟩
  · exact hobserved _
  · unfold NotedRisks
    rw [storedRisks_updateEventReceipt]
    exact hobserved _

/-- A node that does not read a forecast keeps what was read, or notes it. -/
theorem notes_execNode (hnode : node.reads = false)
    (h : execNode config services state session node = .ok outcome) :
    Notes state session outcome := by
  cases node with
  | awaitUserAction => cases h; exact .goto _ ⟨rfl, rfl, rfl⟩
  | dispatchAction => cases h; exact .goto _ ⟨rfl, rfl, rfl⟩
  | selectCandidate => exact notes_selectCandidate h
  | changeLock => exact notes_changeLock h
  | parseEdit =>
    obtain ⟨patch, rfl⟩ := parseEdit_eq_ok h
    exact .goto _ ⟨rfl, rfl, rfl⟩
  | applyEditClarification =>
    obtain ⟨operations, rfl⟩ := applyEditClarification_eq_ok h
    exact .goto _ ⟨rfl, rfl, rfl⟩
  | analyzeChangeImpact => exact notes_analyzeImpact h
  | buildLocalPreview => exact notes_buildPreview h
  | resolveApproval => exact notes_resolveApproval h
  | resolveWeatherLocation => cases hnode
  | fetchWeatherSnapshot => cases hnode
  | classifyWeatherRisks => cases hnode
  | deriveWeatherEvent => cases hnode
  | deduplicateWeatherEvent =>
    obtain ⟨request, snapshot, -, hsnapshot, hdeduplicated⟩ := deduplicateWeatherEvent_eq_ok h
    cases hdeduplicated with
    | analyze => exact .goto _ ⟨rfl, rfl, rfl⟩
    | unchanged => exact notes_persistWeatherTerminal hsnapshot ..
    | duplicate => exact notes_persistWeatherTerminal hsnapshot ..
    | recovered => exact notes_persistWeatherTerminal hsnapshot ..
  | analyzeWeatherImpact =>
    obtain ⟨request, version, snapshot, event, -, -, hsnapshot, -, hanalyzed⟩ :=
      analyzeWeatherChangeImpact_eq_ok h
    cases hanalyzed with
    | repair => exact .goto _ ⟨rfl, rfl, rfl⟩
    | unaffected => exact notes_persistWeatherTerminal hsnapshot ..
    | attention => exact notes_persistWeatherTerminal hsnapshot ..
  | buildWeatherRepairPlan =>
    obtain ⟨request, snapshot, event, -, hsnapshot, -, hbuilt⟩ := buildWeatherRepair_eq_ok h
    cases hbuilt with
    | planned => exact .goto _ ⟨rfl, rfl, rfl⟩
    | attention => exact notes_persistWeatherTerminal hsnapshot ..
  | dismissWeatherEvent => exact notes_dismissWeatherEvent h

omit [Platform] in
/-- From a node that does not read, no edge leads to one that does. -/
theorem reads_nextNode {after : LifecycleState} {next : LifecycleNode}
    (hnode : node.reads = false) (hawait : node ≠ .awaitUserAction)
    (hdispatch : node ≠ .dispatchAction) (h : nextNode after node = .ok next) :
    next.reads = false ∧ next ≠ .dispatchAction := by
  cases node with
  | awaitUserAction => exact absurd rfl hawait
  | dispatchAction => exact absurd rfl hdispatch
  | resolveWeatherLocation | fetchWeatherSnapshot | classifyWeatherRisks | deriveWeatherEvent =>
    cases hnode
  | selectCandidate | changeLock | parseEdit | applyEditClarification | buildLocalPreview
  | resolveApproval | dismissWeatherEvent =>
    cases h
    exact ⟨rfl, nofun⟩
  | analyzeChangeImpact | deduplicateWeatherEvent | analyzeWeatherImpact
  | buildWeatherRepairPlan =>
    obtain rfl := Except.ok.inj h
    split <;> exact ⟨rfl, nofun⟩

end Nodes

/-! ## What holds at every node -/

/-- What holds at a node of a request, given the events that were derived before it. -/
structure Following (events : List ChangeEvent) (version : PlanVersion)
    (session : PlanSessionRecord) (state : LifecycleState) (node : LifecycleNode) : Prop where
  acts : node ≠ .dispatchAction
  classified : Classified (storedRisks session)
  stored : NoneMissed (events ++ state.weatherEvent.toList) (tripDates version)
    (storedRisks session)
  reading : node.reads = true → state.weatherEvent = none ∧ activeVersion session = .ok version
  risks : node = .deriveWeatherEvent ∨ node.reads = false → ∀ snapshot,
    state.weatherSnapshot = some snapshot →
    state.weatherRisks.getD [] = classifyForecast snapshot.days
  observed : node.reads = false → ∀ snapshot, state.weatherSnapshot = some snapshot →
    NoneMissed (events ++ state.weatherEvent.toList) (tripDates version)
      (classifyForecast snapshot.days)

section Steps

variable {config : LifecycleConfig} {services : LifecycleServices} {events : List ChangeEvent}
  {version : PlanVersion} {session record : PlanSessionRecord} {state after : LifecycleState}
  {node next : LifecycleNode}

/-- A node that does not read keeps what holds. -/
theorem following_of_notes (h : Following events version session state node)
    (hnode : node.reads = false) (hands : HandsOn config services session state node record after
      next) : Following events version record after next := by
  obtain ⟨hreads, hacts⟩ := reads_nextNode hnode hands.acts h.acts hands.edge
  obtain ⟨hkeeps, hnoted⟩ : KeepsForecast state after ∧ NotedRisks state session record := by
    rcases hands.exec with ⟨hexec, rfl⟩ | hexec
    · cases notes_execNode hnode hexec with
      | goto after keeps => exact ⟨keeps, .inl rfl⟩
    · cases notes_execNode hnode hexec with
      | saved record after keeps noted => exact ⟨keeps, noted⟩
  have hrisks := h.risks (.inr hnode)
  have hobserved := h.observed hnode
  refine ⟨hacts, ?_, ?_, fun hreading => ?_, fun _ => ?_, fun _ => ?_⟩
  · rcases hnoted with heq | ⟨snapshot, hsnapshot, heq | heq⟩ <;> rw [heq]
    · exact h.classified
    · rw [hrisks snapshot hsnapshot]
      exact classified_classifyForecast _
    · exact fun risk hmem => absurd hmem List.not_mem_nil
  · rw [hkeeps.event]
    rcases hnoted with heq | ⟨snapshot, hsnapshot, heq | heq⟩ <;> rw [heq]
    · exact h.stored
    · rw [hrisks snapshot hsnapshot]
      exact hobserved snapshot hsnapshot
    · exact fun date _ risk hrisk => absurd (riskOn_mem hrisk) List.not_mem_nil
  · rw [hreads] at hreading
    cases hreading
  · rw [hkeeps.snapshot, hkeeps.risks]
    exact hrisks
  · rw [hkeeps.snapshot, hkeeps.event]
    exact hobserved

/-- Every node keeps what holds, provided that the forecast covers what it puts at risk. -/
theorem following_handsOn (htell : FingerprintsTellLevels)
    (h : Following events version session state node)
    (hcovers : CoversNode events session state node)
    (hands : HandsOn config services session state node record after next) :
    Following events version record after next := by
  cases hnode : node.reads with
  | false => exact following_of_notes h hnode hands
  | true =>
    obtain ⟨hevent, hactive⟩ := h.reading hnode
    have hstored := h.stored
    rw [hevent] at hstored
    cases node with
    | resolveWeatherLocation =>
      obtain rfl : next = .fetchWeatherSnapshot := (Except.ok.inj hands.edge).symm
      rcases hands.exec with ⟨hexec, rfl⟩ | hexec <;>
        rcases resolveWeatherLocation_eq_ok hexec with ⟨location, heq⟩ | ⟨_, _, heq⟩ <;>
        cases heq
      exact ⟨nofun, h.classified, h.stored, fun _ => ⟨hevent, hactive⟩,
        fun hlater => hlater.elim nofun nofun, nofun⟩
    | fetchWeatherSnapshot =>
      obtain rfl : next = .classifyWeatherRisks := (Except.ok.inj hands.edge).symm
      rcases hands.exec with ⟨hexec, rfl⟩ | hexec <;>
        rcases fetchWeatherSnapshot_eq_ok hexec with ⟨snapshot, -, heq⟩ | ⟨_, _, heq⟩ <;>
        cases heq
      exact ⟨nofun, h.classified, h.stored, fun _ => ⟨hevent, hactive⟩,
        fun hlater => hlater.elim nofun nofun, nofun⟩
    | classifyWeatherRisks =>
      obtain rfl : next = .deriveWeatherEvent := (Except.ok.inj hands.edge).symm
      rcases hands.exec with ⟨hexec, rfl⟩ | hexec <;>
        obtain ⟨snapshot, hsnapshot, heq⟩ := classifyWeatherRisks_eq_ok hexec <;> cases heq
      refine ⟨nofun, h.classified, h.stored, fun _ => ⟨hevent, hactive⟩, fun _ other hother => ?_,
        nofun⟩
      rw [show state.weatherSnapshot = some other from hother] at hsnapshot
      cases hsnapshot
      rfl
    | deriveWeatherEvent =>
      obtain rfl : next = .deduplicateWeatherEvent := (Except.ok.inj hands.edge).symm
      rcases hands.exec with ⟨hexec, rfl⟩ | hexec <;>
        obtain ⟨version', snapshot, hactive', hsnapshot, heq⟩ :=
          deriveWeatherChange_eq_ok hexec <;> cases heq
      rw [hactive] at hactive'
      cases hactive'
      have hrisks := h.risks (.inl rfl) snapshot hsnapshot
      have hprevious : NoneMissed events (tripDates version) (storedRisks record) := by
        simpa using hstored
      have hcovered : Covers events (tripDates version) (classifyForecast snapshot.days)
          (storedRisks record) (storedSnapshot record) := hrisks ▸ hcovers rfl version hactive
      have hderived : NoneMissed (events ++ (derivedEvent services record version snapshot
          (state.weatherRisks.getD [])).toList) (tripDates version)
          (classifyForecast snapshot.days) := by
        rw [hrisks]
        exact (noneMissed_derived_iff htell (classified_classifyForecast snapshot.days)
          h.classified hprevious).mpr hcovered
      refine ⟨nofun, h.classified, hprevious.append _, nofun, fun _ other hother => ?_,
        fun _ other hother => ?_⟩
      · rw [show state.weatherSnapshot = some other from hother] at hsnapshot
        cases hsnapshot
        exact hrisks
      · rw [show state.weatherSnapshot = some other from hother] at hsnapshot
        cases hsnapshot
        exact hderived
    | _ => cases hnode

/-- The nodes that read save nothing. -/
theorem record_of_reads (hnode : node.reads = true)
    (hands : HandsOn config services session state node record after next) : record = session := by
  rcases hands.exec with ⟨-, hrecord⟩ | hexec
  · exact hrecord
  · cases node with
    | resolveWeatherLocation =>
      rcases resolveWeatherLocation_eq_ok hexec with ⟨_, heq⟩ | ⟨_, _, heq⟩ <;> cases heq
    | fetchWeatherSnapshot =>
      rcases fetchWeatherSnapshot_eq_ok hexec with ⟨_, _, heq⟩ | ⟨_, _, heq⟩ <;> cases heq
    | classifyWeatherRisks =>
      obtain ⟨_, _, heq⟩ := classifyWeatherRisks_eq_ok hexec
      cases heq
    | deriveWeatherEvent =>
      obtain ⟨_, _, _, _, heq⟩ := deriveWeatherChange_eq_ok hexec
      cases heq
    | _ => cases hnode

end Steps

/-! ## Sessions -/

/-- The forecast that the last request of a session read. -/
def PlanSession.lastForecast (session : PlanSession) : Option WeatherSnapshot :=
  session.thread.bind fun thread => thread.state.weatherSnapshot

/-- The event that the last request of a session derived. -/
def PlanSession.lastEvent (session : PlanSession) : Option ChangeEvent :=
  session.thread.bind fun thread => thread.state.weatherEvent

/-- The sessions that requests lead to, from one that was never refreshed, as long as its version
stays active and its forecasts cover what they put at risk; with the events that were derived. -/
inductive Watched (config : LifecycleConfig) (version : PlanVersion) :
    List ChangeEvent → PlanSession → Prop where
  | start {session : PlanSession} (reachable : Reachable config session)
      (active : activeVersion session.record = .ok version)
      (unstored : session.record.weatherMonitor.latestSnapshotId = none)
      (unread : session.lastForecast = none) : Watched config version [] session
  | resumed {events : List ChangeEvent} {session : PlanSession} {message : Option String}
      (requirements : String → Result RequirementOutcome) (services : ℕ → LifecycleServices)
      (interruptId : String) (request : LifecycleResumeRequest)
      (completed : (resume config requirements services interruptId session request).1 =
        .completed message)
      (covers : EveryNodeOf config (fun _ => CoversNode events) services session request)
      (active : (resume config requirements services interruptId session
        request).2.record.activeVersionId = session.record.activeVersionId) :
      Watched config version events session →
      Watched config version
        (events ++ (resume config requirements services interruptId session
          request).2.lastEvent.toList)
        (resume config requirements services interruptId session request).2

/-- What holds between two requests. -/
structure WatchInvariant (config : LifecycleConfig) (version : PlanVersion)
    (events : List ChangeEvent) (session : PlanSession) : Prop where
  reachable : Reachable config session
  active : activeVersion session.record = .ok version
  classified : Classified (storedRisks session.record)
  stored : NoneMissed events (tripDates version) (storedRisks session.record)
  read : ∀ snapshot, session.lastForecast = some snapshot →
    NoneMissed events (tripDates version) (classifyForecast snapshot.days)

section Runs

variable {config : LifecycleConfig} {version : PlanVersion} {events : List ChangeEvent}
  {session : PlanSession}

omit [Platform] in
theorem active_iff {record : PlanSessionRecord} : activeVersion record = .ok version ↔
    ∃ versionId, record.activeVersionId = some versionId ∧
      record.versions.get? versionId = some version := by
  unfold activeVersion
  constructor
  · intro h
    obtain ⟨versionId, hid, hget⟩ := bind_eq_ok h
    exact ⟨versionId, orRaise_eq_ok hid, orRaise_eq_ok hget⟩
  · rintro ⟨versionId, hid, hget⟩
    rw [hid]
    simp only [orRaise, bind, Except.bind, hget]

/-- A session with a version is clear. -/
theorem clear_of_active (h : Reachable config session)
    (hactive : activeVersion session.record = .ok version) :
    session.record.status ≠ .needsRequirementClarification := by
  intro hstatus
  have hinv := sessionInvariant_of_reachable h
  obtain ⟨versionId, hid, -⟩ := active_iff.mp hactive
  have hnone := hinv.active
  rw [if_pos (hinv.unselected (.inr hstatus)), hid] at hnone
  cases hnone

theorem watchInvariant_of_watched (htell : FingerprintsTellLevels)
    (h : Watched config version events session) :
    WatchInvariant config version events session := by
  induction h with
  | @start session reachable active unstored unread =>
    have hstored : storedRisks session.record = [] := by
      rw [storedRisks, storedSnapshot, unstored]
      rfl
    refine ⟨reachable, active, ?_, ?_, fun snapshot hsnapshot => ?_⟩
    · rw [hstored]
      exact fun risk hmem => absurd hmem List.not_mem_nil
    · rw [hstored]
      exact fun date _ risk hrisk => absurd (riskOn_mem hrisk) List.not_mem_nil
    · rw [unread] at hsnapshot
      cases hsnapshot
  | @resumed events session message requirements services interruptId request completed covers
      active _ ih =>
    obtain ⟨node, state, oldId, oldPayload, after, payload, hroute, hthread, hrun, hafter⟩ :=
      exists_run_of_clear (clear_of_active ih.reachable ih.active) completed
    have hstart : Following events version session.record
        (dispatched session.record state request) node := by
      have hstored : NoneMissed (events ++ []) (tripDates version)
          (storedRisks session.record) := ih.stored.append _
      refine ⟨?_, ih.classified, hstored, fun _ => ⟨rfl, ih.active⟩, fun _ _ hread => ?_,
        fun _ _ hread => ?_⟩
      rotate_left
      · exact absurd hread.symm (Option.some_ne_none _)
      · exact absurd hread.symm (Option.some_ne_none _)
      rintro rfl
      unfold routeAction at hroute
      split at hroute <;> cases hroute
    have hend : Following events version (resume config requirements services interruptId
        session request).2.record after .awaitUserAction :=
      runNodes_paused_of_everyNode
        (fun _ _ _ _ _ _ _ h hcovers hands => following_handsOn htell h hcovers hands) hstart
        (covers _ _ _ _ hthread hroute) hrun
    have hforecast : (resume config requirements services interruptId session
        request).2.lastForecast = after.weatherSnapshot := by
      rw [PlanSession.lastForecast, hafter]
      rfl
    have hevent : (resume config requirements services interruptId session
        request).2.lastEvent = after.weatherEvent := by
      rw [PlanSession.lastEvent, hafter]
      rfl
    refine ⟨.resumed _ _ _ _ ih.reachable, ?_, hend.classified, ?_, ?_⟩
    · obtain ⟨versionId, hid, hget⟩ := active_iff.mp ih.active
      refine active_iff.mpr ⟨versionId, active.trans hid, ?_⟩
      exact versions_of_later (sessionInvariant_of_reachable ih.reachable)
        (.single ⟨requirements, services, interruptId, request, rfl⟩) hget
    · rw [hevent]
      exact hend.stored
    · rw [hevent, hforecast]
      exact hend.observed rfl

/-- No risk is missed: for every trip date that the latest forecast puts at risk, some event that
was derived since the first refresh names the date with this risk. -/
theorem noneMissed_of_watched (htell : FingerprintsTellLevels)
    (h : Watched config version events session) :
    NoneMissed events (tripDates version) (storedRisks session.record) ∧
      ∀ snapshot, session.lastForecast = some snapshot →
        NoneMissed events (tripDates version) (classifyForecast snapshot.days) :=
  have hinv := watchInvariant_of_watched htell h
  ⟨hinv.stored, hinv.read⟩

/-- Without a stored forecast every node meets the condition. -/
theorem everyNode_coversNode_of_unstored {services : ℕ → LifecycleServices} {fuel : ℕ}
    {record : PlanSessionRecord} {state : LifecycleState} {node : LifecycleNode}
    (h : node.reads = true ∧ storedSnapshot record = none ∨
      node.reads = false ∧ node ≠ .dispatchAction) :
    EveryNode config (fun _ => CoversNode events) services fuel record state node := by
  induction fuel generalizing record state node with
  | zero => trivial
  | succ fuel ih =>
    refine ⟨fun hderive version _ date _ risk _ _ => .inl ?_, ?_⟩
    · subst hderive
      rcases h with h | h
      · exact h.2
      · cases h.1
    · split
      · trivial
      · next record' after next hstep =>
        have hands := stepNode_eq_next hstep
        refine ih ?_
        rcases h with ⟨hnode, hnone⟩ | ⟨hnode, hdispatch⟩
        · obtain rfl := record_of_reads hnode hands
          cases hreads : next.reads with
          | true => exact .inl ⟨rfl, hnone⟩
          | false =>
            refine .inr ⟨rfl, ?_⟩
            rintro rfl
            have hedge := hands.edge
            cases node with
            | resolveWeatherLocation | fetchWeatherSnapshot | classifyWeatherRisks
            | deriveWeatherEvent => cases hedge
            | _ => cases hnode
        · exact .inr (reads_nextNode hnode hands.acts hdispatch hands.edge)

/-- The first refresh of a session meets the condition. -/
theorem Watched.refreshed_of_unstored {message : Option String}
    (h : Watched config version events session)
    (hunstored : session.record.weatherMonitor.latestSnapshotId = none)
    (requirements : String → Result RequirementOutcome) (services : ℕ → LifecycleServices)
    (interruptId : String) (request : LifecycleResumeRequest)
    (hrefresh : request.action = .refreshWeather)
    (hcompleted : (resume config requirements services interruptId session request).1 =
      .completed message)
    (hactive : (resume config requirements services interruptId session
      request).2.record.activeVersionId = session.record.activeVersionId) :
    Watched config version
      (events ++ (resume config requirements services interruptId session
        request).2.lastEvent.toList)
      (resume config requirements services interruptId session request).2 := by
  refine .resumed requirements services interruptId request hcompleted ?_ hactive h
  intro state id payload node _ hroute
  rw [hrefresh] at hroute
  cases hroute
  refine everyNode_coversNode_of_unstored (.inl ⟨rfl, ?_⟩)
  rw [storedSnapshot, hunstored]
  rfl

end Runs

/-! ## A forecast that slides along the trip -/

namespace Sample

omit [Platform]

/-- The level that a hashed risk has. -/
def levelOf : Json → String
  | .obj fields =>
    match fields.lookup "level" with
    | some (.str level) => level
    | _ => ""
  | _ => ""

/-- A platform whose hashes of risks begin with the level. -/
@[reducible] def levelPlatform : Platform :=
  { plainPlatform with
    jsonHash := fun value => levelOf value ++ ("/" ++ plainPlatform.jsonHash value) }

theorem fingerprintsTellLevels : @FingerprintsTellLevels levelPlatform := by
  intro a b h
  have hfingerprint (day : DailyWeather) : ∃ rest,
      (@classifyDailyWeather levelPlatform day).riskFingerprint =
        (@classifyDailyWeather levelPlatform day).level.value ++ ("/" ++ rest) := ⟨_, rfl⟩
  obtain ⟨restA, hA⟩ := hfingerprint a
  obtain ⟨restB, hB⟩ := hfingerprint b
  rw [hA, hB] at h
  generalize (@classifyDailyWeather levelPlatform a).level = levelA at h ⊢
  generalize (@classifyDailyWeather levelPlatform b).level = levelB at h ⊢
  -- The four levels begin with four letters.
  have hfirst := congrArg (fun text : String => text.toList.head?) h
  cases levelA <;> cases levelB <;> first
    | rfl
    | simp [WeatherRiskLevel.value] at hfirst

/-- One visit on the first day, selected. -/
def quietSession : PlanSession :=
  (@resume levelPlatform weatherConfig (fun _ => .error .editUnavailable) (fun _ => services)
    "after r1" (startedWith [⟨"balanced-r0", .balanced, [⟨day1, ["a"]⟩, ⟨day2, []⟩]⟩]
      [poi "a" 1 60]) (request "i1" "r1" .acceptRecommendation)).2

/-- Rain is forecast for the first day. -/
def rainyRefresh : ResumeReply × PlanSession :=
  @resume levelPlatform weatherConfig (fun _ => .error .editUnavailable)
    (fun _ => weatherServices (at_ day1 8) [weatherOn day1 .rain]) "after r2" quietSession
    (request "after r1" "r2" .refreshWeather)

/-- The first forecast covers the first day only, and it is clear. -/
def firstForecast : ResumeReply × PlanSession :=
  deliver (weatherServices (at_ day1 8) [weatherOn day1 .clear]) loneSession "after r1" "r2"
    .refreshWeather

/-- The next one covers the second day as well, and it will rain. -/
def secondForecast : ResumeReply × PlanSession :=
  deliver (weatherServices (at_ day1 9) [weatherOn day1 .clear, weatherOn day2 .rain])
    firstForecast.2 "after r2" "r3" .refreshWeather

end Sample

omit [Platform] in
/-- The first alert of a session: an event that names the first day, as the stored forecast has it
at risk. -/
theorem noneMissed_of_watched_rainy :
    let := Sample.levelPlatform
    ∃ version event, Sample.rainyRefresh.2.lastEvent = some event ∧
      event.affectedDates = [Sample.day1] ∧
      activeVersion Sample.rainyRefresh.2.record = .ok version ∧
      ((riskOn (storedRisks Sample.rainyRefresh.2.record) Sample.day1).map
        DailyWeatherRisk.level) = some .warning ∧
      NoneMissed [event] (tripDates version) (storedRisks Sample.rainyRefresh.2.record) := by
  let := Sample.levelPlatform
  have hquiet : (activeVersion Sample.quietSession.record).toOption.isSome = true ∧
      Sample.quietSession.record.weatherMonitor.latestSnapshotId = none ∧
      Sample.quietSession.lastForecast.isNone = true := by decide +kernel
  have hrainy : Sample.rainyRefresh.1 =
        .completed (some "天气影响涉及锁定或未知活动，请先确认后再修改计划") ∧
      Sample.rainyRefresh.2.record.activeVersionId =
        Sample.quietSession.record.activeVersionId ∧
      Sample.rainyRefresh.2.lastEvent.map ChangeEvent.affectedDates = some [Sample.day1] ∧
      ((riskOn (storedRisks Sample.rainyRefresh.2.record) Sample.day1).map
        DailyWeatherRisk.level) = some .warning := by decide +kernel
  obtain ⟨hcompleted, hsame, hdates, hlevel⟩ := hrainy
  obtain ⟨event, hevent, hdates⟩ := Option.map_eq_some_iff.mp hdates
  obtain ⟨version, hactive⟩ := Option.isSome_iff_exists.mp hquiet.1
  have hstart : @Watched Sample.levelPlatform Sample.weatherConfig version []
      Sample.quietSession :=
    .start (@Reachable.resumed Sample.levelPlatform _ _ _ _ _ _
      (@Reachable.created Sample.levelPlatform _ _ (.planned "s" _ _ _)))
      (eq_ok_of_mem_toOption hactive) hquiet.2.1 (Option.isNone_iff_eq_none.mp hquiet.2.2)
  have hwatched := @Watched.refreshed_of_unstored Sample.levelPlatform _ _ _ _ _ hstart
    hquiet.2.1 _ _ _ _ rfl hcompleted hsame
  have hnone := (@noneMissed_of_watched Sample.levelPlatform _ _ _ _
    Sample.fingerprintsTellLevels hwatched).1
  have hafter := (@watchInvariant_of_watched Sample.levelPlatform _ _ _ _
    Sample.fingerprintsTellLevels hwatched).active
  refine ⟨version, event, hevent, hdates, hafter, hlevel, ?_⟩
  have hevents : [] ++ Sample.rainyRefresh.2.lastEvent.toList = [event] := by rw [hevent]; rfl
  exact hevents ▸ hnone

omit [Platform] in
/-- The second day comes into the forecast with rain, and neither refresh derives an event. -/
theorem exists_reachable_missed :
    let := plainPlatform
    Reachable Sample.weatherConfig Sample.secondForecast.2 ∧
      (∃ message, Sample.firstForecast.1 = .completed message) ∧
      (∃ message, Sample.secondForecast.1 = .completed message) ∧
      Sample.secondForecast.2.record.activeVersionId =
        Sample.loneSession.record.activeVersionId ∧
      Sample.loneSession.record.weatherMonitor.latestSnapshotId = none ∧
      Sample.firstForecast.2.lastEvent = none ∧ Sample.secondForecast.2.lastEvent = none ∧
      ∃ version, activeVersion Sample.secondForecast.2.record = .ok version ∧
        ¬ NoneMissed [] (tripDates version) (storedRisks Sample.secondForecast.2.record) := by
  have hrun : Sample.firstForecast.1 = .completed (some "天气事实已刷新，未发现需要调整计划的变化") ∧
      Sample.secondForecast.1 = .completed (some "天气事实已刷新，未发现需要调整计划的变化") ∧
      Sample.secondForecast.2.record.activeVersionId =
        Sample.loneSession.record.activeVersionId ∧
      Sample.loneSession.record.weatherMonitor.latestSnapshotId = none ∧
      Sample.firstForecast.2.lastEvent.isNone = true ∧
      Sample.secondForecast.2.lastEvent.isNone = true ∧
      ((activeVersion Sample.secondForecast.2.record).toOption.any fun version =>
        decide (Sample.day2 ∈ tripDates version)) = true ∧
      ((riskOn (storedRisks Sample.secondForecast.2.record) Sample.day2).any fun risk =>
        decide (risk.level ≠ .normal)) = true := by decide +kernel
  obtain ⟨hfirst, hsecond, hsame, hunstored, hnoFirst, hnoSecond, hday, hrisk⟩ := hrun
  refine ⟨Sample.reachable_deliver (Sample.reachable_deliver Sample.reachable_loneSession ..) ..,
    ⟨_, hfirst⟩, ⟨_, hsecond⟩, hsame, hunstored, Option.isNone_iff_eq_none.mp hnoFirst,
    Option.isNone_iff_eq_none.mp hnoSecond, ?_⟩
  cases hactive : activeVersion Sample.secondForecast.2.record with
  | error failure =>
    rw [hactive] at hday
    cases hday
  | ok version =>
    cases hfound : riskOn (storedRisks Sample.secondForecast.2.record) Sample.day2 with
    | none =>
      rw [hfound] at hrisk
      cases hrisk
    | some risk =>
      rw [hactive] at hday
      rw [hfound] at hrisk
      refine ⟨version, rfl, fun hnone => ?_⟩
      obtain ⟨event, hevent, -⟩ := hnone Sample.day2 (of_decide_eq_true hday) risk hfound
        (of_decide_eq_true hrisk)
      cases hevent

end TravelPlanAgent
