import TravelPlanAgent.Lifecycle.AllowedActions
import TravelPlanAgent.Lifecycle.Positions
import TravelPlanAgent.Lifecycle.NodeSpecs
import TravelPlanAgent.Weather.Recorded

/-!
# Refreshes that are recorded

A refresh leaves the graph in one of eight ways.  Seven of them store the observation, and then
pruning decides whether it can be read back; the eighth finds that its own repair reaches too far
and stores nothing.

* `RecordsNode`: the condition on the two nodes that decide.
* `grounded_repair`: a repair names its items by their ids, so it is never asked about.
* `recorded_iff_from_preview`, …, `recorded_iff_from_dedup`: the run backwards from its exits.
* `recorded_iff`: a refresh that returns is recorded exactly when its nodes meet the condition.
-/

namespace TravelPlanAgent

variable [Platform]

/-! ## The condition -/

/-- Pruning keeps the snapshot and a new event, and an edit does not reach too far. -/
structure RecordsNode (config : LifecycleConfig) (session : PlanSessionRecord)
    (state : LifecycleState) (node : LifecycleNode) : Prop where
  snapshot : node = .deduplicateWeatherEvent →
    ∀ snapshot ∈ state.weatherSnapshot, SnapshotKept session snapshot
  event : node = .deduplicateWeatherEvent →
    EventKept config.weatherMaxEvents session state.weatherEvent
  reach : node = .analyzeChangeImpact → ∀ version ungrounded patch,
    activeVersion session = .ok version → state.editPatch = some ungrounded →
    groundEditPatch version.candidate ungrounded = .ok patch →
    (analyzeChangeImpact version.candidate patch (lockList session)
      config.maxAffectedDays).scope ≠ .requiresNewPlan

section Deciding

variable {config : LifecycleConfig} {session : PlanSessionRecord} {state : LifecycleState}
  {node : LifecycleNode}

/-- The reach of an edit, as it is computed. -/
theorem reach_iff : (∀ version ungrounded patch, activeVersion session = .ok version →
      state.editPatch = some ungrounded → groundEditPatch version.candidate ungrounded = .ok patch →
      (analyzeChangeImpact version.candidate patch (lockList session)
        config.maxAffectedDays).scope ≠ .requiresNewPlan) ↔
    ∀ version ∈ (activeVersion session).toOption, ∀ ungrounded ∈ state.editPatch,
      ∀ patch ∈ (groundEditPatch version.candidate ungrounded).toOption,
      (analyzeChangeImpact version.candidate patch (lockList session)
        config.maxAffectedDays).scope ≠ .requiresNewPlan := by
  constructor
  · intro h version hversion ungrounded hedit patch hpatch
    exact h version ungrounded patch (eq_ok_of_mem_toOption hversion) hedit
      (eq_ok_of_mem_toOption hpatch)
  · intro h version ungrounded patch hversion hedit hpatch
    exact h version (by rw [hversion]; rfl) ungrounded hedit patch (by rw [hpatch]; rfl)

instance : Decidable (RecordsNode config session state node) :=
  decidable_of_iff
    ((node = .deduplicateWeatherEvent → ∀ snapshot ∈ state.weatherSnapshot,
        snapshot.snapshotId ∈ keptSnapshotIds session snapshot) ∧
      (node = .deduplicateWeatherEvent → ∀ new ∈ state.weatherEvent,
        findEventByFingerprint session new.eventFingerprint = none →
          Retained config.weatherMaxEvents session new) ∧
      (node = .analyzeChangeImpact → ∀ version ∈ (activeVersion session).toOption,
        ∀ ungrounded ∈ state.editPatch,
        ∀ patch ∈ (groundEditPatch version.candidate ungrounded).toOption,
        (analyzeChangeImpact version.candidate patch (lockList session)
          config.maxAffectedDays).scope ≠ .requiresNewPlan))
    ⟨fun h => ⟨h.1, h.2.1, fun hnode => reach_iff.mpr (h.2.2 hnode)⟩,
      fun h => ⟨h.snapshot, h.event, fun hnode => reach_iff.mp (h.reach hnode)⟩⟩

end Deciding

/-! ## Repairs name their items -/

section Repairs

theorem itemId_mem_of_repairActions {trip : TripSpec}
    {items : Dict String (Calendar.Date × PlanItem)} {safeDates : List Calendar.Date}
    {alternatives : List PlanningPOI} {itemIds : List String} {actions : List WeatherRepairAction}
    (h : repairActions trip items safeDates alternatives itemIds = some actions) :
    ∀ action ∈ actions, action.itemId ∈ items.keys := by
  induction itemIds generalizing alternatives actions with
  | nil =>
    cases h
    exact fun _ hmem => absurd hmem List.not_mem_nil
  | cons itemId rest ih =>
    unfold repairActions at h
    obtain ⟨located, hlocated, h⟩ := Option.bind_eq_some_iff.mp h
    obtain ⟨⟨action, left⟩, haction, h⟩ := Option.bind_eq_some_iff.mp h
    obtain ⟨others, hothers, h⟩ := Option.bind_eq_some_iff.mp h
    cases h
    have hid : action.itemId = itemId := by
      unfold repairAction at haction
      split at haction
      · obtain ⟨target, -, heq⟩ := Option.map_eq_some_iff.mp haction
        cases heq
        rfl
      · split at haction <;> cases haction <;> rfl
    intro other hmem
    rcases List.mem_cons.mp hmem with rfl | hmem
    · rw [hid]
      exact Dict.mem_keys_of_get? hlocated
    · exact ih hothers other hmem

/-- A repair names scheduled items by their ids, so it is grounded as it stands. -/
theorem grounded_repair {eventId baseVersionId : String} {trip : TripSpec}
    {candidate : PlanCandidate} {impact : WeatherImpactResult} {risks : List DailyWeatherRisk}
    {alternatives : List PlanningPOI} {locks : List PlanLock} {repair : WeatherRepairPlan}
    (h : buildWeatherRepairPlan eventId baseVersionId trip candidate impact risks alternatives
      locks = some repair) :
    groundEditPatch candidate (repairPlanToEditPatch repair) =
      .ok (repairPlanToEditPatch repair) := by
  unfold buildWeatherRepairPlan at h
  obtain ⟨actions, hactions, h⟩ := Option.bind_eq_some_iff.mp h
  split at h
  · cases h
  · cases h
    have hknown (action : WeatherRepairAction) (hmem : action ∈ actions) :
        action.itemId ∈ (identifiedItems candidate).map Prod.fst := by
      have hkey := itemId_mem_of_repairActions hactions action hmem
      obtain ⟨entry, hentry, hid⟩ := List.mem_map.mp (Dict.mem_keys_ofList.mp hkey)
      obtain ⟨located, hlocated, hsome⟩ := List.mem_filterMap.mp hentry
      obtain ⟨itemId, hitem, rfl⟩ := Option.map_eq_some_iff.mp hsome
      refine List.mem_map.mpr ⟨(itemId, located), List.mem_filterMap.mpr ⟨located, hlocated, ?_⟩,
        hid⟩
      dsimp only
      rw [hitem]
      rfl
    have hoperations (operation : EditOperation)
        (hmem : operation ∈ (repairPlanToEditPatch ⟨eventId, baseVersionId, impact.affectedDates,
          actions, ["poi.search", "route.delta"], (candidate.days.filter fun day =>
            decide (day.date ∈ impact.preservedDates)).map
              fun day => (day.date.isoformat, dayFingerprint day)⟩).operations) :
        groundOperation candidate operation = .ok operation := by
      obtain ⟨action, haction, rfl⟩ := List.mem_map.mp hmem
      have hitem := hknown action haction
      cases hkind : action.kind <;> simp only [groundOperation, if_pos hitem]
    unfold groundEditPatch
    rw [mapM_eq_ok.mpr (List.forall₂_same.mpr hoperations)]
    rfl

end Repairs

/-! ## The run backwards -/

/-- The state of a refresh once its risks are classified. -/
structure Observing (state : LifecycleState) (snapshot : WeatherSnapshot)
    (event : Option ChangeEvent) : Prop where
  fetched : state.weatherSnapshot = some snapshot
  classified : state.weatherRisks.getD [] = classifyForecast snapshot.days
  derived : state.weatherEvent = event

section Backwards

variable {config : LifecycleConfig} {services : ℕ → LifecycleServices} {fuel : ℕ}
  {session record after : PlanSessionRecord} {state stateAfter : LifecycleState}
  {node : LifecycleNode} {payload : InterruptPayload} {snapshot : WeatherSnapshot}
  {event : ChangeEvent}

/-- The nodes that decide nothing meet the condition. -/
theorem recordsNode_of_ne (hdeduplicate : node ≠ .deduplicateWeatherEvent)
    (hanalyze : node ≠ .analyzeChangeImpact) : RecordsNode config session state node :=
  ⟨fun h => absurd h hdeduplicate, fun h => absurd h hdeduplicate, fun h => absurd h hanalyze⟩

theorem everyNode_awaitUserAction :
    EveryNode config (fun _ => RecordsNode config) services fuel session state
      .awaitUserAction := by
  cases fuel with
  | zero => trivial
  | succ fuel =>
    refine ⟨recordsNode_of_ne nofun nofun, ?_⟩
    split
    · trivial
    · next hstep => exact absurd rfl (stepNode_eq_next hstep).acts

/-- A run goes on from a node that decides nothing, and so does its condition. -/
theorem exists_handsOn_of_ne
    (hrun : runNodes config services fuel session state node = .paused after stateAfter payload)
    (hacts : node ≠ .awaitUserAction) (hdeduplicate : node ≠ .deduplicateWeatherEvent)
    (hanalyze : node ≠ .analyzeChangeImpact) :
    ∃ rest record₁ state₁ node₁,
      HandsOn config (services rest) session state node record₁ state₁ node₁ ∧
      runNodes config services rest record₁ state₁ node₁ = .paused after stateAfter payload ∧
      (EveryNode config (fun _ => RecordsNode config) services fuel session state node ↔
        EveryNode config (fun _ => RecordsNode config) services rest record₁ state₁ node₁) := by
  obtain ⟨rest, record₁, state₁, node₁, hands, hrest, hevery⟩ :=
    exists_handsOn_of_paused (fun _ => RecordsNode config) hrun hacts
  refine ⟨rest, record₁, state₁, node₁, hands, hrest, hevery.trans ?_⟩
  exact and_iff_right (recordsNode_of_ne hdeduplicate hanalyze)

omit [Platform] in
theorem shows_persistWeatherTerminal {request : LifecycleResumeRequest}
    {risks : List DailyWeatherRisk} {outcome : WeatherRefreshOutcome} {stored : Option ChangeEvent}
    {status : Option WeatherEventStatus} {message : String} {before : PlanSessionRecord}
    {last : LifecycleState}
    (h : persistWeatherTerminal config state before request snapshot risks outcome stored status
      message = .saved after last) :
    Shows (persistWeatherObservation before snapshot risks outcome stored status
      config.weatherMaxEvents) after := by
  cases h
  exact ⟨rfl, rfl, rfl, rfl, rfl, fun _ _ => Iff.rfl⟩

/-- A refresh that ends at a node is recorded when pruning keeps it. -/
theorem recorded_iff_of_saved {derived stored : Option ChangeEvent}
    {status : Option WeatherEventStatus} {outcome : WeatherRefreshOutcome}
    {request : LifecycleResumeRequest} {message : String} {record₁ : PlanSessionRecord}
    {state₁ : LifecycleState} {node₁ : LifecycleNode} (hstate : Observing state snapshot derived)
    (hreports : Reports session derived stored status outcome)
    (heq : NodeOutcome.saved record₁ state₁ = persistWeatherTerminal config state session
      request snapshot (state.weatherRisks.getD []) outcome stored status message)
    (hwaits : ∀ last : LifecycleState, last.weatherDecision = some .terminal →
      nextNode last node = .ok .awaitUserAction)
    (hedge : nextNode state₁ node = .ok node₁)
    (hrest : runNodes config services fuel record₁ state₁ node₁ =
      .paused after stateAfter payload) :
    Recorded session after snapshot (classifyForecast snapshot.days) derived ↔
      (SnapshotKept session snapshot ∧ EventKept config.weatherMaxEvents session derived) ∧
        EveryNode config (fun _ => RecordsNode config) services fuel record₁ state₁ node₁ := by
  have hshows := shows_persistWeatherTerminal heq.symm
  cases heq
  obtain rfl : node₁ = .awaitUserAction :=
    (Except.ok.inj ((hwaits _ rfl).symm.trans hedge)).symm
  obtain ⟨rfl, -⟩ := eq_of_paused_awaitUserAction hrest
  rw [and_iff_left everyNode_awaitUserAction, ← hstate.classified]
  exact recorded_iff_of_observation hreports hshows

/-- A preview keeps what was observed, and its receipt names it besides. -/
theorem shows_storePreview {request : LifecycleResumeRequest} {preview : PlanPreview}
    {valid : Bool} (hstate : Observing state snapshot (some event))
    (h : storePreview config state session request preview valid = .ok record) :
    Shows (persistWeatherObservation session snapshot (classifyForecast snapshot.days)
      (if valid then .previewCreated else .needsUserAttention) (some event)
      (some (if valid then .previewCreated else .needsUserAttention)) config.weatherMaxEvents)
      record := by
  have hobserved : observePreviewWeather config state session valid =
      persistWeatherObservation session snapshot (classifyForecast snapshot.days)
        (if valid then .previewCreated else .needsUserAttention) (some event)
        (some (if valid then .previewCreated else .needsUserAttention))
        config.weatherMaxEvents := by
    rw [observePreviewWeather, hstate.derived, hstate.fetched]
    dsimp only
    rw [hstate.classified]
  rw [← hobserved]
  have hstored : Shows (observePreviewWeather config state session valid)
      (storedPreview config state session request preview valid) :=
    ⟨rfl, rfl, rfl, rfl, rfl, fun _ _ => Iff.rfl⟩
  rcases storePreview_eq_ok h with ⟨-, rfl⟩ | ⟨stored, -, -, rfl⟩
  · exact hstored
  · exact hstored.updateEventReceipt stored.eventId fun _ => rfl

/-- From the preview on, a refresh is recorded when pruning keeps it. -/
theorem recorded_iff_from_preview (hstate : Observing state snapshot (some event))
    (hnew : findEventByFingerprint session event.eventFingerprint = none)
    (hrun : runNodes config services fuel session state .buildLocalPreview =
      .paused after stateAfter payload) :
    Recorded session after snapshot (classifyForecast snapshot.days) (some event) ↔
      (SnapshotKept session snapshot ∧ EventKept config.weatherMaxEvents session (some event)) ∧
        EveryNode config (fun _ => RecordsNode config) services fuel session state
          .buildLocalPreview := by
  obtain ⟨rest, record₁, state₁, node₁, hands, hrest, hevery⟩ :=
    exists_handsOn_of_ne hrun nofun nofun nofun
  obtain rfl : node₁ = .awaitUserAction := (Except.ok.inj hands.edge).symm
  obtain ⟨rfl, -⟩ := eq_of_paused_awaitUserAction hrest
  rw [and_iff_left (hevery.mpr everyNode_awaitUserAction)]
  rcases hands.exec with ⟨hexec, -⟩ | hexec
  · obtain ⟨_, _, _, _, _, _, _, _, -, heq⟩ := buildPreview_eq_ok hexec
    cases heq
  · obtain ⟨request, planning, version, patch, plan, preview, stored, last, hbuilt, heq⟩ :=
      buildPreview_eq_ok hexec
    cases heq
    have hshows := shows_storePreview hstate hbuilt.stored
    refine recorded_iff_of_observation (.new event _ _ hnew ?_) hshows
    split
    · exact .previewCreated
    · exact .needsUserAttention

omit [Platform] in
/-- An event that was not seen before is not in the record. -/
theorem get?_ne_of_new (hnew : findEventByFingerprint session event.eventFingerprint = none) :
    session.weatherEvents.get? event.eventId ≠ some event := by
  intro hget
  have hnone := List.find?_eq_none.mp hnew event (Dict.mem_values_iff.mpr ⟨_, hget⟩)
  exact hnone (decide_eq_true rfl)

/-- From the impact of its repair on, a refresh is recorded when besides the repair does not reach
too far. -/
theorem recorded_iff_from_impact (hstate : Observing state snapshot (some event))
    (hnew : findEventByFingerprint session event.eventFingerprint = none)
    (hgrounded : ∀ version ungrounded, activeVersion session = .ok version →
      state.editPatch = some ungrounded →
      groundEditPatch version.candidate ungrounded = .ok ungrounded)
    (hrun : runNodes config services fuel session state .analyzeChangeImpact =
      .paused after stateAfter payload) :
    Recorded session after snapshot (classifyForecast snapshot.days) (some event) ↔
      (SnapshotKept session snapshot ∧ EventKept config.weatherMaxEvents session (some event)) ∧
        EveryNode config (fun _ => RecordsNode config) services fuel session state
          .analyzeChangeImpact := by
  obtain ⟨rest, record₁, state₁, node₁, hands, hrest, hevery⟩ :=
    exists_handsOn_of_paused (fun _ => RecordsNode config) hrun nofun
  rw [hevery]
  rcases hands.exec with ⟨hexec, rfl⟩ | hexec
  · obtain ⟨request, version, ungrounded, -, hactive, hedits, himpact⟩ :=
      analyzeImpact_eq_ok hexec
    cases himpact with
    | local_ patch impact grounded scope =>
      obtain rfl : node₁ = .buildLocalPreview := (Except.ok.inj hands.edge).symm
      have hreach : RecordsNode config record₁ state .analyzeChangeImpact := by
        refine ⟨nofun, nofun, fun _ version' ungrounded' patch' hactive' hedits' hground' => ?_⟩
        rw [hactive] at hactive'
        rw [hedits] at hedits'
        cases hactive'
        cases hedits'
        rw [grounded] at hground'
        cases hground'
        exact scope
      have hobserving : Observing
          { state with
            editPatch := some patch, impactResult := some impact, status := .buildingPreview }
          snapshot (some event) := ⟨hstate.fetched, hstate.classified, hstate.derived⟩
      rw [and_iff_right hreach]
      exact recorded_iff_from_preview hobserving hnew hrest
  · obtain ⟨request, version, ungrounded, -, hactive, hedits, himpact⟩ :=
      analyzeImpact_eq_ok hexec
    have hground := hgrounded version ungrounded hactive hedits
    generalize hsaved : NodeOutcome.saved record₁ state₁ = outcome at himpact
    cases himpact with
    | asked code message unclear round =>
      rw [hground] at unclear
      cases unclear
    | tooFar patch grounded scope last status =>
      cases hsaved
      obtain rfl : node₁ = .awaitUserAction := by
        have hedge := hands.edge
        rw [nextNode, if_pos (.inl status)] at hedge
        exact (Except.ok.inj hedge).symm
      obtain ⟨rfl, -⟩ := eq_of_paused_awaitUserAction hrest
      refine iff_of_false (fun hrecorded => ?_) (fun h => ?_)
      · -- The record is as before up to the status, and the event is not in it.
        cases hrecorded.outcome with
        | duplicate _ existing known noted =>
          rw [hnew] at known
          cases known
        | new _ receipt outcome new_ stored receipted fits noted =>
          exact get?_ne_of_new hnew stored
      · exact h.2.1.reach rfl version ungrounded patch hactive hedits grounded scope
    | local_ => cases hsaved

/-- From its repair on. -/
theorem recorded_iff_from_repair (hstate : Observing state snapshot (some event))
    (hnew : findEventByFingerprint session event.eventFingerprint = none)
    (hrun : runNodes config services fuel session state .buildWeatherRepairPlan =
      .paused after stateAfter payload) :
    Recorded session after snapshot (classifyForecast snapshot.days) (some event) ↔
      (SnapshotKept session snapshot ∧ EventKept config.weatherMaxEvents session (some event)) ∧
        EveryNode config (fun _ => RecordsNode config) services fuel session state
          .buildWeatherRepairPlan := by
  obtain ⟨rest, record₁, state₁, node₁, hands, hrest, hevery⟩ :=
    exists_handsOn_of_ne hrun nofun nofun nofun
  rw [hevery]
  rcases hands.exec with ⟨hexec, rfl⟩ | hexec
  · obtain ⟨request, snapshot', event', -, hfetched, hderived, hbuilt⟩ :=
      buildWeatherRepair_eq_ok hexec
    rw [hstate.fetched] at hfetched
    rw [hstate.derived] at hderived
    cases hfetched
    cases hderived
    cases hbuilt with
    | planned planning version impact alternatives repair active impacted built =>
      obtain rfl : node₁ = .analyzeChangeImpact := (Except.ok.inj hands.edge).symm
      refine recorded_iff_from_impact ⟨hstate.fetched, hstate.classified, hstate.derived⟩ hnew
        (fun version' ungrounded hactive hedits => ?_) hrest
      rw [active] at hactive
      cases hactive
      cases hedits
      exact grounded_repair built
  · obtain ⟨request, snapshot', event', -, hfetched, hderived, hbuilt⟩ :=
      buildWeatherRepair_eq_ok hexec
    rw [hstate.fetched] at hfetched
    rw [hstate.derived] at hderived
    cases hfetched
    cases hderived
    generalize hsaved : NodeOutcome.saved record₁ state₁ = outcome at hbuilt
    cases hbuilt with
    | attention message =>
      exact recorded_iff_of_saved hstate (.new event _ _ hnew .needsUserAttention) hsaved
        (fun last hlast => by rw [nextNode, hlast]; rfl) hands.edge hrest
    | planned => cases hsaved

/-- From the impact of its event on. -/
theorem recorded_iff_from_analysis (hstate : Observing state snapshot (some event))
    (hnew : findEventByFingerprint session event.eventFingerprint = none)
    (hrun : runNodes config services fuel session state .analyzeWeatherImpact =
      .paused after stateAfter payload) :
    Recorded session after snapshot (classifyForecast snapshot.days) (some event) ↔
      (SnapshotKept session snapshot ∧ EventKept config.weatherMaxEvents session (some event)) ∧
        EveryNode config (fun _ => RecordsNode config) services fuel session state
          .analyzeWeatherImpact := by
  obtain ⟨rest, record₁, state₁, node₁, hands, hrest, hevery⟩ :=
    exists_handsOn_of_ne hrun nofun nofun nofun
  rw [hevery]
  rcases hands.exec with ⟨hexec, rfl⟩ | hexec
  · obtain ⟨request, version, snapshot', event', -, -, -, -, hanalyzed⟩ :=
      analyzeWeatherChangeImpact_eq_ok hexec
    cases hanalyzed with
    | repair =>
      obtain rfl : node₁ = .buildWeatherRepairPlan := (Except.ok.inj hands.edge).symm
      exact recorded_iff_from_repair ⟨hstate.fetched, hstate.classified, hstate.derived⟩ hnew
        hrest
  · obtain ⟨request, version, snapshot', event', -, -, hfetched, hderived, hanalyzed⟩ :=
      analyzeWeatherChangeImpact_eq_ok hexec
    rw [hstate.fetched] at hfetched
    rw [hstate.derived] at hderived
    cases hfetched
    cases hderived
    generalize hsaved : NodeOutcome.saved record₁ state₁ = outcome at hanalyzed
    cases hanalyzed with
    | unaffected message noItem noAttention =>
      exact recorded_iff_of_saved hstate (.new event _ _ hnew .noPlanImpact) hsaved
        (fun last hlast => by rw [nextNode, hlast]; rfl) hands.edge hrest
    | attention message needs =>
      exact recorded_iff_of_saved hstate (.new event _ _ hnew .needsUserAttention) hsaved
        (fun last hlast => by rw [nextNode, hlast]; rfl) hands.edge hrest
    | repair => cases hsaved

/-- From the comparison with the events that are known. -/
theorem recorded_iff_from_dedup {derived : Option ChangeEvent}
    (hstate : Observing state snapshot derived)
    (hrun : runNodes config services fuel session state .deduplicateWeatherEvent =
      .paused after stateAfter payload) :
    Recorded session after snapshot (classifyForecast snapshot.days) derived ↔
      EveryNode config (fun _ => RecordsNode config) services fuel session state
        .deduplicateWeatherEvent := by
  obtain ⟨rest, record₁, state₁, node₁, hands, hrest, hevery⟩ :=
    exists_handsOn_of_paused (fun _ => RecordsNode config) hrun nofun
  have hnode : RecordsNode config session state .deduplicateWeatherEvent ↔
      SnapshotKept session snapshot ∧ EventKept config.weatherMaxEvents session derived := by
    constructor
    · intro h
      exact ⟨h.snapshot rfl snapshot hstate.fetched, hstate.derived ▸ h.event rfl⟩
    · rintro ⟨hsnapshot, hevent⟩
      refine ⟨fun _ fetched hfetched => ?_, fun _ => hstate.derived ▸ hevent, nofun⟩
      rw [hstate.fetched] at hfetched
      cases hfetched
      exact hsnapshot
  rw [hevery, hnode]
  rcases hands.exec with ⟨hexec, rfl⟩ | hexec
  · obtain ⟨request, snapshot', -, -, hdeduplicated⟩ := deduplicateWeatherEvent_eq_ok hexec
    cases hdeduplicated with
    | analyze event hderived hnew =>
      obtain rfl : node₁ = .analyzeWeatherImpact := (Except.ok.inj hands.edge).symm
      rw [hstate.derived] at hderived
      subst hderived
      exact recorded_iff_from_analysis ⟨hstate.fetched, hstate.classified, hstate.derived⟩ hnew
        hrest
  · obtain ⟨request, snapshot', -, hfetched, hdeduplicated⟩ := deduplicateWeatherEvent_eq_ok hexec
    rw [hstate.fetched] at hfetched
    cases hfetched
    have hwaits (last : LifecycleState) (hlast : last.weatherDecision = some .terminal) :
        nextNode last .deduplicateWeatherEvent = .ok .awaitUserAction := by
      rw [nextNode, hlast]
      rfl
    generalize hsaved : NodeOutcome.saved record₁ state₁ = outcome at hdeduplicated
    cases hdeduplicated with
    | unchanged message hnone =>
      obtain rfl : derived = none := hstate.derived.symm.trans hnone
      exact recorded_iff_of_saved hstate .unchanged hsaved hwaits hands.edge hrest
    | duplicate event existing message hsome hknown =>
      obtain rfl : derived = some event := hstate.derived.symm.trans hsome
      exact recorded_iff_of_saved hstate (.duplicate event existing hknown) hsaved hwaits
        hands.edge hrest
    | recovered event message hsome hnew hkind =>
      obtain rfl : derived = some event := hstate.derived.symm.trans hsome
      exact recorded_iff_of_saved hstate (.new event _ _ hnew (.recovered hkind)) hsaved hwaits
        hands.edge hrest
    | analyze => cases hsaved

/-- A refresh that runs to its end fetched a snapshot and derived an event from it, and is recorded
exactly when its nodes meet the condition. -/
theorem recorded_iff_of_run
    (hrun : runNodes config services fuel session state .resolveWeatherLocation =
      .paused after stateAfter payload) :
    ∃ snapshot derived version m n, Fetched (services m) session snapshot ∧
      activeVersion session = .ok version ∧
      derived = derivedEvent (services n) session version snapshot
        (classifyForecast snapshot.days) ∧
      (Recorded session after snapshot (classifyForecast snapshot.days) derived ↔
        EveryNode config (fun _ => RecordsNode config) services fuel session state
          .resolveWeatherLocation) := by
  obtain ⟨resolving, record₁, state₁, node₁, hands₁, hrest₁, hevery₁⟩ :=
    exists_handsOn_of_ne hrun nofun nofun nofun
  obtain rfl : node₁ = .fetchWeatherSnapshot := (Except.ok.inj hands₁.edge).symm
  obtain rfl : record₁ = session := by
    rcases hands₁.exec with ⟨-, hrecord⟩ | hexec
    · exact hrecord
    · rcases resolveWeatherLocation_eq_ok hexec with ⟨_, heq⟩ | ⟨_, _, heq⟩ <;> cases heq
  obtain ⟨fetching, record₂, state₂, node₂, hands₂, hrest₂, hevery₂⟩ :=
    exists_handsOn_of_ne hrest₁ nofun nofun nofun
  obtain rfl : node₂ = .classifyWeatherRisks := (Except.ok.inj hands₂.edge).symm
  obtain ⟨snapshot, hfetched, rfl, rfl⟩ : ∃ snapshot, Fetched (services fetching) record₁
      snapshot ∧ state₂ = { state₁ with weatherSnapshot := some snapshot } ∧
        record₂ = record₁ := by
    rcases hands₂.exec with ⟨hexec, hrecord⟩ | hexec <;>
      rcases fetchWeatherSnapshot_eq_ok hexec with ⟨snapshot, hfetched, heq⟩ | ⟨_, _, heq⟩ <;>
      cases heq
    exact ⟨snapshot, hfetched, rfl, hrecord⟩
  obtain ⟨classifying, record₃, state₃, node₃, hands₃, hrest₃, hevery₃⟩ :=
    exists_handsOn_of_ne hrest₂ nofun nofun nofun
  obtain rfl : node₃ = .deriveWeatherEvent := (Except.ok.inj hands₃.edge).symm
  obtain ⟨hclassified, hstored, rfl⟩ :
      state₃.weatherRisks.getD [] = classifyForecast snapshot.days ∧
        state₃.weatherSnapshot = some snapshot ∧ record₃ = record₂ := by
    rcases hands₃.exec with ⟨hexec, hrecord⟩ | hexec <;>
      obtain ⟨fetched, hsome, heq⟩ := classifyWeatherRisks_eq_ok hexec <;> cases heq
    cases hsome
    exact ⟨rfl, rfl, hrecord⟩
  obtain ⟨deriving_, record₄, state₄, node₄, hands₄, hrest₄, hevery₄⟩ :=
    exists_handsOn_of_ne hrest₃ nofun nofun nofun
  obtain rfl : node₄ = .deduplicateWeatherEvent := (Except.ok.inj hands₄.edge).symm
  obtain ⟨version, hactive, rfl, rfl⟩ : ∃ version, activeVersion record₃ = .ok version ∧
      state₄ = { state₃ with
        weatherEvent := derivedEvent (services deriving_) record₃ version snapshot
          (classifyForecast snapshot.days) } ∧ record₄ = record₃ := by
    rcases hands₄.exec with ⟨hexec, hrecord⟩ | hexec <;>
      obtain ⟨version, fetched, hactive, hsome, heq⟩ := deriveWeatherChange_eq_ok hexec <;>
      cases heq
    rw [hstored] at hsome
    cases hsome
    rw [hclassified]
    exact ⟨version, hactive, rfl, hrecord⟩
  refine ⟨snapshot, _, version, fetching, deriving_, hfetched, hactive, rfl, ?_⟩
  rw [hevery₁, hevery₂, hevery₃, hevery₄]
  exact recorded_iff_from_dedup ⟨hstored, hclassified, rfl⟩ hrest₄

end Backwards

/-! ## Requests -/

section Requests

variable {config : LifecycleConfig} {session : PlanSession} {request : LifecycleResumeRequest}
  {message : Option String}

/-- Every refresh that returns is recorded, provided that its snapshot is one of the two newest,
that a new event is one of the newest, and that its repair does not reach too far; otherwise it is
not. -/
theorem recorded_iff (requirements : String → Result RequirementOutcome)
    (services : ℕ → LifecycleServices) (interruptId : String)
    (hrefresh : request.action = .refreshWeather)
    (hcompleted : (resume config requirements services interruptId session request).1 =
      .completed message) :
    ∃ snapshot derived version m n, Fetched (services m) session.record snapshot ∧
      activeVersion session.record = .ok version ∧
      derived = derivedEvent (services n) session.record version snapshot
        (classifyForecast snapshot.days) ∧
      (Recorded session.record
          (resume config requirements services interruptId session request).2.record snapshot
          (classifyForecast snapshot.days) derived ↔
        EveryNodeOf config (fun _ => RecordsNode config) services session request) := by
  have hroute : routeAction request.action = .ok .resolveWeatherLocation := by
    rw [hrefresh]
    rfl
  obtain ⟨state, oldId, oldPayload, stateAfter, payload, hthread, hrun, -⟩ :=
    exists_run_of_completed hroute hcompleted
  obtain ⟨snapshot, derived, version, m, n, hfetched, hactive, hderived, hiff⟩ :=
    recorded_iff_of_run hrun
  refine ⟨snapshot, derived, version, m, n, hfetched, hactive, hderived, hiff.trans ?_⟩
  constructor
  · intro hevery state' id payload' node hthread' hroute'
    rw [hthread] at hthread'
    rw [hroute] at hroute'
    cases hthread'
    cases hroute'
    exact hevery
  · exact fun hevery => hevery _ _ _ _ hthread hroute

end Requests

/-! ## A park in the rain -/

namespace Sample

omit [Platform]

/-- An edit may touch one day only. -/
def oneDayConfig : LifecycleConfig := { weatherConfig with maxAffectedDays := 1 }

/-- A planning whose only visit is a park that must be visited, on the first day. -/
def parkSnapshot : PlanningSnapshot :=
  let place := poi "a" 1 60
  { snapshotOf [⟨"balanced-r0", .balanced, [⟨day1, ["a"]⟩, ⟨day2, []⟩]⟩]
      [{ place with facts := { place.facts with categories := ["公园"] } }] with
    trip := { trip with mustVisit := ["a"] } }

/-- The park, selected. -/
def parkSession : PlanSession :=
  (@resume plainPlatform oneDayConfig (fun _ => .error .editUnavailable) (fun _ => services)
    "after r1" (startLifecycle services "i1" (.created "s" .awaitingCandidateSelection
      (some parkSnapshot) none)) (request "i1" "r1" .acceptRecommendation)).2

/-- Rain on the first day only, so that the visit should move to the second one; no place to go
instead is found. -/
def parkServices : LifecycleServices :=
  let services := weatherServices (at_ day1 8) [weatherOn day1 .rain, weatherOn day2 .clear]
  { services with
    tools := { services.tools with searchPoi := fun _ => .ok (.success [] none none) } }

def parkRefresh : ResumeReply × PlanSession :=
  @resume plainPlatform oneDayConfig (fun _ => .error .editUnavailable) (fun _ => parkServices)
    "after r2" parkSession (request "after r1" "r2" .refreshWeather)

end Sample

omit [Platform] in
/-- The first alert of a session is recorded: nothing has to be pruned, and nothing is repaired. -/
theorem recorded_iff_alerted :
    let := plainPlatform
    ∃ snapshot derived, Recorded Sample.loneSession.record Sample.alertedSession.record snapshot
      (classifyForecast snapshot.days) derived := by
  let services := fun _ : ℕ =>
    Sample.weatherServices (Sample.at_ Sample.day1 8) [Sample.weatherOn Sample.day1 .rain]
  let refresh := Sample.request "after r1" "r2" .refreshWeather
  have hevery : @EveryNodeOf plainPlatform Sample.weatherConfig
      (fun _ => @RecordsNode plainPlatform Sample.weatherConfig) services
      Sample.loneSession refresh := by
    decide +kernel
  obtain ⟨snapshot, derived, -, -, -, -, -, -, hiff⟩ := @recorded_iff plainPlatform
    Sample.weatherConfig Sample.loneSession refresh
    (some "天气影响涉及锁定或未知活动，请先确认后再修改计划") (fun _ => .error .editUnavailable)
    services "after r2" rfl (by decide +kernel)
  exact ⟨snapshot, derived, hiff.mpr hevery⟩

omit [Platform] in
/-- The repair would move a visit from the first day to the second, which is one day too many: the
refresh returns, and neither its snapshot nor its outcome nor its event is in the record. -/
theorem exists_reachable_not_recorded :
    let := plainPlatform
    let after := Sample.parkRefresh.2.record
    Reachable Sample.oneDayConfig Sample.parkSession ∧
      (∃ message, Sample.parkRefresh.1 = .completed message) ∧
      after.status = .requiresNewPlan ∧ after.weatherMonitor.lastOutcome = none ∧
      after.weatherEvents.keys = [] ∧
      ∀ snapshot risks event,
        ¬ Recorded Sample.parkSession.record after snapshot risks event := by
  have hafter : Sample.parkRefresh.1 = .completed (some "修改范围超过局部重规划预算，请创建新计划") ∧
      Sample.parkRefresh.2.record.status = .requiresNewPlan ∧
      Sample.parkRefresh.2.record.weatherMonitor.lastOutcome = none ∧
      Sample.parkRefresh.2.record.weatherEvents.keys = [] ∧
      Sample.parkRefresh.2.record.weatherMonitor.latestSnapshotId = none := by decide +kernel
  obtain ⟨hcompleted, hstatus, houtcome, hevents, hlatest⟩ := hafter
  refine ⟨@Reachable.resumed plainPlatform _ _ _ _ _ _
    (@Reachable.created plainPlatform _ _ (.planned "s" _ _ _)), ⟨_, hcompleted⟩, hstatus,
    houtcome, hevents, fun snapshot risks event hrecorded => ?_⟩
  have hsome := hrecorded.latest
  rw [hlatest] at hsome
  cases hsome

end TravelPlanAgent
