import TravelPlanAgent.Weather.Attention

/-!
# What a refresh leaves in the record

A refresh that was recorded can be read back: its snapshot and its risks under the id that the
monitor calls the latest, its outcome, and its event with a receipt.  Pruning decides whether
that is so.

* `OutcomeOf`, `Reports`: what a refresh stores for the event that it derived.
* `SnapshotKept`, `EventKept`: what pruning has to keep.
* `Recorded`: the record shows the refresh.
* `recorded_iff_of_observation`: an observation shows exactly when pruning keeps it.
-/

namespace TravelPlanAgent

/-! ## What is reported -/

/-- The outcome of a refresh that stores its event under a status. -/
inductive OutcomeOf (event : ChangeEvent) : WeatherEventStatus → WeatherRefreshOutcome → Prop where
  | recovered (kind : event.kind = .weatherRecovered) : OutcomeOf event .noPlanImpact .recovered
  | noPlanImpact : OutcomeOf event .noPlanImpact .noPlanImpact
  | needsUserAttention : OutcomeOf event .needsUserAttention .needsUserAttention
  | previewCreated : OutcomeOf event .previewCreated .previewCreated

/-- What a refresh stores for the event that it derived: nothing, the event as it is known
already, or a new event with its status. -/
inductive Reports (before : PlanSessionRecord) :
    Option ChangeEvent → Option ChangeEvent → Option WeatherEventStatus →
    WeatherRefreshOutcome → Prop where
  | unchanged : Reports before none none none .noChange
  | duplicate (derived existing : ChangeEvent)
      (known : findEventByFingerprint before derived.eventFingerprint = some existing) :
      Reports before (some derived) (some existing) none .duplicate
  | new (event : ChangeEvent) (status : WeatherEventStatus) (outcome : WeatherRefreshOutcome)
      (new_ : findEventByFingerprint before event.eventFingerprint = none)
      (fits : OutcomeOf event status outcome) :
      Reports before (some event) (some event) (some status) outcome

/-- The last outcome belongs to the event that a refresh derived, and an event that was not seen
before is stored with a receipt. -/
inductive OutcomeNoted (before after : PlanSessionRecord) : Option ChangeEvent → Prop where
  | unchanged (noted : after.weatherMonitor.lastOutcome = some .noChange) :
      OutcomeNoted before after none
  | duplicate (event existing : ChangeEvent)
      (known : findEventByFingerprint before event.eventFingerprint = some existing)
      (noted : after.weatherMonitor.lastOutcome = some .duplicate) :
      OutcomeNoted before after (some event)
  | new (event : ChangeEvent) (receipt : WeatherEventReceipt) (outcome : WeatherRefreshOutcome)
      (new_ : findEventByFingerprint before event.eventFingerprint = none)
      (stored : after.weatherEvents.get? event.eventId = some event)
      (receipted : after.weatherMonitor.eventReceipts.get? event.eventId = some receipt)
      (fits : OutcomeOf event receipt.status outcome)
      (noted : after.weatherMonitor.lastOutcome = some outcome) :
      OutcomeNoted before after (some event)

/-- The record shows a refresh. -/
structure Recorded (before after : PlanSessionRecord) (snapshot : WeatherSnapshot)
    (risks : List DailyWeatherRisk) (event : Option ChangeEvent) : Prop where
  latest : after.weatherMonitor.latestSnapshotId = some snapshot.snapshotId
  stored : after.weatherSnapshots.get? snapshot.snapshotId = some snapshot
  classified : after.weatherRisks.get? snapshot.snapshotId = some risks
  outcome : OutcomeNoted before after event

/-! ## What pruning keeps -/

/-- The two snapshots that are kept once a new one is there. -/
def keptSnapshotIds (before : PlanSessionRecord) (snapshot : WeatherSnapshot) : List String :=
  (newest WeatherSnapshot.fetchedAt 2
    (before.weatherSnapshots.set snapshot.snapshotId snapshot).values).map
      WeatherSnapshot.snapshotId

/-- A new snapshot is one of the two that are kept. -/
def SnapshotKept (before : PlanSessionRecord) (snapshot : WeatherSnapshot) : Prop :=
  snapshot.snapshotId ∈ keptSnapshotIds before snapshot

/-- An event that was not seen before is kept. -/
def EventKept (maxEvents : ℕ) (before : PlanSessionRecord) (event : Option ChangeEvent) : Prop :=
  ∀ new ∈ event, findEventByFingerprint before new.eventFingerprint = none →
    Retained maxEvents before new

section Observation

variable {before after : PlanSessionRecord} {snapshot : WeatherSnapshot}
  {risks : List DailyWeatherRisk} {outcome : WeatherRefreshOutcome}
  {derived event : Option ChangeEvent} {status : Option WeatherEventStatus} {maxEvents : ℕ}

variable (before snapshot risks outcome event status maxEvents) in
/-- Storing the event touches neither the snapshots nor what the monitor says about them. -/
theorem observation_storeSnapshot :
    let stored := storeSnapshot before snapshot risks outcome
    let observed := persistWeatherObservation before snapshot risks outcome event status maxEvents
    observed.weatherSnapshots = stored.weatherSnapshots ∧
      observed.weatherRisks = stored.weatherRisks ∧
      observed.weatherMonitor.latestSnapshotId = some snapshot.snapshotId ∧
      observed.weatherMonitor.lastOutcome = some outcome := by
  have htrim (session : PlanSessionRecord) :
      (trimEvents session maxEvents).weatherSnapshots = session.weatherSnapshots ∧
      (trimEvents session maxEvents).weatherRisks = session.weatherRisks ∧
      (trimEvents session maxEvents).weatherMonitor.latestSnapshotId =
        session.weatherMonitor.latestSnapshotId ∧
      (trimEvents session maxEvents).weatherMonitor.lastOutcome =
        session.weatherMonitor.lastOutcome := by
    unfold trimEvents
    split <;> exact ⟨rfl, rfl, rfl, rfl⟩
  unfold persistWeatherObservation
  cases event with
  | none => exact htrim _
  | some event =>
    cases status with
    | none => exact htrim _
    | some status => exact htrim _

variable (before snapshot risks outcome event status maxEvents) in
/-- A snapshot and its risks can be read back exactly when the snapshot is kept. -/
theorem snapshot_observation_iff :
    let observed := persistWeatherObservation before snapshot risks outcome event status maxEvents
    (observed.weatherSnapshots.get? snapshot.snapshotId = some snapshot ∧
        observed.weatherRisks.get? snapshot.snapshotId = some risks) ↔
      SnapshotKept before snapshot := by
  obtain ⟨hsnapshots, hrisks, -, -⟩ :=
    observation_storeSnapshot before snapshot risks outcome event status maxEvents
  dsimp only
  rw [hsnapshots, hrisks]
  change ((before.weatherSnapshots.set snapshot.snapshotId snapshot).filterKeys
      (fun key => decide (key ∈ keptSnapshotIds before snapshot))).get? snapshot.snapshotId =
        some snapshot ∧
    ((before.weatherRisks.set snapshot.snapshotId risks).filterKeys
      (fun key => decide (key ∈ keptSnapshotIds before snapshot))).get? snapshot.snapshotId =
        some risks ↔ _
  rw [Dict.get?_filterKeys, Dict.get?_filterKeys, Dict.get?_set_self, Dict.get?_set_self]
  unfold SnapshotKept
  by_cases hkept : snapshot.snapshotId ∈ keptSnapshotIds before snapshot
  · rw [if_pos (decide_eq_true hkept), if_pos (decide_eq_true hkept)]
    exact iff_of_true ⟨rfl, rfl⟩ hkept
  · rw [if_neg (by simpa using hkept)]
    exact iff_of_false (fun h => by cases h.1) hkept

section Event

variable {new : ChangeEvent} {newStatus : WeatherEventStatus}

/-- A new event can be read back exactly when it is kept. -/
theorem event_observation_iff :
    (persistWeatherObservation before snapshot risks outcome (some new) (some newStatus)
      maxEvents).weatherEvents.get? new.eventId = some new ↔ Retained maxEvents before new := by
  -- The events before pruning.
  let stored := storeEvent (storeSnapshot before snapshot risks outcome) new (some newStatus)
  have hget : stored.weatherEvents.get? new.eventId = some new := Dict.get?_set_self ..
  change (trimEvents stored maxEvents).weatherEvents.get? new.eventId = some new ↔
    (stored.weatherEvents.size ≤ maxEvents ∨ new.eventId ∈ keptIds maxEvents stored)
  by_cases hsize : stored.weatherEvents.size ≤ maxEvents
  · rw [trimEvents_of_le hsize]
    exact iff_of_true hget (.inl hsize)
  · rw [trimEvents_of_lt hsize]
    dsimp only
    rw [Dict.get?_filterKeys]
    by_cases hkept : new.eventId ∈ keptIds maxEvents stored
    · rw [if_pos (decide_eq_true hkept)]
      exact iff_of_true hget (.inr hkept)
    · rw [if_neg (by simpa using hkept)]
      exact iff_of_false (fun h => by cases h) (fun h => h.elim hsize hkept)

/-- A new event that is kept has a receipt with the status it was stored under. -/
theorem receipt_observation (h : Retained maxEvents before new) :
    ∃ receipt, (persistWeatherObservation before snapshot risks outcome (some new)
        (some newStatus) maxEvents).weatherMonitor.eventReceipts.get? new.eventId = some receipt ∧
      receipt.status = newStatus := by
  let stored := storeEvent (storeSnapshot before snapshot risks outcome) new (some newStatus)
  have hget : stored.weatherMonitor.eventReceipts.get? new.eventId =
      some ⟨new.eventId, new.eventFingerprint, newStatus, none, none⟩ := Dict.get?_set_self ..
  change stored.weatherEvents.size ≤ maxEvents ∨ new.eventId ∈ keptIds maxEvents stored at h
  change ∃ receipt, (trimEvents stored maxEvents).weatherMonitor.eventReceipts.get?
    new.eventId = some receipt ∧ receipt.status = newStatus
  by_cases hsize : stored.weatherEvents.size ≤ maxEvents
  · rw [trimEvents_of_le hsize]
    exact ⟨_, hget, rfl⟩
  · rw [trimEvents_of_lt hsize]
    dsimp only
    rw [Dict.get?_filterKeys, if_pos (decide_eq_true (h.resolve_left hsize))]
    exact ⟨_, hget, rfl⟩

end Event

/-- A record keeps what an observation stored, up to what receipts say besides their status. -/
structure Shows (observed after : PlanSessionRecord) : Prop where
  snapshots : after.weatherSnapshots = observed.weatherSnapshots
  risks : after.weatherRisks = observed.weatherRisks
  events : after.weatherEvents = observed.weatherEvents
  latest : after.weatherMonitor.latestSnapshotId = observed.weatherMonitor.latestSnapshotId
  outcome : after.weatherMonitor.lastOutcome = observed.weatherMonitor.lastOutcome
  receipts : ∀ eventId status,
    (∃ receipt, after.weatherMonitor.eventReceipts.get? eventId = some receipt ∧
        receipt.status = status) ↔
      ∃ receipt, observed.weatherMonitor.eventReceipts.get? eventId = some receipt ∧
        receipt.status = status

/-- A receipt may say more about an event, as long as its status stays. -/
theorem Shows.updateEventReceipt {observed : PlanSessionRecord} (h : Shows observed after)
    (eventId : String) {update : WeatherEventReceipt → WeatherEventReceipt}
    (hupdate : ∀ receipt, (update receipt).status = receipt.status) :
    Shows observed (TravelPlanAgent.updateEventReceipt after eventId update) := by
  have hrest : (TravelPlanAgent.updateEventReceipt after eventId update).weatherSnapshots =
        after.weatherSnapshots ∧
      (TravelPlanAgent.updateEventReceipt after eventId update).weatherRisks =
        after.weatherRisks ∧
      (TravelPlanAgent.updateEventReceipt after eventId update).weatherMonitor.latestSnapshotId =
        after.weatherMonitor.latestSnapshotId ∧
      (TravelPlanAgent.updateEventReceipt after eventId update).weatherMonitor.lastOutcome =
        after.weatherMonitor.lastOutcome := by
    unfold TravelPlanAgent.updateEventReceipt
    split <;> exact ⟨rfl, rfl, rfl, rfl⟩
  obtain ⟨hsnapshots, hrisks, hlatest, houtcome⟩ := hrest
  refine ⟨hsnapshots.trans h.snapshots, hrisks.trans h.risks,
    weatherEvents_updateEventReceipt.trans h.events, hlatest.trans h.latest,
    houtcome.trans h.outcome, fun id status => ?_⟩
  rw [← h.receipts, get?_updateEventReceipt]
  by_cases heq : id = eventId
  · rw [if_pos heq]
    constructor
    · rintro ⟨_, hmapped, hstatus⟩
      obtain ⟨receipt, hget, rfl⟩ := Option.map_eq_some_iff.mp hmapped
      exact ⟨receipt, hget, (hupdate receipt).symm.trans hstatus⟩
    · rintro ⟨receipt, hget, hstatus⟩
      exact ⟨update receipt, by rw [hget]; rfl, (hupdate receipt).trans hstatus⟩
  · rw [if_neg heq]

/-- A record shows an observation exactly when pruning keeps its snapshot and its event. -/
theorem recorded_iff_of_observation (hreports : Reports before derived event status outcome)
    (hshows : Shows (persistWeatherObservation before snapshot risks outcome event status
      maxEvents) after) :
    Recorded before after snapshot risks derived ↔
      SnapshotKept before snapshot ∧ EventKept maxEvents before derived := by
  obtain ⟨-, -, hlatest, houtcome⟩ :=
    observation_storeSnapshot before snapshot risks outcome event status maxEvents
  have hstored := snapshot_observation_iff before snapshot risks outcome event status maxEvents
  dsimp only at hstored
  rw [← hshows.snapshots, ← hshows.risks] at hstored
  have hnoted : after.weatherMonitor.lastOutcome = some outcome := hshows.outcome.trans houtcome
  constructor
  · intro hrecorded
    refine ⟨hstored.mp ⟨hrecorded.stored, hrecorded.classified⟩, fun new hnew hunseen => ?_⟩
    cases hreports with
    | unchanged => cases hnew
    | duplicate derived existing known =>
      cases hnew
      rw [known] at hunseen
      cases hunseen
    | new event status outcome new_ fits =>
      cases hnew
      cases hrecorded.outcome with
      | duplicate _ existing known noted =>
        rw [known] at new_
        cases new_
      | new _ receipt outcome' _ stored receipted fits' noted =>
        rw [hshows.events] at stored
        exact event_observation_iff.mp stored
  · rintro ⟨hkept, hevent⟩
    obtain ⟨hsnapshot, hrisks⟩ := hstored.mpr hkept
    refine ⟨hshows.latest.trans hlatest, hsnapshot, hrisks, ?_⟩
    cases hreports with
    | unchanged => exact .unchanged hnoted
    | duplicate derived existing known => exact .duplicate derived existing known hnoted
    | new event status outcome new_ fits =>
      have hretained := hevent event rfl new_
      obtain ⟨receipt, hreceipt, hstatus⟩ := (hshows.receipts _ _).mpr
        (receipt_observation hretained)
      refine .new event receipt outcome new_ ?_ hreceipt (hstatus ▸ fits) hnoted
      rw [hshows.events]
      exact event_observation_iff.mpr hretained

end Observation

end TravelPlanAgent
