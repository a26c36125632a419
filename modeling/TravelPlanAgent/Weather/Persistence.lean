import TravelPlanAgent.Domain.Lifecycle

/-!
# What a session remembers about the weather

* `persistWeatherObservation`: a refresh that succeeded.
* `markWeatherFailed`: a refresh that failed.
* `findEventByFingerprint`: an event that was handled before.

A refresh touches the weather fields of the record and nothing else; `SamePlan` says so.
-/

namespace TravelPlanAgent

open Calendar

/-- The newest `n` values, the earlier one first among equals. -/
def newest {α : Type} (time : α → DateTime) (n : ℕ) (values : List α) : List α :=
  (values.insertionSort fun a b => (time b).instant ≤ (time a).instant).take n

section Observation

variable (session : PlanSessionRecord) (snapshot : WeatherSnapshot)
  (risks : List DailyWeatherRisk) (outcome : WeatherRefreshOutcome)

/-- The monitor and the stored snapshots after a refresh. -/
def storeSnapshot : PlanSessionRecord :=
  let monitor := session.weatherMonitor
  let snapshots := session.weatherSnapshots.set snapshot.snapshotId snapshot
  let retained := (newest WeatherSnapshot.fetchedAt 2 snapshots.values).map
    WeatherSnapshot.snapshotId
  let previous := if monitor.latestSnapshotId ≠ some snapshot.snapshotId
    then monitor.latestSnapshotId else monitor.previousSnapshotId
  { session with
    weatherSnapshots := snapshots.filterKeys fun key => decide (key ∈ retained)
    weatherRisks := (session.weatherRisks.set snapshot.snapshotId risks).filterKeys
      fun key => decide (key ∈ retained)
    weatherMonitor :=
      { monitor with
        previousSnapshotId := previous.filter fun id => decide (id ∈ retained)
        latestSnapshotId := some snapshot.snapshotId
        location := some snapshot.location
        availability := .fresh
        lastAttemptAt := some snapshot.fetchedAt
        lastSuccessAt := some snapshot.fetchedAt
        lastSafeErrorCode := none
        lastOutcome := some outcome
        uncoveredDates := match session.snapshot with
          | none => monitor.uncoveredDates
          | some planning =>
            (Date.range planning.trip.startDate planning.trip.endDate).filter fun date =>
              decide (date ∉ snapshot.days.map DailyWeather.date) } }

/-- The event of a refresh, with its receipt when it has a status. -/
def storeEvent (event : ChangeEvent) (eventStatus : Option WeatherEventStatus) :
    PlanSessionRecord :=
  let monitor := { session.weatherMonitor with latestEventId := some event.eventId }
  { session with
    weatherEvents := session.weatherEvents.set event.eventId event
    weatherMonitor := match eventStatus with
      | none => monitor
      | some status =>
        { monitor with
          eventReceipts := monitor.eventReceipts.set event.eventId
            ⟨event.eventId, event.eventFingerprint, status, none, none⟩
          attentionEventId :=
            if status = .needsUserAttention then some event.eventId else none } }

/-- Forget the oldest events. -/
def trimEvents (maxEvents : ℕ) : PlanSessionRecord :=
  if session.weatherEvents.size ≤ maxEvents then session
  else
    let keep := (newest ChangeEvent.createdAt maxEvents session.weatherEvents.values).map
      ChangeEvent.eventId
    { session with
      weatherEvents := session.weatherEvents.filterKeys fun key => decide (key ∈ keep)
      weatherMonitor :=
        { session.weatherMonitor with
          eventReceipts := session.weatherMonitor.eventReceipts.filterKeys
            fun key => decide (key ∈ keep) } }

/-- `persist_weather_observation`. -/
def persistWeatherObservation (event : Option ChangeEvent)
    (eventStatus : Option WeatherEventStatus) (maxEvents : ℕ) : PlanSessionRecord :=
  let stored := storeSnapshot session snapshot risks outcome
  let stored := match event with
    | none => stored
    | some event => storeEvent stored event eventStatus
  trimEvents stored maxEvents

end Observation

/-- `mark_weather_failed`. -/
def markWeatherFailed (session : PlanSessionRecord) (safeErrorCode : String) (at_ : DateTime) :
    PlanSessionRecord :=
  { session with
    weatherMonitor :=
      { session.weatherMonitor with
        lastAttemptAt := some at_, lastSafeErrorCode := some safeErrorCode
        lastOutcome := some .providerFailed, availability := .unavailable } }

/-- `find_event_by_fingerprint`. -/
def findEventByFingerprint (session : PlanSessionRecord) (fingerprint : String) :
    Option ChangeEvent :=
  session.weatherEvents.values.find? fun event => decide (event.eventFingerprint = fingerprint)

/-! ## The plan is left alone -/

/-- Two records that differ in their weather fields only. -/
structure SamePlan (a b : PlanSessionRecord) : Prop where
  sessionId : b.sessionId = a.sessionId
  lifecycleThreadId : b.lifecycleThreadId = a.lifecycleThreadId
  status : b.status = a.status
  sessionRevision : b.sessionRevision = a.sessionRevision
  snapshot : b.snapshot = a.snapshot
  activeVersionId : b.activeVersionId = a.activeVersionId
  pendingPreviewId : b.pendingPreviewId = a.pendingPreviewId
  versions : b.versions = a.versions
  previews : b.previews = a.previews
  locks : b.locks = a.locks
  receipts : b.receipts = a.receipts
  externalInterrupt : b.externalInterrupt = a.externalInterrupt

theorem SamePlan.refl (a : PlanSessionRecord) : SamePlan a a :=
  ⟨rfl, rfl, rfl, rfl, rfl, rfl, rfl, rfl, rfl, rfl, rfl, rfl⟩

theorem SamePlan.trans {a b c : PlanSessionRecord} (hab : SamePlan a b) (hbc : SamePlan b c) :
    SamePlan a c :=
  ⟨hbc.1.trans hab.1, hbc.2.trans hab.2, hbc.3.trans hab.3, hbc.4.trans hab.4,
    hbc.5.trans hab.5, hbc.6.trans hab.6, hbc.7.trans hab.7, hbc.8.trans hab.8,
    hbc.9.trans hab.9, hbc.10.trans hab.10, hbc.11.trans hab.11, hbc.12.trans hab.12⟩

theorem samePlan_trimEvents (session : PlanSessionRecord) (maxEvents : ℕ) :
    SamePlan session (trimEvents session maxEvents) := by
  unfold trimEvents
  split
  · exact SamePlan.refl session
  · exact ⟨rfl, rfl, rfl, rfl, rfl, rfl, rfl, rfl, rfl, rfl, rfl, rfl⟩

/-- A refresh leaves the plan alone. -/
theorem samePlan_persistWeatherObservation (session : PlanSessionRecord)
    (snapshot : WeatherSnapshot) (risks : List DailyWeatherRisk)
    (outcome : WeatherRefreshOutcome) (event : Option ChangeEvent)
    (eventStatus : Option WeatherEventStatus) (maxEvents : ℕ) :
    SamePlan session
      (persistWeatherObservation session snapshot risks outcome event eventStatus maxEvents) := by
  unfold persistWeatherObservation
  refine SamePlan.trans ?_ (samePlan_trimEvents _ maxEvents)
  cases event with
  | none => exact ⟨rfl, rfl, rfl, rfl, rfl, rfl, rfl, rfl, rfl, rfl, rfl, rfl⟩
  | some event => exact ⟨rfl, rfl, rfl, rfl, rfl, rfl, rfl, rfl, rfl, rfl, rfl, rfl⟩

end TravelPlanAgent
