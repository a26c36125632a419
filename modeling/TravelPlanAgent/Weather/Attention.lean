import TravelPlanAgent.Lifecycle.RecordStep

/-!
# The event that needs attention

A monitor points at one event.  Which events still need attention is written in their receipts,
and which of them are kept is decided by age.  Here is what each write does to the three.

* `NeedsAttention`, `AttentionConsistent`: an open event, and a pointer that agrees with them.
* `SameAttention`: two records that differ in neither.
* `attentionConsistent_observation`: a refresh, when what it settles was the only open event.
* `attentionConsistent_dismissal`: a dismissal, under the same condition.
-/

namespace TravelPlanAgent

/-! ## Open events -/

/-- A kept event whose receipt says that it needs attention. -/
def NeedsAttention (session : PlanSessionRecord) (eventId : String) : Prop :=
  session.weatherEvents.contains eventId = true ∧
    ∃ receipt, session.weatherMonitor.eventReceipts.get? eventId = some receipt ∧
      receipt.status = .needsUserAttention

/-- The pointer names an open event, and is empty only when there is none. -/
structure AttentionConsistent (session : PlanSessionRecord) : Prop where
  named : ∀ eventId, session.weatherMonitor.attentionEventId = some eventId →
    NeedsAttention session eventId
  unnamed : session.weatherMonitor.attentionEventId = none →
    ∀ eventId, ¬ NeedsAttention session eventId

/-- No event but this one needs attention. -/
def OthersSettled (session : PlanSessionRecord) (eventId : String) : Prop :=
  ∀ other, other ≠ eventId → ¬ NeedsAttention session other

/-- Events are stored under their own ids, and there are not more of them than allowed. -/
structure EventsKept (maxEvents : ℕ) (session : PlanSessionRecord) : Prop where
  eventId : ∀ eventId event, session.weatherEvents.get? eventId = some event →
    event.eventId = eventId
  size : session.weatherEvents.size ≤ maxEvents

/-- A new event is among those that are kept. -/
def Retained (maxEvents : ℕ) (session : PlanSessionRecord) (event : ChangeEvent) : Prop :=
  let events := session.weatherEvents.set event.eventId event
  events.size ≤ maxEvents ∨
    event.eventId ∈ (newest ChangeEvent.createdAt maxEvents events.values).map
      ChangeEvent.eventId

instance (maxEvents : ℕ) (session : PlanSessionRecord) (event : ChangeEvent) :
    Decidable (Retained maxEvents session event) := inferInstanceAs (Decidable (_ ∨ _))

section Attention

variable {session record : PlanSessionRecord} {maxEvents : ℕ} {eventId : String}

/-- The pointer is there exactly when some event is open. -/
theorem AttentionConsistent.isSome_iff (h : AttentionConsistent session) :
    session.weatherMonitor.attentionEventId ≠ none ↔ ∃ eventId, NeedsAttention session eventId := by
  constructor
  · intro hsome
    obtain ⟨eventId, hid⟩ := Option.ne_none_iff_exists'.mp hsome
    exact ⟨eventId, h.named eventId hid⟩
  · rintro ⟨eventId, hneeds⟩ hnone
    exact h.unnamed hnone eventId hneeds

/-! ## Records that agree -/

/-- The same events, receipts and pointer. -/
structure SameAttention (a b : PlanSessionRecord) : Prop where
  events : ∀ eventId, b.weatherEvents.get? eventId = a.weatherEvents.get? eventId
  size : b.weatherEvents.size = a.weatherEvents.size
  receipts : b.weatherMonitor.eventReceipts = a.weatherMonitor.eventReceipts
  pointer : b.weatherMonitor.attentionEventId = a.weatherMonitor.attentionEventId

theorem SameAttention.of_eq {a b : PlanSessionRecord} (hevents : b.weatherEvents = a.weatherEvents)
    (hmonitor : b.weatherMonitor = a.weatherMonitor) : SameAttention a b :=
  ⟨fun _ => by rw [hevents], by rw [hevents], by rw [hmonitor], by rw [hmonitor]⟩

theorem SameAttention.trans {a b c : PlanSessionRecord} (hab : SameAttention a b)
    (hbc : SameAttention b c) : SameAttention a c :=
  ⟨fun eventId => (hbc.events eventId).trans (hab.events eventId), hbc.size.trans hab.size,
    hbc.receipts.trans hab.receipts, hbc.pointer.trans hab.pointer⟩

theorem SameAttention.needsAttention_iff (h : SameAttention session record) :
    NeedsAttention record eventId ↔ NeedsAttention session eventId := by
  unfold NeedsAttention Dict.contains
  rw [h.events, h.receipts]

theorem SameAttention.consistent (h : SameAttention session record)
    (hconsistent : AttentionConsistent session) : AttentionConsistent record where
  named eventId hid := h.needsAttention_iff.mpr (hconsistent.named eventId (h.pointer ▸ hid))
  unnamed hnone eventId hneeds := hconsistent.unnamed (h.pointer ▸ hnone) eventId
    (h.needsAttention_iff.mp hneeds)

theorem SameAttention.kept (h : SameAttention session record)
    (hkept : EventsKept maxEvents session) : EventsKept maxEvents record where
  eventId eventId event hget := hkept.eventId eventId event (h.events eventId ▸ hget)
  size := h.size ▸ hkept.size

/-! ## Pruning -/

/-- The events that pruning keeps. -/
def keptIds (maxEvents : ℕ) (session : PlanSessionRecord) : List String :=
  (newest ChangeEvent.createdAt maxEvents session.weatherEvents.values).map ChangeEvent.eventId

theorem length_newest_le {α : Type} (time : α → Calendar.DateTime) (n : ℕ) (values : List α) :
    (newest time n values).length ≤ n := by
  unfold newest
  exact List.length_take_le _ _

theorem trimEvents_of_le (h : session.weatherEvents.size ≤ maxEvents) :
    trimEvents session maxEvents = session := by
  unfold trimEvents
  rw [if_pos h]

/-- Pruning drops events and receipts, and nothing else. -/
theorem trimEvents_of_lt (h : ¬ session.weatherEvents.size ≤ maxEvents) :
    trimEvents session maxEvents =
      { session with
        weatherEvents := session.weatherEvents.filterKeys fun key =>
          decide (key ∈ keptIds maxEvents session)
        weatherMonitor :=
          { session.weatherMonitor with
            eventReceipts := session.weatherMonitor.eventReceipts.filterKeys fun key =>
              decide (key ∈ keptIds maxEvents session) } } := by
  unfold trimEvents
  rw [if_neg h]
  rfl

theorem pointer_trimEvents :
    (trimEvents session maxEvents).weatherMonitor.attentionEventId =
      session.weatherMonitor.attentionEventId := by
  unfold trimEvents
  split <;> rfl

/-- What is open after pruning was open before. -/
theorem needsAttention_of_trimEvents (h : NeedsAttention (trimEvents session maxEvents) eventId) :
    NeedsAttention session eventId := by
  by_cases hsize : session.weatherEvents.size ≤ maxEvents
  · rwa [trimEvents_of_le hsize] at h
  · rw [trimEvents_of_lt hsize] at h
    obtain ⟨hevent, receipt, hreceipt, hstatus⟩ := h
    dsimp only at hevent hreceipt
    rw [Dict.contains, Dict.get?_filterKeys] at hevent
    rw [Dict.get?_filterKeys] at hreceipt
    split at hevent
    · next hkeep =>
      rw [if_pos hkeep] at hreceipt
      exact ⟨hevent, receipt, hreceipt, hstatus⟩
    · cases hevent

/-- An open event that is kept is open after pruning. -/
theorem needsAttention_trimEvents (h : NeedsAttention session eventId)
    (hkeep : session.weatherEvents.size ≤ maxEvents ∨ eventId ∈ keptIds maxEvents session) :
    NeedsAttention (trimEvents session maxEvents) eventId := by
  by_cases hsize : session.weatherEvents.size ≤ maxEvents
  · rwa [trimEvents_of_le hsize]
  · have hmem : decide (eventId ∈ keptIds maxEvents session) = true :=
      decide_eq_true (hkeep.resolve_left hsize)
    obtain ⟨hevent, receipt, hreceipt, hstatus⟩ := h
    rw [trimEvents_of_lt hsize]
    refine ⟨?_, receipt, ?_, hstatus⟩
    · rw [Dict.contains, Dict.get?_filterKeys, if_pos hmem]
      exact hevent
    · dsimp only
      rw [Dict.get?_filterKeys, if_pos hmem]
      exact hreceipt

theorem eventsKept_trimEvents (hid : ∀ eventId event,
    session.weatherEvents.get? eventId = some event → event.eventId = eventId) :
    EventsKept maxEvents (trimEvents session maxEvents) := by
  by_cases hsize : session.weatherEvents.size ≤ maxEvents
  · rw [trimEvents_of_le hsize]
    exact ⟨hid, hsize⟩
  · rw [trimEvents_of_lt hsize]
    refine ⟨fun eventId event hget => ?_, ?_⟩
    · dsimp only at hget
      rw [Dict.get?_filterKeys] at hget
      split at hget
      · exact hid eventId event hget
      · cases hget
    · -- The keys that are left are distinct and among the ids of the newest events.
      dsimp only
      have hsub : (session.weatherEvents.filterKeys fun key =>
          decide (key ∈ keptIds maxEvents session)).keys ⊆ keptIds maxEvents session := by
        intro key hkey
        obtain ⟨event, hget⟩ := Dict.exists_get?_of_mem_keys hkey
        rw [Dict.get?_filterKeys] at hget
        split at hget
        · next hkeep => exact of_decide_eq_true hkeep
        · cases hget
      have hlength := (List.subperm_of_subset (Dict.keys_nodup _) hsub).length_le
      rw [Dict.length_keys] at hlength
      refine hlength.trans ?_
      rw [keptIds, List.length_map]
      exact length_newest_le ..

/-! ## Refreshes -/

variable {snapshot : WeatherSnapshot} {risks : List DailyWeatherRisk}
  {outcome : WeatherRefreshOutcome} {event : ChangeEvent} {status : WeatherEventStatus}

theorem sameAttention_storeSnapshot :
    SameAttention session (storeSnapshot session snapshot risks outcome) :=
  ⟨fun _ => rfl, rfl, rfl, rfl⟩

/-- A refresh without an event changes nothing here. -/
theorem sameAttention_unchanged (hkept : EventsKept maxEvents session) :
    SameAttention session
      (persistWeatherObservation session snapshot risks outcome none none maxEvents) := by
  unfold persistWeatherObservation
  dsimp only
  rw [trimEvents_of_le (sameAttention_storeSnapshot.kept hkept).size]
  exact sameAttention_storeSnapshot

/-- Nor does a refresh with an event that is kept already. -/
theorem sameAttention_duplicate (hkept : EventsKept maxEvents session)
    (hevent : event ∈ session.weatherEvents.values) :
    SameAttention session
      (persistWeatherObservation session snapshot risks outcome (some event) none maxEvents) := by
  obtain ⟨key, hget⟩ := Dict.mem_values_iff.mp hevent
  obtain rfl := hkept.eventId key event hget
  have hsize := Dict.size_set_of_mem (Dict.mem_keys_of_get? hget) event
  have hsame : SameAttention session
      (storeEvent (storeSnapshot session snapshot risks outcome) event none) := by
    refine ⟨fun eventId => ?_, hsize, rfl, rfl⟩
    change (session.weatherEvents.set event.eventId event).get? eventId = _
    rw [Dict.get?_set]
    split
    · next heq => rw [heq, hget]
    · rfl
  unfold persistWeatherObservation
  dsimp only
  rw [trimEvents_of_le (hsame.kept hkept).size]
  exact hsame

/-- The record after an event was stored under a status, before pruning. -/
theorem needsAttention_storeEvent_iff :
    NeedsAttention (storeEvent (storeSnapshot session snapshot risks outcome) event
        (some status)) eventId ↔
      eventId = event.eventId ∧ status = .needsUserAttention ∨
        eventId ≠ event.eventId ∧ NeedsAttention session eventId := by
  unfold NeedsAttention Dict.contains
  change ((session.weatherEvents.set event.eventId event).get? eventId).isSome = true ∧
    (∃ receipt, (session.weatherMonitor.eventReceipts.set event.eventId
      ⟨event.eventId, event.eventFingerprint, status, none, none⟩).get? eventId = some receipt ∧
        receipt.status = .needsUserAttention) ↔ _
  rw [Dict.get?_set, Dict.get?_set]
  by_cases heq : eventId = event.eventId
  · rw [if_pos heq, if_pos heq]
    simp [heq]
  · rw [if_neg heq, if_neg heq]
    simp [heq]

theorem eventsKept_observation (hkept : EventsKept maxEvents session) :
    EventsKept maxEvents (persistWeatherObservation session snapshot risks outcome (some event)
      (some status) maxEvents) := by
  refine eventsKept_trimEvents fun eventId stored hget => ?_
  change (session.weatherEvents.set event.eventId event).get? eventId = some stored at hget
  rw [Dict.get?_set] at hget
  split at hget
  · next heq =>
    cases hget
    exact heq.symm
  · exact hkept.eventId eventId stored hget

/-- The receipt of an event that was just stored has the status that was stored. -/
theorem status_of_observation {receipt : WeatherEventReceipt}
    (h : (persistWeatherObservation session snapshot risks outcome (some event) (some status)
      maxEvents).weatherMonitor.eventReceipts.get? event.eventId = some receipt) :
    receipt.status = status := by
  have hstored : ∀ receipt, (storeEvent (storeSnapshot session snapshot risks outcome) event
      (some status)).weatherMonitor.eventReceipts.get? event.eventId = some receipt →
        receipt.status = status := by
    intro receipt hget
    change (session.weatherMonitor.eventReceipts.set event.eventId
      ⟨event.eventId, event.eventFingerprint, status, none, none⟩).get? event.eventId =
        some receipt at hget
    rw [Dict.get?_set_self] at hget
    cases hget
    rfl
  unfold persistWeatherObservation at h
  dsimp only at h
  by_cases hsize : (storeEvent (storeSnapshot session snapshot risks outcome) event
      (some status)).weatherEvents.size ≤ maxEvents
  · rw [trimEvents_of_le hsize] at h
    exact hstored receipt h
  · rw [trimEvents_of_lt hsize] at h
    dsimp only at h
    rw [Dict.get?_filterKeys] at h
    split at h
    · exact hstored receipt h
    · cases h

/-- A refresh keeps the pointer right when the event that it settles was the only open one, and
the event that it reports is kept. -/
theorem attentionConsistent_observation
    (hsettles : status ≠ .needsUserAttention → OthersSettled session event.eventId)
    (hretained : status = .needsUserAttention → Retained maxEvents session event) :
    AttentionConsistent (persistWeatherObservation session snapshot risks outcome (some event)
      (some status) maxEvents) := by
  have hpointer : (persistWeatherObservation session snapshot risks outcome (some event)
      (some status) maxEvents).weatherMonitor.attentionEventId =
        if status = .needsUserAttention then some event.eventId else none := pointer_trimEvents
  refine ⟨fun eventId hid => ?_, fun hnone eventId hneeds => ?_⟩
  · rw [hpointer] at hid
    split at hid
    · next hstatus =>
      cases hid
      exact needsAttention_trimEvents (needsAttention_storeEvent_iff.mpr (.inl ⟨rfl, hstatus⟩))
        (hretained hstatus)
    · cases hid
  · rw [hpointer] at hnone
    split at hnone
    · cases hnone
    · next hstatus =>
      rcases needsAttention_storeEvent_iff.mp (needsAttention_of_trimEvents hneeds) with
        ⟨-, hneeds⟩ | ⟨hne, hneeds⟩
      · exact hstatus hneeds
      · exact hsettles hstatus eventId hne hneeds

/-! ## Receipts -/

variable {update : WeatherEventReceipt → WeatherEventReceipt}

theorem get?_updateEventReceipt (id : String) :
    (updateEventReceipt session eventId update).weatherMonitor.eventReceipts.get? id =
      if id = eventId then (session.weatherMonitor.eventReceipts.get? id).map update
      else session.weatherMonitor.eventReceipts.get? id := by
  unfold updateEventReceipt
  split
  · next hreceipt =>
    split
    · next heq =>
      rw [heq, hreceipt]
      rfl
    · rfl
  · next receipt hreceipt =>
    dsimp only
    rw [Dict.get?_set]
    split
    · next heq =>
      rw [heq, hreceipt]
      rfl
    · rfl

theorem weatherEvents_updateEventReceipt :
    (updateEventReceipt session eventId update).weatherEvents = session.weatherEvents := by
  unfold updateEventReceipt
  split <;> rfl

theorem pointer_updateEventReceipt :
    (updateEventReceipt session eventId update).weatherMonitor.attentionEventId =
      session.weatherMonitor.attentionEventId := by
  unfold updateEventReceipt
  split <;> rfl

/-- An update that neither opens nor closes an event leaves the open events alone. -/
theorem needsAttention_updateEventReceipt_iff {id : String}
    (hupdate : ∀ receipt, session.weatherMonitor.eventReceipts.get? eventId = some receipt →
      ((update receipt).status = .needsUserAttention ↔ receipt.status = .needsUserAttention)) :
    NeedsAttention (updateEventReceipt session eventId update) id ↔ NeedsAttention session id := by
  unfold NeedsAttention
  rw [weatherEvents_updateEventReceipt, get?_updateEventReceipt]
  by_cases heq : id = eventId
  · subst heq
    rw [if_pos rfl]
    refine and_congr_right fun _ => ⟨?_, ?_⟩
    · rintro ⟨_, hmapped, hstatus⟩
      obtain ⟨receipt, hget, rfl⟩ := Option.map_eq_some_iff.mp hmapped
      exact ⟨receipt, hget, (hupdate receipt hget).mp hstatus⟩
    · rintro ⟨receipt, hget, hstatus⟩
      exact ⟨update receipt, by rw [hget]; rfl, (hupdate receipt hget).mpr hstatus⟩
  · rw [if_neg heq]

theorem attentionConsistent_updateEventReceipt (h : AttentionConsistent session)
    (hupdate : ∀ receipt, session.weatherMonitor.eventReceipts.get? eventId = some receipt →
      ((update receipt).status = .needsUserAttention ↔ receipt.status = .needsUserAttention)) :
    AttentionConsistent (updateEventReceipt session eventId update) where
  named id hid := (needsAttention_updateEventReceipt_iff hupdate).mpr
    (h.named id (pointer_updateEventReceipt ▸ hid))
  unnamed hnone id hneeds := h.unnamed (pointer_updateEventReceipt ▸ hnone) id
    ((needsAttention_updateEventReceipt_iff hupdate).mp hneeds)

theorem eventsKept_updateEventReceipt (h : EventsKept maxEvents session) :
    EventsKept maxEvents (updateEventReceipt session eventId update) where
  eventId id event hget := h.eventId id event (weatherEvents_updateEventReceipt ▸ hget)
  size := by
    rw [weatherEvents_updateEventReceipt]
    exact h.size

/-! ## Dismissals -/

/-- The record after a dismissal, before it gets its receipt. -/
def dismissedRecord (session : PlanSessionRecord) (eventId : String) : PlanSessionRecord :=
  let dismissed := updateEventReceipt session eventId fun receipt =>
    { receipt with status := .dismissed }
  { dismissed with
    weatherMonitor := { dismissed.weatherMonitor with attentionEventId := none } }

/-- A dismissal keeps the pointer right exactly when no other event is open. -/
theorem attentionConsistent_dismissal_iff :
    AttentionConsistent (dismissedRecord session eventId) ↔ OthersSettled session eventId := by
  have hneeds (id : String) : NeedsAttention (dismissedRecord session eventId) id ↔
      id ≠ eventId ∧ NeedsAttention session id := by
    unfold dismissedRecord NeedsAttention
    dsimp only
    rw [weatherEvents_updateEventReceipt, get?_updateEventReceipt]
    by_cases heq : id = eventId
    · rw [if_pos heq]
      refine ⟨?_, fun h => absurd heq h.1⟩
      rintro ⟨-, _, hget, hstatus⟩
      obtain ⟨receipt, -, rfl⟩ := Option.map_eq_some_iff.mp hget
      cases hstatus
    · rw [if_neg heq]
      exact ⟨fun h => ⟨heq, h⟩, And.right⟩
  constructor
  · intro h other hne hother
    exact h.unnamed rfl other ((hneeds other).mpr ⟨hne, hother⟩)
  · intro h
    refine ⟨nofun, fun _ id hid => ?_⟩
    obtain ⟨hne, hid⟩ := (hneeds id).mp hid
    exact h id hne hid

end Attention

end TravelPlanAgent
