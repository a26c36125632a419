import TravelPlanAgent.Weather.Recorded

/-!
# The snapshots that a session keeps

A session keeps the two newest snapshots by the time at which they were fetched, and its monitor
points to the snapshot that was observed last.  A snapshot that was fetched before two others is
dropped by the very call that observes it, and the monitor then points to nothing.

* `Observation`, `observe`, `observeAll`: calls of `persist_weather_observation`, one by one.
* `SnapshotsAgree`, `snapshotsAgree_observe`: what every call keeps.
* `RoomFor`, `snapshotKept_iff_roomFor`: a snapshot is kept when fewer than two are as new.
* `pointersKept_iff`: the monitor points to what is kept exactly when there was room.
* `exists_not_pointersKept`: a result from a cache arrives after two newer ones.
-/

namespace TravelPlanAgent

open Calendar Selection

/-! ## Calls -/

/-- The arguments of `persist_weather_observation`. -/
structure Observation where
  snapshot : WeatherSnapshot
  risks : List DailyWeatherRisk
  outcome : WeatherRefreshOutcome
  event : Option ChangeEvent := none
  eventStatus : Option WeatherEventStatus := none
  maxEvents : ℕ := 50

/-- One call. -/
def observe (session : PlanSessionRecord) (observation : Observation) : PlanSessionRecord :=
  persistWeatherObservation session observation.snapshot observation.risks observation.outcome
    observation.event observation.eventStatus observation.maxEvents

/-- One call after the other. -/
def observeAll (session : PlanSessionRecord) (observations : List Observation) :
    PlanSessionRecord :=
  observations.foldl observe session

/-- Nothing has been observed yet. -/
structure Unobserved (session : PlanSessionRecord) : Prop where
  snapshots : session.weatherSnapshots = ∅
  risks : session.weatherRisks = ∅
  latest : session.weatherMonitor.latestSnapshotId = none
  previous : session.weatherMonitor.previousSnapshotId = none

/-! ## What the pointers should satisfy -/

/-- After a snapshot was observed, the monitor points to it and to another one, and both are
kept. -/
structure PointersKept (session : PlanSessionRecord) (snapshot : WeatherSnapshot) : Prop where
  sameKeys : ∀ id, id ∈ session.weatherSnapshots.keys ↔ id ∈ session.weatherRisks.keys
  snapshots_le : session.weatherSnapshots.size ≤ 2
  risks_le : session.weatherRisks.size ≤ 2
  latest : session.weatherMonitor.latestSnapshotId = some snapshot.snapshotId
  latest_mem : snapshot.snapshotId ∈ session.weatherSnapshots.keys
  previous : ∀ id ∈ session.weatherMonitor.previousSnapshotId,
    id ∈ session.weatherSnapshots.keys ∧ id ≠ snapshot.snapshotId

/-- Fewer than two other snapshots are stored that are at least as new. -/
def RoomFor (session : PlanSessionRecord) (snapshot : WeatherSnapshot) : Prop :=
  (session.weatherSnapshots.values.filter fun other =>
    decide (other.snapshotId ≠ snapshot.snapshotId ∧
      snapshot.fetchedAt.instant ≤ other.fetchedAt.instant)).length < 2

instance (session : PlanSessionRecord) (snapshot : WeatherSnapshot) :
    Decidable (RoomFor session snapshot) :=
  inferInstanceAs (Decidable (_ < 2))

/-- What every call keeps, whether its snapshot is kept or not. -/
structure SnapshotsAgree (session : PlanSessionRecord) : Prop where
  ownId : ∀ id snapshot, session.weatherSnapshots.get? id = some snapshot →
    snapshot.snapshotId = id
  sameKeys : ∀ id, id ∈ session.weatherSnapshots.keys ↔ id ∈ session.weatherRisks.keys
  size_le : session.weatherSnapshots.size ≤ 2
  previous : ∀ id ∈ session.weatherMonitor.previousSnapshotId,
    session.weatherMonitor.latestSnapshotId ≠ some id

section Calls

variable {session : PlanSessionRecord} {observation : Observation}

theorem snapshotsAgree_of_unobserved (h : Unobserved session) : SnapshotsAgree session := by
  refine ⟨fun id snapshot hget => ?_, fun id => ?_, ?_, fun id hid => ?_⟩
  · rw [h.snapshots] at hget
    simp at hget
  · rw [h.snapshots, h.risks]
    simp
  · rw [h.snapshots]
    exact Nat.zero_le 2
  · rw [h.previous] at hid
    simp at hid

/-! ## One call -/

variable (session observation) in
/-- What a call writes about its snapshot. -/
theorem observe_fields :
    let kept := fun id => decide (id ∈ keptSnapshotIds session observation.snapshot)
    (observe session observation).weatherSnapshots =
        (session.weatherSnapshots.set observation.snapshot.snapshotId
          observation.snapshot).filterKeys kept ∧
    (observe session observation).weatherRisks =
        (session.weatherRisks.set observation.snapshot.snapshotId
          observation.risks).filterKeys kept ∧
    (observe session observation).weatherMonitor.latestSnapshotId =
        some observation.snapshot.snapshotId ∧
    (observe session observation).weatherMonitor.previousSnapshotId =
        (if session.weatherMonitor.latestSnapshotId ≠ some observation.snapshot.snapshotId
          then session.weatherMonitor.latestSnapshotId
          else session.weatherMonitor.previousSnapshotId).filter kept := by
  obtain ⟨snapshot, risks, outcome, event, eventStatus, maxEvents⟩ := observation
  obtain ⟨hsnapshots, hrisks, hlatest, -⟩ :=
    observation_storeSnapshot session snapshot risks outcome event eventStatus maxEvents
  refine ⟨hsnapshots, hrisks, hlatest, ?_⟩
  have htrim (stored : PlanSessionRecord) :
      (trimEvents stored maxEvents).weatherMonitor.previousSnapshotId =
        stored.weatherMonitor.previousSnapshotId := by
    unfold trimEvents
    split <;> rfl
  unfold observe persistWeatherObservation
  cases event with
  | none => exact htrim _
  | some event =>
    rw [htrim]
    unfold storeEvent
    cases eventStatus <;> rfl

/-- At most two snapshots are kept. -/
theorem length_keptSnapshotIds_le (snapshot : WeatherSnapshot) :
    (keptSnapshotIds session snapshot).length ≤ 2 := by
  rw [keptSnapshotIds, List.length_map, newest]
  exact List.length_take_le _ _

/-- A kept id is the id of a stored snapshot. -/
theorem mem_keys_of_mem_kept (h : SnapshotsAgree session) {snapshot : WeatherSnapshot}
    {id : String} (hid : id ∈ keptSnapshotIds session snapshot) :
    id ∈ (session.weatherSnapshots.set snapshot.snapshotId snapshot).keys := by
  obtain ⟨other, hother, rfl⟩ := List.mem_map.mp hid
  have hvalue := (List.mem_insertionSort _).mp (List.mem_of_mem_take hother)
  obtain ⟨id, hget⟩ := Dict.mem_values_iff.mp hvalue
  rw [Dict.get?_set] at hget
  split at hget
  · cases hget
    exact Dict.mem_keys_set.mpr (.inl rfl)
  · rw [h.ownId id other hget]
    exact Dict.mem_keys_set.mpr (.inr (Dict.mem_keys_of_get? hget))

theorem snapshotsAgree_observe (h : SnapshotsAgree session) :
    SnapshotsAgree (observe session observation) := by
  obtain ⟨hsnapshots, hrisks, hlatest, hprevious⟩ := observe_fields session observation
  refine ⟨fun id snapshot hget => ?_, fun id => ?_, ?_, fun id hid => ?_⟩
  · rw [hsnapshots, Dict.get?_filterKeys] at hget
    split at hget
    · rw [Dict.get?_set] at hget
      split at hget
      · next heq =>
        cases hget
        exact heq.symm
      · exact h.ownId id snapshot hget
    · cases hget
  · rw [hsnapshots, hrisks, Dict.mem_keys_filterKeys, Dict.mem_keys_filterKeys,
      Dict.mem_keys_set, Dict.mem_keys_set, h.sameKeys]
  · have hsubset : (observe session observation).weatherSnapshots.keys ⊆
        keptSnapshotIds session observation.snapshot := by
      intro id hid
      rw [hsnapshots, Dict.mem_keys_filterKeys, decide_eq_true_eq] at hid
      exact hid.2
    have hlength := ((Dict.keys_nodup _).subperm hsubset).length_le
    rw [Dict.length_keys] at hlength
    exact hlength.trans (length_keptSnapshotIds_le observation.snapshot)
  · rw [hlatest]
    rw [hprevious, Option.mem_def, Option.filter_eq_some_iff] at hid
    obtain ⟨hid, -⟩ := hid
    rintro ⟨⟩
    split at hid
    · next hnew => exact hnew hid
    · next hsame => exact h.previous _ hid (not_not.mp hsame)

theorem snapshotsAgree_observeAll (h : SnapshotsAgree session) (observations : List Observation) :
    SnapshotsAgree (observeAll session observations) := by
  induction observations generalizing session with
  | nil => exact h
  | cons observation observations ih => exact ih (snapshotsAgree_observe h)

/-! ## Room for a snapshot -/

/-- The snapshots that are at least as new, when none of those stored has the id. -/
theorem newer_of_not_mem (h : SnapshotsAgree session) {snapshot : WeatherSnapshot}
    (hnew : snapshot.snapshotId ∉ session.weatherSnapshots.keys) :
    (session.weatherSnapshots.values.filter fun other =>
        decide (other.snapshotId ≠ snapshot.snapshotId ∧
          snapshot.fetchedAt.instant ≤ other.fetchedAt.instant)) =
      session.weatherSnapshots.values.filter fun other =>
        decide (snapshot.fetchedAt.instant ≤ other.fetchedAt.instant) := by
  refine List.filter_congr fun other hother => ?_
  obtain ⟨id, hget⟩ := Dict.mem_values_iff.mp hother
  have hid : other.snapshotId ≠ snapshot.snapshotId := by
    rw [h.ownId id other hget]
    rintro rfl
    exact hnew (Dict.mem_keys_of_get? hget)
  simp [hid]

/-- A snapshot with a new id is sorted behind those that are at least as new. -/
theorem snapshotKept_of_not_mem (h : SnapshotsAgree session) {snapshot : WeatherSnapshot}
    (hnew : snapshot.snapshotId ∉ session.weatherSnapshots.keys) :
    SnapshotKept session snapshot ↔ RoomFor session snapshot := by
  have hvalues : (session.weatherSnapshots.set snapshot.snapshotId snapshot).values =
      session.weatherSnapshots.values ++ [snapshot] := by
    rw [Dict.values, Dict.entries_set_of_not_mem hnew, List.map_append]
    rfl
  obtain ⟨before, after, hsort, hperm⟩ := insertionSort_concat
    (r := fun a b : WeatherSnapshot => b.fetchedAt.instant ≤ a.fetchedAt.instant)
    (fun _ _ _ hab hbc => hbc.trans hab) session.weatherSnapshots.values snapshot
  have hother : ∀ other ∈ before ++ after, other.snapshotId ≠ snapshot.snapshotId := by
    intro other hmem
    have hall : (snapshot :: (before ++ after)).Perm
        (snapshot :: session.weatherSnapshots.values) := by
      refine List.perm_middle.symm.trans (hsort ▸ ?_)
      exact (List.perm_insertionSort _ _).trans (List.perm_append_comm)
    obtain ⟨id, hget⟩ := Dict.mem_values_iff.mp ((hall.cons_inv).mem_iff.mp hmem)
    rw [h.ownId id other hget]
    rintro rfl
    exact hnew (Dict.mem_keys_of_get? hget)
  rw [SnapshotKept, keptSnapshotIds, newest, hvalues, hsort, RoomFor, newer_of_not_mem h hnew,
    ← hperm.length_eq]
  constructor
  · intro hmem
    by_contra hfull
    rw [List.take_append_of_le_length (by omega)] at hmem
    obtain ⟨other, hin, hid⟩ := List.mem_map.mp hmem
    exact hother other (List.mem_append_left _ (List.mem_of_mem_take hin)) hid
  · intro hroom
    refine List.mem_map.mpr ⟨snapshot, ?_, rfl⟩
    rw [List.mem_take_iff_getElem]
    refine ⟨before.length, by simp; omega, by simp⟩

/-- A snapshot that is stored already is kept. -/
theorem snapshotKept_of_mem (h : SnapshotsAgree session) {snapshot : WeatherSnapshot}
    (hmem : snapshot.snapshotId ∈ session.weatherSnapshots.keys) :
    SnapshotKept session snapshot ∧ RoomFor session snapshot := by
  have hsize := h.size_le
  constructor
  · rw [SnapshotKept, keptSnapshotIds, newest, List.take_of_length_le]
    · refine List.mem_map.mpr ⟨snapshot, ?_, rfl⟩
      rw [List.mem_insertionSort]
      exact Dict.mem_values_iff.mpr ⟨_, Dict.get?_set_self _ _ _⟩
    · rw [List.length_insertionSort, Dict.values, List.length_map]
      exact (Dict.size_set_of_mem hmem snapshot).le.trans hsize
  · obtain ⟨stored, hget⟩ := Dict.exists_get?_of_mem_keys hmem
    have hstored : stored ∈ session.weatherSnapshots.values := Dict.mem_values_iff.mpr ⟨_, hget⟩
    have hlt := List.length_filter_lt_length_iff_exists
      (p := fun other : WeatherSnapshot => decide (other.snapshotId ≠ snapshot.snapshotId ∧
        snapshot.fetchedAt.instant ≤ other.fetchedAt.instant)) |>.mpr
      ⟨stored, hstored, by simp [h.ownId _ _ hget]⟩
    have hlength : session.weatherSnapshots.values.length ≤ 2 := by
      rw [Dict.values, List.length_map]
      exact hsize
    rw [RoomFor]
    omega

theorem snapshotKept_iff_roomFor (h : SnapshotsAgree session) (snapshot : WeatherSnapshot) :
    SnapshotKept session snapshot ↔ RoomFor session snapshot := by
  by_cases hmem : snapshot.snapshotId ∈ session.weatherSnapshots.keys
  · exact iff_of_true (snapshotKept_of_mem h hmem).1 (snapshotKept_of_mem h hmem).2
  · exact snapshotKept_of_not_mem h hmem

/-- After a call the monitor points to what is kept exactly when its snapshot is kept. -/
theorem pointersKept_iff_snapshotKept (h : SnapshotsAgree session) :
    PointersKept (observe session observation) observation.snapshot ↔
      SnapshotKept session observation.snapshot := by
  have hafter : SnapshotsAgree (observe session observation) := snapshotsAgree_observe h
  obtain ⟨hsnapshots, -, hlatest, hprevious⟩ := observe_fields session observation
  constructor
  · intro hkept
    have hmem := hkept.latest_mem
    rw [hsnapshots, Dict.mem_keys_filterKeys, decide_eq_true_eq] at hmem
    exact hmem.2
  · intro hkept
    refine ⟨hafter.sameKeys, hafter.size_le, ?_, hlatest, ?_, fun id hid => ⟨?_, ?_⟩⟩
    · have hkeys : (observe session observation).weatherRisks.keys ⊆
          (observe session observation).weatherSnapshots.keys :=
        fun id hid => (hafter.sameKeys id).mpr hid
      have hlength := ((Dict.keys_nodup _).subperm hkeys).length_le
      rw [Dict.length_keys, Dict.length_keys] at hlength
      exact hlength.trans hafter.size_le
    · rw [hsnapshots, Dict.mem_keys_filterKeys]
      exact ⟨Dict.mem_keys_set.mpr (.inl rfl), decide_eq_true hkept⟩
    · rw [hprevious, Option.mem_def, Option.filter_eq_some_iff, decide_eq_true_eq] at hid
      rw [hsnapshots, Dict.mem_keys_filterKeys]
      exact ⟨mem_keys_of_mem_kept h hid.2, decide_eq_true hid.2⟩
    · intro heq
      exact hafter.previous id hid (heq ▸ hlatest)

/-- After a call at the end of any sequence of calls, the monitor points to what is kept exactly
when there was room for the snapshot. -/
theorem pointersKept_iff (hfresh : Unobserved session) (before : List Observation)
    (observation : Observation) :
    PointersKept (observe (observeAll session before) observation) observation.snapshot ↔
      RoomFor (observeAll session before) observation.snapshot := by
  have h := snapshotsAgree_observeAll (snapshotsAgree_of_unobserved hfresh) before
  exact (pointersKept_iff_snapshotKept h).trans (snapshotKept_iff_roomFor h observation.snapshot)

end Calls

/-! ## A result that arrives late -/

section Late

/-- A snapshot that was fetched at an hour of the first day. -/
def fetchedAtHour (id : String) (hour : ℤ) : WeatherSnapshot :=
  { snapshotId := id, location := ⟨"City", "1", "UTC", "amap", none, none⟩, provider := "amap"
    fetchedAt := ⟨hour * 3600000000, 0⟩, expiresAt := ⟨(hour + 1) * 3600000000, 0⟩, days := []
    snapshotFingerprint := id }

/-- Its first observation. -/
def observedAtHour (id : String) (hour : ℤ) : Observation :=
  { snapshot := fetchedAtHour id hour, risks := [], outcome := .noChange }

def unobservedSession : PlanSessionRecord :=
  .created "s" .active none none

theorem unobserved_created (sessionId : String) (status : PlanSessionStatus)
    (snapshot : Option PlanningSnapshot) (interrupt : Option String) :
    Unobserved (.created sessionId status snapshot interrupt) :=
  ⟨rfl, rfl, rfl, rfl⟩

/-- A third snapshot that is newer than the first two. -/
theorem pointersKept_iff_third :
    Unobserved unobservedSession ∧
      PointersKept
        (observe (observeAll unobservedSession [observedAtHour "a" 9, observedAtHour "b" 10])
          (observedAtHour "c" 11)) (fetchedAtHour "c" 11) :=
  ⟨unobserved_created _ _ _ _,
    (pointersKept_iff (unobserved_created _ _ _ _)
      [observedAtHour "a" 9, observedAtHour "b" 10] (observedAtHour "c" 11)).mpr (by decide)⟩

/-- A third snapshot that was fetched before the first two is dropped at once, and the monitor
points to it. -/
theorem exists_not_pointersKept :
    ∃ (session : PlanSessionRecord) (before : List Observation) (observation : Observation),
      Unobserved session ∧
        ¬ PointersKept (observe (observeAll session before) observation)
          observation.snapshot := by
  refine ⟨unobservedSession, [observedAtHour "b" 10, observedAtHour "c" 11],
    observedAtHour "a" 9, unobserved_created _ _ _ _, fun h => ?_⟩
  exact absurd h.latest_mem (by decide)

end Late

end TravelPlanAgent
