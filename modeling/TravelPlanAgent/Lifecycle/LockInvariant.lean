import TravelPlanAgent.Lifecycle.SessionInvariant

/-!
# Locks are never broken

A lock is taken on the active version, and locks cannot change while a preview waits for
approval.  The guard of a preview checks every lock, so the locks hold on the pending preview
too, and approving it makes it the active version.

* `LockHolds`: what a lock promises about a candidate.
* `LockInvariant`: the locks hold on the active version and on the preview that waits.
* `lockInvariant_of_planStep`: every step keeps it.
* `reachable_lockHolds`: the promise, for every reachable session.
-/

namespace TravelPlanAgent

open Calendar

variable [Platform]

/-! ## The promise of a lock -/

/-- The day or the item that a lock protects is there, with the expected fingerprint. -/
def LockHolds (candidate : PlanCandidate) (lock : PlanLock) : Prop :=
  match lock.kind with
  | .day => ∃ day ∈ candidate.days,
      day.date.isoformat = lock.targetId ∧ dayFingerprint day = lock.expectedFingerprint
  | .item => ∃ day ∈ candidate.days, ∃ item ∈ day.items,
      item.itemId = some lock.targetId ∧
        itemFingerprint item day.date = lock.expectedFingerprint

omit [Platform] in
theorem dayOn_eq_some {candidate : PlanCandidate} {date : Date} {day : DayPlan}
    (h : dayOn candidate date = some day) : day ∈ candidate.days ∧ day.date = date := by
  have hdate := Selection.pos_of_lastWith h
  exact ⟨Selection.mem_of_lastWith h, of_decide_eq_true hdate⟩

omit [Platform] in
theorem dayNamed_eq_some {candidate : PlanCandidate} {isoDate : String} {day : DayPlan}
    (h : dayNamed candidate isoDate = some day) :
    day ∈ candidate.days ∧ day.date.isoformat = isoDate := by
  have hnamed := List.find?_some h
  exact ⟨List.mem_of_find?_eq_some h, of_decide_eq_true hnamed⟩

omit [Platform] in
theorem locateItem_eq_some {candidate : PlanCandidate} {itemId : String} {date : Date}
    {item : PlanItem} (h : locateItem candidate itemId = some (date, item)) :
    ∃ day ∈ candidate.days, day.date = date ∧ item ∈ day.items ∧ item.itemId = some itemId := by
  have hmem := List.mem_of_find?_eq_some h
  have hid := List.find?_some h
  simp only [PlanCandidate.datedItems, List.mem_flatMap, List.mem_map, Prod.mk.injEq] at hmem
  obtain ⟨day, hday, item', hitem, rfl, rfl⟩ := hmem
  exact ⟨day, hday, rfl, hitem, of_decide_eq_true hid⟩

/-- The guard of a preview checks the promise. -/
theorem LockHolds.of_lockHolds {candidate : PlanCandidate} {lock : PlanLock}
    (h : lockHolds candidate lock = true) : LockHolds candidate lock := by
  unfold lockHolds at h
  unfold LockHolds
  cases hkind : lock.kind with
  | day =>
    rw [hkind] at h
    obtain ⟨day, hday, hfingerprint⟩ := (Option.any_eq_true _ _).mp h
    obtain ⟨date, hdate, hon⟩ := Option.bind_eq_some_iff.mp hday
    obtain ⟨hmem, rfl⟩ := dayOn_eq_some hon
    exact ⟨day, hmem, Date.isoformat_eq_of_fromisoformat hdate, of_decide_eq_true hfingerprint⟩
  | item =>
    rw [hkind] at h
    obtain ⟨⟨date, item⟩, hitem, hfingerprint⟩ := (Option.any_eq_true _ _).mp h
    obtain ⟨day, hday, rfl, hmem, hid⟩ := locateItem_eq_some hitem
    exact ⟨day, hday, item, hmem, hid, of_decide_eq_true hfingerprint⟩

/-- A new lock holds on the version that it was taken on. -/
theorem lockHolds_of_lockFingerprint {candidate : PlanCandidate} {kind : LockKind}
    {targetId fingerprint lockId requestId : String}
    (h : lockFingerprint candidate kind targetId = .ok fingerprint) :
    LockHolds candidate ⟨lockId, kind, targetId, fingerprint, requestId⟩ := by
  unfold lockFingerprint at h
  cases kind with
  | day =>
    obtain ⟨day, hday, h⟩ := bind_eq_ok h
    cases h
    obtain ⟨hmem, hdate⟩ := dayNamed_eq_some (orRaise_eq_ok hday)
    exact ⟨day, hmem, hdate, rfl⟩
  | item =>
    obtain ⟨⟨date, item⟩, hitem, h⟩ := bind_eq_ok h
    cases h
    obtain ⟨day, hday, rfl, hmem, hid⟩ := locateItem_eq_some (orRaise_eq_ok hitem)
    exact ⟨day, hday, item, hmem, hid, rfl⟩

/-- Locking and unlocking keep what every lock promises. -/
theorem lockHolds_of_changedLocks {session : PlanSessionRecord} {version : PlanVersion}
    {request : LifecycleResumeRequest} {locks : Dict String PlanLock}
    (hlocks : changedLocks session version request = .ok locks)
    (h : ∀ lock ∈ session.locks.values, LockHolds version.candidate lock) :
    ∀ lock ∈ locks.values, LockHolds version.candidate lock := by
  intro lock hlock
  unfold changedLocks at hlocks
  split at hlocks
  · obtain ⟨fingerprint, hfingerprint, hlocks⟩ := bind_eq_ok hlocks
    cases hlocks
    rcases Dict.mem_values_set hlock with rfl | hold
    · exact lockHolds_of_lockFingerprint hfingerprint
    · exact h lock hold
  · obtain ⟨_, -, hlocks⟩ := bind_eq_ok hlocks
    cases hlocks
    exact h lock (Dict.mem_values_of_erase hlock)
  · cases hlocks

/-! ## The invariant -/

/-- The locks hold on the active version and on the preview that waits for approval. -/
structure LockInvariant (session : PlanSessionRecord) : Prop where
  unselected : session.activeVersionId = none → session.locks.values = []
  active : ∀ version, activeVersion session = .ok version →
    ∀ lock ∈ session.locks.values, LockHolds version.candidate lock
  pending : session.status = .awaitingChangeApproval → ∀ preview,
    pendingPreview session = .ok preview →
    ∀ lock ∈ session.locks.values, LockHolds preview.candidate lock

section Steps

variable {config : LifecycleConfig} {session record : PlanSessionRecord}
  {request : LifecycleResumeRequest}

theorem lockInvariant_created (sessionId : String) (status : PlanSessionStatus)
    (snapshot : Option PlanningSnapshot) (externalInterrupt : Option String) :
    LockInvariant (.created sessionId status snapshot externalInterrupt) where
  unselected _ := rfl
  active _ _ _ hlock := absurd hlock List.not_mem_nil
  pending _ _ _ _ hlock := absurd hlock List.not_mem_nil

theorem LockInvariant.congr {a b : PlanSessionRecord} (h : LockInvariant a)
    (hstatus : b.status = a.status) (hactive : b.activeVersionId = a.activeVersionId)
    (hpending : b.pendingPreviewId = a.pendingPreviewId) (hversions : b.versions = a.versions)
    (hpreviews : b.previews = a.previews) (hlocks : b.locks = a.locks) : LockInvariant b where
  unselected := by rw [hactive, hlocks]; exact h.unselected
  active := by
    unfold activeVersion
    rw [hactive, hversions, hlocks]
    exact h.active
  pending := by
    unfold pendingPreview
    rw [hstatus, hpending, hpreviews, hlocks]
    exact h.pending

theorem LockInvariant.samePlan {a b : PlanSessionRecord} (h : LockInvariant a)
    (hab : SamePlan a b) : LockInvariant b :=
  h.congr hab.status hab.activeVersionId hab.pendingPreviewId hab.versions hab.previews hab.locks

theorem LockInvariant.withReceipt (h : LockInvariant session)
    (request : LifecycleResumeRequest) (versionId previewId eventId : Option String) :
    LockInvariant (TravelPlanAgent.withReceipt session request versionId previewId eventId) :=
  h.congr rfl rfl rfl rfl rfl rfl

/-- Where nothing waits for approval, only the active version matters. -/
theorem LockInvariant.settle (h : LockInvariant session) (status : PlanSessionStatus)
    (hstatus : status ≠ .awaitingChangeApproval) (previews : Dict String PlanPreview) :
    LockInvariant { session with status, previews } :=
  { h with pending := fun hawaiting => absurd hawaiting hstatus }

/-- The first version meets no lock. -/
theorem lockInvariant_selected (hsession : SessionInvariant config session)
    (h : LockInvariant session) (awaiting : session.status = .awaitingCandidateSelection)
    (versions : Dict String PlanVersion) (versionId : String) :
    LockInvariant
      { session with versions, activeVersionId := some versionId, status := .active } where
  unselected := nofun
  active _ _ lock hlock := by
    have hnone : session.activeVersionId = none := by
      rw [hsession.active, if_pos (hsession.unselected (.inl awaiting))]
    have hlocks : lock ∈ session.locks.values := hlock
    rw [h.unselected hnone] at hlocks
    exact absurd hlocks List.not_mem_nil
  pending := nofun

theorem lockInvariant_locked {version : PlanVersion} {locks : Dict String PlanLock}
    (hactive : activeVersion session = .ok version)
    (hholds : ∀ lock ∈ locks.values, LockHolds version.candidate lock) :
    LockInvariant { session with locks, status := .active } where
  unselected hnone := by
    unfold activeVersion at hactive
    rw [show session.activeVersionId = none from hnone] at hactive
    cases hactive
  active version' hactive' := by
    change activeVersion session = .ok version' at hactive'
    rw [hactive] at hactive'
    cases hactive'
    exact hholds
  pending := nofun

/-- The preview that waits for approval passed the guard. -/
theorem lockInvariant_previewed (h : LockInvariant session) {preview : PlanPreview}
    (locksHold : ∀ lock ∈ lockList session, lockHolds preview.candidate lock = true)
    (status : PlanSessionStatus) :
    LockInvariant
      { session with
        previews := session.previews.set preview.previewId preview
        pendingPreviewId := some preview.previewId, status } where
  unselected := h.unselected
  active := h.active
  pending _ pending hpending lock hlock := by
    have hget := orRaise_eq_ok hpending
    rw [Option.bind_some, Dict.get?_set_self] at hget
    cases hget
    exact .of_lockHolds (locksHold lock hlock)

/-- The preview that becomes active brings the locks along. -/
theorem lockInvariant_approved (h : LockInvariant session) {preview : PlanPreview}
    (awaiting : session.status = .awaitingChangeApproval)
    (hpending : pendingPreview session = .ok preview) (previews : Dict String PlanPreview) :
    LockInvariant
      { session with
        previews
        versions := session.versions.set (approvedVersion session request preview).versionId
          (approvedVersion session request preview)
        activeVersionId := some (approvedVersion session request preview).versionId
        status := .active } where
  unselected := nofun
  active version hactive lock hlock := by
    unfold activeVersion at hactive
    obtain ⟨versionId, hid, hget⟩ := bind_eq_ok hactive
    cases orRaise_eq_ok hid
    have hget := orRaise_eq_ok hget
    rw [Dict.get?_set_self] at hget
    cases hget
    exact h.pending awaiting preview hpending lock hlock
  pending := nofun

/-- Every step keeps the locks. -/
theorem lockInvariant_of_recordStep (hsession : SessionInvariant config session)
    (h : LockInvariant session) (step : RecordStep config session request record) :
    LockInvariant record := by
  cases step with
  | settled status eventId settles =>
    refine (h.settle status ?_ session.previews).withReceipt ..
    rcases settles with rfl | rfl | rfl <;> decide
  | selected snapshot candidate draft awaiting deliverable =>
    exact (lockInvariant_selected hsession h awaiting _ _).withReceipt ..
  | locked version locks editable active changed =>
    exact (lockInvariant_locked active
      (lockHolds_of_changedLocks changed (h.active version active))).withReceipt ..
  | previewed version preview eventId active previewId base validated status locksHold =>
    exact (lockInvariant_previewed h locksHold _).withReceipt ..
  | rejected preview awaiting pending =>
    exact (h.settle .active (by decide) _).withReceipt ..
  | approved preview awaiting pending base room =>
    exact (lockInvariant_approved h awaiting pending _).withReceipt ..

theorem lockInvariant_of_planStep (hsession : SessionInvariant config session)
    (h : LockInvariant session) (step : PlanStep config session record) :
    LockInvariant record := by
  cases step with
  | unchanged => exact h
  | clarified request outcome record status clarifies =>
    have hnoted := h.withReceipt request none none none
    cases outcome with
    | needsClarification interruptId =>
      cases clarifies
      exact hnoted.congr rfl rfl rfl rfl rfl rfl
    | completed snapshot =>
      cases clarifies
      exact { hnoted with pending := nofun }
    | notCompleted message => cases clarifies
  | weather record same => exact (h.congr (b := { session with
      sessionRevision := session.sessionRevision + 1 }) rfl rfl rfl rfl rfl rfl).samePlan same
  | changed request plan record step same =>
    exact (lockInvariant_of_recordStep hsession h step).samePlan same

end Steps

/-! ## Every run -/

variable {config : LifecycleConfig} {session : PlanSession}

theorem lockInvariant_of_reachable (h : Reachable config session) :
    LockInvariant session.record := by
  have hboth := reachable_of_planStep
    (motive := fun record => SessionInvariant config record ∧ LockInvariant record)
    (fun _ _ _ _ hstatus => ⟨sessionInvariant_created _ _ _ _ hstatus, lockInvariant_created ..⟩)
    (fun _ _ hinv step => ⟨sessionInvariant_of_planStep hinv.1 step,
      lockInvariant_of_planStep hinv.1 hinv.2 step⟩) h
  exact hboth.2

/-- In every reachable session with an active version, every lock holds on it. -/
theorem reachable_lockHolds (h : Reachable config session) {versionId : String}
    (hactive : session.record.activeVersionId = some versionId) :
    ∃ version, session.record.versions.get? versionId = some version ∧
      ∀ lock ∈ session.record.locks.values, LockHolds version.candidate lock := by
  have hsession := sessionInvariant_of_reachable h
  -- The active version is the last one, and it is stored.
  have hsize : session.record.versions.size ≠ 0 := fun hzero => by
    have hnone := hsession.active
    rw [if_pos hzero, hactive] at hnone
    cases hnone
  have hname := hsession.active
  rw [if_neg hsize, hactive, Option.some.injEq] at hname
  subst hname
  obtain ⟨version, hget⟩ := Dict.exists_get?_of_mem_keys (hsession.versions.mem_keys_iff.mpr
    ⟨session.record.versions.size - 1, by omega, by rw [Nat.sub_add_cancel (by omega)]⟩)
  have hversion : activeVersion session.record = .ok version := by
    unfold activeVersion
    rw [hactive]
    change orRaise (session.record.versions.get? _) Failure.keyError = _
    rw [hget]
    rfl
  exact ⟨version, hget, (lockInvariant_of_reachable h).active version hversion⟩

omit [Platform] in
/-- A lock on the first day of the two-day trip holds. -/
theorem reachable_lockHolds_sample :
    let := plainPlatform
    let session := (Sample.send (Sample.selectedFrom [Sample.draft] Sample.pois) "after r1" "r2"
      (.lock .day Sample.day1.isoformat)).2
    session.record.locks.keys = ["day:2026-10-01"] ∧
      ∃ version, session.record.versions.get? "V1" = some version ∧
        ∀ lock ∈ session.record.locks.values, LockHolds version.candidate lock :=
  ⟨by decide +kernel, @reachable_lockHolds plainPlatform _ _
    (Sample.reachable_send (Sample.reachable_send (Sample.reachable_startedWith ..) ..) ..) _
    (by decide +kernel)⟩

end TravelPlanAgent
