import TravelPlanAgent.Lifecycle.RecordStep
import TravelPlanAgent.Planning.Agreement

/-!
# The invariant of the session store

Versions and previews are numbered in the order in which they were stored, a version is never
written twice, and a session waits for approval only of a valid preview of its active version.

* `versionName`, `previewName`: the keys `V1`, `V2`, … and `P1`, `P2`, ….
* `SessionInvariant`: what holds of every stored record.
* `sessionInvariant_of_planStep`: every step keeps it.
* `versions_of_planStep`: no step changes or removes a version.
* `reachable_sessionInvariant`: both, over every run of requests.
-/

namespace TravelPlanAgent

variable [Platform]

/-! ## Names -/

/-- `f"V{number}"`. -/
def versionName (number : ℕ) : String := "V" ++ toString number

/-- `f"P{number}"`. -/
def previewName (number : ℕ) : String := "P" ++ toString number

omit [Platform] in
theorem versionName_injective : Function.Injective versionName := fun _ _ h =>
  toString_nat_injective ((String.append_right_inj "V").mp h)

omit [Platform] in
theorem previewName_injective : Function.Injective previewName := fun _ _ h =>
  toString_nat_injective ((String.append_right_inj "P").mp h)

/-! ## The invariant -/

/-- The version with a number: named after it, with the previous one as its parent, and with a
candidate that met the hard constraints. -/
structure VersionAt (i : ℕ) (version : PlanVersion) : Prop where
  versionId : version.versionId = versionName i
  number : version.number = i
  parentVersionId : version.parentVersionId =
    if i = 1 then none else some (versionName (i - 1))
  validated : ∃ validation ∈ version.candidate.validation, validation.status ≠ .invalid

/-- A preview that can be approved: pending, of the active version, and hard-validated. -/
structure Approvable (session : PlanSessionRecord) (preview : PlanPreview) : Prop where
  status : preview.status = .pending
  base : some preview.baseVersionId = session.activeVersionId
  hardValidation : preview.hardValidation.status ≠ .invalid
  validated : preview.candidate.validation = some preview.hardValidation

/-- What holds of every stored record. -/
structure SessionInvariant (config : LifecycleConfig) (session : PlanSessionRecord) : Prop where
  unselected : session.status = .awaitingCandidateSelection ∨
    session.status = .needsRequirementClarification → session.versions.size = 0
  versions : session.versions.Numbered versionName
  versionAt : ∀ i version, session.versions.get? (versionName (i + 1)) = some version →
    VersionAt (i + 1) version
  active : session.activeVersionId =
    if session.versions.size = 0 then none else some (versionName session.versions.size)
  room : 1 < session.versions.size → session.versions.size ≤ config.maxVersions
  previews : session.previews.Numbered previewName
  previewId : ∀ key preview, session.previews.get? key = some preview → preview.previewId = key
  pending : session.status = .awaitingChangeApproval → ∃ previewId preview,
    session.pendingPreviewId = some previewId ∧
      session.previews.get? previewId = some preview ∧ Approvable session preview

section Steps

variable {config : LifecycleConfig} {session record : PlanSessionRecord}
  {request : LifecycleResumeRequest}

omit [Platform] in
theorem sessionInvariant_created (sessionId : String) (status : PlanSessionStatus)
    (snapshot : Option PlanningSnapshot) (externalInterrupt : Option String)
    (h : status = .awaitingCandidateSelection ∨ status = .needsRequirementClarification) :
    SessionInvariant config (.created sessionId status snapshot externalInterrupt) where
  unselected _ := rfl
  versions := Dict.numbered_empty
  versionAt _ _ hget := absurd hget (by simp [PlanSessionRecord.created])
  active := rfl
  room hsize := absurd hsize (by simp [PlanSessionRecord.created, Dict.size]; decide)
  previews := Dict.numbered_empty
  previewId _ _ hget := absurd hget (by simp [PlanSessionRecord.created])
  pending hstatus := by
    change status = .awaitingChangeApproval at hstatus
    rw [hstatus] at h
    exact h.elim nofun nofun

omit [Platform] in
/-- The weather fields, the revision and the receipts do not matter. -/
theorem SessionInvariant.congr {a b : PlanSessionRecord} (h : SessionInvariant config a)
    (hstatus : b.status = a.status) (hactive : b.activeVersionId = a.activeVersionId)
    (hpending : b.pendingPreviewId = a.pendingPreviewId) (hversions : b.versions = a.versions)
    (hpreviews : b.previews = a.previews) : SessionInvariant config b where
  unselected := by rw [hstatus, hversions]; exact h.unselected
  versions := by rw [hversions]; exact h.versions
  versionAt := by rw [hversions]; exact h.versionAt
  active := by rw [hactive, hversions]; exact h.active
  room := by rw [hversions]; exact h.room
  previews := by rw [hpreviews]; exact h.previews
  previewId := by rw [hpreviews]; exact h.previewId
  pending hawaiting := by
    obtain ⟨previewId, preview, hkey, hget, happrovable⟩ := h.pending (hstatus ▸ hawaiting)
    exact ⟨previewId, preview, hpending.trans hkey, hpreviews ▸ hget,
      ⟨happrovable.status, happrovable.base.trans hactive.symm, happrovable.hardValidation,
        happrovable.validated⟩⟩

omit [Platform] in
theorem SessionInvariant.samePlan {a b : PlanSessionRecord} (h : SessionInvariant config a)
    (hab : SamePlan a b) : SessionInvariant config b :=
  h.congr hab.status hab.activeVersionId hab.pendingPreviewId hab.versions hab.previews

omit [Platform] in
/-- A status that waits for nothing asks for nothing. -/
theorem SessionInvariant.withStatus (h : SessionInvariant config session)
    {status : PlanSessionStatus}
    (settles : status = .active ∨ status = .needsEditClarification ∨ status = .requiresNewPlan) :
    SessionInvariant config { session with status } :=
  { h with
    unselected := by rcases settles with rfl | rfl | rfl <;> exact fun h => h.elim nofun nofun
    pending := by rcases settles with rfl | rfl | rfl <;> exact nofun }

omit [Platform] in
theorem SessionInvariant.withReceipt (h : SessionInvariant config session)
    (request : LifecycleResumeRequest) (versionId previewId eventId : Option String) :
    SessionInvariant config
      (TravelPlanAgent.withReceipt session request versionId previewId eventId) :=
  h.congr rfl rfl rfl rfl rfl

omit [Platform] in
/-- The active version is the last one. -/
theorem SessionInvariant.activeVersion_eq_ok (h : SessionInvariant config session)
    {version : PlanVersion} (hactive : activeVersion session = .ok version) :
    some version.versionId = session.activeVersionId := by
  unfold activeVersion at hactive
  obtain ⟨versionId, hid, hget⟩ := bind_eq_ok hactive
  have hid := orRaise_eq_ok hid
  have hget := orRaise_eq_ok hget
  obtain ⟨i, -, rfl⟩ := h.versions.mem_keys_iff.mp (Dict.mem_keys_of_get? hget)
  rw [hid, (h.versionAt i version hget).versionId]

omit [Platform] in
/-- Changing the status of a stored preview keeps the previews in order. -/
theorem SessionInvariant.setPreviewStatus (h : SessionInvariant config session)
    {preview : PlanPreview} (hpending : pendingPreview session = .ok preview)
    (status : PreviewStatus) :
    SessionInvariant config
      { session with
        previews := session.previews.set (session.pendingPreviewId.getD "")
          { preview with status }
        status := .active } := by
  obtain ⟨key, hkey, hget⟩ := Option.bind_eq_some_iff.mp (orRaise_eq_ok hpending)
  rw [hkey, Option.getD_some]
  have hactive := h.withStatus (.inl rfl)
  refine { hactive with
    previews := h.previews.set_of_mem (Dict.mem_keys_of_get? hget) _
    previewId := ?_
    pending := nofun }
  intro key' preview' hget'
  rw [Dict.get?_set] at hget'
  split at hget'
  · next heq =>
    cases hget'
    exact (h.previewId _ _ hget).trans heq.symm
  · exact h.previewId _ _ hget'

omit [Platform] in
/-- Storing the next version keeps the versions in order. -/
theorem SessionInvariant.addVersion (h : SessionInvariant config session)
    {version : PlanVersion} (hat : VersionAt (session.versions.size + 1) version)
    (hroom : session.versions.size = 0 ∨ session.versions.size < config.maxVersions) :
    SessionInvariant config
      { session with
        versions := session.versions.set (versionName (session.versions.size + 1)) version
        activeVersionId := some (versionName (session.versions.size + 1)), status := .active } := by
  have hnew := h.versions.next_not_mem versionName_injective
  have hsize := Dict.size_set_of_not_mem hnew version
  have hactive := h.withStatus (.inl rfl)
  refine { hactive with
    unselected := fun hstatus => hstatus.elim nofun nofun
    versions := h.versions.set_next versionName_injective version
    versionAt := ?_
    active := ?_
    room := ?_
    pending := nofun }
  · intro i version' hget
    dsimp only at hget
    rw [Dict.get?_set] at hget
    split at hget
    · next heq =>
      cases hget
      have := versionName_injective heq
      rw [this]
      exact hat
    · exact h.versionAt i version' hget
  · dsimp only
    rw [hsize, if_neg (Nat.succ_ne_zero _)]
  · dsimp only
    rw [hsize]
    omega

/-! ## One step -/

theorem sessionInvariant_selected (h : SessionInvariant config session)
    {snapshot : PlanningSnapshot} {candidate : PlanCandidate} {draft : CandidateDraft}
    (awaiting : session.status = .awaitingCandidateSelection)
    (deliverable : ∃ validation ∈ candidate.validation, validation.status ≠ .invalid) :
    SessionInvariant config
      { session with
        versions := session.versions.set "V1"
          (firstVersion session snapshot request candidate draft)
        activeVersionId := some "V1", status := .active } := by
  have hempty := h.unselected (.inl awaiting)
  have hat : VersionAt (session.versions.size + 1)
      (firstVersion session snapshot request candidate draft) := by
    rw [hempty]
    exact ⟨rfl, rfl, rfl, deliverable⟩
  have hadded := h.addVersion hat (.inl hempty)
  have hname : versionName (session.versions.size + 1) = "V1" := by rw [hempty]; rfl
  rwa [hname] at hadded

omit [Platform] in
theorem sessionInvariant_previewed (h : SessionInvariant config session)
    {version : PlanVersion} {preview : PlanPreview}
    (active : activeVersion session = .ok version)
    (previewId : preview.previewId = nextPreviewId session)
    (base : preview.baseVersionId = version.versionId)
    (validated : preview.candidate.validation = some preview.hardValidation)
    (status : preview.status =
      if previewValid preview.hardValidation then .pending else .invalid) :
    SessionInvariant config
      { session with
        previews := session.previews.set preview.previewId preview
        pendingPreviewId := some preview.previewId
        status := if previewValid preview.hardValidation then .awaitingChangeApproval
          else .changeRejected } := by
  have hname : preview.previewId = previewName (session.previews.size + 1) := previewId
  refine { h with
    unselected := fun hstatus => absurd hstatus (by split <;> simp)
    previews := by
      dsimp only
      rw [hname]
      exact h.previews.set_next previewName_injective preview
    previewId := ?_
    pending := ?_ }
  · intro key preview' hget
    rw [Dict.get?_set] at hget
    split at hget
    · next heq => cases hget; exact heq.symm
    · exact h.previewId _ _ hget
  · intro hstatus
    cases hvalid : previewValid preview.hardValidation with
    | false => rw [hvalid] at hstatus; exact absurd hstatus (by simp)
    | true =>
      refine ⟨preview.previewId, preview, rfl, Dict.get?_set_self _ _ _, ?_⟩
      rw [hvalid, if_pos rfl] at status
      rw [previewValid, Bool.and_eq_true] at hvalid
      exact ⟨status, (congrArg some base).trans (h.activeVersion_eq_ok active),
        of_decide_eq_true hvalid.1, validated⟩

theorem sessionInvariant_approved (h : SessionInvariant config session)
    {preview : PlanPreview} (awaiting : session.status = .awaitingChangeApproval)
    (hpending : pendingPreview session = .ok preview)
    (base : some preview.baseVersionId = session.activeVersionId)
    (room : session.versions.size < config.maxVersions) :
    SessionInvariant config
      { session with
        previews := session.previews.set (session.pendingPreviewId.getD "")
          { preview with status := .approved }
        versions := session.versions.set (approvedVersion session request preview).versionId
          (approvedVersion session request preview)
        activeVersionId := some (approvedVersion session request preview).versionId
        status := .active } := by
  obtain ⟨key, stored, hkey, hget, happrovable⟩ := h.pending awaiting
  have hstored : stored = preview := by
    have hpreview := orRaise_eq_ok hpending
    rw [hkey, Option.bind_some, hget] at hpreview
    exact Option.some.inj hpreview
  subst hstored
  -- A preview has a base version, so some version is active.
  have hsome : session.versions.size ≠ 0 := by
    intro hzero
    have hactive := h.active
    rw [if_pos hzero, ← base] at hactive
    exact absurd hactive (by simp)
  have hbase : stored.baseVersionId = versionName session.versions.size := by
    have hactive := h.active
    rw [if_neg hsome, ← base] at hactive
    exact Option.some.inj hactive
  have hat : VersionAt (session.versions.size + 1) (approvedVersion session request stored) :=
    { versionId := rfl
      number := rfl
      parentVersionId := by
        rw [if_neg (by omega), Nat.add_sub_cancel, ← hbase]
        rfl
      validated := ⟨_, happrovable.validated, happrovable.hardValidation⟩ }
  have hadded := (h.setPreviewStatus hpending .approved).addVersion hat (.inr room)
  exact hadded.congr rfl rfl rfl rfl rfl

/-- Every step keeps the invariant. -/
theorem sessionInvariant_of_recordStep (h : SessionInvariant config session)
    (step : RecordStep config session request record) : SessionInvariant config record := by
  cases step with
  | settled status eventId settles =>
    exact (h.withStatus settles).withReceipt ..
  | selected snapshot candidate draft awaiting deliverable =>
    exact (sessionInvariant_selected h awaiting deliverable).withReceipt ..
  | locked version locks editable active changed =>
    exact (h.withStatus (.inl rfl)).congr rfl rfl rfl rfl rfl
  | previewed version preview eventId active previewId base validated status locksHold =>
    exact (sessionInvariant_previewed h active previewId base validated status).withReceipt ..
  | rejected preview awaiting pending =>
    exact (h.setPreviewStatus pending .rejected).withReceipt ..
  | approved preview awaiting pending base room =>
    exact (sessionInvariant_approved h awaiting pending base room).withReceipt ..

omit [Platform] in
/-- Clarified requirements lead to a session without versions. -/
theorem sessionInvariant_clarified (h : SessionInvariant config session)
    {outcome : RequirementOutcome} (hstatus : session.status = .needsRequirementClarification)
    (hclarified : clarifiedRecord session request outcome = .ok record) :
    SessionInvariant config record := by
  have hnoted := h.withReceipt request none none none
  cases outcome with
  | needsClarification interruptId =>
    cases hclarified
    exact hnoted.congr rfl rfl rfl rfl rfl
  | completed snapshot =>
    cases hclarified
    exact { hnoted with
      unselected := fun _ => h.unselected (.inr hstatus)
      pending := nofun }
  | notCompleted message => cases hclarified

theorem sessionInvariant_of_planStep (h : SessionInvariant config session)
    (step : PlanStep config session record) : SessionInvariant config record := by
  cases step with
  | unchanged => exact h
  | clarified request outcome record status clarifies =>
    exact sessionInvariant_clarified h status clarifies
  | weather record same => exact (h.congr (b := { session with
      sessionRevision := session.sessionRevision + 1 }) rfl rfl rfl rfl rfl).samePlan same
  | changed request plan record step same =>
    exact (sessionInvariant_of_recordStep h step).samePlan same

/-! ## Versions are kept -/

theorem versions_of_recordStep (h : SessionInvariant config session)
    (step : RecordStep config session request record) {key : String} {version : PlanVersion}
    (hget : session.versions.get? key = some version) :
    record.versions.get? key = some version := by
  -- A step that stores a version stores it under the next name, which is not in use.
  have hnew (v : PlanVersion) : (session.versions.set
      (versionName (session.versions.size + 1)) v).get? key = some version := by
    rw [Dict.get?_set_of_ne, hget]
    rintro rfl
    exact h.versions.next_not_mem versionName_injective (Dict.mem_keys_of_get? hget)
  cases step with
  | settled | locked | previewed | rejected => exact hget
  | selected snapshot candidate draft awaiting deliverable =>
    have hname : versionName (session.versions.size + 1) = "V1" := by
      rw [h.unselected (.inl awaiting)]; rfl
    rw [hname] at hnew
    exact hnew _
  | approved => exact hnew _

theorem versions_of_planStep (h : SessionInvariant config session)
    (step : PlanStep config session record) {key : String} {version : PlanVersion}
    (hget : session.versions.get? key = some version) :
    record.versions.get? key = some version := by
  cases step with
  | unchanged => exact hget
  | clarified request outcome record status clarifies =>
    cases outcome <;> cases clarifies <;> exact hget
  | weather record same => rw [same.versions]; exact hget
  | changed request plan record step same =>
    rw [same.versions]
    exact versions_of_recordStep h step hget

end Steps

/-! ## Every run -/

/-- The sessions that further requests can lead to. -/
def Later (config : LifecycleConfig) : PlanSession → PlanSession → Prop :=
  Relation.ReflTransGen fun session next => ∃ requirements services interruptId request,
    next = (resume config requirements services interruptId session request).2

section Runs

variable {config : LifecycleConfig} {session later : PlanSession}

theorem sessionInvariant_of_reachable (h : Reachable config session) :
    SessionInvariant config session.record :=
  reachable_of_planStep (motive := SessionInvariant config)
    (fun _ _ _ _ hstatus => sessionInvariant_created _ _ _ _ hstatus)
    (fun _ _ hinv step => sessionInvariant_of_planStep hinv step) h

/-- A version that is stored stays as it is. -/
theorem versions_of_later (h : SessionInvariant config session.record)
    (hlater : Later config session later) {key : String} {version : PlanVersion}
    (hget : session.record.versions.get? key = some version) :
    later.record.versions.get? key = some version := by
  have hboth : SessionInvariant config later.record ∧
      later.record.versions.get? key = some version := by
    induction hlater with
    | refl => exact ⟨h, hget⟩
    | tail _ hnext ih =>
      obtain ⟨requirements, services, interruptId, request, rfl⟩ := hnext
      exact resume_of_planStep (motive := fun record =>
        SessionInvariant config record ∧ record.versions.get? key = some version)
        (fun _ _ hmotive step => ⟨sessionInvariant_of_planStep hmotive.1 step,
          versions_of_planStep hmotive.1 step hmotive.2⟩)
        requirements services interruptId request ih
  exact hboth.2

/-- Every reachable session satisfies the invariant of the store, its preview ids are distinct,
and its versions are there for good. -/
theorem reachable_sessionInvariant (h : Reachable config session) :
    SessionInvariant config session.record ∧
      (session.record.previews.values.map PlanPreview.previewId).Nodup ∧
      ∀ later, Later config session later → ∀ key version,
        session.record.versions.get? key = some version →
        later.record.versions.get? key = some version := by
  have hinv := sessionInvariant_of_reachable h
  refine ⟨hinv, ?_, fun later hlater key version hget => versions_of_later hinv hlater hget⟩
  -- Every preview is stored under its own id, and keys are distinct.
  have hids : session.record.previews.values.map PlanPreview.previewId =
      session.record.previews.keys := by
    rw [Dict.values, Dict.keys, List.map_map]
    refine List.map_congr_left fun entry hentry => ?_
    exact hinv.previewId _ _ (Dict.mem_entries_iff.mp hentry)
  rw [hids]
  exact Dict.keys_nodup _

end Runs

/-! ## A session to evaluate on -/

namespace Sample

omit [Platform]

/-- The plans of some drafts, validated. -/
def plansOf (drafts : List CandidateDraft) (pois : List PlanningPOI) : List PlanCandidate :=
  let := plainPlatform
  match materializeCandidates trip drafts pois (routesFor drafts pois settings) settings with
  | .ok candidates => candidates.map fun candidate =>
      { candidate with validation := some (validateCandidate trip candidate pois) }
  | .error _ => []

/-- A planning that ended with these drafts. -/
def snapshotOf (drafts : List CandidateDraft) (pois : List PlanningPOI) : PlanningSnapshot :=
  { trip, candidates := plansOf drafts pois, recommendedCandidateId := "balanced-r0"
    candidateDrafts := drafts, planningPois := pois
    routeResults := @routesFor plainPlatform drafts pois settings, criticStatus := .disabled }

/-- No model answers; every route is found. -/
def services : LifecycleServices :=
  { tools :=
      { searchPoi := fun _ => .error .toolUnavailable
        getRoute := fun query =>
          .ok (.success (route query.mode (if query.mode = .driving then 14 else 19)) none none) }
    resolveLocation := fun _ => .error .weatherUnavailable
    getForecast := fun _ _ _ => .error .weatherUnavailable
    parseEdit := fun _ => .error .editUnavailable
    critique := fun _ => .error .criticUnavailable
    token := "token", now := at_ day1 7, fault := none }

def config : LifecycleConfig :=
  { planningPolicy := .default, unknownFactPolicy := .assumeWithWarning, criticEnabled := false
    criticPolicy := .default, evidenceBudget := .default, weatherEnabled := false }

/-- A request of this action that expects nothing. -/
def request (interruptId requestId : String) (action : LifecycleAction) :
    LifecycleResumeRequest :=
  ⟨interruptId, requestId, none, none, action⟩

/-- A session that waits for a selection among the plans of these drafts. -/
def startedWith (drafts : List CandidateDraft) (pois : List PlanningPOI) : PlanSession :=
  startLifecycle services "i1"
    (.created "s" .awaitingCandidateSelection (some (snapshotOf drafts pois)) none)

/-- Send a request; the next interrupt is named after it. -/
def send (session : PlanSession) (interruptId requestId : String) (action : LifecycleAction) :
    ResumeReply × PlanSession :=
  @resume plainPlatform config (fun _ => .error .editUnavailable) (fun _ => services)
    ("after " ++ requestId) session (request interruptId requestId action)

/-- The session after its recommendation was accepted. -/
def selectedFrom (drafts : List CandidateDraft) (pois : List PlanningPOI) : PlanSession :=
  (send (startedWith drafts pois) "i1" "r1" .acceptRecommendation).2

theorem reachable_startedWith (drafts : List CandidateDraft) (pois : List PlanningPOI) :
    @Reachable plainPlatform config (startedWith drafts pois) :=
  @Reachable.created plainPlatform config _ (.planned "s" (snapshotOf drafts pois) services "i1")

theorem reachable_send {session : PlanSession} (h : @Reachable plainPlatform config session)
    (interruptId requestId : String) (action : LifecycleAction) :
    @Reachable plainPlatform config (send session interruptId requestId action).2 :=
  @Reachable.resumed plainPlatform config session _ _ _ _ h

/-- Two places on the first day. -/
def morningDraft : CandidateDraft :=
  ⟨"balanced-r0", .balanced, [⟨day1, ["a", "c"]⟩, ⟨day2, []⟩]⟩

/-- The second place is removed. -/
def dropSecond : EditPatch := ⟨[⟨.removeItem, none, some "c", none, none, none⟩]⟩

/-- Both places, selected. -/
def morningSession : PlanSession := selectedFrom [morningDraft] [poi "a" 1 60, poi "c" 3 60]

/-- The session after the removal was previewed and approved. -/
def approvedDrop : PlanSession :=
  (send (send morningSession "after r1" "r2" (.edit dropSecond)).2 "after r2" "r3"
    (.approvePreview "P1" "token")).2

theorem versions_approvedDrop : approvedDrop.record.versions.keys = ["V1", "V2"] := by
  decide +kernel

theorem later_send (session : PlanSession) (interruptId requestId : String)
    (action : LifecycleAction) :
    @Later plainPlatform config session (send session interruptId requestId action).2 :=
  .single ⟨_, _, _, _, rfl⟩

end Sample

omit [Platform] in
/-- The approved removal stores a second version, and leaves the first one as it was selected. -/
theorem reachable_sessionInvariant_approvedDrop :
    Sample.approvedDrop.record.versions.keys = ["V1", "V2"] ∧
      SessionInvariant Sample.config Sample.approvedDrop.record ∧
      ∀ key version, Sample.morningSession.record.versions.get? key = some version →
        Sample.approvedDrop.record.versions.get? key = some version := by
  have hselected : @Reachable plainPlatform Sample.config Sample.morningSession :=
    Sample.reachable_send (Sample.reachable_startedWith ..) ..
  have hlater := (Sample.later_send Sample.morningSession "after r1" "r2"
    (.edit Sample.dropSecond)).trans (Sample.later_send _ "after r2" "r3"
      (.approvePreview "P1" "token"))
  have happroved : @Reachable plainPlatform Sample.config Sample.approvedDrop :=
    Sample.reachable_send (Sample.reachable_send hselected ..) ..
  exact ⟨Sample.versions_approvedDrop, (@reachable_sessionInvariant plainPlatform _ _
      happroved).1,
    (@reachable_sessionInvariant plainPlatform _ _ hselected).2.2 _ hlater⟩

end TravelPlanAgent
