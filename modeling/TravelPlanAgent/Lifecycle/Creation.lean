import TravelPlanAgent.Graph.Snapshot
import TravelPlanAgent.Lifecycle.OpenMoves

/-!
# Sessions of completed planning runs

A session starts from the checkpoint of a planning run that completed.  Its first question is which
candidate to take.

* `planningSnapshot`, `createSession`: the record that a planning run leads to.
* `createSession_iff`: which runs lead to one.
* `Selected`: a session whose only version is a candidate of the run, with the draft that the
  candidate was made of.
* `selection_completes_iff`: which candidates the first request may take.
-/

namespace TravelPlanAgent

open Calendar Selection PlanningGraph

variable [Platform]

/-! ## Creating a session -/

/-- `_planning_snapshot`. -/
def planningSnapshot (state : TravelState) : Result PlanningSnapshot := do
  let selected ← orRaise state.selectedPlan
    (.runtimeError "completed planning checkpoint has no selected plan")
  return { trip := state.trip, candidates := state.candidates
           recommendedCandidateId := selected.id, candidateDrafts := state.candidateDrafts
           planningPois := state.planningPois, routeResults := state.routeResults
           criticStatus := state.criticStatus }

/-- What the user is told when a planning does not complete. -/
def notCompletedMessage (message : Option String) : String :=
  match message with
  | none => "规划没有产生可进入生命周期的候选"
  | some text => if text = "" then "规划没有产生可进入生命周期的候选" else text

/-- `create`, from the last state of the planning run to the record that is stored. -/
def createSession (sessionId : String) (state : TravelState) : Result PlanSessionRecord := do
  require (state.status = "completed" ∧ state.selectedPlan.isSome)
    (.lifecycleAction "planning_not_completed" (notCompletedMessage state.message))
  let snapshot ← planningSnapshot state
  return .created sessionId .awaitingCandidateSelection (some snapshot) none

section Creating

omit [Platform]

variable {sessionId : String} {state : TravelState} {record : PlanSessionRecord}

theorem createSession_eq_ok (h : createSession sessionId state = .ok record) :
    state.status = "completed" ∧ ∃ plan, state.selectedPlan = some plan ∧
      record = .created sessionId .awaitingCandidateSelection
        (some { trip := state.trip, candidates := state.candidates
                recommendedCandidateId := plan.id, candidateDrafts := state.candidateDrafts
                planningPois := state.planningPois, routeResults := state.routeResults
                criticStatus := state.criticStatus }) none := by
  obtain ⟨_, hcompleted, h⟩ := bind_eq_ok h
  obtain ⟨snapshot, hsnapshot, h⟩ := bind_eq_ok h
  obtain ⟨plan, hplan, hsnapshot⟩ := bind_eq_ok hsnapshot
  cases hsnapshot
  cases h
  exact ⟨(require_eq_ok hcompleted).1, plan, orRaise_eq_ok hplan, rfl⟩

end Creating

/-! ## The first request -/

/-- The candidate that a request names, of those that a run has left. -/
def NamesCandidate (state : TravelState) (action : LifecycleAction) (candidateId : String) : Prop :=
  action = .selectCandidate candidateId ∨
    (action = .acceptRecommendation ∧ ∃ plan, state.selectedPlan = some plan ∧
      plan.id = candidateId)

/-- `active_version` of `response_from_session`. -/
def shownVersion (record : PlanSessionRecord) : Option PlanVersion :=
  (record.activeVersionId.filter fun versionId => versionId ≠ "").bind record.versions.get?

/-- `pending_preview` of `response_from_session`. -/
def shownPreview (record : PlanSessionRecord) : Option PlanPreview :=
  (record.pendingPreviewId.filter fun previewId => previewId ≠ "").bind record.previews.get?

/-- A session is active and shows its only version: a candidate of the run, with the draft that the
candidate was made of and all that it was made with. -/
structure Selected (setup : PlanningSetup) (state : TravelState) (candidate : PlanCandidate)
    (record : PlanSessionRecord) : Prop where
  status : record.status = .active
  noPreview : shownPreview record = none
  version : ∃ version, record.versions.entries = [("V1", version)] ∧
    shownVersion record = some version ∧ version.versionId = "V1" ∧
    version.selectedCandidateId = candidate.id ∧
    version.candidate = withStableItemIds record.sessionId candidate ∧
    version.planningPois = state.planningPois ∧ version.routeResults = state.routeResults ∧
    version.candidateDraft ∈ state.candidateDrafts ∧
    MadeOf setup state version.candidateDraft candidate

/-- A first request that nothing stands in the way of: nothing in the environment fails, it answers
the pending interrupt, and it expects nothing that is stale. -/
structure FirstRequest (started : LifecycleServices) (services : ℕ → LifecycleServices)
    (interruptId : String) (record : PlanSessionRecord) (request : LifecycleResumeRequest) :
    Prop where
  started : started.fault = none
  running : ∀ n, (services n).fault = none
  interruptId : request.interruptId = interruptId
  expected : ensureExpected record request = .ok ⟨⟩

section Selecting

variable {config : LifecycleConfig} {started : LifecycleServices}
  {services : ℕ → LifecycleServices} {interruptId sessionId candidateId : String}
  {record : PlanSessionRecord} {request : LifecycleResumeRequest} {setup : PlanningSetup}
  {state : TravelState} {plan : PlanCandidate}

/-- The snapshot that a session is created with. -/
def snapshotFrom (state : TravelState) (plan : PlanCandidate) : PlanningSnapshot :=
  { trip := state.trip, candidates := state.candidates, recommendedCandidateId := plan.id
    candidateDrafts := state.candidateDrafts, planningPois := state.planningPois
    routeResults := state.routeResults, criticStatus := state.criticStatus }

/-- A first request is run by `select_candidate`. -/
theorem resume_first (config : LifecycleConfig)
    (hrecord : record = .created sessionId .awaitingCandidateSelection
      (some (snapshotFrom state plan)) none)
    (hfirst : FirstRequest started services interruptId record request)
    (hroute : routeAction request.action = .ok .selectCandidate)
    (requirements : String → Result RequirementOutcome) (next : String) :
    resume config requirements services next (startLifecycle started interruptId record) request =
      (replyOf (runNodes config services (recursionLimit - 2) record
          (dispatched record (initialLifecycleState record) request) .selectCandidate),
        sessionAfter next (runNodes config services (recursionLimit - 2) record
          (dispatched record (initialLifecycleState record) request) .selectCandidate)) := by
  have hpayload : interruptPayload record (initialLifecycleState record) =
      .ok (.candidateSelection plan.id (state.candidates.map PlanCandidate.id) 0) := by
    rw [hrecord]
    rfl
  have hsession : startLifecycle started interruptId record =
      ⟨record, some ⟨initialLifecycleState record, .interrupted request.interruptId
        (.candidateSelection plan.id (state.candidates.map PlanCandidate.id) 0)⟩⟩ := by
    unfold startLifecycle startRun
    simp only [hfirst.started, hpayload, hfirst.interruptId]
    rfl
  have hclear : record.status ≠ .needsRequirementClarification := by
    rw [hrecord]
    exact PlanSessionStatus.noConfusion
  rw [hsession, resume_of_pending rfl hclear (by rw [hrecord]; rfl),
    runRequest_eq hpayload hroute (hfirst.running _) (hfirst.running _)]

omit [Platform] in
/-- A request that names a candidate is routed to `select_candidate`. -/
theorem NamesCandidate.routed (h : NamesCandidate state request.action candidateId)
    (hplan : state.selectedPlan = some plan) :
    routeAction request.action = .ok .selectCandidate ∧
      requestedCandidateId (snapshotFrom state plan) request.action = .ok candidateId := by
  rcases h with haction | ⟨haction, chosen, hchosen, rfl⟩
  · rw [haction]
    exact ⟨rfl, rfl⟩
  · obtain rfl : plan = chosen := Option.some.inj (hplan.symm.trans hchosen)
    rw [haction]
    exact ⟨rfl, rfl⟩

/-- The record after a selection. -/
def selectedRecord (record : PlanSessionRecord) (request : LifecycleResumeRequest)
    (version : PlanVersion) : PlanSessionRecord :=
  withReceipt { record with
    versions := record.versions.set version.versionId version
    activeVersionId := some version.versionId, status := .active }
    request (some version.versionId) none none

/-- A deliverable candidate with a draft can be selected. -/
theorem selectCandidate_of_deliverable (lifecycle : LifecycleState) {candidate : PlanCandidate}
    {draft : CandidateDraft}
    (hrecord : record = .created sessionId .awaitingCandidateSelection
      (some (snapshotFrom state plan)) none)
    (hrequest : lifecycle.action = some request)
    (hexpected : ensureExpected record request = .ok ⟨⟩)
    (hrequested : requestedCandidateId (snapshotFrom state plan) request.action = .ok candidateId)
    (hcandidate : state.candidates.find? (fun c => decide (c.id = candidateId)) = some candidate)
    (hdeliverable : isDeliverable candidate = true)
    (hdraft : state.candidateDrafts.find? (fun d => decide (d.id = candidateId)) = some draft) :
    selectCandidate lifecycle record = .ok (.saved
      (selectedRecord record request
        (firstVersion record (snapshotFrom state plan) request candidate draft))
      { lifecycle with status := .active, action := none }) := by
  have hvalid : ∃ validation ∈ candidate.validation, validation.status ≠ .invalid := by
    unfold isDeliverable at hdeliverable
    split at hdeliverable
    · cases hdeliverable
    · next validation hvalidation => exact ⟨validation, hvalidation, of_decide_eq_true hdeliverable⟩
  have hstatus : record.status = .awaitingCandidateSelection := by rw [hrecord]; rfl
  have hsnapshot : record.snapshot = some (snapshotFrom state plan) := by rw [hrecord]; rfl
  have hcandidate : (snapshotFrom state plan).candidates.find?
      (fun c => decide (c.id = candidateId)) = some candidate := hcandidate
  have hdraft : (snapshotFrom state plan).candidateDrafts.find?
      (fun d => decide (d.id = candidateId)) = some draft := hdraft
  unfold selectCandidate
  simp only [requestOf, hrequest, orRaise, bind, Except.bind, hexpected, require, hstatus,
    if_true, hsnapshot, hrequested, hcandidate, if_pos hvalid, hdraft, pure, Except.pure]
  rw [← hsnapshot]
  rfl

/-- A candidate that is not deliverable is refused. -/
theorem deliverable_of_selectCandidate {lifecycle : LifecycleState} {outcome : NodeOutcome}
    (hrecord : record = .created sessionId .awaitingCandidateSelection
      (some (snapshotFrom state plan)) none)
    (hrequest : lifecycle.action = some request)
    (hrequested : requestedCandidateId (snapshotFrom state plan) request.action = .ok candidateId)
    (h : selectCandidate lifecycle record = .ok outcome) :
    ∃ candidate ∈ deliverableCandidates state, candidate.id = candidateId := by
  obtain ⟨found, hfound, h⟩ := bind_eq_ok h
  obtain rfl : request = found :=
    Option.some.inj (hrequest.symm.trans (orRaise_eq_ok hfound))
  obtain ⟨_, -, h⟩ := bind_eq_ok h
  obtain ⟨_, -, h⟩ := bind_eq_ok h
  obtain ⟨snapshot, hsnapshot, h⟩ := bind_eq_ok h
  obtain rfl : snapshotFrom state plan = snapshot := by
    rw [hrecord] at hsnapshot
    exact Option.some.inj (orRaise_eq_ok hsnapshot)
  obtain ⟨id, hid, h⟩ := bind_eq_ok h
  obtain rfl : candidateId = id := Except.ok.inj (hrequested.symm.trans hid)
  obtain ⟨candidate, hcandidate, h⟩ := bind_eq_ok h
  obtain ⟨_, hvalid, -⟩ := bind_eq_ok h
  obtain ⟨hmem, hid⟩ := of_find?_decide (orRaise_eq_ok hcandidate)
  obtain ⟨validation, hvalidation, hstatus⟩ := require_eq_ok hvalid
  refine ⟨candidate, List.mem_filter.mpr ⟨hmem, ?_⟩, hid⟩
  unfold isDeliverable
  rw [Option.mem_def.mp hvalidation]
  exact decide_eq_true hstatus

end Selecting

/-! ## From a planning run to a selected plan -/

section Selections

variable {setup : PlanningSetup} {world : PlanningWorld} {planning : PlanningRequest}
  {run : Option RunContext} {state : TravelState} {started : LifecycleServices}
  {services : ℕ → LifecycleServices} {interruptId sessionId candidateId : String}
  {record : PlanSessionRecord} {request : LifecycleResumeRequest}

/-- A run leads to a session exactly when it completes. -/
theorem createSession_iff (sessionId : String) (hvalidator : setup.overrides.skipValidator = false)
    (hrun : runPlanning setup world planning run = .ok state) :
    (∃ record, createSession sessionId state = .ok record) ↔ Completes state := by
  constructor
  · rintro ⟨record, hrecord⟩
    obtain ⟨hstatus, -⟩ := createSession_eq_ok hrecord
    refine (deliveryInvariant_of_runPlanning hvalidator hrun).2.resolve_right fun hgivesUp => ?_
    rw [hgivesUp.status] at hstatus
    exact absurd hstatus (by decide)
  · rintro ⟨hstatus, plan, -, hplan, -⟩
    refine ⟨.created sessionId .awaitingCandidateSelection (some (snapshotFrom state plan)) none,
      ?_⟩
    unfold createSession planningSnapshot
    simp only [hstatus, hplan, Option.isSome_some, and_self, require, if_true, orRaise, bind,
      Except.bind, pure, Except.pure, snapshotFrom]

/-- The first version of a selected candidate is all that the session has and shows. -/
theorem selected_firstVersion {plan candidate : PlanCandidate} {draft : CandidateDraft}
    (hrecord : record = .created sessionId .awaitingCandidateSelection
      (some (snapshotFrom state plan)) none)
    (hdraft : draft ∈ state.candidateDrafts) (hmade : MadeOf setup state draft candidate) :
    Selected setup state candidate (selectedRecord record request
      (firstVersion record (snapshotFrom state plan) request candidate draft)) where
  status := rfl
  noPreview := by
    subst hrecord
    rfl
  version := by
    subst hrecord
    exact ⟨_, rfl, rfl, rfl, rfl, rfl, rfl, rfl, hdraft, hmade⟩

/-- A deliverable candidate of a run is selected, with its own draft. -/
theorem exists_selectedRecord (config : LifecycleConfig) {plan candidate : PlanCandidate}
    (hpaired : Paired setup state state.candidateDrafts state.candidates)
    (hids : (state.candidateDrafts.map CandidateDraft.id).Nodup)
    (hrecord : record = .created sessionId .awaitingCandidateSelection
      (some (snapshotFrom state plan)) none)
    (hfirst : FirstRequest started services interruptId record request)
    (hrequested : requestedCandidateId (snapshotFrom state plan) request.action =
      .ok candidate.id)
    (hcandidate : candidate ∈ deliverableCandidates state) :
    ∃ draft ∈ state.candidateDrafts, MadeOf setup state draft candidate ∧
      ∃ after payload, runNodes config services (recursionLimit - 2) record
          (dispatched record (initialLifecycleState record) request) .selectCandidate =
        .paused (selectedRecord record request
          (firstVersion record (snapshotFrom state plan) request candidate draft)) after
          payload := by
  obtain ⟨hmem, hdeliverable⟩ := List.mem_filter.mp hcandidate
  obtain ⟨draft, hdraft, hmade⟩ := exists_of_forall₂_right hpaired hmem
  have hcandidates : (state.candidates.map PlanCandidate.id).Nodup := hpaired.ids_eq ▸ hids
  have hfound : state.candidateDrafts.find? (fun d => decide (d.id = candidate.id)) =
      some draft := by
    rw [hmade.id_eq]
    exact find?_key_of_nodup hids hdraft
  have hselected := selectCandidate_of_deliverable (dispatched record
    (initialLifecycleState record) request) hrecord rfl hfirst.expected hrequested
    (find?_key_of_nodup hcandidates hmem) hdeliverable hfound
  exact ⟨draft, hdraft, hmade, _, _, runNodes_of_saved hfirst.running hselected rfl⟩

/-- **From a planning run to a selected plan.**  The first request of a session that a planning run
leads to completes exactly when it names a deliverable candidate of the run, as the recommended one
always is.  The session is then active, and its one version is that candidate, with the draft that
the candidate can be made of again and the places and the routes that it was made with. -/
theorem selection_completes_iff (config : LifecycleConfig)
    (requirements : String → Result RequirementOutcome) (next : String)
    (hvalidator : setup.overrides.skipValidator = false)
    (honce : AnswersOnce world) (hreuse : setup.overrides.fullReplan = false)
    (hrun : runPlanning setup world planning run = .ok state)
    (hsession : createSession sessionId state = .ok record)
    (hfirst : FirstRequest started services interruptId record request)
    (hnames : NamesCandidate state request.action candidateId) :
    ((∃ message, (resume config requirements services next
        (startLifecycle started interruptId record) request).1 = .completed message) ↔
      ∃ candidate ∈ deliverableCandidates state, candidate.id = candidateId) ∧
    (request.action = .acceptRecommendation →
      ∃ candidate ∈ deliverableCandidates state, candidate.id = candidateId) ∧
    ∀ candidate ∈ deliverableCandidates state, candidate.id = candidateId →
      Selected setup state candidate (resume config requirements services next
        (startLifecycle started interruptId record) request).2.record := by
  obtain ⟨hpaired, hids⟩ := belongTogether_of_runPlanning honce hreuse hrun
  have hsame := hpaired.ids_eq
  obtain ⟨hstatus, plan, hplan, hrecord⟩ := createSession_eq_ok hsession
  obtain ⟨hroute, hrequested⟩ := hnames.routed hplan
  have hresume := resume_first config hrecord hfirst hroute requirements next
  have hselects (candidate : PlanCandidate) (hcandidate : candidate ∈ deliverableCandidates state)
      (hid : candidate.id = candidateId) :=
    exists_selectedRecord config hpaired hids hrecord hfirst (hid ▸ hrequested)
      hcandidate
  rw [hresume]
  refine ⟨⟨fun hcompleted => ?_, fun hoffered => ?_⟩, fun haccepts => ?_,
    fun candidate hcandidate hid => ?_⟩
  · obtain ⟨message, hcompleted⟩ := hcompleted
    cases hexec : selectCandidate (dispatched record (initialLifecycleState record) request)
        record with
    | ok outcome => exact deliverable_of_selectCandidate hrecord rfl hrequested hexec
    | error failure =>
      have hraises : runNodes config services (recursionLimit - 2) record
          (dispatched record (initialLifecycleState record) request) .selectCandidate =
            .raised record .selectCandidate
              (dispatched record (initialLifecycleState record) request) failure :=
        runNodes_succ (stepNode_of_error (hfirst.running _) (by decide) hexec)
      rw [hraises] at hcompleted
      cases hcompleted
  · obtain ⟨candidate, hcandidate, hid⟩ := hoffered
    obtain ⟨draft, -, -, after, payload, hpaused⟩ := hselects candidate hcandidate hid
    exact ⟨after.message, by rw [hpaused]; rfl⟩
  · obtain ⟨-, chosen, hchosen, hplanned, -⟩ :=
      (createSession_iff sessionId hvalidator hrun).mp ⟨_, hsession⟩
    rcases hnames with haction | ⟨-, named, hnamed, hid⟩
    · rw [haction] at haccepts
      cases haccepts
    · obtain rfl : chosen = named := Option.some.inj (hplanned.symm.trans hnamed)
      exact ⟨chosen, hchosen, hid⟩
  · obtain ⟨draft, hdraft, hmade, after, payload, hpaused⟩ := hselects candidate hcandidate hid
    rw [hpaused]
    exact selected_firstVersion hrecord hdraft hmade

omit [Platform] in
/-- The recommendation of the run that fills the empty day is accepted. -/
theorem selection_completes_iff_emptyDay : ∃ state record,
    @runPlanning plainPlatform PlanningSample.setup PlanningSample.emptyDay PlanningSample.request
      none = .ok state ∧ createSession "s" state = .ok record ∧
    (∃ message, (@resume plainPlatform Sample.config (fun _ => .error .editUnavailable)
      (fun _ => Sample.services) "i2" (startLifecycle Sample.services "i1" record)
      ⟨"i1", "r1", none, none, .acceptRecommendation⟩).1 = .completed message) ∧
    ∃ candidate, @Selected plainPlatform PlanningSample.setup state candidate
      (@resume plainPlatform Sample.config (fun _ => .error .editUnavailable)
        (fun _ => Sample.services) "i2" (startLifecycle Sample.services "i1" record)
        ⟨"i1", "r1", none, none, .acceptRecommendation⟩).2.record := by
  let := plainPlatform
  have hcompleted : ((runPlanning PlanningSample.setup PlanningSample.emptyDay
      PlanningSample.request none).toOption.map TravelState.status) = some "completed" := by
    decide +kernel
  obtain ⟨state, hstate, hstatus⟩ := Option.map_eq_some_iff.mp hcompleted
  have hrun := eq_ok_of_mem_toOption hstate
  have honce : AnswersOnce PlanningSample.emptyDay := by
    intro problem result hsolved
    cases hsolved
    exact List.nodup_singleton _
  have hcompletes : Completes state := by
    refine (deliveryInvariant_of_runPlanning rfl hrun).2.resolve_right fun hgivesUp => ?_
    rw [hgivesUp.status] at hstatus
    exact absurd hstatus (by decide)
  obtain ⟨record, hrecord⟩ := (createSession_iff "s" rfl hrun).mpr hcompletes
  obtain ⟨chosen, -, hchosen, -⟩ := hcompletes.selects
  have hfirst : FirstRequest Sample.services (fun _ => Sample.services) "i1" record
      ⟨"i1", "r1", none, none, .acceptRecommendation⟩ := ⟨rfl, fun _ => rfl, rfl, rfl⟩
  have hselection := selection_completes_iff Sample.config (fun _ => .error .editUnavailable) "i2"
    rfl honce rfl hrun hrecord hfirst (.inr ⟨rfl, chosen, hchosen, rfl⟩)
  obtain ⟨candidate, hcandidate, hid⟩ := hselection.2.1 rfl
  exact ⟨state, record, hrun, hrecord, hselection.1.mpr (hselection.2.1 rfl), candidate,
    hselection.2.2 candidate hcandidate hid⟩

end Selections

end TravelPlanAgent
