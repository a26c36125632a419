import TravelPlanAgent.Requirements.Anchors

/-!
# The requirement workflow

A request is parsed, validated, its anchors are looked up, and a trip is assembled; where something
is missing the user is asked, and the answer patches the draft.  Places that were found stay cached
over the rounds, until a patch changes the name or the destination.

The answers of the language model, of the search tools and of the user are inputs.  A node that
raises leaves the state as it was.  The run ends with the trip, which the planner takes over.

* `RequirementState`, `step`, `runInputs`: the state, a node with its routing, and runs.
* `Fresh`: a resolution was found by a search for what the draft now says.
* `RequirementInvariant`, `invariant_step`: what every node keeps.
* `anchorsFresh`: in every state the cached places are fresh, and so are those of the trip.
-/

namespace TravelPlanAgent

open Calendar

variable [Platform]

/-! ## Routing after clarification -/

/-- `_COMPOSITE_TARGET_FIELDS` and `_CONFLICT_TARGET_FIELDS`. -/
def targetsOf (issue : RequirementIssue) : List String :=
  if issue.field = "date_range" then ["start_date", "end_date"]
  else if issue.field = "transport_time" then ["arrival.at", "departure.at"]
  else if issue.field = "daily_window" then ["daily_start", "daily_end"]
  else if issue.code = .conflict ∧ issue.field = "arrival.at" then ["start_date", "arrival.at"]
  else if issue.code = .conflict ∧ issue.field = "departure.at" then ["end_date", "departure.at"]
  else [issue.field]

/-- `clarification_target_fields`. -/
def clarificationTargetFields (issues : List RequirementIssue) : List String :=
  ((issues.filter RequirementIssue.blocking).flatMap targetsOf).eraseDups

/-- The questions of the blocking issues. -/
def questionsOf (issues : List RequirementIssue) : List String :=
  ((issues.filter RequirementIssue.blocking).map fun issue =>
    if given issue.question then issue.question.getD "" else issue.message).eraseDups

/-! ## The state -/

/-- The nodes of the graph, and its end. -/
inductive RequirementNode where
  | parseRequirement | validateRequirement | resolveAnchors | evaluateAnchors
  | requestClarification | awaitClarification | parseClarificationPatch
  | applyClarificationPatch | clarificationExhausted | assembleTripSpec | executePlanning | finished
  deriving DecidableEq

/-- A search and its answer. -/
abbrev AnchorSearch : Type := POISearchQuery × ToolResult (List POIFacts)

/-- `RequirementState`, with the node that is next and the searches that were answered. -/
structure RequirementState where
  next : RequirementNode
  requirementDraft : Option AcceptedDraft
  requirementIssues : List RequirementIssue
  clarificationQuestions : List String
  clarificationRound : ℕ
  maxClarificationRounds : ℕ
  clarificationTargetFields : List String
  clarificationInput : Option String
  clarificationPatch : Option AcceptedPatch
  changedFields : List String
  rejectedPatchFields : List String
  clarificationExhausted : Bool
  anchorSearchPlan : List AnchorSearchIntent
  anchorResults : List (ToolResult (List POIFacts))
  anchorResolutions : AnchorResolutions
  reusedAnchorRoles : List AnchorRole
  invalidatedAnchorRoles : List AnchorRole
  trip : Option TripFields
  status : String
  message : Option String
  searches : List AnchorSearch

/-- `initial_requirement_state`. -/
def initialRequirementState (maxClarificationRounds : ℕ) : RequirementState where
  next := .parseRequirement
  requirementDraft := none
  requirementIssues := []
  clarificationQuestions := []
  clarificationRound := 0
  maxClarificationRounds := maxClarificationRounds
  clarificationTargetFields := []
  clarificationInput := none
  clarificationPatch := none
  changedFields := []
  rejectedPatchFields := []
  clarificationExhausted := false
  anchorSearchPlan := []
  anchorResults := []
  anchorResolutions := ∅
  reusedAnchorRoles := []
  invalidatedAnchorRoles := []
  trip := none
  status := "started"
  message := none
  searches := []

namespace RequirementState

/-! ## The nodes -/

/-- `parse_requirement`. -/
def parseRequirement (s : RequirementState) (draft : AcceptedDraft) : RequirementState :=
  { s with
    next := .validateRequirement
    requirementDraft := some draft
    status := "parsed" }

/-- `validate_requirement` and `route_requirement`. -/
def validateRequirement (s : RequirementState) (zone : Zone) : Result RequirementState := do
  let draft ← orRaise s.requirementDraft .assertionError
  let issues ← TravelPlanAgent.validateRequirement draft.toDraft zone
  return { s with
    next := if issues.any RequirementIssue.blocking then .requestClarification
      else .resolveAnchors
    requirementIssues := issues
    clarificationQuestions := []
    clarificationTargetFields := []
    status := "validated" }

/-- The roles in the order of their names. -/
def sortedRoles (roles : List AnchorRole) : List AnchorRole :=
  [AnchorRole.accommodation, .arrival, .departure].filter fun role => role ∈ roles

/-- `resolve_anchors`. -/
def resolveAnchors (s : RequirementState) (gateway : ToolGateway) : Result RequirementState := do
  let draft ← orRaise s.requirementDraft .assertionError
  let requiredRoles := requiredAnchorRoles draft.toDraft
  let cachedRoles := requiredRoles.filter fun role => role ∈ s.anchorResolutions.keys
  let rolesToLoad := requiredRoles.filter fun role => role ∉ s.anchorResolutions.keys
  let plan ← buildAnchorSearchPlan draft.1 rolesToLoad
  let queries := plan.map AnchorSearchIntent.query
  let results ← gateway.searchPois queries
  let _ ← foundFacts results
  return { s with
    next := .evaluateAnchors
    anchorSearchPlan := plan
    anchorResults := results
    reusedAnchorRoles := sortedRoles cachedRoles
    status := "anchors_loaded"
    searches := s.searches ++ queries.zip results }

/-- `evaluate_anchors` and `route_anchors`. -/
def evaluateAnchors (s : RequirementState) : Result RequirementState := do
  let (resolutions, issues) ← resolveAnchorSearchResults s.anchorSearchPlan s.anchorResults
  return { s with
    next := if issues.any RequirementIssue.blocking then .requestClarification
      else .assembleTripSpec
    anchorResolutions := s.anchorResolutions.update resolutions
    requirementIssues := issues
    status := "anchors_evaluated" }

/-- `request_clarification` and `route_clarification_request`. -/
def requestClarification (s : RequirementState) : RequirementState :=
  let questions := questionsOf s.requirementIssues
  let targets := TravelPlanAgent.clarificationTargetFields s.requirementIssues
  if s.clarificationRound ≥ s.maxClarificationRounds then
    { s with
      next := .clarificationExhausted
      clarificationQuestions := questions
      clarificationTargetFields := targets
      clarificationExhausted := true
      status := "clarification_exhausted_pending" }
  else
    { s with
      next := if s.clarificationExhausted then .clarificationExhausted else .awaitClarification
      clarificationQuestions := questions
      clarificationRound := s.clarificationRound + 1
      clarificationTargetFields := targets
      clarificationInput := none
      clarificationPatch := none
      changedFields := []
      rejectedPatchFields := []
      status := "needs_clarification"
      message := some "需要补充或确认旅行需求后才能继续规划" }

/-- `await_clarification`: its payload is checked, and it is resumed. -/
def awaitClarification (s : RequirementState) (answer : String) : Result RequirementState := do
  require (1 ≤ s.clarificationRound ∧ 1 ≤ s.maxClarificationRounds ∧
    s.clarificationTargetFields ≠ [] ∧ s.requirementIssues ≠ [] ∧ s.clarificationQuestions ≠ [])
    (.validationError "ClarificationInterruptPayload")
  return { s with
    next := .parseClarificationPatch
    clarificationInput := some answer
    status := "clarification_received"
    message := none }

/-- `parse_clarification_patch`. -/
def parseClarificationPatch (s : RequirementState) (patch : AcceptedPatch) :
    Result RequirementState := do
  require (s.requirementDraft.isSome ∧ s.clarificationInput.isSome) .assertionError
  return { s with
    next := .applyClarificationPatch
    clarificationPatch := some patch
    status := "clarification_parsed" }

/-- The merge of a patch into a draft is a draft. -/
def mergeAccepted (draft : AcceptedDraft) (patch : AcceptedPatch) (allowedFields : List String) :
    Result (AcceptedDraft × List String × List String) :=
  match h : mergeRequirementPatch draft.1 patch.1 allowedFields with
  | .error failure => .error failure
  | .ok (merged, changed, rejected) =>
    .ok (⟨merged, (mergeRequirementPatch_eq_ok draft.2 patch.2 h).2.2⟩, changed, rejected)

/-- `apply_clarification_patch` and `route_after_patch`. -/
def applyClarificationPatch (s : RequirementState) : Result RequirementState := do
  let draft ← orRaise s.requirementDraft .assertionError
  let patch ← orRaise s.clarificationPatch .assertionError
  let (merged, changed, rejected) ← mergeAccepted draft patch s.clarificationTargetFields
  let invalidated := TravelPlanAgent.invalidatedAnchorRoles changed
  return { s with
    next := if changed ≠ [] then .validateRequirement else .requestClarification
    requirementDraft := some merged
    changedFields := changed
    rejectedPatchFields := rejected
    invalidatedAnchorRoles := invalidated
    anchorResolutions := invalidated.foldl Dict.erase s.anchorResolutions
    clarificationInput := none
    clarificationPatch := none
    status := if changed ≠ [] then "patch_applied" else "patch_ignored" }

/-- `clarification_exhausted`. -/
def clarificationIsExhausted (s : RequirementState) : RequirementState :=
  { s with
    next := .finished
    status := "needs_clarification"
    message := some "已达到需求澄清轮次上限，请创建新的规划请求" }

/-- `assemble_trip_spec`. -/
def assembleTripSpec (s : RequirementState) (zone : Zone) : Result RequirementState := do
  let draft ← orRaise s.requirementDraft .assertionError
  let trip ← TravelPlanAgent.assembleTripSpec draft.toDraft s.anchorResolutions zone
  return { s with
    next := .executePlanning
    trip := some trip
    status := "trip_assembled" }

end RequirementState

/-! ## Runs -/

/-- What a node is given from outside. -/
inductive RequirementInput where
  | parsed (draft : AcceptedDraft)
  | searched (gateway : ToolGateway)
  | resumed (answer : String)
  | patched (patch : AcceptedPatch)
  | proceed

namespace RequirementState

/-- The next node is run; there is no next state when it raises. -/
def step (zone : Zone) (s : RequirementState) (input : RequirementInput) :
    Option RequirementState :=
  match s.next, input with
  | .parseRequirement, .parsed draft => some (s.parseRequirement draft)
  | .validateRequirement, .proceed => (s.validateRequirement zone).toOption
  | .resolveAnchors, .searched gateway => (s.resolveAnchors gateway).toOption
  | .evaluateAnchors, .proceed => s.evaluateAnchors.toOption
  | .requestClarification, .proceed => some s.requestClarification
  | .awaitClarification, .resumed answer => (s.awaitClarification answer).toOption
  | .parseClarificationPatch, .patched patch => (s.parseClarificationPatch patch).toOption
  | .applyClarificationPatch, .proceed => s.applyClarificationPatch.toOption
  | .clarificationExhausted, .proceed => some s.clarificationIsExhausted
  | .assembleTripSpec, .proceed => (s.assembleTripSpec zone).toOption
  | _, _ => none

/-- A run, node by node. -/
def runInputs (zone : Zone) (s : RequirementState) : List RequirementInput →
    Option RequirementState
  | [] => some s
  | input :: inputs => (s.step zone input).bind fun next => next.runInputs zone inputs

end RequirementState

/-! ## Fresh resolutions -/

/-- The resolution was found by a search in the destination of the draft, for a name that is written
like the name the draft has for the role. -/
def Fresh (draft : DraftFields) (searches : List AnchorSearch) (role : AnchorRole)
    (resolution : AnchorResolution) : Prop :=
  ∃ query result name, (query, result) ∈ searches ∧ ResolvedBy query result role resolution ∧
    draft.destination = some query.city ∧ draft.anchorName role = some name ∧
      anchorKey query.keyword = anchorKey name

theorem Fresh.mono {draft : DraftFields} {searches more : List AnchorSearch} {role : AnchorRole}
    {resolution : AnchorResolution} (h : Fresh draft searches role resolution) :
    Fresh draft (searches ++ more) role resolution := by
  obtain ⟨query, result, name, hmem, hrest⟩ := h
  exact ⟨query, result, name, List.mem_append_left _ hmem, hrest⟩

/-- Another draft with the same destination and the same name. -/
theorem Fresh.congr {draft merged : DraftFields} {searches : List AnchorSearch}
    {role : AnchorRole} {resolution : AnchorResolution} (h : Fresh draft searches role resolution)
    (hdestination : merged.destination = draft.destination)
    (hname : merged.anchorName role = draft.anchorName role) :
    Fresh merged searches role resolution := by
  rw [Fresh, hdestination, hname]
  exact h

/-- The trip has the destination of the draft, and places from fresh resolutions. -/
structure TripFresh (draft : DraftFields) (searches : List AnchorSearch) (trip : TripFields) :
    Prop where
  destination : draft.destination = some trip.destination
  arrival : ∃ resolution, Fresh draft searches .arrival resolution ∧
    trip.arrival.name = resolution.resolvedName ∧ trip.arrival.coordinate = resolution.coordinate
  departure : ∃ resolution, Fresh draft searches .departure resolution ∧
    trip.departure.name = resolution.resolvedName ∧
      trip.departure.coordinate = resolution.coordinate
  accommodation : ∀ place ∈ trip.accommodation, ∃ resolution,
    Fresh draft searches .accommodation resolution ∧ place.name = resolution.resolvedName ∧
      place.coordinate = resolution.coordinate

/-- What every node keeps. -/
structure RequirementInvariant (s : RequirementState) : Prop where
  fresh : ∀ role resolution, s.anchorResolutions.get? role = some resolution →
    ∃ draft, s.requirementDraft = some draft ∧ Fresh draft.1 s.searches role resolution
  unparsed : s.next = .parseRequirement → s.anchorResolutions = ∅
  /-- The searches of the plan are for roles without a cached place. -/
  planned : s.next = .evaluateAnchors → ∃ draft roles, s.requirementDraft = some draft ∧
    (∀ intent ∈ s.anchorSearchPlan, PlannedFor draft.1 roles intent) ∧
    (∀ role ∈ roles, s.anchorResolutions.get? role = none) ∧
    ∀ pair ∈ s.anchorSearchPlan.zip s.anchorResults, (pair.1.query, pair.2) ∈ s.searches
  assembled : ∀ trip, s.trip = some trip → s.next = .executePlanning ∧
    ∃ draft, s.requirementDraft = some draft ∧ TripFresh draft.1 s.searches trip

/-- What a node does to the cached places: it keeps them, it adds places that were looked up because
there was none, or it drops those that a patch made stale. -/
def KeepsPlaces (s s' : RequirementState) : Prop :=
  ∀ role, s'.anchorResolutions.get? role = s.anchorResolutions.get? role ∨
    (s.next = .evaluateAnchors ∧ s.anchorResolutions.get? role = none ∧
      ∃ intent ∈ s.anchorSearchPlan, role ∈ intent.roles) ∨
    (s.next = .applyClarificationPatch ∧ role ∈ s'.invalidatedAnchorRoles ∧
      s'.anchorResolutions.get? role = none)

theorem invariant_initial (maxRounds : ℕ) :
    RequirementInvariant (initialRequirementState maxRounds) where
  fresh role resolution h := by cases h
  unparsed _ := rfl
  planned h := by cases h
  assembled trip h := by cases h

/-! ## One node after the other -/

variable {s s' : RequirementState} {zone : Zone}

/-- A node that leaves the draft, the places and the searches alone. -/
theorem RequirementInvariant.frame (h : RequirementInvariant s)
    (hdraft : s'.requirementDraft = s.requirementDraft)
    (hresolutions : s'.anchorResolutions = s.anchorResolutions)
    (hsearches : s'.searches = s.searches)
    (hparse : s'.next ≠ .parseRequirement) (hevaluate : s'.next ≠ .evaluateAnchors)
    (htrip : s'.trip = none) : RequirementInvariant s' where
  fresh role resolution hget := by
    rw [hresolutions] at hget
    rw [hdraft, hsearches]
    exact h.fresh role resolution hget
  unparsed hnext := absurd hnext hparse
  planned hnext := absurd hnext hevaluate
  assembled trip hsome := by
    rw [htrip] at hsome
    cases hsome

/-- Before the trip is assembled there is none. -/
theorem RequirementInvariant.trip_eq_none (h : RequirementInvariant s)
    (hnext : s.next ≠ .executePlanning) : s.trip = none := by
  cases htrip : s.trip with
  | none => rfl
  | some trip => exact absurd (h.assembled trip htrip).1 hnext

theorem invariant_parseRequirement (h : RequirementInvariant s)
    (hnext : s.next = .parseRequirement) (draft : AcceptedDraft) :
    RequirementInvariant (s.parseRequirement draft) where
  fresh role resolution hget := by
    have hnone : s.anchorResolutions.get? role = some resolution := hget
    rw [h.unparsed hnext] at hnone
    cases hnone
  unparsed hnext' := by cases hnext'
  planned hnext' := by cases hnext'
  assembled trip htrip := by
    have hnone : s.trip = some trip := htrip
    rw [h.trip_eq_none (by rw [hnext]; decide)] at hnone
    cases hnone

theorem invariant_resolveAnchors (h : RequirementInvariant s) (hnext : s.next = .resolveAnchors)
    {gateway : ToolGateway} (hrun : s.resolveAnchors gateway = .ok s') :
    RequirementInvariant s' := by
  obtain ⟨draft, hdraft, hrun⟩ := bind_eq_ok hrun
  obtain ⟨plan, hplan, hrun⟩ := bind_eq_ok hrun
  obtain ⟨results, hresults, hrun⟩ := bind_eq_ok hrun
  obtain ⟨_, -, hrun⟩ := bind_eq_ok hrun
  have hdraft := orRaise_eq_ok hdraft
  rw [← Except.ok.inj hrun]
  constructor
  case fresh =>
    intro role resolution hget
    obtain ⟨draft', hdraft', hfresh⟩ := h.fresh role resolution hget
    exact ⟨draft', hdraft', hfresh.mono⟩
  case unparsed => exact fun hnext' => by cases hnext'
  case planned =>
    intro _
    refine ⟨draft, _, hdraft, fun intent hintent => plannedFor_of_mem hplan hintent, ?_, ?_⟩
    · intro role hrole
      rw [List.mem_filter, decide_eq_true_eq] at hrole
      exact Dict.get?_eq_none_iff.mpr hrole.2
    · rintro ⟨intent, result⟩ hpair
      refine List.mem_append_right _ ?_
      rw [List.zip_map_left]
      exact List.mem_map.mpr ⟨(intent, result), hpair, rfl⟩
  case assembled =>
    intro trip htrip
    have hnone : s.trip = some trip := htrip
    rw [h.trip_eq_none (by rw [hnext]; decide)] at hnone
    cases hnone

/-- A new place replaces none. -/
theorem get?_evaluateAnchors (h : RequirementInvariant s) (hnext : s.next = .evaluateAnchors)
    (hrun : s.evaluateAnchors = .ok s') (role : AnchorRole) :
    s'.anchorResolutions.get? role = s.anchorResolutions.get? role ∨
      s.anchorResolutions.get? role = none ∧
      (∃ intent ∈ s.anchorSearchPlan, role ∈ intent.roles) ∧
      ∃ draft, s.requirementDraft = some draft ∧ ∀ resolution,
        s'.anchorResolutions.get? role = some resolution →
          Fresh draft.1 s.searches role resolution := by
  obtain ⟨⟨resolutions, issues⟩, hresolutions, hrun⟩ := bind_eq_ok hrun
  rw [← Except.ok.inj hrun]
  show (s.anchorResolutions.update resolutions).get? role = _ ∨ _
  rw [Dict.get?_update]
  cases hget : resolutions.get? role with
  | none => exact .inl rfl
  | some resolution =>
    obtain ⟨draft, roles, hdraft, hplanned, hnone, hsearched⟩ := h.planned hnext
    obtain ⟨intent, result, hpair, hrole, hresolved⟩ := resolvedBy_of_get? hresolutions hget
    have hintent := (List.of_mem_zip hpair).1
    have hplan := hplanned intent hintent
    obtain ⟨name, hname, hkey⟩ := hplan.names role hrole
    refine .inr ⟨hnone role (hplan.roles_subset hrole), ⟨intent, hintent, hrole⟩, draft, hdraft, ?_⟩
    intro other hother
    rw [Option.some_or, Option.some.injEq] at hother
    rw [← hother]
    exact ⟨intent.query, result, name, hsearched _ hpair, hresolved, hplan.city, hname, hkey⟩

theorem invariant_evaluateAnchors (h : RequirementInvariant s) (hnext : s.next = .evaluateAnchors)
    (hrun : s.evaluateAnchors = .ok s') : RequirementInvariant s' := by
  have hplaces := get?_evaluateAnchors h hnext hrun
  obtain ⟨⟨resolutions, issues⟩, -, hrun⟩ := bind_eq_ok hrun
  have heq := Except.ok.inj hrun
  have hnext' : s'.next = .requestClarification ∨ s'.next = .assembleTripSpec := by
    rw [← heq]
    dsimp only
    split
    · exact .inl rfl
    · exact .inr rfl
  constructor
  case fresh =>
    intro role resolution hget
    have hdraft : s'.requirementDraft = s.requirementDraft ∧ s'.searches = s.searches := by
      rw [← heq]
      exact ⟨rfl, rfl⟩
    rw [hdraft.1, hdraft.2]
    obtain hsame | ⟨-, -, draft, hsome, hfresh⟩ := hplaces role
    · exact h.fresh role resolution (hsame ▸ hget)
    · exact ⟨draft, hsome, hfresh resolution hget⟩
  case unparsed => rintro hparse; rw [hparse] at hnext'; simp at hnext'
  case planned => rintro hplan; rw [hplan] at hnext'; simp at hnext'
  case assembled =>
    intro trip htrip
    have hnone : s.trip = some trip := by rw [← htrip, ← heq]
    rw [h.trip_eq_none (by rw [hnext]; decide)] at hnone
    cases hnone

omit [Platform] in
/-- The field that names the place of a role. -/
def AnchorRole.nameField : AnchorRole → RequirementField
  | .arrival => .arrivalName
  | .departure => .departureName
  | .accommodation => .accommodationName

omit [Platform] in
theorem anchorFieldRole_eq_some {name : String} {role : AnchorRole} :
    anchorFieldRole name = some role ↔ name = role.nameField.path := by
  constructor
  · intro h
    unfold anchorFieldRole at h
    split at h <;> cases h <;> rfl
  · rintro rfl
    cases role <;> rfl

omit [Platform] in
/-- A place is stale when the destination or its own name changed. -/
theorem mem_invalidatedAnchorRoles {changed : List String} {role : AnchorRole} :
    role ∈ invalidatedAnchorRoles changed ↔
      "destination" ∈ changed ∨ role.nameField.path ∈ changed := by
  have hall : role ∈ [AnchorRole.accommodation, .arrival, .departure] := by
    cases role <;> decide
  rw [invalidatedAnchorRoles]
  split
  · next hdestination => exact iff_of_true hall (.inl hdestination)
  · next hdestination =>
    rw [List.mem_filter, decide_eq_true_eq, List.mem_filterMap]
    constructor
    · rintro ⟨-, name, hname, hrole⟩
      exact .inr (anchorFieldRole_eq_some.mp hrole ▸ hname)
    · rintro (hmem | hmem)
      · exact absurd hmem hdestination
      · exact ⟨hall, _, hmem, anchorFieldRole_eq_some.mpr rfl⟩

/-- A merge keeps what a resolution depends on, unless it makes the resolution stale. -/
theorem fresh_of_merge {draft merged : AcceptedDraft} {patch : AcceptedPatch}
    {allowedFields changed rejected : List String}
    (h : RequirementState.mergeAccepted draft patch allowedFields = .ok (merged, changed, rejected))
    {searches : List AnchorSearch} {role : AnchorRole} {resolution : AnchorResolution}
    (hfresh : Fresh draft.1 searches role resolution)
    (hvalid : role ∉ invalidatedAnchorRoles changed) :
    Fresh merged.1 searches role resolution := by
  have hmerge : mergeRequirementPatch draft.1 patch.1 allowedFields =
      .ok (merged.1, changed, rejected) := by
    rw [RequirementState.mergeAccepted] at h
    split at h
    · cases h
    · next hok =>
      cases h
      exact hok
  obtain ⟨hmerged, hchanged, -⟩ := mergeRequirementPatch_eq_ok draft.2 patch.2 hmerge
  rw [mem_invalidatedAnchorRoles, not_or, hchanged] at hvalid
  have hkeeps : ∀ field : RequirementField,
      field.path ∉ (mergePayload draft.1 patch.1 allowedFields).2 →
        merged.1.valueAt field = draft.1.valueAt field := by
    intro field hnot
    rw [hmerged, mergePayload_valueAt, if_neg hnot]
  refine hfresh.congr (hkeeps .destination hvalid.1) ?_
  cases role
  · exact hkeeps .arrivalName hvalid.2
  · exact hkeeps .departureName hvalid.2
  · exact hkeeps .accommodationName hvalid.2

theorem get?_applyClarificationPatch (hrun : s.applyClarificationPatch = .ok s')
    (role : AnchorRole) : s'.anchorResolutions.get? role =
      if role ∈ s'.invalidatedAnchorRoles then none else s.anchorResolutions.get? role := by
  obtain ⟨draft, -, hrun⟩ := bind_eq_ok hrun
  obtain ⟨patch, -, hrun⟩ := bind_eq_ok hrun
  obtain ⟨⟨merged, changed, rejected⟩, -, hrun⟩ := bind_eq_ok hrun
  rw [← Except.ok.inj hrun]
  exact Dict.get?_foldl_erase _ _ _

theorem invariant_applyClarificationPatch (h : RequirementInvariant s)
    (hnext : s.next = .applyClarificationPatch) (hrun : s.applyClarificationPatch = .ok s') :
    RequirementInvariant s' := by
  have hplaces := get?_applyClarificationPatch hrun
  obtain ⟨draft, hdraft, hrun⟩ := bind_eq_ok hrun
  obtain ⟨patch, -, hrun⟩ := bind_eq_ok hrun
  obtain ⟨⟨merged, changed, rejected⟩, hmerge, hrun⟩ := bind_eq_ok hrun
  have hdraft := orRaise_eq_ok hdraft
  have heq := Except.ok.inj hrun
  have hnext' : s'.next = .validateRequirement ∨ s'.next = .requestClarification := by
    rw [← heq]
    dsimp only
    split
    · exact .inl rfl
    · exact .inr rfl
  constructor
  case fresh =>
    intro role resolution hget
    rw [hplaces] at hget
    split at hget
    · cases hget
    · next hvalid =>
      obtain ⟨draft', hdraft', hfresh⟩ := h.fresh role resolution hget
      obtain rfl := Option.some.inj (hdraft.symm.trans hdraft')
      have hmerged : s'.requirementDraft = some merged ∧ s'.searches = s.searches ∧
          s'.invalidatedAnchorRoles = invalidatedAnchorRoles changed := by
        rw [← heq]
        exact ⟨rfl, rfl, rfl⟩
      rw [hmerged.2.2] at hvalid
      rw [hmerged.1, hmerged.2.1]
      exact ⟨merged, rfl, fresh_of_merge hmerge hfresh hvalid⟩
  case unparsed => rintro hparse; rw [hparse] at hnext'; simp at hnext'
  case planned => rintro hplan; rw [hplan] at hnext'; simp at hnext'
  case assembled =>
    intro trip htrip
    have hnone : s.trip = some trip := by rw [← htrip, ← heq]
    rw [h.trip_eq_none (by rw [hnext]; decide)] at hnone
    cases hnone

/-! ## The trip -/

/-- The destination and the places of an assembled trip. -/
theorem places_of_assembleTripSpec {draft : RequirementDraft} {resolutions : AnchorResolutions}
    {trip : TripFields} (h : assembleTripSpec draft resolutions zone = .ok trip) :
    draft.destination = some trip.destination ∧
      (∃ resolution, resolutions.get? .arrival = some resolution ∧
        trip.arrival.name = resolution.resolvedName ∧
          trip.arrival.coordinate = resolution.coordinate) ∧
      (∃ resolution, resolutions.get? .departure = some resolution ∧
        trip.departure.name = resolution.resolvedName ∧
          trip.departure.coordinate = resolution.coordinate) ∧
      ∀ place ∈ trip.accommodation, ∃ resolution,
        resolutions.get? .accommodation = some resolution ∧
          place.name = resolution.resolvedName ∧ place.coordinate = resolution.coordinate := by
  obtain ⟨issues, -, h⟩ := bind_eq_ok h
  obtain ⟨_, -, h⟩ := bind_eq_ok h
  obtain ⟨arrivalResolution, harrivalResolution, h⟩ := bind_eq_ok h
  obtain ⟨departureResolution, hdepartureResolution, h⟩ := bind_eq_ok h
  obtain ⟨destination, hdestination, h⟩ := bind_eq_ok h
  obtain ⟨startDate, -, h⟩ := bind_eq_ok h
  obtain ⟨endDate, -, h⟩ := bind_eq_ok h
  obtain ⟨_, -, h⟩ := bind_eq_ok h
  obtain ⟨_, -, h⟩ := bind_eq_ok h
  obtain ⟨accommodation, haccommodation, h⟩ := bind_eq_ok h
  obtain ⟨arrival, harrival, h⟩ := bind_eq_ok h
  obtain ⟨departure, hdeparture, h⟩ := bind_eq_ok h
  -- the checks of the trip change the lists of terms only
  obtain ⟨_, -, h⟩ := bind_eq_ok h
  obtain ⟨_, -, h⟩ := bind_eq_ok h
  obtain ⟨_, -, h⟩ := bind_eq_ok h
  obtain ⟨_, -, h⟩ := bind_eq_ok h
  obtain ⟨_, -, h⟩ := bind_eq_ok h
  obtain ⟨closed, -, h⟩ := bind_eq_ok h
  obtain ⟨_, -, h⟩ := bind_eq_ok h
  rw [← Except.ok.inj h]
  have hanchor : ∀ {anchor : Option AnchorDraft} {resolution : AnchorResolution}
      {placed : TransportAnchor}, assembledAnchor anchor zone resolution = .ok placed →
        placed.name = resolution.resolvedName ∧ placed.coordinate = resolution.coordinate := by
    intro anchor resolution placed hplaced
    obtain ⟨value, -, hplaced⟩ := bind_eq_ok hplaced
    obtain ⟨moment, -, hplaced⟩ := bind_eq_ok hplaced
    rw [← Except.ok.inj hplaced]
    exact ⟨rfl, rfl⟩
  refine ⟨orRaise_eq_ok hdestination,
    ⟨arrivalResolution, orRaise_eq_ok harrivalResolution, hanchor harrival⟩,
    ⟨departureResolution, orRaise_eq_ok hdepartureResolution, hanchor hdeparture⟩, ?_⟩
  intro place hplace
  have hplace : accommodation = some place := hplace
  rw [resolvedAccommodation] at haccommodation
  split at haccommodation
  · obtain ⟨resolution, hresolution, hfound⟩ := bind_eq_ok haccommodation
    have hfound := Except.ok.inj hfound
    rw [hplace, Option.some.injEq] at hfound
    rw [← hfound]
    exact ⟨resolution, orRaise_eq_ok hresolution, rfl, rfl⟩
  · rw [hplace] at haccommodation
    cases haccommodation

theorem invariant_assembleTripSpec (h : RequirementInvariant s)
    (hrun : s.assembleTripSpec zone = .ok s') : RequirementInvariant s' := by
  obtain ⟨draft, hdraft, hrun⟩ := bind_eq_ok hrun
  obtain ⟨trip, htrip, hrun⟩ := bind_eq_ok hrun
  have hdraft := orRaise_eq_ok hdraft
  rw [← Except.ok.inj hrun]
  have hfresh : ∀ role resolution, s.anchorResolutions.get? role = some resolution →
      Fresh draft.1 s.searches role resolution := by
    intro role resolution hget
    obtain ⟨draft', hdraft', hfresh⟩ := h.fresh role resolution hget
    obtain rfl := Option.some.inj (hdraft.symm.trans hdraft')
    exact hfresh
  constructor
  case fresh => exact h.fresh
  case unparsed => exact fun hnext => by cases hnext
  case planned => exact fun hnext => by cases hnext
  case assembled =>
    intro other hother
    cases hother
    obtain ⟨hdestination, ⟨arrival, harrival, harrives⟩, ⟨departure, hdeparture, hleaves⟩, hstay⟩ :=
      places_of_assembleTripSpec htrip
    refine ⟨rfl, draft, hdraft, hdestination, ⟨arrival, hfresh _ _ harrival, harrives⟩,
      ⟨departure, hfresh _ _ hdeparture, hleaves⟩, fun place hplace => ?_⟩
    obtain ⟨accommodation, haccommodation, hstays⟩ := hstay place hplace
    exact ⟨accommodation, hfresh _ _ haccommodation, hstays⟩

/-! ## Every run -/

theorem invariant_step (h : RequirementInvariant s) {input : RequirementInput}
    (hstep : s.step zone input = some s') : RequirementInvariant s' := by
  unfold RequirementState.step at hstep
  split at hstep
  · next draft hnext =>
    cases hstep
    exact invariant_parseRequirement h hnext draft
  · next hnext =>
    have hrun := eq_ok_of_mem_toOption hstep
    obtain ⟨draft, -, hrun⟩ := bind_eq_ok hrun
    obtain ⟨issues, -, hrun⟩ := bind_eq_ok hrun
    rw [← Except.ok.inj hrun]
    refine h.frame rfl rfl rfl ?_ ?_ (h.trip_eq_none (by rw [hnext]; decide))
    all_goals dsimp only; split <;> decide
  · next gateway hnext => exact invariant_resolveAnchors h hnext (eq_ok_of_mem_toOption hstep)
  · next hnext => exact invariant_evaluateAnchors h hnext (eq_ok_of_mem_toOption hstep)
  · next hnext =>
    cases hstep
    have htrip := h.trip_eq_none (by rw [hnext]; decide)
    unfold RequirementState.requestClarification
    dsimp only
    split
    · exact h.frame rfl rfl rfl (by simp) (by simp) htrip
    · refine h.frame rfl rfl rfl ?_ ?_ htrip
      all_goals dsimp only; split <;> decide
  · next answer hnext =>
    obtain ⟨_, -, hrun⟩ := bind_eq_ok (eq_ok_of_mem_toOption hstep)
    rw [← Except.ok.inj hrun]
    exact h.frame rfl rfl rfl (by simp) (by simp) (h.trip_eq_none (by rw [hnext]; decide))
  · next patch hnext =>
    obtain ⟨_, -, hrun⟩ := bind_eq_ok (eq_ok_of_mem_toOption hstep)
    rw [← Except.ok.inj hrun]
    exact h.frame rfl rfl rfl (by simp) (by simp) (h.trip_eq_none (by rw [hnext]; decide))
  · next hnext => exact invariant_applyClarificationPatch h hnext (eq_ok_of_mem_toOption hstep)
  · next hnext =>
    cases hstep
    exact h.frame rfl rfl rfl (by simp [RequirementState.clarificationIsExhausted])
      (by simp [RequirementState.clarificationIsExhausted])
      (h.trip_eq_none (by rw [hnext]; decide))
  · exact invariant_assembleTripSpec h (eq_ok_of_mem_toOption hstep)
  · cases hstep

theorem invariant_runInputs (h : RequirementInvariant s) {inputs : List RequirementInput}
    (hrun : s.runInputs zone inputs = some s') : RequirementInvariant s' := by
  induction inputs generalizing s with
  | nil =>
    rw [RequirementState.runInputs, Option.some.injEq] at hrun
    exact hrun ▸ h
  | cons input inputs ih =>
    rw [RequirementState.runInputs, Option.bind_eq_some_iff] at hrun
    obtain ⟨next, hstep, hrest⟩ := hrun
    exact ih (invariant_step h hstep) hrest

theorem keepsPlaces_step (h : RequirementInvariant s) {input : RequirementInput}
    (hstep : s.step zone input = some s') : KeepsPlaces s s' := by
  unfold RequirementState.step at hstep
  intro role
  split at hstep
  · cases hstep
    exact .inl rfl
  · obtain ⟨draft, -, hrun⟩ := bind_eq_ok (eq_ok_of_mem_toOption hstep)
    obtain ⟨issues, -, hrun⟩ := bind_eq_ok hrun
    rw [← Except.ok.inj hrun]
    exact .inl rfl
  · obtain ⟨draft, -, hrun⟩ := bind_eq_ok (eq_ok_of_mem_toOption hstep)
    obtain ⟨plan, -, hrun⟩ := bind_eq_ok hrun
    obtain ⟨results, -, hrun⟩ := bind_eq_ok hrun
    obtain ⟨_, -, hrun⟩ := bind_eq_ok hrun
    rw [← Except.ok.inj hrun]
    exact .inl rfl
  · next hnext =>
    obtain hsame | ⟨hnone, hsearched, -⟩ :=
      get?_evaluateAnchors h hnext (eq_ok_of_mem_toOption hstep) role
    · exact .inl hsame
    · exact .inr (.inl ⟨hnext, hnone, hsearched⟩)
  · cases hstep
    refine .inl ?_
    unfold RequirementState.requestClarification
    dsimp only
    split <;> rfl
  · obtain ⟨_, -, hrun⟩ := bind_eq_ok (eq_ok_of_mem_toOption hstep)
    rw [← Except.ok.inj hrun]
    exact .inl rfl
  · obtain ⟨_, -, hrun⟩ := bind_eq_ok (eq_ok_of_mem_toOption hstep)
    rw [← Except.ok.inj hrun]
    exact .inl rfl
  · next hnext =>
    have hplaces := get?_applyClarificationPatch (eq_ok_of_mem_toOption hstep) role
    split at hplaces
    · next hstale => exact .inr (.inr ⟨hnext, hstale, hplaces⟩)
    · exact .inl hplaces
  · cases hstep
    exact .inl rfl
  · obtain ⟨draft, -, hrun⟩ := bind_eq_ok (eq_ok_of_mem_toOption hstep)
    obtain ⟨trip, -, hrun⟩ := bind_eq_ok hrun
    rw [← Except.ok.inj hrun]
    exact .inl rfl
  · cases hstep

/-- No place is stale: neither a cached one nor one of the trip. -/
structure AnchorsFresh (s : RequirementState) : Prop where
  cached : ∀ role resolution, s.anchorResolutions.get? role = some resolution →
    ∃ draft, s.requirementDraft = some draft ∧ Fresh draft.1 s.searches role resolution
  trip : ∀ trip, s.trip = some trip →
    ∃ draft, s.requirementDraft = some draft ∧ TripFresh draft.1 s.searches trip

/-- **Resolved anchors are never stale**, and a node keeps every place that it neither looks up for
the first time nor drops for a patch. -/
theorem anchorsFresh (maxRounds : ℕ) (zone : Zone) (inputs : List RequirementInput)
    (hrun : (initialRequirementState maxRounds).runInputs zone inputs = some s) :
    AnchorsFresh s ∧ ∀ input s', s.step zone input = some s' → KeepsPlaces s s' := by
  have h := invariant_runInputs (invariant_initial maxRounds) hrun
  refine ⟨⟨h.fresh, fun trip htrip => (h.assembled trip htrip).2⟩, ?_⟩
  exact fun input s' hstep => keepsPlaces_step h hstep

/-! ## A run with a question -/

namespace Sample

/-- A weekend for which the stations are known. -/
def weekendFields : DraftFields :=
  ⟨some "Hangzhou", some (Date.ofYmd 2026 10 1), some (Date.ofYmd 2026 10 2), some 2,
    some ⟨some "West", some (hourOf 0 10)⟩, some ⟨some "East", some (hourOf 1 18)⟩, none, none,
    [], [], [], none, none, none, none⟩

/-- The name of the arrival is another one. -/
def stationPatch : RequirementPatch :=
  ⟨none, none, none, none, some ⟨some "East", none⟩, none, none, none, none, none, none, none, none,
    none, none⟩

/-- The only station of the city. -/
def eastStation : POIFacts :=
  ⟨"B0", "East", "Hangzhou", ⟨120, 30⟩, [], ∅, none, none, none, none, "amap",
    ⟨0, 0⟩, 1, noCost_nonneg, noDuration_pos⟩

def stationGateway : ToolGateway where
  searchPoi query := .ok (.success (if query.keyword = "East" then [eastStation] else []) none none)
  getRoute _ := .error .toolUnavailable

omit [Platform] in
theorem weekendFields_accepted :
    @DraftFields.validate plainPlatform weekendFields = .ok weekendFields := by
  let := plainPlatform
  rw [DraftFields.validate_eq_self]
  refine ⟨by decide, by decide +kernel, ?_, ?_, rfl, rfl, rfl, rfl⟩
  all_goals
    rw [validateAnchor_eq_self]
    rintro value ⟨⟩
    decide +kernel

omit [Platform] in
theorem stationPatch_accepted :
    @RequirementPatch.validate plainPlatform stationPatch = stationPatch := by
  let := plainPlatform
  have harrival : stationPatch.arrival.map AnchorDraft.validate = stationPatch.arrival := by
    rw [validateAnchor_eq_self]
    rintro value ⟨⟩
    decide +kernel
  rw [RequirementPatch.validate, harrival]
  rfl

/-- The arrival is not found; the answer names the station of the departure. -/
def questionInputs : List (@RequirementInput plainPlatform) :=
  letI := plainPlatform
  [.parsed ⟨weekendFields, weekendFields_accepted⟩, .proceed, .searched stationGateway, .proceed,
    .proceed, .resumed "East", .patched ⟨stationPatch, stationPatch_accepted⟩, .proceed, .proceed,
    .searched stationGateway, .proceed, .proceed]

end Sample

omit [Platform] in
theorem anchorsFresh_question :
    letI := plainPlatform
    ∃ s, (initialRequirementState 3).runInputs Sample.chinaZone Sample.questionInputs = some s ∧
      s.trip.isSome ∧ AnchorsFresh s ∧
      ∀ input s', s.step Sample.chinaZone input = some s' → KeepsPlaces s s' := by
  let := plainPlatform
  have hassembled : ((initialRequirementState 3).runInputs Sample.chinaZone
      Sample.questionInputs).any (fun s => s.trip.isSome) = true := by decide +kernel
  obtain ⟨s, hrun, htrip⟩ := (Option.any_eq_true _ _).mp hassembled
  exact ⟨s, hrun, htrip, anchorsFresh 3 Sample.chinaZone Sample.questionInputs hrun⟩

end TravelPlanAgent
