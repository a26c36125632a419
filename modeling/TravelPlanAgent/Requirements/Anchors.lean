import TravelPlanAgent.Requirements.Clarification
import TravelPlanAgent.Domain.Tools

/-!
# Places for the anchors

The arrival, the departure and the accommodation are named in the draft, and a search in the
destination finds the place of each name.  Names that are written alike share a search.

* `AcceptedDraft`: a draft as its validators leave it.
* `buildAnchorSearchPlan`, `resolveAnchorSearchResults`: the searches, and what they find.
* `plannedFor_of_mem`: what the search of a role looks for.
* `resolvedBy_of_get?`: a resolution is the only match of a search for its role.
-/

namespace TravelPlanAgent

variable [Platform]

/-! ## Accepted drafts -/

/-- A `RequirementDraft` object: fields that its validators leave as they are. -/
def AcceptedDraft : Type := {fields : DraftFields // fields.validate = .ok fields}

/-- A `RequirementPatch` object. -/
def AcceptedPatch : Type := {patch : RequirementPatch // patch.validate = patch}

theorem length_normalizeTerms_le (seen values : List String) :
    (normalizeTerms seen values).length ≤ values.length := by
  induction values generalizing seen with
  | nil => exact le_refl _
  | cons value rest ih =>
    rw [normalizeTerms]
    split
    · exact (ih seen).trans (Nat.le_succ _)
    · exact Nat.succ_le_succ (ih _)

/-- Terms that the validators leave as they are. -/
theorem normalized_of_normalizeTerms {seen values : List String}
    (h : normalizeTerms seen values = values) : Normalized values := by
  induction values generalizing seen with
  | nil => exact fun term hterm => absurd hterm List.not_mem_nil
  | cons value rest ih =>
    rw [normalizeTerms] at h
    split at h
    · have hlength := length_normalizeTerms_le seen rest
      rw [h, List.length_cons] at hlength
      omega
    · next hkept =>
      rw [List.cons.injEq] at h
      intro term hterm
      rcases List.mem_cons.mp hterm with rfl | hterm
      · exact ⟨h.1, fun hempty => hkept (.inl (h.1.trans hempty))⟩
      · exact ih h.2 term hterm

/-- The draft, as the validation and the assembly read it. -/
def AcceptedDraft.toDraft (draft : AcceptedDraft) : RequirementDraft :=
  have h := DraftFields.validate_eq_self.mp draft.2
  { destination := draft.1.destination
    startDate := draft.1.startDate
    endDate := draft.1.endDate
    travelers := draft.1.travelers
    arrival := draft.1.arrival
    departure := draft.1.departure
    accommodationName := draft.1.accommodationName
    totalBudget := draft.1.totalBudget
    interests := draft.1.interests
    avoid := draft.1.avoid
    mustVisit := draft.1.mustVisit
    pace := draft.1.pace
    mobility := draft.1.mobility
    dailyStart := draft.1.dailyStart
    dailyEnd := draft.1.dailyEnd
    interests_normalized :=
      ⟨normalized_of_normalizeTerms h.2.2.2.2.2.1, h.1.1⟩
    avoid_normalized :=
      ⟨normalized_of_normalizeTerms h.2.2.2.2.2.2.1, h.1.2.1⟩
    mustVisit_normalized :=
      ⟨normalized_of_normalizeTerms h.2.2.2.2.2.2.2, h.1.2.2⟩ }

/-! ## The search plan -/

/-- White space, as `\s` matches it. -/
def isSpace (c : Char) : Bool :=
  decide (9 ≤ c.toNat ∧ c.toNat ≤ 13 ∨ 28 ≤ c.toNat ∧ c.toNat ≤ 32 ∨
    8192 ≤ c.toNat ∧ c.toNat ≤ 8202) ||
    [133, 160, 5760, 8232, 8233, 8239, 8287, 12288].contains c.toNat

/-- `_normalize`. -/
def anchorKey (value : String) : String :=
  String.ofList ((normalize value).toList.filter fun c =>
    !(isSpace c || ['(', ')', '（', '）'].contains c))

/-- The name that a draft has for a role. -/
def DraftFields.anchorName (draft : DraftFields) : AnchorRole → Option String
  | .arrival => draft.arrival.bind AnchorDraft.name
  | .departure => draft.departure.bind AnchorDraft.name
  | .accommodation => draft.accommodationName

/-- `AnchorSearchIntent`. -/
structure AnchorSearchIntent where
  roles : List AnchorRole
  query : POISearchQuery

/-- One candidate: it joins the search for its name, or starts one. -/
def addCandidate (draft : DraftFields) (destination : String) (roles : List AnchorRole)
    (intentsByName : Dict String AnchorSearchIntent) (role : AnchorRole) :
    Dict String AnchorSearchIntent :=
  match draft.anchorName role with
  | none => intentsByName
  | some name =>
    if role ∉ roles ∨ name = "" then intentsByName
    else
      match intentsByName.get? (anchorKey name) with
      | some existing =>
        intentsByName.set (anchorKey name) { existing with roles := existing.roles ++ [role] }
      | none => intentsByName.set (anchorKey name) ⟨[role], ⟨destination, name, true, 5, 200⟩⟩

/-- `build_anchor_search_plan`. -/
def buildAnchorSearchPlan (draft : DraftFields) (roles : List AnchorRole) :
    Result (List AnchorSearchIntent) := do
  require (given draft.destination = true)
    (.valueError "destination is required before anchor resolution")
  let destination := draft.destination.getD ""
  let intentsByName := [AnchorRole.arrival, .departure, .accommodation].foldl
    (addCandidate draft destination roles) ∅
  return intentsByName.values

/-- The search of an intent is the one for each of its roles. -/
structure PlannedFor (draft : DraftFields) (roles : List AnchorRole)
    (intent : AnchorSearchIntent) : Prop where
  city : draft.destination = some intent.query.city
  roles_subset : intent.roles ⊆ roles
  names : ∀ role ∈ intent.roles, ∃ name, draft.anchorName role = some name ∧
    anchorKey intent.query.keyword = anchorKey name

theorem addCandidate_values {draft : DraftFields} {destination : String} {roles : List AnchorRole}
    (hdestination : draft.destination = some destination)
    {intentsByName : Dict String AnchorSearchIntent}
    (h : ∀ key intent, intentsByName.get? key = some intent →
      PlannedFor draft roles intent ∧ anchorKey intent.query.keyword = key)
    (role : AnchorRole) (key : String) (intent : AnchorSearchIntent)
    (hget : (addCandidate draft destination roles intentsByName role).get? key = some intent) :
    PlannedFor draft roles intent ∧ anchorKey intent.query.keyword = key := by
  rw [addCandidate] at hget
  split at hget
  · exact h key intent hget
  · next name hname =>
    split at hget
    · exact h key intent hget
    · next hwanted =>
      have hrole : role ∈ roles := by
        by_contra hnot
        exact hwanted (.inl hnot)
      split at hget
      · next existing hexisting =>
        obtain ⟨hplanned, hkey⟩ := h _ existing hexisting
        rw [Dict.get?_set] at hget
        split at hget
        · next heq =>
          rw [← Option.some.inj hget]
          refine ⟨⟨hplanned.city, ?_, fun other hother => ?_⟩, hkey.trans heq.symm⟩
          · rw [List.append_subset]
            exact ⟨hplanned.roles_subset, by simpa using hrole⟩
          · rcases List.mem_append.mp hother with hother | hother
            · exact hplanned.names other hother
            · rw [List.mem_singleton.mp hother]
              exact ⟨name, hname, hkey⟩
        · exact h key intent hget
      · rw [Dict.get?_set] at hget
        split at hget
        · next heq =>
          rw [← Option.some.inj hget]
          refine ⟨⟨hdestination, by simpa using hrole, fun other hother => ?_⟩, heq.symm⟩
          rw [List.mem_singleton.mp hother]
          exact ⟨name, hname, rfl⟩
        · exact h key intent hget

/-- A planned search looks in the destination for the names of its roles. -/
theorem plannedFor_of_mem {draft : DraftFields} {roles : List AnchorRole}
    {plan : List AnchorSearchIntent} (h : buildAnchorSearchPlan draft roles = .ok plan)
    {intent : AnchorSearchIntent} (hintent : intent ∈ plan) : PlannedFor draft roles intent := by
  obtain ⟨_, hgiven, h⟩ := bind_eq_ok h
  have hdestination : draft.destination = some (draft.destination.getD "") := by
    have htext := require_eq_ok hgiven
    cases hd : draft.destination with
    | none => rw [hd] at htext; exact absurd htext (by decide)
    | some destination => rfl
  have hplan := Except.ok.inj h
  rw [← hplan] at hintent
  obtain ⟨key, hget⟩ := Dict.mem_values_iff.mp hintent
  have hnone : ∀ key intent, (∅ : Dict String AnchorSearchIntent).get? key = some intent →
      PlannedFor draft roles intent ∧ anchorKey intent.query.keyword = key :=
    fun key intent hget => by cases hget
  -- one candidate after the other
  have harrival := addCandidate_values hdestination hnone .arrival
  have hdeparture := addCandidate_values hdestination harrival .departure
  exact (addCandidate_values hdestination hdeparture .accommodation key intent hget).1

/-! ## The results -/

/-- `_matching_facts`. -/
def matchingFacts (queryName : String) (facts : List POIFacts) : List POIFacts :=
  let query := anchorKey queryName
  let exactly := facts.filter fun item => anchorKey item.name = query
  if exactly ≠ [] then exactly
  else facts.filter fun item =>
    textIn query (anchorKey item.name) || textIn (anchorKey item.name) query

/-- The resolution of a role by the facts of a place. -/
def anchorResolution (role : AnchorRole) (query : POISearchQuery) (facts : POIFacts) :
    AnchorResolution :=
  ⟨role, query.keyword, facts.name, facts.id, facts.coordinate, facts.provider,
    facts.dataConfidence⟩

/-- `_anchor_issue`. -/
def anchorIssue (name : String) (code : RequirementIssueCode) (role : AnchorRole) :
    RequirementIssue :=
  let (field, roleName) := match role with
    | .arrival => ("arrival.name", "抵达地点")
    | .departure => ("departure.name", "离开地点")
    | .accommodation => ("accommodation_name", "住宿地点")
  let reason := if code = .notFound then "没有找到唯一地点" else "匹配到多个地点"
  ⟨code, field, roleName ++ "“" ++ name ++ "”" ++ reason,
    some ("请提供更具体的" ++ roleName ++ "名称或地址。"), true⟩

/-- What one search resolves: all its roles, or none. -/
def resolveIntent (intent : AnchorSearchIntent) (data : List POIFacts) :
    List (AnchorRole × AnchorResolution) × List RequirementIssue :=
  match matchingFacts intent.query.keyword data with
  | [facts] => (intent.roles.map fun role => (role, anchorResolution role intent.query facts), [])
  | [] => ([], intent.roles.map (anchorIssue intent.query.keyword .notFound))
  | _ => ([], intent.roles.map (anchorIssue intent.query.keyword .ambiguous))

/-- `resolve_anchor_search_results`. -/
def resolveAnchorSearchResults (plan : List AnchorSearchIntent)
    (results : List (ToolResult (List POIFacts))) :
    Result (AnchorResolutions × List RequirementIssue) := do
  require (plan.length = results.length)
    (.valueError "anchor plan and results must have the same length")
  let outcomes ← (plan.zip results).mapM fun (intent, result) =>
    match result with
    | .success data _ _ => Except.ok (resolveIntent intent data)
    | .failed _ _ =>
      .error (.valueError "failed tool results must be handled before resolution")
  return (Dict.ofList (outcomes.flatMap Prod.fst), outcomes.flatMap Prod.snd)

/-- The resolution is the only match of a search. -/
def ResolvedBy (query : POISearchQuery) (result : ToolResult (List POIFacts)) (role : AnchorRole)
    (resolution : AnchorResolution) : Prop :=
  ∃ data fetchedAt expiresAt facts, result = .success data fetchedAt expiresAt ∧
    matchingFacts query.keyword data = [facts] ∧ resolution = anchorResolution role query facts

theorem mem_resolveIntent {intent : AnchorSearchIntent} {data : List POIFacts} {role : AnchorRole}
    {resolution : AnchorResolution} (h : (role, resolution) ∈ (resolveIntent intent data).1) :
    role ∈ intent.roles ∧ ∃ facts, matchingFacts intent.query.keyword data = [facts] ∧
      resolution = anchorResolution role intent.query facts := by
  rw [resolveIntent] at h
  split at h
  · next facts hfacts =>
    obtain ⟨other, hother, heq⟩ := List.mem_map.mp h
    cases heq
    exact ⟨hother, facts, hfacts, rfl⟩
  · cases h
  · cases h

/-- A new resolution comes from a search for its role. -/
theorem resolvedBy_of_get? {plan : List AnchorSearchIntent}
    {results : List (ToolResult (List POIFacts))} {resolutions : AnchorResolutions}
    {issues : List RequirementIssue}
    (h : resolveAnchorSearchResults plan results = .ok (resolutions, issues)) {role : AnchorRole}
    {resolution : AnchorResolution} (hget : resolutions.get? role = some resolution) :
    ∃ intent result, (intent, result) ∈ plan.zip results ∧ role ∈ intent.roles ∧
      ResolvedBy intent.query result role resolution := by
  obtain ⟨_, -, h⟩ := bind_eq_ok h
  obtain ⟨outcomes, houtcomes, h⟩ := bind_eq_ok h
  have heq := Except.ok.inj h
  rw [Prod.mk.injEq] at heq
  rw [← heq.1] at hget
  obtain ⟨outcome, houtcome, hmem⟩ := List.mem_flatMap.mp (Dict.mem_of_get?_ofList hget)
  obtain ⟨⟨intent, result⟩, hpair, hresult⟩ :=
    exists_of_forall₂_right (mapM_eq_ok.mp houtcomes) houtcome
  cases result with
  | failed code message => cases hresult
  | success data fetchedAt expiresAt =>
    rw [← Except.ok.inj hresult] at hmem
    obtain ⟨hrole, facts, hfacts, hresolution⟩ := mem_resolveIntent hmem
    exact ⟨intent, _, hpair, hrole, data, fetchedAt, expiresAt, facts, rfl, hfacts, hresolution⟩

end TravelPlanAgent
