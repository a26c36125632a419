import TravelPlanAgent.Critique.Evidence

/-!
# Grounding and scoring of critiques

`validateCritiqueGrounding` lists what is wrong with the references of some critiques.  Only
critiques without complaints are scored.

* `dimensionErrors`, `critiqueErrors`, `validateCritiqueGrounding`: the complaints.
* `CriticPolicy`, `qualityScore`, `qualityScores`: the weighted score of a grounded critique.
* `selectByQuality`: the best candidate by validation, soft score, score and id.
* `dimensions_of_grounded`: a grounded critique names every dimension exactly once.
-/

namespace TravelPlanAgent

open Calendar Selection

/-! ## Complaints -/

section Complaints

variable (digest : CandidateEvidenceDigest)

/-- The digest has a fact with this id. -/
def hasEvidence (evidenceId : String) : Bool :=
  digest.evidence.any fun item => decide (item.id = evidenceId)

/-- What is wrong with the action that a dimension suggests. -/
def actionErrors (candidateId : String) (dimension : SoftDimension)
    (action : SuggestedSoftAction) : List String :=
  let poiText := action.poiId.getD "None"
  let about (item : EvidenceItem) : Bool := decide (item.entityId = action.poiId)
  let complain (applies : Bool) (text : String) : List String := if applies then [text] else []
  complain action.evidenceIds.isEmpty
      ("action_missing_evidence:" ++ candidateId ++ ":" ++ dimension.value) ++
    (action.evidenceIds.filter fun evidenceId => !hasEvidence digest evidenceId).map
      (fun evidenceId => "action_unknown_evidence:" ++ candidateId ++ ":" ++ evidenceId) ++
    complain (!digest.evidence.any about)
      ("action_unknown_poi:" ++ candidateId ++ ":" ++ poiText) ++
    complain (action.fromDay.isSome && !digest.evidence.any fun item =>
        decide (item.day = action.fromDay) && about item)
      ("action_invalid_from_day:" ++ candidateId ++ ":" ++ poiText) ++
    complain (decide (action.kind = .moveOptionalPoi) && action.toDay.isSome &&
        !digest.evidence.any fun item => decide (item.day = action.toDay))
      ("action_invalid_to_day:" ++ candidateId ++ ":" ++ poiText) ++
    complain (decide (action.kind = .removeOptionalPoi) && digest.evidence.any fun item =>
        about item && decide (item.field = "must_visit") && decide (item.value = .truth true))
      ("action_removes_must_visit:" ++ candidateId ++ ":" ++ poiText)

/-- What is wrong with one dimension of a critique. -/
def dimensionErrors (candidateId : String) (critique : DimensionCritique) : List String :=
  (if critique.evidenceIds.isEmpty then
      ["missing_evidence:" ++ candidateId ++ ":" ++ critique.dimension.value] else []) ++
    (critique.evidenceIds.filter fun evidenceId => !hasEvidence digest evidenceId).map
      (fun evidenceId => "unknown_evidence:" ++ candidateId ++ ":" ++ evidenceId) ++
    (match critique.suggestedAction with
      | none => []
      | some action =>
        if action.kind = .noAction then []
        else actionErrors digest candidateId critique.dimension action)

/-- Every soft dimension exactly once. -/
def dimensionsComplete (dimensions : List SoftDimension) : Bool :=
  SoftDimension.all.all (fun dimension => decide (dimension ∈ dimensions)) &&
    decide (dimensions.length = SoftDimension.all.length)

/-- What is wrong with a critique, given the digest of its candidate. -/
def critiqueErrors (critique : SoftCritique) : List String :=
  let id := critique.candidateId
  let dimensions := critique.dimensions.map DimensionCritique.dimension
  (if dimensionsComplete dimensions then [] else ["dimension_set_invalid:" ++ id]) ++
    ((dimensions.eraseDups.filter fun dimension => decide (dimensions.count dimension ≠ 1)).map
      fun dimension => "duplicate_dimension:" ++ id ++ ":" ++ dimension.value) ++
    critique.dimensions.flatMap (dimensionErrors digest id) ++
    (critique.tradeoffEvidenceIds.filter fun evidenceId => !hasEvidence digest evidenceId).map
      (fun evidenceId => "tradeoff_unknown_evidence:" ++ id ++ ":" ++ evidenceId)

end Complaints

/-- The digest of a candidate; the last one wins. -/
def digestOf (digests : List CandidateEvidenceDigest) (candidateId : String) :
    Option CandidateEvidenceDigest :=
  lastWith (fun digest => decide (digest.candidateId = candidateId)) digests

/-- `validate_critique_grounding`: every complaint once. -/
def validateCritiqueGrounding (digests : List CandidateEvidenceDigest)
    (critiques : List SoftCritique) : List String :=
  let requested := digests.map CandidateEvidenceDigest.candidateId
  let returned := critiques.map SoftCritique.candidateId
  ((if returned.isPerm requested then [] else ["candidate_set_mismatch"]) ++
    critiques.flatMap fun critique =>
      match digestOf digests critique.candidateId with
      | none => ["unknown_candidate:" ++ critique.candidateId]
      | some digest => critiqueErrors digest critique).eraseDups

/-! ## Scores -/

/-- `CriticPolicy` with the bounds of its `__post_init__`; `weight` covers every dimension. -/
structure CriticPolicy where
  weight : SoftDimension → ℚ := fun
    | .pace => 25 / 100
    | .interestCoverage => 25 / 100
    | .diversity => 15 / 100
    | .restFriendliness => 15 / 100
    | .geographicCoherence => 20 / 100
  qualityThreshold : ℚ := 70
  minImprovement : ℚ := 5
  maxSoftReplanRounds : ℕ := 1
  groundingMaxAttempts : ℕ := 2
  weight_nonneg : ∀ dimension, 0 ≤ weight dimension
  weight_sum : |(SoftDimension.all.map weight).sum - 1| ≤ 1 / 10 ^ 9
  qualityThreshold_bounds : 0 ≤ qualityThreshold ∧ qualityThreshold ≤ 100
  minImprovement_bounds : 0 ≤ minImprovement ∧ minImprovement ≤ 100
  maxSoftReplanRounds_le : maxSoftReplanRounds ≤ 1
  groundingMaxAttempts_bounds : 1 ≤ groundingMaxAttempts ∧ groundingMaxAttempts ≤ 2

/-- The default policy. -/
def CriticPolicy.default : CriticPolicy where
  weight_nonneg dimension := by cases dimension <;> norm_num
  weight_sum := by norm_num [SoftDimension.all]
  qualityThreshold_bounds := by norm_num
  minImprovement_bounds := by norm_num
  maxSoftReplanRounds_le := le_rfl
  groundingMaxAttempts_bounds := by decide

/-- The score that a critique gives a dimension; the last one wins. -/
def dimensionScore (critique : SoftCritique) (dimension : SoftDimension) : Option ℕ :=
  (lastWith (fun d => decide (d.dimension = dimension)) critique.dimensions).map
    DimensionCritique.score

/-- `quality_score`. -/
def qualityScore (critique : SoftCritique) (policy : CriticPolicy) : Result ℚ := do
  let weighted ← SoftDimension.all.mapM fun dimension => do
    let score ← orRaise (dimensionScore critique dimension)
      (.valueError "cannot score an incomplete critique")
    return (score : ℚ) * policy.weight dimension
  return roundTo 2 weighted.sum

/-- `quality_scores`: the scores by candidate. -/
def qualityScores (critiques : List SoftCritique) (policy : CriticPolicy) :
    Result (Dict String ℚ) := do
  let scored ← critiques.mapM fun critique => do
    return (critique.candidateId, ← qualityScore critique policy)
  return Dict.ofList scored

/-- The rank of a candidate's validation: without warnings first. -/
def validationRank (candidate : PlanCandidate) : ℕ :=
  match candidate.validation with
  | some validation => if validation.status = .valid then 0 else 1
  | none => 1

/-- A missing score counts as less than every score. -/
def scoreAbove (a b : Option ℚ) : Bool :=
  match a, b with
  | some a, some b => decide (b < a)
  | some _, none => true
  | none, _ => false

/-- Compare by validation, then by scores from high to low, then by id. -/
def rankedBefore (scores : List (PlanCandidate → Option ℚ)) (a b : PlanCandidate) : Bool :=
  if validationRank a ≠ validationRank b then decide (validationRank a < validationRank b)
  else
    let rec byScores : List (PlanCandidate → Option ℚ) → Bool
      | [] => decide (a.id < b.id)
      | score :: rest =>
        if scoreAbove (score a) (score b) then true
        else if scoreAbove (score b) (score a) then false
        else byScores rest
    byScores scores

/-- `select_by_quality`: the validation comes first, then the soft score. -/
def selectByQuality (candidates : List PlanCandidate) (scores : Dict String ℚ) :
    Result PlanCandidate :=
  orRaise (firstMin (rankedBefore [fun c => scores.get? c.id, PlanCandidate.score]) candidates)
    (.valueError "min() arg is an empty sequence")

/-! ## Grounded critiques -/

section Grounded

theorem eraseDups_eq_nil {l : List String} (h : l.eraseDups = []) : l = [] := by
  cases l with
  | nil => rfl
  | cons a l =>
    rw [List.eraseDups_cons] at h
    exact absurd h (List.cons_ne_nil _ _)

variable {digests : List CandidateEvidenceDigest} {critiques : List SoftCritique}

/-- Critiques without complaints are about the requested candidates, one each. -/
theorem perm_of_grounded (h : validateCritiqueGrounding digests critiques = []) :
    (critiques.map SoftCritique.candidateId).Perm
      (digests.map CandidateEvidenceDigest.candidateId) := by
  have h := List.append_eq_nil_iff.mp (eraseDups_eq_nil h)
  have hperm := h.1
  split at hperm
  · next hisPerm => exact List.isPerm_iff.mp hisPerm
  · exact absurd hperm (by simp)

/-- A critique without complaints names every dimension. -/
theorem dimensions_of_grounded (h : validateCritiqueGrounding digests critiques = [])
    {critique : SoftCritique} (hcritique : critique ∈ critiques) (dimension : SoftDimension) :
    dimension ∈ critique.dimensions.map DimensionCritique.dimension := by
  have h := List.append_eq_nil_iff.mp (eraseDups_eq_nil h)
  have hnone := List.flatMap_eq_nil_iff.mp h.2 critique hcritique
  split at hnone
  · exact absurd hnone (by simp)
  · next digest _ =>
    simp only [critiqueErrors, List.append_eq_nil_iff] at hnone
    have hcomplete := hnone.1.1.1
    split at hcomplete
    · next hall =>
      rw [dimensionsComplete, Bool.and_eq_true, List.all_eq_true] at hall
      exact of_decide_eq_true (hall.1 dimension (SoftDimension.mem_all dimension))
    · exact absurd hcomplete (by simp)

/-- A critique that names every dimension has a score. -/
theorem qualityScore_exists {critique : SoftCritique} {policy : CriticPolicy}
    (h : ∀ dimension, dimension ∈ critique.dimensions.map DimensionCritique.dimension) :
    ∃ score, qualityScore critique policy = .ok score := by
  obtain ⟨weighted, hweighted⟩ := exists_mapM (l := SoftDimension.all)
      (f := fun dimension => do
        let score ← orRaise (dimensionScore critique dimension)
          (.valueError "cannot score an incomplete critique")
        return (score : ℚ) * policy.weight dimension) fun dimension _ => by
    obtain ⟨scored, hscored, hdimension⟩ := List.mem_map.mp (h dimension)
    obtain ⟨score, hscore⟩ : ∃ score, dimensionScore critique dimension = some score := by
      rw [dimensionScore, lastWith]
      cases hfind : critique.dimensions.reverse.find? fun d => decide (d.dimension = dimension) with
      | none =>
        have hall := List.find?_eq_none.mp hfind scored (List.mem_reverse.mpr hscored)
        exact absurd hdimension (by simpa using hall)
      | some found => exact ⟨found.score, rfl⟩
    exact ⟨(score : ℚ) * policy.weight dimension, by rw [hscore]; rfl⟩
  exact ⟨roundTo 2 weighted.sum, by rw [qualityScore, hweighted]; rfl⟩

end Grounded

end TravelPlanAgent
