import TravelPlanAgent.Critique.Grounding

/-!
# Explaining a selection

* `GroundedStatement`, `GroundedExplanation`: statements with the evidence they rest on.
* `buildGroundedExplanation`: the explanation of a selected candidate, from its critique or, when
  there is none, from its metrics.
* `buildGroundedExplanation_of_no_critique`: the explanation without a critique.
* `exists_buildGroundedExplanation`: when there is an explanation.
-/

namespace TravelPlanAgent

open Calendar Selection

structure GroundedStatement where
  text : String
  evidenceIds : List String

structure GroundedExplanation where
  candidateId : String
  headline : String
  highlights : List GroundedStatement
  tradeoffs : List GroundedStatement
  criticStatus : CriticStatus

/-- A share in whole percent. -/
def percentText (share : ℚ) : String := toString (roundHalfEven (100 * share)) ++ "%"

/-- The dimensions of a critique, the best first. -/
def bestDimensions (critique : SoftCritique) : List DimensionCritique :=
  sortByKey (fun dimension : DimensionCritique =>
    (toLex (-(dimension.score : ℤ), dimension.dimension.value) : ℤ ×ₗ String)) critique.dimensions

/-- The worst dimension of a critique. -/
def worstDimension (critique : SoftCritique) : Option DimensionCritique :=
  minByKey (fun dimension : DimensionCritique =>
    (toLex (dimension.score, dimension.dimension.value) : ℕ ×ₗ String)) critique.dimensions

/-- The explanation that a critique gives. -/
def critiqueExplanation (candidate : PlanCandidate) (status : CriticStatus)
    (critique : SoftCritique) : GroundedExplanation :=
  { candidateId := candidate.id
    headline := candidate.style.value ++ " 方案在硬约束合法基础上获得更好的软质量评价"
    highlights := ((bestDimensions critique).take 3).map fun dimension =>
      ⟨dimension.summary, dimension.evidenceIds⟩
    tradeoffs := (worstDimension critique).toList.map fun dimension =>
      ⟨"需要权衡：" ++ dimension.summary, dimension.evidenceIds⟩
    criticStatus := status }

/-- The explanation without a critique. -/
def metricExplanation (candidate : PlanCandidate) (status : CriticStatus)
    (evidenceIds : List String) : GroundedExplanation :=
  { candidateId := candidate.id
    headline := "软评审不可用，已按硬约束与确定性指标选择方案"
    highlights := [⟨"方案总移动时间 " ++ toString candidate.metrics.totalTravelMinutes ++
      " 分钟，偏好匹配度 " ++ percentText candidate.metrics.preferenceMatch ++ "。", evidenceIds⟩]
    tradeoffs := []
    criticStatus := status }

/-- `build_grounded_explanation`. -/
def buildGroundedExplanation (candidate : PlanCandidate) (status : CriticStatus)
    (digest : Option CandidateEvidenceDigest) (critique : Option SoftCritique) :
    Result GroundedExplanation :=
  let evidenceIds :=
    (digest.toList.flatMap fun digest => digest.evidence.map EvidenceItem.id).take 2
  match status, critique with
  | .success, some critique => .ok (critiqueExplanation candidate status critique)
  | _, _ =>
    if evidenceIds = [] then
      .error (.valueError "deterministic explanation requires an evidence digest")
    else .ok (metricExplanation candidate status evidenceIds)

/-- Without a critique the explanation rests on the first two facts of the digest. -/
theorem buildGroundedExplanation_of_no_critique {candidate : PlanCandidate} {status : CriticStatus}
    {digest : Option CandidateEvidenceDigest} {critique : Option SoftCritique}
    (h : status ≠ .success ∨ critique = none) :
    buildGroundedExplanation candidate status digest critique =
      if (digest.toList.flatMap fun digest => digest.evidence.map EvidenceItem.id).take 2 = [] then
        .error (.valueError "deterministic explanation requires an evidence digest")
      else .ok (metricExplanation candidate status
        ((digest.toList.flatMap fun digest => digest.evidence.map EvidenceItem.id).take 2)) := by
  unfold buildGroundedExplanation
  dsimp only
  split
  · rcases h with h | h
    · exact absurd rfl h
    · exact absurd h (Option.some_ne_none _)
  · rfl

/-- A critique, or a digest with a fact in it, is enough to explain a candidate. -/
theorem exists_buildGroundedExplanation {candidate : PlanCandidate} {status : CriticStatus}
    {digest : Option CandidateEvidenceDigest} {critique : Option SoftCritique}
    (h : (status = .success ∧ critique ≠ none) ∨ ∃ d, digest = some d ∧ d.evidence ≠ []) :
    ∃ explanation, buildGroundedExplanation candidate status digest critique = .ok explanation := by
  obtain ⟨rfl, hcritique⟩ | ⟨d, rfl, hevidence⟩ := h
  · obtain ⟨critique, rfl⟩ := Option.ne_none_iff_exists'.mp hcritique
    exact ⟨_, rfl⟩
  · unfold buildGroundedExplanation
    dsimp only
    split
    · exact ⟨_, rfl⟩
    · rw [if_neg]
      · exact ⟨_, rfl⟩
      · obtain ⟨item, rest, hitems⟩ := List.exists_cons_of_ne_nil hevidence
        simp [hitems]

end TravelPlanAgent
