import TravelPlanAgent.Graph.HardLoop
import TravelPlanAgent.Critique.GroundedScores
import TravelPlanAgent.Critique.DigestFacts

/-!
# Explaining the choice

The plan that is chosen is explained by its critique or, without one, by the facts of its digest.
Digests are made for the first candidates only, while the choice is made among all of them.

* `rankedBefore_trans`, `not_rankedBefore_of_firstMin`: nothing is ranked before the choice.
* `Reviewed`, `reviewed_qualityGate`: the states in which the critic has come to an end.
* `DigestedWins`: a candidate with a digest is ranked first.
* `chosen_digested_iff`: the choice has a digest exactly then.
* `ExplainsChoice`, `explainsChoice_iff`: when the choice can be explained.
* `exists_not_explainsChoice`: a valid plan without a digest.
-/

namespace TravelPlanAgent

open Calendar Selection

/-! ## Ranking -/

section Ranking

variable {a b c : PlanCandidate}

/-- A score counts by its negative. -/
theorem scoreAbove_eq (x y : Option ℚ) :
    scoreAbove x y = decide (negatedScore x < negatedScore y) := by
  cases x with
  | none =>
    have htop : ¬negatedScore none < negatedScore y := not_top_lt
    cases y <;> exact (decide_eq_false htop).symm
  | some x =>
    cases y with
    | none => exact (decide_eq_true (WithTop.coe_lt_top (-x))).symm
    | some y =>
      have hneg : negatedScore (some x) < negatedScore (some y) ↔ y < x :=
        WithTop.coe_lt_coe.trans neg_lt_neg_iff
      exact (decide_eq_decide.mpr hneg).symm

theorem byScores_cons (score : PlanCandidate → Option ℚ) (rest : List (PlanCandidate → Option ℚ)) :
    rankedBefore.byScores a b (score :: rest) = true ↔
      negatedScore (score a) < negatedScore (score b) ∨
        negatedScore (score a) = negatedScore (score b) ∧
          rankedBefore.byScores a b rest = true := by
  rw [rankedBefore.byScores, scoreAbove_eq, scoreAbove_eq]
  rcases lt_trichotomy (negatedScore (score a)) (negatedScore (score b)) with h | h | h
  · simp [h]
  · simp [h]
  · simp [h, h.not_gt, h.ne']

theorem byScores_trans {scores : List (PlanCandidate → Option ℚ)}
    (hab : rankedBefore.byScores a b scores = true)
    (hbc : rankedBefore.byScores b c scores = true) : rankedBefore.byScores a c scores = true := by
  induction scores with
  | nil =>
    rw [rankedBefore.byScores, decide_eq_true_eq] at hab hbc ⊢
    exact hab.trans hbc
  | cons score rest ih =>
    rw [byScores_cons] at hab hbc ⊢
    rcases hab with hab | ⟨hab, hrest⟩
    · rcases hbc with hbc | ⟨hbc, -⟩
      · exact .inl (hab.trans hbc)
      · exact .inl (hbc ▸ hab)
    · rcases hbc with hbc | ⟨hbc, hrest'⟩
      · exact .inl (hab ▸ hbc)
      · exact .inr ⟨hab.trans hbc, ih hrest hrest'⟩

theorem byScores_irrefl (scores : List (PlanCandidate → Option ℚ)) :
    rankedBefore.byScores a a scores = false := by
  induction scores with
  | nil => simp [rankedBefore.byScores]
  | cons score rest ih =>
    rw [Bool.eq_false_iff, Ne, byScores_cons, ih]
    simp

/-- Of two candidates with different ids one comes first. -/
theorem byScores_total (scores : List (PlanCandidate → Option ℚ)) (h : a.id ≠ b.id) :
    rankedBefore.byScores a b scores = true ∨ rankedBefore.byScores b a scores = true := by
  induction scores with
  | nil =>
    simp only [rankedBefore.byScores, decide_eq_true_eq]
    exact lt_or_gt_of_ne h
  | cons score rest ih =>
    rw [byScores_cons, byScores_cons]
    rcases lt_trichotomy (negatedScore (score a)) (negatedScore (score b)) with hlt | heq | hlt
    · exact .inl (.inl hlt)
    · exact ih.imp (fun h => .inr ⟨heq, h⟩) fun h => .inr ⟨heq.symm, h⟩
    · exact .inr (.inl hlt)

variable {scores : List (PlanCandidate → Option ℚ)}

theorem rankedBefore_iff :
    rankedBefore scores a b = true ↔ validationRank a < validationRank b ∨
      validationRank a = validationRank b ∧ rankedBefore.byScores a b scores = true := by
  rw [rankedBefore]
  rcases lt_trichotomy (validationRank a) (validationRank b) with h | h | h
  · simp [h, h.ne]
  · simp [h]
  · simp [h.not_gt, h.ne']

theorem rankedBefore_trans (hab : rankedBefore scores a b = true)
    (hbc : rankedBefore scores b c = true) : rankedBefore scores a c = true := by
  rw [rankedBefore_iff] at hab hbc ⊢
  rcases hab with hab | ⟨hab, hrest⟩
  · rcases hbc with hbc | ⟨hbc, -⟩
    · exact .inl (hab.trans hbc)
    · exact .inl (hbc ▸ hab)
  · rcases hbc with hbc | ⟨hbc, hrest'⟩
    · exact .inl (hab ▸ hbc)
    · exact .inr ⟨hab.trans hbc, byScores_trans hrest hrest'⟩

theorem rankedBefore_irrefl (a : PlanCandidate) : rankedBefore scores a a = false := by
  rw [Bool.eq_false_iff, Ne, rankedBefore_iff, byScores_irrefl]
  simp

theorem rankedBefore_total (h : a.id ≠ b.id) :
    rankedBefore scores a b = true ∨ rankedBefore scores b a = true := by
  rw [rankedBefore_iff, rankedBefore_iff]
  rcases lt_trichotomy (validationRank a) (validationRank b) with hlt | heq | hlt
  · exact .inl (.inl hlt)
  · exact (byScores_total scores h).imp (fun h => .inr ⟨heq, h⟩) fun h => .inr ⟨heq.symm, h⟩
  · exact .inr (.inl hlt)

/-- Nothing is ranked before the first candidate. -/
theorem not_rankedBefore_of_firstMin {candidates : List PlanCandidate}
    (h : firstMin (rankedBefore scores) candidates = some a) (hb : b ∈ candidates) :
    rankedBefore scores b a = false :=
  not_lt_firstMin rankedBefore_irrefl (fun _ _ _ => rankedBefore_trans) h b hb

/-- Every other candidate comes after the first one. -/
theorem rankedBefore_of_firstMin {candidates : List PlanCandidate}
    (h : firstMin (rankedBefore scores) candidates = some a) (hb : b ∈ candidates)
    (hne : a.id ≠ b.id) : rankedBefore scores a b = true := by
  refine (rankedBefore_total hne).resolve_right ?_
  rw [not_rankedBefore_of_firstMin h hb]
  exact Bool.noConfusion

end Ranking

namespace PlanningGraph

variable [Platform]

/-! ## Reviewed candidates -/

/-- The critic has come to an end: there are digests of the deliverable candidates, and scores
exactly when there are grounded critiques. -/
structure Reviewed (setup : PlanningSetup) (state : TravelState) : Prop where
  ids : ((deliverableCandidates state).map PlanCandidate.id).Nodup
  digests : state.criticEvidenceDigests = buildEvidenceDigests state.trip
    (deliverableCandidates state) state.planningPois setup.evidenceBudget
  some : state.criticEvidenceDigests ≠ []
  grounded : state.criticStatus = .success →
    validateCritiqueGrounding state.criticEvidenceDigests state.softCritiques = [] ∧
      qualityScores state.softCritiques setup.criticPolicy = .ok state.qualityScores
  unscored : state.criticStatus ≠ .success → state.qualityScores = ∅

/-- A candidate has a digest. -/
def Digested (state : TravelState) (candidate : PlanCandidate) : Prop :=
  candidate.id ∈ state.criticEvidenceDigests.map CandidateEvidenceDigest.candidateId

/-- After a successful critique: if a valid candidate has no digest, another one has.  Otherwise:
every candidate without a digest comes after one with a digest. -/
structure DigestedWins (state : TravelState) : Prop where
  critiqued : state.criticStatus = .success →
    (∃ candidate ∈ deliverableCandidates state, ¬Digested state candidate ∧
      validationRank candidate = 0) →
    ∃ candidate ∈ deliverableCandidates state, Digested state candidate ∧
      validationRank candidate = 0
  uncritiqued : state.criticStatus ≠ .success →
    ∀ candidate ∈ deliverableCandidates state, ¬Digested state candidate →
      ∃ other ∈ deliverableCandidates state, Digested state other ∧
        rankedBefore [PlanCandidate.score] other candidate = true

section Reviewed

variable {setup : PlanningSetup} {state after : TravelState} {chosen : PlanCandidate}

/-- Behind the quality gate the candidates are reviewed, whatever the critic has answered. -/
theorem reviewed_qualityGate (hids : ((deliverableCandidates state).map PlanCandidate.id).Nodup)
    (hdigests : state.criticEvidenceDigests = buildEvidenceDigests state.trip
      (deliverableCandidates state) state.planningPois setup.evidenceBudget)
    (hsome : state.criticEvidenceDigests ≠ [])
    (h : qualityGate setup (validateCriticEvidence state) = .ok after) :
    Reviewed setup after := by
  obtain ⟨scores, hscores, rfl⟩ := qualityGate_eq_ok h
  unfold validateCriticEvidence at hscores ⊢
  split at hscores
  · next hstatus =>
    rw [if_pos hstatus]
    obtain ⟨hsuccess, -⟩ | ⟨-, rfl⟩ := hscores
    · exact absurd hsuccess hstatus
    · exact ⟨hids, hdigests, hsome, fun hsuccess => absurd hsuccess hstatus, fun _ => rfl⟩
  · next hstatus =>
    rw [if_neg hstatus]
    refine ⟨hids, hdigests, hsome, fun hsuccess => ?_, fun hfailed => ?_⟩
    · obtain ⟨-, hscores⟩ | ⟨hfailed, -⟩ := hscores
      · refine ⟨?_, hscores⟩
        by_contra herrors
        have hempty : (validateCritiqueGrounding state.criticEvidenceDigests
            state.softCritiques).isEmpty = false := by
          rw [List.isEmpty_eq_false_iff]
          exact herrors
        simp [hempty] at hsuccess
      · exact absurd hsuccess hfailed
    · obtain ⟨hsuccess, -⟩ | ⟨-, rfl⟩ := hscores
      · exact absurd hsuccess hfailed
      · rfl

/-- The digests are those of the first deliverable candidates. -/
theorem Reviewed.candidateIds (h : Reviewed setup state) :
    state.criticEvidenceDigests.map CandidateEvidenceDigest.candidateId <+:
      (deliverableCandidates state).map PlanCandidate.id := by
  have heach := @forall₂_digestsWithin _ state.trip state.planningPois
    setup.evidenceBudget.maxItemsPerCandidate setup.evidenceBudget.maxInputChars
    ((deliverableCandidates state).take setup.evidenceBudget.maxCandidates)
  have hdigests := h.digests
  rw [buildEvidenceDigests] at hdigests
  rw [← hdigests, List.take_take] at heach
  have hids : state.criticEvidenceDigests.map CandidateEvidenceDigest.candidateId =
      ((deliverableCandidates state).take (min state.criticEvidenceDigests.length
        setup.evidenceBudget.maxCandidates)).map PlanCandidate.id := by
    rw [← List.forall₂_eq_eq_eq, List.forall₂_map_left_iff, List.forall₂_map_right_iff]
    exact heach.flip.imp fun _ _ hdigest => hdigest.candidateId
  rw [hids]
  exact (List.take_prefix ..).map _

theorem Reviewed.nodup (h : Reviewed setup state) :
    (state.criticEvidenceDigests.map CandidateEvidenceDigest.candidateId).Nodup :=
  h.ids.sublist h.candidateIds.sublist

/-- Some deliverable candidate has a digest. -/
theorem Reviewed.exists_digested (h : Reviewed setup state) :
    ∃ candidate ∈ deliverableCandidates state, Digested state candidate := by
  obtain ⟨digest, rest, hdigests⟩ := List.exists_cons_of_ne_nil h.some
  have hmem : digest.candidateId ∈
      state.criticEvidenceDigests.map CandidateEvidenceDigest.candidateId := by
    rw [hdigests]
    exact List.mem_cons_self
  obtain ⟨candidate, hcandidate, hid⟩ := List.mem_map.mp (h.candidateIds.subset hmem)
  refine ⟨candidate, hcandidate, ?_⟩
  rw [Digested, hid]
  exact hmem

/-- A deliverable candidate is chosen. -/
theorem Reviewed.exists_chosen (h : Reviewed setup state) :
    ∃ chosen, chosenByQuality state = .ok chosen := by
  obtain ⟨candidate, hcandidate, -⟩ := h.exists_digested
  have hne : deliverableCandidates state ≠ [] := List.ne_nil_of_mem hcandidate
  unfold chosenByQuality
  split
  · obtain ⟨chosen, hchosen⟩ := exists_firstMin (rankedBefore [PlanCandidate.score]) hne
    exact ⟨chosen, by rw [selectBestCandidate, hchosen]; rfl⟩
  · obtain ⟨chosen, hchosen⟩ := exists_firstMin (rankedBefore
      [fun c => state.qualityScores.get? c.id, PlanCandidate.score]) hne
    exact ⟨chosen, by rw [TravelPlanAgent.selectByQuality, hchosen]; rfl⟩

/-- After a successful critique the candidates with a digest are scored. -/
theorem Reviewed.scored_iff (h : Reviewed setup state) (hsuccess : state.criticStatus = .success)
    (candidate : PlanCandidate) :
    candidate.id ∈ state.qualityScores.keys ↔ Digested state candidate := by
  obtain ⟨hgrounded, hscores⟩ := h.grounded hsuccess
  have hscored := scored_of_dimensions (perm_of_grounded hgrounded)
    fun critique hcritique dimension => dimensions_of_grounded hgrounded hcritique dimension
  obtain ⟨scores, hscores', hkeys, -⟩ := hscored setup.criticPolicy
  obtain rfl : state.qualityScores = scores := Except.ok.inj (hscores.symm.trans hscores')
  exact hkeys candidate.id

/-- The choice has a digest exactly when a candidate with a digest is ranked first. -/
theorem chosen_digested_iff (h : Reviewed setup state)
    (hchosen : chosenByQuality state = .ok chosen) :
    Digested state chosen ↔ DigestedWins state := by
  have hmem := mem_of_chosenByQuality hchosen
  obtain ⟨digested, hdigested, hhas⟩ := h.exists_digested
  unfold chosenByQuality at hchosen
  by_cases hsuccess : state.criticStatus = .success
  · have hscored := h.scored_iff hsuccess
    have hsize : state.qualityScores.size ≠ 0 := by
      rw [← Dict.length_keys]
      exact (List.length_pos_of_mem ((hscored digested).mpr hhas)).ne'
    rw [if_neg hsize] at hchosen
    have hfirst := orRaise_eq_ok hchosen
    have hrank : ∀ candidate, validationRank candidate = 0 ∨ validationRank candidate = 1 := by
      intro candidate
      unfold validationRank
      split
      · split
        · exact .inl rfl
        · exact .inr rfl
      · exact .inr rfl
    constructor
    · intro hchosenHas
      refine ⟨fun _ => ?_, fun hfailed => absurd hsuccess hfailed⟩
      rintro ⟨candidate, hcandidate, -, hvalid⟩
      refine ⟨chosen, hmem, hchosenHas, ?_⟩
      have hafter := not_rankedBefore_of_firstMin hfirst hcandidate
      rw [Bool.eq_false_iff, Ne, rankedBefore_iff, hvalid] at hafter
      exact (hrank chosen).resolve_right fun hwarned => hafter (.inl (by omega))
    · rintro ⟨hwins, -⟩
      by_contra hnone
      -- A candidate with a digest has a score, so only its warnings can put it last.
      have hbehind : ∀ candidate ∈ deliverableCandidates state, Digested state candidate →
          validationRank chosen < validationRank candidate := by
        intro candidate hcandidate hhas
        have hafter := not_rankedBefore_of_firstMin hfirst hcandidate
        rw [Bool.eq_false_iff, Ne, rankedBefore_iff, byScores_cons, not_or] at hafter
        obtain ⟨score, hscore⟩ := Dict.exists_get?_of_mem_keys ((hscored candidate).mpr hhas)
        have hunscored : state.qualityScores.get? chosen.id = none :=
          Dict.get?_eq_none_iff.mpr fun hkey => hnone ((hscored chosen).mp hkey)
        refine lt_of_le_of_ne (not_lt.mp hafter.1) fun heq => hafter.2 ⟨heq.symm, .inl ?_⟩
        rw [hscore, hunscored]
        exact WithTop.coe_lt_top (-score)
      have hvalid : validationRank chosen = 0 := by
        have hlt := hbehind digested hdigested hhas
        rcases hrank digested with hdigestedRank | hdigestedRank <;> omega
      obtain ⟨candidate, hcandidate, hhas, hrankZero⟩ :=
        hwins hsuccess ⟨chosen, hmem, hnone, hvalid⟩
      have hlt := hbehind candidate hcandidate hhas
      omega
  · have hempty : state.qualityScores.size = 0 := by
      rw [h.unscored hsuccess]
      rfl
    rw [if_pos hempty] at hchosen
    have hfirst := orRaise_eq_ok hchosen
    constructor
    · intro hchosenHas
      refine ⟨fun hother => absurd hother hsuccess, fun _ candidate hcandidate hnone => ?_⟩
      refine ⟨chosen, hmem, hchosenHas, rankedBefore_of_firstMin hfirst hcandidate fun hid => ?_⟩
      rw [Digested, ← hid] at hnone
      exact hnone hchosenHas
    · rintro ⟨-, hwins⟩
      by_contra hnone
      obtain ⟨other, hother, -, hbefore⟩ := hwins hsuccess chosen hmem hnone
      rw [not_rankedBefore_of_firstMin hfirst hother] at hbefore
      exact Bool.noConfusion hbefore

end Reviewed

/-! ## Explanations -/

/-- The facts that an explanation cites. -/
def GroundedExplanation.citedIds (explanation : GroundedExplanation) : List String :=
  (explanation.highlights ++ explanation.tradeoffs).flatMap GroundedStatement.evidenceIds

/-- The plan that quality selects is explained, by facts of its own digest. -/
def ExplainsChoice (state : TravelState) : Prop :=
  ∃ selected explained chosen explanation,
    selectByQuality state = .ok selected ∧ selected.selectedPlan = some chosen ∧
    explainSelection selected = .ok explained ∧
    explained.groundedExplanation = some explanation ∧
    ∀ evidenceId ∈ GroundedExplanation.citedIds explanation,
      ∃ digest ∈ state.criticEvidenceDigests, digest.candidateId = chosen.id ∧
        evidenceId ∈ digest.evidence.map EvidenceItem.id

section Explanations

variable {setup : PlanningSetup} {state : TravelState} {chosen : PlanCandidate}

omit [Platform] in
/-- The critique of a candidate is explained by what its dimensions cite. -/
theorem mem_dimensions_of_cited {candidate : PlanCandidate} {status : CriticStatus}
    {critique : SoftCritique} {evidenceId : String}
    (h : evidenceId ∈ GroundedExplanation.citedIds
      (critiqueExplanation candidate status critique)) :
    ∃ dimension ∈ critique.dimensions, evidenceId ∈ dimension.evidenceIds := by
  obtain ⟨statement, hstatement, hcited⟩ := List.mem_flatMap.mp h
  rcases List.mem_append.mp hstatement with hstatement | hstatement
  · obtain ⟨dimension, hdimension, rfl⟩ := List.mem_map.mp hstatement
    exact ⟨dimension, mem_sortByKey.mp (List.mem_of_mem_take hdimension), hcited⟩
  · obtain ⟨dimension, hdimension, rfl⟩ := List.mem_map.mp hstatement
    exact ⟨dimension, mem_of_minByKey (Option.mem_toList.mp hdimension), hcited⟩

omit [Platform] in
/-- An explanation without a critique cites facts of the digest. -/
theorem mem_digest_of_cited {candidate : PlanCandidate} {status : CriticStatus}
    {digest : CandidateEvidenceDigest} {evidenceId : String}
    (h : evidenceId ∈ GroundedExplanation.citedIds (metricExplanation candidate status
      (([digest].flatMap fun digest => digest.evidence.map EvidenceItem.id).take 2))) :
    evidenceId ∈ digest.evidence.map EvidenceItem.id := by
  obtain ⟨statement, hstatement, hcited⟩ := List.mem_flatMap.mp h
  obtain rfl := List.mem_singleton.mp hstatement
  have hmem := List.mem_of_mem_take hcited
  rwa [List.flatMap_singleton] at hmem

omit [Platform] in
/-- The digest of a candidate is found by its id. -/
theorem exists_find_digest {digests : List CandidateEvidenceDigest} {candidateId : String}
    (h : candidateId ∈ digests.map CandidateEvidenceDigest.candidateId) :
    ∃ digest, digests.find? (fun digest => decide (digest.candidateId = candidateId)) =
      some digest := by
  obtain ⟨digest, hdigest, hid⟩ := List.mem_map.mp h
  refine Option.ne_none_iff_exists'.mp fun hnone => ?_
  exact List.find?_eq_none.mp hnone digest hdigest (decide_eq_true hid)

/-- A candidate with a digest is explained. -/
theorem explains_of_digested (h : Reviewed setup state) (hdigested : Digested state chosen) :
    ∃ explanation,
      buildGroundedExplanation chosen state.criticStatus
        (state.criticEvidenceDigests.find? fun digest => decide (digest.candidateId = chosen.id))
        (state.softCritiques.find? fun critique => decide (critique.candidateId = chosen.id)) =
          .ok explanation ∧
      ∀ evidenceId ∈ GroundedExplanation.citedIds explanation,
        ∃ digest ∈ state.criticEvidenceDigests, digest.candidateId = chosen.id ∧
          evidenceId ∈ digest.evidence.map EvidenceItem.id := by
  obtain ⟨digest, hfind⟩ := exists_find_digest hdigested
  obtain ⟨hdigest, hid⟩ := of_find?_decide hfind
  rw [hfind]
  by_cases hcritiqued : state.criticStatus = .success ∧
      ∃ critique, (state.softCritiques.find? fun critique =>
        decide (critique.candidateId = chosen.id)) = some critique
  · obtain ⟨hsuccess, critique, hcritique⟩ := hcritiqued
    obtain ⟨hmem, hsame⟩ := of_find?_decide hcritique
    have hsound := ((grounding_eq_nil_iff h.nodup).mp (h.grounded hsuccess).1).2 critique hmem
      digest hdigest (hid.trans hsame.symm)
    rw [hsuccess, hcritique]
    refine ⟨_, rfl, fun evidenceId hcited => ⟨digest, hdigest, hid, ?_⟩⟩
    obtain ⟨dimension, hdimension, hmem⟩ := mem_dimensions_of_cited hcited
    exact ((critiqueErrors_eq_nil_iff.mp hsound).2.dimensions dimension hdimension).cited
      evidenceId hmem
  · have hnone : state.criticStatus ≠ .success ∨ (state.softCritiques.find? fun critique =>
        decide (critique.candidateId = chosen.id)) = none := by
      by_cases hsuccess : state.criticStatus = .success
      · refine .inr (Option.eq_none_iff_forall_ne_some.mpr fun critique hcritique => ?_)
        exact hcritiqued ⟨hsuccess, critique, hcritique⟩
      · exact .inl hsuccess
    have hsome : ((some digest).toList.flatMap fun digest =>
        digest.evidence.map EvidenceItem.id).take 2 ≠ [] := by
      have hevidence : digest.evidence ≠ [] := by
        rw [h.digests, buildEvidenceDigests] at hdigest
        exact evidence_ne_nil_of_mem_digestsWithin hdigest
      obtain ⟨item, rest, hitems⟩ := List.exists_cons_of_ne_nil hevidence
      simp [hitems]
    rw [buildGroundedExplanation_of_no_critique hnone, if_neg hsome]
    exact ⟨_, rfl, fun evidenceId hcited => ⟨digest, hdigest, hid, mem_digest_of_cited hcited⟩⟩

/-- A candidate that is explained has a digest. -/
theorem digested_of_explained (h : Reviewed setup state) {explanation : GroundedExplanation}
    (hexplained : buildGroundedExplanation chosen state.criticStatus
      (state.criticEvidenceDigests.find? fun digest => decide (digest.candidateId = chosen.id))
      (state.softCritiques.find? fun critique => decide (critique.candidateId = chosen.id)) =
        .ok explanation) : Digested state chosen := by
  by_contra hnone
  have hdigest : (state.criticEvidenceDigests.find? fun digest =>
      decide (digest.candidateId = chosen.id)) = none := by
    refine List.find?_eq_none.mpr fun digest hdigest hid => hnone ?_
    exact List.mem_map.mpr ⟨digest, hdigest, of_decide_eq_true hid⟩
  have hcritique : state.criticStatus ≠ .success ∨ (state.softCritiques.find? fun critique =>
      decide (critique.candidateId = chosen.id)) = none := by
    by_cases hsuccess : state.criticStatus = .success
    · refine .inr (List.find?_eq_none.mpr fun critique hcritique hid => hnone ?_)
      have hperm := perm_of_grounded (h.grounded hsuccess).1
      exact hperm.mem_iff.mp (List.mem_map.mpr ⟨critique, hcritique, of_decide_eq_true hid⟩)
    · exact .inl hsuccess
  rw [buildGroundedExplanation_of_no_critique hcritique, hdigest] at hexplained
  have hnil : ((none : Option CandidateEvidenceDigest).toList.flatMap fun digest =>
      digest.evidence.map EvidenceItem.id).take 2 = [] := rfl
  rw [if_pos hnil] at hexplained
  exact absurd hexplained (by simp)

/-- The choice is explained exactly when it has a digest. -/
theorem explains_iff_digested (h : Reviewed setup state)
    (hchosen : chosenByQuality state = .ok chosen) :
    ExplainsChoice state ↔ Digested state chosen := by
  constructor
  · rintro ⟨selected, explained, chosen', explanation, hselect, hplan, hexplain, -, -⟩
    obtain ⟨chosen'', hchosen', rfl⟩ := selectByQuality_eq_ok hselect
    obtain rfl := Except.ok.inj (hchosen.symm.trans hchosen')
    obtain ⟨plan, hplan, hexplain⟩ := bind_eq_ok hexplain
    obtain ⟨explanation, hexplained, -⟩ := bind_eq_ok hexplain
    obtain rfl := Option.some.inj (orRaise_eq_ok hplan)
    exact digested_of_explained h hexplained
  · intro hdigested
    obtain ⟨explanation, hexplained, hcited⟩ := explains_of_digested h hdigested
    have hexplain : explainSelection
        { state with selectedPlan := some chosen, status := "quality_selected" } =
        .ok { state with
          selectedPlan := some chosen
          groundedExplanation := some explanation
          status := "completed"
          message := some (selectionMessage chosen) } := by
      change (buildGroundedExplanation chosen state.criticStatus _ _ >>= _) = _
      rw [hexplained]
      rfl
    exact ⟨_, _, chosen, explanation, by rw [selectByQuality, hchosen]; rfl, rfl, hexplain, rfl,
      hcited⟩

end Explanations

/-- **Explaining the choice.**  Once the critic has come to an end, the plan that quality selects is
explained by facts of its digest exactly when a candidate with a digest is ranked first. -/
theorem explainsChoice_iff {setup : PlanningSetup} {state : TravelState}
    (h : Reviewed setup state) : ExplainsChoice state ↔ DigestedWins state := by
  obtain ⟨chosen, hchosen⟩ := h.exists_chosen
  exact (explains_iff_digested h hchosen).trans (chosen_digested_iff h hchosen)

/-! ## A valid plan without a digest -/

namespace Sample

omit [Platform]

/-- A platform on which every text has the same hash and a fact takes two hundred characters. -/
@[reducible] def coarsePlatform : Platform := Sample.numberingPlatform []

/-- A candidate without warnings. -/
def cleanCandidate : PlanCandidate :=
  { Sample.twoHours [] with validation := some (.fromViolations []), score := some 1 }

/-- Another one, with a warning. -/
def warnedCandidate : PlanCandidate :=
  { Sample.twoHours [] with
    id := "relaxed-r0", style := .relaxed, score := some 2
    validation := some (.fromViolations [⟨"low_confidence", .warning, "guessed", none, [], none⟩]) }

/-- Digests are made for one candidate, and there is no critic. -/
def oneDigestSetup : PlanningSetup :=
  { PlanningSample.setup with evidenceBudget := { EvidenceBudget.default with
      maxCandidates := 1, maxCandidates_pos := Nat.one_pos }, overrides := {} }

/-- The state behind the quality gate, for these candidates. -/
def reviewedState (candidates : List PlanCandidate) : TravelState :=
  { initialState PlanningSample.request with
    candidates, planningPois := Sample.pois
    criticEvidenceDigests := @buildEvidenceDigests coarsePlatform PlanningSample.request.trip
      candidates Sample.pois oneDigestSetup.evidenceBudget
    criticStatus := .disabled }

/-- Deliverable candidates with ids of their own are reviewed. -/
theorem reviewed_reviewedState {candidates : List PlanCandidate}
    (hall : candidates.filter isDeliverable = candidates)
    (hids : (candidates.map PlanCandidate.id).Nodup)
    (hsome : (reviewedState candidates).criticEvidenceDigests ≠ []) :
    @Reviewed coarsePlatform oneDigestSetup (reviewedState candidates) := by
  let := coarsePlatform
  have hdeliverable : deliverableCandidates (reviewedState candidates) = candidates := hall
  refine ⟨?_, ?_, hsome, fun hsuccess => ?_, fun _ => rfl⟩
  · rw [hdeliverable]
    exact hids
  · rw [hdeliverable]
    rfl
  · have hdisabled : CriticStatus.disabled = .success := hsuccess
    exact absurd hdisabled (by decide)

theorem reviewed_cleanFirst :
    @Reviewed coarsePlatform oneDigestSetup (reviewedState [cleanCandidate, warnedCandidate]) :=
  reviewed_reviewedState (by decide +kernel) (by decide +kernel) (by decide +kernel)

theorem reviewed_warnedFirst :
    @Reviewed coarsePlatform oneDigestSetup (reviewedState [warnedCandidate, cleanCandidate]) :=
  reviewed_reviewedState (by decide +kernel) (by decide +kernel) (by decide +kernel)

end Sample

omit [Platform] in
/-- The only digest is that of the best candidate. -/
theorem explainsChoice_iff_cleanFirst :
    ExplainsChoice (Sample.reviewedState [Sample.cleanCandidate, Sample.warnedCandidate]) := by
  let := Sample.coarsePlatform
  refine (explainsChoice_iff Sample.reviewed_cleanFirst).mpr
    ⟨fun hsuccess => absurd hsuccess (by decide), fun _ => ?_⟩
  unfold Digested
  decide +kernel

omit [Platform] in
/-- The only digest is that of the candidate with a warning, and the other one is chosen. -/
theorem exists_not_explainsChoice :
    @Reviewed Sample.coarsePlatform Sample.oneDigestSetup
        (Sample.reviewedState [Sample.warnedCandidate, Sample.cleanCandidate]) ∧
      ¬ExplainsChoice (Sample.reviewedState [Sample.warnedCandidate, Sample.cleanCandidate]) := by
  let := Sample.coarsePlatform
  have hchosen : chosenByQuality (Sample.reviewedState [Sample.warnedCandidate,
      Sample.cleanCandidate]) = .ok Sample.cleanCandidate := by decide +kernel
  refine ⟨Sample.reviewed_warnedFirst, fun hexplains => ?_⟩
  have hdigested := (explains_iff_digested Sample.reviewed_warnedFirst hchosen).mp hexplains
  revert hdigested
  unfold Digested
  decide +kernel

end PlanningGraph

end TravelPlanAgent
