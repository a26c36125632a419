import TravelPlanAgent.Critique.Grounding
import TravelPlanAgent.Library.Binary64
import Mathlib.Algebra.Order.BigOperators.Group.List
import Mathlib.Algebra.BigOperators.Ring.List

/-!
# What a passed grounding gate is worth

Critiques without complaints can be scored and acted on: there is one for each digest, it scores
every dimension, and what it points at is in the digest.

* `SoundAction`, `SoundDimension`, `SoundCritique`: what a critique may point at.
* `actionErrors_eq_nil_iff`, `dimensionErrors_eq_nil_iff`, `critiqueErrors_eq_nil_iff`: there are
  complaints exactly when it points elsewhere.
* `qualityScore_bounds`: the score of a critique is between 0 and 100.
* `Grade.le_of_nearest_sub`: two scores compare like their difference in doubles.
* `Scored`, `Grounded`: the scores of some critiques, and critiques that fit their digests.
* `grounded_iff`: critiques are without complaints exactly when they fit their digests.
* `gate_differs_from_pointsInside`: the ids under a suggestion to do nothing are not checked, and
  the target day of a move is.
-/

namespace TravelPlanAgent

open Calendar Selection

/-! ## What a critique points at -/

/-- The digest shows a place as scheduled on a day. -/
def ShowsOn (digest : CandidateEvidenceDigest) (poiId : Option String) (day : Option Date) :
    Prop :=
  ∃ item ∈ digest.evidence, item.entityId = poiId ∧ item.day = day

/-- The digest shows that a place is required. -/
def ShowsRequired (digest : CandidateEvidenceDigest) (poiId : Option String) : Prop :=
  ∃ item ∈ digest.evidence, item.entityId = poiId ∧ item.field = "must_visit" ∧
    item.value = .truth true

/-- An action that the digest supports. -/
structure SoundAction (digest : CandidateEvidenceDigest) (action : SuggestedSoftAction) :
    Prop where
  backed : action.evidenceIds ≠ []
  cited : ∀ evidenceId ∈ action.evidenceIds, evidenceId ∈ digest.evidence.map EvidenceItem.id
  scheduled : ShowsOn digest action.poiId action.fromDay
  target : action.kind = .moveOptionalPoi → ∃ item ∈ digest.evidence, item.day = action.toDay
  optional : action.kind = .removeOptionalPoi → ¬ShowsRequired digest action.poiId

/-- A dimension whose facts are in the digest and whose action, if it is one, is supported. -/
structure SoundDimension (digest : CandidateEvidenceDigest) (critique : DimensionCritique) :
    Prop where
  cited : ∀ evidenceId ∈ critique.evidenceIds, evidenceId ∈ digest.evidence.map EvidenceItem.id
  action : ∀ action ∈ critique.suggestedAction, action.kind ≠ .noAction →
    SoundAction digest action

/-- A critique that points only at facts of the digest. -/
structure SoundCritique (digest : CandidateEvidenceDigest) (critique : SoftCritique) : Prop where
  dimensions : ∀ dimension ∈ critique.dimensions, SoundDimension digest dimension
  tradeoffs : ∀ evidenceId ∈ critique.tradeoffEvidenceIds,
    evidenceId ∈ digest.evidence.map EvidenceItem.id

section Complaints

variable {digest : CandidateEvidenceDigest}

theorem hasEvidence_iff {evidenceId : String} :
    hasEvidence digest evidenceId = true ↔ evidenceId ∈ digest.evidence.map EvidenceItem.id := by
  simp only [hasEvidence, List.any_eq_true, decide_eq_true_eq, List.mem_map]

/-- No id is unknown exactly when each is in the digest. -/
theorem unknown_eq_nil_iff {evidenceIds : List String} :
    (evidenceIds.filter fun evidenceId => !hasEvidence digest evidenceId) = [] ↔
      ∀ evidenceId ∈ evidenceIds, evidenceId ∈ digest.evidence.map EvidenceItem.id := by
  rw [List.filter_eq_nil_iff]
  refine forall₂_congr fun evidenceId _ => ?_
  rw [← hasEvidence_iff, Bool.not_eq_true', Bool.not_eq_false]

theorem ite_singleton_eq_nil_iff {α : Type} {p : Prop} [Decidable p] {a : α} :
    (if p then [a] else []) = [] ↔ ¬p := by
  by_cases hp : p <;> simp [hp]

/-- There are complaints about an action exactly when the digest does not support it. -/
theorem actionErrors_eq_nil_iff {candidateId : String} {dimension : SoftDimension}
    {action : SuggestedSoftAction} (hkind : action.kind ≠ .noAction) :
    actionErrors digest candidateId dimension action = [] ↔ SoundAction digest action := by
  obtain ⟨hfrom, hto⟩ : action.fromDay.isSome = true ∧
      (action.kind = .moveOptionalPoi → action.toDay.isSome = true) := by
    have hvalid := action.valid
    unfold suggestionValid at hvalid
    split at hvalid
    · next h => exact absurd h hkind
    · rw [decide_eq_true_eq] at hvalid
      exact ⟨Option.isSome_iff_ne_none.mpr hvalid.2.1,
        fun _ => Option.isSome_iff_ne_none.mpr hvalid.2.2.1⟩
    · next h =>
      rw [decide_eq_true_eq] at hvalid
      exact ⟨Option.isSome_iff_ne_none.mpr hvalid.2.1, fun hmove => absurd hmove h⟩
  simp only [actionErrors, List.append_eq_nil_iff, List.map_eq_nil_iff, unknown_eq_nil_iff,
    ite_singleton_eq_nil_iff, List.isEmpty_iff, Bool.and_eq_true, Bool.not_eq_true',
    ← Bool.not_eq_true, List.any_eq_true, decide_eq_true_eq, hfrom, true_and, not_not]
  constructor
  · rintro ⟨⟨⟨⟨⟨hbacked, hcited⟩, -⟩, ⟨item, hitem, hday, hentity⟩⟩, htarget⟩, hoptional⟩
    refine ⟨hbacked, hcited, ⟨item, hitem, hentity, hday⟩, fun hmove => ?_, fun hremove => ?_⟩
    · by_contra hhidden
      exact htarget ⟨⟨hmove, hto hmove⟩, hhidden⟩
    · rintro ⟨item, hitem, hentity, hfield, hvalue⟩
      exact hoptional ⟨hremove, item, hitem, ⟨hentity, hfield⟩, hvalue⟩
  · rintro ⟨hbacked, hcited, ⟨item, hitem, hentity, hday⟩, htarget, hoptional⟩
    refine ⟨⟨⟨⟨⟨hbacked, hcited⟩, item, hitem, hentity⟩, item, hitem, hday, hentity⟩, ?_⟩, ?_⟩
    · rintro ⟨⟨hmove, -⟩, hhidden⟩
      exact hhidden (htarget hmove)
    · rintro ⟨hremove, item, hitem, ⟨hentity, hfield⟩, hvalue⟩
      exact hoptional hremove ⟨item, hitem, hentity, hfield, hvalue⟩

/-- There are complaints about a dimension exactly when it points at something else than facts of
the digest. -/
theorem dimensionErrors_eq_nil_iff {candidateId : String} {critique : DimensionCritique} :
    dimensionErrors digest candidateId critique = [] ↔ SoundDimension digest critique := by
  have hsome : ¬critique.evidenceIds.isEmpty = true := by
    rw [List.isEmpty_iff]
    exact List.ne_nil_of_length_pos critique.evidenceIds_bounds.1
  rw [dimensionErrors, List.append_eq_nil_iff, List.append_eq_nil_iff, ite_singleton_eq_nil_iff,
    List.map_eq_nil_iff, unknown_eq_nil_iff]
  refine Iff.trans (b := (¬critique.evidenceIds.isEmpty = true ∧
    ∀ evidenceId ∈ critique.evidenceIds, evidenceId ∈ digest.evidence.map EvidenceItem.id) ∧
      ∀ action ∈ critique.suggestedAction, action.kind ≠ .noAction → SoundAction digest action)
    (and_congr_right' ?_) ?_
  · cases critique.suggestedAction with
    | none => simp
    | some action =>
      simp only [Option.mem_some_iff, forall_eq']
      by_cases hkind : action.kind = .noAction
      · simp [hkind]
      · rw [if_neg hkind, actionErrors_eq_nil_iff hkind]
        exact ⟨fun h _ => h, fun h => h hkind⟩
  · constructor
    · rintro ⟨⟨-, hcited⟩, hactions⟩
      exact ⟨hcited, hactions⟩
    · rintro ⟨hcited, hactions⟩
      exact ⟨⟨hsome, hcited⟩, hactions⟩

/-- A critique of every dimension has one of each. -/
theorem count_dimension {critique : SoftCritique}
    (h : ∀ dimension, dimension ∈ critique.dimensions.map DimensionCritique.dimension) :
    (critique.dimensions.map DimensionCritique.dimension).Perm SoftDimension.all := by
  have hsub : SoftDimension.all.Subperm (critique.dimensions.map DimensionCritique.dimension) :=
    List.subperm_of_subset (by decide) fun dimension _ => h dimension
  refine (hsub.perm_of_length_le ?_).symm
  rw [List.length_map]
  exact critique.dimensions_bounds.2

/-- There are complaints about a critique exactly when it leaves a dimension out or points at
something else than facts of the digest. -/
theorem critiqueErrors_eq_nil_iff {critique : SoftCritique} :
    critiqueErrors digest critique = [] ↔
      (∀ dimension, dimension ∈ critique.dimensions.map DimensionCritique.dimension) ∧
        SoundCritique digest critique := by
  have hcomplete : dimensionsComplete (critique.dimensions.map DimensionCritique.dimension) =
      true ↔ ∀ dimension, dimension ∈ critique.dimensions.map DimensionCritique.dimension := by
    rw [dimensionsComplete, Bool.and_eq_true, List.all_eq_true, decide_eq_true_eq]
    constructor
    · rintro ⟨hall, -⟩ dimension
      exact of_decide_eq_true (hall dimension (SoftDimension.mem_all dimension))
    · intro h
      exact ⟨fun dimension _ => decide_eq_true (h dimension), (count_dimension h).length_eq⟩
  have honce : (∀ dimension, dimension ∈ critique.dimensions.map DimensionCritique.dimension) →
      (critique.dimensions.map DimensionCritique.dimension).eraseDups.filter (fun dimension =>
        decide ((critique.dimensions.map DimensionCritique.dimension).count dimension ≠ 1)) =
          [] := by
    intro h
    refine List.filter_eq_nil_iff.mpr fun dimension _ hcount => ?_
    rw [decide_eq_true_eq, (count_dimension h).count_eq] at hcount
    exact hcount (by cases dimension <;> decide)
  have hset : (if dimensionsComplete (critique.dimensions.map DimensionCritique.dimension) then []
      else ["dimension_set_invalid:" ++ critique.candidateId]) = [] ↔
      ∀ dimension, dimension ∈ critique.dimensions.map DimensionCritique.dimension := by
    rw [← hcomplete]
    split <;> simp [*]
  simp only [critiqueErrors, List.append_eq_nil_iff, List.map_eq_nil_iff, unknown_eq_nil_iff, hset,
    List.flatMap_eq_nil_iff, dimensionErrors_eq_nil_iff]
  constructor
  · rintro ⟨⟨⟨hall, -⟩, hdimensions⟩, htradeoffs⟩
    exact ⟨hall, hdimensions, htradeoffs⟩
  · rintro ⟨hall, hdimensions, htradeoffs⟩
    exact ⟨⟨⟨hall, honce hall⟩, hdimensions⟩, htradeoffs⟩

end Complaints

/-! ## Scores -/

section Scores

variable {critique : SoftCritique} {policy : CriticPolicy}

/-- A critique has a score exactly when it names every dimension. -/
theorem dimensions_of_qualityScore {score : ℚ} (h : qualityScore critique policy = .ok score)
    (dimension : SoftDimension) :
    dimension ∈ critique.dimensions.map DimensionCritique.dimension := by
  obtain ⟨weighted, hweighted, -⟩ := bind_eq_ok h
  obtain ⟨_, -, hscore⟩ := exists_of_mapM hweighted (SoftDimension.mem_all dimension)
  obtain ⟨score, hscore, -⟩ := bind_eq_ok hscore
  obtain ⟨found, hfound, -⟩ := Option.map_eq_some_iff.mp (orRaise_eq_ok hscore)
  have hnamed := pos_of_lastWith hfound
  exact List.mem_map.mpr ⟨found, mem_of_lastWith hfound, of_decide_eq_true hnamed⟩

/-- A weighted mean of scores between 0 and 100, with weights that add up to almost 1, is rounded
to a score between 0 and 100. -/
theorem qualityScore_bounds {score : ℚ} (h : qualityScore critique policy = .ok score) :
    0 ≤ score ∧ score ≤ 100 := by
  obtain ⟨weighted, hweighted, h⟩ := bind_eq_ok h
  obtain rfl : roundTo 2 weighted.sum = score := Except.ok.inj h
  have heach : List.Forall₂ (fun dimension value =>
      0 ≤ value ∧ value ≤ 100 * policy.weight dimension) SoftDimension.all weighted := by
    refine (mapM_eq_ok.mp hweighted).imp fun dimension value hvalue => ?_
    obtain ⟨points, hpoints, hvalue⟩ := bind_eq_ok hvalue
    obtain rfl := Except.ok.inj hvalue
    obtain ⟨found, -, rfl⟩ := Option.map_eq_some_iff.mp (orRaise_eq_ok hpoints)
    have hle : (found.score : ℚ) ≤ 100 := by exact_mod_cast found.score_le
    have hweight := policy.weight_nonneg dimension
    exact ⟨mul_nonneg (Nat.cast_nonneg _) hweight, mul_le_mul_of_nonneg_right hle hweight⟩
  have hlow : 0 ≤ weighted.sum := by
    refine List.sum_nonneg fun value hvalue => ?_
    obtain ⟨_, -, hbounds⟩ := exists_of_forall₂_right heach hvalue
    exact hbounds.1
  have hhigh : weighted.sum ≤ 100 * (SoftDimension.all.map policy.weight).sum := by
    rw [← List.sum_map_mul_left]
    refine List.Forall₂.sum_le_sum ?_
    rw [List.forall₂_map_right_iff]
    exact heach.flip.imp fun _ _ hbounds => hbounds.2
  have hsum := (abs_le.mp policy.weight_sum).2
  have hbelow : ((0 : ℤ) : ℚ) ≤ weighted.sum := by exact_mod_cast hlow
  have habove : weighted.sum * 10 ^ 2 < ((100 : ℤ) : ℚ) * 10 ^ 2 + 1 / 2 := by
    push_cast
    linarith
  exact_mod_cast roundTo_bounds hbelow habove

/-- Every score is that of a critique. -/
theorem exists_qualityScore {critiques : List SoftCritique} {scores : Dict String ℚ}
    (h : qualityScores critiques policy = .ok scores) {candidateId : String} {score : ℚ}
    (hscore : scores.get? candidateId = some score) :
    ∃ critique ∈ critiques, qualityScore critique policy = .ok score := by
  obtain ⟨scored, hscored, h⟩ := bind_eq_ok h
  obtain rfl : Dict.ofList scored = scores := Except.ok.inj h
  obtain ⟨critique, hcritique, hentry⟩ :=
    exists_of_forall₂_right (mapM_eq_ok.mp hscored) (Dict.mem_of_get?_ofList hscore)
  obtain ⟨_, hquality, hentry⟩ := bind_eq_ok hentry
  cases hentry
  exact ⟨critique, hcritique, hquality⟩

/-- A score between 0 and 100 with two decimals. -/
structure Grade (score : ℚ) : Prop where
  bounds : 0 ≤ score ∧ score ≤ 100
  decimals : ∃ hundredths : ℤ, score = hundredths / 10 ^ 2

/-- All scores are grades. -/
def AllGrades (scores : Dict String ℚ) : Prop :=
  ∀ candidateId score, scores.get? candidateId = some score → Grade score

theorem allGrades_of_qualityScores {critiques : List SoftCritique} {scores : Dict String ℚ}
    (h : qualityScores critiques policy = .ok scores) : AllGrades scores := by
  intro candidateId score hscore
  obtain ⟨critique, -, hquality⟩ := exists_qualityScore h hscore
  refine ⟨qualityScore_bounds hquality, ?_⟩
  obtain ⟨weighted, -, hquality⟩ := bind_eq_ok hquality
  obtain rfl : roundTo 2 weighted.sum = score := Except.ok.inj hquality
  exact ⟨_, rfl⟩

/-- Where the difference of two grades is not negative in doubles, it is not negative. -/
theorem Grade.le_of_nearest_sub {before after : ℚ} (hbefore : Grade before) (hafter : Grade after)
    (h : 0 ≤ Binary64.nearest (Binary64.nearest after - Binary64.nearest before)) :
    before ≤ after := by
  by_contra! hless
  obtain ⟨left, hleft⟩ := hbefore.decimals
  obtain ⟨right, hright⟩ := hafter.decimals
  -- Two grades are a hundredth apart or more, and three conversions are off by far less.
  have hapart : after + 1 / 100 ≤ before := by
    have hlt : (right : ℚ) < left := by linarith
    have hstep : (right : ℚ) + 1 ≤ left := by exact_mod_cast hlt
    linarith
  have hoff (q : ℚ) (hq : |q| ≤ 101) : |Binary64.nearest q - q| ≤ 1 / 1000 := by
    refine (Binary64.abs_nearest_sub_le q).trans (max_le ?_ ?_)
    · calc (2 : ℚ) ^ (-1075 : ℤ) ≤ 2 ^ (-10 : ℤ) :=
            zpow_le_zpow_right₀ one_le_two (by norm_num)
        _ ≤ 1 / 1000 := by norm_num
    · calc |q| * 2 ^ (-53 : ℤ) ≤ 101 * 2 ^ (-53 : ℤ) :=
            mul_le_mul_of_nonneg_right hq (by positivity)
        _ ≤ 1 / 1000 := by norm_num
  obtain ⟨hbefore0, hbefore1⟩ := hbefore.bounds
  obtain ⟨hafter0, hafter1⟩ := hafter.bounds
  have hoffBefore := abs_le.mp (hoff before (abs_le.mpr ⟨by linarith, by linarith⟩))
  have hoffAfter := abs_le.mp (hoff after (abs_le.mpr ⟨by linarith, by linarith⟩))
  have hoffBoth := abs_le.mp (hoff (Binary64.nearest after - Binary64.nearest before)
    (abs_le.mpr ⟨by linarith, by linarith⟩))
  linarith

end Scores

/-- Under every policy the candidates of the digests are scored, and no others, each between 0
and 100. -/
def Scored (digests : List CandidateEvidenceDigest) (critiques : List SoftCritique) : Prop :=
  ∀ policy, ∃ scores, qualityScores critiques policy = .ok scores ∧
    (∀ candidateId, candidateId ∈ scores.keys ↔
      candidateId ∈ digests.map CandidateEvidenceDigest.candidateId) ∧
    ∀ candidateId score, scores.get? candidateId = some score → 0 ≤ score ∧ score ≤ 100

section Gate

variable {digests : List CandidateEvidenceDigest} {critiques : List SoftCritique}

/-- Critiques of every dimension, one for each digest, are scored. -/
theorem scored_of_dimensions
    (hperm : (critiques.map SoftCritique.candidateId).Perm
      (digests.map CandidateEvidenceDigest.candidateId))
    (h : ∀ critique ∈ critiques, ∀ dimension,
      dimension ∈ critique.dimensions.map DimensionCritique.dimension) :
    Scored digests critiques := by
  intro policy
  obtain ⟨scored, hscored⟩ := exists_mapM (l := critiques) (f := fun critique => do
      return (critique.candidateId, ← qualityScore critique policy)) fun critique hcritique => by
    obtain ⟨score, hscore⟩ : ∃ score, qualityScore critique policy = .ok score :=
      qualityScore_exists (h critique hcritique)
    exact ⟨(critique.candidateId, score), by rw [hscore]; rfl⟩
  have hids : critiques.map SoftCritique.candidateId = scored.map Prod.fst := by
    rw [← List.forall₂_eq_eq_eq, List.forall₂_map_left_iff, List.forall₂_map_right_iff]
    refine (mapM_eq_ok.mp hscored).imp fun critique entry hentry => ?_
    obtain ⟨score, -, hentry⟩ := bind_eq_ok hentry
    obtain rfl : (critique.candidateId, score) = entry := Except.ok.inj hentry
    rfl
  have hscores : qualityScores critiques policy = .ok (Dict.ofList scored) := by
    rw [qualityScores, hscored]
    rfl
  refine ⟨Dict.ofList scored, hscores, fun candidateId => ?_, fun candidateId score hget => ?_⟩
  · rw [Dict.mem_keys_ofList, ← hids, hperm.mem_iff]
  · obtain ⟨critique, -, hscore⟩ := exists_qualityScore hscores hget
    exact qualityScore_bounds hscore

/-- Scored critiques name every dimension. -/
theorem Scored.dimensions (h : Scored digests critiques) {critique : SoftCritique}
    (hcritique : critique ∈ critiques) (dimension : SoftDimension) :
    dimension ∈ critique.dimensions.map DimensionCritique.dimension := by
  obtain ⟨scores, hscores, -⟩ := h .default
  obtain ⟨scored, hscored, -⟩ := bind_eq_ok hscores
  obtain ⟨entry, -, hentry⟩ := exists_of_mapM hscored hcritique
  obtain ⟨score, hscore, -⟩ := bind_eq_ok hentry
  exact dimensions_of_qualityScore hscore dimension

/-- Critiques that fit their digests: one for each, every one scored, and each pointing only at
facts of its digest. -/
structure Grounded (digests : List CandidateEvidenceDigest) (critiques : List SoftCritique) :
    Prop where
  perm : (critiques.map SoftCritique.candidateId).Perm
    (digests.map CandidateEvidenceDigest.candidateId)
  scored : Scored digests critiques
  sound : ∀ critique ∈ critiques, ∀ digest ∈ digests,
    digest.candidateId = critique.candidateId → SoundCritique digest critique

/-- With distinct ids the digest of a candidate is the one that is found. -/
theorem digestOf_eq_some (hids : (digests.map CandidateEvidenceDigest.candidateId).Nodup)
    {digest : CandidateEvidenceDigest} (hdigest : digest ∈ digests) :
    digestOf digests digest.candidateId = some digest := by
  refine lastWith_eq_some_of_unique hdigest (decide_eq_true rfl) fun other hother hsame => ?_
  exact List.inj_on_of_nodup_map hids hother hdigest (of_decide_eq_true hsame)

/-- Critiques without complaints, one digest after the other. -/
theorem grounding_eq_nil_iff (hids : (digests.map CandidateEvidenceDigest.candidateId).Nodup) :
    validateCritiqueGrounding digests critiques = [] ↔
      (critiques.map SoftCritique.candidateId).Perm
          (digests.map CandidateEvidenceDigest.candidateId) ∧
        ∀ critique ∈ critiques, ∀ digest ∈ digests, digest.candidateId = critique.candidateId →
          critiqueErrors digest critique = [] := by
  constructor
  · intro h
    have hperm := perm_of_grounded h
    refine ⟨hperm, fun critique hcritique digest hdigest hid => ?_⟩
    have heach := (List.append_eq_nil_iff.mp (eraseDups_eq_nil h)).2
    have hnone := List.flatMap_eq_nil_iff.mp heach critique hcritique
    rwa [← hid, digestOf_eq_some hids hdigest] at hnone
  · rintro ⟨hperm, heach⟩
    have hset : (if (critiques.map SoftCritique.candidateId).isPerm
        (digests.map CandidateEvidenceDigest.candidateId) then []
        else ["candidate_set_mismatch"]) = [] := if_pos (List.isPerm_iff.mpr hperm)
    refine congrArg List.eraseDups (List.append_eq_nil_iff.mpr
      ⟨hset, List.flatMap_eq_nil_iff.mpr fun critique hcritique => ?_⟩)
    have hmem := hperm.mem_iff.mp (List.mem_map_of_mem hcritique)
    obtain ⟨digest, hdigest, hid⟩ := List.mem_map.mp hmem
    rw [← hid, digestOf_eq_some hids hdigest]
    exact heach critique hcritique digest hdigest hid

/-- **The grounding gate.**  Critiques are without complaints exactly when they are in bijection
with the digests, are scored within bounds under every policy, cite only facts of their digest and
suggest only actions that the digest supports. -/
theorem grounded_iff (hids : (digests.map CandidateEvidenceDigest.candidateId).Nodup) :
    validateCritiqueGrounding digests critiques = [] ↔ Grounded digests critiques := by
  rw [grounding_eq_nil_iff hids]
  constructor
  · rintro ⟨hperm, heach⟩
    have hsound := fun critique hcritique digest hdigest hid =>
      critiqueErrors_eq_nil_iff.mp (heach critique hcritique digest hdigest hid)
    refine ⟨hperm, scored_of_dimensions hperm fun critique hcritique => ?_,
      fun critique hcritique digest hdigest hid => (hsound critique hcritique digest hdigest hid).2⟩
    have hmem := hperm.mem_iff.mp (List.mem_map_of_mem (f := SoftCritique.candidateId) hcritique)
    obtain ⟨digest, hdigest, hid⟩ := List.mem_map.mp hmem
    exact (hsound critique hcritique digest hdigest hid).1
  · rintro ⟨hperm, hscored, hsound⟩
    exact ⟨hperm, fun critique hcritique digest hdigest hid => critiqueErrors_eq_nil_iff.mpr
      ⟨hscored.dimensions hcritique, hsound critique hcritique digest hdigest hid⟩⟩

end Gate

/-! ## What the gate lets through and what it refuses -/

/-- Every id that a critique cites, those of suggestions to do nothing included. -/
def citedIds (critique : SoftCritique) : List String :=
  critique.dimensions.flatMap (fun dimension => dimension.evidenceIds ++
    (dimension.suggestedAction.map SuggestedSoftAction.evidenceIds).getD []) ++
    critique.tradeoffEvidenceIds

/-- Critiques that fit their digests, cite only facts of their digest and suggest only actions on
places that the digest shows. -/
structure PointsInside (digests : List CandidateEvidenceDigest) (critiques : List SoftCritique) :
    Prop where
  perm : (critiques.map SoftCritique.candidateId).Perm
    (digests.map CandidateEvidenceDigest.candidateId)
  scored : Scored digests critiques
  cited : ∀ critique ∈ critiques, ∀ digest ∈ digests, digest.candidateId = critique.candidateId →
    ∀ evidenceId ∈ citedIds critique, evidenceId ∈ digest.evidence.map EvidenceItem.id
  scheduled : ∀ critique ∈ critiques, ∀ digest ∈ digests,
    digest.candidateId = critique.candidateId → ∀ dimension ∈ critique.dimensions,
    ∀ action ∈ dimension.suggestedAction, action.kind ≠ .noAction →
      ShowsOn digest action.poiId action.fromDay

/-- No critique removes a place that its digest shows as required. -/
def KeepsRequired (digests : List CandidateEvidenceDigest) (critiques : List SoftCritique) : Prop :=
  ∀ critique ∈ critiques, ∀ digest ∈ digests, digest.candidateId = critique.candidateId →
    ∀ dimension ∈ critique.dimensions, ∀ action ∈ dimension.suggestedAction,
      action.kind = .removeOptionalPoi → ¬ShowsRequired digest action.poiId

namespace Sample

/-- The first of October. -/
def firstDay : Date := Date.ofYmd 2026 10 1

/-- The second of October. -/
def secondDay : Date := Date.ofYmd 2026 10 2

/-- A digest with one fact, about a place on the first day. -/
def oneFact : CandidateEvidenceDigest :=
  ⟨"balanced-r0", .balanced, [⟨"ev_1", .scheduleFact, "balanced-r0", some firstDay, some "a",
    "start_time", .text "09:00", "planner", 1⟩], 100, false⟩

theorem eighty_le : 80 ≤ 100 := by decide

theorem oneCited : 1 ≤ ["ev_1"].length ∧ ["ev_1"].length ≤ 12 := by decide

theorem nothingCited : ([] : List String).length ≤ 12 := by decide

/-- A critique of every dimension that cites the fact and suggests this action. -/
def fullCritique (suggestion : SuggestedSoftAction) : SoftCritique :=
  { candidateId := "balanced-r0"
    dimensions := SoftDimension.all.map fun dimension =>
      ⟨dimension, 80, "good", ["ev_1"], some suggestion, eighty_le, oneCited⟩
    overallSummary := "good", tradeoffEvidenceIds := []
    dimensions_bounds := by simp [SoftDimension.all]
    tradeoffEvidenceIds_le := nothingCited }

/-- A suggestion to do nothing, for a reason that nobody has seen. -/
def idle : SuggestedSoftAction := ⟨.noAction, none, none, none, ["ev_9"], none, by decide⟩

/-- A move of the place to a day that the digest does not mention. -/
def moveOutOfSight : SuggestedSoftAction :=
  ⟨.moveOptionalPoi, some "a", some firstDay, some secondDay, ["ev_1"], none, by decide +kernel⟩

theorem scored_fullCritique (suggestion : SuggestedSoftAction) :
    Scored [oneFact] [fullCritique suggestion] :=
  scored_of_dimensions (List.Perm.refl _) fun critique hcritique dimension => by
    obtain rfl := List.mem_singleton.mp hcritique
    rw [fullCritique, List.map_map]
    exact List.mem_map.mpr ⟨dimension, SoftDimension.mem_all dimension, rfl⟩

end Sample

/-- A critique that fits its digest. -/
theorem grounded_iff_fullCritique :
    validateCritiqueGrounding [Sample.oneFact] [Sample.fullCritique
        ⟨.removeOptionalPoi, some "a", some Sample.firstDay, none, ["ev_1"], none, by decide⟩] =
        [] ∧
      Grounded [Sample.oneFact] [Sample.fullCritique
        ⟨.removeOptionalPoi, some "a", some Sample.firstDay, none, ["ev_1"], none, by decide⟩] :=
  have hpasses : validateCritiqueGrounding [Sample.oneFact] [Sample.fullCritique
      ⟨.removeOptionalPoi, some "a", some Sample.firstDay, none, ["ev_1"], none, by decide⟩] =
      [] := by decide +kernel
  have hids : ([Sample.oneFact].map CandidateEvidenceDigest.candidateId).Nodup :=
    List.nodup_singleton _
  ⟨hpasses, (grounded_iff hids).mp hpasses⟩

/-- The gate ignores what a suggestion to do nothing cites, and refuses a move to a day without
facts. -/
theorem gate_differs_from_pointsInside :
    (validateCritiqueGrounding [Sample.oneFact] [Sample.fullCritique Sample.idle] = [] ∧
        ¬PointsInside [Sample.oneFact] [Sample.fullCritique Sample.idle]) ∧
      PointsInside [Sample.oneFact] [Sample.fullCritique Sample.moveOutOfSight] ∧
        KeepsRequired [Sample.oneFact] [Sample.fullCritique Sample.moveOutOfSight] ∧
        validateCritiqueGrounding [Sample.oneFact] [Sample.fullCritique Sample.moveOutOfSight] ≠
          [] := by
  refine ⟨⟨by decide +kernel, fun hinside => ?_⟩, ?_, ?_, by decide +kernel⟩
  · have hcited := hinside.cited (Sample.fullCritique Sample.idle) (List.mem_singleton.mpr rfl)
      Sample.oneFact (List.mem_singleton.mpr rfl) rfl "ev_9" (by decide)
    exact absurd hcited (by decide)
  · refine ⟨List.Perm.refl _, Sample.scored_fullCritique _, ?_, ?_⟩
    · intro critique hcritique digest hdigest _
      obtain rfl := List.mem_singleton.mp hcritique
      obtain rfl := List.mem_singleton.mp hdigest
      decide
    · intro critique hcritique digest hdigest _ dimension hdimension action haction _
      obtain rfl := List.mem_singleton.mp hcritique
      obtain rfl := List.mem_singleton.mp hdigest
      obtain ⟨_, -, rfl⟩ := List.mem_map.mp hdimension
      obtain rfl := Option.mem_some_iff.mp haction
      exact ⟨_, List.mem_singleton.mpr rfl, rfl, rfl⟩
  · intro critique hcritique digest hdigest _ dimension hdimension action haction hremove
    obtain rfl := List.mem_singleton.mp hcritique
    obtain ⟨_, -, rfl⟩ := List.mem_map.mp hdimension
    obtain rfl := Option.mem_some_iff.mp haction
    exact absurd hremove (by decide)

end TravelPlanAgent
