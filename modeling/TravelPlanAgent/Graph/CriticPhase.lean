import TravelPlanAgent.Graph.SoftRepairGuard
import TravelPlanAgent.Graph.SoftRollback

/-!
# What may stop a run behind its validation

Once a candidate is deliverable the critic is asked, its critique is graded, and a soft repair is
planned, compared and undone.  The critic may answer anything, but only a few answers end the run.

* `Undoable`, `Drafted`, `CriticFacts`: what these nodes rely on.
* `criticFacts_next`, `criticFacts_of_visits`: it holds wherever a run gets.
* `exists_applySoftRepair`: a compiled plan can be applied.
* `Admits`, `succeeds_iff_admits`: when these nodes succeed.
-/

namespace TravelPlanAgent

open Calendar Selection PlanningGraph

variable [Platform]

/-! ## What the nodes rely on -/

/-- A soft repair can be undone: its target has a score, and something deliverable is put aside. -/
structure Undoable (state : TravelState) : Prop where
  planned : ∃ plan score, state.softRepairPlan = some plan ∧
    state.softBaselineQualityScores.get? plan.targetCandidateId = some score
  deliverable : state.softBaselineCandidates.filter isDeliverable ≠ []

/-- Every candidate has a draft. -/
def Drafted (state : TravelState) : Prop :=
  ∀ candidate ∈ state.candidates, candidate.id ∈ state.candidateDrafts.map CandidateDraft.id

/-- The plan of a soft repair can be applied to what is put aside. -/
def Appliable (state : TravelState) : Prop :=
  ∃ plan candidate draft repaired, state.softRepairPlan = some plan ∧
    state.softBaselineCandidates.find?
      (fun candidate => decide (candidate.id = plan.targetCandidateId)) = some candidate ∧
    state.softBaselineCandidateDrafts.find?
      (fun draft => decide (draft.id = plan.targetCandidateId)) = some draft ∧
    TravelPlanAgent.applySoftRepair draft plan = .ok repaired

/-- The critiques are grounded and the scores are theirs. -/
structure Graded (setup : PlanningSetup) (state : TravelState) : Prop where
  grounded : validateCritiqueGrounding state.criticEvidenceDigests state.softCritiques = []
  scores : qualityScores state.softCritiques setup.criticPolicy = .ok state.qualityScores

/-- What holds before each node behind the validation. -/
def CriticFacts (setup : PlanningSetup) (state : TravelState) : PlanningNode → Prop
  | .validateCandidates => Drafted state
  | .prepareCriticContext => Drafted state ∧ deliverableCandidates state ≠ []
  | .softConstraintCritic | .validateCriticEvidence =>
    Drafted state ∧ deliverableCandidates state ≠ [] ∧ state.criticEvidenceDigests ≠ []
  | .qualityGate => Drafted state ∧ deliverableCandidates state ≠ [] ∧
    ∃ prior, state = validateCriticEvidence prior
  | .compileSoftRepairPlan => Drafted state ∧ deliverableCandidates state ≠ [] ∧
    Graded setup state ∧ state.pendingSoftReplanRound = none
  | .applySoftRepair => Appliable state ∧ Undoable state
  | .restoreSoftBaseline => state.pendingSoftReplanRound.isSome = true
  | .compareSoftRepair =>
    deliverableCandidates state ≠ [] ∧ state.pendingSoftReplanRound.isSome = true
  | .selectByQuality => deliverableCandidates state ≠ []
  | _ => True

/-- What holds wherever a run is: a pending soft repair can be undone. -/
structure CriticInvariant (setup : PlanningSetup) (state : TravelState)
    (node : Option PlanningNode) : Prop where
  undoable : state.pendingSoftReplanRound.isSome = true → Undoable state
  facts : ∀ next, node = some next → CriticFacts setup state next

/-- The nodes behind the validation that call no tool and explain nothing. -/
def critiqueNodes : List PlanningNode :=
  [.prepareCriticContext, .softConstraintCritic, .validateCriticEvidence, .qualityGate,
   .compileSoftRepairPlan, .applySoftRepair, .restoreSoftBaseline, .compareSoftRepair,
   .selectByQuality]

/-- An answer of the critic that the node lives with: a result, or one of the failures that it
catches. -/
def Bearable (answer : CriticAnswer) : Prop :=
  ∀ failure, answer = .error (.raised failure) → failure = .executionBudgetExceeded

/-- When a node of the critique succeeds: there is something to show to the critic, the request is
accepted by its model, and the answer is bearable. -/
def Admits (setup : PlanningSetup) (world : PlanningWorld) (n : ℕ) (run : Option RunContext)
    (state : TravelState) : PlanningNode → Prop
  | .prepareCriticContext => buildEvidenceDigests state.trip (deliverableCandidates state)
    state.planningPois setup.evidenceBudget ≠ []
  | .softConstraintCritic => setup.critic.isSome = true →
    state.criticEvidenceDigests.length ≤ 3 ∧ state.criticGroundingErrors.length ≤ 20 ∧
      ∀ request, SoftCriticRequest.create state.criticEvidenceDigests
        state.criticGroundingErrors = .ok request →
      Bearable (delegate setup world n run CriticException.raised
        (.softCritique request
          (state.criticEvidenceDigests.map CandidateEvidenceDigest.candidateId))
        world.critiqueCharacters
        (world.critique n request (state.criticGroundingAttempts + 1))).1
  | _ => True

variable {setup : PlanningSetup} {world : PlanningWorld} {n : ℕ}
  {run runAfter : Option RunContext} {state after : TravelState} {node : PlanningNode}

/-! ## One step -/

section OneStep

/-- A plan that is compiled for a draft can be applied to it. -/
theorem exists_applySoftRepair {trip : TripSpec} {candidate : PlanCandidate}
    {draft : CandidateDraft} {pois : List PlanningPOI} {critique : SoftCritique}
    {repairRound : ℕ} {plan : SoftRepairPlan} {reason : Option String}
    (h : TravelPlanAgent.compileSoftRepairPlan trip candidate draft pois critique repairRound =
      (some plan, reason)) :
    ∃ repaired, TravelPlanAgent.applySoftRepair draft plan = .ok repaired := by
  obtain ⟨fromDay, hplan⟩ := compiledPlan_of_compile h
  obtain ⟨sourceIds, hsource, hmem⟩ := hplan.safe.scheduled
  obtain ⟨acted, hacted, -⟩ := softActedOn_eq_ok hsource hmem hplan.safe.change
  refine ⟨⟨draft.id ++ "-soft-r" ++ toString plan.round, draft.style, daysWith draft acted⟩, ?_⟩
  unfold TravelPlanAgent.applySoftRepair
  simp only [bind, Except.bind, hplan.source, orRaise, hsource, Option.getD_some, require,
    if_pos hmem, hacted]
  rfl

theorem drafted_materialize (h : materialize setup state = .ok after) : Drafted after := by
  intro candidate hcandidate
  rw [← (paired_of_materialize h).ids_eq]
  exact List.mem_map_of_mem hcandidate

omit [Platform] in
theorem Drafted.keep (h : Drafted state) (hcandidates : after.candidates = state.candidates)
    (hdrafts : after.candidateDrafts = state.candidateDrafts) : Drafted after := by
  rw [Drafted, hcandidates, hdrafts]
  exact h

omit [Platform] in
theorem Undoable.keep (h : Undoable state) (hplan : after.softRepairPlan = state.softRepairPlan)
    (hcandidates : after.softBaselineCandidates = state.softBaselineCandidates)
    (hscores : after.softBaselineQualityScores = state.softBaselineQualityScores) :
    Undoable after := by
  refine ⟨?_, hcandidates ▸ h.deliverable⟩
  rw [hplan, hscores]
  exact h.planned

omit [Platform] in
/-- A critique that is still a success behind its validation is grounded. -/
theorem grounded_of_success (h : (validateCriticEvidence state).criticStatus = .success) :
    validateCritiqueGrounding (validateCriticEvidence state).criticEvidenceDigests
      (validateCriticEvidence state).softCritiques = [] := by
  unfold validateCriticEvidence at h ⊢
  by_cases hbefore : state.criticStatus ≠ .success
  · rw [if_pos hbefore] at h
    exact absurd h hbefore
  · rw [if_neg hbefore] at h ⊢
    by_contra herrors
    have hsome : (validateCritiqueGrounding state.criticEvidenceDigests
        state.softCritiques).isEmpty = false := by
      rw [List.isEmpty_eq_false_iff]
      exact herrors
    simp [hsome] at h

omit [Platform] in
/-- Behind the quality gate a successful critique is graded. -/
theorem graded_qualityGate
    (h : PlanningGraph.qualityGate setup (validateCriticEvidence state) = .ok after)
    (hsuccess : after.criticStatus = .success) : Graded setup after := by
  obtain ⟨scores, ⟨hstatus, hscores⟩ | ⟨hstatus, -⟩, rfl⟩ := qualityGate_eq_ok h
  · exact ⟨grounded_of_success hstatus, hscores⟩
  · exact absurd hsuccess hstatus

/-- A plan is compiled with everything that is needed to apply and to undo it. -/
theorem appliable_compileSoftRepairPlan
    (h : PlanningGraph.compileSoftRepairPlan setup state = .ok after)
    (hplan : after.softRepairPlan.isSome = true) : Appliable after ∧ Undoable after := by
  obtain ⟨selected, plan, reason, hselected, hfor, rfl⟩ := compileSoftRepairPlan_eq_ok h
  obtain ⟨plan, rfl⟩ := Option.isSome_iff_exists.mp hplan
  have hmem := mem_of_firstMin (orRaise_eq_ok hselected)
  obtain ⟨-, htarget, ⟨score, hscore⟩, -⟩ := softPlanFor_some hfor
  unfold softPlanFor at hfor
  dsimp only at hfor
  split at hfor
  · cases hfor
  · obtain ⟨critique, -, hfor⟩ := bind_eq_ok hfor
    obtain ⟨draft, hdraft, hfor⟩ := bind_eq_ok hfor
    obtain ⟨repaired, hrepaired⟩ := exists_applySoftRepair (Except.ok.inj hfor)
    obtain ⟨candidate, hcandidate⟩ : ∃ candidate, state.candidates.find?
        (fun candidate => decide (candidate.id = plan.targetCandidateId)) = some candidate := by
      rw [← Option.isSome_iff_exists, List.find?_isSome]
      exact ⟨selected, List.mem_of_mem_filter hmem, decide_eq_true htarget.symm⟩
    refine ⟨⟨plan, candidate, draft, repaired, rfl, hcandidate, ?_, hrepaired⟩,
      ⟨plan, score, rfl, htarget ▸ hscore⟩, List.ne_nil_of_mem hmem⟩
    rw [htarget]
    exact orRaise_eq_ok hdraft

omit [Platform] in
/-- A comparison leaves something deliverable. -/
theorem deliverable_compareSoftRepair
    (h : PlanningGraph.compareSoftRepair setup state = .ok after) (hundoable : Undoable state)
    (hdeliverable : deliverableCandidates state ≠ []) : deliverableCandidates after ≠ [] := by
  obtain ⟨plan, before, -, -, ⟨-, attempt, -, rfl⟩ | ⟨-, reason, hrestored⟩⟩ :=
    compareSoftRepair_eq_ok h
  · obtain ⟨candidate, hcandidate⟩ := List.exists_mem_of_ne_nil _ hdeliverable
    obtain ⟨hmem, his⟩ := List.mem_filter.mp hcandidate
    exact List.ne_nil_of_mem (List.mem_filter.mpr ⟨List.mem_append_right _ hmem, his⟩)
  · obtain ⟨_, _, -, rfl⟩ := restoreSoftValues_eq_ok hrestored
    exact hundoable.deliverable

/-- A pending soft repair stays one that can be undone. -/
theorem undoable_next (h : node.execute setup world n run state = .ok (after, runAfter))
    (hinvariant : CriticInvariant setup state (some node))
    (hpending : after.pendingSoftReplanRound.isSome = true) : Undoable after := by
  have hframe := frame_of_execute h
  have hfacts := hinvariant.facts node rfl
  cases node with
  | compileSoftRepairPlan =>
    rw [hframe.softPending (by decide), hfacts.2.2.2] at hpending
    cases hpending
  | applySoftRepair =>
    exact hfacts.2.keep (hframe.softPlan (by decide)) (hframe.baseline (by decide)).1
      (hframe.baseline (by decide)).2.2.2.2
  | restoreSoftBaseline =>
    obtain ⟨_, _, -, rfl⟩ := restoreSoftValues_eq_ok (plainNode_eq_ok h)
    cases hpending
  | compareSoftRepair =>
    obtain ⟨_, _, -, -, ⟨-, _, -, rfl⟩ | ⟨-, _, hrestored⟩⟩ :=
      compareSoftRepair_eq_ok (plainNode_eq_ok h)
    · cases hpending
    · obtain ⟨_, _, -, rfl⟩ := restoreSoftValues_eq_ok hrestored
      cases hpending
  | _ =>
    rw [hframe.softPending (by decide)] at hpending
    exact (hinvariant.undoable hpending).keep (hframe.softPlan (by decide))
      (hframe.baseline (by decide)).1 (hframe.baseline (by decide)).2.2.2.2

omit [Platform] in
theorem deliverable_keep (hcandidates : after.candidates = state.candidates)
    (h : deliverableCandidates state ≠ []) : deliverableCandidates after ≠ [] := by
  rw [deliverableCandidates, hcandidates]
  exact h

/-- A validation leads to the critic only with something deliverable. -/
theorem criticFacts_validate (h : validate state = .ok after) (hdrafted : Drafted state)
    (hdrafts : after.candidateDrafts = state.candidateDrafts) :
    CriticFacts setup after (routeAfterValidation setup after) := by
  have hids : after.candidates.map PlanCandidate.id = state.candidates.map PlanCandidate.id := by
    obtain ⟨-, ⟨-, rfl⟩ | ⟨_, _, -, -, rfl⟩⟩ := validate_eq_ok h <;>
      exact List.map_map.trans rfl
  have hafter : Drafted after := by
    intro candidate hcandidate
    have hmem : candidate.id ∈ state.candidates.map PlanCandidate.id :=
      hids ▸ List.mem_map_of_mem hcandidate
    obtain ⟨before, hbefore, hid⟩ := List.mem_map.mp hmem
    rw [hdrafts, ← hid]
    exact hdrafted before hbefore
  unfold routeAfterValidation
  dsimp only
  split
  · next hrestore => exact hrestore.1
  · split
    · next hdeliverable =>
      split
      · exact trivial
      · exact ⟨hafter, hdeliverable⟩
    · split <;> exact trivial

/-- Every node keeps what the nodes behind the validation rely on. -/
theorem criticFacts_next (h : node.execute setup world n run state = .ok (after, runAfter))
    (hinvariant : CriticInvariant setup state (some node)) :
    CriticInvariant setup after (node.next setup after) := by
  refine ⟨undoable_next h hinvariant, ?_⟩
  have hframe := frame_of_execute h
  have hdigests := (criticFrame_of_execute h).digests
  have hfacts := hinvariant.facts node rfl
  intro next hnext
  cases node with
  | materializeOptimizedCandidates | materializeCandidates =>
    obtain rfl := Option.some.inj hnext
    unfold validationTarget
    split
    · exact trivial
    · exact drafted_materialize (plainNode_eq_ok h)
  | materializeSoftCandidate =>
    obtain rfl := Option.some.inj hnext
    exact drafted_materialize (plainNode_eq_ok h)
  | validateCandidates =>
    obtain rfl := Option.some.inj hnext
    exact criticFacts_validate (plainNode_eq_ok h) hfacts (hframe.drafts (by decide))
  | prepareCriticContext =>
    obtain rfl := Option.some.inj hnext
    obtain ⟨_, -, hsome, rfl⟩ := prepareCriticContext_eq_ok (plainNode_eq_ok h)
    exact ⟨hfacts.1, hfacts.2, hsome⟩
  | softConstraintCritic =>
    obtain rfl := Option.some.inj hnext
    exact ⟨hfacts.1.keep (hframe.candidates (by decide)) (hframe.drafts (by decide)),
      deliverable_keep (hframe.candidates (by decide)) hfacts.2.1,
      hdigests (by decide) ▸ hfacts.2.2⟩
  | validateCriticEvidence =>
    obtain rfl := Option.some.inj hnext
    have hdrafted : Drafted after :=
      hfacts.1.keep (hframe.candidates (by decide)) (hframe.drafts (by decide))
    have hdeliverable := deliverable_keep (hframe.candidates (by decide)) hfacts.2.1
    have hsome : after.criticEvidenceDigests ≠ [] := hdigests (by decide) ▸ hfacts.2.2
    unfold routeAfterGrounding
    split
    · exact ⟨hdrafted, hdeliverable, hsome⟩
    · cases h
      exact ⟨hdrafted, hdeliverable, state, rfl⟩
  | qualityGate =>
    obtain rfl := Option.some.inj hnext
    obtain ⟨hdrafted, hdeliverable, prior, rfl⟩ := hfacts
    have hafter : Drafted after :=
      hdrafted.keep (hframe.candidates (by decide)) (hframe.drafts (by decide))
    have hstill := deliverable_keep (hframe.candidates (by decide)) hdeliverable
    unfold routeAfterQualityGate
    split
    · next hpending => exact ⟨hstill, hpending⟩
    · next hnone =>
      split
      · next hsuccess =>
        refine ⟨hafter, hstill, graded_qualityGate (plainNode_eq_ok h) hsuccess.1, ?_⟩
        exact Option.not_isSome_iff_eq_none.mp hnone
      · exact hstill
  | compileSoftRepairPlan =>
    obtain rfl := Option.some.inj hnext
    unfold routeAfterSoftRepairPlan
    split
    · next hplan => exact appliable_compileSoftRepairPlan (plainNode_eq_ok h) hplan
    · exact deliverable_keep (hframe.candidates (by decide)) hfacts.2.1
  | restoreSoftBaseline =>
    obtain rfl := Option.some.inj hnext
    obtain ⟨_, _, -, rfl⟩ := restoreSoftValues_eq_ok (plainNode_eq_ok h)
    exact (hinvariant.undoable hfacts).deliverable
  | compareSoftRepair =>
    obtain rfl := Option.some.inj hnext
    exact deliverable_compareSoftRepair (plainNode_eq_ok h) (hinvariant.undoable hfacts.2) hfacts.1
  | _ =>
    -- The other nodes lead to nodes that rely on nothing.
    revert hnext
    simp only [PlanningNode.next, routeAfterCritic, routeAfterRepairPlan, routeAfterDeltaRoutes,
      routeAfterSoftDeltaRoutes]
    repeat' split
    all_goals
      intro hnext
      cases hnext
      try exact trivial

end OneStep

/-! ## What the nodes succeed on -/

section Success

omit [Platform] in
theorem exists_orRaise {α : Type} {value : Option α} {failure : Failure}
    (h : value.isSome = true) : ∃ a, orRaise value failure = .ok a := by
  obtain ⟨a, rfl⟩ := Option.isSome_iff_exists.mp h
  exact ⟨a, rfl⟩

omit [Platform] in
/-- Grounded critiques are scored, and every scored id is the one of a critique. -/
theorem exists_qualityScores (policy : CriticPolicy)
    (h : validateCritiqueGrounding state.criticEvidenceDigests state.softCritiques = []) :
    ∃ scores, qualityScores state.softCritiques policy = .ok scores ∧
      ∀ id ∈ scores.keys, id ∈ state.softCritiques.map SoftCritique.candidateId := by
  have hperm := perm_of_grounded h
  obtain ⟨scores, hscores, hkeys, -⟩ := scored_of_dimensions hperm
    (fun critique hcritique dimension => dimensions_of_grounded h hcritique dimension) policy
  exact ⟨scores, hscores, fun id hid => hperm.mem_iff.mpr ((hkeys id).mp hid)⟩

omit [Platform] in
theorem exists_selectByQuality (scores : Dict String ℚ) {candidates : List PlanCandidate}
    (h : candidates ≠ []) :
    ∃ chosen, TravelPlanAgent.selectByQuality candidates scores = .ok chosen := by
  obtain ⟨chosen, hchosen⟩ :=
    exists_firstMin (rankedBefore [fun c => scores.get? c.id, PlanCandidate.score]) h
  exact ⟨chosen, by rw [TravelPlanAgent.selectByQuality, hchosen]; rfl⟩

omit [Platform] in
theorem exists_chosenByQuality (h : deliverableCandidates state ≠ []) :
    ∃ chosen, chosenByQuality state = .ok chosen := by
  unfold chosenByQuality
  split
  · obtain ⟨chosen, hchosen⟩ := exists_firstMin (rankedBefore [PlanCandidate.score]) h
    exact ⟨chosen, by rw [selectBestCandidate, hchosen]; rfl⟩
  · exact exists_selectByQuality _ h

/-- A plan is looked for without failing. -/
theorem exists_compileSoftRepairPlan (hdrafted : Drafted state)
    (hdeliverable : deliverableCandidates state ≠ []) (hgraded : Graded setup state) :
    ∃ after, PlanningGraph.compileSoftRepairPlan setup state = .ok after := by
  obtain ⟨selected, hselected⟩ := exists_selectByQuality state.qualityScores hdeliverable
  have hmem := List.mem_of_mem_filter (mem_of_firstMin (orRaise_eq_ok hselected))
  refine bind_exists ⟨selected, hselected⟩ fun chosen hchosen => ?_
  obtain rfl := Except.ok.inj (hchosen.symm.trans hselected)
  refine bind_exists ?_ fun answer _ => ⟨_, rfl⟩
  unfold softPlanFor
  dsimp only
  split
  · exact ⟨_, rfl⟩
  · next hscore =>
    obtain ⟨score, hget⟩ := Option.ne_none_iff_exists'.mp fun hnone => hscore (.inl hnone)
    obtain ⟨scores, hscores, hids⟩ := exists_qualityScores _ hgraded.grounded
    obtain rfl := Except.ok.inj (hscores.symm.trans hgraded.scores)
    obtain ⟨critique, hcritique, hid⟩ := List.mem_map.mp (hids _ (Dict.mem_keys_of_get? hget))
    obtain ⟨draft, hdraft, hdraftId⟩ := List.mem_map.mp (hdrafted chosen hmem)
    refine bind_exists (exists_orRaise ?_) fun _ _ => bind_exists (exists_orRaise ?_) fun _ _ =>
      ⟨_, rfl⟩
    · rw [List.find?_isSome]
      exact ⟨critique, hcritique, decide_eq_true hid⟩
    · rw [List.find?_isSome]
      exact ⟨draft, hdraft, decide_eq_true hdraftId⟩

omit [Platform] in
/-- The gate grades what passed the grounding, and nothing else. -/
theorem exists_qualityGate :
    ∃ after, PlanningGraph.qualityGate setup (validateCriticEvidence state) = .ok after := by
  unfold PlanningGraph.qualityGate
  by_cases hsuccess : (validateCriticEvidence state).criticStatus = .success
  · rw [if_pos hsuccess]
    obtain ⟨scores, hscores, -⟩ :=
      exists_qualityScores setup.criticPolicy (grounded_of_success hsuccess)
    exact bind_exists ⟨scores, hscores⟩ fun _ _ => ⟨_, rfl⟩
  · rw [if_neg hsuccess]
    exact ⟨_, rfl⟩

omit [Platform] in
/-- A target with a score can be restored. -/
theorem exists_restoreSoftValues (h : Undoable state) (reason : String) (passed : Bool)
    (afterScore : Option ℚ) :
    ∃ after, restoreSoftValues state reason passed afterScore = .ok after := by
  obtain ⟨plan, score, hplan, hscore⟩ := h.planned
  unfold restoreSoftValues
  refine bind_exists ⟨plan, by rw [hplan]; rfl⟩ fun plan' hplan' => ?_
  obtain rfl := Option.some.inj (hplan.symm.trans (orRaise_eq_ok hplan'))
  exact bind_exists ⟨score, by rw [hscore]; rfl⟩ fun _ _ => ⟨_, rfl⟩

omit [Platform] in
theorem exists_compareSoftRepair (h : Undoable state)
    (hpending : state.pendingSoftReplanRound.isSome = true) :
    ∃ after, PlanningGraph.compareSoftRepair setup state = .ok after := by
  obtain ⟨plan, score, hplan, hscore⟩ := h.planned
  unfold PlanningGraph.compareSoftRepair
  refine bind_exists ⟨plan, by rw [hplan]; rfl⟩ fun plan' hplan' => ?_
  obtain rfl := Option.some.inj (hplan.symm.trans (orRaise_eq_ok hplan'))
  refine bind_exists ⟨(), if_pos hpending⟩ fun _ _ => ?_
  refine bind_exists ⟨score, by rw [hscore]; rfl⟩ fun before _ => ?_
  dsimp only
  split
  · exact ⟨_, rfl⟩
  · exact exists_restoreSoftValues h _ _ _

omit [Platform] in
/-- The node makes something of every bearable answer. -/
theorem exists_criticAnswered_iff {labels : CriticLabels} {answer : CriticAnswer} :
    (∃ after, criticAnswered state labels answer = .ok after) ↔ Bearable answer := by
  unfold criticAnswered Bearable
  split
  · simp
  · simp
  · simp
  · next failure hnot =>
    simp only [reduceCtorEq, exists_false, Except.error.injEq, CriticException.raised.injEq,
      false_iff, not_forall]
    exact ⟨failure, rfl, hnot⟩

omit [Platform] in
/-- The model of a request accepts up to three digests and twenty complaints. -/
theorem exists_create_iff {digests : List CandidateEvidenceDigest} {feedback : List String}
    (hsome : digests ≠ []) :
    (∃ request, SoftCriticRequest.create digests feedback = .ok request) ↔
      digests.length ≤ 3 ∧ feedback.length ≤ 20 := by
  have hpos : 1 ≤ digests.length := List.length_pos_iff.mpr hsome
  unfold SoftCriticRequest.create
  constructor
  · rintro ⟨request, h⟩
    split at h
    · next hbounds => exact ⟨hbounds.1.2, hbounds.2⟩
    · cases h
  · rintro ⟨hdigests, hfeedback⟩
    rw [dif_pos ⟨⟨hpos, hdigests⟩, hfeedback⟩]
    exact ⟨_, rfl⟩

/-- The critic node succeeds exactly on requests that the model accepts and answers that it
bears. -/
theorem exists_softConstraintCritic_iff (hsome : state.criticEvidenceDigests ≠ []) :
    (∃ result, PlanningGraph.softConstraintCritic setup world n run state = .ok result) ↔
      Admits setup world n run state .softConstraintCritic := by
  unfold PlanningGraph.softConstraintCritic Admits
  cases hcritic : setup.critic with
  | none => simp
  | some labels =>
    dsimp only
    rw [Option.isSome_some, forall_prop_of_true rfl, ← and_assoc, ← exists_create_iff hsome]
    constructor
    · rintro ⟨result, h⟩
      obtain ⟨request, hrequest, h⟩ := bind_eq_ok h
      obtain ⟨answered, hanswered, -⟩ := bind_eq_ok h
      refine ⟨⟨request, hrequest⟩, fun request' hrequest' => ?_⟩
      obtain rfl := Except.ok.inj (hrequest.symm.trans hrequest')
      exact exists_criticAnswered_iff.mp ⟨answered, hanswered⟩
    · rintro ⟨hrequest, hbearable⟩
      refine bind_exists hrequest fun request hcreated => ?_
      exact bind_exists (exists_criticAnswered_iff.mpr (hbearable request hcreated))
        fun _ _ => ⟨_, rfl⟩

/-- What a reachable state guarantees is enough for every node but those that may be stopped. -/
theorem succeeds_iff_of_facts (hinvariant : CriticInvariant setup state (some node))
    (hnode : node ∈ critiqueNodes) :
    (∃ result, node.execute setup world n run state = .ok result) ↔
      Admits setup world n run state node := by
  have hfacts := hinvariant.facts node rfl
  have hplain {result : Result TravelState} (h : ∃ after, result = .ok after) :
      ∃ update, plainNode run result = .ok update := by
    obtain ⟨after, rfl⟩ := h
    exact ⟨_, rfl⟩
  cases node with
  | prepareCriticContext =>
    constructor
    · rintro ⟨⟨after, runAfter⟩, h⟩
      obtain ⟨_, rfl, hsome, -⟩ := prepareCriticContext_eq_ok (plainNode_eq_ok h)
      exact hsome
    · intro hsome
      refine hplain (bind_exists ⟨(), if_pos ?_⟩ fun _ _ => ⟨_, rfl⟩)
      rw [List.isEmpty_eq_false_iff]
      exact hsome
  | softConstraintCritic => exact exists_softConstraintCritic_iff hfacts.2.2
  | validateCriticEvidence => exact iff_of_true ⟨_, rfl⟩ trivial
  | qualityGate =>
    obtain ⟨-, -, prior, rfl⟩ := hfacts
    exact iff_of_true (hplain exists_qualityGate) trivial
  | compileSoftRepairPlan =>
    obtain ⟨hdrafted, hdeliverable, hgraded, -⟩ := hfacts
    exact iff_of_true (hplain (exists_compileSoftRepairPlan hdrafted hdeliverable hgraded)) trivial
  | applySoftRepair =>
    obtain ⟨plan, candidate, draft, repaired, hplan, hcandidate, hdraft, hrepaired⟩ := hfacts.1
    refine iff_of_true (hplain ?_) trivial
    unfold PlanningGraph.applySoftRepair
    rw [hplan]
    dsimp only [bind, Except.bind, orRaise]
    rw [hcandidate, hdraft]
    dsimp only
    rw [hrepaired]
    exact ⟨_, rfl⟩
  | restoreSoftBaseline =>
    exact iff_of_true
      (hplain (exists_restoreSoftValues (hinvariant.undoable hfacts) _ _ _)) trivial
  | compareSoftRepair =>
    exact iff_of_true
      (hplain (exists_compareSoftRepair (hinvariant.undoable hfacts.2) hfacts.2)) trivial
  | selectByQuality =>
    obtain ⟨chosen, hchosen⟩ := exists_chosenByQuality hfacts
    exact iff_of_true (hplain (bind_exists ⟨chosen, hchosen⟩ fun _ _ => ⟨_, rfl⟩)) trivial
  | _ => exact absurd hnode (by decide)

end Success

/-! ## Runs -/

section Runs

variable {request : PlanningRequest} {position : Position}

/-- Wherever a run gets, the nodes behind the validation have what they rely on. -/
theorem criticInvariant_of_visits (h : Visits setup world request run position) :
    CriticInvariant setup position.state position.node := by
  refine reaches_preserves (motive := fun node state => CriticInvariant setup state node) h ?_
    fun _ _ _ _ _ _ hexecute => criticFacts_next hexecute
  refine ⟨fun hpending => ?_, fun next hnext => ?_⟩
  · cases hpending
  · obtain rfl := Option.some.inj hnext
    exact trivial

/-- **What may stop the critique.**  In every state that a run gets to with a node of the critique
next, the node succeeds if and only if the state admits it: only the preparation and the critic
itself may fail, for want of digests, for too many digests or complaints, or for an answer that is
not borne.  Grading, planning, applying, undoing and comparing a soft repair, and the selection
never fail, whatever the critic has answered before. -/
theorem succeeds_iff_admits (hvisits : Visits setup world request run position)
    (hnext : position.node = some node) (hnode : node ∈ critiqueNodes)
    (current : Option RunContext) :
    (∃ result, node.execute setup world n current position.state = .ok result) ↔
      Admits setup world n current position.state node := by
  have hinvariant := criticInvariant_of_visits hvisits
  rw [hnext] at hinvariant
  exact succeeds_iff_of_facts hinvariant hnode

end Runs

namespace PlanningSample

omit [Platform]

/-- A critique that cites twenty-five facts of its own. -/
def doubtfulCritique (digest : CandidateEvidenceDigest) : SoftCritique :=
  { critiqueOf 40 forty_le (fun _ => none) digest with
    dimensions := SoftDimension.all.map fun dimension =>
      ⟨dimension, 40, "uneven", ["1", "2", "3", "4", "5"].map fun i => dimension.value ++ i, none,
        forty_le, Nat.le_add_left 1 4, Nat.le_add_left 5 7⟩
    dimensions_bounds := by rw [List.length_map]; exact ⟨Nat.le_add_left 1 4, le_rfl⟩ }

/-- One place on one day, and a critic that makes up its facts. -/
def doubtful : PlanningWorld :=
  { PlanningSample.world [firstPlace] [⟨Sample.day1, ["a"]⟩] with
    critique := fun _ request _ => .ok
      ⟨request.digests.map doubtfulCritique, ⟨"critic", "model", "v1", .success, 1, 1, 0, none⟩⟩ }

end PlanningSample

omit [Platform] in
/-- The complaints about one critique are too many for the next request, and a run that has
something to deliver stops. -/
theorem succeeds_iff_admits_doubtful : ∃ position : Position,
    @Visits PlanningSample.roundPlatform PlanningSample.criticSetup PlanningSample.doubtful
      PlanningSample.request none position ∧
    position.node = some .softConstraintCritic ∧ deliverableCandidates position.state ≠ [] ∧
    ¬∃ result, @PlanningNode.execute PlanningSample.roundPlatform PlanningSample.criticSetup
      PlanningSample.doubtful position.stepCount none position.state .softConstraintCritic =
        .ok result := by
  let := PlanningSample.roundPlatform
  have hsteps : ((planningMachine PlanningSample.criticSetup PlanningSample.doubtful).afterSteps 12
      (startPosition PlanningSample.request none)).map (fun position =>
        (position.node, position.state.criticGroundingErrors.length,
          (deliverableCandidates position.state).length)) =
      some (some .softConstraintCritic, 25, 1) := by
    decide +kernel
  obtain ⟨position, hposition, hfound⟩ := Option.map_eq_some_iff.mp hsteps
  obtain ⟨hnode, hfound⟩ := Prod.mk.inj hfound
  obtain ⟨hcomplaints, hdeliverable⟩ := Prod.mk.inj hfound
  have hvisits : Visits PlanningSample.criticSetup PlanningSample.doubtful PlanningSample.request
      none position := Machine.reaches_of_afterSteps hposition
  refine ⟨position, hvisits, hnode, List.ne_nil_of_length_pos (by omega), fun hok => ?_⟩
  have hadmits := (succeeds_iff_admits hvisits hnode (by decide) none).mp hok rfl
  exact absurd hadmits.2.1 (by omega)

end TravelPlanAgent
