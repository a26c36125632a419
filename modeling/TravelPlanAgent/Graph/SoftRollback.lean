import TravelPlanAgent.Graph.Snapshot

/-!
# What a soft repair leaves behind

Before a soft repair everything that the critic and the selection go by is put aside.  The repair
is then materialised, validated, criticised and compared, and every one of these steps may go wrong.

* `PutAside`: what is put aside, and how long it stays as it was.
* `RolledBack`, `Merged`: the two ways in which a soft repair ends.
* `SoftFacts`, `softFacts_next`: what holds before each node of a soft repair.
* `deliverNow`, `SameDelivery`: what is delivered at once from a state.
* `exists_softStart`: attempts are recorded only by runs that have started a soft repair.
* `allOrNothing_of_runPlanning`: a rejected repair leaves no trace in what is delivered, an accepted
  one replaces its target only.
-/

namespace TravelPlanAgent

open Calendar Selection PlanningGraph

variable [Platform]

/-! ## What is put aside -/

/-- Everything that the critic and the selection go by is put aside as it was at the origin of a
soft repair, and nothing is recorded yet. -/
structure PutAside (origin state : TravelState) : Prop where
  candidates : state.softBaselineCandidates = origin.candidates
  drafts : state.softBaselineCandidateDrafts = origin.candidateDrafts
  critiques : state.softBaselineCritiques = origin.softCritiques
  digests : state.softBaselineEvidenceDigests = origin.criticEvidenceDigests
  scores : state.softBaselineQualityScores = origin.qualityScores
  summary : state.softBaselineCriticExecutionSummary = origin.criticExecutionSummary
  plan : state.softRepairPlan = origin.softRepairPlan
  history : state.softRepairHistory = origin.softRepairHistory

/-- The plan that a soft repair starts from: the best of the candidates by tier and score. -/
structure PlanOf (origin : TravelState) (plan : SoftRepairPlan) (target : PlanCandidate) :
    Prop where
  planned : origin.softRepairPlan = some plan
  chosen : TravelPlanAgent.selectByQuality (deliverableCandidates origin) origin.qualityScores =
    .ok target
  targetId : plan.targetCandidateId = target.id
  scored : ∃ score, origin.qualityScores.get? target.id = some score

/-- The start of a soft repair: the critic has succeeded and its scores are grades, and everything
is put aside. -/
structure SoftOrigin (origin : TravelState) : Prop where
  aside : PutAside origin origin
  critiqued : origin.criticStatus = .success
  graded : AllGrades origin.qualityScores
  planned : ∃ plan target, PlanOf origin plan target

/-- The id of the draft that a soft repair makes. -/
def repairedId (plan : SoftRepairPlan) : String :=
  plan.targetCandidateId ++ ("-soft-r" ++ toString plan.round)

/-- A soft repair is under way, with one draft. -/
structure Repairing (origin state : TravelState) : Prop where
  aside : PutAside origin state
  pending : state.pendingSoftReplanRound.isSome = true
  drafted : ∃ plan draft, origin.softRepairPlan = some plan ∧ state.candidateDrafts = [draft] ∧
    draft.id = repairedId plan

/-- The draft has become a candidate. -/
def OneCandidate (origin state : TravelState) : Prop :=
  ∃ plan candidate, origin.softRepairPlan = some plan ∧ state.candidates = [candidate] ∧
    candidate.id = repairedId plan

/-- The state is as it was at the origin, but for records and routes. -/
structure RolledBack (origin state : TravelState) : Prop where
  candidates : state.candidates = origin.candidates
  drafts : state.candidateDrafts = origin.candidateDrafts
  critiques : state.softCritiques = origin.softCritiques
  digests : state.criticEvidenceDigests = origin.criticEvidenceDigests
  scores : state.qualityScores = origin.qualityScores
  summary : state.criticExecutionSummary = origin.criticExecutionSummary
  critiqued : state.criticStatus = .success
  recorded : ∃ attempt, state.softRepairHistory = origin.softRepairHistory ++ [attempt] ∧
    attempt.accepted = false

/-- A repaired candidate with a better score takes the place of its target. -/
structure Merged (setup : PlanningSetup) (origin state : TravelState) (plan : SoftRepairPlan)
    (repaired : PlanCandidate) : Prop where
  planned : origin.softRepairPlan = some plan
  repairedId : repaired.id = TravelPlanAgent.repairedId plan
  deliverable : isDeliverable repaired = true
  candidates : state.candidates = (origin.candidates.filter fun candidate =>
    decide (candidate.id ≠ plan.targetCandidateId)) ++ [repaired]
  scores : ∃ scores : Dict String ℚ, (∀ id, id ∈ scores.keys ↔ id = repaired.id) ∧
    state.qualityScores = (origin.qualityScores.filterKeys fun id =>
      decide (id ≠ plan.targetCandidateId)).update scores
  improved : ∃ before after, origin.qualityScores.get? plan.targetCandidateId = some before ∧
    state.qualityScores.get? repaired.id = some after ∧ before ≤ after ∧
    Improves setup before after
  recorded : ∃ attempt, state.softRepairHistory = origin.softRepairHistory ++ [attempt] ∧
    attempt.accepted = true

/-- A soft repair has come to its end. -/
def SoftSettled (setup : PlanningSetup) (origin state : TravelState) : Prop :=
  RolledBack origin state ∨ ∃ plan repaired, Merged setup origin state plan repaired

/-- What holds before each node from the origin of a soft repair on. -/
def SoftFacts (setup : PlanningSetup) (origin state : TravelState) : PlanningNode → Prop
  | .applySoftRepair => state = origin
  | .collectSoftDeltaRoutes | .loadSoftDeltaRoutes | .materializeSoftCandidate
  | .restoreSoftBaseline => Repairing origin state
  | .validateCandidates => Repairing origin state ∧ OneCandidate origin state
  | .prepareCriticContext =>
    Repairing origin state ∧ OneCandidate origin state ∧ deliverableCandidates state ≠ []
  | .softConstraintCritic | .validateCriticEvidence =>
    Repairing origin state ∧ OneCandidate origin state ∧ deliverableCandidates state ≠ [] ∧
      state.criticEvidenceDigests = buildEvidenceDigests state.trip (deliverableCandidates state)
        state.planningPois setup.evidenceBudget ∧ state.criticEvidenceDigests ≠ []
  | .qualityGate =>
    Repairing origin state ∧ OneCandidate origin state ∧ deliverableCandidates state ≠ [] ∧
      ∃ prior, state = validateCriticEvidence prior ∧ prior.criticEvidenceDigests =
        buildEvidenceDigests prior.trip (deliverableCandidates prior) prior.planningPois
          setup.evidenceBudget ∧ prior.criticEvidenceDigests ≠ []
  | .compareSoftRepair =>
    Repairing origin state ∧ OneCandidate origin state ∧ deliverableCandidates state ≠ [] ∧
      Reviewed setup state
  | .selectByQuality => SoftSettled setup origin state
  | .explainSelection => ∃ settled, SoftSettled setup origin settled ∧
    PlanningGraph.selectByQuality settled = .ok state
  | _ => False

/-- A plan is selected and explained at once. -/
def deliverNow (state : TravelState) : Result TravelState := do
  let selected ← PlanningGraph.selectByQuality state
  PlanningGraph.explainSelection selected

/-- What holds from the origin of a soft repair on. -/
def SoftInvariant (setup : PlanningSetup) (origin state : TravelState) :
    Option PlanningNode → Prop
  | some node => SoftFacts setup origin state node
  | none => ∃ settled, SoftSettled setup origin settled ∧ deliverNow settled = .ok state

/-- Two states deliver the same. -/
structure SameDelivery (state other : TravelState) : Prop where
  candidates : state.candidates = other.candidates
  drafts : state.candidateDrafts = other.candidateDrafts
  critiques : state.softCritiques = other.softCritiques
  digests : state.criticEvidenceDigests = other.criticEvidenceDigests
  scores : state.qualityScores = other.qualityScores
  summary : state.criticExecutionSummary = other.criticExecutionSummary
  critiqued : state.criticStatus = other.criticStatus
  selected : state.selectedPlan = other.selectedPlan
  explanation : state.groundedExplanation = other.groundedExplanation
  status : state.status = other.status
  message : state.message = other.message

variable {setup : PlanningSetup} {world : PlanningWorld} {n : ℕ}
  {run runAfter : Option RunContext} {origin state after : TravelState} {node : PlanningNode}

/-! ## The origin of a soft repair -/

section Origins

omit [Platform] in
/-- Only after a successful critique a soft repair is planned. -/
theorem next_eq_compileSoftRepairPlan
    (h : node.next setup after = some .compileSoftRepairPlan) :
    node = .qualityGate ∧ after.criticStatus = .success := by
  cases node with
  | qualityGate =>
    refine ⟨rfl, ?_⟩
    have hroute := Option.some.inj h
    unfold routeAfterQualityGate at hroute
    split at hroute
    · cases hroute
    · split at hroute
      · next hsuccess => exact hsuccess.1
      · cases hroute
  | _ =>
    exfalso
    revert h
    simp only [PlanningNode.next, routeAfterValidation, routeAfterCritic, routeAfterRepairPlan,
      routeAfterDeltaRoutes, routeAfterGrounding, routeAfterSoftRepairPlan,
      routeAfterSoftDeltaRoutes, validationTarget]
    repeat' split
    all_goals simp

omit [Platform] in
/-- After a successful critique the quality gate leaves grades. -/
theorem allGrades_qualityGate (h : PlanningGraph.qualityGate setup state = .ok after)
    (hcritiqued : after.criticStatus = .success) : AllGrades after.qualityScores := by
  obtain ⟨scores, ⟨-, hscores⟩ | ⟨hfailed, -⟩, rfl⟩ := qualityGate_eq_ok h
  · exact allGrades_of_qualityScores hscores
  · exact absurd hcritiqued hfailed

omit [Platform] in
/-- Only a plan leads to a soft repair. -/
theorem next_eq_applySoftRepair (h : node.next setup after = some .applySoftRepair) :
    node = .compileSoftRepairPlan ∧ after.softRepairPlan.isSome = true := by
  cases node with
  | compileSoftRepairPlan =>
    refine ⟨rfl, ?_⟩
    have hroute := Option.some.inj h
    unfold routeAfterSoftRepairPlan at hroute
    split at hroute
    · next hplan => exact hplan
    · cases hroute
  | _ =>
    exfalso
    revert h
    simp only [PlanningNode.next, routeAfterValidation, routeAfterCritic, routeAfterRepairPlan,
      routeAfterDeltaRoutes, routeAfterGrounding, routeAfterQualityGate,
      routeAfterSoftDeltaRoutes, validationTarget]
    repeat' split
    all_goals simp

/-- A plan is compiled together with everything that it may be restored to. -/
theorem softOrigin_compileSoftRepairPlan
    (h : PlanningGraph.compileSoftRepairPlan setup state = .ok after)
    (hcritiqued : state.criticStatus = .success) (hgraded : AllGrades state.qualityScores)
    (hplan : after.softRepairPlan.isSome = true) : SoftOrigin after := by
  obtain ⟨selected, plan, reason, hselected, hfor, rfl⟩ := compileSoftRepairPlan_eq_ok h
  obtain ⟨plan, rfl⟩ := Option.isSome_iff_exists.mp hplan
  obtain ⟨-, htarget, hscore, -⟩ := softPlanFor_some hfor
  exact ⟨⟨rfl, rfl, rfl, rfl, rfl, rfl, rfl, rfl⟩, hcritiqued, hgraded,
    plan, selected, rfl, hselected, htarget, hscore⟩

/-- What holds where a soft repair is planned and where it starts. -/
def OriginFacts (state : TravelState) (node : Option PlanningNode) : Prop :=
  (node = some .compileSoftRepairPlan →
      state.criticStatus = .success ∧ AllGrades state.qualityScores) ∧
    (node = some .applySoftRepair → SoftOrigin state)

/-- Wherever a soft repair starts, everything is put aside. -/
theorem softOrigin_of_visits {request : PlanningRequest} {position : Position}
    (h : Visits setup world request run position)
    (hnode : position.node = some .applySoftRepair) : SoftOrigin position.state := by
  refine (reaches_preserves (motive := fun node state => OriginFacts state node) h
    ⟨fun hstart => ?_, fun hstart => ?_⟩
    fun node n runBefore runAfter state after hexecute hfacts =>
      ⟨fun hnext => ?_, fun hnext => ?_⟩).2
      hnode
  · cases hstart
  · cases hstart
  · obtain ⟨rfl, hcritiqued⟩ := next_eq_compileSoftRepairPlan hnext
    exact ⟨hcritiqued, allGrades_qualityGate (plainNode_eq_ok hexecute) hcritiqued⟩
  · obtain ⟨rfl, hplan⟩ := next_eq_applySoftRepair hnext
    obtain ⟨hcritiqued, hgraded⟩ := hfacts.1 rfl
    exact softOrigin_compileSoftRepairPlan (plainNode_eq_ok hexecute) hcritiqued hgraded hplan

/-- The nodes behind the soft critic. -/
def criticNodes : List PlanningNode :=
  [.prepareCriticContext, .softConstraintCritic, .validateCriticEvidence, .qualityGate,
   .compileSoftRepairPlan, .applySoftRepair]

omit [Platform] in
/-- A run gets behind the soft critic only when there is one. -/
theorem skipSoftCritic_of_next (h : node.next setup after = some next)
    (hnext : next ∈ criticNodes) :
    setup.overrides.skipSoftCritic = false ∨ node ∈ criticNodes := by
  cases node with
  | validateCandidates =>
    refine .inl ?_
    have hroute := Option.some.inj h
    unfold routeAfterValidation at hroute
    dsimp only at hroute
    split at hroute
    · subst hroute
      exact absurd hnext (by decide)
    · split at hroute
      · split at hroute
        · subst hroute
          exact absurd hnext (by decide)
        · next hskip => exact Bool.eq_false_iff.mpr hskip
      · split at hroute <;> subst hroute <;> exact absurd hnext (by decide)
  | prepareCriticContext | softConstraintCritic | validateCriticEvidence | qualityGate
  | compileSoftRepairPlan | applySoftRepair => exact .inr (by decide)
  | _ =>
    -- The other nodes are no neighbours of the critic.
    exfalso
    simp only [PlanningNode.next, routeAfterCritic, routeAfterRepairPlan, routeAfterDeltaRoutes,
      routeAfterSoftDeltaRoutes, validationTarget] at h
    repeat' split at h
    all_goals
      cases h
      try exact absurd hnext (by decide)

/-- Behind the soft critic there is one. -/
theorem skipSoftCritic_of_visits {request : PlanningRequest} {position : Position}
    (h : Visits setup world request run position) {next : PlanningNode}
    (hnode : position.node = some next) (hnext : next ∈ criticNodes) :
    setup.overrides.skipSoftCritic = false := by
  refine reaches_preserves (motive := fun node _ => ∀ next, node = some next →
    next ∈ criticNodes → setup.overrides.skipSoftCritic = false) h
    (fun next hstart hnext => ?_) (fun node n runBefore runAfter state after _ hbefore next hgoes
      hnext => ?_) next hnode hnext
  · cases hstart
    exact absurd hnext (by decide)
  · exact (skipSoftCritic_of_next hgoes hnext).elim id (hbefore node rfl)

end Origins

/-! ## Keeping what is put aside -/

section Kept

omit [Platform]

theorem PutAside.keep (h : PutAside origin state) (hframe : Frame node state after)
    (hcritic : CriticFrame node state after)
    (hnode : node ∉ [.compileSoftRepairPlan, .restoreSoftBaseline, .compareSoftRepair]) :
    PutAside origin after := by
  obtain ⟨hcandidates, hdrafts, hcritiques, hdigests, hscores⟩ := hframe.baseline hnode
  simp only [List.mem_cons, List.not_mem_nil, or_false, not_or] at hnode
  obtain ⟨hcompile, hrestore, hcompare⟩ := hnode
  refine ⟨hcandidates.trans h.candidates, hdrafts.trans h.drafts, hcritiques.trans h.critiques,
    hdigests.trans h.digests, hscores.trans h.scores, ?_, ?_, ?_⟩
  · exact (hcritic.baselineSummary (by simp [hcompile, hrestore, hcompare])).trans h.summary
  · exact (hframe.softPlan hcompile).trans h.plan
  · exact (hcritic.softHistory (by simp [hrestore, hcompare])).trans h.history

theorem Repairing.keep (h : Repairing origin state) (hframe : Frame node state after)
    (hcritic : CriticFrame node state after)
    (hbaseline : node ∉ [.compileSoftRepairPlan, .restoreSoftBaseline, .compareSoftRepair])
    (hpending : node ∉ [.applySoftRepair, .restoreSoftBaseline, .compareSoftRepair])
    (hdrafts : node ∉ [.solveCandidateVariants, .applyLocalRepair, .applySoftRepair,
      .restoreSoftBaseline, .compareSoftRepair]) : Repairing origin after where
  aside := h.aside.keep hframe hcritic hbaseline
  pending := hframe.softPending hpending ▸ h.pending
  drafted := hframe.drafts hdrafts ▸ h.drafted

theorem OneCandidate.keep (h : OneCandidate origin state)
    (hcandidates : after.candidates = state.candidates) : OneCandidate origin after := by
  rw [OneCandidate, hcandidates]
  exact h

/-- What is deliverable of one candidate is all of it or nothing. -/
theorem OneCandidate.deliverable (h : OneCandidate origin state)
    (hsome : deliverableCandidates state ≠ []) :
    ∃ plan candidate, origin.softRepairPlan = some plan ∧ state.candidates = [candidate] ∧
      candidate.id = repairedId plan ∧ isDeliverable candidate = true ∧
      deliverableCandidates state = [candidate] := by
  obtain ⟨plan, candidate, hplan, hcandidates, hid⟩ := h
  have hdeliverable : isDeliverable candidate = true := by
    by_contra hnot
    refine hsome ?_
    rw [deliverableCandidates, hcandidates, List.filter_cons_of_neg hnot, List.filter_nil]
  refine ⟨plan, candidate, hplan, hcandidates, hid, hdeliverable, ?_⟩
  rw [deliverableCandidates, hcandidates, List.filter_cons_of_pos hdeliverable, List.filter_nil]

end Kept

/-! ## The steps of a soft repair -/

section OneStep

theorem repairing_applySoftRepair (h : PlanningGraph.applySoftRepair origin = .ok after)
    (horigin : SoftOrigin origin) : Repairing origin after := by
  obtain ⟨plan, _, _, draft, -, repaired, hplan, -, hdraft, hrepaired, rfl⟩ :=
    PlanningGraph.applySoftRepair_eq_ok h
  obtain ⟨haside, -, -⟩ := horigin
  refine ⟨⟨haside.candidates, haside.drafts, haside.critiques, haside.digests, haside.scores,
    haside.summary, rfl, rfl⟩, rfl, plan, repaired, hplan, rfl, ?_⟩
  rw [id_of_applySoftRepair hrepaired, hdraft, repairedId]

theorem oneCandidate_materialize (h : materialize setup state = .ok after)
    (hrepairing : Repairing origin after) : OneCandidate origin after := by
  obtain ⟨plan, draft, hplan, hdrafts, hid⟩ := hrepairing.drafted
  have hids := (paired_of_materialize h).ids_eq
  rw [hdrafts, List.map_singleton, List.map_eq_singleton_iff] at hids
  obtain ⟨candidate, hcandidates, hsame⟩ := hids
  exact ⟨plan, candidate, hplan, hcandidates, hsame.trans hid⟩

/-- A validation sends a repair to the critic or back. -/
theorem softFacts_validate (hcritic : setup.overrides.skipSoftCritic = false)
    (h : validate state = .ok after) (hrepairing : Repairing origin after)
    (hone : OneCandidate origin state) :
    SoftFacts setup origin after (routeAfterValidation setup after) := by
  have hafter : OneCandidate origin after := by
    obtain ⟨plan, candidate, hplan, hcandidates, hid⟩ := hone
    have hvalidated : after.candidates =
        state.candidates.map (validated state.trip state.planningPois) := by
      obtain ⟨-, ⟨-, rfl⟩ | ⟨round, attempt, -, -, rfl⟩⟩ := validate_eq_ok h <;> rfl
    rw [hcandidates] at hvalidated
    exact ⟨plan, validated state.trip state.planningPois candidate, hplan, hvalidated, hid⟩
  unfold routeAfterValidation
  dsimp only
  by_cases hnone : deliverableCandidates after = []
  · rw [if_pos ⟨hrepairing.pending, hnone⟩]
    exact hrepairing
  · rw [if_neg fun hrestore => hnone hrestore.2, if_pos hnone, hcritic]
    exact ⟨hrepairing, hafter, hnone⟩

omit [Platform] in
theorem rolledBack_of_restoreSoftValues {reason : String} {passed : Bool} {afterScore : Option ℚ}
    (h : restoreSoftValues state reason passed afterScore = .ok after)
    (haside : PutAside origin state) : RolledBack origin after := by
  obtain ⟨plan, -, h⟩ := bind_eq_ok h
  obtain ⟨before, -, h⟩ := bind_eq_ok h
  cases h
  refine ⟨haside.candidates, haside.drafts, haside.critiques, haside.digests, haside.scores,
    haside.summary, rfl, ?_⟩
  rw [← haside.history]
  exact ⟨_, rfl, rfl⟩

/-- Only the repaired candidate is scored. -/
theorem keys_of_reviewed (hreviewed : Reviewed setup state) {candidate : PlanCandidate}
    (hdeliverable : deliverableCandidates state = [candidate])
    (hsuccess : state.criticStatus = .success) (id : String) :
    id ∈ state.qualityScores.keys ↔ id = candidate.id := by
  have hprefix := hreviewed.candidateIds
  rw [hdeliverable, List.map_singleton] at hprefix
  have hids : state.criticEvidenceDigests.map CandidateEvidenceDigest.candidateId =
      [candidate.id] := by
    refine hprefix.eq_of_length_le ?_
    rw [List.length_singleton, List.length_map]
    exact List.length_pos_of_ne_nil hreviewed.some
  -- The scores are those of candidates with a digest, whatever their ids are.
  have hscored := hreviewed.scored_iff hsuccess { candidate with id := id }
  rw [Digested, hids, List.mem_singleton] at hscored
  exact hscored

/-- A comparison takes the repair over or restores everything. -/
theorem softSettled_compareSoftRepair (h : PlanningGraph.compareSoftRepair setup state = .ok after)
    (horigin : SoftOrigin origin) (hrepairing : Repairing origin state)
    (hone : OneCandidate origin state) (hsome : deliverableCandidates state ≠ [])
    (hreviewed : Reviewed setup state) :
    SoftSettled setup origin after := by
  obtain ⟨plan, before, hplan, hbefore, ⟨haccepted, attempt, hattempt, rfl⟩ |
    ⟨-, reason, hrestored⟩⟩ := compareSoftRepair_eq_ok h
  · have haside := hrepairing.aside
    obtain ⟨plan', repaired, hplan', hcandidates, hid, hdeliverable, hall⟩ :=
      hone.deliverable hsome
    rw [haside.plan, hplan'] at hplan
    obtain rfl := Option.some.inj hplan
    unfold improvementAccepted at haccepted
    split at haccepted
    · cases haccepted
    · next score hscore =>
      rw [Bool.and_eq_true, decide_eq_true_eq, decide_eq_true_eq] at haccepted
      have hkeys := keys_of_reviewed hreviewed hall haccepted.1
      rw [Dict.head?_values hkeys] at hscore
      refine .inr ⟨plan', repaired, hplan', hid, hdeliverable, ?_, ⟨_, hkeys, ?_⟩, ?_, ?_⟩
      · dsimp only [mergeSoftRepair]
        rw [haside.candidates, hcandidates]
      · dsimp only [mergeSoftRepair]
        rw [haside.scores]
      · have hbefore' := haside.scores ▸ hbefore
        have hgrade := allGrades_of_qualityScores (hreviewed.grounded haccepted.1).2 _ _ hscore
        refine ⟨before, score, hbefore', ?_, ?_, haccepted.2⟩
        · dsimp only [mergeSoftRepair]
          rw [Dict.get?_update, hscore]
          rfl
        · refine Grade.le_of_nearest_sub (horigin.graded _ _ hbefore') hgrade ?_
          exact (Binary64.nearest_nonneg setup.criticPolicy.minImprovement_bounds.1).trans
            haccepted.2
      · refine ⟨attempt, ?_, hattempt⟩
        rw [← haside.history]
        rfl
  · exact .inl (rolledBack_of_restoreSoftValues hrestored hrepairing.aside)

omit [Platform] in
/-- The state that the critic and its comparison are about stays as it is. -/
theorem reviewing_keep (hframe : Frame node state after) (hcritic : CriticFrame node state after)
    (hnode : node ∈ [.softConstraintCritic, .validateCriticEvidence, .qualityGate])
    (h : Repairing origin state ∧ OneCandidate origin state ∧ deliverableCandidates state ≠ []) :
    Repairing origin after ∧ OneCandidate origin after ∧ deliverableCandidates after ≠ [] := by
  have hcandidates : after.candidates = state.candidates := by
    refine hframe.candidates ?_
    revert hnode
    cases node <;> decide
  refine ⟨h.1.keep hframe hcritic ?_ ?_ ?_, h.2.1.keep hcandidates, ?_⟩
  · revert hnode
    cases node <;> decide
  · revert hnode
    cases node <;> decide
  · revert hnode
    cases node <;> decide
  · rw [deliverableCandidates, hcandidates]
    exact h.2.2

/-- The digests that the critic is given stay those of the deliverable candidates. -/
theorem digests_keep (hframe : Frame node state after) (hcritic : CriticFrame node state after)
    (hnode : node ∈ [.softConstraintCritic, .validateCriticEvidence])
    (h : state.criticEvidenceDigests = buildEvidenceDigests state.trip
      (deliverableCandidates state) state.planningPois setup.evidenceBudget) :
    after.criticEvidenceDigests = buildEvidenceDigests after.trip (deliverableCandidates after)
      after.planningPois setup.evidenceBudget := by
  obtain rfl | rfl : node = .softConstraintCritic ∨ node = .validateCriticEvidence := by
    simpa using hnode
  · rw [hcritic.digests (by decide), deliverableCandidates, hframe.trip,
      hframe.candidates (by decide), hframe.planningPois (by decide), h]
    rfl
  · rw [hcritic.digests (by decide), deliverableCandidates, hframe.trip,
      hframe.candidates (by decide), hframe.planningPois (by decide), h]
    rfl

/-- Every node from the origin of a soft repair on keeps its facts. -/
theorem softFacts_next (hskip : setup.overrides.skipSoftCritic = false)
    (horigin : SoftOrigin origin)
    (h : node.execute setup world n run state = .ok (after, runAfter))
    (hfacts : SoftFacts setup origin state node) :
    SoftInvariant setup origin after (node.next setup after) := by
  have hframe := frame_of_execute h
  have hcritic := criticFrame_of_execute h
  cases node with
  | applySoftRepair =>
    obtain rfl := hfacts
    exact repairing_applySoftRepair (plainNode_eq_ok h) horigin
  | collectSoftDeltaRoutes =>
    have hrepairing : Repairing origin after :=
      Repairing.keep hfacts hframe hcritic (by decide) (by decide) (by decide)
    change SoftFacts setup origin after (routeAfterSoftDeltaRoutes after)
    unfold routeAfterSoftDeltaRoutes
    split <;> exact hrepairing
  | loadSoftDeltaRoutes =>
    exact Repairing.keep hfacts hframe hcritic (by decide) (by decide) (by decide)
  | materializeSoftCandidate =>
    have hrepairing : Repairing origin after :=
      Repairing.keep hfacts hframe hcritic (by decide) (by decide) (by decide)
    exact ⟨hrepairing, oneCandidate_materialize (plainNode_eq_ok h) hrepairing⟩
  | validateCandidates =>
    exact softFacts_validate hskip (plainNode_eq_ok h)
      (hfacts.1.keep hframe hcritic (by decide) (by decide) (by decide)) hfacts.2
  | restoreSoftBaseline =>
    exact .inl (rolledBack_of_restoreSoftValues (plainNode_eq_ok h) (Repairing.aside hfacts))
  | prepareCriticContext =>
    obtain ⟨digests, hdigests, hsome, rfl⟩ := prepareCriticContext_eq_ok (plainNode_eq_ok h)
    exact ⟨hfacts.1.keep hframe hcritic (by decide) (by decide) (by decide),
      hfacts.2.1, hfacts.2.2, hdigests.symm, hsome⟩
  | softConstraintCritic =>
    obtain ⟨hrepairing, hone, hdeliverable, hdigests, hsome⟩ := hfacts
    obtain ⟨hrepairing, hone, hdeliverable⟩ :=
      reviewing_keep hframe hcritic (by decide) ⟨hrepairing, hone, hdeliverable⟩
    exact ⟨hrepairing, hone, hdeliverable, digests_keep hframe hcritic (by decide) hdigests,
      hcritic.digests (by decide) ▸ hsome⟩
  | validateCriticEvidence =>
    obtain ⟨hrepairing, hone, hdeliverable, hdigests, hsome⟩ := hfacts
    have hsomeAfter : after.criticEvidenceDigests ≠ [] := hcritic.digests (by decide) ▸ hsome
    have hdigestsAfter := digests_keep hframe hcritic (by decide) hdigests
    obtain ⟨hrepairing, hone, hdeliverable⟩ :=
      reviewing_keep hframe hcritic (by decide) ⟨hrepairing, hone, hdeliverable⟩
    change SoftFacts setup origin after (routeAfterGrounding after)
    unfold routeAfterGrounding
    split
    · exact ⟨hrepairing, hone, hdeliverable, hdigestsAfter, hsomeAfter⟩
    · cases h
      exact ⟨hrepairing, hone, hdeliverable, state, rfl, hdigests, hsome⟩
  | qualityGate =>
    obtain ⟨hrepairing, hone, hdeliverable, prior, rfl, hdigests, hsome⟩ := hfacts
    have hreviewed : Reviewed setup after := by
      refine reviewed_qualityGate ?_ hdigests hsome (plainNode_eq_ok h)
      have hsame : deliverableCandidates prior =
          deliverableCandidates (validateCriticEvidence prior) := by
        unfold validateCriticEvidence
        split <;> rfl
      obtain ⟨plan, candidate, -, -, -, -, hall⟩ := hone.deliverable hdeliverable
      rw [hsame, hall]
      exact List.nodup_singleton _
    obtain ⟨hrepairing, hone, hdeliverable⟩ :=
      reviewing_keep hframe hcritic (by decide) ⟨hrepairing, hone, hdeliverable⟩
    change SoftFacts setup origin after (routeAfterQualityGate after)
    unfold routeAfterQualityGate
    rw [if_pos hrepairing.pending]
    exact ⟨hrepairing, hone, hdeliverable, hreviewed⟩
  | compareSoftRepair =>
    exact softSettled_compareSoftRepair (plainNode_eq_ok h) horigin hfacts.1 hfacts.2.1 hfacts.2.2.1
      hfacts.2.2.2
  | selectByQuality => exact ⟨state, hfacts, plainNode_eq_ok h⟩
  | explainSelection =>
    obtain ⟨settled, hsettled, hselected⟩ := hfacts
    refine ⟨settled, hsettled, ?_⟩
    rw [deliverNow, hselected]
    exact plainNode_eq_ok h
  | _ => exact hfacts.elim

end OneStep

/-! ## What is delivered -/

section Delivered

omit [Platform]

/-- What is delivered after a selection. -/
theorem deliverNow_eq_ok (h : deliverNow state = .ok after) :
    ∃ chosen explanation, chosenByQuality state = .ok chosen ∧
      buildGroundedExplanation chosen state.criticStatus
        (state.criticEvidenceDigests.find? fun digest => decide (digest.candidateId = chosen.id))
        (state.softCritiques.find? fun critique => decide (critique.candidateId = chosen.id)) =
          .ok explanation ∧
      after = { state with
        selectedPlan := some chosen
        groundedExplanation := some explanation
        status := "completed"
        message := some (selectionMessage chosen) } := by
  obtain ⟨selected, hselected, h⟩ := bind_eq_ok h
  obtain ⟨chosen, hchosen, hselected⟩ := bind_eq_ok hselected
  cases hselected
  obtain ⟨selected, hselected, h⟩ := bind_eq_ok h
  obtain rfl := Option.some.inj (orRaise_eq_ok hselected)
  obtain ⟨explanation, hexplanation, h⟩ := bind_eq_ok h
  cases h
  exact ⟨chosen, explanation, hchosen, hexplanation, rfl⟩

/-- After everything is restored the same is delivered as without a soft repair. -/
theorem sameDelivery_of_rolledBack {settled : TravelState} (hback : RolledBack origin settled)
    (hcritiqued : origin.criticStatus = .success) (h : deliverNow settled = .ok state) :
    ∃ direct, deliverNow origin = .ok direct ∧ SameDelivery state direct := by
  obtain ⟨chosen, explanation, hchosen, hexplanation, rfl⟩ := deliverNow_eq_ok h
  have hchosenOrigin : chosenByQuality origin = .ok chosen := by
    rw [← hchosen, chosenByQuality, chosenByQuality, deliverableCandidates, deliverableCandidates,
      hback.scores, hback.candidates]
  rw [hback.critiqued, ← hcritiqued, hback.digests, hback.critiques] at hexplanation
  refine ⟨{ origin with
    selectedPlan := some chosen
    groundedExplanation := some explanation
    status := "completed"
    message := some (selectionMessage chosen) }, ?_, ?_⟩
  · rw [deliverNow, PlanningGraph.selectByQuality, hchosenOrigin]
    change (buildGroundedExplanation chosen origin.criticStatus _ _).bind _ = _
    rw [hexplanation]
    rfl
  · exact ⟨hback.candidates, hback.drafts, hback.critiques, hback.digests, hback.scores,
      hback.summary, hback.critiqued.trans hcritiqued.symm, rfl, rfl, rfl, rfl⟩

/-- A plan that is delivered leaves the candidates and the records as they were. -/
theorem Merged.deliver {settled : TravelState} {plan : SoftRepairPlan} {repaired : PlanCandidate}
    (h : Merged setup origin settled plan repaired) (hdeliver : deliverNow settled = .ok state) :
    Merged setup origin state plan repaired := by
  obtain ⟨_, _, _, _, rfl⟩ := deliverNow_eq_ok hdeliver
  exact ⟨h.planned, h.repairedId, h.deliverable, h.candidates, h.scores, h.improved, h.recorded⟩

end Delivered

/-! ## Runs -/

section Runs

variable {request : PlanningRequest} {start position : Position}

/-- Whatever a run does after the start of a soft repair, it keeps its invariant. -/
theorem softInvariant_of_reaches (hstart : Visits setup world request run start)
    (hnode : start.node = some .applySoftRepair)
    (h : (planningMachine setup world).Reaches start position) :
    SoftInvariant setup start.state position.state position.node := by
  have hskip := skipSoftCritic_of_visits hstart hnode (by decide)
  have horigin := softOrigin_of_visits hstart hnode
  refine reaches_preserves (motive := fun node state => SoftInvariant setup start.state state node)
    h ?_ fun _ _ _ _ _ _ hexecute => softFacts_next hskip horigin hexecute
  rw [hnode]
  rfl

/-- A run that has started a soft repair and ends has settled it before. -/
theorem softSettled_of_runPlanning (h : runPlanning setup world request run = .ok state)
    (hstart : Visits setup world request run start)
    (hnode : start.node = some .applySoftRepair) :
    ∃ settled, SoftSettled setup start.state settled ∧ deliverNow settled = .ok state := by
  obtain ⟨last, hreaches, hend, rfl⟩ := exists_end_of_visits h hstart
  have hinvariant := softInvariant_of_reaches hstart hnode hreaches
  rw [hend] at hinvariant
  exact hinvariant

/-- No soft repair is under way or recorded. -/
structure NoSoftRepair (position : Position) : Prop where
  unrecorded : position.state.softRepairHistory = []
  notPending : position.state.pendingSoftReplanRound = none
  node : position.node ∉ [some .restoreSoftBaseline, some .compareSoftRepair]

omit [Platform] in
/-- Only a pending repair is restored or compared. -/
theorem not_mem_of_notPending {node : PlanningNode} (h : after.pendingSoftReplanRound = none) :
    node.next setup after ∉ [some .restoreSoftBaseline, some .compareSoftRepair] := by
  cases node with
  | validateCandidates | qualityGate | validateCriticEvidence | compileSoftRepairPlan
  | collectSoftDeltaRoutes | collectDeltaRoutes | analyzeViolations | buildRepairPlan
  | materializeOptimizedCandidates | materializeCandidates =>
    simp only [PlanningNode.next, routeAfterValidation, routeAfterCritic, routeAfterRepairPlan,
      routeAfterDeltaRoutes, routeAfterGrounding, routeAfterQualityGate,
      routeAfterSoftRepairPlan, routeAfterSoftDeltaRoutes, validationTarget, h]
    repeat' split
    all_goals simp_all
  | _ => simp [PlanningNode.next]

/-- A run that has an attempt on record has started a soft repair. -/
theorem exists_softStart (h : Visits setup world request run position) :
    NoSoftRepair position ∨ ∃ start, Visits setup world request run start ∧
      start.node = some .applySoftRepair := by
  refine h.induction (motive := fun position => NoSoftRepair position ∨ ∃ start,
    Visits setup world request run start ∧ start.node = some .applySoftRepair)
    (.inl ⟨rfl, rfl, by simp [startPosition]⟩) fun before after hbefore hmotive hnext => ?_
  obtain hnone | hstart := hmotive
  · obtain ⟨node, hnode, hsuperstep⟩ := next_iff.mp hnext
    obtain ⟨⟨runBefore, runAfter, hexecute⟩, hedge, -⟩ := superstep_eq_ok hsuperstep
    by_cases hstarts : node = .applySoftRepair
    · exact .inr ⟨before, hbefore, hstarts ▸ hnode⟩
    · have hothers := hnone.node
      rw [hnode] at hothers
      have hnot : node ∉ [.restoreSoftBaseline, .compareSoftRepair] := by
        simpa using hothers
      have hpending : after.state.pendingSoftReplanRound = none :=
        ((frame_of_execute hexecute).softPending (by simp_all)).trans hnone.notPending
      refine .inl ⟨?_, hpending, hedge ▸ not_mem_of_notPending hpending⟩
      exact ((criticFrame_of_execute hexecute).softHistory hnot).trans hnone.unrecorded
  · exact .inr hstart

/-- **A soft repair is all or nothing.**  A run that has started a soft repair and ends has recorded
one attempt.  Either it was rejected, and everything that is delivered is what the selection would
have delivered at the start of the repair, or it was accepted, and only the target has given way to
a deliverable candidate whose score is better by the required improvement. -/
theorem allOrNothing_of_runPlanning (h : runPlanning setup world request run = .ok state)
    (hstart : Visits setup world request run start)
    (hnode : start.node = some .applySoftRepair) :
    ∃ attempt, state.softRepairHistory = start.state.softRepairHistory ++ [attempt] ∧
      ((attempt.accepted = false ∧
          ∃ direct, deliverNow start.state = .ok direct ∧ SameDelivery state direct) ∨
        (attempt.accepted = true ∧
          ∃ plan repaired, Merged setup start.state state plan repaired)) := by
  obtain ⟨settled, hback | ⟨plan, repaired, hmerged⟩, hdeliver⟩ :=
    softSettled_of_runPlanning h hstart hnode
  · obtain ⟨attempt, hhistory, hrejected⟩ := hback.recorded
    have hcritiqued := (softOrigin_of_visits hstart hnode).critiqued
    refine ⟨attempt, ?_, .inl ⟨hrejected, sameDelivery_of_rolledBack hback hcritiqued hdeliver⟩⟩
    obtain ⟨_, _, _, _, rfl⟩ := deliverNow_eq_ok hdeliver
    exact hhistory
  · have hfinal := hmerged.deliver hdeliver
    obtain ⟨attempt, hhistory, haccepted⟩ := hfinal.recorded
    exact ⟨attempt, hhistory, .inr ⟨haccepted, plan, repaired, hfinal⟩⟩

end Runs

/-! ## A run with a soft repair -/

namespace PlanningSample

omit [Platform]

/-- The plain platform, on which a fact takes two hundred characters. -/
@[reducible] def roundPlatform : Platform :=
  { plainPlatform with jsonLength := (Sample.numberingPlatform []).jsonLength }

/-- Leave the second place out. -/
def withoutSecond (evidenceId : String) : SuggestedSoftAction :=
  ⟨.removeOptionalPoi, some "b", some Sample.day1, none, [evidenceId], some .pace, rfl⟩

/-- Every dimension has the same score, cites the first fact and suggests the same. -/
def critiqueOf (score : ℕ) (hscore : score ≤ 100)
    (suggestion : String → Option SuggestedSoftAction) (digest : CandidateEvidenceDigest) :
    SoftCritique :=
  let evidenceId := (digest.evidence.head?.map EvidenceItem.id).getD ""
  { candidateId := digest.candidateId
    dimensions := SoftDimension.all.map fun dimension =>
      ⟨dimension, score, "uneven", [evidenceId], suggestion evidenceId, hscore,
        le_rfl, Nat.le_add_left 1 11⟩
    overallSummary := "uneven", tradeoffEvidenceIds := []
    dimensions_bounds := by rw [List.length_map]; exact ⟨Nat.le_add_left 1 4, le_rfl⟩
    tradeoffEvidenceIds_le := Nat.zero_le 12 }

/-- A place to spend an hour at. -/
def firstPlace : POIFacts :=
  place "a" 1 60 (Nat.succ_pos 59)

/-- A low score is a score. -/
theorem forty_le : 40 ≤ 100 :=
  Nat.le_add_left 40 60

/-- With a critic. -/
def criticSetup : PlanningSetup :=
  { PlanningSample.setup with
    critic := some ⟨"critic", "model", "v1"⟩
    overrides := {} }

/-- The solver plans two places, the critic dislikes it, and scores the repaired plan like this. -/
def twoPlaces (later : ℕ) (hlater : later ≤ 100) : PlanningWorld :=
  { PlanningSample.world [firstPlace, place "b" 1 60 (Nat.succ_pos 59)]
      [⟨Sample.day1, ["a", "b"]⟩] with
    critique := fun n request _ => .ok
      ⟨request.digests.map (if n ≤ 10 then critiqueOf 40 forty_le fun id =>
          some (withoutSecond id) else critiqueOf later hlater fun _ => none),
        ⟨"critic", "model", "v1", .success, 1, 1, 0, none⟩⟩ }

end PlanningSample

omit [Platform] in
/-- A repair that the critic scores like its target is rejected without a trace. -/
theorem allOrNothing_of_runPlanning_twoPlaces : ∃ state start,
    @runPlanning PlanningSample.roundPlatform PlanningSample.criticSetup
      (PlanningSample.twoPlaces 40 PlanningSample.forty_le) PlanningSample.request none =
        .ok state ∧
    ∃ direct, deliverNow start = .ok direct ∧ SameDelivery state direct := by
  let := PlanningSample.roundPlatform
  have hrun : ((runPlanning PlanningSample.criticSetup
      (PlanningSample.twoPlaces 40 PlanningSample.forty_le)
        PlanningSample.request none).toOption.map fun state =>
        state.softRepairHistory.map SoftRepairAttempt.accepted) = some [false] := by
    decide +kernel
  obtain ⟨state, hstate, haccepted⟩ := Option.map_eq_some_iff.mp hrun
  have hok := eq_ok_of_mem_toOption hstate
  obtain ⟨position, hvisits, -, rfl⟩ := exists_of_runPlanning hok
  obtain hnone | ⟨start, hstart, hnode⟩ := exists_softStart hvisits
  · rw [hnone.unrecorded] at haccepted
    cases haccepted
  · obtain ⟨attempt, hhistory, ⟨-, hdirect⟩ | ⟨hyes, -⟩⟩ :=
      allOrNothing_of_runPlanning hok hstart hnode
    · exact ⟨position.state, start.state, hok, hdirect⟩
    · rw [hhistory, List.map_append, List.map_singleton, hyes] at haccepted
      have hlast := congrArg List.getLast? haccepted
      rw [List.getLast?_append] at hlast
      cases hlast

end TravelPlanAgent
