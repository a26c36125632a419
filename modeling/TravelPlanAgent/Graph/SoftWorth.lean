import TravelPlanAgent.Graph.SoftRollback

/-!
# Whether a soft repair is worth it

Plans are selected by their tier first and by their quality second, but a soft repair is accepted by
its quality alone.  So a repaired plan with warnings may take the place of a plan without any.

* `merit`: the tier and the quality of a candidate.
* `merit_le_of_selectByQuality`: the selected plan is of the best merit.
* `merit_of_merged`: what the others are worth next to a repaired plan.
* `notWorse_iff`: when the plan that is delivered is as good as the one that was to be repaired.
-/

namespace TravelPlanAgent

open Calendar Selection PlanningGraph

/-! ## Merit -/

section Merit

variable {scores : Dict String ℚ} {candidates : List PlanCandidate} {a b : PlanCandidate}

/-- How good a candidate is: its tier, then its quality; less is better. -/
def merit (scores : Dict String ℚ) (candidate : PlanCandidate) : ℕ ×ₗ WithTop ℚ :=
  toLex (validationRank candidate, negatedScore (scores.get? candidate.id))

theorem merit_lt_iff {scores' : Dict String ℚ} : merit scores a < merit scores' b ↔
    validationRank a < validationRank b ∨ validationRank a = validationRank b ∧
      negatedScore (scores.get? a.id) < negatedScore (scores'.get? b.id) :=
  Prod.Lex.toLex_lt_toLex

theorem merit_le_iff {scores' : Dict String ℚ} : merit scores a ≤ merit scores' b ↔
    validationRank a < validationRank b ∨ validationRank a = validationRank b ∧
      negatedScore (scores.get? a.id) ≤ negatedScore (scores'.get? b.id) :=
  Prod.Lex.toLex_le_toLex

/-- The selected plan is of the best merit. -/
theorem merit_le_of_selectByQuality
    (h : TravelPlanAgent.selectByQuality candidates scores = .ok a) (hb : b ∈ candidates) :
    merit scores a ≤ merit scores b := by
  have hafter := not_rankedBefore_of_firstMin (orRaise_eq_ok h) hb
  rw [Bool.eq_false_iff, Ne, rankedBefore_iff, byScores_cons] at hafter
  refine not_lt.mp fun hlt => hafter ?_
  exact (merit_lt_iff.mp hlt).imp_right fun hlower => ⟨hlower.1, .inl hlower.2⟩

end Merit

/-! ## Next to a repaired plan -/

section Repaired

variable {setup : PlanningSetup} {origin state settled : TravelState}
  {plan : SoftRepairPlan} {target repaired : PlanCandidate}

theorem size_ne_zero_of_get? {scores : Dict String ℚ} {id : String} {score : ℚ}
    (h : scores.get? id = some score) : scores.size ≠ 0 := by
  rw [← Dict.length_keys]
  exact (List.length_pos_of_mem (Dict.mem_keys_of_get? h)).ne'

/-- With scores the plan that is delivered is the best by quality. -/
theorem selected_of_deliverNow (h : deliverNow settled = .ok state)
    (hscored : settled.qualityScores.size ≠ 0) :
    ∃ selected, state.selectedPlan = some selected ∧
      TravelPlanAgent.selectByQuality (deliverableCandidates state) state.qualityScores =
        .ok selected := by
  obtain ⟨chosen, explanation, hchosen, -, rfl⟩ := deliverNow_eq_ok h
  rw [chosenByQuality, if_neg hscored] at hchosen
  exact ⟨chosen, rfl, hchosen⟩

/-- The candidates beside the repaired one are the others of the start. -/
theorem Merged.mem_deliverable_iff (h : Merged setup origin state plan repaired)
    (hplan : PlanOf origin plan target) {candidate : PlanCandidate} :
    candidate ∈ deliverableCandidates state ↔
      (candidate ∈ deliverableCandidates origin ∧ candidate.id ≠ target.id) ∨
        candidate = repaired := by
  rw [deliverableCandidates, h.candidates, List.filter_append, List.mem_append, List.mem_filter,
    List.mem_filter, decide_eq_true_eq, List.filter_cons_of_pos h.deliverable, List.filter_nil,
    List.mem_singleton, deliverableCandidates, List.mem_filter, hplan.targetId]
  tauto

/-- A candidate that is neither the target nor the repaired one keeps its score. -/
theorem Merged.score_eq (h : Merged setup origin state plan repaired)
    (hplan : PlanOf origin plan target) {id : String} (htarget : id ≠ target.id)
    (hrepaired : id ≠ repaired.id) :
    state.qualityScores.get? id = origin.qualityScores.get? id := by
  obtain ⟨scores, hkeys, hscores⟩ := h.scores
  have hnone : scores.get? id = none :=
    Dict.get?_eq_none_iff.mpr fun hkey => hrepaired ((hkeys id).mp hkey)
  rw [hscores, Dict.get?_update, hnone, Dict.get?_filterKeys, hplan.targetId]
  simp [htarget]

/-- A repaired plan of the same tier is at least as good as its target. -/
theorem Merged.merit_repaired_le_iff (h : Merged setup origin state plan repaired)
    (hplan : PlanOf origin plan target) :
    merit state.qualityScores repaired ≤ merit origin.qualityScores target ↔
      validationRank repaired ≤ validationRank target := by
  obtain ⟨before, after, hbefore, hafter, hle, -⟩ := h.improved
  rw [hplan.targetId] at hbefore
  have hscore : negatedScore (state.qualityScores.get? repaired.id) ≤
      negatedScore (origin.qualityScores.get? target.id) := by
    rw [hafter, hbefore]
    exact WithTop.coe_le_coe.mpr (neg_le_neg hle)
  rw [merit_le_iff, and_iff_left hscore, le_iff_lt_or_eq]

/-- The repaired plan has an id of its own. -/
theorem Merged.id_ne (h : Merged setup origin state plan repaired)
    (hplan : PlanOf origin plan target)
    (hunprefixed : Unprefixed (origin.candidates.map PlanCandidate.id))
    {candidate : PlanCandidate} (hcandidate : candidate ∈ origin.candidates) :
    candidate.id ≠ repaired.id := by
  have htarget : target ∈ origin.candidates :=
    List.mem_of_mem_filter (mem_of_firstMin (orRaise_eq_ok hplan.chosen))
  have hfresh := hunprefixed.not_mem_append (List.mem_map_of_mem htarget)
    (softSuffix_ne_empty plan.round)
  rw [h.repairedId, TravelPlanAgent.repairedId, hplan.targetId]
  exact fun heq => hfresh (heq ▸ List.mem_map_of_mem hcandidate)

/-- Next to an accepted repair the selected plan is as good as the target exactly when the repaired
plan is of the same tier or another plan is as good as the target. -/
theorem Merged.merit_selected_le_iff (h : Merged setup origin state plan repaired)
    (hplan : PlanOf origin plan target)
    (hunprefixed : Unprefixed (origin.candidates.map PlanCandidate.id)) {selected : PlanCandidate}
    (hselected : TravelPlanAgent.selectByQuality (deliverableCandidates state)
      state.qualityScores = .ok selected) :
    merit state.qualityScores selected ≤ merit origin.qualityScores target ↔
      validationRank repaired ≤ validationRank target ∨
        ∃ other ∈ deliverableCandidates origin, other.id ≠ target.id ∧
          merit origin.qualityScores other = merit origin.qualityScores target := by
  have hkeeps {other : PlanCandidate} (hother : other ∈ deliverableCandidates origin)
      (hid : other.id ≠ target.id) :
      merit state.qualityScores other = merit origin.qualityScores other := by
    have hscore := h.score_eq hplan hid
      (h.id_ne hplan hunprefixed (List.mem_of_mem_filter hother))
    rw [merit, merit, hscore]
  constructor
  · intro hle
    have hmem := mem_of_firstMin (orRaise_eq_ok hselected)
    obtain ⟨hother, hid⟩ | rfl := (h.mem_deliverable_iff hplan).mp hmem
    · refine .inr ⟨selected, hother, hid, le_antisymm (hkeeps hother hid ▸ hle) ?_⟩
      exact merit_le_of_selectByQuality hplan.chosen hother
    · exact .inl ((h.merit_repaired_le_iff hplan).mp hle)
  · rintro (hrank | ⟨other, hother, hid, hequal⟩)
    · calc merit state.qualityScores selected
          ≤ merit state.qualityScores repaired := merit_le_of_selectByQuality hselected
            ((h.mem_deliverable_iff hplan).mpr (.inr rfl))
        _ ≤ merit origin.qualityScores target := (h.merit_repaired_le_iff hplan).mpr hrank
    · calc merit state.qualityScores selected
          ≤ merit state.qualityScores other := merit_le_of_selectByQuality hselected
            ((h.mem_deliverable_iff hplan).mpr (.inl ⟨hother, hid⟩))
        _ = merit origin.qualityScores other := hkeeps hother hid
        _ = merit origin.qualityScores target := hequal

end Repaired

/-! ## Runs -/

section Runs

variable [Platform] {setup : PlanningSetup} {world : PlanningWorld} {request : PlanningRequest}
  {run : Option RunContext} {start : Position} {state : TravelState}

/-- At the start of a soft repair no id of a candidate begins another one. -/
theorem unprefixed_of_softStart (honce : AnswersOnce world)
    (hreuse : setup.overrides.fullReplan = false) (hstart : Visits setup world request run start)
    (hnode : start.node = some .applySoftRepair) :
    Unprefixed (start.state.candidates.map PlanCandidate.id) := by
  have hinvariant := snapshotInvariant_of_visits honce hreuse hstart
  rw [hnode] at hinvariant
  obtain ⟨hpaired, -, hunprefixed⟩ := hinvariant
  have haside := (softOrigin_of_visits hstart hnode).aside
  rwa [← hpaired.ids_eq, haside.candidates] at hunprefixed

/-- **What a soft repair is worth.**  A run that has started a soft repair delivers a plan that is
as good as the target of the repair, by tier and quality, if and only if the repair was rejected, or
the repaired plan is of no worse tier, or another plan was as good as the target before. -/
theorem notWorse_iff (honce : AnswersOnce world) (hreuse : setup.overrides.fullReplan = false)
    (h : runPlanning setup world request run = .ok state)
    (hstart : Visits setup world request run start)
    (hnode : start.node = some .applySoftRepair) :
    ∃ plan target selected attempt, PlanOf start.state plan target ∧
      state.selectedPlan = some selected ∧
      state.softRepairHistory = start.state.softRepairHistory ++ [attempt] ∧
      (merit state.qualityScores selected ≤ merit start.state.qualityScores target ↔
        attempt.accepted = false ∨
        (∃ repaired ∈ state.candidates, repaired.id = repairedId plan ∧
          validationRank repaired ≤ validationRank target) ∨
        ∃ other ∈ deliverableCandidates start.state, other.id ≠ target.id ∧
          merit start.state.qualityScores other = merit start.state.qualityScores target) := by
  obtain ⟨plan, target, hplan⟩ := (softOrigin_of_visits hstart hnode).planned
  obtain ⟨score, hscore⟩ := hplan.scored
  have hunprefixed := unprefixed_of_softStart honce hreuse hstart hnode
  obtain ⟨settled, hback | ⟨plan', repaired, hmerged⟩, hdeliver⟩ :=
    softSettled_of_runPlanning h hstart hnode
  · obtain ⟨attempt, hhistory, hrejected⟩ := hback.recorded
    obtain ⟨selected, hselected, hchosen⟩ := selected_of_deliverNow hdeliver
      (hback.scores ▸ size_ne_zero_of_get? hscore)
    obtain ⟨_, _, _, _, rfl⟩ := deliverNow_eq_ok hdeliver
    have hsame : selected = target := by
      rw [deliverableCandidates, hback.candidates, hback.scores] at hchosen
      exact Except.ok.inj (hchosen.symm.trans hplan.chosen)
    refine ⟨plan, target, selected, attempt, hplan, hselected, hhistory, ?_⟩
    refine iff_of_true ?_ (.inl hrejected)
    rw [hsame, show settled.qualityScores = start.state.qualityScores from hback.scores]
  · have hfinal := hmerged.deliver hdeliver
    obtain rfl : plan' = plan := Option.some.inj (hfinal.planned.symm.trans hplan.planned)
    obtain ⟨attempt, hhistory, haccepted⟩ := hfinal.recorded
    obtain ⟨before, after, -, hafter, -⟩ := hmerged.improved
    obtain ⟨selected, hselected, hchosen⟩ :=
      selected_of_deliverNow hdeliver (size_ne_zero_of_get? hafter)
    refine ⟨plan', target, selected, attempt, hplan, hselected, hhistory, ?_⟩
    rw [hfinal.merit_selected_le_iff hplan hunprefixed hchosen, haccepted]
    have hrepaired : repaired ∈ state.candidates := by
      rw [hfinal.candidates]
      exact List.mem_append_right _ List.mem_cons_self
    have honly : ∀ candidate ∈ state.candidates, candidate.id = repairedId plan' →
        candidate = repaired := by
      intro candidate hcandidate hid
      rw [hfinal.candidates, List.mem_append, List.mem_singleton, List.mem_filter] at hcandidate
      refine hcandidate.resolve_left fun hothers => ?_
      exact hfinal.id_ne hplan hunprefixed hothers.1 (hid.trans hfinal.repairedId.symm)
    constructor
    · rintro (hrank | hother)
      · exact .inr (.inl ⟨repaired, hrepaired, hfinal.repairedId, hrank⟩)
      · exact .inr (.inr hother)
    · rintro (hfalse | ⟨candidate, hcandidate, hid, hrank⟩ | hother)
      · cases hfalse
      · exact .inl (honly candidate hcandidate hid ▸ hrank)
      · exact .inr hother

omit [Platform] in
/-- A plan is taken over that the critic likes better. -/
theorem notWorse_iff_twoPlaces : ∃ state start plan target selected attempt,
    @runPlanning PlanningSample.roundPlatform PlanningSample.criticSetup
      (PlanningSample.twoPlaces 80 (Nat.le_add_left 80 20)) PlanningSample.request none =
        .ok state ∧
    PlanOf start plan target ∧ state.selectedPlan = some selected ∧
    state.softRepairHistory = start.softRepairHistory ++ [attempt] ∧ attempt.accepted = true ∧
    merit state.qualityScores selected ≤ merit start.qualityScores target := by
  let := PlanningSample.roundPlatform
  have hrun : ((runPlanning PlanningSample.criticSetup
      (PlanningSample.twoPlaces 80 (Nat.le_add_left 80 20)) PlanningSample.request
      none).toOption.map fun state => (state.softRepairHistory.map SoftRepairAttempt.accepted,
        state.candidates.map validationRank)) = some ([true], [0]) := by
    decide +kernel
  obtain ⟨state, hstate, hoked⟩ := Option.map_eq_some_iff.mp hrun
  obtain ⟨haccepted, hranks⟩ := Prod.mk.inj hoked
  have hok := eq_ok_of_mem_toOption hstate
  have honce : AnswersOnce (PlanningSample.twoPlaces 80 (Nat.le_add_left 80 20)) := by
    intro problem result hsolved
    cases hsolved
    exact List.nodup_singleton _
  obtain ⟨position, hvisits, -, rfl⟩ := exists_of_runPlanning hok
  obtain hnone | ⟨start, hstart, hnode⟩ := exists_softStart hvisits
  · rw [hnone.unrecorded] at haccepted
    cases haccepted
  · obtain ⟨plan, target, selected, attempt, hplan, hselected, hhistory, hiff⟩ :=
      notWorse_iff honce rfl hok hstart hnode
    have haccepted' : attempt.accepted = true := by
      rw [hhistory, List.map_append, List.map_singleton] at haccepted
      have hlast := congrArg List.getLast? haccepted
      rw [List.getLast?_append] at hlast
      exact Option.some.inj hlast
    refine ⟨position.state, start.state, plan, target, selected, attempt, hok, hplan, hselected,
      hhistory, haccepted', hiff.mpr (.inr (.inl ?_))⟩
    obtain ⟨settled, hback | ⟨plan', repaired, hmerged⟩, hdeliver⟩ :=
      softSettled_of_runPlanning hok hstart hnode
    · obtain ⟨rejected, hrecorded, hrejected⟩ := hback.recorded
      obtain ⟨_, _, _, _, hsame⟩ := deliverNow_eq_ok hdeliver
      have hboth : start.state.softRepairHistory ++ [attempt] =
          start.state.softRepairHistory ++ [rejected] := by
        rw [← hhistory, hsame]
        exact hrecorded
      obtain rfl := List.singleton_inj.mp (List.append_cancel_left hboth)
      rw [haccepted'] at hrejected
      cases hrejected
    · have hfinal := hmerged.deliver hdeliver
      obtain rfl : plan' = plan := Option.some.inj (hfinal.planned.symm.trans hplan.planned)
      have hrepaired : repaired ∈ position.state.candidates := by
        rw [hfinal.candidates]
        exact List.mem_append_right _ List.mem_cons_self
      have hrank : validationRank repaired = 0 :=
        List.mem_singleton.mp (hranks ▸ List.mem_map_of_mem hrepaired)
      exact ⟨repaired, hrepaired, hfinal.repairedId, hrank ▸ Nat.zero_le _⟩

end Runs

end TravelPlanAgent
