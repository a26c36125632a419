import TravelPlanAgent.Planning.RepairedDraft
import Mathlib.Data.List.Pairwise

/-!
# What survives a repair

However the actions of a plan are combined, the repaired draft has the dates of the draft, no
place twice, only known places, and every required place that the draft had.

* `nodup_revisedDays`, `mem_of_mem_revisedDays`, `stands_revisedDays`: one invariant for each of
  them, from one action to a list of actions.
* `not_removed_of_required`: no generator removes a required place.
* `repaired_wellFormed`: the repaired draft.
-/

namespace TravelPlanAgent

open Calendar Selection

/-! ## Invariants of the days -/

section Invariants

variable {days : List DraftDay}

/-- A place that is on no day twice is on one day only. -/
theorem day_unique (h : (days.flatMap DraftDay.poiIds).Nodup) {day day' : DraftDay}
    (hday : day ∈ days) (hday' : day' ∈ days) {poiId : String} (hmem : poiId ∈ day.poiIds)
    (hmem' : poiId ∈ day'.poiIds) : day = day' := by
  by_contra hne
  have hsymm : Std.Symm (Function.onFun List.Disjoint DraftDay.poiIds) :=
    ⟨fun _ _ hab => List.Disjoint.symm hab⟩
  exact (List.nodup_flatMap.mp h).2.forall hday hday' hne hmem hmem'

/-- One action leaves no place twice. -/
theorem nodup_map_reviseDay (action : RepairAction) (hdates : (days.map DraftDay.date).Nodup)
    (h : (days.flatMap DraftDay.poiIds).Nodup) :
    ((days.map action.reviseDay).flatMap DraftDay.poiIds).Nodup := by
  rw [List.flatMap_map]
  obtain ⟨hdays, hdisjoint⟩ := List.nodup_flatMap.mp h
  have hdates := List.pairwise_map.mp hdates
  refine List.nodup_flatMap.mpr ⟨fun day hday => ?_, ?_⟩
  · change (action.revise day.date day.poiIds).Nodup
    by_cases hkind : action.kind = .removeOptionalPoi
    · rw [revise_of_removal hkind]
      split
      · exact (hdays day hday).filter _
      · exact hdays day hday
    · rw [revise_of_insertion hkind]
      split
      · refine List.nodup_cons.mpr ⟨fun hmem => ?_, (hdays day hday).filter _⟩
        exact of_decide_eq_true (List.mem_filter.mp hmem).2 rfl
      · exact (hdays day hday).filter _
  · refine (hdisjoint.and hdates).imp fun {a b} hab => ?_
    intro poiId ha hb
    replace ha : poiId ∈ action.revise a.date a.poiIds := ha
    replace hb : poiId ∈ action.revise b.date b.poiIds := hb
    by_cases hkind : action.kind = .removeOptionalPoi
    · rw [mem_revise_of_removal hkind] at ha hb
      exact hab.1 ha.1 hb.1
    · rw [mem_revise_of_insertion hkind] at ha hb
      rcases ha with ⟨ha, rfl⟩ | ⟨ha, hne⟩ <;> rcases hb with ⟨hb, heq⟩ | ⟨hb, hne'⟩
      · exact hab.2 (Option.some.inj (ha.symm.trans hb))
      · exact hne' rfl
      · exact hne heq
      · exact hab.1 ha hb

/-- A list of actions leaves no place twice. -/
theorem nodup_revisedDays (actions : List RepairAction)
    (hdates : (days.map DraftDay.date).Nodup) (h : (days.flatMap DraftDay.poiIds).Nodup) :
    ((revisedDays actions days).flatMap DraftDay.poiIds).Nodup := by
  induction actions generalizing days with
  | nil => rwa [revisedDays_nil]
  | cons action rest ih =>
    rw [revisedDays_cons]
    refine ih ?_ (nodup_map_reviseDay action hdates h)
    rw [List.map_map]
    exact hdates

/-- What stands on the days after a list of actions stood there or was inserted. -/
theorem mem_of_mem_revisedDays {actions : List RepairAction} {day : DraftDay} {poiId : String}
    (hday : day ∈ revisedDays actions days) (hpoiId : poiId ∈ day.poiIds) :
    (∃ old ∈ days, old.date = day.date ∧ poiId ∈ old.poiIds) ∨
      ∃ action ∈ actions, action.kind ≠ .removeOptionalPoi ∧ action.toDay = some day.date ∧
        action.poiId = poiId := by
  induction actions generalizing days with
  | nil =>
    rw [revisedDays_nil] at hday
    exact .inl ⟨day, hday, rfl, hpoiId⟩
  | cons action rest ih =>
    rw [revisedDays_cons] at hday
    rcases ih hday with ⟨old, hold, hdate, hmem⟩ | ⟨other, hother, hrest⟩
    · obtain ⟨older, holder, rfl⟩ := List.mem_map.mp hold
      replace hmem : poiId ∈ action.revise older.date older.poiIds := hmem
      by_cases hkind : action.kind = .removeOptionalPoi
      · rw [mem_revise_of_removal hkind] at hmem
        exact .inl ⟨older, holder, hdate, hmem.1⟩
      · rw [mem_revise_of_insertion hkind] at hmem
        rcases hmem with ⟨hto, rfl⟩ | ⟨hmem, -⟩
        · exact .inr ⟨action, List.mem_cons_self, hkind, hdate ▸ hto, rfl⟩
        · exact .inl ⟨older, holder, hdate, hmem⟩
    · exact .inr ⟨other, List.mem_cons_of_mem _ hother, hrest⟩

/-- An action takes a place out of a day. -/
def RepairAction.TakesOut (action : RepairAction) (poiId : String) (day : Date) : Prop :=
  action.poiId = poiId ∧ (action.kind = .removeOptionalPoi → action.fromDay = some day)

/-- A place that is taken out of a day, and put back by no action, is gone. -/
theorem not_mem_reviseAll {actions : List RepairAction} {day : Date} {poiIds : List String}
    {poiId : String}
    (hgone : poiId ∈ poiIds → ∃ action ∈ actions, action.TakesOut poiId day)
    (hnever : ∀ action ∈ actions, action.kind ≠ .removeOptionalPoi → action.poiId = poiId →
      action.toDay ≠ some day) : poiId ∉ reviseAll actions day poiIds := by
  induction actions generalizing poiIds with
  | nil =>
    intro hmem
    obtain ⟨action, haction, -⟩ := hgone hmem
    exact absurd haction List.not_mem_nil
  | cons first rest ih =>
    obtain ⟨hfirst, hrest⟩ := List.forall_mem_cons.mp hnever
    change poiId ∉ reviseAll rest day (first.revise day poiIds)
    refine ih (fun hmem => ?_) hrest
    -- What still stands after the first action stood before, and another action takes it.
    have hstays : poiId ∈ poiIds ∧ ¬ first.TakesOut poiId day := by
      by_cases hkind : first.kind = .removeOptionalPoi
      · obtain ⟨hmem, hother⟩ := (mem_revise_of_removal hkind).mp hmem
        exact ⟨hmem, fun htakes => hother (htakes.2 hkind) htakes.1.symm⟩
      · rcases (mem_revise_of_insertion hkind).mp hmem with ⟨hto, heq⟩ | ⟨hmem, hne⟩
        · exact absurd hto (hfirst hkind heq.symm)
        · exact ⟨hmem, fun htakes => hne htakes.1.symm⟩
    obtain ⟨action, haction, htakes⟩ := hgone hstays.1
    rcases List.mem_cons.mp haction with rfl | haction
    · exact absurd htakes hstays.2
    · exact ⟨action, haction, htakes⟩

/-- A day that no action reaches keeps its places. -/
theorem reviseAll_eq_self {actions : List RepairAction} {day : Date} {poiIds : List String}
    (hfrom : ∀ action ∈ actions, action.kind = .removeOptionalPoi → action.fromDay ≠ some day)
    (hto : ∀ action ∈ actions, action.kind ≠ .removeOptionalPoi → action.toDay ≠ some day)
    (hplaces : ∀ action ∈ actions, action.kind ≠ .removeOptionalPoi → action.poiId ∉ poiIds) :
    reviseAll actions day poiIds = poiIds := by
  induction actions with
  | nil => rfl
  | cons first rest ih =>
    obtain ⟨hfrom, hfromRest⟩ := List.forall_mem_cons.mp hfrom
    obtain ⟨hto, htoRest⟩ := List.forall_mem_cons.mp hto
    obtain ⟨hplace, hplaceRest⟩ := List.forall_mem_cons.mp hplaces
    have hfirst : first.revise day poiIds = poiIds := by
      by_cases hkind : first.kind = .removeOptionalPoi
      · rw [revise_of_removal hkind, if_neg (hfrom hkind)]
      · rw [revise_of_insertion hkind, if_neg (hto hkind), List.nil_append, List.filter_eq_self]
        intro poiId hmem
        exact decide_eq_true fun heq => hplace hkind (heq ▸ hmem)
    change reviseAll rest day (first.revise day poiIds) = poiIds
    rw [hfirst]
    exact ih hfromRest htoRest hplaceRest

/-- A place that no action removes stays somewhere, when all targets are days. -/
theorem stands_revisedDays {actions : List RepairAction} {poiId : String}
    (htargets : ∀ action ∈ actions, action.kind ≠ .removeOptionalPoi →
      ∃ day ∈ days, action.toDay = some day.date)
    (hkept : ∀ action ∈ actions, action.kind = .removeOptionalPoi → action.poiId ≠ poiId)
    (h : ∃ day ∈ days, poiId ∈ day.poiIds) :
    ∃ day ∈ revisedDays actions days, poiId ∈ day.poiIds := by
  induction actions generalizing days with
  | nil => rwa [revisedDays_nil]
  | cons action rest ih =>
    obtain ⟨htarget, htargets⟩ := List.forall_mem_cons.mp htargets
    obtain ⟨hkeeps, hkept⟩ := List.forall_mem_cons.mp hkept
    rw [revisedDays_cons]
    refine ih (fun other hother hkind => ?_) hkept ?_
    · obtain ⟨day, hday, hto⟩ := htargets other hother hkind
      exact ⟨action.reviseDay day, List.mem_map_of_mem hday, hto⟩
    · by_cases hkind : action.kind = .removeOptionalPoi
      · obtain ⟨day, hday, hmem⟩ := h
        exact ⟨action.reviseDay day, List.mem_map_of_mem hday,
          mem_revise_of_ne hmem (hkeeps hkind).symm⟩
      · by_cases hsame : poiId = action.poiId
        · obtain ⟨day, hday, hto⟩ := htarget hkind
          exact ⟨action.reviseDay day, List.mem_map_of_mem hday,
            (mem_revise_of_insertion hkind).mpr (.inl ⟨hto, hsame⟩)⟩
        · obtain ⟨day, hday, hmem⟩ := h
          exact ⟨action.reviseDay day, List.mem_map_of_mem hday, mem_revise_of_ne hmem hsame⟩

end Invariants

/-! ## Repaired drafts -/

/-- An action names a day as its origin or its target. -/
def RepairAction.Names (action : RepairAction) (day : Date) : Prop :=
  action.fromDay = some day ∨ action.toDay = some day

theorem names_of_landsOn {action : RepairAction} {day : Date} (h : day ∈ action.landsOn) :
    action.Names day := by
  unfold RepairAction.landsOn at h
  split at h
  · exact .inl h
  · exact .inr h

variable [Platform]

section Repaired

variable {trip : TripSpec} {candidate : PlanCandidate} {draft : CandidateDraft}
  {pois : List PlanningPOI} {plan : RepairPlan}

omit [Platform] in
/-- A place that an action of a materialised candidate comes from is on that day of the draft. -/
theorem FollowsDraft.stands (hfollows : FollowsDraft pois draft candidate) {poiId : String}
    {day : Date} (h : StandsOn candidate draft poiId day) :
    ∃ draftDay ∈ draft.days, draftDay.date = day ∧ poiId ∈ draftDay.poiIds := by
  rcases h with h | ⟨item, hscheduled, hpoiId⟩
  · exact h
  · obtain ⟨poi, hvisit, draftDay, hdraftDay, hdate, hmem⟩ := hfollows.visit hscheduled
    rw [hvisit.poiId, Option.some.injEq] at hpoiId
    exact ⟨draftDay, hdraftDay, hdate, hpoiId ▸ hmem⟩

/-- The days that an action of a materialised candidate names are days of the draft. -/
theorem FollowsDraft.date_of_names (hfollows : FollowsDraft pois draft candidate)
    {violation : Violation} {action : RepairAction}
    (haction : action ∈ actionsForViolation trip candidate draft pois violation) {day : Date}
    (hnames : action.Names day) : day ∈ draft.days.map DraftDay.date := by
  rcases hnames with hfrom | hto
  · obtain ⟨draftDay, hdraftDay, rfl, -⟩ :=
      hfollows.stands ((standsOn_fromDay haction).1 day hfrom)
    exact List.mem_map_of_mem hdraftDay
  · rcases repairs_of_mem_actionsForViolation haction with ⟨entry, hentry⟩ | hinserts
    · rw [hentry.toDay] at hto
      exact nomatch hto
    · obtain ⟨draftDay, hdraftDay, htarget⟩ := hinserts.target
      rw [htarget, Option.some.injEq] at hto
      exact hto ▸ List.mem_map_of_mem hdraftDay

/-- The days of the repaired draft are those of the draft, revised. -/
theorem days_of_applyRepairPlan {settings : RouteSettings} {repaired : CandidateDraft}
    {applied : RepairPlan} (hdates : (draft.days.map DraftDay.date).Nodup)
    (h : applyRepairPlan trip draft pois plan settings = .ok (repaired, applied)) :
    repaired.days = revisedDays plan.actions draft.days := by
  obtain ⟨dayPois, hdayPois, h⟩ := bind_eq_ok h
  obtain ⟨-, -, h⟩ := bind_eq_ok h
  obtain ⟨keys, -, h⟩ := bind_eq_ok h
  cases h
  exact daysWith_foldlM hdates hdayPois

/-- A plan whose actions land on days of the draft, insert known places and change something can
be applied. -/
theorem applyRepairPlan_exists (trip : TripSpec) (settings : RouteSettings)
    (hdates : (draft.days.map DraftDay.date).Nodup) (hknown : KnowsDraft pois draft)
    (hlands : ∀ action ∈ plan.actions, ∀ day ∈ action.landsOn,
      day ∈ draft.days.map DraftDay.date)
    (hplaces : ∀ action ∈ plan.actions, action.kind ≠ .removeOptionalPoi →
      (poiById pois action.poiId).isSome)
    (hchanged : revisedDays plan.actions draft.days ≠ draft.days) :
    ∃ repaired applied,
      applyRepairPlan trip draft pois plan settings = .ok (repaired, applied) := by
  have hkeys : ∀ action ∈ plan.actions, ∀ day ∈ action.landsOn, day ∈ (dayPoisOf draft).keys :=
    fun action haction day hday => mem_keys_dayPoisOf.mpr (hlands action haction day hday)
  obtain ⟨dayPois, hdayPois⟩ := foldlM_applyRepairAction_exists hkeys
  have hdays := daysWith_foldlM hdates hdayPois
  set repaired : CandidateDraft :=
    { id := draft.id ++ "-repair-r" ++ toString plan.round, style := draft.style
      days := daysWith draft dayPois } with hrepaired
  have hknown' : KnowsDraft pois repaired := by
    intro day hday poiId hpoiId
    rw [hrepaired, hdays] at hday
    rcases mem_of_mem_revisedDays hday hpoiId with
      ⟨old, hold, -, hmem⟩ | ⟨action, haction, hkind, -, rfl⟩
    · exact hknown old hold poiId hmem
    · exact hplaces action haction hkind
  obtain ⟨before, hbefore⟩ := collectRouteQueries_exists trip settings hknown
  obtain ⟨after, hafter⟩ := collectRouteQueries_exists trip settings hknown'
  have hrequire : require (daysWith draft dayPois ≠ draft.days)
      (.valueError "repair plan did not change candidate draft") = .ok () :=
    require_eq_ok_iff.mpr (hdays ▸ hchanged)
  obtain ⟨keys, hkeys⟩ : ∃ keys,
      invalidatedRouteKeys trip draft repaired pois settings = .ok keys := by
    refine ⟨sortedSet ((before.map routeKey).filter fun key =>
      decide (key ∉ after.map routeKey)), ?_⟩
    rw [invalidatedRouteKeys, hbefore]
    change (collectRouteQueries trip [repaired] pois settings >>= _) = _
    rw [hafter]
    rfl
  refine ⟨repaired, { plan with invalidatedRouteKeys := keys }, ?_⟩
  rw [applyRepairPlan, hdayPois]
  change (require (daysWith draft dayPois ≠ draft.days) _ >>= fun _ =>
    invalidatedRouteKeys trip draft repaired pois settings >>= _) = _
  rw [hrequire]
  change (invalidatedRouteKeys trip draft repaired pois settings >>= _) = _
  rw [hkeys]
  rfl

/-- The places that a plan inserts are known. -/
theorem BuiltFrom.knownPlace (h : BuiltFrom trip candidate draft pois plan)
    {action : RepairAction} (haction : action ∈ plan.actions)
    (hkind : action.kind ≠ .removeOptionalPoi) : (poiById pois action.poiId).isSome := by
  obtain ⟨violation, -, ⟨entry, hentry⟩ | hinserts⟩ := h.repairs haction
  · exact absurd hentry.kind hkind
  · obtain ⟨poi, hpoi, hid, -⟩ := hinserts.place
    rw [poiById, lastWith, List.find?_isSome]
    exact ⟨poi, List.mem_reverse.mpr hpoi, decide_eq_true hid⟩

omit [Platform] in
/-- With distinct ids a place is found under its id. -/
theorem poiById_of_mem (hids : (pois.map fun poi => poi.facts.id).Nodup) {poi : PlanningPOI}
    (hpoi : poi ∈ pois) : poiById pois poi.facts.id = some poi := by
  refine lastWith_eq_some_of_unique hpoi (decide_eq_true rfl) fun other hother heq => ?_
  exact List.inj_on_of_nodup_map hids hother hpoi (of_decide_eq_true heq)

/-- No generator removes a required place. -/
theorem not_removed_of_required (hfollows : FollowsDraft pois draft candidate)
    (hbuilt : BuiltFrom trip candidate draft pois plan) {poi : PlanningPOI}
    (hpoi : poiById pois poi.facts.id = some poi) (hrequired : isRequiredPoi trip poi = true)
    {action : RepairAction} (haction : action ∈ plan.actions)
    (hkind : action.kind = .removeOptionalPoi) : action.poiId ≠ poi.facts.id := by
  intro hid
  obtain ⟨violation, -, ⟨entry, hentry⟩ | hinserts⟩ := hbuilt.repairs haction
  · obtain ⟨visited, hvisit, -⟩ := hfollows.visit hentry.scheduled
    have hpoiId := hentry.poiId
    rw [hvisit.poiId, Option.some.injEq, hid] at hpoiId
    have hknown := hvisit.known
    rw [hpoiId, hpoi, Option.some.injEq] at hknown
    have hoptional := hentry.optional
    rw [hvisit.name, ← hknown] at hoptional
    exact Bool.false_ne_true (hoptional.symm.trans hrequired)
  · exact hinserts.kind hkind

/-- **Repairs keep a draft well formed and keep required places.** -/
theorem repaired_wellFormed {settings settings' : RouteSettings} {routes : Routes}
    {report : CriticReport} {repairRound : ℕ} {reason : Option String}
    {repaired : CandidateDraft} {applied : RepairPlan}
    (hdates : (draft.days.map DraftDay.date).Nodup)
    (hdistinct : (draft.days.flatMap DraftDay.poiIds).Nodup)
    (hids : (pois.map fun poi => poi.facts.id).Nodup)
    (hcandidate : MaterializedFrom trip settings pois routes draft candidate)
    (hplan : buildRepairPlan trip candidate draft pois report repairRound = (some plan, reason))
    (happly : applyRepairPlan trip draft pois plan settings' = .ok (repaired, applied)) :
    repaired.days.map DraftDay.date = draft.days.map DraftDay.date ∧
      (repaired.days.flatMap DraftDay.poiIds).Nodup ∧
      (∀ day ∈ repaired.days, ∀ poiId ∈ day.poiIds, ∃ poi ∈ pois, poi.facts.id = poiId) ∧
      ∀ day ∈ draft.days, ∀ poi ∈ pois, poi.facts.id ∈ day.poiIds →
        isRequiredPoi trip poi = true →
          ∃ day' ∈ repaired.days, poi.facts.id ∈ day'.poiIds := by
  obtain ⟨hbuilt, -⟩ := builtFrom_of_buildRepairPlan hplan
  have htargets : ∀ action ∈ plan.actions, action.kind ≠ .removeOptionalPoi →
      InsertsPlace trip candidate draft pois action.sourceViolationType action := by
    intro action haction hkind
    obtain ⟨violation, -, ⟨entry, hentry⟩ | hinserts⟩ := hbuilt.repairs haction
    · exact absurd hentry.kind hkind
    · exact hinserts.source ▸ hinserts
  rw [days_of_applyRepairPlan hdates happly]
  refine ⟨dates_revisedDays _ _, nodup_revisedDays _ hdates hdistinct,
    fun day hday poiId hpoiId => ?_, fun day hday poi hpoi hmem hrequired => ?_⟩
  · rcases mem_of_mem_revisedDays hday hpoiId with
      ⟨old, hold, -, hmem⟩ | ⟨action, haction, hkind, -, rfl⟩
    · obtain ⟨poi, hpoi⟩ := Option.isSome_iff_exists.mp (hcandidate.known old hold poiId hmem)
      exact ⟨poi, mem_of_poiById hpoi, facts_id_of_poiById hpoi⟩
    · obtain ⟨poi, hpoi, hid, -⟩ := (htargets action haction hkind).place
      exact ⟨poi, hpoi, hid⟩
  · refine stands_revisedDays (fun action haction hkind => (htargets action haction hkind).target)
      (fun action haction hkind => ?_) ⟨day, hday, hmem⟩
    exact not_removed_of_required hcandidate.follows hbuilt (poiById_of_mem hids hpoi) hrequired
      haction hkind

end Repaired

/-! ## A round of repair -/

/-- Materialise a draft, validate the candidate and plan a repair. -/
def plannedRepair (trip : TripSpec) (pois : List PlanningPOI) (routes : Routes)
    (settings : RouteSettings) (draft : CandidateDraft) :
    Result (PlanCandidate × RepairPlan) := do
  let planned ← materializeCandidate trip settings pois routes draft
  let candidate := { planned with validation := some (validateCandidate trip planned pois) }
  let plan ← orRaise (buildRepairPlan trip candidate draft pois
    (analyzeCandidate trip candidate pois) 1).1 .keyError
  return (candidate, plan)

/-- And apply it. -/
def repairRound (trip : TripSpec) (pois : List PlanningPOI) (routes : Routes)
    (settings : RouteSettings) (draft : CandidateDraft) :
    Result (PlanCandidate × RepairPlan × CandidateDraft × RepairPlan) := do
  let (candidate, plan) ← plannedRepair trip pois routes settings draft
  let (repaired, applied) ← applyRepairPlan trip draft pois plan settings
  return (candidate, plan, repaired, applied)

section Round

variable {trip : TripSpec} {pois : List PlanningPOI} {routes : Routes} {settings : RouteSettings}
  {draft repaired : CandidateDraft} {candidate : PlanCandidate} {plan applied : RepairPlan}

theorem buildRepairPlan_of_fst {report : CriticReport} {round : ℕ}
    (h : (buildRepairPlan trip candidate draft pois report round).1 = some plan) :
    buildRepairPlan trip candidate draft pois report round = (some plan, none) := by
  cases hbuilt : buildRepairPlan trip candidate draft pois report round with
  | mk first reason =>
    rw [hbuilt] at h
    obtain rfl : first = some plan := h
    obtain ⟨-, -, rfl⟩ := buildRepairPlan_some hbuilt
    rfl

theorem plannedRepair_eq_ok (hknown : KnowsDraft pois draft)
    (h : plannedRepair trip pois routes settings draft = .ok (candidate, plan)) :
    MaterializedFrom trip settings pois routes draft candidate ∧
      candidate.validation =
        some (validateCandidate trip { candidate with validation := none } pois) ∧
      buildRepairPlan trip candidate draft pois (analyzeCandidate trip candidate pois) 1 =
        (some plan, none) := by
  obtain ⟨planned, hplanned, h⟩ := bind_eq_ok h
  obtain ⟨plan', hplan, h⟩ := bind_eq_ok h
  cases h
  have hnone : { planned with validation := none } = planned := by
    obtain ⟨days, -, hcandidate⟩ := bind_eq_ok hplanned
    cases hcandidate
    rfl
  refine ⟨⟨hknown, ?_⟩, ?_, buildRepairPlan_of_fst (orRaise_eq_ok hplan)⟩
  · rw [hplanned]
    exact congrArg Except.ok hnone.symm
  · exact congrArg (fun candidate => some (validateCandidate trip candidate pois)) hnone.symm

theorem repairRound_eq_ok
    (h : repairRound trip pois routes settings draft = .ok (candidate, plan, repaired, applied)) :
    plannedRepair trip pois routes settings draft = .ok (candidate, plan) ∧
      applyRepairPlan trip draft pois plan settings = .ok (repaired, applied) := by
  obtain ⟨⟨candidate', plan'⟩, hplanned, h⟩ := bind_eq_ok h
  obtain ⟨⟨repaired', applied'⟩, happly, h⟩ := bind_eq_ok h
  cases h
  exact ⟨hplanned, happly⟩

end Round

namespace Sample

/-- The trip on a budget of ten that has to visit `b`. -/
def guidedTrip : TripSpec := { cheapTrip with mustVisit := ["b"] }

def guidedPois : List PlanningPOI := [dearPoi, poi "b" 2 60]

def guidedDraft : CandidateDraft :=
  ⟨"balanced-r0", .balanced, [⟨day1, ["a", "b"]⟩, ⟨day2, []⟩]⟩

def guidedRoutes : Routes := @routesFor plainPlatform [guidedDraft] guidedPois settings

end Sample

omit [Platform] in
/-- The dear place is removed, the required one stays. -/
theorem repaired_wellFormed_sample :
    ∃ candidate plan repaired applied,
      @repairRound plainPlatform Sample.guidedTrip Sample.guidedPois Sample.guidedRoutes
        Sample.settings Sample.guidedDraft = .ok (candidate, plan, repaired, applied) ∧
      (repaired.days.flatMap DraftDay.poiIds).Nodup ∧
      ∃ day ∈ repaired.days, "b" ∈ day.poiIds := by
  let := plainPlatform
  have hrun : okAnd (repairRound Sample.guidedTrip Sample.guidedPois Sample.guidedRoutes
      Sample.settings Sample.guidedDraft) (fun _ => true) = true := by decide +kernel
  obtain ⟨⟨candidate, plan, repaired, applied⟩, hround, -⟩ := okAnd_eq_true hrun
  obtain ⟨hplanned, happly⟩ := repairRound_eq_ok hround
  obtain ⟨hcandidate, -, hplan⟩ := plannedRepair_eq_ok (by decide +kernel) hplanned
  obtain ⟨-, hnodup, -, hkept⟩ := repaired_wellFormed (by decide +kernel) (by decide +kernel)
    (by decide +kernel) hcandidate hplan happly
  exact ⟨candidate, plan, repaired, applied, hround, hnodup,
    hkept ⟨Sample.day1, ["a", "b"]⟩ (by decide) (Sample.poi "b" 2 60) (by decide +kernel)
      (by decide) (by decide +kernel)⟩

end TravelPlanAgent
