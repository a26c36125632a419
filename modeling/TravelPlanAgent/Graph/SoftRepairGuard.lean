import TravelPlanAgent.Graph.RepairGuard
import TravelPlanAgent.Library.Buckets

/-!
# What a soft repair may change

A suggestion of the critic becomes an action only when its place is scheduled on the day that it
is taken from and matches no required name.  Taking the place away leaves another one, and it is
put only on a day of the draft.

* `SafeAction`: what an accepted suggestion is; `safeAction_of_softAction`.
* `softActedOn_eq_ok`: such an action can be applied, and what it does to the days.
* `SafelyRepairs`: what a soft repair does to a draft and to the candidate made of it.
* `safelyRepairs_of_compile`: every plan that is compiled for a critique does just that.
-/

namespace TravelPlanAgent

open Calendar Selection Buckets PlanningGraph

variable [Platform]

/-! ## Accepted suggestions -/

/-- The ways in which a place may be taken from a day. -/
inductive SoftChange (dayIds : Dict Date (List String)) (fromDay : Date) :
    RepairActionKind → Option Date → Prop where
  | remove (others : 1 < dayIds.values.flatten.length) :
      SoftChange dayIds fromDay .removeOptionalPoi none
  | move (toDay : Date) (targetIds : List String) (elsewhere : toDay ≠ fromDay)
      (target : dayIds.get? toDay = some targetIds) :
      SoftChange dayIds fromDay .movePoi (some toDay)
  | reorder : SoftChange dayIds fromDay .reorderOptionalPoi (some fromDay)

/-- A place that may be taken from a day, and what becomes of it. -/
structure SafeAction (trip : TripSpec) (pois : List PlanningPOI)
    (dayIds : Dict Date (List String)) (kind : RepairActionKind) (poiId : String)
    (fromDay : Date) (toDay : Option Date) : Prop where
  optional : ∃ poi, poiById pois poiId = some poi ∧ trip.isMustVisit poi.facts.name = false
  scheduled : ∃ sourceIds, dayIds.get? fromDay = some sourceIds ∧ poiId ∈ sourceIds
  change : SoftChange dayIds fromDay kind toDay

/-- A suggestion that is accepted is safe. -/
theorem safeAction_of_softAction {trip : TripSpec} {pois : List PlanningPOI}
    {dayIds : Dict Date (List String)} {suggestion : SuggestedSoftAction}
    {kind : RepairActionKind} {poiId : String} {fromDay : Date} {toDay : Option Date}
    (h : softAction trip pois dayIds suggestion = some (kind, poiId, fromDay, toDay)) :
    SafeAction trip pois dayIds kind poiId fromDay toDay := by
  obtain ⟨poiId', hpoiId, h⟩ := Option.bind_eq_some_iff.mp h
  obtain ⟨fromDay', hfromDay, h⟩ := Option.bind_eq_some_iff.mp h
  obtain ⟨poi, hpoi, h⟩ := Option.bind_eq_some_iff.mp h
  obtain ⟨sourceIds, hsource, h⟩ := Option.bind_eq_some_iff.mp h
  dsimp only at h
  split at h
  · cases h
  next hkept =>
  rw [not_or, not_not, Bool.not_eq_true] at hkept
  have hoptional : ∃ poi, poiById pois poiId' = some poi ∧
      trip.isMustVisit poi.facts.name = false := ⟨poi, hpoi, hkept.2⟩
  have hscheduled : ∃ sourceIds, dayIds.get? fromDay' = some sourceIds ∧ poiId' ∈ sourceIds :=
    ⟨sourceIds, hsource, hkept.1⟩
  split at h
  · cases h
  · split at h
    · cases h
    next hothers =>
    split at h
    · cases h
    obtain ⟨rfl, rfl, rfl, rfl⟩ := by simpa only [Option.some.injEq, Prod.mk.injEq] using h
    exact ⟨hoptional, hscheduled, .remove (Nat.lt_of_not_le hothers)⟩
  · next hkind =>
    obtain ⟨toDay', htoDay, h⟩ := Option.bind_eq_some_iff.mp h
    obtain ⟨targetIds, htarget, h⟩ := Option.bind_eq_some_iff.mp h
    split at h
    · cases h
    split at h
    · cases h
    obtain ⟨rfl, rfl, rfl, rfl⟩ := by simpa only [Option.some.injEq, Prod.mk.injEq] using h
    -- The model of a suggestion refuses a move to the day that it starts from.
    have hvalid : suggestionValid .moveOptionalPoi suggestion.poiId suggestion.fromDay
        suggestion.toDay = true := hkind ▸ suggestion.valid
    rw [suggestionValid, decide_eq_true_eq, htoDay, hfromDay] at hvalid
    exact ⟨hoptional, hscheduled,
      .move toDay' targetIds (fun heq => hvalid.2.2.2 (congrArg some heq)) htarget⟩
  · split at h
    · cases h
    obtain ⟨rfl, rfl, rfl, rfl⟩ := by simpa only [Option.some.injEq, Prod.mk.injEq] using h
    exact ⟨hoptional, hscheduled, .reorder⟩

omit [Platform] in
/-- Some place is left. -/
theorem SoftChange.others_of_removal {dayIds : Dict Date (List String)} {fromDay : Date}
    {kind : RepairActionKind} {toDay : Option Date} (h : SoftChange dayIds fromDay kind toDay)
    (hkind : kind = .removeOptionalPoi) : 1 < dayIds.values.flatten.length := by
  cases h with
  | remove others => exact others
  | move | reorder => cases hkind

/-! ## Applying an action -/

/-- The days after an action: other days are as they were, and the places are the same but for
one that is removed. -/
structure ActedOn (dayIds after : Dict Date (List String)) (action : RepairAction)
    (fromDay : Date) : Prop where
  others : ∀ day, day ≠ fromDay → action.toDay ≠ some day → after.get? day = dayIds.get? day
  places : ∀ days : List Date, days.Nodup → (∀ day ∈ dayIds.keys, day ∈ days) →
    if action.kind = .removeOptionalPoi then
      (action.poiId :: listed after days).Perm (listed dayIds days)
    else (listed after days).Perm (listed dayIds days)

section Acting

variable {trip : TripSpec} {pois : List PlanningPOI} {dayIds : Dict Date (List String)}
  {action : RepairAction} {fromDay : Date} {sourceIds : List String}

omit [Platform] in
/-- Taking a place out of its day takes it out of the plan. -/
theorem perm_listed_erase {days : List Date} (hdays : days.Nodup) (hday : fromDay ∈ days)
    (hsource : dayIds.get? fromDay = some sourceIds) {poiId : String} (hmem : poiId ∈ sourceIds) :
    (poiId :: listed (dayIds.set fromDay (sourceIds.erase poiId)) days).Perm
      (listed dayIds days) := by
  have hset := perm_listed_set hdays hday hsource (sourceIds.erase poiId)
  have hsplit := List.perm_cons_erase hmem
  refine (List.perm_append_right_iff (sourceIds.erase poiId)).mp ?_
  calc (poiId :: listed (dayIds.set fromDay (sourceIds.erase poiId)) days) ++
        sourceIds.erase poiId
      List.Perm _ (listed (dayIds.set fromDay (sourceIds.erase poiId)) days ++
          poiId :: sourceIds.erase poiId) := List.perm_middle.symm
      List.Perm _ (listed (dayIds.set fromDay (sourceIds.erase poiId)) days ++ sourceIds) :=
        hsplit.symm.append_left _
      List.Perm _ (listed dayIds days ++ sourceIds.erase poiId) := hset

omit [Platform] in
/-- A safe action can be applied. -/
theorem softActedOn_eq_ok (hsource : dayIds.get? fromDay = some sourceIds)
    (hmem : action.poiId ∈ sourceIds)
    (hchange : SoftChange dayIds fromDay action.kind action.toDay) :
    ∃ after, softActedOn dayIds action fromDay sourceIds = .ok after ∧
      ActedOn dayIds after action fromDay := by
  have hkey : fromDay ∈ dayIds.keys := Dict.mem_keys_of_get? hsource
  unfold softActedOn
  generalize hkind : action.kind = kind at hchange
  generalize htoDay : action.toDay = toDay at hchange
  cases hchange with
  | remove others =>
    refine ⟨_, rfl, fun day hfrom _ => Dict.get?_set_of_ne _ hfrom _, fun days hdays hkeys => ?_⟩
    rw [if_pos hkind]
    exact perm_listed_erase hdays (hkeys _ hkey) hsource hmem
  | move toDay targetIds elsewhere target =>
    have hwithout : (dayIds.set fromDay (sourceIds.erase action.poiId)).get? toDay =
        some targetIds := by rw [Dict.get?_set_of_ne _ elsewhere, target]
    refine ⟨(dayIds.set fromDay (sourceIds.erase action.poiId)).set toDay
      (targetIds ++ [action.poiId]), by
        simp only [bind, Except.bind, orRaise, hwithout, pure, Except.pure],
      fun day hfrom hto => ?_, fun days hdays hkeys => ?_⟩
    · have hne : day ≠ toDay := fun heq => hto (heq ▸ htoDay)
      rw [Dict.get?_set_of_ne _ hne, Dict.get?_set_of_ne _ hfrom]
    · rw [if_neg (by rw [hkind]; decide)]
      have hput := perm_listed_set hdays (hkeys _ (Dict.mem_keys_of_get? target)) hwithout
        (targetIds ++ [action.poiId])
      have htaken := perm_listed_erase hdays (hkeys _ hkey) hsource hmem
      refine (List.perm_append_right_iff targetIds).mp (hput.trans ?_)
      calc listed (dayIds.set fromDay (sourceIds.erase action.poiId)) days ++
            (targetIds ++ [action.poiId])
          List.Perm _ (listed (dayIds.set fromDay (sourceIds.erase action.poiId)) days ++
              action.poiId :: targetIds) :=
            (List.perm_append_singleton action.poiId targetIds).append_left _
          List.Perm _ (action.poiId ::
              (listed (dayIds.set fromDay (sourceIds.erase action.poiId)) days ++ targetIds)) :=
            List.perm_middle
          List.Perm _ (listed dayIds days ++ targetIds) := htaken.append_right targetIds
  | reorder =>
    refine ⟨_, rfl, fun day hfrom _ => Dict.get?_set_of_ne _ hfrom _, fun days hdays hkeys => ?_⟩
    rw [if_neg (by rw [hkind]; decide)]
    have hset := perm_listed_set hdays (hkeys _ hkey) hsource
      (action.poiId :: sourceIds.erase action.poiId)
    exact (List.perm_append_right_iff sourceIds).mp
      (hset.trans ((List.perm_cons_erase hmem).symm.append_left _))

end Acting

/-! ## Soft repairs -/

/-- The places of a draft, day by day. -/
def CandidateDraft.poiIds (draft : CandidateDraft) : List String :=
  draft.days.flatMap DraftDay.poiIds

/-- What a soft repair does: the days that its plan does not name keep their places and are
scheduled as before, no place is lost but one that is not required, and some place is left. -/
structure SafelyRepairs (trip : TripSpec) (settings : RouteSettings) (candidate : PlanCandidate)
    (draft : CandidateDraft) (pois : List PlanningPOI) (plan : SoftRepairPlan)
    (repaired : CandidateDraft) : Prop where
  days : List.Forall₂ (fun day day' => day'.date = day.date ∧
    (day.date ∉ plan.affectedDays → day'.poiIds = day.poiIds)) draft.days repaired.days
  places : repaired.poiIds.Perm draft.poiIds ∨ ∃ poi, poiById pois poi.facts.id = some poi ∧
    trip.isMustVisit poi.facts.name = false ∧
      (poi.facts.id :: repaired.poiIds).Perm draft.poiIds
  remains : repaired.poiIds ≠ []
  preserved : ∀ routes routes' after, MaterializedFrom trip settings pois routes draft candidate →
    MaterializedFrom trip settings pois routes' repaired after →
      KeepsRoutes trip settings pois draft plan.preservedDays routes routes' →
        (∀ day ∈ candidate.days, day.date ∈ plan.preservedDays → day ∈ after.days) ∧
          requirePreserved "soft repair changed preserved day: "
            (preservedHashes candidate plan.preservedDays) after = .ok ()

section Plans

variable {trip : TripSpec} {candidate : PlanCandidate} {draft : CandidateDraft}
  {pois : List PlanningPOI}

omit [Platform] in
/-- The places of a draft are those of the dictionary of its days. -/
theorem listed_dayPoisOf (hdates : (draft.days.map DraftDay.date).Nodup) :
    listed (dayPoisOf draft) (draft.days.map DraftDay.date) = draft.poiIds := by
  rw [listed, List.flatMap_map, CandidateDraft.poiIds]
  refine List.flatMap_congr fun day hday => ?_
  rw [get?_dayPoisOf hdates hday]
  rfl

omit [Platform] in
/-- There are as many places in the dictionary as in the draft. -/
theorem length_values_dayPoisOf (hdates : (draft.days.map DraftDay.date).Nodup) :
    (dayPoisOf draft).values.flatten.length = draft.poiIds.length := by
  have hkeys : (dayPoisOf draft).keys.Perm (draft.days.map DraftDay.date) :=
    (List.perm_ext_iff_of_nodup (Dict.keys_nodup _) hdates).mpr fun _ => mem_keys_dayPoisOf
  rw [← listed_keys, (perm_listed hkeys).length_eq, listed_dayPoisOf hdates]

omit [Platform] in
/-- The places of a draft with other places on its days. -/
theorem poiIds_daysWith (id : String) (dayPois : Dict Date (List String)) :
    CandidateDraft.poiIds ⟨id, draft.style, daysWith draft dayPois⟩ =
      listed dayPois (draft.days.map DraftDay.date) := by
  rw [CandidateDraft.poiIds, daysWith, List.flatMap_map, listed, List.flatMap_map]

/-- The action of a plan that is compiled. -/
structure CompiledPlan (trip : TripSpec) (draft : CandidateDraft) (pois : List PlanningPOI)
    (plan : SoftRepairPlan) (fromDay : Date) : Prop where
  source : plan.action.fromDay = some fromDay
  safe : SafeAction trip pois (dayPoisOf draft) plan.action.kind plan.action.poiId fromDay
    plan.action.toDay
  affected : ∀ day, day ∈ plan.affectedDays ↔ day = fromDay ∨ plan.action.toDay = some day
  preserved : ∀ day, day ∈ plan.preservedDays ↔
    day ∈ draft.days.map DraftDay.date ∧ day ∉ plan.affectedDays

theorem compiledPlan_of_compile {critique : SoftCritique} {repairRound : ℕ}
    {plan : SoftRepairPlan} {reason : Option String}
    (h : compileSoftRepairPlan trip candidate draft pois critique repairRound =
      (some plan, reason)) : ∃ fromDay, CompiledPlan trip draft pois plan fromDay := by
  unfold compileSoftRepairPlan at h
  split at h
  · cases h
  split at h
  · next found hfound =>
    obtain rfl := Option.some.inj (Prod.mk.inj h).1
    obtain ⟨dimension, -, hdimension⟩ := List.exists_of_findSome?_eq_some hfound
    obtain ⟨suggestion, -, hdimension⟩ := Option.bind_eq_some_iff.mp hdimension
    obtain ⟨⟨kind, poiId, fromDay, toDay⟩, hchosen, hdimension⟩ :=
      Option.bind_eq_some_iff.mp hdimension
    obtain rfl := Option.some.inj hdimension
    refine ⟨fromDay, rfl, safeAction_of_softAction hchosen, fun day => ?_, fun day => ?_⟩
    · change day ∈ sortedSet (fromDay :: toDay.toList) ↔ _
      rw [mem_sortedSet, List.mem_cons, Option.mem_toList]
    · change day ∈ List.filter _ _ ↔ _
      rw [List.mem_filter, decide_eq_true_eq]
  · cases h

/-- **A soft repair is a safe local change.**  Every plan that is compiled for a critique can be
applied to the draft that it was compiled for. -/
theorem safelyRepairs_of_compile {settings : RouteSettings} {critique : SoftCritique}
    {repairRound : ℕ} {plan : SoftRepairPlan} {reason : Option String}
    (hdates : (draft.days.map DraftDay.date).Nodup)
    (h : compileSoftRepairPlan trip candidate draft pois critique repairRound =
      (some plan, reason)) :
    ∃ repaired, applySoftRepair draft plan = .ok repaired ∧
      SafelyRepairs trip settings candidate draft pois plan repaired := by
  obtain ⟨fromDay, hplan⟩ := compiledPlan_of_compile h
  obtain ⟨sourceIds, hsource, hmem⟩ := hplan.safe.scheduled
  obtain ⟨after, hafter, hacted⟩ := softActedOn_eq_ok hsource hmem hplan.safe.change
  have happly : applySoftRepair draft plan = .ok
      ⟨draft.id ++ "-soft-r" ++ toString plan.round, draft.style, daysWith draft after⟩ := by
    unfold applySoftRepair
    simp only [bind, Except.bind, hplan.source, orRaise, hsource, Option.getD_some, require,
      if_pos hmem, hafter]
    rfl
  refine ⟨_, happly, ?_⟩
  have hkeys : ∀ day ∈ (dayPoisOf draft).keys, day ∈ draft.days.map DraftDay.date :=
    fun day hday => mem_keys_dayPoisOf.mp hday
  have hold : listed (dayPoisOf draft) (draft.days.map DraftDay.date) = draft.poiIds :=
    listed_dayPoisOf hdates
  have hplaces := hacted.places _ hdates hkeys
  rw [hold, ← poiIds_daysWith (draft.id ++ "-soft-r" ++ toString plan.round)] at hplaces
  have hothers : ∀ day ∈ draft.days, day.date ∉ plan.affectedDays →
      (after.get? day.date).getD [] = day.poiIds := by
    intro day hday hnot
    rw [hplan.affected, not_or] at hnot
    rw [hacted.others day.date hnot.1 hnot.2, get?_dayPoisOf hdates hday]
    rfl
  have hdays : (daysWith draft after).map DraftDay.date = draft.days.map DraftDay.date := by
    rw [daysWith, List.map_map]
    rfl
  have hscheduled : plan.action.poiId ∈ draft.poiIds := by
    rw [← hold]
    exact List.mem_flatMap.mpr
      ⟨fromDay, hkeys _ (Dict.mem_keys_of_get? hsource), by rw [hsource]; exact hmem⟩
  refine ⟨?_, ?_, fun hempty => ?_, fun routes routes' planned hcandidate hplanned hroutes => ?_⟩
  · change List.Forall₂ _ draft.days (daysWith draft after)
    rw [daysWith, List.forall₂_map_right_iff]
    exact List.forall₂_same.mpr fun day hday => ⟨rfl, hothers day hday⟩
  · split at hplaces
    · obtain ⟨poi, hpoi, hoptional⟩ := hplan.safe.optional
      rw [← facts_id_of_poiById hpoi] at hplaces hpoi
      exact .inr ⟨poi, hpoi, hoptional, hplaces⟩
    · exact .inl hplaces
  · change CandidateDraft.poiIds ⟨_, draft.style, daysWith draft after⟩ = [] at hempty
    rw [hempty] at hplaces
    split at hplaces
    · next hkind =>
      have hothers := hplan.safe.change.others_of_removal hkind
      rw [length_values_dayPoisOf hdates, ← hplaces.length_eq] at hothers
      exact absurd hothers (lt_irrefl 1)
    · exact absurd (hplaces.mem_iff.mpr hscheduled) List.not_mem_nil
  · have hkept : ∀ day ∈ draft.days, day.date ∈ plan.preservedDays →
        day ∈ daysWith draft after := by
      intro day hday hpreserved
      refine List.mem_map.mpr ⟨day, hday, ?_⟩
      rw [hothers day hday ((hplan.preserved _).mp hpreserved).2]
    have hsame : ∀ day ∈ candidate.days, day.date ∈ plan.preservedDays → day ∈ planned.days :=
      fun day hday => mem_days_of_keepsRoutes hdates hcandidate hplanned hroutes hkept hday
    refine ⟨hsame, requirePreserved_of_days ?_ hsame⟩
    rw [hplanned.follows.dates]
    exact hdays ▸ hdates

end Plans

namespace Sample

omit [Platform]

/-- Move the place of the second day to the first. -/
def moveToFirstDay : SuggestedSoftAction :=
  ⟨.moveOptionalPoi, some "c", some day2, some day1, ["ev_1"], some .pace, by decide +kernel⟩

/-- A critique whose worst dimension suggests this action. -/
def critiqueWith (suggestion : SuggestedSoftAction) : SoftCritique :=
  { candidateId := "balanced-r0"
    dimensions := [⟨.diversity, 80, "diverse", ["ev_1"], none, by decide, by decide⟩,
      ⟨.pace, 40, "uneven", ["ev_1"], some suggestion, by decide, by decide⟩]
    overallSummary := "uneven", tradeoffEvidenceIds := []
    dimensions_bounds := by simp
    tradeoffEvidenceIds_le := by decide }

end Sample

omit [Platform] in
/-- The place of the second day is moved to the first. -/
theorem safelyRepairs_of_compile_move :
    ∃ candidate plan repaired,
      @materializeCandidate plainPlatform Sample.trip Sample.settings Sample.pois Sample.routes
        Sample.draft = .ok candidate ∧
      @compileSoftRepairPlan plainPlatform Sample.trip candidate Sample.draft Sample.pois
        (Sample.critiqueWith Sample.moveToFirstDay) 1 = (some plan, none) ∧
      applySoftRepair Sample.draft plan = .ok repaired ∧
      @SafelyRepairs plainPlatform Sample.trip Sample.settings candidate Sample.draft Sample.pois
        plan repaired := by
  let := plainPlatform
  have hrun : okAnd (materializeCandidate Sample.trip Sample.settings Sample.pois Sample.routes
      Sample.draft) (fun candidate => (compileSoftRepairPlan Sample.trip candidate Sample.draft
        Sample.pois (Sample.critiqueWith Sample.moveToFirstDay) 1).1.isSome) = true := by
    decide +kernel
  obtain ⟨candidate, hcandidate, hplan⟩ := okAnd_eq_true hrun
  obtain ⟨plan, hplan⟩ := Option.isSome_iff_exists.mp hplan
  obtain ⟨reason, hcompiled⟩ : ∃ reason, compileSoftRepairPlan Sample.trip candidate Sample.draft
      Sample.pois (Sample.critiqueWith Sample.moveToFirstDay) 1 = (some plan, reason) :=
    ⟨_, Prod.ext hplan rfl⟩
  obtain ⟨-, -, rfl⟩ := compileSoftRepairPlan_some hcompiled
  obtain ⟨repaired, happly, hsafe⟩ : ∃ repaired, applySoftRepair Sample.draft plan = .ok repaired ∧
      SafelyRepairs Sample.trip Sample.settings candidate Sample.draft Sample.pois plan repaired :=
    safelyRepairs_of_compile (by decide +kernel) hcompiled
  exact ⟨candidate, plan, repaired, hcandidate, hcompiled, happly, hsafe⟩

end TravelPlanAgent
