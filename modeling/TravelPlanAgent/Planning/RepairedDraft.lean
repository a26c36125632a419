import TravelPlanAgent.Planning.Removals

/-!
# What a repair plan does to a draft

Day by day, a removal takes its place out of the day that it names; every other action takes its
place out of all days and puts it first on its target day.

* `RepairAction.revise`, `reviseAll`: what an action, and a list of actions, does to one day.
* `applyRepairAction_eq_ok`, `daysWith_foldlM`: the dictionary of days is revised day by day.
* `foldlM_applyRepairAction_exists`: actions that name days of the draft can be applied.
* `Repairs`: what the generators make for a candidate and its draft.
* `repairs_of_mem_actionsForViolation`, `repairs_of_buildRepairPlan`: every action is like that.
-/

namespace TravelPlanAgent

open Calendar Selection

/-! ## Days -/

/-- What an action does to the places of a day. -/
def RepairAction.revise (action : RepairAction) (day : Date) (poiIds : List String) :
    List String :=
  let others := poiIds.filter fun poiId => decide (poiId ≠ action.poiId)
  if action.kind = .removeOptionalPoi then
    if action.fromDay = some day then others else poiIds
  else if action.toDay = some day then action.poiId :: others
  else others

/-- What a list of actions does to the places of a day. -/
def reviseAll (actions : List RepairAction) (day : Date) (poiIds : List String) : List String :=
  actions.foldl (fun poiIds action => action.revise day poiIds) poiIds

/-- What an action does to the days of a draft. -/
def RepairAction.reviseDay (action : RepairAction) (day : DraftDay) : DraftDay :=
  ⟨day.date, action.revise day.date day.poiIds⟩

/-- The day that an action looks up: that of a removal, or the target. -/
def RepairAction.landsOn (action : RepairAction) : Option Date :=
  if action.kind = .removeOptionalPoi then action.fromDay else action.toDay

section Revise

variable {action : RepairAction} {day : Date} {poiIds : List String}

theorem revise_of_removal (hkind : action.kind = .removeOptionalPoi) :
    action.revise day poiIds = if action.fromDay = some day then
      poiIds.filter (fun poiId => decide (poiId ≠ action.poiId)) else poiIds :=
  if_pos hkind

theorem revise_of_insertion (hkind : action.kind ≠ .removeOptionalPoi) :
    action.revise day poiIds =
      (if action.toDay = some day then [action.poiId] else []) ++
        poiIds.filter fun poiId => decide (poiId ≠ action.poiId) := by
  rw [RepairAction.revise, if_neg hkind]
  split <;> rfl

/-- A removal takes its place out of its day. -/
theorem mem_revise_of_removal (hkind : action.kind = .removeOptionalPoi) {poiId : String} :
    poiId ∈ action.revise day poiIds ↔
      poiId ∈ poiIds ∧ (action.fromDay = some day → poiId ≠ action.poiId) := by
  rw [revise_of_removal hkind]
  split
  · rename_i hfrom
    simp [hfrom]
  · rename_i hfrom
    simp [hfrom]

/-- Any other action leaves its place on the target day only. -/
theorem mem_revise_of_insertion (hkind : action.kind ≠ .removeOptionalPoi) {poiId : String} :
    poiId ∈ action.revise day poiIds ↔
      (action.toDay = some day ∧ poiId = action.poiId) ∨
        (poiId ∈ poiIds ∧ poiId ≠ action.poiId) := by
  rw [revise_of_insertion hkind, List.mem_append, List.mem_filter, decide_eq_true_eq]
  split <;> simp [*]

/-- Another place stays on its day. -/
theorem mem_revise_of_ne {poiId : String} (hmem : poiId ∈ poiIds) (hne : poiId ≠ action.poiId) :
    poiId ∈ action.revise day poiIds := by
  have hother : poiId ∈ poiIds.filter fun poiId => decide (poiId ≠ action.poiId) :=
    List.mem_filter.mpr ⟨hmem, decide_eq_true hne⟩
  unfold RepairAction.revise
  split_ifs
  · exact hother
  · exact hmem
  · exact List.mem_cons_of_mem _ hother
  · exact hother

end Revise

/-! ## The dictionary of days -/

section Days

variable {dayPois after : Dict Date (List String)}

/-- One action revises every day. -/
theorem applyRepairAction_eq_ok {action : RepairAction}
    (h : applyRepairAction dayPois action = .ok after) :
    after.keys = dayPois.keys ∧ (∀ day ∈ action.landsOn, day ∈ dayPois.keys) ∧
      ∀ day, after.get? day = (dayPois.get? day).map (action.revise day) := by
  unfold applyRepairAction at h
  dsimp only at h
  unfold RepairAction.landsOn
  by_cases hkind : action.kind = .removeOptionalPoi
  · simp only [if_pos hkind] at h ⊢
    cases hfrom : action.fromDay with
    | none =>
      rw [hfrom] at h
      cases h
      refine ⟨rfl, by simp, fun day => ?_⟩
      cases dayPois.get? day with
      | none => rfl
      | some poiIds => simp [revise_of_removal hkind, hfrom]
    | some fromDay =>
      rw [hfrom] at h
      obtain ⟨poiIds, hpoiIds, h⟩ := bind_eq_ok h
      cases h
      have hpoiIds := orRaise_eq_ok hpoiIds
      have hmem := Dict.mem_keys_of_get? hpoiIds
      refine ⟨Dict.keys_set_of_mem hmem _, by simpa using hmem, fun day => ?_⟩
      rw [Dict.get?_set]
      by_cases hday : day = fromDay
      · subst hday
        rw [if_pos rfl, hpoiIds, Option.map_some, revise_of_removal hkind, if_pos hfrom]
      · rw [if_neg hday]
        cases dayPois.get? day with
        | none => rfl
        | some others =>
          rw [Option.map_some, revise_of_removal hkind, if_neg]
          rw [hfrom, Option.some.injEq]
          exact fun heq => hday heq.symm
  · simp only [if_neg hkind] at h ⊢
    cases hto : action.toDay with
    | none =>
      rw [hto] at h
      cases h
      refine ⟨Dict.keys_mapValues _ _, by simp, fun day => ?_⟩
      rw [Dict.get?_mapValues]
      cases dayPois.get? day with
      | none => rfl
      | some poiIds => simp [revise_of_insertion hkind, hto]
    | some toDay =>
      rw [hto] at h
      obtain ⟨poiIds, hpoiIds, h⟩ := bind_eq_ok h
      cases h
      have hpoiIds := orRaise_eq_ok hpoiIds
      have hmem := Dict.mem_keys_of_get? hpoiIds
      refine ⟨?_, ?_, fun day => ?_⟩
      · rw [Dict.keys_set_of_mem hmem, Dict.keys_mapValues]
      · rw [Dict.keys_mapValues] at hmem
        simpa using hmem
      · rw [Dict.get?_set]
        rw [Dict.get?_mapValues] at hpoiIds ⊢
        by_cases hday : day = toDay
        · subst hday
          obtain ⟨there, hthere, rfl⟩ := Option.map_eq_some_iff.mp hpoiIds
          rw [if_pos rfl, hthere, Option.map_some, revise_of_insertion hkind, if_pos hto]
          rfl
        · rw [if_neg hday]
          cases dayPois.get? day with
          | none => rfl
          | some others =>
            rw [Option.map_some, Option.map_some, revise_of_insertion hkind, if_neg,
              List.nil_append]
            rw [hto, Option.some.injEq]
            exact fun heq => hday heq.symm

/-- An action that looks up a known day can be applied. -/
theorem applyRepairAction_exists {action : RepairAction}
    (h : ∀ day ∈ action.landsOn, day ∈ dayPois.keys) :
    ∃ after, applyRepairAction dayPois action = .ok after := by
  unfold RepairAction.landsOn at h
  unfold applyRepairAction
  dsimp only
  by_cases hkind : action.kind = .removeOptionalPoi
  · simp only [if_pos hkind] at h ⊢
    cases hfrom : action.fromDay with
    | none => exact ⟨_, rfl⟩
    | some fromDay =>
      obtain ⟨poiIds, hpoiIds⟩ := Dict.exists_get?_of_mem_keys (h fromDay hfrom)
      dsimp only
      rw [hpoiIds]
      exact ⟨_, rfl⟩
  · simp only [if_neg hkind] at h ⊢
    cases hto : action.toDay with
    | none => exact ⟨_, rfl⟩
    | some toDay =>
      obtain ⟨poiIds, hpoiIds⟩ := Dict.exists_get?_of_mem_keys (h toDay hto)
      dsimp only
      rw [Dict.get?_mapValues, hpoiIds]
      exact ⟨_, rfl⟩

/-- A list of actions revises every day. -/
theorem foldlM_applyRepairAction_eq_ok {actions : List RepairAction}
    (h : actions.foldlM applyRepairAction dayPois = .ok after) (day : Date) :
    after.get? day = (dayPois.get? day).map (reviseAll actions day) := by
  induction actions generalizing dayPois with
  | nil =>
    cases h
    cases after.get? day <;> rfl
  | cons action rest ih =>
    rw [List.foldlM_cons] at h
    obtain ⟨next, hnext, h⟩ := bind_eq_ok h
    rw [ih h, (applyRepairAction_eq_ok hnext).2.2 day, Option.map_map]
    rfl

/-- Actions that look up known days can be applied. -/
theorem foldlM_applyRepairAction_exists {actions : List RepairAction}
    (h : ∀ action ∈ actions, ∀ day ∈ action.landsOn, day ∈ dayPois.keys) :
    ∃ after, actions.foldlM applyRepairAction dayPois = .ok after := by
  induction actions generalizing dayPois with
  | nil => exact ⟨_, rfl⟩
  | cons action rest ih =>
    obtain ⟨haction, hrest⟩ := List.forall_mem_cons.mp h
    obtain ⟨next, hnext⟩ := applyRepairAction_exists haction
    obtain ⟨hkeys, -, -⟩ := applyRepairAction_eq_ok hnext
    obtain ⟨after, hafter⟩ := ih (hkeys.symm ▸ hrest)
    refine ⟨after, ?_⟩
    rw [List.foldlM_cons, hnext]
    exact hafter

end Days

/-! ## Drafts -/

/-- The days of a draft after a list of actions. -/
def revisedDays (actions : List RepairAction) (days : List DraftDay) : List DraftDay :=
  days.map fun day => ⟨day.date, reviseAll actions day.date day.poiIds⟩

@[simp] theorem revisedDays_nil (days : List DraftDay) : revisedDays [] days = days :=
  List.map_id' days

@[simp] theorem revisedDays_cons (action : RepairAction) (rest : List RepairAction)
    (days : List DraftDay) :
    revisedDays (action :: rest) days = revisedDays rest (days.map action.reviseDay) := by
  rw [revisedDays, revisedDays, List.map_map]
  rfl

@[simp] theorem dates_revisedDays (actions : List RepairAction) (days : List DraftDay) :
    (revisedDays actions days).map DraftDay.date = days.map DraftDay.date := by
  rw [revisedDays, List.map_map]
  rfl

section Drafts

variable {draft : CandidateDraft}

theorem mem_keys_dayPoisOf {day : Date} :
    day ∈ (dayPoisOf draft).keys ↔ day ∈ draft.days.map DraftDay.date := by
  rw [dayPoisOf, Dict.mem_keys_ofList, List.map_map]
  rfl

/-- With distinct dates every day is found under its date. -/
theorem get?_dayPoisOf (hdates : (draft.days.map DraftDay.date).Nodup) {day : DraftDay}
    (hday : day ∈ draft.days) : (dayPoisOf draft).get? day.date = some day.poiIds := by
  have hkeys : ((draft.days.map fun day => (day.date, day.poiIds)).map Prod.fst).Nodup := by
    rw [List.map_map]
    exact hdates
  rw [← Dict.mem_entries_iff, dayPoisOf]
  exact Dict.mem_entries_ofList hkeys (List.mem_map.mpr ⟨day, hday, rfl⟩)

/-- The days after the actions, read back into the draft. -/
theorem daysWith_foldlM (hdates : (draft.days.map DraftDay.date).Nodup)
    {actions : List RepairAction} {dayPois : Dict Date (List String)}
    (h : actions.foldlM applyRepairAction (dayPoisOf draft) = .ok dayPois) :
    daysWith draft dayPois = revisedDays actions draft.days := by
  refine List.map_congr_left fun day hday => ?_
  rw [foldlM_applyRepairAction_eq_ok h, get?_dayPoisOf hdates hday]
  rfl

end Drafts

/-! ## What the generators make -/

/-- Where the place of an action comes from that puts it on a day. -/
inductive PlaceOrigin [Platform] (trip : TripSpec) (candidate : PlanCandidate)
    (pois : List PlanningPOI) (violationType : String) (poi : PlanningPOI) : Prop where
  /-- A required place that nothing scheduled mentions. -/
  | missing (required : String) (hrequired : required ∈ trip.mustVisit)
      (hunscheduled : mustVisitScheduled (scheduledNames candidate) required = false)
      (hname : namesOverlap required poi.facts.name = true)
  /-- Some place for an empty plan. -/
  | empty (htype : violationType = "empty_plan")
  /-- A required activity that is moved. -/
  | scheduled (entry : Date × PlanItem) (hentry : entry ∈ candidate.datedItems)
      (hpoiId : entry.2.poiId = some poi.facts.id)
      (hrequired : trip.isMustVisit entry.2.name = true)
      (hknown : poiById pois poi.facts.id = some poi)

/-- An action that puts a known place on a day of the draft. -/
structure InsertsPlace [Platform] (trip : TripSpec) (candidate : PlanCandidate)
    (draft : CandidateDraft) (pois : List PlanningPOI) (violationType : String)
    (action : RepairAction) : Prop where
  kind : action.kind ≠ .removeOptionalPoi
  source : action.sourceViolationType = violationType
  place : ∃ poi ∈ pois, poi.facts.id = action.poiId ∧
    PlaceOrigin trip candidate pois violationType poi
  target : ∃ day ∈ draft.days, action.toDay = some day.date

/-- What a generator makes for an error. -/
def Repairs [Platform] (trip : TripSpec) (candidate : PlanCandidate) (draft : CandidateDraft)
    (pois : List PlanningPOI) (violationType : String) (action : RepairAction) : Prop :=
  (∃ entry, RemovesItem trip candidate.datedItems violationType action entry) ∨
    InsertsPlace trip candidate draft pois violationType action

variable [Platform]

section Generators

variable {trip : TripSpec} {candidate : PlanCandidate} {draft : CandidateDraft}
  {pois : List PlanningPOI}

/-- A place is open on a day for as long as a visit takes, and the day has as much time. -/
def SuitsDay (trip : TripSpec) (poi : PlanningPOI) (day : Date) : Prop :=
  ∃ window, poi.openingWindows.get? day = some window ∧
    (poi.durationMinutes : ℤ) ≤ min (availableMinutes trip day : ℤ) (windowMinutes window)

omit [Platform] in
/-- The day found for a place is a day of the draft that suits it, and not the excluded one. -/
theorem bestTargetDay_eq_some {poi : PlanningPOI} {excludedDay : Option Date} {target : Date}
    (h : bestTargetDay trip draft poi excludedDay = some target) :
    ∃ day ∈ draft.days, day.date = target ∧ some target ≠ excludedDay ∧
      SuitsDay trip poi target := by
  obtain ⟨best, hbest, rfl⟩ := Option.map_eq_some_iff.mp h
  obtain ⟨day, hday, hentry⟩ := List.mem_filterMap.mp (mem_of_minByKey hbest)
  refine ⟨day, hday, ?_⟩
  split at hentry
  · exact nomatch hentry
  · rename_i hother
    split at hentry
    · exact nomatch hentry
    · rename_i window hwindow
      dsimp only at hentry
      split at hentry
      · exact nomatch hentry
      · rename_i hlong
        obtain rfl := Option.some.inj hentry
        exact ⟨rfl, hother, window, hwindow, not_lt.mp hlong⟩

omit [Platform] in
/-- Where another day suits a place, a day is found. -/
theorem exists_bestTargetDay {poi : PlanningPOI} {excludedDay : Option Date} {day : DraftDay}
    (hday : day ∈ draft.days) (hother : some day.date ≠ excludedDay)
    (hsuits : SuitsDay trip poi day.date) :
    ∃ target, bestTargetDay trip draft poi excludedDay = some target := by
  obtain ⟨window, hwindow, hlong⟩ := hsuits
  refine Option.isSome_iff_exists.mp ?_
  unfold bestTargetDay
  dsimp only
  rw [Option.isSome_map]
  refine Option.isSome_iff_exists.mpr (exists_minByKey id fun hnone => ?_)
  have hentry := List.filterMap_eq_nil_iff.mp hnone day hday
  rw [if_neg hother, hwindow] at hentry
  dsimp only at hentry
  rw [if_neg (not_lt.mpr hlong)] at hentry
  exact nomatch hentry

omit [Platform] in
/-- The day found for a place is a day of the draft. -/
theorem exists_of_bestTargetDay {poi : PlanningPOI} {excludedDay : Option Date} {target : Date}
    (h : bestTargetDay trip draft poi excludedDay = some target) :
    ∃ day ∈ draft.days, day.date = target := by
  obtain ⟨day, hday, hdate, -⟩ := bestTargetDay_eq_some h
  exact ⟨day, hday, hdate⟩

omit [Platform] in
/-- What an optional mapping of a list produces comes from an element. -/
theorem exists_of_mem_mapM_some {α β : Type} {f : α → Option β} {l : List α} {bs : List β}
    (h : l.mapM f = some bs) {b : β} (hb : b ∈ bs) : ∃ a ∈ l, f a = some b := by
  induction l generalizing bs with
  | nil =>
    obtain rfl := Option.some.inj h
    exact absurd hb List.not_mem_nil
  | cons a rest ih =>
    rw [List.mapM_cons] at h
    obtain ⟨first, hfirst, h⟩ := Option.bind_eq_some_iff.mp h
    obtain ⟨others, hothers, h⟩ := Option.bind_eq_some_iff.mp h
    obtain rfl := Option.some.inj h
    rcases List.mem_cons.mp hb with rfl | hb
    · exact ⟨a, List.mem_cons_self, hfirst⟩
    · obtain ⟨a', ha', heq⟩ := ih hothers hb
      exact ⟨a', List.mem_cons_of_mem _ ha', heq⟩

theorem removesItem_of_budget {action : RepairAction}
    (h : action ∈ removeActionsForBudget trip candidate pois) :
    ∃ entry, RemovesItem trip candidate.datedItems "budget_exceeded" action entry := by
  unfold removeActionsForBudget at h
  split at h
  · exact absurd h List.not_mem_nil
  · dsimp only at h
    split at h
    · exact absurd h List.not_mem_nil
    · split at h
      · exact absurd h List.not_mem_nil
      · rename_i removed hremoved
        obtain ⟨option, hoption, rfl⟩ := List.mem_map.mp h
        have hsorted := (prefix_of_takeEnough hremoved).subset hoption
        obtain ⟨hscheduled, hpoiId, -, -, hoptional⟩ :=
          mem_removableItems (List.mem_of_mem_filter (mem_sortByKey.mp hsorted))
        exact ⟨option.entry, hscheduled, rfl, rfl, rfl, rfl, hpoiId, hoptional⟩

omit [Platform] in
/-- The items of a day that is found by its date. -/
theorem mem_datedItems_of_find? {day : Date} {planDay : DayPlan}
    (h : candidate.days.find? (fun planDay => decide (planDay.date = day)) = some planDay)
    {item : PlanItem} (hitem : item ∈ planDay.items) : (day, item) ∈ candidate.datedItems := by
  obtain ⟨hmem, rfl⟩ := of_find?_decide h
  exact List.mem_flatMap.mpr ⟨planDay, hmem, List.mem_map_of_mem hitem⟩

theorem removesItem_of_dayLimit {day : Date} {violationType : String} {action : RepairAction}
    (h : action ∈ removeActionsForDayLimit trip candidate pois day violationType) :
    ∃ item, RemovesItem trip candidate.datedItems violationType action (day, item) := by
  unfold removeActionsForDayLimit at h
  split at h
  · exact absurd h List.not_mem_nil
  · rename_i planDay hplanDay
    dsimp only at h
    split at h
    · exact absurd h List.not_mem_nil
    · split at h
      · exact absurd h List.not_mem_nil
      · rename_i removed hremoved
        obtain ⟨option, hoption, rfl⟩ := List.mem_map.mp h
        have hsorted := (prefix_of_takeEnough hremoved).subset hoption
        obtain ⟨hscheduled, hpoiId, -, -, hoptional⟩ :=
          mem_removableItems (mem_sortByKey.mp hsorted)
        obtain ⟨item, hitem, heq⟩ := List.mem_map.mp hscheduled
        obtain ⟨hday, rfl⟩ := Prod.mk.inj heq
        exact ⟨option.item, mem_datedItems_of_find? hplanDay hitem, rfl, rfl, rfl, rfl,
          hpoiId, hoptional⟩

/-- The first day of a draft on which a place stands. -/
def firstDayOf (draft : CandidateDraft) (poi : PlanningPOI) : Option Date :=
  (draft.days.find? fun day => decide (poi.facts.id ∈ day.poiIds)).map DraftDay.date

/-- The action for a required place. -/
theorem mustVisitAction_eq_some {required : String} {action : RepairAction}
    (h : mustVisitAction trip draft pois required = some action) :
    ∃ poi target, pois.find? (fun poi => namesOverlap required poi.facts.name) = some poi ∧
      (bestTargetDay trip draft poi (firstDayOf draft poi)).or
        (bestTargetDay trip draft poi none) = some target ∧
      action = {
        kind := if firstDayOf draft poi ≠ none ∧ firstDayOf draft poi ≠ some target then .movePoi
          else .insertMustVisit
        sourceViolationType := "missing_must_visit"
        poiId := poi.facts.id
        fromDay := firstDayOf draft poi
        toDay := some target
        reason := "把遗漏的必去地点放入可用时间更充足的日期"
        expectedEffect := "覆盖必去地点 " ++ required } := by
  obtain ⟨poi, hpoi, h⟩ := Option.bind_eq_some_iff.mp h
  obtain ⟨target, htarget, h⟩ := Option.bind_eq_some_iff.mp h
  exact ⟨poi, target, hpoi, htarget, (Option.some.inj h).symm⟩

/-- What is made for required places that are missing is made for one of them. -/
theorem exists_of_missingMustVisit {action : RepairAction}
    (h : action ∈ actionsForMissingMustVisit trip candidate draft pois) :
    ∃ required ∈ trip.mustVisit,
      mustVisitScheduled (scheduledNames candidate) required = false ∧
        mustVisitAction trip draft pois required = some action := by
  unfold actionsForMissingMustVisit at h
  cases hactions : (trip.mustVisit.filter fun required =>
      !mustVisitScheduled (scheduledNames candidate) required).mapM
        (mustVisitAction trip draft pois) with
  | none =>
    simp only [hactions, Option.getD_none] at h
    exact absurd h List.not_mem_nil
  | some actions =>
    simp only [hactions, Option.getD_some] at h
    obtain ⟨required, hrequired, haction⟩ := exists_of_mem_mapM_some hactions h
    obtain ⟨hmem, hunscheduled⟩ := List.mem_filter.mp hrequired
    exact ⟨required, hmem, by simpa using hunscheduled, haction⟩

/-- What is made for required places that are missing. -/
theorem insertsPlace_of_missingMustVisit {action : RepairAction}
    (h : action ∈ actionsForMissingMustVisit trip candidate draft pois) :
    InsertsPlace trip candidate draft pois "missing_must_visit" action ∧
      (∀ day, action.fromDay = some day → ∃ draftDay ∈ draft.days, draftDay.date = day ∧
        action.poiId ∈ draftDay.poiIds) ∧
      ((∃ draftDay ∈ draft.days, action.poiId ∈ draftDay.poiIds) → action.fromDay ≠ none) := by
  obtain ⟨required, hmem, hunscheduled, haction⟩ := exists_of_missingMustVisit h
  obtain ⟨poi, target, hpoi, htarget, rfl⟩ := mustVisitAction_eq_some haction
  have hname := List.find?_some hpoi
  refine ⟨⟨?_, rfl, ⟨poi, List.mem_of_find?_eq_some hpoi, rfl,
    .missing required hmem hunscheduled hname⟩, ?_⟩, fun day hday => ?_,
    fun hstands hnone => ?_⟩
  · dsimp only
    split <;> exact nofun
  · rcases Option.or_eq_some_iff.mp htarget with hbest | ⟨-, hbest⟩ <;>
    · obtain ⟨draftDay, hdraftDay, rfl⟩ := exists_of_bestTargetDay hbest
      exact ⟨draftDay, hdraftDay, rfl⟩
  · obtain ⟨draftDay, hfound, rfl⟩ := Option.map_eq_some_iff.mp hday
    obtain ⟨hdraftDay, hstands⟩ := of_find?_decide hfound
    exact ⟨draftDay, hdraftDay, rfl, hstands⟩
  · obtain ⟨draftDay, hdraftDay, hmem⟩ := hstands
    have hfound := List.find?_eq_none.mp (Option.map_eq_none_iff.mp hnone) draftDay hdraftDay
    exact hfound (decide_eq_true hmem)

theorem insertsPlace_of_emptyPlan (candidate : PlanCandidate) {action : RepairAction}
    (h : action ∈ actionsForEmptyPlan trip draft pois) :
    InsertsPlace trip candidate draft pois "empty_plan" action ∧ action.fromDay = none := by
  unfold actionsForEmptyPlan at h
  obtain ⟨poi, hpoi, haction⟩ := List.exists_of_findSome?_eq_some (Option.mem_toList.mp h)
  obtain ⟨target, htarget, rfl⟩ := Option.map_eq_some_iff.mp haction
  obtain ⟨draftDay, hdraftDay, rfl⟩ := exists_of_bestTargetDay htarget
  exact ⟨⟨nofun, rfl, ⟨poi, mem_sortByKey.mp hpoi, rfl, .empty rfl⟩,
    draftDay, hdraftDay, rfl⟩, rfl⟩

/-- What is made for an error about some activities of a day. -/
theorem repairs_of_localTimeViolation {violation : Violation} {action : RepairAction}
    (h : action ∈ actionsForLocalTimeViolation trip candidate draft pois violation) :
    Repairs trip candidate draft pois violation.type action ∧
      ∃ day item, action.fromDay = some day ∧ (day, item) ∈ candidate.datedItems ∧
        item.poiId = some action.poiId := by
  unfold actionsForLocalTimeViolation at h
  obtain ⟨day, -, h⟩ := Option.bind_eq_some_iff.mp (Option.mem_toList.mp h)
  obtain ⟨planDay, hplanDay, h⟩ := Option.bind_eq_some_iff.mp h
  obtain ⟨⟨item, poiId⟩, hentry, haction⟩ := List.exists_of_findSome?_eq_some h
  obtain ⟨hscheduled, hpoiId⟩ : (day, item) ∈ candidate.datedItems ∧ item.poiId = some poiId := by
    obtain ⟨item', hitem', hbind⟩ := List.mem_filterMap.mp (mem_sortByKey.mp hentry)
    obtain ⟨poiId', hpoiId', hif⟩ := Option.bind_eq_some_iff.mp hbind
    split at hif
    · obtain ⟨rfl, rfl⟩ := Prod.mk.inj (Option.some.inj hif)
      exact ⟨mem_datedItems_of_find? hplanDay hitem', hpoiId'⟩
    · exact nomatch hif
  unfold localTimeAction at haction
  split at haction
  · rename_i hoptional
    obtain rfl := Option.some.inj haction
    refine ⟨.inl ⟨(day, item), hscheduled, rfl, rfl, rfl, rfl, hpoiId,
      Bool.eq_false_iff.mpr hoptional⟩, day, item, rfl, hscheduled, hpoiId⟩
  · rename_i hrequired
    obtain ⟨poi, hpoi, haction⟩ := Option.bind_eq_some_iff.mp haction
    obtain ⟨target, htarget, haction⟩ := Option.bind_eq_some_iff.mp haction
    obtain rfl := Option.some.inj haction
    obtain ⟨draftDay, hdraftDay, rfl⟩ := exists_of_bestTargetDay htarget
    have hid := facts_id_of_poiById hpoi
    refine ⟨.inr ⟨nofun, rfl, ⟨poi, mem_of_poiById hpoi, hid, .scheduled (day, item) hscheduled
      (by rw [hid]; exact hpoiId) (by simpa using hrequired) (by rw [hid]; exact hpoi)⟩,
      draftDay, hdraftDay, rfl⟩, day, item, rfl, hscheduled, hpoiId⟩

/-- Every action is a removal of something optional or puts a known place on a day. -/
theorem repairs_of_mem_actionsForViolation {violation : Violation} {action : RepairAction}
    (h : action ∈ actionsForViolation trip candidate draft pois violation) :
    Repairs trip candidate draft pois violation.type action := by
  unfold actionsForViolation at h
  split_ifs at h with hbudget hlimit hmissing hempty
  · rw [hbudget]
    exact .inl (removesItem_of_budget h)
  · split at h
    · obtain ⟨item, hitem⟩ := removesItem_of_dayLimit h
      exact .inl ⟨_, hitem⟩
    · exact absurd h List.not_mem_nil
  · rw [hmissing]
    exact .inr (insertsPlace_of_missingMustVisit h).1
  · rw [hempty]
    exact .inr (insertsPlace_of_emptyPlan _ h).1
  · exact (repairs_of_localTimeViolation h).1

/-- A place stands on a day of the draft, or is scheduled there. -/
def StandsOn (candidate : PlanCandidate) (draft : CandidateDraft) (poiId : String) (day : Date) :
    Prop :=
  (∃ draftDay ∈ draft.days, draftDay.date = day ∧ poiId ∈ draftDay.poiIds) ∨
    ∃ item, (day, item) ∈ candidate.datedItems ∧ item.poiId = some poiId

/-- An action comes from a day on which its place stands; only for an empty plan is a place of
the draft put on a day without a look at where it stands. -/
theorem standsOn_fromDay {violation : Violation} {action : RepairAction}
    (h : action ∈ actionsForViolation trip candidate draft pois violation) :
    (∀ day, action.fromDay = some day → StandsOn candidate draft action.poiId day) ∧
      (violation.type ≠ "empty_plan" →
        (∃ draftDay ∈ draft.days, action.poiId ∈ draftDay.poiIds) → action.fromDay ≠ none) := by
  have hremoval : ∀ {violationType : String} {entry : Date × PlanItem},
      RemovesItem trip candidate.datedItems violationType action entry →
        (∀ day, action.fromDay = some day → StandsOn candidate draft action.poiId day) ∧
          action.fromDay ≠ none := by
    intro violationType entry hentry
    refine ⟨fun day hday => ?_, by rw [hentry.fromDay]; exact nofun⟩
    rw [hentry.fromDay, Option.some.injEq] at hday
    exact .inr ⟨entry.2, hday ▸ hentry.scheduled, hentry.poiId⟩
  unfold actionsForViolation at h
  split_ifs at h with hbudget hlimit hmissing hempty
  · obtain ⟨entry, hentry⟩ := removesItem_of_budget h
    exact ⟨(hremoval hentry).1, fun _ _ => (hremoval hentry).2⟩
  · split at h
    · obtain ⟨entry, hentry⟩ := removesItem_of_dayLimit h
      exact ⟨(hremoval hentry).1, fun _ _ => (hremoval hentry).2⟩
    · exact absurd h List.not_mem_nil
  · obtain ⟨-, hfrom, hstands⟩ := insertsPlace_of_missingMustVisit h
    exact ⟨fun day hday => .inl (hfrom day hday), fun _ => hstands⟩
  · rw [(insertsPlace_of_emptyPlan candidate h).2]
    exact ⟨nofun, fun htype => absurd hempty htype⟩
  · obtain ⟨-, day, item, hfrom, hscheduled, hpoiId⟩ := repairs_of_localTimeViolation h
    rw [hfrom]
    refine ⟨fun day' hday' => ?_, fun _ _ => nofun⟩
    obtain rfl := Option.some.inj hday'
    exact .inr ⟨item, hscheduled, hpoiId⟩

end Generators

/-! ## What a plan is made of -/

/-- A plan next to the errors that it answers. -/
structure BuiltFrom (trip : TripSpec) (candidate : PlanCandidate) (draft : CandidateDraft)
    (pois : List PlanningPOI) (plan : RepairPlan) : Prop where
  sound : ∀ action ∈ plan.actions, ∃ violation ∈ errorViolations candidate,
    action ∈ actionsForViolation trip candidate draft pois violation
  complete : ∀ violation ∈ errorViolations candidate,
    ∀ action ∈ actionsForViolation trip candidate draft pois violation,
      ∃ kept ∈ plan.actions, kept.key = action.key
  answered : ∀ violation ∈ errorViolations candidate,
    actionsForViolation trip candidate draft pois violation ≠ []
  mem_affectedDays : ∀ day, day ∈ plan.affectedDays ↔
    ∃ action ∈ plan.actions, action.fromDay = some day ∨ action.toDay = some day
  mem_preservedDays : ∀ day, day ∈ plan.preservedDays ↔
    day ∈ draft.days.map DraftDay.date ∧ day ∉ plan.affectedDays

section Built

variable {trip : TripSpec} {candidate : PlanCandidate} {draft : CandidateDraft}
  {pois : List PlanningPOI}

/-- The generated actions are those for the errors, and every error has some. -/
theorem generatedActions_eq_ok {violations : List Violation} {actions : List RepairAction}
    (h : generatedActions trip candidate draft pois violations = .ok actions) :
    actions = violations.flatMap (actionsForViolation trip candidate draft pois) ∧
      ∀ violation ∈ violations, actionsForViolation trip candidate draft pois violation ≠ [] := by
  induction violations generalizing actions with
  | nil =>
    cases h
    exact ⟨rfl, by simp⟩
  | cons violation rest ih =>
    unfold generatedActions at h
    split at h
    · exact nomatch h
    · rename_i generated hne
      cases hrest : generatedActions trip candidate draft pois rest with
      | error reason =>
        rw [hrest] at h
        exact nomatch h
      | ok others =>
        rw [hrest] at h
        obtain ⟨rfl, hall⟩ := ih hrest
        cases h
        exact ⟨List.flatMap_cons.symm, List.forall_mem_cons.mpr ⟨hne, hall⟩⟩

omit [Platform] in
/-- Deduplication keeps actions, and one of every key that was not seen before. -/
theorem mem_deduplicateActions (actions : List RepairAction)
    (seen : List (RepairActionKind × String × Option Date × Option Date)) :
    (∀ action ∈ deduplicateActions seen actions, action ∈ actions) ∧
      ∀ action ∈ actions, action.key ∉ seen →
        ∃ kept ∈ deduplicateActions seen actions, kept.key = action.key := by
  induction actions generalizing seen with
  | nil => exact ⟨by simp [deduplicateActions], by simp⟩
  | cons first rest ih =>
    by_cases hseen : first.key ∈ seen
    · rw [deduplicateActions, if_pos hseen]
      obtain ⟨hsound, hcomplete⟩ := ih seen
      refine ⟨fun action haction => List.mem_cons_of_mem _ (hsound action haction),
        fun action haction hnew => ?_⟩
      rcases List.mem_cons.mp haction with rfl | haction
      · exact absurd hseen hnew
      · exact hcomplete action haction hnew
    · rw [deduplicateActions, if_neg hseen]
      obtain ⟨hsound, hcomplete⟩ := ih (first.key :: seen)
      refine ⟨fun action haction => ?_, fun action haction hnew => ?_⟩
      · rcases List.mem_cons.mp haction with rfl | haction
        · exact List.mem_cons_self
        · exact List.mem_cons_of_mem _ (hsound action haction)
      · by_cases hkey : action.key = first.key
        · exact ⟨first, List.mem_cons_self, hkey.symm⟩
        · have hrest : action ∈ rest := by
            rcases List.mem_cons.mp haction with rfl | hrest
            · exact absurd rfl hkey
            · exact hrest
          obtain ⟨kept, hkept, heq⟩ := hcomplete action hrest fun hmem => by
            rcases List.mem_cons.mp hmem with heq | hmem
            · exact hkey heq
            · exact hnew hmem
          exact ⟨kept, List.mem_cons_of_mem _ hkept, heq⟩

/-- The plan that is built, and what it is made of. -/
theorem builtFrom_of_buildRepairPlan {report : CriticReport} {repairRound : ℕ} {plan : RepairPlan}
    {reason : Option String}
    (h : buildRepairPlan trip candidate draft pois report repairRound = (some plan, reason)) :
    BuiltFrom trip candidate draft pois plan ∧ plan.actions ≠ [] := by
  unfold buildRepairPlan at h
  split at h
  · exact absurd h (by simp)
  split at h
  · exact absurd h (by simp)
  · rename_i generated hgenerated
    obtain ⟨rfl, hanswered⟩ := generatedActions_eq_ok hgenerated
    obtain ⟨hsound, hcomplete⟩ := mem_deduplicateActions
      ((errorViolations candidate).flatMap (actionsForViolation trip candidate draft pois)) []
    split at h
    · exact absurd h (by simp)
    · rename_i actions hne
      obtain ⟨hplan, -⟩ := Prod.mk.inj h
      obtain rfl := Option.some.inj hplan
      refine ⟨⟨fun action haction => ?_, fun violation hviolation action haction => ?_,
        hanswered, fun day => ?_, fun day => ?_⟩, hne⟩
      · exact List.mem_flatMap.mp (hsound action haction)
      · exact hcomplete action (List.mem_flatMap.mpr ⟨violation, hviolation, haction⟩)
          List.not_mem_nil
      · simp [repairPlanOf]
      · simp [repairPlanOf]

/-- Every action of a plan is one that a generator makes. -/
theorem BuiltFrom.repairs {plan : RepairPlan} (h : BuiltFrom trip candidate draft pois plan)
    {action : RepairAction} (haction : action ∈ plan.actions) :
    ∃ violation ∈ errorViolations candidate,
      Repairs trip candidate draft pois violation.type action := by
  obtain ⟨violation, hviolation, hmem⟩ := h.sound action haction
  exact ⟨violation, hviolation, repairs_of_mem_actionsForViolation hmem⟩

end Built

end TravelPlanAgent
