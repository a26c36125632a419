import TravelPlanAgent.Lifecycle.ItemIdentity
import TravelPlanAgent.Lifecycle.LockInvariant
import TravelPlanAgent.Planning.Reach
import Mathlib.Data.List.Find

/-!
# Where the guard of a preview can fire

The impact analysis looks at the dates and the items that a patch names.  Materialising the
edited draft keeps every other day visit by visit, but it computes the clock of a named day
anew, and it hands out ids by place.  So a locked visit can start later without being named,
and a visit of an untouched day can change its id.

* `days_of_applyOperations`: an edit changes the days that it names and no other.
* `routes_of_editedPlan`: the routes of an untouched day are kept.
* `Materialized`: a version schedules what the planner made of its draft.
* `dayOn_editedPlan`: an untouched day keeps its visits, with ids handed out anew.
* `LeavesAlone`: what a patch has to leave alone.
* `checkLocality_iff`: exactly when the guard does not fire.
-/

namespace TravelPlanAgent

open Calendar Selection

variable [Platform]

/-! ## The days that an edit names -/

section Named

variable {candidate : PlanCandidate} {context : EditContext} {state after : EditState}
  {operation : EditOperation}

omit [Platform] in
theorem lookupIn_identified (entries : List (Date × PlanItem)) (itemId : String) :
    Dict.lookupIn itemId (entries.filterMap fun (date, item) =>
      item.itemId.map fun id => (id, date, item)) =
        entries.find? fun entry => decide (entry.2.itemId = some itemId) := by
  induction entries with
  | nil => rfl
  | cons entry rest ih =>
    obtain ⟨date, item⟩ := entry
    cases hid : item.itemId with
    | none =>
      rw [List.filterMap_cons_none (by simp [hid]), List.find?_cons_of_neg (by simp [hid]), ih]
    | some id =>
      rw [List.filterMap_cons_some (by simp only [hid, Option.map_some]; rfl), Dict.lookupIn]
      by_cases heq : id = itemId
      · rw [if_pos heq, List.find?_cons_of_pos (by simp [hid, heq])]
      · rw [if_neg heq, List.find?_cons_of_neg (by simp [hid, heq]), ih]

omit [Platform] in
/-- The edit and the impact analysis find an item on the same date. -/
theorem operationLocation_of_operationItem
    (hitems : context.candidateItems = .ofList (identifiedItems candidate))
    {entry : Date × PlanItem} (h : operationItem context operation = some entry) :
    operationLocation candidate operation = some entry.1 := by
  unfold operationItem at h
  split at h
  · next hgiven =>
    cases hid : operation.itemId with
    | none => rw [hid] at hgiven; cases hgiven
    | some itemId =>
      rw [hid, isGiven, Option.getD_some, decide_eq_true_eq] at hgiven
      rw [hid, Option.getD_some, hitems, Dict.get?_ofList, identifiedItems,
        ← List.filterMap_reverse, lookupIn_identified] at h
      rw [operationLocation, hid, Option.bind_some, itemLocation, if_neg hgiven, lastWith, h]
      rfl
  · cases h

omit [Platform] in
/-- The date of the item that an operation moves is named. -/
theorem mem_operationDates_of_operationSource
    (hitems : context.candidateItems = .ofList (identifiedItems candidate)) {day : Date}
    {poiId : String} (h : operationSource context operation = .ok (day, poiId)) :
    day ∈ operationDates candidate operation := by
  obtain ⟨⟨date, item⟩, hentry, h⟩ := bind_eq_ok h
  obtain ⟨_, -, h⟩ := bind_eq_ok h
  cases h
  have hlocation := operationLocation_of_operationItem hitems (orRaise_eq_ok hentry)
  exact List.mem_append_left _ (by rw [hlocation]; exact List.mem_singleton_self _)

omit [Platform] in
theorem takeOut_eq_ok
    (hitems : context.candidateItems = .ofList (identifiedItems candidate))
    {taken : Date × String × Dict Date (List String)}
    (h : takeOut context state operation = .ok taken) :
    taken.1 ∈ operationDates candidate operation ∧
      ∀ date ∉ operationDates candidate operation, taken.2.2.get? date = state.days.get? date := by
  obtain ⟨⟨day, poiId⟩, hsource, h⟩ := bind_eq_ok h
  obtain ⟨there, -, h⟩ := bind_eq_ok h
  obtain ⟨left, -, h⟩ := bind_eq_ok h
  cases h
  have hday := mem_operationDates_of_operationSource hitems hsource
  refine ⟨hday, fun date hdate => Dict.get?_set_of_ne _ ?_ _⟩
  exact (ne_of_mem_of_not_mem hday hdate).symm

/-- An operation changes the days that it names and no other. -/
theorem days_of_applyOperation
    (hitems : context.candidateItems = .ofList (identifiedItems candidate)) {index : ℕ}
    (h : applyOperation context state operation index = .ok after) {date : Date}
    (hdate : date ∉ operationDates candidate operation) :
    after.days.get? date = state.days.get? date := by
  have htarget {target : Date} (heq : operation.targetDate = some target) : date ≠ target := by
    rintro rfl
    exact hdate (List.mem_append_right _ (by rw [heq]; exact List.mem_singleton_self _))
  have hmoved (hmove : moveItem context state operation = .ok after) :
      after.days.get? date = state.days.get? date := by
    obtain ⟨⟨day, poiId, days⟩, htaken, hmove⟩ := bind_eq_ok hmove
    obtain ⟨there, -, hmove⟩ := bind_eq_ok hmove
    cases hmove
    obtain ⟨hday, hothers⟩ := takeOut_eq_ok hitems htaken
    rw [Dict.get?_set_of_ne, hothers date hdate]
    cases htargetDate : operation.targetDate with
    | none => exact fun heq => hdate (heq ▸ hday)
    | some target => exact htarget htargetDate
  unfold applyOperation at h
  obtain ⟨_, -, h⟩ := bind_eq_ok h
  cases hkind : operation.kind with
  | removeItem =>
    rw [hkind] at h
    obtain ⟨⟨day, poiId, days⟩, htaken, h⟩ := bind_eq_ok h
    cases h
    exact (takeOut_eq_ok hitems htaken).2 date hdate
  | moveItem => rw [hkind] at h; exact hmoved h
  | reorderItem => rw [hkind] at h; exact hmoved h
  | replaceItem =>
    rw [hkind] at h
    obtain ⟨⟨day, poiId⟩, hsource, h⟩ := bind_eq_ok h
    obtain ⟨newPoiId, -, h⟩ := bind_eq_ok h
    obtain ⟨there, -, h⟩ := bind_eq_ok h
    obtain ⟨_, -, h⟩ := bind_eq_ok h
    cases h
    refine Dict.get?_set_of_ne _ (fun heq => hdate ?_) _
    exact heq ▸ mem_operationDates_of_operationSource hitems hsource
  | addItem =>
    rw [hkind] at h
    obtain ⟨target, htargetDate, h⟩ := bind_eq_ok h
    obtain ⟨there, -, h⟩ := bind_eq_ok h
    obtain ⟨newPoiId, -, h⟩ := bind_eq_ok h
    cases h
    exact Dict.get?_set_of_ne _ (htarget (orRaise_eq_ok htargetDate)) _

/-- The patch names the date. -/
def Names (candidate : PlanCandidate) (patch : EditPatch) (date : Date) : Prop :=
  ∃ operation ∈ patch.operations, date ∈ operationDates candidate operation

theorem days_of_applyOperations
    (hitems : context.candidateItems = .ofList (identifiedItems candidate))
    {operations : List (EditOperation × ℕ)}
    (h : applyOperations context state operations = .ok after) {date : Date}
    (hdate : ∀ entry ∈ operations, date ∉ operationDates candidate entry.1) :
    after.days.get? date = state.days.get? date := by
  induction operations generalizing state with
  | nil => cases h; rfl
  | cons entry rest ih =>
    obtain ⟨hentry, hrest⟩ := List.forall_mem_cons.mp hdate
    obtain ⟨next, hnext, h⟩ := bind_eq_ok h
    rw [ih h hrest, days_of_applyOperation hitems hnext hentry]

/-- A day that is not named is a day of the edited draft. -/
theorem mem_days_of_applyEditPatch {sessionId requestId : String} {trip : TripSpec}
    {draft edited : CandidateDraft} {pois : List PlanningPOI} {patch : EditPatch}
    {ids : Dict String String}
    (h : applyEditPatch sessionId requestId trip candidate draft pois patch = .ok (edited, ids))
    (hnodup : (draft.days.map DraftDay.date).Nodup) {day : DraftDay} (hday : day ∈ draft.days)
    (hnamed : ¬ Names candidate patch day.date) : day ∈ edited.days := by
  obtain ⟨state, hstate, h⟩ := bind_eq_ok h
  cases h
  have hsame :
      state.days.get? day.date = (initialEditState candidate draft).days.get? day.date := by
    refine days_of_applyOperations rfl hstate fun entry hentry hdate => hnamed ⟨entry.1, ?_, hdate⟩
    obtain ⟨i, hi, heq⟩ := List.mem_iff_getElem.mp hentry
    rw [List.getElem_zipIdx] at heq
    rw [← heq]
    exact List.getElem_mem _
  have hget : (initialEditState candidate draft).days.get? day.date = some day.poiIds := by
    rw [initialEditState, ← Dict.mem_entries_iff]
    refine Dict.mem_entries_ofList ?_ (List.mem_map_of_mem hday)
    rwa [List.map_map]
  refine List.mem_map.mpr ⟨day, hday, ?_⟩
  rw [hsame, hget]
  rfl

/-- An edit keeps the dates of a draft. -/
theorem dates_of_applyEditPatch {sessionId requestId : String} {trip : TripSpec}
    {draft edited : CandidateDraft} {pois : List PlanningPOI} {patch : EditPatch}
    {ids : Dict String String}
    (h : applyEditPatch sessionId requestId trip candidate draft pois patch = .ok (edited, ids)) :
    edited.days.map DraftDay.date = draft.days.map DraftDay.date := by
  obtain ⟨state, -, h⟩ := bind_eq_ok h
  cases h
  exact List.map_map ..

end Named

/-! ## The places and the routes of an edited plan -/

section Sources

variable {config : LifecycleConfig} {services : LifecycleServices} {trip : TripSpec}
  {version : PlanVersion} {alternatives pois : List PlanningPOI} {patch : EditPatch}
  {draft : CandidateDraft} {kept routes : Routes} {settings : RouteSettings}

/-- A preview keeps the places of the version. -/
theorem keepsPois_previewPois
    (h : previewPois config services trip version alternatives patch = .ok pois) :
    KeepsPois version.planningPois pois := by
  have halternatives : KeepsPois version.planningPois
      (withAlternatives version.planningPois alternatives) := by
    refine keepsPois_foldl (fun pois poi => ?_) alternatives _
    split
    · exact .refl pois
    · next hnew => exact keepsPois_append hnew
  unfold previewPois at h
  dsimp only at h
  split at h
  · cases h
    exact halternatives
  · obtain ⟨results, -, h⟩ := bind_eq_ok h
    obtain ⟨found, -, h⟩ := bind_eq_ok h
    cases h
    exact halternatives.trans (keepsPois_mergePlanningPois _ _ _ _)

/-- A preview loads only the routes that are missing. -/
theorem get?_previewRoutes (h : previewRoutes services trip draft pois kept settings = .ok routes)
    {key : String} {route : RouteResult} (hkey : kept.get? key = some route) :
    routes.get? key = some route := by
  obtain ⟨delta, hdelta, h⟩ := bind_eq_ok h
  obtain ⟨required, -, hdelta⟩ := bind_eq_ok hdelta
  cases hdelta
  dsimp only at h
  split at h
  · cases h
    exact hkey
  · obtain ⟨answers, hanswers, h⟩ := bind_eq_ok h
    rw [get?_storeRoutes h, hkey]
    intro hanswered
    obtain ⟨query, hquery, rfl⟩ := List.mem_map.mp (keys_getRoutes hanswers hanswered)
    have hmissing := (List.mem_filter.mp hquery).2
    rw [Dict.contains, hkey] at hmissing
    cases hmissing

end Sources

/-! ## Materialised versions -/

/-- An item without its id. -/
def PlanItem.withoutId (item : PlanItem) : PlanItem := { item with itemId := none, locked := false }

/-- A day without the ids of its items. -/
def DayPlan.withoutIds (day : DayPlan) : DayPlan :=
  { day with items := day.items.map PlanItem.withoutId }

/-- The day with the ids of a map. -/
def DayPlan.attachItemIds (ids : Dict String String) (locked : List String) (day : DayPlan) :
    DayPlan :=
  { day with items := day.items.map (attachItemId ids locked) }

/-- The planner makes this day of a day of a draft. -/
def Schedules (trip : TripSpec) (settings : RouteSettings) (pois : List PlanningPOI)
    (routes : Routes) (day : DraftDay) (plan : DayPlan) : Prop :=
  ∃ materialized, materializeDay trip settings pois routes day = .ok materialized ∧
    plan = materialized.day

/-- The candidate is what the planner makes of the draft, up to the ids of the items. -/
structure Materialized (trip : TripSpec) (settings : RouteSettings) (draft : CandidateDraft)
    (pois : List PlanningPOI) (routes : Routes) (candidate : PlanCandidate) : Prop where
  dates : (draft.days.map DraftDay.date).Nodup
  planned : ∃ raw, materializeCandidates trip [draft] pois routes settings = .ok [raw] ∧
    candidate.days.map DayPlan.withoutIds = raw.days

section Planned

variable {trip : TripSpec} {settings : RouteSettings} {draft : CandidateDraft}
  {pois : List PlanningPOI} {routes : Routes} {candidate : PlanCandidate}

/-- What the planner did when it materialised one draft. -/
theorem materializeCandidates_single {candidates : List PlanCandidate}
    (h : materializeCandidates trip [draft] pois routes settings = .ok candidates) :
    (∃ queries, collectRouteQueries trip [draft] pois settings = .ok queries ∧
      ∀ query ∈ queries, routes.contains (routeKey query) = true) ∧
    ∃ raw, candidates = [raw] ∧
      List.Forall₂ (Schedules trip settings pois routes) draft.days raw.days := by
  obtain ⟨queries, hqueries, h⟩ := bind_eq_ok h
  obtain ⟨_, hcovered, h⟩ := bind_eq_ok h
  refine ⟨⟨queries, hqueries, forM_require_eq_ok.mp hcovered⟩, ?_⟩
  obtain ⟨raw, rest, hraw, hrest, rfl⟩ := List.forall₂_cons_left_iff.mp (mapM_eq_ok.mp h)
  cases hrest
  obtain ⟨days, hdays, hraw⟩ := bind_eq_ok hraw
  cases hraw
  refine ⟨_, rfl, List.forall₂_map_right_iff.mpr
    ((mapM_eq_ok.mp hdays).imp fun day plan hday => ?_)⟩
  exact ⟨plan, hday, rfl⟩

theorem Schedules.date_eq {day : DraftDay} {plan : DayPlan}
    (h : Schedules trip settings pois routes day plan) : plan.date = day.date := by
  obtain ⟨materialized, hmaterialized, rfl⟩ := h
  obtain ⟨final, -, hmaterialized⟩ := bind_eq_ok hmaterialized
  cases hmaterialized
  rfl

/-- A materialised candidate has the visits of its draft, with ids. -/
theorem Materialized.visits_eq (h : Materialized trip settings draft pois routes candidate) :
    visits trip draft pois routes settings =
      candidate.datedItems.map fun entry => (entry.1, entry.2.withoutId) := by
  obtain ⟨raw, hraw, hdays⟩ := h.planned
  unfold visits
  rw [hraw]
  simp only [PlanCandidate.datedItems, ← hdays, List.flatMap_map, List.map_flatMap, List.map_map,
    DayPlan.withoutIds, Function.comp_def]

/-- A materialised candidate has the days of its draft. -/
theorem Materialized.scheduled (h : Materialized trip settings draft pois routes candidate) :
    List.Forall₂ (Schedules trip settings pois routes) draft.days
      (candidate.days.map DayPlan.withoutIds) := by
  obtain ⟨raw, hraw, hdays⟩ := h.planned
  obtain ⟨-, raw', heq, hscheduled⟩ := materializeCandidates_single hraw
  cases heq
  rwa [hdays]

/-- A materialised candidate has the dates of its draft. -/
theorem Materialized.candidateDates
    (h : Materialized trip settings draft pois routes candidate) :
    candidate.days.map DayPlan.date = draft.days.map DraftDay.date := by
  have hdates : (candidate.days.map DayPlan.withoutIds).map DayPlan.date =
      draft.days.map DraftDay.date := by
    rw [← List.forall₂_eq_eq_eq, List.forall₂_map_left_iff, List.forall₂_map_right_iff]
    exact h.scheduled.flip.imp fun _ _ hday => Schedules.date_eq hday
  rwa [List.map_map] at hdates

/-- A day of a materialised candidate is found by its date. -/
theorem Materialized.dayOn_eq (h : Materialized trip settings draft pois routes candidate)
    {day : DayPlan} (hday : day ∈ candidate.days) : dayOn candidate day.date = some day := by
  have hnodup : (candidate.days.map DayPlan.date).Nodup := h.candidateDates ▸ h.dates
  refine lastWith_eq_some_of_unique hday (decide_eq_true rfl) fun other hother hdate => ?_
  exact List.inj_on_of_nodup_map hnodup hother hday (of_decide_eq_true hdate)

omit [Platform] in
/-- An item that was given an id is a visit without it. -/
theorem withoutId_attachItemId {ids : Dict String String} {locked : List String} {item : PlanItem}
    (h : IsVisit pois item) : (attachItemId ids locked item).withoutId = item := by
  obtain ⟨poi, -, -, -, -, hid, hlocked⟩ := h
  obtain ⟨itemId, type, name, startAt, endAt, poiId, minutes, meters, cost, estimated, locked⟩ :=
    item
  cases hid
  cases hlocked
  rfl

omit [Platform] in
/-- Handing out ids does not look at the ids that were there. -/
theorem attachItemIds_withoutIds (ids : Dict String String) (locked : List String)
    (day : DayPlan) : day.withoutIds.attachItemIds ids locked = day.attachItemIds ids locked := by
  rw [DayPlan.attachItemIds, DayPlan.withoutIds, List.map_map]
  rfl

omit [Platform] in
theorem withoutIds_attachItemIds {ids : Dict String String} {locked : List String} {day : DayPlan}
    (h : ∀ item ∈ day.items, IsVisit pois item) :
    (day.attachItemIds ids locked).withoutIds = day := by
  have hitems : day.items.map (fun item => (attachItemId ids locked item).withoutId) =
      day.items :=
    (List.map_congr_left fun item hitem => withoutId_attachItemId (h item hitem)).trans
      (List.map_id' _)
  rw [DayPlan.attachItemIds, DayPlan.withoutIds, List.map_map]
  exact congrArg (fun items => { day with items }) hitems

/-- What an edit materialises is materialised. -/
theorem materialized_of_rematerialize {ids : Dict String String} {locked : List String}
    (hdates : (draft.days.map DraftDay.date).Nodup)
    (h : rematerialize trip draft pois routes settings ids locked = .ok candidate) :
    Materialized trip settings draft pois routes candidate := by
  obtain ⟨candidates, hcandidates, h⟩ := bind_eq_ok h
  obtain ⟨-, raw, rfl, hscheduled⟩ := materializeCandidates_single hcandidates
  cases h
  refine ⟨hdates, raw, hcandidates, ?_⟩
  rw [attachItemIds, List.map_map]
  refine (List.map_congr_left fun day hday => ?_).trans (List.map_id' _)
  obtain ⟨_, -, materialized, hmaterialized, rfl⟩ := exists_of_forall₂_right hscheduled hday
  exact withoutIds_attachItemIds (isVisit_of_materializeDay hmaterialized)

end Planned

/-! ## The days that an edit leaves alone -/

section Edited

variable {config : LifecycleConfig} {services : LifecycleServices} {sessionId requestId : String}
  {trip : TripSpec} {version : PlanVersion} {alternatives : List PlanningPOI}
  {locks : List PlanLock} {patch : EditPatch} {plan : EditedPlan}

/-- An edited plan is materialised. -/
theorem materialized_of_editedPlan
    (hplan : editedPlan config services sessionId requestId trip version alternatives locks patch =
      .ok plan)
    (hdates : (version.candidateDraft.days.map DraftDay.date).Nodup) :
    Materialized trip config.planningPolicy.routeSettings plan.draft plan.planningPois plan.routes
      plan.candidate := by
  obtain ⟨-, hedit, -, -, raw, hraw, hcandidate⟩ := editedPlan_eq_ok hplan
  have hmaterialized := materialized_of_rematerialize
    (dates_of_applyEditPatch hedit ▸ hdates) hraw
  rw [hcandidate]
  exact ⟨hmaterialized.dates, hmaterialized.planned⟩

/-- The routes that the edited draft needs and the version knew are kept. -/
theorem routes_of_editedPlan
    (hplan : editedPlan config services sessionId requestId trip version alternatives locks patch =
      .ok plan) {queries : List RouteQuery}
    (hqueries : collectRouteQueries trip [plan.draft] plan.planningPois
      config.planningPolicy.routeSettings = .ok queries)
    {key : String} (hkey : key ∈ queries.map routeKey) {route : RouteResult}
    (hroute : version.routeResults.get? key = some route) : plan.routes.get? key = some route := by
  obtain ⟨-, -, hinvalidated, hroutes, -⟩ := editedPlan_eq_ok hplan
  refine get?_previewRoutes hroutes ?_
  rw [Dict.get?_filterKeys, if_pos, hroute]
  exact decide_eq_true (not_mem_invalidated hinvalidated hqueries hkey)

/-- Where a day of the edited draft begins like a day of the version, both look up the same
places and routes. -/
theorem lookups_of_editedPlan
    (hplan : editedPlan config services sessionId requestId trip version alternatives locks patch =
      .ok plan)
    (hversion : Materialized trip config.planningPolicy.routeSettings version.candidateDraft
      version.planningPois version.routeResults version.candidate)
    {before after : DraftDay} (hbefore : before ∈ version.candidateDraft.days)
    (hafter : after ∈ plan.draft.days) {n : ℕ}
    (hbegin : after.poiIds.take n = before.poiIds.take n) :
    ∃ queries, dayQueries config.planningPolicy.routeSettings version.planningPois
        trip.anchorCoordinate none (before.poiIds.take n) = .ok queries ∧
      (∀ poiId ∈ before.poiIds.take n,
        poiById plan.planningPois poiId = poiById version.planningPois poiId) ∧
      ∀ query ∈ queries,
        plan.routes.get? (routeKey query) = version.routeResults.get? (routeKey query) := by
  obtain ⟨hpois, -⟩ := editedPlan_eq_ok hplan
  obtain ⟨raw, hraw, -⟩ := hversion.planned
  obtain ⟨⟨queries, hqueries, hcovered⟩, -⟩ := materializeCandidates_single hraw
  obtain ⟨raw', hraw', -⟩ := (materialized_of_editedPlan hplan hversion.dates).planned
  obtain ⟨⟨queries', hqueries', -⟩, -⟩ := materializeCandidates_single hraw'
  obtain ⟨dayQs, hdayQs, hkeys⟩ :=
    exists_dayQueries_of_collect hqueries (List.mem_singleton_self _) hbefore
  obtain ⟨dayQs', hdayQs', hkeys'⟩ :=
    exists_dayQueries_of_collect hqueries' (List.mem_singleton_self _) hafter
  obtain ⟨first, hfirst, hsubset⟩ := dayQueries_take hdayQs n
  obtain ⟨first', hfirst', hsubset'⟩ := dayQueries_take hdayQs' n
  have hsame : ∀ poiId ∈ before.poiIds.take n,
      poiById plan.planningPois poiId = poiById version.planningPois poiId := fun poiId hpoi => by
    obtain ⟨poi, hfound⟩ := exists_poiById_of_dayQueries hfirst poiId hpoi
    rw [keepsPois_previewPois hpois poiId poi hfound, hfound]
  rw [hbegin, dayQueries_congr hsame, hfirst] at hfirst'
  cases hfirst'
  refine ⟨first, hfirst, hsame, fun query hquery => ?_⟩
  obtain ⟨query', hquery', heq⟩ := List.mem_map.mp (hkeys query (hsubset hquery))
  obtain ⟨route, hroute⟩ := Option.isSome_iff_exists.mp (hcovered query' hquery')
  rw [heq] at hroute
  rw [routes_of_editedPlan hplan hqueries' (hkeys' query (hsubset' hquery)) hroute, hroute]

/-- A day that is not named is planned as before. -/
theorem schedules_of_editedPlan
    (hplan : editedPlan config services sessionId requestId trip version alternatives locks patch =
      .ok plan)
    (hversion : Materialized trip config.planningPolicy.routeSettings version.candidateDraft
      version.planningPois version.routeResults version.candidate)
    {day : DraftDay} (hday : day ∈ version.candidateDraft.days)
    (hnamed : ¬ Names version.candidate patch day.date) {dayPlan : DayPlan}
    (h : Schedules trip config.planningPolicy.routeSettings version.planningPois
      version.routeResults day dayPlan) :
    day ∈ plan.draft.days ∧
      Schedules trip config.planningPolicy.routeSettings plan.planningPois plan.routes day
        dayPlan := by
  obtain ⟨-, hedit, -⟩ := editedPlan_eq_ok hplan
  have hday' := mem_days_of_applyEditPatch hedit hversion.dates hday hnamed
  refine ⟨hday', ?_⟩
  obtain ⟨queries, hqueries, hpois, hroutes⟩ :=
    lookups_of_editedPlan hplan hversion hday hday' (n := day.poiIds.length) rfl
  rw [List.take_length] at hqueries hpois
  obtain ⟨materialized, hmaterialized, heq⟩ := h
  exact ⟨materialized, (materializeDay_congr hqueries hpois hroutes).trans hmaterialized, heq⟩

/-- A day that is not named keeps its visits; only the ids are handed out anew. -/
theorem dayOn_editedPlan
    (hplan : editedPlan config services sessionId requestId trip version alternatives locks patch =
      .ok plan)
    (hversion : Materialized trip config.planningPolicy.routeSettings version.candidateDraft
      version.planningPois version.routeResults version.candidate)
    {day : DayPlan} (hday : day ∈ version.candidate.days)
    (hnamed : ¬ Names version.candidate patch day.date) :
    dayOn plan.candidate day.date =
      some (day.attachItemIds plan.itemIdsByPoi (lockedItemIds locks)) := by
  obtain ⟨draftDay, hdraftDay, hscheduled⟩ :=
    exists_of_forall₂_right hversion.scheduled (List.mem_map_of_mem hday)
  have hdate : day.date = draftDay.date := hscheduled.date_eq
  obtain ⟨hmem, materialized, hmaterialized, heq⟩ := schedules_of_editedPlan hplan hversion
    hdraftDay (hdate ▸ hnamed) hscheduled
  obtain ⟨-, -, -, -, raw, hraw, hcandidate⟩ := editedPlan_eq_ok hplan
  obtain ⟨candidates, hcandidates, hraw⟩ := bind_eq_ok hraw
  obtain ⟨-, raw', rfl, hscheduled'⟩ := materializeCandidates_single hcandidates
  cases hraw
  obtain ⟨dayPlan, hdayPlan, materialized', hmaterialized', rfl⟩ :=
    exists_of_forall₂_left hscheduled' hmem
  rw [hmaterialized] at hmaterialized'
  cases hmaterialized'
  have hmem' : day.attachItemIds plan.itemIdsByPoi (lockedItemIds locks) ∈ plan.candidate.days := by
    rw [hcandidate]
    exact List.mem_map.mpr ⟨materialized.day, hdayPlan, heq ▸ attachItemIds_withoutIds ..⟩
  exact (materialized_of_editedPlan hplan hversion.dates).dayOn_eq hmem'

end Edited

/-! ## Fingerprints -/

section Fingerprints

variable {day : DayPlan} {ids : Dict String String} {locked : List String}

/-- A day keeps its fingerprint when its items get the ids that they had. -/
theorem dayFingerprint_attachItemIds
    (h : ∀ item ∈ day.items, ids.get? (item.poiId.getD "") = item.itemId) :
    dayFingerprint (day.attachItemIds ids locked) = dayFingerprint day := by
  unfold dayFingerprint
  simp only [DayPlan.attachItemIds, List.map_map]
  congr 8
  refine List.map_congr_left fun item hitem => ?_
  rw [Function.comp_apply, attachItemId, h item hitem]

omit [Platform] in
theorem optionalText_injective : Function.Injective optionalText := fun a b h => by
  cases a <;> cases b <;> simp_all [optionalText]

/-- Without collisions, a day that keeps its fingerprint keeps its ids. -/
theorem itemIds_of_dayFingerprint (hhash : Function.Injective jsonHash)
    (h : dayFingerprint (day.attachItemIds ids locked) = dayFingerprint day) :
    ∀ item ∈ day.items, ids.get? (item.poiId.getD "") = item.itemId := by
  have hjson := hhash h
  simp only [DayPlan.attachItemIds, Json.obj.injEq, List.cons.injEq, Prod.mk.injEq, Json.arr.injEq,
    List.map_map, true_and, and_true] at hjson
  intro item hitem
  have hitem := List.map_inj_left.mp hjson item hitem
  simp only [Function.comp_apply, attachItemId, Json.obj.injEq, List.cons.injEq, Prod.mk.injEq,
    true_and, and_true] at hitem
  exact optionalText_injective hitem

/-- What the fingerprint of an item reads. -/
structure SameItem (a b : Date × PlanItem) : Prop where
  date : a.1 = b.1
  start : a.2.startAt.isoformat = b.2.startAt.isoformat
  finish : a.2.endAt.isoformat = b.2.endAt.isoformat
  itemId : a.2.itemId = b.2.itemId
  name : a.2.name = b.2.name
  poiId : a.2.poiId = b.2.poiId
  type : a.2.type = b.2.type

theorem itemFingerprint_congr {a b : Date × PlanItem} (h : SameItem a b) :
    itemFingerprint a.2 a.1 = itemFingerprint b.2 b.1 := by
  unfold itemFingerprint
  rw [h.date, h.start, h.finish, h.itemId, h.name, h.poiId, h.type]

/-- Without collisions, the fingerprint of an item tells all that it reads. -/
theorem sameItem_of_itemFingerprint (hhash : Function.Injective jsonHash) {a b : Date × PlanItem}
    (h : itemFingerprint a.2 a.1 = itemFingerprint b.2 b.1) : SameItem a b := by
  have hjson := hhash h
  simp only [Json.obj.injEq, List.cons.injEq, Prod.mk.injEq, Json.str.injEq, true_and,
    and_true] at hjson
  obtain ⟨hdate, hfinish, hitemId, hname, hpoi, hstart, htype⟩ := hjson
  refine ⟨Date.isoformat_inj.mp hdate, hstart, hfinish, optionalText_injective hitemId, hname,
    optionalText_injective hpoi, ?_⟩
  cases ha : a.2.type <;> cases hb : b.2.type <;> simp_all [ItemType.value]

end Fingerprints

/-! ## What a patch has to leave alone -/

/-- The id of an item survives the patch: its place was recorded under this id, and no operation
adds the place. -/
def KeepsId (base : PlanCandidate) (patch : EditPatch) (pois : List PlanningPOI)
    (item : PlanItem) : Prop :=
  ∃ poiId, item.poiId = some poiId ∧ poiId ≠ "" ∧ poiId ∉ newPlaces pois patch ∧
    (recordedIds base).get? poiId = item.itemId

/-- The planner comes to the place of an item first on the date and at the time of the item. -/
def VisitedInPlace (scheduled : List (Date × PlanItem)) (entry : Date × PlanItem) : Prop :=
  ∃ visit, scheduled.find? (fun visit => decide (visit.2.poiId = entry.2.poiId)) = some visit ∧
    visit.1 = entry.1 ∧ visit.2.startAt.isoformat = entry.2.startAt.isoformat ∧
    visit.2.endAt.isoformat = entry.2.endAt.isoformat

/-- The items of the days that are not named keep their ids, and so does every locked item,
which the planner still visits in its place. -/
structure LeavesAlone (base : PlanCandidate) (patch : EditPatch) (locks : List PlanLock)
    (pois : List PlanningPOI) (scheduled : List (Date × PlanItem)) : Prop where
  unnamed : ∀ entry ∈ base.datedItems, ¬ Names base patch entry.1 →
    KeepsId base patch pois entry.2
  locked : ∀ lock ∈ locks, lock.kind = .item → ∃ entry ∈ base.datedItems,
    entry.2.itemId = some lock.targetId ∧
      itemFingerprint entry.2 entry.1 = lock.expectedFingerprint ∧
      KeepsId base patch pois entry.2 ∧ VisitedInPlace scheduled entry

section Guard

variable {config : LifecycleConfig} {services : LifecycleServices} {sessionId requestId : String}
  {trip : TripSpec} {version : PlanVersion} {alternatives : List PlanningPOI}
  {locks : List PlanLock} {patch : EditPatch} {plan : EditedPlan}

omit [Platform] in
theorem mem_datedItems_iff {candidate : PlanCandidate} {entry : Date × PlanItem} :
    entry ∈ candidate.datedItems ↔
      ∃ day ∈ candidate.days, day.date = entry.1 ∧ entry.2 ∈ day.items := by
  obtain ⟨date, item⟩ := entry
  simp only [PlanCandidate.datedItems, List.mem_flatMap, List.mem_map, Prod.mk.injEq,
    exists_eq_right_right]
  constructor
  · rintro ⟨day, hday, hitem, rfl⟩
    exact ⟨day, hday, rfl, hitem⟩
  · rintro ⟨day, hday, rfl, hitem⟩
    exact ⟨day, hday, hitem, rfl⟩

/-- An item of a materialised version visits a known place. -/
theorem isVisit_of_mem (hversion : Materialized trip config.planningPolicy.routeSettings
      version.candidateDraft version.planningPois version.routeResults version.candidate)
    {entry : Date × PlanItem} (hentry : entry ∈ version.candidate.datedItems) :
    IsVisit version.planningPois entry.2.withoutId := by
  have hvisit : (entry.1, entry.2.withoutId) ∈ visits trip version.candidateDraft
      version.planningPois version.routeResults config.planningPolicy.routeSettings := by
    rw [hversion.visits_eq]
    exact List.mem_map_of_mem hentry
  exact isVisit_of_visits hvisit

/-- An item keeps its id in the map of the edit exactly when the patch lets it. -/
theorem keepsId_iff
    (hplan : editedPlan config services sessionId requestId trip version alternatives locks patch =
      .ok plan)
    (hversion : Materialized trip config.planningPolicy.routeSettings version.candidateDraft
      version.planningPois version.routeResults version.candidate)
    (hidentified : Identified version.candidate)
    (hfresh : FreshItemIds sessionId requestId version.candidate patch)
    {entry : Date × PlanItem} (hentry : entry ∈ version.candidate.datedItems) :
    plan.itemIdsByPoi.get? (entry.2.poiId.getD "") = entry.2.itemId ↔
      KeepsId version.candidate patch plan.planningPois entry.2 := by
  obtain ⟨-, hedit, -⟩ := editedPlan_eq_ok hplan
  obtain ⟨poi, -, hpoi, -⟩ := isVisit_of_mem hversion hentry
  have hpoi : entry.2.poiId = some poi.facts.id := hpoi
  rw [hpoi, Option.getD_some, KeepsId]
  by_cases hempty : poi.facts.id = ""
  · rw [hempty, ids_empty hedit]
    refine ⟨fun hnone => absurd (hidentified entry hentry) ?_, ?_⟩
    · rw [← hnone]
      decide
    · rintro ⟨poiId, hpoiId, hne, -⟩
      rw [hpoi, hempty, Option.some.injEq] at hpoiId
      exact absurd hpoiId.symm hne
  · rw [ids_eq_iff hedit hidentified hfresh hentry hempty]
    constructor
    · exact fun hboth => ⟨_, hpoi, hempty, hboth⟩
    · rintro ⟨poiId, hpoiId, -, hboth⟩
      rw [hpoi, Option.some.injEq] at hpoiId
      exact hpoiId ▸ hboth

/-- The guard of one day that is not named compares its fingerprint with that of the same day
under new ids. -/
theorem checkPreservedDay_iff
    (hplan : editedPlan config services sessionId requestId trip version alternatives locks patch =
      .ok plan)
    (hversion : Materialized trip config.planningPolicy.routeSettings version.candidateDraft
      version.planningPois version.routeResults version.candidate)
    {day : DayPlan} (hday : day ∈ version.candidate.days)
    (hnamed : ¬ Names version.candidate patch day.date) :
    checkPreservedDay version.candidate plan.candidate day.date = .ok () ↔
      dayFingerprint (day.attachItemIds plan.itemIdsByPoi (lockedItemIds locks)) =
        dayFingerprint day := by
  rw [checkPreservedDay, hversion.dayOn_eq hday, dayOn_editedPlan hplan hversion hday hnamed,
    eq_comm (a := dayFingerprint _)]
  exact require_eq_ok_iff

/-- The item with an id is the first visit of the place that the id was handed out for. -/
theorem locateItem_editedPlan
    (hplan : editedPlan config services sessionId requestId trip version alternatives locks patch =
      .ok plan)
    (hidentified : Identified version.candidate)
    (hfresh : FreshItemIds sessionId requestId version.candidate patch) {poiId itemId : String}
    (hid : plan.itemIdsByPoi.get? poiId = some itemId) :
    locateItem plan.candidate itemId =
      ((plan.visits config trip).find? fun visit => decide (visit.2.poiId = some poiId)).map
        fun visit => (visit.1, attachItemId plan.itemIdsByPoi (lockedItemIds locks) visit.2) := by
  obtain ⟨-, hedit, -⟩ := editedPlan_eq_ok hplan
  rw [locateItem, datedItems_of_editedPlan hplan, List.find?_map]
  congr 1
  refine List.find?_congr fun visit hvisit => ?_
  obtain ⟨visited, hvisited⟩ := poiId_of_visits hvisit
  rw [Function.comp_apply, decide_eq_decide, attachItemId, hvisited, Option.some.injEq,
    Option.getD_some]
  refine ⟨fun hsame => ids_injective hedit hidentified hfresh hsame hid, ?_⟩
  rintro rfl
  exact hid

/-- A locked item that keeps its id and its place keeps its lock. -/
theorem lockHolds_of_visitedInPlace
    (hplan : editedPlan config services sessionId requestId trip version alternatives locks patch =
      .ok plan)
    (hversion : Materialized trip config.planningPolicy.routeSettings version.candidateDraft
      version.planningPois version.routeResults version.candidate)
    (hidentified : Identified version.candidate)
    (hfresh : FreshItemIds sessionId requestId version.candidate patch)
    {lock : PlanLock} (hkind : lock.kind = .item) {entry : Date × PlanItem}
    (hentry : entry ∈ version.candidate.datedItems) (hid : entry.2.itemId = some lock.targetId)
    (hlock : itemFingerprint entry.2 entry.1 = lock.expectedFingerprint)
    (hkeeps : KeepsId version.candidate patch plan.planningPois entry.2)
    (hplace : VisitedInPlace (plan.visits config trip) entry) :
    lockHolds plan.candidate lock = true := by
  obtain ⟨hpois, -⟩ := editedPlan_eq_ok hplan
  obtain ⟨poi, hfound, hpoi, hname, htype, -⟩ := isVisit_of_mem hversion hentry
  have hpoi : entry.2.poiId = some poi.facts.id := hpoi
  have hget := (keepsId_iff hplan hversion hidentified hfresh hentry).mpr hkeeps
  rw [hpoi, Option.getD_some, hid] at hget
  obtain ⟨visit, hfirst, hdate, hstart, hfinish⟩ := hplace
  have hvisit := List.mem_of_find?_eq_some hfirst
  have hsamePoi : visit.2.poiId = entry.2.poiId := by
    have hpos := List.find?_some hfirst
    exact of_decide_eq_true hpos
  obtain ⟨poi', hfound', hpoi', hname', htype', -⟩ := isVisit_of_visits hvisit
  -- The place is still known under its id, so the visit has the name that was locked.
  have hsameId : poi'.facts.id = poi.facts.id :=
    Option.some.inj (hpoi'.symm.trans (hsamePoi.trans hpoi))
  rw [hsameId, keepsPois_previewPois hpois _ _ hfound, Option.some.injEq] at hfound'
  subst hfound'
  rw [hpoi] at hfirst
  unfold lockHolds
  rw [hkind]
  dsimp only
  rw [locateItem_editedPlan hplan hidentified hfresh hget, hfirst, Option.map_some,
    Option.any_some, decide_eq_true_eq, ← hlock]
  refine itemFingerprint_congr (a := (visit.1, _)) (b := entry)
    ⟨hdate, hstart, hfinish, ?_, hname'.trans hname.symm, hsamePoi, htype'.trans htype.symm⟩
  rw [attachItemId, hpoi', Option.getD_some, hget, hid]

/-- Without collisions, an item that keeps its lock keeps its id and its place. -/
theorem visitedInPlace_of_lockHolds (hhash : Function.Injective jsonHash)
    (hplan : editedPlan config services sessionId requestId trip version alternatives locks patch =
      .ok plan)
    (hversion : Materialized trip config.planningPolicy.routeSettings version.candidateDraft
      version.planningPois version.routeResults version.candidate)
    (hidentified : Identified version.candidate)
    (hfresh : FreshItemIds sessionId requestId version.candidate patch)
    {lock : PlanLock} (hkind : lock.kind = .item) {entry : Date × PlanItem}
    (hentry : entry ∈ version.candidate.datedItems) (hid : entry.2.itemId = some lock.targetId)
    (hlock : itemFingerprint entry.2 entry.1 = lock.expectedFingerprint)
    (hholds : lockHolds plan.candidate lock = true) :
    KeepsId version.candidate patch plan.planningPois entry.2 ∧
      VisitedInPlace (plan.visits config trip) entry := by
  obtain ⟨poi, -, hpoi, -⟩ := isVisit_of_mem hversion hentry
  have hpoi : entry.2.poiId = some poi.facts.id := hpoi
  unfold lockHolds at hholds
  rw [hkind] at hholds
  obtain ⟨located, hlocated, hsame⟩ := (Option.any_eq_true _ _).mp hholds
  have hsame := sameItem_of_itemFingerprint hhash ((of_decide_eq_true hsame).trans hlock.symm)
  -- The id that was found was handed out for the locked place.
  have hmem := List.mem_of_find?_eq_some hlocated
  rw [datedItems_of_editedPlan hplan] at hmem
  obtain ⟨visit, hvisit, rfl⟩ := List.mem_map.mp hmem
  have hget : plan.itemIdsByPoi.get? (entry.2.poiId.getD "") = entry.2.itemId := by
    rw [← hsame.itemId, ← hsame.poiId]
    rfl
  refine ⟨(keepsId_iff hplan hversion hidentified hfresh hentry).mp hget, ?_⟩
  rw [hpoi, Option.getD_some, hid] at hget
  rw [locateItem_editedPlan hplan hidentified hfresh hget, Option.map_eq_some_iff] at hlocated
  obtain ⟨first, hfirst, heq⟩ := hlocated
  have hdate := congrArg (fun entry : Date × PlanItem => entry.1) heq
  have hstart := congrArg (fun entry : Date × PlanItem => entry.2.startAt.isoformat) heq
  have hfinish := congrArg (fun entry : Date × PlanItem => entry.2.endAt.isoformat) heq
  exact ⟨first, hpoi ▸ hfirst, hdate.trans hsame.date, hstart.trans hsame.start,
    hfinish.trans hsame.finish⟩

omit [Platform] in
/-- The day of a lock that met no conflict is not named. -/
theorem not_names_of_lockConflicts {maxAffectedDays : ℕ}
    (hconflicts : (analyzeChangeImpact version.candidate patch locks
      maxAffectedDays).lockConflicts = [])
    {lock : PlanLock} (hlock : lock ∈ locks) (hkind : lock.kind = .day) {date : Date}
    (hdate : date.isoformat = lock.targetId) : ¬ Names version.candidate patch date := by
  rintro ⟨operation, hoperation, hnamed⟩
  have hnone := not_conflicting hconflicts hlock hoperation
  rw [hkind] at hnone
  exact hnone date hnamed hdate.symm

/-- A locked day that keeps its fingerprint keeps its lock. -/
theorem checkLock_of_preservedDay
    (hplan : editedPlan config services sessionId requestId trip version alternatives locks patch =
      .ok plan)
    (hversion : Materialized trip config.planningPolicy.routeSettings version.candidateDraft
      version.planningPois version.routeResults version.candidate)
    {lock : PlanLock} (hkind : lock.kind = .day) {day : DayPlan}
    (hday : day ∈ version.candidate.days) (hnamed : ¬ Names version.candidate patch day.date)
    (hdate : day.date.isoformat = lock.targetId)
    (hlock : dayFingerprint day = lock.expectedFingerprint)
    (hsame : dayFingerprint (day.attachItemIds plan.itemIdsByPoi (lockedItemIds locks)) =
      dayFingerprint day) :
    checkLock plan.candidate lock = .ok () := by
  have hiso : Date.fromisoformat lock.targetId = some day.date := by
    rw [← hdate, Date.fromisoformat_isoformat]
  have hholds : lockHolds plan.candidate lock = true := by
    unfold lockHolds
    rw [hkind]
    dsimp only
    rw [hiso, Option.bind_some, dayOn_editedPlan hplan hversion hday hnamed, Option.any_some,
      decide_eq_true_eq, hsame, hlock]
  unfold checkLock
  rw [hkind]
  dsimp only
  rw [hiso]
  exact require_eq_ok_iff.mpr hholds

/-- The guard of a preview lets an edit without lock conflicts pass exactly when the patch leaves
alone what it does not name. -/
theorem checkLocality_iff
    (hplan : editedPlan config services sessionId requestId trip version alternatives locks patch =
      .ok plan)
    (hversion : Materialized trip config.planningPolicy.routeSettings version.candidateDraft
      version.planningPois version.routeResults version.candidate)
    (hidentified : Identified version.candidate)
    (hfresh : FreshItemIds sessionId requestId version.candidate patch)
    (hlocks : ∀ lock ∈ locks, LockHolds version.candidate lock) {maxAffectedDays : ℕ}
    (hconflicts : (analyzeChangeImpact version.candidate patch locks
      maxAffectedDays).lockConflicts = []) :
    let preserved := (analyzeChangeImpact version.candidate patch locks
      maxAffectedDays).preservedDates
    let alone := LeavesAlone version.candidate patch locks plan.planningPois
      (plan.visits config trip)
    (alone → checkLocality version.candidate plan.candidate preserved locks = .ok ()) ∧
      (Function.Injective jsonHash →
        checkLocality version.candidate plan.candidate preserved locks = .ok () → alone) := by
  intro preserved alone
  have hpreserved {day : DayPlan} (hday : day ∈ version.candidate.days) :
      day.date ∈ preserved ↔ ¬ Names version.candidate patch day.date := by
    rw [mem_preservedDates_iff]
    exact ⟨fun hboth hnamed => by
        obtain ⟨operation, hoperation, hdate⟩ := hnamed
        exact hboth.2 operation hoperation hdate,
      fun hnamed => ⟨List.mem_map_of_mem hday, fun operation hoperation hdate =>
        hnamed ⟨operation, hoperation, hdate⟩⟩⟩
  have hitem {day : DayPlan} (hday : day ∈ version.candidate.days) {item : PlanItem}
      (hitem : item ∈ day.items) : (day.date, item) ∈ version.candidate.datedItems :=
    mem_datedItems_iff.mpr ⟨day, hday, rfl, hitem⟩
  constructor
  · intro halone
    have hsame {day : DayPlan} (hday : day ∈ version.candidate.days)
        (hnamed : ¬ Names version.candidate patch day.date) :
        dayFingerprint (day.attachItemIds plan.itemIdsByPoi (lockedItemIds locks)) =
          dayFingerprint day :=
      dayFingerprint_attachItemIds fun item hmem =>
        (keepsId_iff hplan hversion hidentified hfresh (hitem hday hmem)).mpr
          (halone.unnamed _ (hitem hday hmem) hnamed)
    have hdays : preserved.forM (checkPreservedDay version.candidate plan.candidate) =
        .ok ⟨⟩ := by
      refine forM_eq_ok.mpr fun date hdate => ?_
      obtain ⟨day, hday, rfl⟩ := List.mem_map.mp (mem_preservedDates_iff.mp hdate).1
      have hnamed := (hpreserved hday).mp hdate
      exact (checkPreservedDay_iff hplan hversion hday hnamed).mpr (hsame hday hnamed)
    have hguard : locks.forM (checkLock plan.candidate) = .ok ⟨⟩ := by
      refine forM_eq_ok.mpr fun lock hlock => ?_
      have hholds := hlocks lock hlock
      unfold LockHolds at hholds
      cases hkind : lock.kind with
      | day =>
        rw [hkind] at hholds
        obtain ⟨day, hday, hdate, hfingerprint⟩ := hholds
        have hnamed := not_names_of_lockConflicts hconflicts hlock hkind hdate
        exact checkLock_of_preservedDay hplan hversion hkind hday hnamed hdate hfingerprint
          (hsame hday hnamed)
      | item =>
        obtain ⟨entry, hentry, hid, hfingerprint, hkeeps, hplace⟩ := halone.locked lock hlock hkind
        unfold checkLock
        rw [hkind]
        exact require_eq_ok_iff.mpr (lockHolds_of_visitedInPlace hplan hversion hidentified hfresh
          hkind hentry hid hfingerprint hkeeps hplace)
    rw [checkLocality, hdays]
    exact hguard
  · intro hhash hguard
    obtain ⟨_, hdays, hguard⟩ := bind_eq_ok hguard
    have hdays := forM_eq_ok.mp hdays
    have hguard := forM_eq_ok.mp hguard
    refine ⟨fun entry hentry hnamed => ?_, fun lock hlock hkind => ?_⟩
    · obtain ⟨day, hday, hdate, hmem⟩ := mem_datedItems_iff.mp hentry
      rw [← hdate] at hnamed
      have hsame := (checkPreservedDay_iff hplan hversion hday hnamed).mp
        (hdays day.date ((hpreserved hday).mpr hnamed))
      exact (keepsId_iff hplan hversion hidentified hfresh hentry).mp
        (itemIds_of_dayFingerprint hhash hsame entry.2 hmem)
    · have hholds := hlocks lock hlock
      unfold LockHolds at hholds
      rw [hkind] at hholds
      obtain ⟨day, hday, item, hmem, hid, hfingerprint⟩ := hholds
      have hcheck := hguard lock hlock
      unfold checkLock at hcheck
      rw [hkind] at hcheck
      exact ⟨(day.date, item), hitem hday hmem, hid, hfingerprint,
        visitedInPlace_of_lockHolds hhash hplan hversion hidentified hfresh hkind
          (hitem hday hmem) hid hfingerprint (require_eq_ok hcheck)⟩

end Guard

namespace Sample
omit [Platform]

/-- Two visits on the first day and none on the second. -/
def pairSession : PlanSession :=
  selectedFrom [⟨"balanced-r0", .balanced, [⟨day1, ["a", "b"]⟩, ⟨day2, []⟩]⟩] pois

end Sample

omit [Platform] in
/-- Removing the earlier visit makes the locked later visit start earlier: the analysis reports
no conflict, and the guard raises an internal error. -/
theorem exists_edit_locked_item_changed :
    let := plainPlatform
    let session := (Sample.send Sample.pairSession "after r1" "lock"
      (.lock .item (Sample.itemIdOf Sample.pairSession "b"))).2
    let patch := Sample.removal Sample.pairSession "a"
    Reachable Sample.config session ∧
      (∃ version ∈ (activeVersion session.record).toOption,
        (analyzeChangeImpact version.candidate patch session.record.locks.values
          Sample.config.maxAffectedDays).lockConflicts = []) ∧
      (Sample.send session "after lock" "r2" (.edit patch)).1 =
        .raised (.runtimeError "locked item changed during local edit") :=
  ⟨Sample.reachable_send (Sample.reachable_send (Sample.reachable_startedWith ..) ..) ..,
    by decide +kernel, by decide +kernel⟩

end TravelPlanAgent
