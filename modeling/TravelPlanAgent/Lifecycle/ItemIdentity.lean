import TravelPlanAgent.Lifecycle.SessionInvariant

/-!
# The ids of the items of an edited plan

An edited plan takes the ids of its items from a map by POI.  The map knows the POIs that the
version had scheduled and the places that the edit adds; it does not know a POI of the draft
that had not fitted into its day, and an added place overwrites what was recorded before.

* `newPlaces`: the places of the add and replace operations.
* `recordedIds`: the id of every POI that the version had scheduled.
* `ids_of_applyEditPatch`: the map after an edit.
* `visits`: what the planner schedules from a draft.
* `StableIdentity`: every item has an id of its own, and the items left alone keep theirs.
* `stableIdentity_iff`: exactly when an edited plan has stable identity.
-/

namespace TravelPlanAgent

open Calendar

variable [Platform]

/-! ## The map after an edit -/

/-- The place that an add or replace operation resolves to. -/
def newPlace (pois : List PlanningPOI) (operation : EditOperation) : Option String :=
  if operation.kind = .addItem ∨ operation.kind = .replaceItem then
    (resolvePoi pois (operation.poiName.getD "")).toOption
  else none

/-- The places that a patch adds. -/
def newPlaces (pois : List PlanningPOI) (patch : EditPatch) : List String :=
  patch.operations.filterMap (newPlace pois)

/-- The id of every POI that a candidate schedules. -/
def recordedIds (candidate : PlanCandidate) : Dict String String :=
  itemIdsByPoi (.ofList (identifiedItems candidate))

section Edit

variable {context : EditContext} {state after : EditState} {operation : EditOperation}
  {index : ℕ}

theorem newPlace_eq_some {pois : List PlanningPOI} {poiId : String}
    (hkind : operation.kind = .addItem ∨ operation.kind = .replaceItem)
    (hresolve : resolvePoi pois (operation.poiName.getD "") = .ok poiId) :
    newPlace pois operation = some poiId := by
  rw [newPlace, if_pos hkind, hresolve]
  rfl

/-- An operation records its new place and no other. -/
theorem itemIds_of_applyOperation
    (h : applyOperation context state operation index = .ok after) (poiId : String) :
    after.itemIdsByPoi.get? poiId =
      if newPlace context.planningPois operation = some poiId
        then some (newItemId context.sessionId context.requestId index)
        else state.itemIdsByPoi.get? poiId := by
  unfold applyOperation at h
  obtain ⟨_, -, h⟩ := bind_eq_ok h
  cases hkind : operation.kind with
  | removeItem =>
    rw [hkind] at h
    obtain ⟨⟨_, _, days⟩, -, h⟩ := bind_eq_ok h
    cases h
    rw [newPlace, hkind]
    rfl
  | moveItem | reorderItem =>
    rw [hkind] at h
    obtain ⟨⟨_, _, days⟩, -, h⟩ := bind_eq_ok h
    obtain ⟨there, -, h⟩ := bind_eq_ok h
    cases h
    rw [newPlace, hkind]
    rfl
  | replaceItem =>
    rw [hkind] at h
    obtain ⟨⟨day, oldPoiId⟩, -, h⟩ := bind_eq_ok h
    obtain ⟨newPoiId, hnew, h⟩ := bind_eq_ok h
    obtain ⟨there, -, h⟩ := bind_eq_ok h
    obtain ⟨_, -, h⟩ := bind_eq_ok h
    cases h
    rw [newPlace_eq_some (.inr hkind) hnew, Dict.get?_set]
    simp only [Option.some.injEq, eq_comm]
  | addItem =>
    rw [hkind] at h
    obtain ⟨target, -, h⟩ := bind_eq_ok h
    obtain ⟨there, -, h⟩ := bind_eq_ok h
    obtain ⟨newPoiId, hnew, h⟩ := bind_eq_ok h
    cases h
    rw [newPlace_eq_some (.inl hkind) hnew, Dict.get?_set]
    simp only [Option.some.injEq, eq_comm]

/-- The last operation that adds a place gives it its id; other POIs keep what was recorded. -/
theorem itemIds_of_applyOperations {operations : List (EditOperation × ℕ)}
    (h : applyOperations context state operations = .ok after) (poiId : String) :
    (∃ entry ∈ operations, newPlace context.planningPois entry.1 = some poiId ∧
      after.itemIdsByPoi.get? poiId =
        some (newItemId context.sessionId context.requestId entry.2)) ∨
    ((∀ entry ∈ operations, newPlace context.planningPois entry.1 ≠ some poiId) ∧
      after.itemIdsByPoi.get? poiId = state.itemIdsByPoi.get? poiId) := by
  induction operations generalizing state with
  | nil =>
    cases h
    exact .inr ⟨fun _ hmem => absurd hmem List.not_mem_nil, rfl⟩
  | cons entry rest ih =>
    obtain ⟨next, hnext, h⟩ := bind_eq_ok h
    have hids := itemIds_of_applyOperation hnext poiId
    rcases ih h with ⟨later, hmem, hlater⟩ | ⟨hnone, hsame⟩
    · exact .inl ⟨later, List.mem_cons_of_mem _ hmem, hlater⟩
    · by_cases hplace : newPlace context.planningPois entry.1 = some poiId
      · rw [if_pos hplace] at hids
        exact .inl ⟨entry, List.mem_cons_self, hplace, hsame.trans hids⟩
      · rw [if_neg hplace] at hids
        exact .inr ⟨List.forall_mem_cons.mpr ⟨hplace, hnone⟩, hsame.trans hids⟩

end Edit

/-! ## What a version has recorded -/

section Recorded

variable {candidate : PlanCandidate}

omit [Platform] in
theorem mem_identifiedItems {itemId : String} {entry : Date × PlanItem} :
    (itemId, entry) ∈ identifiedItems candidate ↔
      entry ∈ candidate.datedItems ∧ entry.2.itemId = some itemId := by
  obtain ⟨date, item⟩ := entry
  unfold identifiedItems
  simp only [List.mem_filterMap, Prod.exists, Option.map_eq_some_iff, Prod.mk.injEq]
  constructor
  · rintro ⟨date', item', hmem, itemId', hid, rfl, rfl, rfl⟩
    exact ⟨hmem, hid⟩
  · rintro ⟨hmem, hid⟩
    exact ⟨date, item, hmem, itemId, hid, rfl, rfl, rfl⟩

omit [Platform] in
/-- A recorded id belongs to the item of its POI that the version keeps under this id. -/
theorem exists_of_recordedIds {poiId itemId : String}
    (h : (recordedIds candidate).get? poiId = some itemId) :
    ∃ entry, (Dict.ofList (identifiedItems candidate)).get? itemId = some entry ∧
      entry.2.poiId = some poiId := by
  have hmem := Dict.mem_of_get?_ofList h
  simp only [List.mem_filterMap, Prod.exists, Option.map_eq_some_iff, Prod.mk.injEq] at hmem
  obtain ⟨id, date, item, hentry, poiId', hpoi, rfl, rfl⟩ := hmem
  exact ⟨(date, item), Dict.mem_entries_iff.mp hentry, hpoi⟩

omit [Platform] in
/-- No id is recorded for two POIs. -/
theorem recordedIds_injective {p q itemId : String}
    (hp : (recordedIds candidate).get? p = some itemId)
    (hq : (recordedIds candidate).get? q = some itemId) : p = q := by
  obtain ⟨entry, hentry, hpoi⟩ := exists_of_recordedIds hp
  obtain ⟨entry', hentry', hpoi'⟩ := exists_of_recordedIds hq
  rw [hentry, Option.some.injEq] at hentry'
  rw [← hentry', hpoi] at hpoi'
  exact Option.some.inj hpoi'

omit [Platform] in
theorem mem_datedItems_of_recordedIds {poiId itemId : String}
    (h : (recordedIds candidate).get? poiId = some itemId) :
    ∃ entry ∈ candidate.datedItems, entry.2.itemId = some itemId ∧ entry.2.poiId = some poiId := by
  obtain ⟨entry, hentry, hpoi⟩ := exists_of_recordedIds h
  obtain ⟨hmem, hid⟩ := mem_identifiedItems.mp (Dict.mem_of_get?_ofList hentry)
  exact ⟨entry, hmem, hid, hpoi⟩

end Recorded

/-! ## The ids of an edit -/

/-- The hash tells the ids of an edit apart from each other and from those of the version. -/
@[mk_iff]
structure FreshItemIds (sessionId requestId : String) (candidate : PlanCandidate)
    (patch : EditPatch) : Prop where
  distinct : ∀ i < patch.operations.length, ∀ j < patch.operations.length,
    newItemId sessionId requestId i = newItemId sessionId requestId j → i = j
  fresh : ∀ i < patch.operations.length, ∀ entry ∈ candidate.datedItems,
    entry.2.itemId ≠ some (newItemId sessionId requestId i)

/-- Every item of a version has an id. -/
def Identified (candidate : PlanCandidate) : Prop :=
  ∀ entry ∈ candidate.datedItems, isGiven entry.2.itemId = true

section Ids

variable {sessionId requestId : String} {trip : TripSpec} {candidate : PlanCandidate}
  {draft edited : CandidateDraft} {pois : List PlanningPOI} {patch : EditPatch}
  {ids : Dict String String}

theorem newItemId_ne_empty (sessionId requestId : String) (index : ℕ) :
    newItemId sessionId requestId index ≠ "" := by
  intro h
  have hchars := congrArg String.toList h
  rw [newItemId, String.toList_append] at hchars
  exact absurd hchars (by simp)

theorem mem_newPlaces_iff {poiId : String} :
    poiId ∈ newPlaces pois patch ↔
      ∃ operation ∈ patch.operations, newPlace pois operation = some poiId :=
  List.mem_filterMap

omit [Platform] in
/-- The map that an edit hands on drops empty POIs and empty ids. -/
theorem get?_filtered (d : Dict String String) (poiId : String) :
    (Dict.ofList ((d.filterKeys fun key => decide (key ≠ "")).entries.filter
      fun entry => decide (entry.2 ≠ ""))).get? poiId =
      if poiId = "" then none else (d.get? poiId).filter fun itemId => decide (itemId ≠ "") := by
  apply Option.ext
  intro itemId
  have hnodup : (((d.filterKeys fun key => decide (key ≠ "")).entries.filter
      fun entry => decide (entry.2 ≠ "")).reverse.map Prod.fst).Nodup := by
    rw [List.map_reverse, List.nodup_reverse]
    exact (d.filterKeys _).nodup.sublist (List.Sublist.map _ List.filter_sublist)
  rw [Dict.get?_ofList, ← Dict.mem_iff_lookupIn hnodup, List.mem_reverse, List.mem_filter,
    Dict.mem_entries_iff, Dict.get?_filterKeys]
  by_cases hpoi : poiId = ""
  · simp [hpoi]
  · simp [hpoi, Option.filter_eq_some_iff]

/-- The map of an edit: the new places by their new ids, the others as recorded. -/
theorem ids_of_applyEditPatch
    (h : applyEditPatch sessionId requestId trip candidate draft pois patch = .ok (edited, ids))
    (hidentified : Identified candidate) {poiId : String} (hpoi : poiId ≠ "") :
    (∃ i, ∃ hi : i < patch.operations.length,
      newPlace pois patch.operations[i] = some poiId ∧
        ids.get? poiId = some (newItemId sessionId requestId i)) ∨
    (poiId ∉ newPlaces pois patch ∧
      ids.get? poiId = (recordedIds candidate).get? poiId) := by
  obtain ⟨state, hstate, h⟩ := bind_eq_ok h
  cases h
  rw [get?_filtered, if_neg hpoi]
  rcases itemIds_of_applyOperations hstate poiId with ⟨⟨operation, i⟩, hmem, hplace, hid⟩ |
    ⟨hnone, hsame⟩
  · left
    obtain ⟨hi, heq⟩ := List.getElem?_eq_some_iff.mp (List.mk_mem_zipIdx_iff_getElem?.mp hmem)
    refine ⟨i, hi, by rw [heq]; exact hplace, ?_⟩
    rw [hid]
    exact Option.filter_eq_some_iff.mpr ⟨rfl, decide_eq_true (newItemId_ne_empty _ _ _)⟩
  · right
    refine ⟨fun hplaces => ?_, ?_⟩
    · obtain ⟨operation, hoperation, hplace⟩ := mem_newPlaces_iff.mp hplaces
      obtain ⟨i, hi, heq⟩ := List.mem_iff_getElem.mp hoperation
      refine hnone (operation, i) (List.mk_mem_zipIdx_iff_getElem?.mpr ?_) hplace
      rw [List.getElem?_eq_getElem hi, heq]
    · rw [hsame]
      change ((recordedIds candidate).get? poiId).filter _ = _
      cases hrecorded : (recordedIds candidate).get? poiId with
      | none => rfl
      | some itemId =>
        obtain ⟨entry, hentry, hid, -⟩ := mem_datedItems_of_recordedIds hrecorded
        have hgiven := hidentified entry hentry
        rw [isGiven, hid] at hgiven
        exact Option.filter_eq_some_iff.mpr ⟨rfl, hgiven⟩

theorem ids_empty
    (h : applyEditPatch sessionId requestId trip candidate draft pois patch = .ok (edited, ids)) :
    ids.get? "" = none := by
  obtain ⟨state, -, h⟩ := bind_eq_ok h
  cases h
  rw [get?_filtered, if_pos rfl]

/-- A POI has an id after an edit when it is a new place or was recorded. -/
theorem ids_ne_none_iff
    (h : applyEditPatch sessionId requestId trip candidate draft pois patch = .ok (edited, ids))
    (hidentified : Identified candidate) {poiId : String} :
    ids.get? poiId ≠ none ↔ poiId ≠ "" ∧
      (poiId ∈ newPlaces pois patch ∨ (recordedIds candidate).get? poiId ≠ none) := by
  by_cases hpoi : poiId = ""
  · subst hpoi
    simp [ids_empty h]
  · rcases ids_of_applyEditPatch h hidentified hpoi with ⟨i, hi, hplace, hid⟩ | ⟨hnew, hid⟩
    · have hmem : poiId ∈ newPlaces pois patch :=
        mem_newPlaces_iff.mpr ⟨_, List.getElem_mem hi, hplace⟩
      rw [hid]
      exact ⟨fun _ => ⟨hpoi, .inl hmem⟩, fun _ => nofun⟩
    · rw [hid]
      exact ⟨fun hne => ⟨hpoi, .inr hne⟩, fun hor => hor.2.resolve_left hnew⟩

/-- No two POIs have one id after an edit. -/
theorem ids_injective
    (h : applyEditPatch sessionId requestId trip candidate draft pois patch = .ok (edited, ids))
    (hidentified : Identified candidate) (hfresh : FreshItemIds sessionId requestId candidate patch)
    {p q itemId : String} (hp : ids.get? p = some itemId) (hq : ids.get? q = some itemId) :
    p = q := by
  have hne {poiId : String} (hsome : ids.get? poiId = some itemId) : poiId ≠ "" := by
    rintro rfl
    rw [ids_empty h] at hsome
    cases hsome
  rcases ids_of_applyEditPatch h hidentified (hne hp) with ⟨i, hi, hpi, hidp⟩ | ⟨-, hidp⟩ <;>
    rcases ids_of_applyEditPatch h hidentified (hne hq) with ⟨j, hj, hqj, hidq⟩ | ⟨-, hidq⟩
  · have hij := hfresh.distinct i hi j hj
      (Option.some.inj (hidp.symm.trans (hp.trans (hq.symm.trans hidq))))
    subst hij
    exact Option.some.inj (hpi.symm.trans hqj)
  · obtain ⟨entry, hentry, hid, -⟩ := mem_datedItems_of_recordedIds (hidq.symm.trans hq)
    exact absurd (hid.trans (hp.symm.trans hidp)) (hfresh.fresh i hi entry hentry)
  · obtain ⟨entry, hentry, hid, -⟩ := mem_datedItems_of_recordedIds (hidp.symm.trans hp)
    exact absurd (hid.trans (hq.symm.trans hidq)) (hfresh.fresh j hj entry hentry)
  · exact recordedIds_injective (hidp.symm.trans hp) (hidq.symm.trans hq)

/-- A POI keeps the id of an item of the version when the version recorded it and no operation
adds the POI. -/
theorem ids_eq_iff
    (h : applyEditPatch sessionId requestId trip candidate draft pois patch = .ok (edited, ids))
    (hidentified : Identified candidate) (hfresh : FreshItemIds sessionId requestId candidate patch)
    {entry : Date × PlanItem} (hentry : entry ∈ candidate.datedItems) {poiId : String}
    (hpoi : poiId ≠ "") :
    ids.get? poiId = entry.2.itemId ↔
      poiId ∉ newPlaces pois patch ∧ (recordedIds candidate).get? poiId = entry.2.itemId := by
  rcases ids_of_applyEditPatch h hidentified hpoi with ⟨i, hi, hplace, hid⟩ | ⟨hnew, hid⟩
  · have hmem : poiId ∈ newPlaces pois patch :=
      mem_newPlaces_iff.mpr ⟨_, List.getElem_mem hi, hplace⟩
    rw [hid]
    exact ⟨fun heq => absurd heq.symm (hfresh.fresh i hi entry hentry),
      fun hboth => absurd hmem hboth.1⟩
  · rw [hid]
    exact ⟨fun heq => ⟨hnew, heq⟩, And.right⟩

end Ids

/-! ## What the planner schedules -/

/-- The visits that the planner schedules from a draft, with their dates. -/
def visits (trip : TripSpec) (draft : CandidateDraft) (pois : List PlanningPOI) (routes : Routes)
    (settings : RouteSettings) : List (Date × PlanItem) :=
  match materializeCandidates trip [draft] pois routes settings with
  | .ok (candidate :: _) => candidate.datedItems
  | _ => []

/-- The POIs of these visits. -/
def visitedPois (trip : TripSpec) (draft : CandidateDraft) (pois : List PlanningPOI)
    (routes : Routes) (settings : RouteSettings) : List String :=
  (visits trip draft pois routes settings).filterMap fun visit => visit.2.poiId

section Visits

variable {trip : TripSpec} {draft : CandidateDraft} {pois : List PlanningPOI} {routes : Routes}
  {settings : RouteSettings} {ids : Dict String String} {locked : List String}
  {after : PlanCandidate}

/-- A visit of a known place, which has no id yet. -/
def IsVisit (pois : List PlanningPOI) (item : PlanItem) : Prop :=
  ∃ poi, poiById pois poi.facts.id = some poi ∧ item.poiId = some poi.facts.id ∧
    item.name = poi.facts.name ∧ item.type = .activity ∧ item.itemId = none ∧ item.locked = false

theorem isVisit_of_materializeDay {day : DraftDay} {materialized : MaterializedDay}
    (h : materializeDay trip settings pois routes day = .ok materialized) :
    ∀ item ∈ materialized.day.items, IsVisit pois item := by
  obtain ⟨final, hfinal, h⟩ := bind_eq_ok h
  cases h
  exact visitAll_preserves (motive := fun progress =>
    ∀ item ∈ progress.items, IsVisit pois item)
    (fun progress poiId after hprogress hnext => by
      obtain ⟨poi, leg, window, item, hfound, -, -, -, hitem, rfl⟩ := visitNext_eq_some hnext
      obtain ⟨hid, htype, hname, -, -, hpoi, hlocked, -⟩ := visitItem_eq_ok hitem
      intro other hother
      rcases List.mem_append.mp hother with hold | hnew
      · exact hprogress other hold
      · rw [List.mem_singleton.mp hnew]
        exact ⟨poi, (facts_id_of_poiById hfound).symm ▸ hfound, hpoi, hname, htype, hid, hlocked⟩)
    (fun item hitem => absurd hitem List.not_mem_nil) hfinal

theorem isVisit_of_visits {visit : Date × PlanItem}
    (h : visit ∈ visits trip draft pois routes settings) : IsVisit pois visit.2 := by
  unfold visits at h
  split at h
  · next candidate rest hcandidates =>
    obtain ⟨queries, -, hcandidates⟩ := bind_eq_ok hcandidates
    obtain ⟨_, -, hcandidates⟩ := bind_eq_ok hcandidates
    obtain ⟨candidate', rest', hcandidate, -, heq⟩ :=
      List.forall₂_cons_left_iff.mp (mapM_eq_ok.mp hcandidates)
    cases heq
    obtain ⟨days, hdays, hcandidate⟩ := bind_eq_ok hcandidate
    cases hcandidate
    simp only [PlanCandidate.datedItems, List.mem_flatMap, List.mem_map] at h
    obtain ⟨day, ⟨materialized, hmaterialized, rfl⟩, item, hitem, rfl⟩ := h
    obtain ⟨i, hi, rfl⟩ := List.mem_iff_getElem.mp hmaterialized
    have hall := mapM_eq_ok.mp hdays
    exact isVisit_of_materializeDay (List.Forall₂.get hall (hall.length_eq ▸ hi) hi) item hitem
  · exact absurd h List.not_mem_nil

theorem poiId_of_visits {visit : Date × PlanItem}
    (h : visit ∈ visits trip draft pois routes settings) : ∃ poiId, visit.2.poiId = some poiId := by
  obtain ⟨poi, -, hpoi, -⟩ := isVisit_of_visits h
  exact ⟨_, hpoi⟩

/-- The edited plan has the visits of its draft, with the ids of their POIs. -/
theorem datedItems_of_rematerialize
    (h : rematerialize trip draft pois routes settings ids locked = .ok after) :
    after.datedItems = (visits trip draft pois routes settings).map fun visit =>
      (visit.1, attachItemId ids locked visit.2) := by
  obtain ⟨candidates, hcandidates, h⟩ := bind_eq_ok h
  obtain ⟨raw, hraw, h⟩ := bind_eq_ok h
  cases h
  cases candidates with
  | nil => cases orRaise_eq_ok hraw
  | cons candidate rest =>
    cases orRaise_eq_ok hraw
    unfold visits
    rw [hcandidates]
    simp only [attachItemIds, PlanCandidate.datedItems, List.flatMap_map, List.map_flatMap,
      List.map_map, Function.comp_def]

end Visits

/-! ## Stable identity -/

/-- The patch removes or replaces the item. -/
def Discarded (patch : EditPatch) (item : PlanItem) : Prop :=
  ∃ operation ∈ patch.operations,
    (operation.kind = .removeItem ∨ operation.kind = .replaceItem) ∧
      operation.itemId = item.itemId

/-- Every item of the edited plan has an id of its own, the items of the version that are left
alone keep theirs, and the difference of the two can be built. -/
structure StableIdentity (base after : PlanCandidate) (patch : EditPatch) : Prop where
  identified : ∀ entry ∈ after.datedItems, entry.2.itemId ≠ none
  distinct : (after.datedItems.map fun entry => entry.2.itemId).Nodup
  kept : ∀ entry ∈ base.datedItems, ¬ Discarded patch entry.2 →
    ∀ entry' ∈ after.datedItems, entry'.2.poiId = entry.2.poiId →
      entry'.2.itemId = entry.2.itemId
  diff : ∀ fromVersionId toId softBefore softAfter,
    ∃ diff, buildPlanDiff base after fromVersionId toId softBefore softAfter = .ok diff

/-- What the edited draft may schedule: places that are added or were recorded, each once, and
for an item that is left alone the place that was recorded for it, not added again. -/
@[mk_iff]
structure SchedulesIdentified (base : PlanCandidate) (patch : EditPatch)
    (pois : List PlanningPOI) (visited : List String) : Prop where
  recorded : ∀ poiId ∈ visited, poiId ≠ "" ∧
    (poiId ∈ newPlaces pois patch ∨ (recordedIds base).get? poiId ≠ none)
  once : visited.Nodup
  kept : ∀ entry ∈ base.datedItems, ¬ Discarded patch entry.2 →
    ∀ poiId ∈ visited, entry.2.poiId = some poiId →
      poiId ∉ newPlaces pois patch ∧ (recordedIds base).get? poiId = entry.2.itemId

omit [Platform] in
theorem nodup_map_iff {α β : Type} {f : α → β} {l : List α}
    (h : ∀ a ∈ l, ∀ b ∈ l, f a = f b → a = b) : (l.map f).Nodup ↔ l.Nodup :=
  ⟨List.Nodup.of_map f, fun hl => hl.map_on fun a ha b hb hab => h a ha b hb hab⟩

section Main

variable {sessionId requestId : String} {trip : TripSpec} {base after : PlanCandidate}
  {draft edited : CandidateDraft} {pois : List PlanningPOI} {patch : EditPatch}
  {ids : Dict String String} {routes : Routes} {settings : RouteSettings} {locked : List String}

variable (trip edited pois routes settings) in
/-- The POIs of the visits, each with its visit. -/
theorem visits_eq_map_visitedPois :
    (visits trip edited pois routes settings).map (fun visit => visit.2.poiId) =
      (visitedPois trip edited pois routes settings).map some := by
  unfold visitedPois
  have hall : ∀ visit ∈ visits trip edited pois routes settings,
      ∃ poiId, visit.2.poiId = some poiId := fun _ => poiId_of_visits
  generalize visits trip edited pois routes settings = scheduled at hall ⊢
  induction scheduled with
  | nil => rfl
  | cons visit rest ih =>
    obtain ⟨⟨poiId, hpoi⟩, hrest⟩ := List.forall_mem_cons.mp hall
    rw [List.map_cons, List.filterMap_cons, hpoi, List.map_cons, ih hrest]

theorem mem_visitedPois_iff {poiId : String} :
    poiId ∈ visitedPois trip edited pois routes settings ↔
      ∃ visit ∈ visits trip edited pois routes settings, visit.2.poiId = some poiId :=
  List.mem_filterMap

section Plan

variable {config : LifecycleConfig} {services : LifecycleServices} {version : PlanVersion}
  {alternatives : List PlanningPOI} {locks : List PlanLock} {plan : EditedPlan}

/-- What the planner schedules from an edited draft. -/
def EditedPlan.visits (plan : EditedPlan) (config : LifecycleConfig) (trip : TripSpec) :
    List (Date × PlanItem) :=
  TravelPlanAgent.visits trip plan.draft plan.planningPois plan.routes
    config.planningPolicy.routeSettings

/-- The POIs that an edited plan schedules. -/
def EditedPlan.visitedPois (plan : EditedPlan) (config : LifecycleConfig) (trip : TripSpec) :
    List String :=
  TravelPlanAgent.visitedPois trip plan.draft plan.planningPois plan.routes
    config.planningPolicy.routeSettings

/-- The items of an edited plan. -/
theorem datedItems_of_editedPlan
    (hplan : editedPlan config services sessionId requestId trip version alternatives locks patch =
      .ok plan) :
    plan.candidate.datedItems = (plan.visits config trip).map fun visit =>
      (visit.1, attachItemId plan.itemIdsByPoi (lockedItemIds locks) visit.2) := by
  obtain ⟨-, -, -, -, raw, hraw, hcandidate⟩ := editedPlan_eq_ok hplan
  have hsame : plan.candidate.datedItems = raw.datedItems := by
    rw [hcandidate]
    rfl
  exact hsame.trans (datedItems_of_rematerialize hraw)

/-- The ids of an edited plan, POI by POI. -/
theorem itemIds_of_editedPlan
    (hplan : editedPlan config services sessionId requestId trip version alternatives locks patch =
      .ok plan) :
    plan.candidate.datedItems.map (fun entry => entry.2.itemId) =
      (plan.visitedPois config trip).map plan.itemIdsByPoi.get? := by
  have hpois := congrArg
    (List.map fun poiId : Option String => plan.itemIdsByPoi.get? (poiId.getD ""))
    (visits_eq_map_visitedPois trip plan.draft plan.planningPois plan.routes
      config.planningPolicy.routeSettings)
  rw [List.map_map, List.map_map] at hpois
  rw [datedItems_of_editedPlan hplan, List.map_map]
  exact hpois

/-- Exactly when an edited plan has stable identity. -/
theorem stableIdentity_iff
    (hplan : editedPlan config services sessionId requestId trip version alternatives locks patch =
      .ok plan)
    (hidentified : Identified version.candidate)
    (hfresh : FreshItemIds sessionId requestId version.candidate patch) :
    StableIdentity version.candidate plan.candidate patch ↔
      SchedulesIdentified version.candidate patch plan.planningPois
        (plan.visitedPois config trip) := by
  obtain ⟨-, hedit, -⟩ := editedPlan_eq_ok hplan
  have hafter := datedItems_of_editedPlan hplan
  have hids : plan.candidate.datedItems.map (fun entry => entry.2.itemId) =
      (plan.visitedPois config trip).map plan.itemIdsByPoi.get? := itemIds_of_editedPlan hplan
  have hsome : (∀ entry ∈ plan.candidate.datedItems, entry.2.itemId ≠ none) ↔
      ∀ poiId ∈ plan.visitedPois config trip, plan.itemIdsByPoi.get? poiId ≠ none := by
    have hmap : (∀ id ∈ plan.candidate.datedItems.map (fun entry => entry.2.itemId), id ≠ none) ↔
        ∀ id ∈ (plan.visitedPois config trip).map plan.itemIdsByPoi.get?, id ≠ none := by
      rw [hids]
    rwa [List.forall_mem_map, List.forall_mem_map] at hmap
  have hitem {entry' : Date × PlanItem} (hentry' : entry' ∈ plan.candidate.datedItems) :
      ∃ poiId ∈ plan.visitedPois config trip,
        entry'.2.poiId = some poiId ∧ entry'.2.itemId = plan.itemIdsByPoi.get? poiId := by
    rw [hafter] at hentry'
    obtain ⟨visit, hvisit, rfl⟩ := List.mem_map.mp hentry'
    obtain ⟨poiId, hpoi⟩ := poiId_of_visits hvisit
    refine ⟨poiId, mem_visitedPois_iff.mpr ⟨visit, hvisit, hpoi⟩, hpoi, ?_⟩
    rw [attachItemId, hpoi]
    rfl
  have hvisited {poiId : String}
      (hpoi : poiId ∈ plan.visitedPois config trip) :
      ∃ entry' ∈ plan.candidate.datedItems, entry'.2.poiId = some poiId ∧
        entry'.2.itemId = plan.itemIdsByPoi.get? poiId := by
    obtain ⟨visit, hvisit, hpoi⟩ := mem_visitedPois_iff.mp hpoi
    refine ⟨(visit.1, attachItemId plan.itemIdsByPoi (lockedItemIds locks) visit.2), ?_, hpoi, ?_⟩
    · rw [hafter]
      exact List.mem_map_of_mem hvisit
    · rw [attachItemId, hpoi]
      rfl
  constructor
  · intro hstable
    have hrecorded (poiId : String)
        (hpoi : poiId ∈ plan.visitedPois config trip) :=
      (ids_ne_none_iff hedit hidentified).mp (hsome.mp hstable.identified poiId hpoi)
    refine ⟨hrecorded, ?_, ?_⟩
    · have hdistinct := hstable.distinct
      rw [hids] at hdistinct
      exact hdistinct.of_map plan.itemIdsByPoi.get?
    · intro entry hentry hkept poiId hpoi hentryPoi
      obtain ⟨entry', hentry', hpoi', hid'⟩ := hvisited hpoi
      have hsame := hstable.kept entry hentry hkept entry' hentry' (hpoi'.trans hentryPoi.symm)
      exact (ids_eq_iff hedit hidentified hfresh hentry (hrecorded poiId hpoi).1).mp
        (hid'.symm.trans hsame)
  · rintro ⟨hrecorded, honce, hkept⟩
    have hne (poiId : String) (hpoi : poiId ∈ plan.visitedPois config trip) :
        plan.itemIdsByPoi.get? poiId ≠ none :=
      (ids_ne_none_iff hedit hidentified).mpr (hrecorded poiId hpoi)
    have hidentified' := hsome.mpr hne
    refine ⟨hidentified', ?_, ?_, ?_⟩
    · rw [hids, nodup_map_iff]
      · exact honce
      · intro p hp q _ hpq
        obtain ⟨itemId, hitemId⟩ := Option.ne_none_iff_exists'.mp (hne p hp)
        exact ids_injective hedit hidentified hfresh hitemId (hpq.symm.trans hitemId)
    · intro entry hentry hleft entry' hentry' hsame
      obtain ⟨poiId, hpoi, hpoi', hid'⟩ := hitem hentry'
      rw [hid']
      exact (ids_eq_iff hedit hidentified hfresh hentry (hrecorded poiId hpoi).1).mpr
        (hkept entry hentry hleft poiId hpoi (hsame.symm.trans hpoi'))
    · intro fromVersionId toId softBefore softAfter
      rw [buildPlanDiff_exists_iff]
      constructor
      · intro day hday item hitem hnone
        have hgiven := hidentified (day.date, item)
          (List.mem_flatMap.mpr ⟨day, hday, List.mem_map_of_mem hitem⟩)
        rw [hnone] at hgiven
        exact absurd hgiven (by decide)
      · intro day hday item hitem
        exact hidentified' (day.date, item)
          (List.mem_flatMap.mpr ⟨day, hday, List.mem_map_of_mem hitem⟩)

end Plan

end Main

namespace Sample

omit [Platform]

/-- The id under which a session schedules a POI. -/
def itemIdOf (session : PlanSession) (poiId : String) : String :=
  match activeVersion session.record with
  | .error _ => ""
  | .ok version =>
    ((version.candidate.datedItems.find? fun entry => decide (entry.2.poiId = some poiId)).bind
      fun entry => entry.2.itemId).getD ""

/-- Remove the visit of a POI. -/
def removal (session : PlanSession) (poiId : String) : EditPatch :=
  ⟨[⟨.removeItem, some (itemIdOf session poiId), none, none, none, none⟩]⟩

/-- The active version of a session and what an edit makes of it. -/
def editOf (session : PlanSession) (locks : List PlanLock) (patch : EditPatch) :
    Result (PlanVersion × EditedPlan) := do
  let := plainPlatform
  let version ← activeVersion session.record
  let plan ← editedPlan config services "s" "r2" trip version [] locks patch
  return (version, plan)

/-- Three visits of four hours; the first day has time for two of them. -/
def longSession : PlanSession :=
  selectedFrom [⟨"balanced-r0", .balanced, [⟨day1, ["a", "b", "c"]⟩, ⟨day2, []⟩]⟩]
    [poi "a" 1 240, poi "b" 2 240, poi "c" 3 240]

end Sample

omit [Platform] in
/-- Removing a visit makes room for one that had not fitted, and this one has no id. -/
theorem exists_edit_unidentified :
    let := plainPlatform
    let patch := Sample.removal Sample.longSession "a"
    Reachable Sample.config Sample.longSession ∧
      (Sample.send Sample.longSession "after r1" "r2" (.edit patch)).1 =
        .raised (.valueError "versioned plan items require item_id") ∧
      ∃ version plan, Sample.editOf Sample.longSession [] patch = .ok (version, plan) ∧
        ¬ StableIdentity version.candidate plan.candidate patch := by
  intro _ patch
  refine ⟨Sample.reachable_send (Sample.reachable_startedWith ..) .., by decide +kernel, ?_⟩
  have hnone : ∃ edit ∈ (Sample.editOf Sample.longSession [] patch).toOption,
      ∃ entry ∈ edit.2.candidate.datedItems, entry.2.itemId = none := by decide +kernel
  obtain ⟨⟨version, plan⟩, hedit, entry, hentry, hid⟩ := hnone
  exact ⟨version, plan, eq_ok_of_mem_toOption hedit, fun hstable =>
    hstable.identified entry hentry hid⟩

end TravelPlanAgent
