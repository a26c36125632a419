import TravelPlanAgent.Library.Buckets
import TravelPlanAgent.Lifecycle.LockGuard

/-!
# What an edit changes

An operation takes a POI out of the day of the item that it names, puts one into a day, or does
both.  Which ones depends on the version and not on what the operations before have done, so a
whole edit is told by what its operations take and put.

* `takesPlace`, `putsPlace`: what an operation takes out and puts in.
* `OperationEffect`, `operationEffect_of_applyOperation`: what is held after one operation.
* `countIn_of_applyOperations`: what is held after all of them.
* `perm_of_applyEditPatch`: the POIs of the edited draft.
* `applyEditPatch_changesOnly`: an edit changes only what it says.
-/

namespace TravelPlanAgent

open Calendar Selection Buckets

variable [Platform]

/-! ## What an operation takes and puts -/

/-- The scheduled item of a candidate that an operation names. -/
def itemNamed (candidate : PlanCandidate) (operation : EditOperation) : Option (Date × PlanItem) :=
  if isGiven operation.itemId then
    (Dict.ofList (identifiedItems candidate)).get? (operation.itemId.getD "")
  else none

/-- The POI of the named item, with its date. -/
def placeNamed (candidate : PlanCandidate) (operation : EditOperation) : Option (Date × String) :=
  (itemNamed candidate operation).bind fun entry => entry.2.poiId.map fun poiId => (entry.1, poiId)

/-- What an operation takes out. -/
def takesPlace (candidate : PlanCandidate) (operation : EditOperation) : Option (Date × String) :=
  if operation.kind = .addItem then none else placeNamed candidate operation

/-- What an operation puts in. -/
def putsPlace (candidate : PlanCandidate) (pois : List PlanningPOI) (operation : EditOperation) :
    Option (Date × String) :=
  match operation.kind with
  | .removeItem => none
  | .moveItem | .reorderItem => (placeNamed candidate operation).map fun place =>
    (operation.targetDate.getD place.1, place.2)
  | .replaceItem => (placeNamed candidate operation).bind fun place =>
    (newPlace pois operation).map fun poiId => (place.1, poiId)
  | .addItem => operation.targetDate.bind fun date =>
    (newPlace pois operation).map fun poiId => (date, poiId)

/-- The POI of an item that an operation removes or replaces. -/
def discardedPlace (candidate : PlanCandidate) (operation : EditOperation) : Option String :=
  if operation.kind = .removeItem ∨ operation.kind = .replaceItem then
    (placeNamed candidate operation).map Prod.snd
  else none

section Effect

variable {candidate : PlanCandidate} {context : EditContext} {state after : EditState}
  {operation : EditOperation} {day : Date} {poiId : String}

omit [Platform] in
theorem operationItem_eq (hitems : context.candidateItems = .ofList (identifiedItems candidate)) :
    operationItem context operation = itemNamed candidate operation := by
  rw [operationItem, hitems]
  rfl

omit [Platform] in
/-- The source of an operation. -/
theorem placeNamed_of_operationSource
    (hitems : context.candidateItems = .ofList (identifiedItems candidate))
    (h : operationSource context operation = .ok (day, poiId)) :
    placeNamed candidate operation = some (day, poiId) ∧ poiId ≠ "" := by
  obtain ⟨⟨date, item⟩, hentry, h⟩ := bind_eq_ok h
  obtain ⟨_, hgiven, h⟩ := bind_eq_ok h
  cases h
  have hnamed := (operationItem_eq hitems).symm.trans (orRaise_eq_ok hentry)
  have hne : item.poiId.getD "" ≠ "" := of_decide_eq_true (require_eq_ok hgiven)
  cases hpoiId : item.poiId with
  | none => exact absurd (by rw [hpoiId]; rfl) hne
  | some poiId =>
    rw [hpoiId] at hne
    exact ⟨by rw [placeNamed, hnamed, Option.bind_some, hpoiId]; rfl, hne⟩

omit [Platform] in
/-- What is left after a POI is taken out. -/
theorem days_of_takeOut {days : Dict Date (List String)}
    (h : takeOut context state operation = .ok (day, poiId, days)) :
    operationSource context operation = .ok (day, poiId) ∧ ∃ there,
      state.days.get? day = some there ∧ poiId ∈ there ∧
        days = state.days.set day (there.erase poiId) := by
  obtain ⟨⟨day', poiId'⟩, hsource, h⟩ := bind_eq_ok h
  obtain ⟨there, hthere, h⟩ := bind_eq_ok h
  obtain ⟨left, hleft, h⟩ := bind_eq_ok h
  cases h
  unfold removeFirst at hleft
  split at hleft
  · next hmem =>
    cases hleft
    exact ⟨hsource, there, orRaise_eq_ok hthere, hmem, rfl⟩
  · cases hleft

/-- What is held after an operation. -/
structure OperationEffect (candidate : PlanCandidate) (pois : List PlanningPOI)
    (operation : EditOperation) (before after : Dict Date (List String)) : Prop where
  keys : after.keys = before.keys
  places : ∀ place, countIn after place + (takesPlace candidate operation).toList.count place =
    countIn before place + (putsPlace candidate pois operation).toList.count place
  exchange : ∀ poiId, ((putsPlace candidate pois operation).map Prod.snd).toList.count poiId +
      (discardedPlace candidate operation).toList.count poiId =
    ((takesPlace candidate operation).map Prod.snd).toList.count poiId +
      (newPlace pois operation).toList.count poiId

omit [Platform] in
theorem insertAt_eq (there : List String) (index : Option ℕ) (poiId : String) :
    ∃ i ≤ there.length, insertAt there index poiId = there.insertIdx i poiId :=
  ⟨_, min_le_right _ _, rfl⟩

theorem operationEffect_of_removeItem
    (hitems : context.candidateItems = .ofList (identifiedItems candidate))
    (hkind : operation.kind = .removeItem) (h : removeItem context state operation = .ok after) :
    OperationEffect candidate context.planningPois operation state.days after.days := by
  obtain ⟨⟨day, poiId, days⟩, htaken, h⟩ := bind_eq_ok h
  cases h
  obtain ⟨hsource, there, hthere, hmem, rfl⟩ := days_of_takeOut htaken
  obtain ⟨hplace, -⟩ := placeNamed_of_operationSource hitems hsource
  refine ⟨Dict.keys_set_of_mem (Dict.mem_keys_of_get? hthere) _, fun place => ?_, fun poiId => ?_⟩
  · rw [takesPlace, putsPlace, hkind, if_neg (by decide), hplace]
    exact countIn_erase hthere hmem place
  · rw [takesPlace, putsPlace, discardedPlace, newPlace, hkind, if_neg (by decide),
      if_pos (.inl rfl), if_neg (by decide), hplace]
    exact Nat.add_comm ..

theorem operationEffect_of_moveItem
    (hitems : context.candidateItems = .ofList (identifiedItems candidate))
    (hkind : operation.kind = .moveItem ∨ operation.kind = .reorderItem)
    (h : moveItem context state operation = .ok after) :
    OperationEffect candidate context.planningPois operation state.days after.days := by
  obtain ⟨⟨day, poiId, days⟩, htaken, h⟩ := bind_eq_ok h
  obtain ⟨there', hthere', h⟩ := bind_eq_ok h
  cases h
  obtain ⟨hsource, there, hthere, hmem, rfl⟩ := days_of_takeOut htaken
  obtain ⟨hplace, -⟩ := placeNamed_of_operationSource hitems hsource
  obtain ⟨i, hi, hinsert⟩ := insertAt_eq there' operation.targetIndex poiId
  have htarget := orRaise_eq_ok hthere'
  have htakes : takesPlace candidate operation = some (day, poiId) := by
    rw [takesPlace, if_neg (by rcases hkind with hkind | hkind <;> rw [hkind] <;> decide), hplace]
  have hputs : putsPlace candidate context.planningPois operation =
      some (operation.targetDate.getD day, poiId) := by
    rcases hkind with hkind | hkind <;> rw [putsPlace, hkind, hplace] <;> rfl
  constructor
  · rw [Dict.keys_set_of_mem (Dict.mem_keys_of_get? htarget),
      Dict.keys_set_of_mem (Dict.mem_keys_of_get? hthere)]
  · intro place
    have hput := countIn_insertIdx htarget hi poiId place
    have htake := countIn_erase hthere hmem place
    rw [hinsert, htakes, hputs, hput]
    omega
  · intro poiId
    have hneither : discardedPlace candidate operation = none ∧
        newPlace context.planningPois operation = none := by
      rcases hkind with hkind | hkind <;> rw [discardedPlace, newPlace, hkind] <;>
        exact ⟨if_neg (by decide), if_neg (by decide)⟩
    rw [htakes, hputs, hneither.1, hneither.2]
    rfl

theorem operationEffect_of_replaceItem
    (hitems : context.candidateItems = .ofList (identifiedItems candidate))
    (hkind : operation.kind = .replaceItem) {index : ℕ}
    (h : replaceItem context state operation index = .ok after) :
    OperationEffect candidate context.planningPois operation state.days after.days := by
  obtain ⟨⟨day, poiId⟩, hsource, h⟩ := bind_eq_ok h
  obtain ⟨newPoiId, hnew, h⟩ := bind_eq_ok h
  obtain ⟨there, hthere, h⟩ := bind_eq_ok h
  obtain ⟨_, hmem, h⟩ := bind_eq_ok h
  cases h
  obtain ⟨hplace, -⟩ := placeNamed_of_operationSource hitems hsource
  have hget := orRaise_eq_ok hthere
  have hplaced := newPlace_eq_some (.inr hkind) hnew
  refine ⟨Dict.keys_set_of_mem (Dict.mem_keys_of_get? hget) _, fun place => ?_, fun poiId => ?_⟩
  · rw [takesPlace, putsPlace, hkind, if_neg (by decide), hplace, hplaced]
    exact countIn_exchange hget (require_eq_ok hmem) newPoiId place
  · rw [takesPlace, putsPlace, discardedPlace, hkind, if_pos (.inr rfl), if_neg (by decide), hplace,
      hplaced]
    exact Nat.add_comm ..

theorem operationEffect_of_addItem (hkind : operation.kind = .addItem) {index : ℕ}
    (h : addItem context state operation index = .ok after) :
    OperationEffect candidate context.planningPois operation state.days after.days := by
  obtain ⟨target, htarget, h⟩ := bind_eq_ok h
  obtain ⟨there, hthere, h⟩ := bind_eq_ok h
  obtain ⟨newPoiId, hnew, h⟩ := bind_eq_ok h
  cases h
  have hget := orRaise_eq_ok hthere
  obtain ⟨i, hi, hinsert⟩ := insertAt_eq there operation.targetIndex newPoiId
  have hplaced := newPlace_eq_some (.inl hkind) hnew
  refine ⟨Dict.keys_set_of_mem (Dict.mem_keys_of_get? hget) _, fun place => ?_, fun poiId => ?_⟩
  · rw [takesPlace, putsPlace, hkind, if_pos rfl, orRaise_eq_ok htarget, hplaced, hinsert]
    exact countIn_insertIdx hget hi newPoiId place
  · rw [takesPlace, putsPlace, discardedPlace, hkind, if_pos rfl, if_neg (by decide),
      orRaise_eq_ok htarget, hplaced]
    exact Nat.add_comm ..

/-- **One operation** takes what it takes, puts what it puts, and keeps the dates. -/
theorem operationEffect_of_applyOperation
    (hitems : context.candidateItems = .ofList (identifiedItems candidate)) {index : ℕ}
    (h : applyOperation context state operation index = .ok after) :
    OperationEffect candidate context.planningPois operation state.days after.days := by
  unfold applyOperation at h
  obtain ⟨_, -, h⟩ := bind_eq_ok h
  cases hkind : operation.kind with
  | removeItem =>
    rw [hkind] at h
    exact operationEffect_of_removeItem hitems hkind h
  | moveItem =>
    rw [hkind] at h
    exact operationEffect_of_moveItem hitems (.inl hkind) h
  | reorderItem =>
    rw [hkind] at h
    exact operationEffect_of_moveItem hitems (.inr hkind) h
  | replaceItem =>
    rw [hkind] at h
    exact operationEffect_of_replaceItem hitems hkind h
  | addItem =>
    rw [hkind] at h
    exact operationEffect_of_addItem hkind h

/-! ## What a run of operations takes and puts -/

omit [Platform] in
theorem count_filterMap_cons {α β : Type} [BEq β] (f : α → Option β) (a : α) (l : List α)
    (b : β) : ((a :: l).filterMap f).count b = (f a).toList.count b + (l.filterMap f).count b := by
  rw [List.filterMap_cons]
  cases f a with
  | none => rw [Option.toList_none, List.count_nil, Nat.zero_add]
  | some c => rw [Option.toList_some, ← List.count_append, List.singleton_append]

/-- What is held after some operations. -/
structure OperationsEffect (candidate : PlanCandidate) (pois : List PlanningPOI)
    (operations : List EditOperation) (before after : Dict Date (List String)) : Prop where
  keys : after.keys = before.keys
  places : ∀ place,
    countIn after place + (operations.filterMap (takesPlace candidate)).count place =
    countIn before place + (operations.filterMap (putsPlace candidate pois)).count place
  exchange : ∀ poiId,
    (operations.filterMap fun operation =>
        (putsPlace candidate pois operation).map Prod.snd).count poiId +
      (operations.filterMap (discardedPlace candidate)).count poiId =
    (operations.filterMap fun operation =>
        (takesPlace candidate operation).map Prod.snd).count poiId +
      (operations.filterMap (newPlace pois)).count poiId

/-- **A run of operations** takes and puts what its operations do. -/
theorem operationsEffect_of_applyOperations
    (hitems : context.candidateItems = .ofList (identifiedItems candidate))
    {operations : List (EditOperation × ℕ)}
    (h : applyOperations context state operations = .ok after) :
    OperationsEffect candidate context.planningPois (operations.map Prod.fst) state.days
      after.days := by
  induction operations generalizing state with
  | nil =>
    cases h
    exact ⟨rfl, fun _ => rfl, fun _ => rfl⟩
  | cons entry rest ih =>
    obtain ⟨next, hnext, h⟩ := bind_eq_ok h
    have hfirst := operationEffect_of_applyOperation hitems hnext
    have hrest := ih h
    refine ⟨hrest.keys.trans hfirst.keys, fun place => ?_, fun poiId => ?_⟩
    · have hone := hfirst.places place
      have hall := hrest.places place
      rw [List.map_cons, count_filterMap_cons, count_filterMap_cons]
      omega
    · have hone := hfirst.exchange poiId
      have hall := hrest.exchange poiId
      rw [List.map_cons, count_filterMap_cons, count_filterMap_cons, count_filterMap_cons,
        count_filterMap_cons]
      omega

/-- Every operation of a run passed its guards. -/
theorem checked_of_applyOperations {operations : List (EditOperation × ℕ)}
    (h : applyOperations context state operations = .ok after) :
    ∀ operation ∈ operations.map Prod.fst, checkOperation context operation = .ok () := by
  induction operations generalizing state with
  | nil => exact nofun
  | cons entry rest ih =>
    obtain ⟨next, hnext, h⟩ := bind_eq_ok h
    obtain ⟨_, hchecked, -⟩ := bind_eq_ok hnext
    exact List.forall_mem_cons.mpr ⟨hchecked, ih h⟩

/-- What is removed or replaced is a scheduled POI that is not required. -/
theorem optional_of_checkOperation
    (hitems : context.candidateItems = .ofList (identifiedItems candidate))
    (h : checkOperation context operation = .ok ())
    (hdiscarded : discardedPlace candidate operation = some poiId) :
    ∃ entry ∈ candidate.datedItems, entry.2.poiId = some poiId ∧
      context.trip.isMustVisit entry.2.name = false := by
  unfold discardedPlace at hdiscarded
  split at hdiscarded
  · next hkind =>
    obtain ⟨place, hplace, rfl⟩ := Option.map_eq_some_iff.mp hdiscarded
    obtain ⟨entry, hentry, hpoiId⟩ := Option.bind_eq_some_iff.mp hplace
    obtain ⟨poiId, hscheduled, rfl⟩ := Option.map_eq_some_iff.mp hpoiId
    have hmem : entry ∈ candidate.datedItems := by
      unfold itemNamed at hentry
      split at hentry
      · exact (mem_identifiedItems.mp (Dict.mem_of_get?_ofList hentry)).1
      · cases hentry
    unfold checkOperation at h
    rw [operationItem_eq hitems, hentry] at h
    obtain ⟨_, -, h⟩ := bind_eq_ok h
    have hoptional := require_eq_ok h
    exact ⟨entry, hmem, hscheduled, by simpa [hkind] using hoptional⟩
  · cases hdiscarded

end Effect

/-! ## The edited draft -/

/-- All POIs of a draft. -/
def draftPois (draft : CandidateDraft) : List String := draft.days.flatMap DraftDay.poiIds

/-- The POIs of the items that a patch removes or replaces. -/
def discardedPlaces (candidate : PlanCandidate) (patch : EditPatch) : List String :=
  patch.operations.filterMap (discardedPlace candidate)

section Draft

variable {trip : TripSpec} {candidate : PlanCandidate} {draft edited : CandidateDraft}
  {pois : List PlanningPOI} {patch : EditPatch} {sessionId requestId : String}
  {ids : Dict String String}

omit [Platform] in
/-- The POIs that a dictionary holds under the dates of a draft. -/
theorem count_draftPlaces (hdates : (draft.days.map DraftDay.date).Nodup)
    {days : Dict Date (List String)}
    (hkeys : ∀ date ∈ days.keys, date ∈ draft.days.map DraftDay.date)
    (place : Date × String) :
    ((draft.days.map DraftDay.date).flatMap fun date =>
      ((days.get? date).getD []).map fun poiId => (date, poiId)).count place =
        countIn days place := by
  refine (count_placed hdates (fun date => (days.get? date).getD []) place).trans ?_
  split
  · rfl
  · next hdate =>
    by_contra hne
    exact hdate (hkeys place.1 (mem_keys_of_countIn (Nat.pos_of_ne_zero (Ne.symm hne))))

omit [Platform] in
theorem map_snd_draftPlaces (dates : List Date) (g : Date → List String) :
    (dates.flatMap fun date => (g date).map fun poiId => (date, poiId)).map Prod.snd =
      dates.flatMap g := by
  rw [List.map_flatMap]
  refine List.flatMap_congr fun date _ => ?_
  rw [List.map_map]
  exact List.map_id _

omit [Platform] in
theorem get?_initialEditState (hdates : (draft.days.map DraftDay.date).Nodup) {day : DraftDay}
    (hday : day ∈ draft.days) :
    (initialEditState candidate draft).days.get? day.date = some day.poiIds := by
  rw [initialEditState, ← Dict.mem_entries_iff]
  refine Dict.mem_entries_ofList ?_ (List.mem_map_of_mem hday)
  rwa [List.map_map]

omit [Platform] in
theorem mem_keys_initialEditState {date : Date} :
    date ∈ (initialEditState candidate draft).days.keys ↔ date ∈ draft.days.map DraftDay.date := by
  rw [initialEditState, Dict.mem_keys_ofList, List.map_map]
  rfl

omit [Platform] in
/-- A draft with distinct dates is what its dictionary holds. -/
theorem draftPois_eq (candidate : PlanCandidate) (hdates : (draft.days.map DraftDay.date).Nodup) :
    draftPois draft = (draft.days.map DraftDay.date).flatMap fun date =>
      ((initialEditState candidate draft).days.get? date).getD [] := by
  rw [draftPois, List.flatMap_map]
  refine List.flatMap_congr fun day hday => ?_
  rw [get?_initialEditState hdates hday]
  rfl

omit [Platform] in
theorem draftPois_editedDraft (days : Dict Date (List String)) :
    draftPois (editedDraft draft days) =
      (draft.days.map DraftDay.date).flatMap fun date => (days.get? date).getD [] := by
  rw [draftPois, editedDraft, List.flatMap_map, List.flatMap_map]

/-- **The POIs of an edited draft** are those of the draft without the discarded ones and with the
new ones. -/
theorem perm_of_applyEditPatch (hdates : (draft.days.map DraftDay.date).Nodup)
    (h : applyEditPatch sessionId requestId trip candidate draft pois patch = .ok (edited, ids)) :
    (draftPois edited ++ discardedPlaces candidate patch).Perm
      (draftPois draft ++ newPlaces pois patch) := by
  obtain ⟨state, hstate, h⟩ := bind_eq_ok h
  cases h
  have heffect : OperationsEffect candidate pois (patch.operations.zipIdx.map Prod.fst)
      (initialEditState candidate draft).days state.days :=
    operationsEffect_of_applyOperations rfl hstate
  rw [List.zipIdx_map_fst] at heffect
  have hinitial : ∀ date ∈ (initialEditState candidate draft).days.keys,
      date ∈ draft.days.map DraftDay.date := fun date hdate => mem_keys_initialEditState.mp hdate
  have hfinal : ∀ date ∈ state.days.keys, date ∈ draft.days.map DraftDay.date :=
    heffect.keys ▸ hinitial
  -- What is held under the dates, before and after, as lists of places.
  have hplaces : (((draft.days.map DraftDay.date).flatMap fun date =>
        ((state.days.get? date).getD []).map fun poiId => (date, poiId)) ++
          patch.operations.filterMap (takesPlace candidate)).Perm
      (((draft.days.map DraftDay.date).flatMap fun date =>
        (((initialEditState candidate draft).days.get? date).getD []).map
          fun poiId => (date, poiId)) ++
          patch.operations.filterMap (putsPlace candidate pois)) := by
    refine List.perm_iff_count.mpr fun place => ?_
    rw [List.count_append, List.count_append, count_draftPlaces hdates hfinal,
      count_draftPlaces hdates hinitial]
    exact heffect.places place
  have hpois := hplaces.map Prod.snd
  rw [List.map_append, List.map_append, map_snd_draftPlaces, map_snd_draftPlaces,
    List.map_filterMap, List.map_filterMap, ← draftPois_editedDraft,
    ← draftPois_eq candidate hdates] at hpois
  refine List.perm_iff_count.mpr fun poiId => ?_
  have htotal := hpois.count_eq poiId
  have hexchange := heffect.exchange poiId
  rw [List.count_append, List.count_append] at htotal ⊢
  rw [discardedPlaces, newPlaces]
  omega

/-- What an edit says that it changes, and nothing else. -/
structure ChangesOnly (trip : TripSpec) (candidate : PlanCandidate) (draft : CandidateDraft)
    (pois : List PlanningPOI) (patch : EditPatch) (edited : CandidateDraft) : Prop where
  dates : edited.days.map DraftDay.date = draft.days.map DraftDay.date
  others : ∀ locks maxAffectedDays, ∀ day ∈ draft.days,
    day.date ∉ (analyzeChangeImpact candidate patch locks maxAffectedDays).affectedDates →
      day ∈ edited.days
  exchanged : (draftPois edited ++ discardedPlaces candidate patch).Perm
    (draftPois draft ++ newPlaces pois patch)
  required : ∀ entry ∈ candidate.datedItems, trip.isMustVisit entry.2.name = true →
    ∀ poiId ∈ draftPois draft, entry.2.poiId = some poiId → poiId ∈ draftPois edited

/-- A POI is scheduled under one name. -/
theorem Materialized.name_eq {settings : RouteSettings} {known : List PlanningPOI} {routes : Routes}
    (h : Materialized trip settings draft known routes candidate) {entry entry' : Date × PlanItem}
    (hentry : entry ∈ candidate.datedItems) (hentry' : entry' ∈ candidate.datedItems)
    {poiId : String} (hpoiId : entry.2.poiId = some poiId) (hpoiId' : entry'.2.poiId = some poiId) :
    entry.2.name = entry'.2.name := by
  have hvisit {entry : Date × PlanItem} (hentry : entry ∈ candidate.datedItems) :
      IsVisit known entry.2.withoutId := by
    have hmem : (entry.1, entry.2.withoutId) ∈ visits trip draft known routes settings := by
      rw [h.visits_eq]
      exact List.mem_map_of_mem hentry
    exact isVisit_of_visits hmem
  obtain ⟨poi, hpoi, hid, hname, -⟩ := hvisit hentry
  obtain ⟨poi', hpoi', hid', hname', -⟩ := hvisit hentry'
  have hsame : poi.facts.id = poi'.facts.id :=
    Option.some.inj (hid.symm.trans (hpoiId.trans (hpoiId'.symm.trans hid')))
  rw [hsame, hpoi', Option.some.injEq] at hpoi
  exact hname.trans (hpoi ▸ hname'.symm)

/-- **An edit changes only what it says.** -/
theorem applyEditPatch_changesOnly {settings : RouteSettings} {known : List PlanningPOI}
    {routes : Routes} (hversion : Materialized trip settings draft known routes candidate)
    (h : applyEditPatch sessionId requestId trip candidate draft pois patch = .ok (edited, ids)) :
    ChangesOnly trip candidate draft pois patch edited where
  dates := dates_of_applyEditPatch h
  others locks maxAffectedDays day hday hdate := by
    refine mem_days_of_applyEditPatch h hversion.dates hday
      fun ⟨operation, hoperation, hnamed⟩ => ?_
    exact hdate (mem_sortedSet.mpr (List.mem_flatMap.mpr ⟨operation, hoperation, hnamed⟩))
  exchanged := perm_of_applyEditPatch hversion.dates h
  required entry hentry hrequired poiId hmem hpoiId := by
    have hexchanged := perm_of_applyEditPatch hversion.dates h
    have hkept : poiId ∉ discardedPlaces candidate patch := by
      intro hdiscarded
      obtain ⟨operation, hoperation, hplace⟩ := List.mem_filterMap.mp hdiscarded
      obtain ⟨state, hstate, -⟩ := bind_eq_ok h
      have hchecked := checked_of_applyOperations hstate operation
        (by rw [List.zipIdx_map_fst]; exact hoperation)
      obtain ⟨entry', hentry', hpoiId', hoptional⟩ := optional_of_checkOperation rfl hchecked hplace
      rw [hversion.name_eq hentry hentry' hpoiId hpoiId'] at hrequired
      exact Bool.false_ne_true (hoptional.symm.trans hrequired)
    have hboth := hexchanged.mem_iff.mpr (List.mem_append_left _ hmem)
    exact (List.mem_append.mp hboth).resolve_right hkept

end Draft

omit [Platform] in
/-- Removing the later visit of the first day takes out its POI and nothing else. -/
theorem applyEditPatch_changesOnly_removal :
    let := plainPlatform
    let patch := Sample.removal Sample.pairSession "b"
    ∃ version edited ids,
      activeVersion Sample.pairSession.record = .ok version ∧
      applyEditPatch "s" "r2" Sample.trip version.candidate version.candidateDraft
        version.planningPois patch = .ok (edited, ids) ∧
      draftPois edited = ["a"] ∧
      ChangesOnly Sample.trip version.candidate version.candidateDraft version.planningPois patch
        edited := by
  have hrun : okAnd (activeVersion Sample.pairSession.record) (fun version =>
      okAnd (@applyEditPatch plainPlatform "s" "r2" Sample.trip version.candidate
        version.candidateDraft version.planningPois (Sample.removal Sample.pairSession "b"))
        (fun edit => decide (draftPois edit.1 = ["a"])) &&
      decide (version.candidateDraft.days.map DraftDay.date).Nodup &&
      okAnd (@materializeCandidates plainPlatform Sample.trip [version.candidateDraft]
          version.planningPois version.routeResults Sample.settings) (fun candidates =>
        decide (candidates.map PlanCandidate.days =
          [version.candidate.days.map DayPlan.withoutIds]))) = true := by decide +kernel
  intro _ patch
  obtain ⟨version, hactive, hrun⟩ := okAnd_eq_true hrun
  simp only [Bool.and_eq_true, decide_eq_true_eq] at hrun
  obtain ⟨⟨hedit, hdates⟩, hplanned⟩ := hrun
  obtain ⟨⟨edited, ids⟩, hedit, hpois⟩ := okAnd_eq_true hedit
  obtain ⟨candidates, hcandidates, hdays⟩ := okAnd_eq_true hplanned
  obtain ⟨raw, rfl, hraw⟩ := List.map_eq_singleton_iff.mp (of_decide_eq_true hdays)
  exact ⟨version, edited, ids, hactive, hedit, of_decide_eq_true hpois,
    applyEditPatch_changesOnly ⟨hdates, raw, hcandidates, hraw.symm⟩ hedit⟩

end TravelPlanAgent
