import TravelPlanAgent.Lifecycle.EditFailures
import TravelPlanAgent.Planning.Materialized

/-!
# Weather repairs as they are executed

A repair knows the items and the new places by id.  The patch that is made of it names the new
places by name only, and each name is looked up again among all places at hand.

* `repairOperation`: the operation for an action.
* `poisAfter`, `ExecutedAsPlanned`: the days that a repair plans.
* `applyOperations_planned`: operations that find what they name leave these days.
* `repairOf_of_repairActions`: what the actions of a repair are.
* `LeftAsPlanned.heldOnce`: nothing interferes with a repair that left what it planned.
* `executedAsPlanned_iff`: exactly when a repair is executed as planned.
-/

namespace TravelPlanAgent

open Calendar Selection Buckets

variable [Platform]

/-! ## What a repair plans -/

/-- The operation for an action. -/
def repairOperation (action : WeatherRepairAction) : EditOperation :=
  let operation (kind : EditOperationKind) : EditOperation :=
    { kind, itemId := some action.itemId, itemName := none, targetDate := none
      targetIndex := none, poiName := none }
  match action.kind with
  | .replaceWithIndoor => { operation .replaceItem with poiName := action.replacementPoiName }
  | .moveToSafeDate => { operation .moveItem with targetDate := action.targetDate }
  | .removeOptionalItem => operation .removeItem

/-- The POI of the item that an action is about. -/
def actionPoi (candidate : PlanCandidate) (action : WeatherRepairAction) : Option String :=
  (placeNamed candidate (repairOperation action)).map Prod.snd

section Plan

variable (candidate : PlanCandidate) (put : WeatherRepairAction → Option String)
  (actions : List WeatherRepairAction)

/-- What some actions leave in the place of a POI, when each puts what `put` says. -/
def standsFor (poiId : String) : Option String :=
  match actions.find? fun action => decide (actionPoi candidate action = some poiId) with
  | none => some poiId
  | some action => put action

/-- The POIs that some actions move to a date. -/
def movedTo (date : Date) : List String :=
  actions.filterMap fun action =>
    if action.targetDate = some date then actionPoi candidate action else none

/-- The POIs of a day after some actions: what is left in the places of its POIs, and then the POIs
that are moved to it. -/
def poisAfter (day : DraftDay) : List String :=
  day.poiIds.filterMap (standsFor candidate put actions) ++ movedTo candidate actions day.date

end Plan

/-- **A repair is executed as planned**: it can be applied, on every day each replaced POI makes
place for its replacement, the moved POIs are on their target dates and the removed ones are gone,
and no replacement is used twice. -/
structure ExecutedAsPlanned (sessionId requestId : String) (trip : TripSpec) (version : PlanVersion)
    (alternatives : List PlanningPOI) (plan : WeatherRepairPlan) : Prop where
  days : ∃ edited ids, applyEditPatch sessionId requestId trip version.candidate
      version.candidateDraft (withAlternatives version.planningPois alternatives)
      (repairPlanToEditPatch plan) = .ok (edited, ids) ∧
    edited.days = version.candidateDraft.days.map fun day => ⟨day.date, poisAfter version.candidate
      WeatherRepairAction.replacementPoiId plan.actions day⟩
  distinct : (plan.actions.filterMap WeatherRepairAction.replacementPoiId).Nodup


/-! ## What some actions leave -/

section Left

variable {candidate : PlanCandidate} {put : WeatherRepairAction → Option String}
  {actions done : List WeatherRepairAction} {action : WeatherRepairAction} {place : Date × String}
  {poiId : String}

omit [Platform]

theorem itemId_repairOperation : (repairOperation action).itemId = some action.itemId := by
  unfold repairOperation
  cases action.kind <;> rfl

theorem targetIndex_repairOperation : (repairOperation action).targetIndex = none := by
  unfold repairOperation
  cases action.kind <;> rfl

theorem repairOperation_replacement (h : action.kind = .replaceWithIndoor) :
    (repairOperation action).kind = .replaceItem ∧
      (repairOperation action).poiName = action.replacementPoiName := by
  rw [repairOperation, h]
  exact ⟨rfl, rfl⟩

theorem repairOperation_move (h : action.kind = .moveToSafeDate) :
    (repairOperation action).kind = .moveItem ∧
      (repairOperation action).targetDate = action.targetDate := by
  rw [repairOperation, h]
  exact ⟨rfl, rfl⟩

theorem repairOperation_removal (h : action.kind = .removeOptionalItem) :
    (repairOperation action).kind = .removeItem := by
  rw [repairOperation, h]

theorem kind_repairOperation_ne : (repairOperation action).kind ≠ .addItem := by
  unfold repairOperation
  cases action.kind <;> exact nofun

theorem actionPoi_of_placeNamed
    (h : placeNamed candidate (repairOperation action) = some place) :
    actionPoi candidate action = some place.2 := by
  rw [actionPoi, h]
  rfl

/-- A POI that no action is about stays. -/
theorem standsFor_of_other (h : ∀ other ∈ actions, actionPoi candidate other ≠ some poiId) :
    standsFor candidate put actions poiId = some poiId := by
  have hnone : (actions.find? fun other =>
      decide (actionPoi candidate other = some poiId)) = none :=
    List.find?_eq_none.mpr fun other hother => by simpa using h other hother
  rw [standsFor, hnone]

/-- The POI of the only action about it. -/
theorem standsFor_of_mem (hmem : action ∈ actions) (hpoi : actionPoi candidate action = some poiId)
    (hunique : ∀ other ∈ actions, actionPoi candidate other = some poiId → other = action) :
    standsFor candidate put actions poiId = put action := by
  unfold standsFor
  split
  · next hnone => exact absurd hpoi (by simpa using List.find?_eq_none.mp hnone action hmem)
  · next other hother =>
    have hsame : actionPoi candidate other = some poiId := by simpa using List.find?_some hother
    rw [hunique other (List.mem_of_find?_eq_some hother) hsame]

/-- What is left is a POI that no action is about, or what an action puts. -/
theorem standsFor_eq_some {left : String}
    (h : standsFor candidate put actions poiId = some left) :
    (left = poiId ∧ ∀ other ∈ actions, actionPoi candidate other ≠ some poiId) ∨
      ∃ other ∈ actions, actionPoi candidate other = some poiId ∧ put other = some left := by
  unfold standsFor at h
  split at h
  · next hnone =>
    refine .inl ⟨(Option.some.inj h).symm, fun other hother => ?_⟩
    simpa using List.find?_eq_none.mp hnone other hother
  · next other hother =>
    exact .inr ⟨other, List.mem_of_find?_eq_some hother, by simpa using List.find?_some hother, h⟩

theorem standsFor_concat (hnew : ∀ other ∈ done, actionPoi candidate other ≠ some poiId)
    (hpoi : actionPoi candidate action = some poiId) :
    standsFor candidate put (done ++ [action]) =
      Function.update (standsFor candidate put done) poiId (put action) := by
  funext other
  unfold standsFor
  rw [List.find?_append]
  by_cases hother : other = poiId
  · subst hother
    have hnone : (done.find? fun earlier =>
        decide (actionPoi candidate earlier = some other)) = none :=
      List.find?_eq_none.mpr fun earlier hearlier => by simpa using hnew earlier hearlier
    rw [Function.update_self, hnone, Option.none_or, List.find?_singleton,
      if_pos (decide_eq_true hpoi)]
  · have hneg : ¬ decide (actionPoi candidate action = some other) = true := by
      rw [decide_eq_true_eq, hpoi]
      exact fun heq => hother (Option.some.inj heq).symm
    rw [Function.update_of_ne hother, List.find?_singleton, if_neg hneg, Option.or_none]

/-- Actions that put the same leave the same. -/
theorem standsFor_congr {put' : WeatherRepairAction → Option String}
    (h : ∀ other ∈ actions, put other = put' other) :
    standsFor candidate put actions = standsFor candidate put' actions := by
  funext poiId
  unfold standsFor
  split
  · rfl
  · next other hother => exact h other (List.mem_of_find?_eq_some hother)

theorem poisAfter_congr {put' : WeatherRepairAction → Option String}
    (h : ∀ other ∈ actions, put other = put' other) (day : DraftDay) :
    poisAfter candidate put actions day = poisAfter candidate put' actions day := by
  rw [poisAfter, poisAfter, standsFor_congr h]

/-- Actions that put something in the same places keep the same POIs. -/
theorem isSome_standsFor {put' : WeatherRepairAction → Option String}
    (h : ∀ other ∈ actions, (put other).isSome = (put' other).isSome) (poiId : String) :
    (standsFor candidate put actions poiId).isSome =
      (standsFor candidate put' actions poiId).isSome := by
  unfold standsFor
  split
  · rfl
  · next other hother => exact h other (List.mem_of_find?_eq_some hother)

theorem movedTo_concat (hpoi : actionPoi candidate action = some poiId) (date : Date) :
    movedTo candidate (done ++ [action]) date = movedTo candidate done date ++
      if action.targetDate = some date then [poiId] else [] := by
  rw [movedTo, List.filterMap_append]
  refine congrArg _ ?_
  by_cases htarget : action.targetDate = some date <;> simp [htarget, hpoi]

theorem poisAfter_nil (day : DraftDay) : poisAfter candidate put [] day = day.poiIds := by
  have hnone : standsFor candidate put [] = some := rfl
  rw [poisAfter, hnone, List.filterMap_some]
  exact List.append_nil _

/-- A draft holds a place once, and its POI nowhere else. -/
structure HeldOnce (draft : CandidateDraft) (place : Date × String) : Prop where
  day : ∃ day ∈ draft.days, day.date = place.1
  count : ∀ day ∈ draft.days, day.poiIds.count place.2 = if day.date = place.1 then 1 else 0

/-- **One more action**: on its day it exchanges its POI, and it may move it to the end of a day. -/
theorem poisAfter_concat {draft : CandidateDraft} {day : DraftDay} (hday : day ∈ draft.days)
    (hheld : HeldOnce draft place)
    (hplace : placeNamed candidate (repairOperation action) = some place)
    (hnew : ∀ other ∈ done, actionPoi candidate other ≠ some place.2)
    (hput : ∀ other ∈ done, put other ≠ some place.2) :
    poisAfter candidate put (done ++ [action]) day =
      (if day.date = place.1 then exchange (poisAfter candidate put done day) place.2 (put action)
        else poisAfter candidate put done day) ++
      if action.targetDate = some day.date then [place.2] else [] := by
  have hpoi := actionPoi_of_placeNamed hplace
  rw [poisAfter, standsFor_concat hnew hpoi, movedTo_concat hpoi, ← List.append_assoc]
  refine congrArg (· ++ _) ?_
  have hcount := hheld.count day hday
  split
  · next hdate =>
    rw [if_pos hdate] at hcount
    refine (exchange_filterMap hcount (standsFor_of_other hnew) (fun other _ hother => ?_) _ _).symm
    rcases standsFor_eq_some hother with ⟨heq, -⟩ | ⟨earlier, hearlier, -, hleft⟩
    · exact heq.symm
    · exact absurd hleft (hput earlier hearlier)
  · next hdate =>
    rw [if_neg hdate] at hcount
    refine congrArg (· ++ _) (List.filterMap_congr fun other hother => ?_)
    refine Function.update_of_ne ?_ ..
    rintro rfl
    exact List.count_eq_zero.mp hcount hother

end Left

/-! ## Applying the actions -/

section Apply

variable {candidate : PlanCandidate} {context : EditContext} {draft : CandidateDraft}
  {state : EditState} {operation : EditOperation} {place : Date × String} {there : List String}

omit [Platform] in
/-- An operation that names a POI has a source. -/
theorem operationSource_of_placeNamed
    (hitems : context.candidateItems = .ofList (identifiedItems candidate))
    (hplace : placeNamed candidate operation = some place) (hgiven : place.2 ≠ "") :
    operationSource context operation = .ok place := by
  obtain ⟨⟨date, item⟩, hentry, hpoi⟩ := Option.bind_eq_some_iff.mp hplace
  obtain ⟨poiId, hpoiId, rfl⟩ := Option.map_eq_some_iff.mp hpoi
  have hitem : item.poiId = some poiId := hpoiId
  have hnonempty : isGiven item.poiId = true := by
    rw [hitem]
    exact decide_eq_true hgiven
  rw [operationSource, operationItem_eq hitems, hentry]
  change (require (isGiven item.poiId = true) _ >>= fun _ => _) = _
  rw [require, if_pos hnonempty, hitem]
  rfl

section Held

variable (hsource : operationSource context operation = .ok place)
  (hget : state.days.get? place.1 = some there) (hmem : place.2 ∈ there)

include hsource hget hmem

omit [Platform] in
theorem takeOut_eq : takeOut context state operation =
    .ok (place.1, place.2, state.days.set place.1 (there.erase place.2)) := by
  rw [takeOut, hsource]
  change (poisOn state.days place.1 >>= fun there => _) = _
  rw [poisOn, hget]
  change (removeFirst there place.2 >>= fun left => _) = _
  rw [removeFirst, if_pos hmem]
  rfl

omit [Platform] in
theorem removeItem_eq : removeItem context state operation =
    .ok { state with days := state.days.set place.1 (exchange there place.2 none) } := by
  rw [removeItem, takeOut_eq hsource hget hmem]
  rfl

omit [Platform] in
theorem moveItem_eq {target : Date} (htarget : operation.targetDate = some target)
    (hindex : operation.targetIndex = none) {there' : List String}
    (hthere' : (state.days.set place.1 (exchange there place.2 none)).get? target = some there') :
    moveItem context state operation = .ok { state with
      days := (state.days.set place.1 (exchange there place.2 none)).set target
        (there' ++ [place.2]) } := by
  have hinsert : insertAt there' none place.2 = there' ++ [place.2] := by
    rw [insertAt, Option.getD_none, Nat.min_self, List.insertIdx_length_self]
  rw [moveItem, takeOut_eq hsource hget hmem]
  change (orRaise ((state.days.set place.1 (exchange there place.2 none)).get?
    (operation.targetDate.getD place.1)) _ >>= fun there => _) = _
  rw [htarget, Option.getD_some, hthere', hindex]
  change Except.ok { state with days := _ } = _
  rw [hinsert]
  rfl

theorem replaceItem_eq (hkind : operation.kind = .replaceItem) {newPoiId : String}
    (hnew : newPlace context.planningPois operation = some newPoiId) (index : ℕ) :
    ∃ after, replaceItem context state operation index = .ok after ∧
      after.days = state.days.set place.1 (exchange there place.2 (some newPoiId)) := by
  have hresolved : resolvePoi context.planningPois (operation.poiName.getD "") = .ok newPoiId := by
    rw [newPlace, if_pos (.inr hkind)] at hnew
    cases hresolve : resolvePoi context.planningPois (operation.poiName.getD "") with
    | error failure =>
      rw [hresolve] at hnew
      cases hnew
    | ok other =>
      rw [hresolve] at hnew
      rw [Option.some.inj hnew]
  refine ⟨⟨_, state.itemIdsByPoi.set newPoiId
    (newItemId context.sessionId context.requestId index)⟩, ?_, rfl⟩
  rw [replaceItem, hsource]
  change (resolvePoi context.planningPois (operation.poiName.getD "") >>= fun newPoiId => _) = _
  rw [hresolved]
  change (poisOn state.days place.1 >>= fun there => _) = _
  rw [poisOn, hget]
  change (require (place.2 ∈ there) _ >>= fun _ => _) = _
  rw [require, if_pos hmem]
  rfl

end Held

/-- The operation of an action passes its guards and names a POI that the draft holds once, a
replacement is found, and a target is a day of the draft. -/
structure Performable (context : EditContext) (candidate : PlanCandidate) (draft : CandidateDraft)
    (action : WeatherRepairAction) : Prop where
  checked : checkOperation context (repairOperation action) = .ok ()
  placed : ∃ place, placeNamed candidate (repairOperation action) = some place ∧ place.2 ≠ "" ∧
    HeldOnce draft place
  found : action.kind = .replaceWithIndoor →
    newPlace context.planningPois (repairOperation action) ≠ none
  target : action.kind = .moveToSafeDate →
    ∃ day ∈ draft.days, action.targetDate = some day.date
  undated : action.kind ≠ .moveToSafeDate → action.targetDate = none

/-- What the operation for an action puts into the place of its POI. -/
def putBy (pois : List PlanningPOI) (action : WeatherRepairAction) : Option String :=
  newPlace pois (repairOperation action)

theorem putBy_eq_none (pois : List PlanningPOI) {action : WeatherRepairAction}
    (h : action.kind ≠ .replaceWithIndoor) : putBy pois action = none := by
  have hkind : ¬ ((repairOperation action).kind = .addItem ∨
      (repairOperation action).kind = .replaceItem) := by
    cases hkind : action.kind with
    | replaceWithIndoor => exact absurd hkind h
    | moveToSafeDate =>
      rw [(repairOperation_move hkind).1]
      decide
    | removeOptionalItem =>
      rw [repairOperation_removal hkind]
      decide
  rw [putBy, newPlace, if_neg hkind]

variable {actions done : List WeatherRepairAction} {action : WeatherRepairAction}

/-- An operation that passes its check is applied by its kind. -/
theorem applyOperation_of_checked {operation : EditOperation}
    (hchecked : checkOperation context operation = .ok ()) (state : EditState) (index : ℕ) :
    applyOperation context state operation index = match operation.kind with
      | .removeItem => removeItem context state operation
      | .moveItem => moveItem context state operation
      | .reorderItem => moveItem context state operation
      | .replaceItem => replaceItem context state operation index
      | .addItem => addItem context state operation index := by
  rw [applyOperation, hchecked]
  rfl

/-- **One operation** that finds what it names leaves what its action plans. -/
theorem applyOperation_planned
    (hitems : context.candidateItems = .ofList (identifiedItems candidate))
    (haction : Performable context candidate draft action)
    (hdone : ∀ day ∈ draft.days, state.days.get? day.date =
      some (poisAfter candidate (putBy context.planningPois) done day))
    (hnew : ∀ other ∈ done, actionPoi candidate other ≠ actionPoi candidate action)
    (hput : ∀ other ∈ done, putBy context.planningPois other ≠ actionPoi candidate action)
    (index : ℕ) :
    ∃ after, applyOperation context state (repairOperation action) index = .ok after ∧
      ∀ day ∈ draft.days, after.days.get? day.date =
        some (poisAfter candidate (putBy context.planningPois) (done ++ [action]) day) := by
  obtain ⟨place, hplace, hgiven, hheld⟩ := haction.placed
  rw [actionPoi_of_placeNamed hplace] at hnew hput
  have hsource := operationSource_of_placeNamed hitems hplace hgiven
  obtain ⟨source, hsourceDay, hdate⟩ := hheld.day
  have hget := hdate ▸ hdone source hsourceDay
  have hmem : place.2 ∈ poisAfter candidate (putBy context.planningPois) done source := by
    have hcount := hheld.count source hsourceDay
    rw [if_pos hdate] at hcount
    exact List.mem_append_left _ (List.mem_filterMap.mpr
      ⟨place.2, List.count_pos_iff.mp (hcount ▸ Nat.one_pos), standsFor_of_other hnew⟩)
  have hafter (day : DraftDay) (hday : day ∈ draft.days) :=
    poisAfter_concat hday hheld hplace hnew hput
  -- What the days hold once the POI of the action has made place.
  have hexchanged (b : Option String) (day : DraftDay) (hday : day ∈ draft.days) :
      (state.days.set place.1 (exchange (poisAfter candidate (putBy context.planningPois) done
        source) place.2 b)).get? day.date = some (if day.date = place.1
          then exchange (poisAfter candidate (putBy context.planningPois) done day) place.2 b
          else poisAfter candidate (putBy context.planningPois) done day) := by
    rw [Dict.get?_set]
    split
    · next hsame =>
      have hboth := (hdone day hday).symm.trans (hsame ▸ hget)
      rw [Option.some.inj hboth]
    · exact hdone day hday
  have happly := applyOperation_of_checked haction.checked state index
  cases hkind : action.kind with
  | removeOptionalItem =>
    have hundated := haction.undated (by rw [hkind]; decide)
    have hnone := putBy_eq_none context.planningPois (by rw [hkind]; decide)
    rw [happly, repairOperation_removal hkind]
    refine ⟨_, removeItem_eq hsource hget hmem, fun day hday => ?_⟩
    rw [hafter day hday, hundated, if_neg (Option.some_ne_none _).symm, List.append_nil, hnone]
    exact hexchanged none day hday
  | moveToSafeDate =>
    have hnone := putBy_eq_none context.planningPois (by rw [hkind]; decide)
    obtain ⟨hmove, hdated⟩ := repairOperation_move hkind
    obtain ⟨target, htargetDay, htarget⟩ := haction.target hkind
    have hthere' := hexchanged none target htargetDay
    rw [happly, hmove]
    refine ⟨_, moveItem_eq hsource hget hmem (hdated.trans htarget) targetIndex_repairOperation
      hthere', fun day hday => ?_⟩
    rw [hafter day hday, htarget, hnone, Dict.get?_set]
    by_cases hsame : day.date = target.date
    · have hboth := hexchanged none day hday
      rw [hsame, hthere'] at hboth
      rw [if_pos hsame, if_pos (congrArg some hsame.symm), hsame, Option.some.inj hboth]
    · rw [if_neg hsame, if_neg fun heq => hsame (Option.some.inj heq).symm, List.append_nil]
      exact hexchanged none day hday
  | replaceWithIndoor =>
    have hundated := haction.undated (by rw [hkind]; decide)
    obtain ⟨hreplace, -⟩ := repairOperation_replacement hkind
    obtain ⟨newPoiId, hnewPlace⟩ := Option.ne_none_iff_exists'.mp (haction.found hkind)
    obtain ⟨after, hok, hdays⟩ := replaceItem_eq hsource hget hmem hreplace hnewPlace index
    rw [happly, hreplace]
    refine ⟨after, hok, fun day hday => ?_⟩
    rw [hafter day hday, hundated, if_neg (Option.some_ne_none _).symm, List.append_nil, hdays]
    have hputs : putBy context.planningPois action = some newPoiId := hnewPlace
    rw [hputs]
    exact hexchanged (some newPoiId) day hday

/-- **A run of operations** that find what they name leaves what their actions plan. -/
theorem applyOperations_planned
    (hitems : context.candidateItems = .ofList (identifiedItems candidate))
    (hactions : ∀ action ∈ actions, Performable context candidate draft action)
    (hdone : ∀ day ∈ draft.days, state.days.get? day.date =
      some (poisAfter candidate (putBy context.planningPois) done day))
    (hapart : (done ++ actions).Pairwise fun earlier later =>
      actionPoi candidate earlier ≠ actionPoi candidate later ∧
        putBy context.planningPois earlier ≠ actionPoi candidate later) (index : ℕ) :
    ∃ after,
      applyOperations context state ((actions.map repairOperation).zipIdx index) = .ok after ∧
      ∀ day ∈ draft.days, after.days.get? day.date =
        some (poisAfter candidate (putBy context.planningPois) (done ++ actions) day) := by
  induction actions generalizing done state index with
  | nil =>
    refine ⟨state, rfl, fun day hday => ?_⟩
    rw [List.append_nil]
    exact hdone day hday
  | cons action rest ih =>
    obtain ⟨hfirst, hrest⟩ := List.forall_mem_cons.mp hactions
    have hbefore := (List.pairwise_append.mp hapart).2.2
    obtain ⟨next, hnext, hstep⟩ := applyOperation_planned hitems hfirst hdone
      (fun other hother => (hbefore other hother action List.mem_cons_self).1)
      (fun other hother => (hbefore other hother action List.mem_cons_self).2) index
    rw [← List.singleton_append, ← List.append_assoc] at hapart ⊢
    obtain ⟨after, hafter, hplanned⟩ := ih hrest hstep hapart (index + 1)
    refine ⟨after, ?_, hplanned⟩
    rw [List.singleton_append, List.map_cons, List.zipIdx_cons, applyOperations, hnext]
    exact hafter

end Apply

/-! ## The actions of a repair -/

/-- The dates to which a repair may move an item. -/
def safeTargets (risks : List DailyWeatherRisk) (locks : List PlanLock) : List Date :=
  let lockedDays : List String :=
    (locks.filter fun lock => decide (lock.kind = .day)).map PlanLock.targetId
  (risks.filter fun risk =>
    decide (risk.level = .normal) && !lockedDays.contains risk.date.isoformat).map
      DailyWeatherRisk.date

/-- The item with an id may be replaced or removed. -/
def isOptionalItem (trip : TripSpec) (items : Dict String (Date × PlanItem)) (itemId : String) :
    Bool :=
  (items.get? itemId).any fun entry => !trip.isMustVisit entry.2.name

/-- The alternatives that a repair uses: one for each optional item, as far as they go. -/
def usedAlternatives (trip : TripSpec) (items : Dict String (Date × PlanItem))
    (alternatives : List PlanningPOI) (itemIds : List String) : List PlanningPOI :=
  alternatives.take (itemIds.countP (isOptionalItem trip items))

/-- What an action of a repair is. -/
inductive ActionOf (trip : TripSpec) (items : Dict String (Date × PlanItem)) (targets : List Date)
    (used : List PlanningPOI) (action : WeatherRepairAction) : Prop where
  | move (entry : Date × PlanItem) (located : items.get? action.itemId = some entry)
      (required : trip.isMustVisit entry.2.name = true) (kind : action.kind = .moveToSafeDate)
      (date : Date) (target : action.targetDate = some date)
      (first : targets.find? (fun date => decide (date ≠ entry.1)) = some date)
      (replacement : action.replacementPoiId = none)
  | replace (entry : Date × PlanItem) (located : items.get? action.itemId = some entry)
      (optional : trip.isMustVisit entry.2.name = false) (kind : action.kind = .replaceWithIndoor)
      (undated : action.targetDate = none) (poi : PlanningPOI) (mem : poi ∈ used)
      (replacement : action.replacementPoiId = some poi.facts.id)
      (name : action.replacementPoiName = some poi.facts.name)
  | remove (entry : Date × PlanItem) (located : items.get? action.itemId = some entry)
      (optional : trip.isMustVisit entry.2.name = false) (kind : action.kind = .removeOptionalItem)
      (undated : action.targetDate = none) (replacement : action.replacementPoiId = none)

theorem ActionOf.mono {trip : TripSpec} {items : Dict String (Date × PlanItem)}
    {targets : List Date} {used used' : List PlanningPOI} {action : WeatherRepairAction}
    (h : ActionOf trip items targets used action) (hused : used ⊆ used') :
    ActionOf trip items targets used' action := by
  cases h with
  | move entry located required kind date target first replacement =>
    exact .move entry located required kind date target first replacement
  | replace entry located optional kind undated poi mem replacement name =>
    exact .replace entry located optional kind undated poi (hused mem) replacement name
  | remove entry located optional kind undated replacement =>
    exact .remove entry located optional kind undated replacement

/-- What the actions of a repair are. -/
structure RepairOf (trip : TripSpec) (items : Dict String (Date × PlanItem)) (targets : List Date)
    (used : List PlanningPOI) (itemIds : List String) (actions : List WeatherRepairAction) :
    Prop where
  itemIds : actions.map WeatherRepairAction.itemId = itemIds
  actionOf : ∀ action ∈ actions, ActionOf trip items targets used action
  replacements : actions.filterMap WeatherRepairAction.replacementPoiId =
    used.map fun poi => poi.facts.id
  uses : ∀ poi ∈ used, ∃ action ∈ actions, action.kind = .replaceWithIndoor ∧
    action.replacementPoiId = some poi.facts.id ∧ action.replacementPoiName = some poi.facts.name

/-- **The actions of a repair**, one for each item in turn. -/
theorem repairOf_of_repairActions {trip : TripSpec} {items : Dict String (Date × PlanItem)}
    {targets : List Date} {alternatives : List PlanningPOI} {itemIds : List String}
    {actions : List WeatherRepairAction}
    (h : repairActions trip items targets alternatives itemIds = some actions) :
    RepairOf trip items targets (usedAlternatives trip items alternatives itemIds) itemIds
      actions := by
  induction itemIds generalizing alternatives actions with
  | nil =>
    cases h
    have hnone : usedAlternatives trip items alternatives [] = [] := rfl
    rw [hnone]
    exact ⟨rfl, fun _ hmem => absurd hmem List.not_mem_nil, rfl,
      fun _ hmem => absurd hmem List.not_mem_nil⟩
  | cons itemId rest ih =>
    unfold repairActions at h
    obtain ⟨entry, hlocated, h⟩ := Option.bind_eq_some_iff.mp h
    obtain ⟨⟨action, left⟩, haction, h⟩ := Option.bind_eq_some_iff.mp h
    obtain ⟨tail, htail, h⟩ := Option.bind_eq_some_iff.mp h
    cases h
    have hrest := ih htail
    have hoptional : isOptionalItem trip items itemId = !trip.isMustVisit entry.2.name := by
      rw [isOptionalItem, hlocated]
      rfl
    unfold repairAction at haction
    split at haction
    · next hrequired =>
      obtain ⟨date, hfirst, heq⟩ := Option.map_eq_some_iff.mp haction
      cases heq
      have hused : usedAlternatives trip items alternatives (itemId :: rest) =
          usedAlternatives trip items alternatives rest := by
        rw [usedAlternatives, List.countP_cons_of_neg (by rw [hoptional, hrequired]; decide)]
        rfl
      rw [hused]
      refine ⟨congrArg _ hrest.itemIds, List.forall_mem_cons.mpr ⟨?_, hrest.actionOf⟩,
        hrest.replacements, fun poi hpoi => ?_⟩
      · exact .move entry hlocated hrequired rfl date rfl hfirst rfl
      · obtain ⟨action, hmem, huses⟩ := hrest.uses poi hpoi
        exact ⟨action, List.mem_cons_of_mem _ hmem, huses⟩
    · next hrequired =>
      have hpos : isOptionalItem trip items itemId = true := by
        rw [hoptional, Bool.eq_false_iff.mpr hrequired]
        rfl
      cases alternatives with
      | cons poi others =>
        cases haction
        have hused : usedAlternatives trip items (poi :: left) (itemId :: rest) =
            poi :: usedAlternatives trip items left rest := by
          rw [usedAlternatives, List.countP_cons_of_pos hpos, List.take_succ_cons]
          rfl
        rw [hused]
        refine ⟨congrArg _ hrest.itemIds, List.forall_mem_cons.mpr ⟨?_, fun action hmem =>
          (hrest.actionOf action hmem).mono (List.subset_cons_self ..)⟩,
          congrArg _ hrest.replacements, List.forall_mem_cons.mpr ⟨?_, fun poi hpoi => ?_⟩⟩
        · exact .replace entry hlocated (Bool.eq_false_iff.mpr hrequired) rfl rfl poi
            List.mem_cons_self rfl rfl
        · exact ⟨_, List.mem_cons_self, rfl, rfl, rfl⟩
        · obtain ⟨action, hmem, huses⟩ := hrest.uses poi hpoi
          exact ⟨action, List.mem_cons_of_mem _ hmem, huses⟩
      | nil =>
        cases haction
        have hnone (itemIds : List String) : usedAlternatives trip items [] itemIds = [] :=
          List.take_nil
        rw [hnone] at hrest ⊢
        refine ⟨congrArg _ hrest.itemIds, List.forall_mem_cons.mpr ⟨?_, hrest.actionOf⟩,
          hrest.replacements, fun _ hmem => absurd hmem List.not_mem_nil⟩
        exact .remove entry hlocated (Bool.eq_false_iff.mpr hrequired) rfl rfl rfl

theorem repairOf_of_buildWeatherRepairPlan {eventId baseVersionId : String} {trip : TripSpec}
    {candidate : PlanCandidate} {impact : WeatherImpactResult} {risks : List DailyWeatherRisk}
    {alternatives : List PlanningPOI} {locks : List PlanLock} {plan : WeatherRepairPlan}
    (h : buildWeatherRepairPlan eventId baseVersionId trip candidate impact risks alternatives
      locks = some plan) :
    RepairOf trip (.ofList (identifiedItems candidate)) (safeTargets risks locks)
      (usedAlternatives trip (.ofList (identifiedItems candidate)) alternatives
        impact.affectedItemIds) impact.affectedItemIds plan.actions := by
  obtain ⟨actions, hactions, h⟩ := Option.bind_eq_some_iff.mp h
  split at h
  · cases h
  · cases h
    exact repairOf_of_repairActions hactions

/-! ## Items and their POIs -/

/-- Items that visit the same POI have the same id. -/
def IdsByPoi (candidate : PlanCandidate) : Prop :=
  ∀ entry ∈ candidate.datedItems, ∀ other ∈ candidate.datedItems,
    entry.2.poiId = other.2.poiId → entry.2.itemId = other.2.itemId

/-- A materialised item visits a POI that the draft has on its day. -/
theorem Materialized.exists_day {trip : TripSpec} {settings : RouteSettings}
    {draft : CandidateDraft} {pois : List PlanningPOI} {routes : Routes} {candidate : PlanCandidate}
    (h : Materialized trip settings draft pois routes candidate) {entry : Date × PlanItem}
    (hentry : entry ∈ candidate.datedItems) {poiId : String}
    (hpoiId : entry.2.poiId = some poiId) :
    ∃ day ∈ draft.days, day.date = entry.1 ∧ poiId ∈ day.poiIds := by
  obtain ⟨plan, hplan, hentry⟩ := List.mem_flatMap.mp hentry
  obtain ⟨item, hitem, rfl⟩ := List.mem_map.mp hentry
  obtain ⟨day, hday, hscheduled⟩ := exists_of_forall₂_right h.scheduled (List.mem_map_of_mem hplan)
  have hdate := hscheduled.date_eq
  obtain ⟨materialized, hmaterialized, heq⟩ := hscheduled
  have horder := (followsDraftDay_of_materializeDay hmaterialized).order
  rw [← heq] at horder
  refine ⟨day, hday, hdate.symm, ?_⟩
  have hmem : item.withoutId.poiId ∈ day.poiIds.map some :=
    horder.subset (List.mem_map_of_mem (List.mem_map_of_mem hitem))
  obtain ⟨other, hother, hsame⟩ := List.mem_map.mp hmem
  rwa [← Option.some.inj (hsame.trans hpoiId)]

section Entries

variable {candidate : PlanCandidate} {context : EditContext} {action other : WeatherRepairAction}
  {entry : Date × PlanItem} {poiId : String} {place : Date × String}

omit [Platform]

theorem itemNamed_of_located (hgiven : action.itemId ≠ "")
    (hlocated : (Dict.ofList (identifiedItems candidate)).get? action.itemId = some entry) :
    itemNamed candidate (repairOperation action) = some entry := by
  have hid : isGiven (repairOperation action).itemId = true := by
    rw [itemId_repairOperation]
    exact decide_eq_true hgiven
  rw [itemNamed, if_pos hid, itemId_repairOperation]
  exact hlocated

/-- The item behind the POI of an action. -/
theorem exists_entry_of_placeNamed
    (h : placeNamed candidate (repairOperation action) = some place) :
    action.itemId ≠ "" ∧ ∃ entry ∈ candidate.datedItems,
      (Dict.ofList (identifiedItems candidate)).get? action.itemId = some entry ∧
      entry.2.itemId = some action.itemId ∧ entry.1 = place.1 ∧ entry.2.poiId = some place.2 := by
  obtain ⟨entry, hnamed, hpoi⟩ := Option.bind_eq_some_iff.mp h
  obtain ⟨poiId, hpoiId, rfl⟩ := Option.map_eq_some_iff.mp hpoi
  unfold itemNamed at hnamed
  rw [itemId_repairOperation] at hnamed
  split at hnamed
  · next hgiven =>
    obtain ⟨hmem, hid⟩ := mem_identifiedItems.mp (Dict.mem_of_get?_ofList hnamed)
    exact ⟨of_decide_eq_true hgiven, entry, hmem, hnamed, hid, rfl, hpoiId⟩
  · cases hnamed

theorem exists_placeNamed (h : actionPoi candidate action = some poiId) :
    ∃ place, placeNamed candidate (repairOperation action) = some place ∧ place.2 = poiId :=
  Option.map_eq_some_iff.mp h

/-- Actions about one POI are about one item. -/
theorem itemId_eq_of_actionPoi (hids : IdsByPoi candidate)
    (h : actionPoi candidate action = some poiId) (h' : actionPoi candidate other = some poiId) :
    action.itemId = other.itemId := by
  obtain ⟨place, hplace, rfl⟩ := exists_placeNamed h
  obtain ⟨place', hplace', hsame⟩ := exists_placeNamed h'
  obtain ⟨-, entry, hentry, -, hid, -, hpoi⟩ := exists_entry_of_placeNamed hplace
  obtain ⟨-, entry', hentry', -, hid', -, hpoi'⟩ := exists_entry_of_placeNamed hplace'
  rw [hsame] at hpoi'
  have heq := hids entry hentry entry' hentry' (hpoi.trans hpoi'.symm)
  exact Option.some.inj (hid.symm.trans (heq.trans hid'))

end Entries

/-- The guards of an action's operation. -/
theorem checkOperation_repairOperation {candidate : PlanCandidate} {context : EditContext}
    {action : WeatherRepairAction} {entry : Date × PlanItem}
    (hitems : context.candidateItems = .ofList (identifiedItems candidate))
    (hnamed : itemNamed candidate (repairOperation action) = some entry)
    (hpoi : entry.2.poiId ≠ none)
    (hguard : context.trip.isMustVisit entry.2.name = true → action.kind = .moveToSafeDate) :
    checkOperation context (repairOperation action) = .ok () := by
  have hkind : ¬ (context.trip.isMustVisit entry.2.name = true ∧
      ((repairOperation action).kind = .removeItem ∨
        (repairOperation action).kind = .replaceItem)) := by
    rintro ⟨hrequired, hkinds⟩
    rw [(repairOperation_move (hguard hrequired)).1] at hkinds
    exact absurd hkinds (by decide)
  rw [checkOperation, operationItem_eq hitems, hnamed]
  change (require (entry.2.poiId ≠ none) _ >>= fun _ => _) = _
  rw [require, if_pos hpoi]
  change require _ _ = _
  rw [require, if_pos hkind]

/-- The place that is resolved for a replacement. -/
theorem putBy_eq_some_iff {pois : List PlanningPOI} {action : WeatherRepairAction} {name : String}
    (hkind : action.kind = .replaceWithIndoor) (hname : action.replacementPoiName = some name)
    {poiId : String} :
    putBy pois action = some poiId ↔
      ((pois.filter fun known => namesOverlap name known.facts.name).map
        fun known => known.facts.id) = [poiId] := by
  obtain ⟨hreplace, hpoiName⟩ := repairOperation_replacement hkind
  rw [putBy, newPlace, if_pos (.inr hreplace), hpoiName, hname, Option.getD_some, resolvePoi]
  split
  · next other hother =>
    rw [hother, List.cons.injEq]
    exact ⟨fun h => ⟨Option.some.inj h, rfl⟩, fun h => congrArg some h.1⟩
  · next hother =>
    exact ⟨fun h => absurd h.symm (Option.some_ne_none _), fun h => absurd h (hother poiId)⟩

/-! ## From the days that are left to the operations -/

section Balance

variable {candidate : PlanCandidate} {put : WeatherRepairAction → Option String}
  {pois : List PlanningPOI} {actions : List WeatherRepairAction}
  {action other : WeatherRepairAction} {place : Date × String} {date : Date} {poiId : String}

omit [Platform] in
theorem takesPlace_repairOperation :
    takesPlace candidate (repairOperation action) = placeNamed candidate (repairOperation action) :=
  if_neg kind_repairOperation_ne

theorem putsPlace_of_move (hkind : action.kind = .moveToSafeDate)
    (htarget : action.targetDate = some date)
    (hplace : placeNamed candidate (repairOperation action) = some place) :
    putsPlace candidate pois (repairOperation action) = some (date, place.2) := by
  obtain ⟨hmove, hdated⟩ := repairOperation_move hkind
  rw [putsPlace, hmove, hplace, hdated, htarget]
  rfl

theorem putsPlace_of_replacement (hkind : action.kind = .replaceWithIndoor)
    (hplace : placeNamed candidate (repairOperation action) = some place)
    (hput : putBy pois action = some poiId) :
    putsPlace candidate pois (repairOperation action) = some (place.1, poiId) := by
  have hnew : newPlace pois (repairOperation action) = some poiId := hput
  rw [putsPlace, (repairOperation_replacement hkind).1, hplace, hnew]
  rfl

variable (hnodup : (actions.map WeatherRepairAction.itemId).Nodup) (hids : IdsByPoi candidate)

section Unique

include hnodup hids

omit [Platform]

/-- Only one action is about a POI. -/
theorem eq_of_actionPoi (hmem : action ∈ actions) (hother : other ∈ actions)
    (h : actionPoi candidate action = some poiId) (h' : actionPoi candidate other = some poiId) :
    other = action :=
  List.inj_on_of_nodup_map hnodup hother hmem (itemId_eq_of_actionPoi hids h' h)

/-- A place is taken by the only action that names it. -/
theorem count_taken_le (hmem : action ∈ actions)
    (hplace : placeNamed candidate (repairOperation action) = some place) (date : Date) :
    ((actions.map repairOperation).filterMap (takesPlace candidate)).count (date, place.2) ≤
      if date = place.1 then 1 else 0 := by
  have hnamed (other : WeatherRepairAction) (hother : other ∈ actions)
      (htaken : takesPlace candidate (repairOperation other) = some (date, place.2)) :
      other = action := by
    rw [takesPlace_repairOperation] at htaken
    refine eq_of_actionPoi hnodup hids hmem hother (actionPoi_of_placeNamed hplace) ?_
    rw [actionPoi, htaken]
    rfl
  rw [List.count_filterMap, List.countP_map]
  split
  · calc actions.countP ((fun operation => takesPlace candidate operation == some (date, place.2)) ∘
          repairOperation)
        _ ≤ actions.countP ((· == action.itemId) ∘ WeatherRepairAction.itemId) := by
          refine List.countP_mono_left fun other hother htaken => ?_
          rw [hnamed other hother (eq_of_beq htaken)]
          exact beq_self_eq_true _
        _ = (actions.map WeatherRepairAction.itemId).count action.itemId := by
          rw [List.count, List.countP_map]
        _ ≤ 1 := List.nodup_iff_count_le_one.mp hnodup _
  · next hdate =>
    refine Nat.le_of_eq (List.countP_eq_zero.mpr fun other hother htaken => hdate ?_)
    have htaken' := eq_of_beq htaken
    rw [hnamed other hother htaken', takesPlace_repairOperation, hplace] at htaken'
    rw [Option.some.inj htaken']

end Unique

omit [Platform] in
/-- Where an action is about a POI, its day has it only when it is moved there. -/
theorem count_poisAfter (hmem : action ∈ actions)
    (hpoi : actionPoi candidate action = some poiId)
    (hput : ∀ other ∈ actions, put other ≠ some poiId) (day : DraftDay) :
    (poisAfter candidate put actions day).count poiId =
      (movedTo candidate actions day.date).count poiId := by
  have hgone : poiId ∉ day.poiIds.filterMap (standsFor candidate put actions) := by
    intro hleft
    obtain ⟨earlier, -, hstands⟩ := List.mem_filterMap.mp hleft
    rcases standsFor_eq_some hstands with ⟨rfl, hnone⟩ | ⟨other, hother, -, hputs⟩
    · exact hnone action hmem hpoi
    · exact hput other hother hputs
  rw [poisAfter, List.count_append, List.count_eq_zero.mpr hgone, Nat.zero_add]

/-- Every moved POI is put on its target date. -/
theorem puts_of_movedTo (hmoves : ∀ other ∈ actions, ∀ date, other.targetDate = some date →
      other.kind = .moveToSafeDate) (hmem : other ∈ actions)
    (h : ((if other.targetDate = some date then actionPoi candidate other else none) ==
      some poiId) = true) :
    (putsPlace candidate pois (repairOperation other) == some (date, poiId)) = true := by
  have hmoved := eq_of_beq h
  split at hmoved
  · next htarget =>
    obtain ⟨place, hplace, rfl⟩ := exists_placeNamed hmoved
    rw [putsPlace_of_move (hmoves other hmem date htarget) htarget hplace]
    exact beq_self_eq_true _
  · cases hmoved

theorem count_movedTo_le (hmoves : ∀ other ∈ actions, ∀ date, other.targetDate = some date →
      other.kind = .moveToSafeDate) (date : Date) (poiId : String) :
    (movedTo candidate actions date).count poiId ≤
      ((actions.map repairOperation).filterMap (putsPlace candidate pois)).count (date, poiId) := by
  rw [movedTo, List.count_filterMap, List.count_filterMap, List.countP_map]
  exact List.countP_mono_left fun other hother h => puts_of_movedTo hmoves hother h

/-- A replacement is put besides what is moved. -/
theorem count_movedTo_lt (hmoves : ∀ other ∈ actions, ∀ date, other.targetDate = some date →
      other.kind = .moveToSafeDate) (hmem : action ∈ actions)
    (hkind : action.kind = .replaceWithIndoor)
    (hplace : placeNamed candidate (repairOperation action) = some place)
    (hput : putBy pois action = some poiId) :
    (movedTo candidate actions place.1).count poiId <
      ((actions.map repairOperation).filterMap (putsPlace candidate pois)).count
        (place.1, poiId) := by
  rw [movedTo, List.count_filterMap, List.count_filterMap, List.countP_map]
  refine countP_lt_of_mem (fun other hother h => puts_of_movedTo hmoves hother h) hmem ?_ ?_
  · intro h
    have hmoved := eq_of_beq h
    split at hmoved
    · next htarget =>
      have hmove := hmoves action hmem place.1 htarget
      rw [hkind] at hmove
      cases hmove
    · cases hmoved
  · rw [Function.comp_apply, putsPlace_of_replacement hkind hplace hput]
    exact beq_self_eq_true _

end Balance

/-- Operations that are applied were not refused, and each named a POI. -/
theorem found_of_applyOperations {candidate : PlanCandidate} {context : EditContext}
    {state after : EditState}
    (hitems : context.candidateItems = .ofList (identifiedItems candidate))
    {operations : List (EditOperation × ℕ)} (hkinds : ∀ entry ∈ operations, entry.1.kind ≠ .addItem)
    (h : applyOperations context state operations = .ok after) :
    ∀ operation ∈ operations.map Prod.fst, ¬ IsRefused context state.days.keys operation ∧
      ∃ place, placeNamed candidate operation = some place ∧ place.2 ≠ "" := by
  induction operations generalizing state with
  | nil => exact fun _ hmem => absurd hmem List.not_mem_nil
  | cons entry rest ih =>
    obtain ⟨hfirst, hrest⟩ := List.forall_mem_cons.mp hkinds
    obtain ⟨next, hnext, h⟩ := bind_eq_ok h
    have hend : OperationEnd context candidate state entry.1
        (applyOperation context state entry.1 entry.2) :=
      operationEnd_applyOperation hitems fun hkind => absurd hkind hfirst
    rw [hnext] at hend
    cases hend with
    | done hrefused hfinds =>
      have hkeys := (operationEffect_of_applyOperation hitems hnext).keys
      refine List.forall_mem_cons.mpr ⟨⟨hrefused, hfinds.named ?_ hfirst⟩, fun operation hmem => ?_⟩
      · exact not_not.mp fun hunchecked => hrefused (.inl hunchecked)
      · rw [← hkeys]
        exact ih hrest h operation hmem

/-! ## Repairs that are executed as planned -/

/-- What a repair needs to be executed as planned: the draft holds the POI of each affected item
once, the first safe date for an item that is required is a day of the draft, and the name of each
alternative that is used overlaps that of no other place at hand, and none is used twice. -/
structure Executable (trip : TripSpec) (version : PlanVersion) (alternatives : List PlanningPOI)
    (impact : WeatherImpactResult) (risks : List DailyWeatherRisk) (locks : List PlanLock) :
    Prop where
  heldOnce : ∀ itemId ∈ impact.affectedItemIds, itemId ≠ "" ∧ ∀ entry,
    (Dict.ofList (identifiedItems version.candidate)).get? itemId = some entry →
      ∃ poiId, entry.2.poiId = some poiId ∧ poiId ≠ "" ∧
        HeldOnce version.candidateDraft (entry.1, poiId)
  inTrip : ∀ itemId ∈ impact.affectedItemIds, ∀ entry,
    (Dict.ofList (identifiedItems version.candidate)).get? itemId = some entry →
      trip.isMustVisit entry.2.name = true → ∀ date,
        (safeTargets risks locks).find? (fun date => decide (date ≠ entry.1)) = some date →
          date ∈ version.candidateDraft.days.map DraftDay.date
  unambiguous : ∀ poi ∈ usedAlternatives trip (.ofList (identifiedItems version.candidate))
      alternatives impact.affectedItemIds,
    ((withAlternatives version.planningPois alternatives).filter
      fun known => namesOverlap poi.facts.name known.facts.name).map
        (fun known => known.facts.id) = [poi.facts.id]
  distinct : ((usedAlternatives trip (.ofList (identifiedItems version.candidate)) alternatives
    impact.affectedItemIds).map fun poi => poi.facts.id).Nodup

section Repairs

variable {trip : TripSpec} {candidate : PlanCandidate} {draft edited : CandidateDraft}
  {pois used : List PlanningPOI} {targets : List Date} {itemIds : List String}
  {actions : List WeatherRepairAction} {sessionId requestId : String} {ids : Dict String String}

theorem RepairOf.nodup
    (h : RepairOf trip (.ofList (identifiedItems candidate)) targets used itemIds actions)
    (hitemIds : itemIds.Nodup) : (actions.map WeatherRepairAction.itemId).Nodup := by
  rw [h.itemIds]
  exact hitemIds

/-- Only a move has a target date. -/
theorem RepairOf.move_of_target
    (h : RepairOf trip (.ofList (identifiedItems candidate)) targets used itemIds actions)
    {action : WeatherRepairAction} (hmem : action ∈ actions) {date : Date}
    (htarget : action.targetDate = some date) : action.kind = .moveToSafeDate := by
  cases h.actionOf action hmem with
  | move entry located required kind => exact kind
  | replace entry located optional kind undated =>
    rw [undated] at htarget
    cases htarget
  | remove entry located optional kind undated =>
    rw [undated] at htarget
    cases htarget

/-- A replacement is an alternative that is used. -/
theorem RepairOf.exists_used
    (h : RepairOf trip (.ofList (identifiedItems candidate)) targets used itemIds actions)
    {action : WeatherRepairAction} (hmem : action ∈ actions) {poiId : String}
    (hreplacement : action.replacementPoiId = some poiId) :
    ∃ poi ∈ used, poi.facts.id = poiId := by
  have hlisted : poiId ∈ actions.filterMap WeatherRepairAction.replacementPoiId :=
    List.mem_filterMap.mpr ⟨action, hmem, hreplacement⟩
  rw [h.replacements] at hlisted
  exact List.mem_map.mp hlisted

/-- Applying the patch of a repair whose operations can be performed. -/
theorem applyEditPatch_planned (hdates : (draft.days.map DraftDay.date).Nodup)
    (hactions : ∀ action ∈ actions,
      Performable (editContext sessionId requestId trip candidate pois) candidate draft action)
    (hapart : actions.Pairwise fun earlier later =>
      actionPoi candidate earlier ≠ actionPoi candidate later ∧
        putBy pois earlier ≠ actionPoi candidate later) :
    ∃ edited ids, applyEditPatch sessionId requestId trip candidate draft pois
        ⟨actions.map repairOperation⟩ = .ok (edited, ids) ∧
      edited.days = draft.days.map fun day =>
        ⟨day.date, poisAfter candidate (putBy pois) actions day⟩ := by
  have hinitial : ∀ day ∈ draft.days, (initialEditState candidate draft).days.get? day.date =
      some (poisAfter candidate (putBy pois) [] day) := by
    intro day hday
    rw [poisAfter_nil]
    exact get?_initialEditState hdates hday
  have hrun : ∃ after, applyOperations (editContext sessionId requestId trip candidate pois)
        (initialEditState candidate draft) ((actions.map repairOperation).zipIdx 0) = .ok after ∧
      ∀ day ∈ draft.days, after.days.get? day.date =
        some (poisAfter candidate (putBy pois) ([] ++ actions) day) :=
    applyOperations_planned rfl hactions hinitial hapart 0
  obtain ⟨after, hafter, hplanned⟩ := hrun
  have happlied : applyEditPatch sessionId requestId trip candidate draft pois
      ⟨actions.map repairOperation⟩ = .ok (editedDraft draft after.days, .ofList
        ((after.itemIdsByPoi.filterKeys fun poiId => decide (poiId ≠ "")).entries.filter
          fun entry => decide (entry.2 ≠ ""))) := by
    unfold applyEditPatch
    change (applyOperations (editContext sessionId requestId trip candidate pois)
      (initialEditState candidate draft) ((actions.map repairOperation).zipIdx 0) >>=
        fun state => _) = _
    rw [hafter]
    rfl
  refine ⟨_, _, happlied, List.map_congr_left fun day hday => ?_⟩
  rw [hplanned day hday]
  rfl

/-- The operations of a repair that meets its conditions can be performed. -/
theorem performable_of_executable {version : PlanVersion} {alternatives : List PlanningPOI}
    {impact : WeatherImpactResult} {risks : List DailyWeatherRisk} {locks : List PlanLock}
    (hrepair : RepairOf trip (.ofList (identifiedItems version.candidate))
      (safeTargets risks locks) (usedAlternatives trip
        (.ofList (identifiedItems version.candidate)) alternatives impact.affectedItemIds)
      impact.affectedItemIds actions)
    (h : Executable trip version alternatives impact risks locks) {action : WeatherRepairAction}
    (hmem : action ∈ actions) :
    Performable (editContext sessionId requestId trip version.candidate
        (withAlternatives version.planningPois alternatives)) version.candidate
        version.candidateDraft action ∧
      putBy (withAlternatives version.planningPois alternatives) action =
        action.replacementPoiId := by
  have haffected : action.itemId ∈ impact.affectedItemIds :=
    hrepair.itemIds ▸ List.mem_map_of_mem hmem
  obtain ⟨hgiven, hheld⟩ := h.heldOnce action.itemId haffected
  -- The guards pass and the place is named, whatever the kind is.
  have hbase {entry : Date × PlanItem}
      (hlocated : (Dict.ofList (identifiedItems version.candidate)).get? action.itemId = some entry)
      (hguard : trip.isMustVisit entry.2.name = true → action.kind = .moveToSafeDate) :
      checkOperation (editContext sessionId requestId trip version.candidate
          (withAlternatives version.planningPois alternatives)) (repairOperation action) = .ok () ∧
        ∃ place, placeNamed version.candidate (repairOperation action) = some place ∧
          place.2 ≠ "" ∧ HeldOnce version.candidateDraft place := by
    obtain ⟨poiId, hpoiId, hnonempty, honce⟩ := hheld entry hlocated
    have hnamed := itemNamed_of_located hgiven hlocated
    refine ⟨checkOperation_repairOperation rfl hnamed (by rw [hpoiId]; exact Option.some_ne_none _)
      hguard, (entry.1, poiId), ?_, hnonempty, honce⟩
    rw [placeNamed, hnamed, Option.bind_some, hpoiId]
    rfl
  cases hrepair.actionOf action hmem with
  | move entry located required kind date target first replacement =>
    obtain ⟨hchecked, hplaced⟩ := hbase located fun _ => kind
    have hdate := h.inTrip action.itemId haffected entry located required date first
    obtain ⟨day, hday, rfl⟩ := List.mem_map.mp hdate
    refine ⟨⟨hchecked, hplaced, fun hkind => ?_, fun _ => ⟨day, hday, target⟩,
      fun hkind => absurd kind hkind⟩, ?_⟩
    · rw [kind] at hkind
      cases hkind
    · rw [replacement]
      exact putBy_eq_none _ (by rw [kind]; decide)
  | replace entry located optional kind undated poi mem replacement name =>
    obtain ⟨hchecked, hplaced⟩ := hbase located fun hrequired =>
      absurd (hrequired.symm.trans optional) (by decide)
    have hput := (putBy_eq_some_iff kind name).mpr (h.unambiguous poi mem)
    refine ⟨⟨hchecked, hplaced, fun _ => ?_, fun hkind => ?_, fun _ => undated⟩, ?_⟩
    · change putBy (withAlternatives version.planningPois alternatives) action ≠ none
      rw [hput]
      exact Option.some_ne_none _
    · rw [kind] at hkind
      cases hkind
    · rw [hput, replacement]
  | remove entry located optional kind undated replacement =>
    obtain ⟨hchecked, hplaced⟩ := hbase located fun hrequired =>
      absurd (hrequired.symm.trans optional) (by decide)
    refine ⟨⟨hchecked, hplaced, fun hkind => ?_, fun hkind => ?_, fun _ => undated⟩, ?_⟩
    · rw [kind] at hkind
      cases hkind
    · rw [kind] at hkind
      cases hkind
    · rw [replacement]
      exact putBy_eq_none _ (by rw [kind]; decide)

/-- Different actions are about different POIs, and no replacement is one of them. -/
theorem pairwise_apart
    (hrepair : RepairOf trip (.ofList (identifiedItems candidate)) targets used itemIds actions)
    (hitemIds : itemIds.Nodup) (hids : IdsByPoi candidate)
    (hnamed : ∀ action ∈ actions, ∃ poiId, actionPoi candidate action = some poiId)
    (hput : ∀ earlier ∈ actions, ∀ later ∈ actions, ∀ poiId,
      putBy pois earlier = some poiId → actionPoi candidate later ≠ some poiId) :
    actions.Pairwise fun earlier later =>
      actionPoi candidate earlier ≠ actionPoi candidate later ∧
        putBy pois earlier ≠ actionPoi candidate later := by
  refine (List.pairwise_map.mp (hrepair.nodup hitemIds)).imp_of_mem
    fun {earlier later} hearlier hlater hne => ?_
  obtain ⟨poiId, hpoiId⟩ := hnamed later hlater
  exact ⟨fun heq => hne (itemId_eq_of_actionPoi hids (heq.trans hpoiId) hpoiId),
    fun heq => hput earlier hearlier later hlater poiId (heq.trans hpoiId) hpoiId⟩

/-- Replacements are not scheduled. -/
theorem replacement_apart {alternatives : List PlanningPOI}
    (hrepair : RepairOf trip (.ofList (identifiedItems candidate)) targets used itemIds actions)
    (hused : used ⊆ alternatives)
    (hunscheduled : ∀ poi ∈ alternatives, ∀ entry ∈ candidate.datedItems,
      entry.2.poiId ≠ some poi.facts.id)
    {earlier later : WeatherRepairAction} (hearlier : earlier ∈ actions) {poiId : String}
    (hreplacement : earlier.replacementPoiId = some poiId) :
    actionPoi candidate later ≠ some poiId := by
  intro hpoi
  obtain ⟨poi, hpoi', rfl⟩ := hrepair.exists_used hearlier hreplacement
  obtain ⟨place, hplace, hsame⟩ := exists_placeNamed hpoi
  obtain ⟨-, entry, hentry, -, -, -, hentryPoi⟩ := exists_entry_of_placeNamed hplace
  exact hunscheduled poi (hused hpoi') entry hentry (hentryPoi.trans (congrArg some hsame))

end Repairs

section Executed

variable {trip : TripSpec} {version : PlanVersion} {alternatives : List PlanningPOI}
  {impact : WeatherImpactResult} {risks : List DailyWeatherRisk} {locks : List PlanLock}
  {plan : WeatherRepairPlan} {eventId baseVersionId sessionId requestId : String}
  {settings : RouteSettings}

/-- What the operations of a repair did, told by the days that they left. -/
structure LeftAsPlanned (candidate : PlanCandidate) (draft : CandidateDraft)
    (pois : List PlanningPOI) (actions : List WeatherRepairAction)
    (after : Dict Date (List String)) :
    Prop where
  effect : OperationsEffect candidate pois (actions.map repairOperation)
    (initialEditState candidate draft).days after
  left : ∀ day ∈ draft.days, (after.get? day.date).getD [] =
    poisAfter candidate WeatherRepairAction.replacementPoiId actions day

/-- **Nothing interferes** with a repair that left what it planned: the draft held the POI of an
action once, and no replacement was resolved to it. -/
theorem LeftAsPlanned.heldOnce {candidate : PlanCandidate} {draft : CandidateDraft}
    {pois used : List PlanningPOI} {targets : List Date} {itemIds : List String}
    {actions : List WeatherRepairAction} {after : Dict Date (List String)}
    (h : LeftAsPlanned candidate draft pois actions after)
    (hrepair : RepairOf trip (.ofList (identifiedItems candidate)) targets used itemIds actions)
    (hitemIds : itemIds.Nodup) (hids : IdsByPoi candidate)
    (hdates : (draft.days.map DraftDay.date).Nodup)
    (hscheduled : ∀ action ∈ actions, ∃ place,
      placeNamed candidate (repairOperation action) = some place ∧
        ∃ day ∈ draft.days, day.date = place.1 ∧ place.2 ∈ day.poiIds)
    (happart : ∀ earlier ∈ actions, ∀ later ∈ actions, ∀ poiId,
      earlier.replacementPoiId = some poiId → actionPoi candidate later ≠ some poiId)
    {action : WeatherRepairAction} (hmem : action ∈ actions) {place : Date × String}
    (hplace : placeNamed candidate (repairOperation action) = some place) :
    HeldOnce draft place ∧ ∀ other ∈ actions, putBy pois other ≠ some place.2 := by
  have hpoi := actionPoi_of_placeNamed hplace
  have hnodup := hrepair.nodup hitemIds
  have hmoves (other : WeatherRepairAction) (hother : other ∈ actions) (date : Date)
      (htarget : other.targetDate = some date) : other.kind = .moveToSafeDate :=
    hrepair.move_of_target hother htarget
  -- What a day holds of the POI, before and after.
  have hbalance (day : DraftDay) (hday : day ∈ draft.days) :
      (movedTo candidate actions day.date).count place.2 +
          ((actions.map repairOperation).filterMap (takesPlace candidate)).count
            (day.date, place.2) =
        day.poiIds.count place.2 + ((actions.map repairOperation).filterMap
          (putsPlace candidate pois)).count (day.date, place.2) := by
    have hplaces := h.effect.places (day.date, place.2)
    rw [countIn_of_get? (get?_initialEditState hdates hday)] at hplaces
    have hleft : countIn after (day.date, place.2) =
        (movedTo candidate actions day.date).count place.2 := by
      rw [countIn, h.left day hday]
      exact count_poisAfter hmem hpoi (fun other hother hput =>
        happart other hother action hmem place.2 hput hpoi) day
    rw [← hleft]
    exact hplaces
  have htaken (date : Date) := count_taken_le hnodup hids hmem hplace date
  obtain ⟨day, hday, hdate, hheld⟩ : ∃ day ∈ draft.days, day.date = place.1 ∧
      place.2 ∈ day.poiIds := by
    obtain ⟨place', hplace', hscheduled⟩ := hscheduled action hmem
    rwa [← Option.some.inj (hplace.symm.trans hplace')] at hscheduled
  have hpos : 0 < day.poiIds.count place.2 := List.count_pos_iff.mpr hheld
  have hcount (other : DraftDay) (hother : other ∈ draft.days) :
      other.poiIds.count place.2 = if other.date = place.1 then 1 else 0 := by
    have hbalance := hbalance other hother
    have hputs : (movedTo candidate actions other.date).count place.2 ≤
        ((actions.map repairOperation).filterMap (putsPlace candidate pois)).count
          (other.date, place.2) := count_movedTo_le hmoves other.date place.2
    have htaken := htaken other.date
    split at htaken
    · next hsame =>
      rw [if_pos hsame]
      have heq : other = day :=
        List.inj_on_of_nodup_map hdates hother hday (hsame.trans hdate.symm)
      rw [heq] at hbalance hputs htaken ⊢
      omega
    · next hsame =>
      rw [if_neg hsame]
      omega
  refine ⟨⟨⟨day, hday, hdate⟩, hcount⟩, fun other hother hput => ?_⟩
  have hkind : other.kind = .replaceWithIndoor := by
    by_contra hkind
    rw [putBy_eq_none pois hkind] at hput
    cases hput
  obtain ⟨place', hplace', day', hday', hdate', -⟩ := hscheduled other hother
  have hputs := count_movedTo_lt hmoves hother hkind hplace' hput
  have hbalance := hbalance day' hday'
  have htaken := htaken day'.date
  rw [hdate'] at hbalance htaken
  rw [← hdate', hcount day' hday', hdate'] at hbalance
  omega

section Done

variable {after : EditState}
  (hversion : Materialized trip settings version.candidateDraft version.planningPois
    version.routeResults version.candidate)
  (hids : IdsByPoi version.candidate) (hitemIds : impact.affectedItemIds.Nodup)
  (hrepair : RepairOf trip (.ofList (identifiedItems version.candidate))
    (safeTargets risks locks) (usedAlternatives trip
      (.ofList (identifiedItems version.candidate)) alternatives impact.affectedItemIds)
    impact.affectedItemIds plan.actions)
  (hdone : applyOperations (editContext sessionId requestId trip version.candidate
      (withAlternatives version.planningPois alternatives))
    (initialEditState version.candidate version.candidateDraft)
    ((plan.actions.map repairOperation).zipIdx 0) = .ok after)
  (hscheduled : ∀ action ∈ plan.actions, ∃ place,
    placeNamed version.candidate (repairOperation action) = some place ∧
      ∃ day ∈ version.candidateDraft.days, day.date = place.1 ∧ place.2 ∈ day.poiIds)
  (hheld : ∀ action ∈ plan.actions, ∀ place,
    placeNamed version.candidate (repairOperation action) = some place →
      HeldOnce version.candidateDraft place ∧ ∀ other ∈ plan.actions,
        putBy (withAlternatives version.planningPois alternatives) other ≠ some place.2)

include hdone in
/-- The operations that were performed were allowed, and named a place. -/
theorem found_of_done {action : WeatherRepairAction} (hmem : action ∈ plan.actions) :
    ¬ IsRefused (editContext sessionId requestId trip version.candidate
        (withAlternatives version.planningPois alternatives))
        (initialEditState version.candidate version.candidateDraft).days.keys
        (repairOperation action) ∧
      ∃ place, placeNamed version.candidate (repairOperation action) = some place ∧
        place.2 ≠ "" := by
  refine found_of_applyOperations rfl (fun entry hentry => ?_) hdone _ ?_
  · obtain ⟨action, -, hoperation⟩ := List.mem_map.mp (List.fst_mem_of_mem_zipIdx hentry)
    rw [← hoperation]
    exact kind_repairOperation_ne
  · rw [List.zipIdx_map_fst]
    exact List.mem_map_of_mem hmem

include hrepair hdone hheld in
/-- The operations could be performed. -/
theorem performable_of_done {action : WeatherRepairAction} (hmem : action ∈ plan.actions) :
    Performable (editContext sessionId requestId trip version.candidate
      (withAlternatives version.planningPois alternatives)) version.candidate
      version.candidateDraft action := by
  obtain ⟨hrefused, place, hplace, hgiven⟩ := found_of_done hdone hmem
  constructor
  case checked => exact not_not.mp fun hunchecked => hrefused (.inl hunchecked)
  case placed => exact ⟨place, hplace, hgiven, (hheld action hmem place hplace).1⟩
  case found =>
    intro hkind hnone
    exact hrefused (.inr (.inl ⟨.inl (repairOperation_replacement hkind).1, hnone⟩))
  case target =>
    intro hkind
    obtain ⟨hmove, hdated⟩ := repairOperation_move hkind
    cases hrepair.actionOf action hmem with
    | move entry located required kind date target =>
      have hdate : date ∈ version.candidateDraft.days.map DraftDay.date := by
        by_contra hunknown
        refine hrefused (.inr (.inr ⟨.inl hmove, date, hdated.trans target, fun hkey => ?_⟩))
        exact hunknown (mem_keys_initialEditState.mp hkey)
      obtain ⟨day, hday, rfl⟩ := List.mem_map.mp hdate
      exact ⟨day, hday, target⟩
    | replace entry located optional kind =>
      rw [kind] at hkind
      cases hkind
    | remove entry located optional kind =>
      rw [kind] at hkind
      cases hkind
  case undated =>
    intro hkind
    by_contra hdated
    obtain ⟨date, htarget⟩ := Option.ne_none_iff_exists'.mp hdated
    exact hkind (hrepair.move_of_target hmem htarget)

include hversion hids hitemIds hrepair hscheduled hheld in
/-- What was put into the places is what was planned, when the days are as planned. -/
theorem resolved_of_applied
    (hperform : ∀ action ∈ plan.actions, Performable (editContext sessionId requestId trip
      version.candidate (withAlternatives version.planningPois alternatives)) version.candidate
      version.candidateDraft action)
    {edited : CandidateDraft} {ids : Dict String String}
    (happly : applyEditPatch sessionId requestId trip version.candidate version.candidateDraft
      (withAlternatives version.planningPois alternatives) (repairPlanToEditPatch plan) =
        .ok (edited, ids))
    (hdays : edited.days = version.candidateDraft.days.map fun day => ⟨day.date,
      poisAfter version.candidate WeatherRepairAction.replacementPoiId plan.actions day⟩) :
    ∀ action ∈ plan.actions,
      putBy (withAlternatives version.planningPois alternatives) action =
        action.replacementPoiId := by
  have hnamed (action : WeatherRepairAction) (hmem : action ∈ plan.actions) :
      ∃ poiId, actionPoi version.candidate action = some poiId := by
    obtain ⟨place, hplace, -⟩ := hscheduled action hmem
    exact ⟨_, actionPoi_of_placeNamed hplace⟩
  have hput : ∀ earlier ∈ plan.actions, ∀ later ∈ plan.actions, ∀ poiId,
      putBy (withAlternatives version.planningPois alternatives) earlier = some poiId →
        actionPoi version.candidate later ≠ some poiId := by
    intro earlier hearlier later hlater poiId hputs hpoi
    obtain ⟨place, hplace, rfl⟩ := exists_placeNamed hpoi
    exact (hheld later hlater place hplace).2 earlier hearlier hputs
  obtain ⟨edited', ids', happly', hdays'⟩ := applyEditPatch_planned hversion.dates hperform
    (pairwise_apart hrepair hitemIds hids hnamed hput)
  have hsame := happly'.symm.trans happly
  cases hsame
  intro action hmem
  cases hrepair.actionOf action hmem with
  | move entry located required kind date target first replacement =>
    rw [replacement]
    exact putBy_eq_none _ (by rw [kind]; decide)
  | remove entry located optional kind undated replacement =>
    rw [replacement]
    exact putBy_eq_none _ (by rw [kind]; decide)
  | replace entry located optional kind undated poi mem replacement name =>
    obtain ⟨place, hplace, day, hday, -, hplaced⟩ := hscheduled action hmem
    have hpois := congrArg DraftDay.poiIds
      (List.map_inj_left.mp (hdays'.symm.trans hdays) day hday)
    have hkept := List.append_cancel_right hpois
    have hpoi := actionPoi_of_placeNamed hplace
    have hunique (other : WeatherRepairAction) (hother : other ∈ plan.actions)
        (h : actionPoi version.candidate other = some place.2) : other = action :=
      eq_of_actionPoi (hrepair.nodup hitemIds) hids hmem hother hpoi h
    have hboth := eq_of_filterMap_eq hkept (fun poiId _ => isSome_standsFor
      (fun other hother => ?_) poiId) place.2 hplaced
    · rwa [standsFor_of_mem hmem hpoi hunique, standsFor_of_mem hmem hpoi hunique] at hboth
    · cases hrepair.actionOf other hother with
      | move entry located required kind date target first replacement =>
        rw [replacement, putBy_eq_none _ (by rw [kind]; decide)]
      | remove entry located optional kind undated replacement =>
        rw [replacement, putBy_eq_none _ (by rw [kind]; decide)]
      | replace entry located optional kind undated poi mem replacement name =>
        rw [replacement]
        exact Option.isSome_iff_ne_none.mpr ((hperform other hother).found kind)

end Done

/-- **A repair that was executed as planned** meets the conditions. -/
theorem executable_of_executed
    (hversion : Materialized trip settings version.candidateDraft version.planningPois
      version.routeResults version.candidate) (hids : IdsByPoi version.candidate)
    (hunscheduled : ∀ poi ∈ alternatives, ∀ entry ∈ version.candidate.datedItems,
      entry.2.poiId ≠ some poi.facts.id) (hitemIds : impact.affectedItemIds.Nodup)
    (hrepair : RepairOf trip (.ofList (identifiedItems version.candidate))
      (safeTargets risks locks) (usedAlternatives trip
        (.ofList (identifiedItems version.candidate)) alternatives impact.affectedItemIds)
      impact.affectedItemIds plan.actions)
    (h : ExecutedAsPlanned sessionId requestId trip version alternatives plan) :
    Executable trip version alternatives impact risks locks := by
  obtain ⟨edited, ids, happly, hdays⟩ := h.days
  obtain ⟨after, hafter, hrest⟩ := bind_eq_ok happly
  cases hrest
  have hdone : applyOperations (editContext sessionId requestId trip version.candidate
      (withAlternatives version.planningPois alternatives))
      (initialEditState version.candidate version.candidateDraft)
      ((plan.actions.map repairOperation).zipIdx 0) = .ok after := hafter
  have hleft : LeftAsPlanned version.candidate version.candidateDraft
      (withAlternatives version.planningPois alternatives) plan.actions after.days := by
    refine ⟨?_, fun day hday => ?_⟩
    · have heffect : OperationsEffect version.candidate _ _
          (initialEditState version.candidate version.candidateDraft).days after.days :=
        operationsEffect_of_applyOperations rfl hdone
      rwa [List.zipIdx_map_fst] at heffect
    · exact congrArg DraftDay.poiIds (List.map_inj_left.mp hdays day hday)
  have hscheduled (action : WeatherRepairAction) (hmem : action ∈ plan.actions) : ∃ place,
      placeNamed version.candidate (repairOperation action) = some place ∧
        ∃ day ∈ version.candidateDraft.days, day.date = place.1 ∧ place.2 ∈ day.poiIds := by
    obtain ⟨-, place, hplace, -⟩ := found_of_done hdone hmem
    obtain ⟨-, entry, hentry, -, -, hdate, hpoiId⟩ := exists_entry_of_placeNamed hplace
    exact ⟨place, hplace, hdate ▸ hversion.exists_day hentry hpoiId⟩
  have happart : ∀ earlier ∈ plan.actions, ∀ later ∈ plan.actions, ∀ poiId,
      earlier.replacementPoiId = some poiId →
        actionPoi version.candidate later ≠ some poiId := fun earlier hearlier _ _ _ hreplacement =>
    replacement_apart hrepair (List.take_subset ..) hunscheduled hearlier hreplacement
  have hheld (action : WeatherRepairAction) (hmem : action ∈ plan.actions) (place : Date × String)
      (hplace : placeNamed version.candidate (repairOperation action) = some place) :=
    hleft.heldOnce hrepair hitemIds hids hversion.dates hscheduled happart hmem hplace
  -- The operations could be performed, so they left what was resolved for them.
  have hperform (action : WeatherRepairAction) (hmem : action ∈ plan.actions) :=
    performable_of_done hrepair hdone hheld hmem
  have hresolved := resolved_of_applied hversion hids hitemIds hrepair hscheduled hheld hperform
    happly hdays
  -- What the conditions say about an affected item is known of its action.
  have haction (itemId : String) (hmem : itemId ∈ impact.affectedItemIds) :
      ∃ action ∈ plan.actions, action.itemId = itemId := by
    rw [← hrepair.itemIds] at hmem
    exact List.mem_map.mp hmem
  constructor
  case heldOnce =>
    intro itemId hmem
    obtain ⟨action, haction, rfl⟩ := haction itemId hmem
    obtain ⟨-, place, hplace, hgiven⟩ := found_of_done hdone haction
    obtain ⟨hid, entry, -, hlocated, -, hdate, hpoiId⟩ := exists_entry_of_placeNamed hplace
    refine ⟨hid, fun other hother => ?_⟩
    rw [← Option.some.inj (hlocated.symm.trans hother)]
    refine ⟨place.2, hpoiId, hgiven, ?_⟩
    rw [hdate]
    exact (hheld action haction place hplace).1
  case inTrip =>
    intro itemId hmem entry hlocated hrequired date hfirst
    obtain ⟨action, haction, rfl⟩ := haction itemId hmem
    have hoptional {other : Date × PlanItem}
        (hother : (Dict.ofList (identifiedItems version.candidate)).get? action.itemId = some other)
        (hoptional : trip.isMustVisit other.2.name = false) : False := by
      rw [Option.some.inj (hother.symm.trans hlocated), hrequired] at hoptional
      cases hoptional
    cases hrepair.actionOf action haction with
    | move other located required kind date' target first =>
      rw [Option.some.inj (located.symm.trans hlocated), hfirst] at first
      obtain ⟨day, hday, htarget⟩ := (hperform action haction).target kind
      have hsame := target.symm.trans htarget
      rw [Option.some.inj first, Option.some.inj hsame]
      exact List.mem_map_of_mem hday
    | replace other located optional => exact (hoptional located optional).elim
    | remove other located optional => exact (hoptional located optional).elim
  case unambiguous =>
    intro poi hpoi
    obtain ⟨action, haction, hkind, hreplacement, hname⟩ := hrepair.uses poi hpoi
    exact (putBy_eq_some_iff hkind hname).mp ((hresolved action haction).trans hreplacement)
  case distinct =>
    rw [← hrepair.replacements]
    exact h.distinct

/-- **Weather repairs are executed as planned** exactly when they meet their conditions. -/
theorem executedAsPlanned_iff
    (hversion : Materialized trip settings version.candidateDraft version.planningPois
      version.routeResults version.candidate) (hids : IdsByPoi version.candidate)
    (hunscheduled : ∀ poi ∈ alternatives, ∀ entry ∈ version.candidate.datedItems,
      entry.2.poiId ≠ some poi.facts.id) (hitemIds : impact.affectedItemIds.Nodup)
    (hplan : buildWeatherRepairPlan eventId baseVersionId trip version.candidate impact risks
      alternatives locks = some plan) :
    ExecutedAsPlanned sessionId requestId trip version alternatives plan ↔
      Executable trip version alternatives impact risks locks := by
  have hrepair := repairOf_of_buildWeatherRepairPlan hplan
  refine ⟨executable_of_executed hversion hids hunscheduled hitemIds hrepair, fun h => ?_⟩
  have hperform (action : WeatherRepairAction) (hmem : action ∈ plan.actions) :
      Performable (editContext sessionId requestId trip version.candidate
          (withAlternatives version.planningPois alternatives)) version.candidate
          version.candidateDraft action ∧
        putBy (withAlternatives version.planningPois alternatives) action =
          action.replacementPoiId := performable_of_executable hrepair h hmem
  have hnamed (action : WeatherRepairAction) (hmem : action ∈ plan.actions) :
      ∃ poiId, actionPoi version.candidate action = some poiId := by
    obtain ⟨place, hplace, -⟩ := (hperform action hmem).1.placed
    exact ⟨_, actionPoi_of_placeNamed hplace⟩
  have hput : ∀ earlier ∈ plan.actions, ∀ later ∈ plan.actions, ∀ poiId,
      putBy (withAlternatives version.planningPois alternatives) earlier = some poiId →
        actionPoi version.candidate later ≠ some poiId := by
    intro earlier hearlier later hlater poiId hputs
    rw [(hperform earlier hearlier).2] at hputs
    exact replacement_apart hrepair (List.take_subset ..) hunscheduled hearlier hputs
  obtain ⟨edited, ids, happly, hdays⟩ := applyEditPatch_planned hversion.dates
    (fun action hmem => (hperform action hmem).1)
    (pairwise_apart hrepair hitemIds hids hnamed hput)
  refine ⟨⟨edited, ids, happly, hdays.trans (List.map_congr_left fun day _ => ?_)⟩, ?_⟩
  · rw [poisAfter_congr (fun action hmem => (hperform action hmem).2) day]
  · rw [hrepair.replacements]
    exact h.distinct

end Executed

/-! ## Two repairs -/

namespace Sample
omit [Platform]

instance (candidate : PlanCandidate) : Decidable (IdsByPoi candidate) :=
  inferInstanceAs (Decidable (∀ entry ∈ candidate.datedItems, ∀ other ∈ candidate.datedItems,
    entry.2.poiId = other.2.poiId → entry.2.itemId = other.2.itemId))

/-- The items that visit these POIs are affected. -/
def affected (session : PlanSession) (poiIds : List String) : WeatherImpactResult :=
  { eventId := "rain", affectedDates := [day1], affectedItemIds := poiIds.map (itemIdOf session)
    preservedDates := [day2], lockConflicts := [], unknownExposureItemIds := []
    requiresUserAttention := false, reasons := [] }

/-- A version with the repair of its two visits. -/
def repairOfPair (alternatives : List PlanningPOI) : Result (PlanVersion × WeatherRepairPlan) :=
  let := plainPlatform
  do
    let version ← activeVersion pairSession.record
    let plan ← orRaise (buildWeatherRepairPlan "rain" version.versionId trip version.candidate
      (affected pairSession ["a", "b"]) [] alternatives []) .assertionError
    return (version, plan)

end Sample

omit [Platform] in
/-- One visit makes place for a museum and the other one is removed. -/
theorem executedAsPlanned_iff_museum :
    let := plainPlatform
    let alternatives := [Sample.poi "museum" 1 60]
    ∃ version plan, Sample.repairOfPair alternatives = .ok (version, plan) ∧
      ExecutedAsPlanned "s" "r2" Sample.trip version alternatives plan ∧
      Executable Sample.trip version alternatives (Sample.affected Sample.pairSession ["a", "b"])
        [] [] := by
  have hrun : okAnd (Sample.repairOfPair [Sample.poi "museum" 1 60]) (fun repaired =>
      okAnd (@applyEditPatch plainPlatform "s" "r2" Sample.trip repaired.1.candidate
        repaired.1.candidateDraft (withAlternatives repaired.1.planningPois
          [Sample.poi "museum" 1 60]) (repairPlanToEditPatch repaired.2))
        (fun edit => decide (edit.1.days = repaired.1.candidateDraft.days.map fun day =>
          ⟨day.date, poisAfter repaired.1.candidate WeatherRepairAction.replacementPoiId
            repaired.2.actions day⟩)) &&
      decide (repaired.2.actions.filterMap WeatherRepairAction.replacementPoiId).Nodup &&
      decide (IdsByPoi repaired.1.candidate) &&
      decide (∀ entry ∈ repaired.1.candidate.datedItems, entry.2.poiId ≠ some "museum") &&
      decide (Sample.affected Sample.pairSession ["a", "b"]).affectedItemIds.Nodup &&
      decide (repaired.1.candidateDraft.days.map DraftDay.date).Nodup &&
      okAnd (@materializeCandidates plainPlatform Sample.trip [repaired.1.candidateDraft]
          repaired.1.planningPois repaired.1.routeResults Sample.settings) (fun candidates =>
        decide (candidates.map PlanCandidate.days =
          [repaired.1.candidate.days.map DayPlan.withoutIds]))) = true := by decide +kernel
  intro _ alternatives
  obtain ⟨⟨version, plan⟩, hrepair, hrun⟩ := okAnd_eq_true hrun
  simp only [Bool.and_eq_true, decide_eq_true_eq] at hrun
  obtain ⟨⟨⟨⟨⟨⟨hedit, hdistinct⟩, hids⟩, hunscheduled⟩, hnodup⟩, hdates⟩, hplanned⟩ := hrun
  obtain ⟨⟨edited, ids⟩, hedit, hdays⟩ := okAnd_eq_true hedit
  obtain ⟨candidates, hcandidates, hraws⟩ := okAnd_eq_true hplanned
  obtain ⟨raw, rfl, hraw⟩ := List.map_eq_singleton_iff.mp (of_decide_eq_true hraws)
  obtain ⟨active, -, hplan⟩ := bind_eq_ok hrepair
  obtain ⟨built, hbuilt, hplan⟩ := bind_eq_ok hplan
  cases hplan
  have hexecuted : ExecutedAsPlanned "s" "r2" Sample.trip version alternatives plan :=
    ⟨⟨edited, ids, hedit, of_decide_eq_true hdays⟩, hdistinct⟩
  exact ⟨version, plan, hrepair, hexecuted, (executedAsPlanned_iff
    ⟨hdates, raw, hcandidates, hraw.symm⟩ hids (fun poi hpoi entry hentry => by
      rw [List.mem_singleton.mp hpoi]
      exact hunscheduled entry hentry) hnodup (orRaise_eq_ok hbuilt)).mp hexecuted⟩

omit [Platform] in
/-- Two museums, one with the name of the other in its name: neither can be put in. -/
theorem exists_not_executedAsPlanned :
    let := plainPlatform
    let alternatives := [Sample.poi "museum" 1 60, Sample.poi "city museum" 2 60]
    ∃ version plan, Sample.repairOfPair alternatives = .ok (version, plan) ∧
      ¬ ExecutedAsPlanned "s" "r2" Sample.trip version alternatives plan := by
  have hrun : okAnd (Sample.repairOfPair [Sample.poi "museum" 1 60, Sample.poi "city museum" 2 60])
      (fun repaired => decide ((@applyEditPatch plainPlatform "s" "r2" Sample.trip
        repaired.1.candidate repaired.1.candidateDraft (withAlternatives repaired.1.planningPois
          [Sample.poi "museum" 1 60, Sample.poi "city museum" 2 60])
          (repairPlanToEditPatch repaired.2)).toOption.isNone = true)) = true := by decide +kernel
  intro _ alternatives
  obtain ⟨⟨version, plan⟩, hrepair, hrun⟩ := okAnd_eq_true hrun
  refine ⟨version, plan, hrepair, fun hexecuted => ?_⟩
  obtain ⟨edited, ids, happly, -⟩ := hexecuted.days
  have hnone := of_decide_eq_true hrun
  rw [happly] at hnone
  cases hnone

end TravelPlanAgent
