import TravelPlanAgent.Lifecycle.Fingerprints

/-!
# Edits of a draft

A patch is grounded, so that every operation names its item by id, and then applied to the
draft of a version.

* `groundEditPatch`: names become ids, or the edit is refused.
* `applyOperation`, `applyEditPatch`: the operations on the lists of POIs, and the ids that the
  POIs of the edited draft carry.
-/

namespace TravelPlanAgent

open Calendar

variable [Platform]

/-! ## Grounding -/

/-- The items that have an id, with their dates. -/
def identifiedItems (candidate : PlanCandidate) : List (String × Date × PlanItem) :=
  candidate.datedItems.filterMap fun (date, item) => item.itemId.map fun itemId =>
    (itemId, date, item)

/-- `edit_item_context`. -/
def editItemContext (candidate : PlanCandidate) : List EditItemContext :=
  candidate.days.flatMap fun day => day.items.zipIdx.filterMap fun (item, index) =>
    item.itemId.map fun itemId =>
      { itemId, poiId := item.poiId, name := item.name, day := day.date, index
        locked := item.locked }

/-- Ground one operation. -/
def groundOperation (candidate : PlanCandidate) (operation : EditOperation) :
    Result EditOperation :=
  let items := identifiedItems candidate
  match operation.itemId with
  | some itemId =>
    if itemId ∈ items.map Prod.fst then .ok operation
    else .error (.lifecycleAction "unknown_item" "编辑引用的计划项目不存在")
  | none =>
    if isGiven operation.itemName then
      let name := operation.itemName.getD ""
      match items.filter fun entry => namesOverlap name entry.2.2.name with
      | [entry] => .ok { operation with itemId := some entry.1 }
      | [] => .error
        (.lifecycleAction "unknown_item" "无法唯一确定要修改的计划项目，请使用响应中的 item_id")
      | _ => .error
        (.lifecycleAction "ambiguous_item" "无法唯一确定要修改的计划项目，请使用响应中的 item_id")
    else .ok operation

/-- `ground_edit_patch`. -/
def groundEditPatch (candidate : PlanCandidate) (patch : EditPatch) : Result EditPatch := do
  let operations ← patch.operations.mapM (groundOperation candidate)
  return ⟨operations⟩

/-! ## Applying -/

/-- What an edit works on: the POIs of each day, and the item id of each POI. -/
structure EditState where
  days : Dict Date (List String)
  itemIdsByPoi : Dict String String

/-- What stays fixed while a patch is applied. -/
structure EditContext where
  sessionId : String
  requestId : String
  trip : TripSpec
  candidateItems : Dict String (Date × PlanItem)
  planningPois : List PlanningPOI

/-- `resolve_poi`: the only known place whose name overlaps. -/
def resolvePoi (pois : List PlanningPOI) (name : String) : Result String :=
  match (pois.filter fun poi => namesOverlap name poi.facts.name).map fun poi => poi.facts.id with
  | [poiId] => .ok poiId
  | _ => .error (.lifecycleAction "poi_not_in_planning_context"
    "替代地点无法从当前标准化 POI 中唯一解析，请创建新计划")

/-- The POIs of a day. -/
def poisOn (days : Dict Date (List String)) (day : Date) : Result (List String) :=
  orRaise (days.get? day) .keyError

/-- `list.remove`. -/
def removeFirst (poiIds : List String) (poiId : String) : Result (List String) :=
  if poiId ∈ poiIds then .ok (poiIds.erase poiId)
  else .error (.valueError "list.remove(x): x not in list")

/-- `list.insert` at an index, or at the end. -/
def insertAt (poiIds : List String) (index : Option ℕ) (poiId : String) : List String :=
  poiIds.insertIdx (min (index.getD poiIds.length) poiIds.length) poiId

/-- The scheduled item that an operation names. -/
def operationItem (context : EditContext) (operation : EditOperation) :
    Option (Date × PlanItem) :=
  if isGiven operation.itemId then context.candidateItems.get? (operation.itemId.getD "") else none

/-- The guards that come before every operation. -/
def checkOperation (context : EditContext) (operation : EditOperation) : Result Unit :=
  match operationItem context operation with
  | none => .ok ()
  | some (_, item) => do
    require (item.poiId ≠ none) (.lifecycleAction "unsupported_item" "当前只支持编辑 POI 活动")
    require (¬ (context.trip.isMustVisit item.name = true ∧
        (operation.kind = .removeItem ∨ operation.kind = .replaceItem)))
      (.lifecycleAction "must_visit_protected" "必去项目不能删除或替换")

/-- The day and the POI of the item that an operation needs. -/
def operationSource (context : EditContext) (operation : EditOperation) :
    Result (Date × String) := do
  let (day, item) ← orRaise (operationItem context operation) .assertionError
  require (isGiven item.poiId = true) .assertionError
  return (day, item.poiId.getD "")

section Operations

variable (context : EditContext) (state : EditState) (operation : EditOperation)

/-- Take the POI of the named item out of its day. -/
def takeOut : Result (Date × String × Dict Date (List String)) := do
  let (day, poiId) ← operationSource context operation
  let there ← poisOn state.days day
  let left ← removeFirst there poiId
  return (day, poiId, state.days.set day left)

/-- `remove_item`. -/
def removeItem : Result EditState := do
  let (_, _, days) ← takeOut context state operation
  return { state with days }

/-- `move_item` and `reorder_item`. -/
def moveItem : Result EditState := do
  let (day, poiId, days) ← takeOut context state operation
  let target := operation.targetDate.getD day
  let there ← orRaise (days.get? target)
    (.lifecycleAction "date_out_of_range" "目标日期不在旅行范围内")
  return { state with days := days.set target (insertAt there operation.targetIndex poiId) }

/-- `replace_item`. -/
def replaceItem (index : ℕ) : Result EditState := do
  let (day, poiId) ← operationSource context operation
  let newPoiId ← resolvePoi context.planningPois (operation.poiName.getD "")
  let there ← poisOn state.days day
  require (poiId ∈ there) (.valueError (textRepr poiId ++ " is not in list"))
  return ⟨state.days.set day (there.set (there.idxOf poiId) newPoiId),
    state.itemIdsByPoi.set newPoiId (newItemId context.sessionId context.requestId index)⟩

/-- `add_item`. -/
def addItem (index : ℕ) : Result EditState := do
  let target ← orRaise operation.targetDate .assertionError
  let there ← orRaise (state.days.get? target)
    (.lifecycleAction "date_out_of_range" "目标日期不在旅行范围内")
  let newPoiId ← resolvePoi context.planningPois (operation.poiName.getD "")
  return ⟨state.days.set target (insertAt there operation.targetIndex newPoiId),
    state.itemIdsByPoi.set newPoiId (newItemId context.sessionId context.requestId index)⟩

/-- Apply one operation. -/
def applyOperation (index : ℕ) : Result EditState := do
  checkOperation context operation
  match operation.kind with
  | .removeItem => removeItem context state operation
  | .moveItem => moveItem context state operation
  | .reorderItem => moveItem context state operation
  | .replaceItem => replaceItem context state operation index
  | .addItem => addItem context state operation index

end Operations

/-- Apply operations one after the other. -/
def applyOperations (context : EditContext) : EditState → List (EditOperation × ℕ) →
    Result EditState
  | state, [] => .ok state
  | state, (operation, index) :: rest => do
    let state ← applyOperation context state operation index
    applyOperations context state rest

/-- The item id of every scheduled POI. -/
def itemIdsByPoi (candidateItems : Dict String (Date × PlanItem)) : Dict String String :=
  .ofList (candidateItems.entries.filterMap fun (itemId, _, item) =>
    item.poiId.map fun poiId => (poiId, itemId))

/-- The edit state that a version starts from. -/
def initialEditState (candidate : PlanCandidate) (draft : CandidateDraft) : EditState :=
  { days := .ofList (draft.days.map fun day => (day.date, day.poiIds))
    itemIdsByPoi := itemIdsByPoi (.ofList (identifiedItems candidate)) }

/-- The edited draft. -/
def editedDraft (draft : CandidateDraft) (days : Dict Date (List String)) : CandidateDraft :=
  { draft with days := draft.days.map fun day => ⟨day.date, (days.get? day.date).getD []⟩ }

/-- `apply_edit_patch`. -/
def applyEditPatch (sessionId requestId : String) (trip : TripSpec) (candidate : PlanCandidate)
    (draft : CandidateDraft) (planningPois : List PlanningPOI) (patch : EditPatch) :
    Result (CandidateDraft × Dict String String) := do
  let context : EditContext :=
    { sessionId, requestId, trip, candidateItems := .ofList (identifiedItems candidate)
      planningPois }
  let state ← applyOperations context (initialEditState candidate draft) patch.operations.zipIdx
  let ids := (state.itemIdsByPoi.filterKeys fun poiId => decide (poiId ≠ "")).entries.filter
    fun entry => decide (entry.2 ≠ "")
  return (editedDraft draft state.days, .ofList ids)

end TravelPlanAgent
