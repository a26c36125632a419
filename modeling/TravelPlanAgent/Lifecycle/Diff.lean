import TravelPlanAgent.Lifecycle.Fingerprints

/-!
# The difference between two candidates

`buildPlanDiff` compares two candidates item by item, by id.  It refuses a candidate with an
item that has no id.
-/

namespace TravelPlanAgent

open Calendar Selection

/-- Where an item is: its date, its position on the day, and the item. -/
abbrev IndexedItem := Date × ℕ × PlanItem

/-- The items of a candidate with their positions. -/
def positionedItems (candidate : PlanCandidate) : List IndexedItem :=
  candidate.days.flatMap fun day => day.items.zipIdx.map fun (item, index) =>
    (day.date, index, item)

/-- `_index`. -/
def indexItems (candidate : PlanCandidate) : Result (Dict String IndexedItem) := do
  let entries ← (positionedItems candidate).mapM fun entry => do
    let itemId ← orRaise entry.2.2.itemId (.valueError "versioned plan items require item_id")
    return (itemId, entry)
  return Dict.ofList entries

/-- The entries of an index under some ids, in the order of the ids. -/
def indexedAt (index : Dict String IndexedItem) (ids : List String) :
    List (String × IndexedItem) :=
  (sortedSet ids).filterMap fun itemId => (index.get? itemId).map fun entry => (itemId, entry)

/-- Two entries of one id, before and after. -/
def indexedBoth (old new : Dict String IndexedItem) :
    List (String × IndexedItem × IndexedItem) :=
  (sortedSet old.keys).filterMap fun itemId => do
    let before ← old.get? itemId
    let after ← new.get? itemId
    return (itemId, before, after)

/-- The days of two candidates on the same date, in the order of the dates. -/
def daysOnBoth (before after : PlanCandidate) : List (DayPlan × DayPlan) :=
  (sortedSet (before.days.map DayPlan.date)).filterMap fun date => do
    let left ← dayOn before date
    let right ← dayOn after date
    return (left, right)

/-- `build_plan_diff`. -/
def buildPlanDiff (before after : PlanCandidate) (fromVersionId toId : String)
    (softQualityBefore softQualityAfter : Option ℚ) : Result PlanDiff := do
  let old ← indexItems before
  let new ← indexItems after
  let both := indexedBoth old new
  let movement (entry : String × IndexedItem × IndexedItem) : ItemDiff :=
    { itemId := entry.1, name := entry.2.2.2.2.name, fromDate := some entry.2.1.1
      toDate := some entry.2.2.1, fromIndex := some entry.2.1.2.1
      toIndex := some entry.2.2.2.1 }
  return {
    fromVersionId, toId
    addedItems := (indexedAt new (new.keys.filter fun id => decide (id ∉ old.keys))).map
      fun (itemId, day, position, item) =>
        { itemId, name := item.name, fromDate := none, toDate := some day
          fromIndex := none, toIndex := some position }
    removedItems := (indexedAt old (old.keys.filter fun id => decide (id ∉ new.keys))).map
      fun (itemId, day, position, item) =>
        { itemId, name := item.name, fromDate := some day, toDate := none
          fromIndex := some position, toIndex := none }
    movedItems := (both.filter fun e => decide (e.2.1.1 ≠ e.2.2.1)).map movement
    reorderedItems := (both.filter fun e =>
      decide (e.2.1.1 = e.2.2.1 ∧ e.2.1.2.1 ≠ e.2.2.2.1)).map movement
    timeChanges := (both.filter fun e =>
      decide (e.2.1.2.2.startAt.instant ≠ e.2.2.2.2.startAt.instant ∨
        e.2.1.2.2.endAt.instant ≠ e.2.2.2.2.endAt.instant)).map
      fun (itemId, (_, _, oldItem), (_, _, newItem)) =>
        { itemId, beforeStart := oldItem.startAt, afterStart := newItem.startAt
          beforeEnd := oldItem.endAt, afterEnd := newItem.endAt }
    routeChanges := (both.filter fun e =>
      decide (e.2.1.2.2.travelFromPreviousMinutes ≠ e.2.2.2.2.travelFromPreviousMinutes ∨
        e.2.1.2.2.distanceFromPreviousMeters ≠ e.2.2.2.2.distanceFromPreviousMeters)).map
      fun (itemId, (_, _, oldItem), (_, _, newItem)) =>
        { itemId, beforeMinutes := oldItem.travelFromPreviousMinutes
          afterMinutes := newItem.travelFromPreviousMinutes
          beforeMeters := oldItem.distanceFromPreviousMeters
          afterMeters := newItem.distanceFromPreviousMeters }
    dayMetricChanges := ((daysOnBoth before after).filter fun (left, right) =>
      decide (left.totalTravelMinutes ≠ right.totalTravelMinutes ∨
        left.walkingDistanceMeters ≠ right.walkingDistanceMeters ∨
        left.knownEstimatedCost ≠ right.knownEstimatedCost)).map
      fun (left, right) =>
        { day := left.date
          travelMinutesDelta := right.totalTravelMinutes - left.totalTravelMinutes
          walkingMetersDelta := right.walkingDistanceMeters - left.walkingDistanceMeters
          knownCostDelta :=
            Binary64.ofRat (right.knownEstimatedCost - left.knownEstimatedCost) }
    hardStatusBefore := before.validation.map fun v => v.status.value
    hardStatusAfter := after.validation.map fun v => v.status.value
    softQualityBefore, softQualityAfter }

/-- An index exists exactly when every item has an id. -/
theorem indexItems_exists_iff {candidate : PlanCandidate} :
    (∃ index, indexItems candidate = .ok index) ↔
      ∀ day ∈ candidate.days, ∀ item ∈ day.items, item.itemId ≠ none := by
  constructor
  · rintro ⟨index, h⟩ day hday item hitem hnone
    obtain ⟨entries, hentries, -⟩ := bind_eq_ok h
    obtain ⟨i, hi, rfl⟩ := List.mem_iff_getElem.mp hitem
    have hmem : (day.date, i, day.items[i]) ∈ positionedItems candidate :=
      List.mem_flatMap.mpr ⟨day, hday, List.mem_map.mpr
        ⟨(day.items[i], i), List.mk_mem_zipIdx_iff_getElem?.mpr (List.getElem?_eq_getElem hi), rfl⟩⟩
    obtain ⟨entry, -, hentry⟩ := exists_of_mapM hentries hmem
    obtain ⟨itemId, hitemId, -⟩ := bind_eq_ok hentry
    rw [orRaise_eq_ok hitemId] at hnone
    exact absurd hnone (by simp)
  · intro h
    obtain ⟨entries, hentries⟩ := exists_mapM (l := positionedItems candidate)
        (f := fun entry => do
          let itemId ← orRaise entry.2.2.itemId (.valueError "versioned plan items require item_id")
          return (itemId, entry)) fun entry hentry => by
      obtain ⟨day, hday, hentry⟩ := List.mem_flatMap.mp hentry
      obtain ⟨⟨item, i⟩, hitem, rfl⟩ := List.mem_map.mp hentry
      have hmem : item ∈ day.items := List.fst_mem_of_mem_zipIdx hitem
      obtain ⟨itemId, hitemId⟩ := Option.ne_none_iff_exists'.mp (h day hday item hmem)
      exact ⟨_, by dsimp only; rw [hitemId]; rfl⟩
    exact ⟨Dict.ofList entries, by rw [indexItems, hentries]; rfl⟩

/-- A difference is built exactly when both candidates have an id for every item. -/
theorem buildPlanDiff_exists_iff {before after : PlanCandidate} {fromVersionId toId : String}
    {softBefore softAfter : Option ℚ} :
    (∃ diff, buildPlanDiff before after fromVersionId toId softBefore softAfter = .ok diff) ↔
      (∀ day ∈ before.days, ∀ item ∈ day.items, item.itemId ≠ none) ∧
        ∀ day ∈ after.days, ∀ item ∈ day.items, item.itemId ≠ none := by
  rw [← indexItems_exists_iff, ← indexItems_exists_iff]
  constructor
  · rintro ⟨diff, h⟩
    obtain ⟨old, hold, h⟩ := bind_eq_ok h
    obtain ⟨new, hnew, -⟩ := bind_eq_ok h
    exact ⟨⟨old, hold⟩, ⟨new, hnew⟩⟩
  · rintro ⟨⟨old, hold⟩, ⟨new, hnew⟩⟩
    exact ⟨_, by rw [buildPlanDiff, hold]; change (indexItems after >>= _) = _; rw [hnew]; rfl⟩

end TravelPlanAgent
