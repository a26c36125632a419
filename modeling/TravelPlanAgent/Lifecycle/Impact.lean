import TravelPlanAgent.Lifecycle.Edit

/-!
# The impact of an edit

`analyzeChangeImpact` names the dates and the items that a patch mentions, and the locks that
stand in its way.
-/

namespace TravelPlanAgent

open Calendar Selection

/-- `_item_locations`: the date of an item id; the last one wins. -/
def itemLocation (candidate : PlanCandidate) (itemId : String) : Option Date :=
  if itemId = "" then none
  else (lastWith (fun entry : Date × PlanItem => decide (entry.2.itemId = some itemId))
    candidate.datedItems).map Prod.fst

/-- The date of the item that an operation names. -/
def operationLocation (candidate : PlanCandidate) (operation : EditOperation) : Option Date :=
  operation.itemId.bind (itemLocation candidate)

/-- The dates that an operation mentions. -/
def operationDates (candidate : PlanCandidate) (operation : EditOperation) : List Date :=
  (operationLocation candidate operation).toList ++ operation.targetDate.toList

/-- The scheduled item that an operation mentions. -/
def operationItems (candidate : PlanCandidate) (operation : EditOperation) : List String :=
  if (operationLocation candidate operation).isSome then operation.itemId.toList else []

/-- The tools that an operation needs. -/
def operationTools (operation : EditOperation) : List String :=
  (if operation.kind = .addItem ∨ operation.kind = .replaceItem then ["poi.resolve"] else []) ++
    (if operation.kind = .removeItem then [] else ["route.delta"])

/-- The locks on an affected date or an affected item. -/
def lockConflicts (locks : List PlanLock) (dates : List Date) (items : List String) :
    List String :=
  (locks.filter fun lock =>
    match lock.kind with
    | .day => decide (lock.targetId ∈ dates.map Date.isoformat)
    | .item => decide (lock.targetId ∈ items)).map PlanLock.lockId

/-- How far an edit reaches. -/
def impactScope (affectedDates : List Date) (maxAffectedDays : ℕ) : ImpactScope :=
  if maxAffectedDays < affectedDates.length then .requiresNewPlan
  else if 1 < affectedDates.length then .multiDay
  else if affectedDates.isEmpty then .item
  else .day

/-- `analyze_change_impact`. -/
def analyzeChangeImpact (candidate : PlanCandidate) (patch : EditPatch) (locks : List PlanLock)
    (maxAffectedDays : ℕ) : ImpactResult :=
  let dates := sortedSet (patch.operations.flatMap (operationDates candidate))
  let items := sortedSet (patch.operations.flatMap (operationItems candidate))
  let scope := impactScope dates maxAffectedDays
  { scope
    affectedDates := dates
    affectedItemIds := items
    preservedDates := sortedSet ((candidate.days.map DayPlan.date).filter fun date =>
      decide (date ∉ dates))
    invalidatedRouteKeys := []
    requiredToolOperations := sortedSet (patch.operations.flatMap operationTools)
    lockConflicts := (lockConflicts locks dates items).insertionSort (· ≤ ·)
    reasons := patch.operations.map (fun operation => operation.kind.value) ++
      (if scope = .requiresNewPlan then ["affected_day_budget_exceeded"] else []) }

/-- The dates of the plan that a patch does not mention. -/
theorem mem_preservedDates_iff {candidate : PlanCandidate} {patch : EditPatch}
    {locks : List PlanLock} {maxAffectedDays : ℕ} {date : Date} :
    date ∈ (analyzeChangeImpact candidate patch locks maxAffectedDays).preservedDates ↔
      date ∈ candidate.days.map DayPlan.date ∧
        ∀ operation ∈ patch.operations, date ∉ operationDates candidate operation := by
  simp only [analyzeChangeImpact, mem_sortedSet, List.mem_filter, decide_eq_true_eq,
    List.mem_flatMap, not_exists, not_and]

/-- Without conflicts no lock is on an affected date or an affected item. -/
theorem not_conflicting {candidate : PlanCandidate} {patch : EditPatch} {locks : List PlanLock}
    {maxAffectedDays : ℕ}
    (h : (analyzeChangeImpact candidate patch locks maxAffectedDays).lockConflicts = [])
    {lock : PlanLock} (hlock : lock ∈ locks) {operation : EditOperation}
    (hoperation : operation ∈ patch.operations) :
    match lock.kind with
    | .day => ∀ date ∈ operationDates candidate operation, lock.targetId ≠ date.isoformat
    | .item => lock.targetId ∉ operationItems candidate operation := by
  simp only [analyzeChangeImpact] at h
  have hnone : lockConflicts locks _ _ = [] :=
    List.eq_nil_of_length_eq_zero (by rw [← List.length_insertionSort (· ≤ ·), h]; rfl)
  rw [lockConflicts, List.map_eq_nil_iff, List.filter_eq_nil_iff] at hnone
  have hlockNone := hnone lock hlock
  cases hkind : lock.kind with
  | day =>
    rw [hkind] at hlockNone
    intro date hdate heq
    refine hlockNone (decide_eq_true ?_)
    rw [heq]
    exact List.mem_map_of_mem
      (mem_sortedSet.mpr (List.mem_flatMap.mpr ⟨operation, hoperation, hdate⟩))
  | item =>
    rw [hkind] at hlockNone
    exact fun hmem => hlockNone (decide_eq_true
      (mem_sortedSet.mpr (List.mem_flatMap.mpr ⟨operation, hoperation, hmem⟩)))

end TravelPlanAgent
