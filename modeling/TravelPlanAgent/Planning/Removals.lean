import TravelPlanAgent.Planning.Agreement
import TravelPlanAgent.Planning.Materialized
import TravelPlanAgent.Planning.Repair
import Mathlib.Algebra.Order.BigOperators.Group.List

/-!
# Removing optional places until an excess is gone

The critic asks whether the optional places of a candidate cost at least what the candidate is
over its budget; the repair removes the most expensive of them until the excess is covered.  On
a materialised candidate the test passes exactly when the removals reach the excess.

* `takeEnough_isSome_iff`, `takeEnough_eq_some`: when a greedy choice succeeds, and what it is.
* `RemovesItem`: an action removes a scheduled, not required item.
* `CoversExcess`: the removals of a limit, with the excess that they cover.
* `sum_amount_removableItems`: what can be removed is everything that is not required.
* `budgetCanBeRepaired_iff_removals`: the test agrees with the repair.
-/

namespace TravelPlanAgent

open Calendar Selection

variable [Platform]

/-! ## Greedy choices -/

section TakeEnough

variable {α : Type} {amount : α → ℚ} {excess : ℚ}

omit [Platform] in
/-- A greedy choice succeeds exactly when everything together reaches the excess. -/
theorem takeEnough_isSome_iff {l : List α} (hnonneg : ∀ a ∈ l, 0 ≤ amount a) {saved : ℚ}
    (hsaved : saved < excess) :
    (takeEnough amount excess saved l).isSome ↔ excess ≤ saved + (l.map amount).sum := by
  induction l generalizing saved with
  | nil => simpa [takeEnough] using hsaved
  | cons a rest ih =>
    have hrest : ∀ b ∈ rest, 0 ≤ amount b := fun b hb => hnonneg b (List.mem_cons_of_mem _ hb)
    have hsum : 0 ≤ (rest.map amount).sum := by
      refine List.sum_nonneg fun value hvalue => ?_
      obtain ⟨b, hb, rfl⟩ := List.mem_map.mp hvalue
      exact hrest b hb
    rw [takeEnough, List.map_cons, List.sum_cons, ← add_assoc]
    by_cases henough : excess ≤ saved + amount a
    · simp only [if_pos henough, Option.isSome_some, true_iff]
      linarith
    · simp only [if_neg henough, Option.isSome_map]
      exact ih hrest (not_le.mp henough)

omit [Platform] in
/-- A greedy choice is a beginning of the list. -/
theorem prefix_of_takeEnough {l taken : List α} {saved : ℚ}
    (h : takeEnough amount excess saved l = some taken) : taken <+: l := by
  induction l generalizing saved taken with
  | nil => exact nomatch h
  | cons a rest ih =>
    rw [takeEnough] at h
    by_cases henough : excess ≤ saved + amount a
    · rw [if_pos henough] at h
      obtain rfl := Option.some.inj h
      exact ⟨rest, rfl⟩
    · rw [if_neg henough] at h
      obtain ⟨others, hothers, rfl⟩ := Option.map_eq_some_iff.mp h
      exact List.cons_prefix_cons.mpr ⟨rfl, ih hothers⟩

omit [Platform] in
/-- A greedy choice reaches the excess with its last element. -/
theorem takeEnough_eq_some {l taken : List α} {saved : ℚ} (hsaved : saved < excess)
    (h : takeEnough amount excess saved l = some taken) :
    taken ≠ [] ∧ excess ≤ saved + (taken.map amount).sum ∧
      saved + (taken.dropLast.map amount).sum < excess := by
  induction l generalizing saved taken with
  | nil => exact nomatch h
  | cons a rest ih =>
    rw [takeEnough] at h
    by_cases henough : excess ≤ saved + amount a
    · rw [if_pos henough] at h
      obtain rfl := Option.some.inj h
      refine ⟨List.cons_ne_nil _ _, ?_, ?_⟩
      · simpa using henough
      · simpa using hsaved
    · rw [if_neg henough] at h
      obtain ⟨others, hothers, rfl⟩ := Option.map_eq_some_iff.mp h
      obtain ⟨hne, hreaches, hless⟩ := ih (not_le.mp henough) hothers
      refine ⟨List.cons_ne_nil _ _, ?_, ?_⟩
      · rw [List.map_cons, List.sum_cons, ← add_assoc]
        exact hreaches
      · rw [List.dropLast_cons_of_ne_nil hne, List.map_cons, List.sum_cons, ← add_assoc]
        exact hless

end TakeEnough

/-! ## Removals -/

/-- An action removes a scheduled activity that is not required. -/
structure RemovesItem (trip : TripSpec) (items : List (Date × PlanItem)) (violationType : String)
    (action : RepairAction) (entry : Date × PlanItem) : Prop where
  scheduled : entry ∈ items
  kind : action.kind = .removeOptionalPoi
  source : action.sourceViolationType = violationType
  fromDay : action.fromDay = some entry.1
  toDay : action.toDay = none
  poiId : entry.2.poiId = some action.poiId
  optional : trip.isMustVisit entry.2.name = false

/-- Actions that remove as many items as cover an excess, no item more and none twice. -/
structure CoversExcess (trip : TripSpec) (items : List (Date × PlanItem)) (violationType : String)
    (amount : PlanItem → ℚ) (excess : ℚ) (actions : List RepairAction)
    (removed : List (Date × PlanItem)) : Prop where
  each : List.Forall₂ (RemovesItem trip items violationType) actions removed
  enough : excess ≤ (removed.map fun entry => amount entry.2).sum
  least : (removed.dropLast.map fun entry => amount entry.2).sum < excess
  once : (actions.map RepairAction.poiId).Nodup

/-- A removable item as the scheduled item that it is. -/
def RemovableItem.entry (option : RemovableItem) : Date × PlanItem := (option.day, option.item)

section Removals

variable {trip : TripSpec} {pois : List PlanningPOI} {items : List (Date × PlanItem)}

/-- A removable item is a scheduled activity at a known place that is not required. -/
theorem mem_removableItems {option : RemovableItem} (h : option ∈ removableItems trip pois items) :
    option.entry ∈ items ∧ option.item.poiId = some option.poiId ∧
      poiById pois option.poiId = some option.poi ∧ isActivity option.item = true ∧
      trip.isMustVisit option.item.name = false := by
  obtain ⟨⟨day, item⟩, hentry, h⟩ := List.mem_filterMap.mp h
  obtain ⟨poiId, hpoiId, h⟩ := Option.bind_eq_some_iff.mp h
  obtain ⟨poi, hpoi, h⟩ := Option.bind_eq_some_iff.mp h
  split at h
  · rename_i hremovable
    obtain rfl := Option.some.inj h
    exact ⟨hentry, hpoiId, hpoi, hremovable.1, Bool.eq_false_iff.mpr hremovable.2⟩
  · exact nomatch h

/-- The removable items of a list of visits, one by one. -/
theorem removableItems_cons {entry : Date × PlanItem} {poi : PlanningPOI}
    (hvisit : VisitOf pois entry.2 poi) :
    removableItems trip pois (entry :: items) =
      (if trip.isMustVisit entry.2.name then [] else
        [⟨entry.1, entry.2, poi.facts.id, poi⟩]) ++ removableItems trip pois items := by
  have hactivity : isActivity entry.2 = true := decide_eq_true hvisit.type
  unfold removableItems
  rw [List.filterMap_cons]
  by_cases hrequired : trip.isMustVisit entry.2.name = true <;>
    simp [hvisit.poiId, hvisit.known, hactivity, hrequired]

/-- What can be removed is everything that is not required. -/
theorem sum_amount_removableItems (trip : TripSpec) (amount : PlanItem → ℚ)
    (hvisits : ∀ entry ∈ items, ∃ poi, VisitOf pois entry.2 poi) :
    ((removableItems trip pois items).map fun option => amount option.item).sum =
      ((items.filter fun entry => !trip.isMustVisit entry.2.name).map
        fun entry => amount entry.2).sum := by
  induction items with
  | nil => rfl
  | cons entry rest ih =>
    obtain ⟨poi, hvisit⟩ := hvisits entry List.mem_cons_self
    have hrest := ih fun other hother => hvisits other (List.mem_cons_of_mem _ hother)
    rw [removableItems_cons hvisit, List.map_append, List.sum_append, hrest]
    by_cases hrequired : trip.isMustVisit entry.2.name = true <;> simp [hrequired]

/-- The places of the removable items are among those scheduled, in the same order. -/
theorem poiId_removableItems_sublist :
    ((removableItems trip pois items).map fun option => some option.poiId).Sublist
      (items.map fun entry => entry.2.poiId) := by
  induction items with
  | nil => exact List.Sublist.refl []
  | cons entry rest ih =>
    obtain ⟨day, item⟩ := entry
    unfold removableItems
    rw [List.filterMap_cons, List.map_cons]
    split
    · exact List.Sublist.cons _ ih
    · rename_i option hoption
      obtain ⟨poiId, hpoiId, hoption⟩ := Option.bind_eq_some_iff.mp hoption
      obtain ⟨poi, -, hoption⟩ := Option.bind_eq_some_iff.mp hoption
      split at hoption
      · obtain rfl := Option.some.inj hoption
        rw [List.map_cons, hpoiId]
        exact List.Sublist.cons_cons _ ih
      · exact nomatch hoption

/-- The actions of a greedy choice cover the excess. -/
theorem coversExcess_of_takeEnough {amount : PlanItem → ℚ} {excess : ℚ} {violationType : String}
    {κ : Type} [LinearOrder κ] {rank : RemovableItem → κ} {options removed : List RemovableItem}
    {action : RemovableItem → RepairAction}
    (honce : (items.map fun entry => entry.2.poiId).Nodup) (hexcess : 0 < excess)
    (hoptions : options.Sublist (removableItems trip pois items))
    (hpoiId : ∀ option, (action option).poiId = option.poiId)
    (haction : ∀ option ∈ options,
      RemovesItem trip items violationType (action option) option.entry)
    (h : takeEnough (fun option => amount option.item) excess 0 (sortByKey rank options) =
      some removed) :
    CoversExcess trip items violationType amount excess (removed.map action)
      (removed.map RemovableItem.entry) := by
  have hstart := prefix_of_takeEnough h
  obtain ⟨-, henough, hleast⟩ := takeEnough_eq_some hexcess h
  refine ⟨?_, ?_, ?_, ?_⟩
  · rw [List.forall₂_map_left_iff, List.forall₂_map_right_iff, List.forall₂_same]
    exact fun option hoption => haction option (mem_sortByKey.mp (hstart.subset hoption))
  · rw [zero_add] at henough
    rwa [List.map_map]
  · rw [zero_add] at hleast
    rwa [← List.map_dropLast, List.map_map]
  · have hscheduled : ((removableItems trip pois items).map RemovableItem.poiId).Nodup := by
      refine List.Nodup.of_map some ?_
      rw [List.map_map]
      exact poiId_removableItems_sublist.nodup honce
    have hsorted : ((sortByKey rank options).map RemovableItem.poiId).Nodup :=
      ((List.perm_insertionSort _ options).map _).nodup_iff.mpr
        ((hoptions.map _).nodup hscheduled)
    rw [List.map_map]
    have hremoved := (hstart.sublist.map RemovableItem.poiId).nodup hsorted
    exact (List.map_congr_left fun option _ => hpoiId option) ▸ hremoved

end Removals

/-! ## The budget -/

omit [Platform] in
/-- Leaving out what adds nothing does not change a sum. -/
theorem sum_filter_pos {α : Type} {amount : α → ℚ} {l : List α}
    (hnonneg : ∀ a ∈ l, 0 ≤ amount a) :
    ((l.filter fun a => decide (0 < amount a)).map amount).sum = (l.map amount).sum := by
  induction l with
  | nil => rfl
  | cons a rest ih =>
    have hrest := ih fun b hb => hnonneg b (List.mem_cons_of_mem _ hb)
    rw [List.filter_cons, List.map_cons, List.sum_cons]
    by_cases hpos : 0 < amount a
    · rw [if_pos (decide_eq_true hpos), List.map_cons, List.sum_cons, hrest]
    · have hzero : amount a = 0 := le_antisymm (not_lt.mp hpos) (hnonneg a List.mem_cons_self)
      rw [if_neg (by simpa using hpos), hrest, hzero, zero_add]

omit [Platform] in
/-- What an item is known to cost. -/
theorem PlanItem.known_nonneg (item : PlanItem) : 0 ≤ item.estimatedCost.getD 0 := by
  cases hcost : item.estimatedCost with
  | none => exact le_rfl
  | some cost => exact item.estimatedCost_nonneg cost hcost

/-- The known costs of one kind of items. -/
theorem knownCosts_eq {trip : TripSpec} {candidate : PlanCandidate} {required : Bool} :
    knownCosts trip candidate required =
      ((candidate.datedItems.filter fun entry =>
        decide (trip.isMustVisit entry.2.name = required)).map
          fun entry => entry.2.estimatedCost.getD 0).sum := by
  unfold knownCosts
  induction candidate.datedItems with
  | nil => rfl
  | cons entry rest ih =>
    rw [List.filterMap_cons, List.filter_cons]
    by_cases hrequired : trip.isMustVisit entry.2.name = required
    · rw [if_pos hrequired, if_pos (decide_eq_true hrequired), List.map_cons, List.sum_cons, ← ih]
      cases entry.2.estimatedCost <;> simp
    · rw [if_neg hrequired, if_neg (by simpa using hrequired)]
      exact ih

section Budget

variable {trip : TripSpec} {pois : List PlanningPOI} {draft : CandidateDraft}
  {candidate : PlanCandidate} {budget : ℚ}

/-- The known cost is what the required and the optional items cost. -/
theorem FollowsDraft.knownCost_eq (h : FollowsDraft pois draft candidate) (trip : TripSpec) :
    candidate.metrics.knownEstimatedCost =
      knownCosts trip candidate true + knownCosts trip candidate false := by
  rw [h.knownCost, knownCosts, knownCosts]
  induction candidate.datedItems with
  | nil => simp
  | cons entry rest ih =>
    rw [List.filterMap_cons, List.filterMap_cons, List.filterMap_cons]
    cases trip.isMustVisit entry.2.name <;> cases entry.2.estimatedCost <;> simp [ih] <;> ring

/-- The critic's test, on a candidate that is over its budget. -/
theorem budgetCanBeRepaired_eq_true_iff (h : FollowsDraft pois draft candidate)
    (hbudget : trip.totalBudget = some budget)
    (hover : budget < candidate.metrics.knownEstimatedCost) :
    budgetCanBeRepaired trip candidate = true ↔
      candidate.metrics.knownEstimatedCost - budget ≤ knownCosts trip candidate false := by
  have hcost := h.knownCost_eq trip
  unfold budgetCanBeRepaired
  rw [hbudget]
  simp only [Bool.and_eq_true, decide_eq_true_eq]
  constructor
  · exact fun htest => htest.1.2
  · intro henough
    exact ⟨⟨by linarith, henough⟩, by linarith⟩

/-- The removals for a budget that is exceeded: a greedy choice, or nothing. -/
theorem removeActionsForBudget_eq (hbudget : trip.totalBudget = some budget)
    (hover : budget < candidate.metrics.knownEstimatedCost) :
    removeActionsForBudget trip candidate pois =
      match takeEnough (fun option : RemovableItem => option.item.estimatedCost.getD 0)
          (candidate.metrics.knownEstimatedCost - budget) 0
          (sortByKey (removalRank trip fun option => option.item.estimatedCost.getD 0)
            ((removableItems trip pois candidate.datedItems).filter fun option =>
              decide (0 < option.item.estimatedCost.getD 0))) with
      | none => []
      | some removed => removed.map fun option =>
        removeAction "budget_exceeded" option.poiId "移除高费用且非必去的活动"
          ("减少已知费用 " ++ decimalText (option.item.estimatedCost.getD 0) ++ " 元") option.day := by
  unfold removeActionsForBudget
  rw [hbudget]
  exact if_neg (by linarith)

/-- The removals for a budget cover what is over it. -/
theorem coversExcess_of_removeActionsForBudget
    (honce : (candidate.datedItems.map fun entry => entry.2.poiId).Nodup)
    (hbudget : trip.totalBudget = some budget)
    (hover : budget < candidate.metrics.knownEstimatedCost)
    (hsome : removeActionsForBudget trip candidate pois ≠ []) :
    ∃ removed, CoversExcess trip candidate.datedItems "budget_exceeded"
      (fun item => item.estimatedCost.getD 0) (candidate.metrics.knownEstimatedCost - budget)
      (removeActionsForBudget trip candidate pois) removed := by
  rw [removeActionsForBudget_eq hbudget hover] at hsome ⊢
  split at hsome
  · exact absurd rfl hsome
  · rename_i removed hremoved
    refine ⟨_, coversExcess_of_takeEnough honce (by linarith) List.filter_sublist
      (fun _ => rfl) (fun option hoption => ?_) hremoved⟩
    obtain ⟨hscheduled, hpoiId, -, -, hoptional⟩ :=
      mem_removableItems (List.mem_of_mem_filter hoption)
    exact ⟨hscheduled, rfl, rfl, rfl, rfl, hpoiId, hoptional⟩

/-- The removals for a budget exist exactly when the optional items cost enough. -/
theorem removeActionsForBudget_ne_nil_iff (h : FollowsDraft pois draft candidate)
    (hbudget : trip.totalBudget = some budget)
    (hover : budget < candidate.metrics.knownEstimatedCost) :
    removeActionsForBudget trip candidate pois ≠ [] ↔
      candidate.metrics.knownEstimatedCost - budget ≤ knownCosts trip candidate false := by
  have hvisits : ∀ entry ∈ candidate.datedItems, ∃ poi, VisitOf pois entry.2 poi := by
    intro entry hentry
    obtain ⟨poi, hvisit, -⟩ := h.visit hentry
    exact ⟨poi, hvisit⟩
  have hsum := sum_amount_removableItems trip (fun item => item.estimatedCost.getD 0)
    hvisits
  rw [removeActionsForBudget_eq hbudget hover]
  set options := (removableItems trip pois candidate.datedItems).filter fun option =>
    decide (0 < option.item.estimatedCost.getD 0) with hoptions
  set sorted := sortByKey (removalRank trip fun option => option.item.estimatedCost.getD 0)
    options with hsorted
  have hperm : sorted.Perm options := List.perm_insertionSort ..
  have htotal : (sorted.map fun option => option.item.estimatedCost.getD 0).sum =
      knownCosts trip candidate false := by
    rw [(hperm.map _).sum_eq, hoptions, sum_filter_pos fun option _ => option.item.known_nonneg,
      hsum, knownCosts_eq]
    simp
  have hexcess : 0 < candidate.metrics.knownEstimatedCost - budget := sub_pos.mpr hover
  have hknown : ∀ option ∈ sorted, 0 ≤ option.item.estimatedCost.getD 0 :=
    fun option _ => option.item.known_nonneg
  have hsome := takeEnough_isSome_iff hknown hexcess
  rw [zero_add, htotal] at hsome
  rw [← hsome]
  cases htaken : takeEnough (fun option : RemovableItem => option.item.estimatedCost.getD 0)
    (candidate.metrics.knownEstimatedCost - budget) 0 sorted with
  | none => simp
  | some removed =>
    obtain ⟨hne, -, -⟩ := takeEnough_eq_some (by linarith) htaken
    simpa using hne

end Budget

namespace Sample

/-- The trip on a budget of ten. -/
def cheapTrip : TripSpec := { trip with totalBudget := some 10, totalBudget_pos := by decide }

/-- A place that costs twenty. -/
def dearPoi : PlanningPOI := { poi "a" 1 60 with partyCost := some 20 }

def dearDraft : CandidateDraft := ⟨"balanced-r0", .balanced, [⟨day1, ["a"]⟩, ⟨day2, []⟩]⟩

def dearRoutes : Routes := @routesFor plainPlatform [dearDraft] [dearPoi] settings

end Sample

end TravelPlanAgent
