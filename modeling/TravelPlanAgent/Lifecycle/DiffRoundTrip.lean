import Mathlib.Algebra.Group.Prod
import TravelPlanAgent.Library.Changes
import TravelPlanAgent.Lifecycle.SessionInvariant

/-!
# What a difference says

A difference lists what was added, removed, moved and reordered, and what else changed of the items
and days that both candidates have.  Applied to the placement of the items before, it gives their
placement after; nothing is left out, and nothing is listed that is the same.  Changes of the cost
of a day are converted to floats, so they are close to what they stand for and not equal to it.

* `UniqueIds`: every item has an id of its own.
* `entryOf`, `placementOf`, `metricsOn`: where an item is, and what a day adds up to.
* `get?_indexItems`: the index of a candidate is `entryOf`.
* `ListsItems`, `ListsDays`: entries about items, and entries about days.
* `buildPlanDiff_complete`: the difference is complete, and exact apart from costs.
* `exists_not_givesCosts`: the costs before and their changes do not give the costs after.
-/

namespace TravelPlanAgent

open Calendar Selection Changes

/-! ## Candidates by id -/

/-- Every item has an id, and no two have the same. -/
structure UniqueIds (candidate : PlanCandidate) : Prop where
  given : ∀ entry ∈ candidate.datedItems, entry.2.itemId ≠ none
  once : (candidate.datedItems.map fun entry => entry.2.itemId).Nodup

/-- Where the item with an id is. -/
def entryOf (candidate : PlanCandidate) (itemId : String) : Option IndexedItem :=
  (positionedItems candidate).find? fun entry => decide (entry.2.2.itemId = some itemId)

/-- The date and the position of an item. -/
def IndexedItem.place (entry : IndexedItem) : Date × ℕ := (entry.1, entry.2.1)

/-- The date and the position of the item with an id. -/
def placementOf (candidate : PlanCandidate) (itemId : String) : Option (Date × ℕ) :=
  (entryOf candidate itemId).map IndexedItem.place

/-- An item that both candidates have differs in this way. -/
def DiffersIn (differs : IndexedItem → IndexedItem → Prop) (before after : PlanCandidate)
    (itemId : String) : Prop :=
  ∃ left right, entryOf before itemId = some left ∧ entryOf after itemId = some right ∧
    differs left right

/-- The travel minutes, the walking distance and the known cost of a day. -/
def DayPlan.changing (day : DayPlan) : ℤ × ℤ × ℚ :=
  (day.totalTravelMinutes, day.walkingDistanceMeters, day.knownEstimatedCost)

/-- The same of a date. -/
def metricsOn (candidate : PlanCandidate) (date : Date) : Option (ℤ × ℤ × ℚ) :=
  (dayOn candidate date).map DayPlan.changing

/-- The travel minutes and the walking distance of a date. -/
def travelOn (candidate : PlanCandidate) (date : Date) : Option (ℤ × ℤ) :=
  (metricsOn candidate date).map fun metrics => (metrics.1, metrics.2.1)

/-- The known cost of a date. -/
def costOn (candidate : PlanCandidate) (date : Date) : Option ℚ :=
  (metricsOn candidate date).map fun metrics => metrics.2.2

section Candidates

variable {candidate : PlanCandidate} {itemId : String} {entry : IndexedItem}

theorem map_item_positionedItems (candidate : PlanCandidate) :
    (positionedItems candidate).map (fun entry => entry.2.2) =
      candidate.datedItems.map Prod.snd := by
  rw [positionedItems, PlanCandidate.datedItems, List.map_flatMap, List.map_flatMap]
  refine List.flatMap_congr fun day _ => ?_
  rw [List.map_map, List.map_map]
  change day.items.zipIdx.map Prod.fst = day.items.map id
  rw [List.zipIdx_map_fst, List.map_id]

theorem UniqueIds.given_positioned (h : UniqueIds candidate)
    (hentry : entry ∈ positionedItems candidate) : entry.2.2.itemId ≠ none := by
  have hitem : entry.2.2 ∈ candidate.datedItems.map Prod.snd := by
    rw [← map_item_positionedItems]
    exact List.mem_map_of_mem hentry
  obtain ⟨dated, hdated, heq⟩ := List.mem_map.mp hitem
  rw [← heq]
  exact h.given dated hdated

theorem UniqueIds.once_positioned (h : UniqueIds candidate) :
    ((positionedItems candidate).map fun entry => entry.2.2.itemId).Nodup := by
  have hids := congrArg (List.map PlanItem.itemId) (map_item_positionedItems candidate)
  rw [List.map_map, List.map_map] at hids
  exact (congrArg List.Nodup hids).mpr h.once

theorem UniqueIds.entryOf_eq_some_iff (h : UniqueIds candidate) :
    entryOf candidate itemId = some entry ↔
      entry ∈ positionedItems candidate ∧ entry.2.2.itemId = some itemId := by
  refine ⟨fun hfound => of_find?_decide hfound, fun ⟨hentry, hid⟩ => ?_⟩
  have hsome : (entryOf candidate itemId).isSome :=
    List.find?_isSome.mpr ⟨entry, hentry, decide_eq_true hid⟩
  obtain ⟨found, hfound⟩ := Option.isSome_iff_exists.mp hsome
  obtain ⟨hmem, hsame⟩ := of_find?_decide hfound
  rw [hfound, List.inj_on_of_nodup_map h.once_positioned hmem hentry (hsame.trans hid.symm)]

/-- The index of a candidate. -/
theorem get?_indexItems (h : UniqueIds candidate) :
    ∃ index, indexItems candidate = .ok index ∧
      ∀ itemId, index.get? itemId = entryOf candidate itemId := by
  obtain ⟨index, hindex⟩ := indexItems_exists_iff.mpr fun day hday item hitem =>
    h.given (day.date, item) (List.mem_flatMap.mpr ⟨day, hday, List.mem_map_of_mem hitem⟩)
  refine ⟨index, hindex, fun itemId => ?_⟩
  obtain ⟨entries, hentries, hdict⟩ := bind_eq_ok hindex
  obtain rfl := Except.ok.inj hdict
  have hpairs : entries = (positionedItems candidate).map fun entry =>
      (entry.2.2.itemId.getD "", entry) := by
    have hforall := mapM_eq_ok.mp hentries
    refine (List.forall₂_eq_eq_eq ▸ List.forall₂_map_left_iff.mpr (hforall.imp ?_)).symm
    intro entry pair hpair
    obtain ⟨itemId, hitemId, hpair⟩ := bind_eq_ok hpair
    obtain rfl := Except.ok.inj hpair
    rw [orRaise_eq_ok hitemId]
    rfl
  have hids : (positionedItems candidate).map (fun entry => entry.2.2.itemId) =
      (entries.map Prod.fst).map some := by
    rw [hpairs, List.map_map, List.map_map]
    refine List.map_congr_left fun entry hentry => ?_
    obtain ⟨itemId, hitemId⟩ := Option.ne_none_iff_exists'.mp (h.given_positioned hentry)
    simp only [Function.comp_apply, hitemId, Option.getD_some]
  have hnodup : (entries.map Prod.fst).Nodup :=
    List.Nodup.of_map some (hids ▸ h.once_positioned)
  refine Option.ext fun entry => ?_
  rw [Dict.get?_ofList_eq_some_iff hnodup, h.entryOf_eq_some_iff, hpairs, List.mem_map]
  constructor
  · rintro ⟨entry', hentry, heq⟩
    obtain ⟨rfl, rfl⟩ := Prod.mk.inj heq
    obtain ⟨itemId, hitemId⟩ := Option.ne_none_iff_exists'.mp (h.given_positioned hentry)
    exact ⟨hentry, by rw [hitemId]; rfl⟩
  · rintro ⟨hentry, hid⟩
    exact ⟨entry, hentry, by rw [hid]; rfl⟩

end Candidates

/-! ## Lists by id -/

section Lists

variable {old new index : Dict String IndexedItem} {itemId : String}

/-- What is made of each key at most once is there at most once. -/
theorem map_filterMap_sublist {α β : Type} {f : α → Option β} {key : β → α}
    (h : ∀ a b, f a = some b → key b = a) (l : List α) : ((l.filterMap f).map key).Sublist l := by
  induction l with
  | nil => exact List.Sublist.refl _
  | cons a rest ih =>
    rw [List.filterMap_cons]
    cases hb : f a with
    | none => exact ih.cons a
    | some b =>
      rw [List.map_cons, h a b hb]
      exact ih.cons_cons a

theorem nodup_sortedSet {α : Type} [LinearOrder α] (l : List α) : (sortedSet l).Nodup :=
  (List.perm_insertionSort ..).nodup_iff.mpr (List.nodup_dedup l)

theorem mem_indexedAt {ids : List String} {entry : IndexedItem} :
    (itemId, entry) ∈ indexedAt index ids ↔ itemId ∈ ids ∧ index.get? itemId = some entry := by
  simp only [indexedAt, List.mem_filterMap, mem_sortedSet, Option.map_eq_some_iff, Prod.mk.injEq]
  constructor
  · rintro ⟨id, hid, entry', hentry, rfl, rfl⟩
    exact ⟨hid, hentry⟩
  · rintro ⟨hid, hentry⟩
    exact ⟨itemId, hid, entry, hentry, rfl, rfl⟩

theorem nodup_indexedAt (ids : List String) : ((indexedAt index ids).map Prod.fst).Nodup := by
  refine (map_filterMap_sublist (fun id pair hpair => ?_) _).nodup (nodup_sortedSet ids)
  obtain ⟨entry, -, rfl⟩ := Option.map_eq_some_iff.mp hpair
  rfl

theorem mem_indexedBoth {before after : IndexedItem} :
    (itemId, before, after) ∈ indexedBoth old new ↔
      old.get? itemId = some before ∧ new.get? itemId = some after := by
  simp only [indexedBoth, List.mem_filterMap, mem_sortedSet]
  constructor
  · rintro ⟨id, -, hpair⟩
    obtain ⟨before', hbefore, hpair⟩ := Option.bind_eq_some_iff.mp hpair
    obtain ⟨after', hafter, hpair⟩ := Option.bind_eq_some_iff.mp hpair
    obtain ⟨rfl, rfl, rfl⟩ : id = itemId ∧ before' = before ∧ after' = after := by
      simpa using Option.some.inj hpair
    exact ⟨hbefore, hafter⟩
  · rintro ⟨hbefore, hafter⟩
    refine ⟨itemId, Dict.mem_keys_of_get? hbefore, ?_⟩
    rw [hbefore, hafter]
    rfl

theorem nodup_indexedBoth : ((indexedBoth old new).map Prod.fst).Nodup := by
  refine (map_filterMap_sublist (fun id pair hpair => ?_) _).nodup (nodup_sortedSet old.keys)
  obtain ⟨before, -, hpair⟩ := Option.bind_eq_some_iff.mp hpair
  obtain ⟨after, -, hpair⟩ := Option.bind_eq_some_iff.mp hpair
  rw [← Option.some.inj hpair]

/-- The ids of the common items that differ in some way. -/
theorem mem_ids_indexedBoth {before after : PlanCandidate}
    (hold : ∀ itemId, old.get? itemId = entryOf before itemId)
    (hnew : ∀ itemId, new.get? itemId = entryOf after itemId)
    (differs : IndexedItem → IndexedItem → Prop) [DecidableRel differs] :
    itemId ∈ ((indexedBoth old new).filter fun e => decide (differs e.2.1 e.2.2)).map Prod.fst ↔
      DiffersIn differs before after itemId := by
  unfold DiffersIn
  rw [← hold, ← hnew]
  constructor
  · intro h
    obtain ⟨⟨id, left, right⟩, hmem, rfl⟩ := List.mem_map.mp h
    obtain ⟨hboth, hdiffers⟩ := List.mem_filter.mp hmem
    obtain ⟨hleft, hright⟩ := mem_indexedBoth.mp hboth
    exact ⟨left, right, hleft, hright, of_decide_eq_true hdiffers⟩
  · rintro ⟨left, right, hleft, hright, hdiffers⟩
    exact List.mem_map.mpr ⟨(itemId, left, right),
      List.mem_filter.mpr ⟨mem_indexedBoth.mpr ⟨hleft, hright⟩, decide_eq_true hdiffers⟩, rfl⟩

theorem nodup_ids_indexedBoth {p : String × IndexedItem × IndexedItem → Bool} :
    (((indexedBoth old new).filter p).map Prod.fst).Nodup :=
  (List.filter_sublist.map Prod.fst).nodup nodup_indexedBoth

/-- The ids of the items that only one of two indices has. -/
theorem mem_ids_indexedAt :
    itemId ∈ (indexedAt new (new.keys.filter fun id => decide (id ∉ old.keys))).map Prod.fst ↔
      (∃ entry, new.get? itemId = some entry) ∧ old.get? itemId = none := by
  constructor
  · intro h
    obtain ⟨⟨id, entry⟩, hmem, rfl⟩ := List.mem_map.mp h
    obtain ⟨hid, hentry⟩ := mem_indexedAt.mp hmem
    exact ⟨⟨entry, hentry⟩,
      Dict.get?_eq_none_iff.mpr (of_decide_eq_true (List.mem_filter.mp hid).2)⟩
  · rintro ⟨⟨entry, hentry⟩, hnone⟩
    refine List.mem_map.mpr ⟨(itemId, entry), mem_indexedAt.mpr ⟨?_, hentry⟩, rfl⟩
    exact List.mem_filter.mpr ⟨Dict.mem_keys_of_get? hentry,
      decide_eq_true (Dict.get?_eq_none_iff.mp hnone)⟩

end Lists

/-! ## Placements -/

/-- Where an entry says that its item was. -/
def ItemDiff.source (entry : ItemDiff) : Option (Date × ℕ) :=
  entry.fromDate.bind fun date => entry.fromIndex.map fun index => (date, index)

/-- Where an entry says that its item is. -/
def ItemDiff.target (entry : ItemDiff) : Option (Date × ℕ) :=
  entry.toDate.bind fun date => entry.toIndex.map fun index => (date, index)

/-- What an entry makes of a placement. -/
def ItemDiff.change (entry : ItemDiff) :
    String × (Option (Date × ℕ) → Option (Date × ℕ)) :=
  (entry.itemId, fun _ => entry.target)

/-- All entries about the placement of items. -/
def PlanDiff.itemDiffs (diff : PlanDiff) : List ItemDiff :=
  diff.addedItems ++ diff.removedItems ++ diff.movedItems ++ diff.reorderedItems

/-- Entries about the items with a property, one for each, that say where they were and are. -/
structure ListsItems (before after : PlanCandidate) (p : String → Prop) (entries : List ItemDiff) :
    Prop where
  once : (entries.map ItemDiff.itemId).Nodup
  mem : ∀ itemId, itemId ∈ entries.map ItemDiff.itemId ↔ p itemId
  source : ∀ entry ∈ entries, entry.source = placementOf before entry.itemId
  target : ∀ entry ∈ entries, entry.target = placementOf after entry.itemId

section Placements

variable {before after : PlanCandidate} {p q : String → Prop} {entries entries' : List ItemDiff}
  {old new : Dict String IndexedItem}

theorem ListsItems.append (h : ListsItems before after p entries)
    (h' : ListsItems before after q entries') (hdisjoint : ∀ itemId, p itemId → ¬ q itemId) :
    ListsItems before after (fun itemId => p itemId ∨ q itemId) (entries ++ entries') where
  once := by
    rw [List.map_append, List.nodup_append']
    exact ⟨h.once, h'.once, fun itemId hmem hmem' =>
      hdisjoint itemId ((h.mem itemId).mp hmem) ((h'.mem itemId).mp hmem')⟩
  mem itemId := by rw [List.map_append, List.mem_append, h.mem, h'.mem]
  source entry hentry := (List.mem_append.mp hentry).elim (h.source entry) (h'.source entry)
  target entry hentry := (List.mem_append.mp hentry).elim (h.target entry) (h'.target entry)

/-- Entries about all items that are placed differently turn one placement into the other. -/
theorem ListsItems.leadsTo
    (h : ListsItems before after
      (fun itemId => placementOf before itemId ≠ placementOf after itemId)
      entries) :
    LeadsTo (entries.map ItemDiff.change) (placementOf before) (placementOf after) := by
  have hids : (entries.map ItemDiff.change).map Prod.fst = entries.map ItemDiff.itemId := by
    rw [List.map_map]
    rfl
  constructor
  · rw [hids]
    exact h.once
  · intro change hchange
    obtain ⟨entry, hentry, rfl⟩ := List.mem_map.mp hchange
    exact h.target entry hentry
  · intro itemId hitemId
    rw [hids, h.mem, not_not] at hitemId
    exact hitemId

theorem ListsItems.congr (h : ListsItems before after p entries)
    (hiff : ∀ itemId, p itemId ↔ q itemId) : ListsItems before after q entries :=
  ⟨h.once, fun itemId => (h.mem itemId).trans (hiff itemId), h.source, h.target⟩

theorem ListsItems.eq_nil_iff
    (h : ListsItems before after
      (fun itemId => placementOf before itemId ≠ placementOf after itemId)
      entries) : entries = [] ↔ placementOf before = placementOf after := by
  rw [← h.leadsTo.eq_nil_iff fun change hchange => ?_, List.map_eq_nil_iff]
  obtain ⟨entry, hentry, rfl⟩ := List.mem_map.mp hchange
  exact (h.mem entry.itemId).mp (List.mem_map_of_mem hentry)

/-- Two places on one date differ in the position. -/
theorem ne_place_iff (place place' : Date × ℕ) :
    place ≠ place' ↔ place.1 ≠ place'.1 ∨ place.1 = place'.1 ∧ place.2 ≠ place'.2 := by
  rw [ne_eq, Prod.ext_iff, not_and_or]
  tauto

/-- The entries about added items. -/
theorem listsItems_added (hold : ∀ itemId, old.get? itemId = entryOf before itemId)
    (hnew : ∀ itemId, new.get? itemId = entryOf after itemId) :
    ListsItems before after
      (fun itemId => (∃ entry, entryOf after itemId = some entry) ∧ entryOf before itemId = none)
      ((indexedAt new (new.keys.filter fun id => decide (id ∉ old.keys))).map
        fun (itemId, day, position, item) =>
          { itemId, name := item.name, fromDate := none, toDate := some day
            fromIndex := none, toIndex := some position }) where
  once := by
    rw [List.map_map]
    exact nodup_indexedAt _
  mem itemId := by
    rw [List.map_map, ← hold, ← hnew]
    exact mem_ids_indexedAt
  source diff hdiff := by
    obtain ⟨⟨itemId, entry⟩, hmem, rfl⟩ := List.mem_map.mp hdiff
    have hnone := (mem_ids_indexedAt.mp (List.mem_map_of_mem hmem)).2
    rw [placementOf, ← hold, hnone]
    rfl
  target diff hdiff := by
    obtain ⟨⟨itemId, entry⟩, hmem, rfl⟩ := List.mem_map.mp hdiff
    rw [placementOf, ← hnew, (mem_indexedAt.mp hmem).2]
    rfl

/-- The entries about removed items. -/
theorem listsItems_removed (hold : ∀ itemId, old.get? itemId = entryOf before itemId)
    (hnew : ∀ itemId, new.get? itemId = entryOf after itemId) :
    ListsItems before after
      (fun itemId => (∃ entry, entryOf before itemId = some entry) ∧ entryOf after itemId = none)
      ((indexedAt old (old.keys.filter fun id => decide (id ∉ new.keys))).map
        fun (itemId, day, position, item) =>
          { itemId, name := item.name, fromDate := some day, toDate := none
            fromIndex := some position, toIndex := none }) where
  once := by
    rw [List.map_map]
    exact nodup_indexedAt _
  mem itemId := by
    rw [List.map_map, ← hold, ← hnew]
    exact mem_ids_indexedAt
  source diff hdiff := by
    obtain ⟨⟨itemId, entry⟩, hmem, rfl⟩ := List.mem_map.mp hdiff
    rw [placementOf, ← hold, (mem_indexedAt.mp hmem).2]
    rfl
  target diff hdiff := by
    obtain ⟨⟨itemId, entry⟩, hmem, rfl⟩ := List.mem_map.mp hdiff
    have hnone := (mem_ids_indexedAt.mp (List.mem_map_of_mem hmem)).2
    rw [placementOf, ← hnew, hnone]
    rfl

/-- The entries about items that are placed differently in both. -/
theorem listsItems_both (hold : ∀ itemId, old.get? itemId = entryOf before itemId)
    (hnew : ∀ itemId, new.get? itemId = entryOf after itemId)
    (differs : IndexedItem → IndexedItem → Prop) [DecidableRel differs] :
    ListsItems before after (DiffersIn differs before after)
      (((indexedBoth old new).filter fun e => decide (differs e.2.1 e.2.2)).map fun entry =>
        { itemId := entry.1, name := entry.2.2.2.2.name, fromDate := some entry.2.1.1
          toDate := some entry.2.2.1, fromIndex := some entry.2.1.2.1
          toIndex := some entry.2.2.2.1 }) where
  once := by
    rw [List.map_map]
    exact nodup_ids_indexedBoth
  mem itemId := by
    rw [List.map_map]
    exact mem_ids_indexedBoth hold hnew differs
  source diff hdiff := by
    obtain ⟨⟨itemId, left, right⟩, hmem, rfl⟩ := List.mem_map.mp hdiff
    obtain ⟨hleft, -⟩ := mem_indexedBoth.mp (List.mem_of_mem_filter hmem)
    rw [placementOf, ← hold, hleft]
    rfl
  target diff hdiff := by
    obtain ⟨⟨itemId, left, right⟩, hmem, rfl⟩ := List.mem_map.mp hdiff
    obtain ⟨-, hright⟩ := mem_indexedBoth.mp (List.mem_of_mem_filter hmem)
    rw [placementOf, ← hnew, hright]
    rfl

end Placements

/-! ## Metrics -/

/-- What an entry makes of the travel minutes and the walking distances of the days. -/
def DayMetricDiff.change (entry : DayMetricDiff) :
    Date × (Option (ℤ × ℤ) → Option (ℤ × ℤ)) :=
  (entry.day, Option.map (· + (entry.travelMinutesDelta, entry.walkingMetersDelta)))

/-- The entry says by how much the cost changed, as closely as a double can. -/
structure DayMetricDiff.ReportsCost (entry : DayMetricDiff) (left right : ℚ) : Prop where
  converted : entry.knownCostDelta = Binary64.ofRat (right - left)
  close : ∀ delta : ℚ, entry.knownCostDelta = ((delta : WithTop ℚ) : Binary64.Double) →
    |delta - (right - left)| ≤ max (2 ^ (-1075 : ℤ)) (|right - left| * 2 ^ (-53 : ℤ))

/-- Entries about the days that add up to something else, one for each. -/
structure ListsDays (before after : PlanCandidate) (entries : List DayMetricDiff) : Prop where
  once : (entries.map DayMetricDiff.day).Nodup
  differs : ∀ entry ∈ entries, metricsOn before entry.day ≠ metricsOn after entry.day
  kept : ∀ date, date ∉ entries.map DayMetricDiff.day → metricsOn before date = metricsOn after date
  travel : ∀ entry ∈ entries, entry.change.2 (travelOn before entry.day) = travelOn after entry.day
  cost : ∀ entry ∈ entries, ∃ left right, costOn before entry.day = some left ∧
    costOn after entry.day = some right ∧ entry.ReportsCost left right

section Metrics

variable {before after : PlanCandidate} {date : Date} {left right : DayPlan}

theorem date_of_dayOn (h : dayOn before date = some left) : left.date = date := by
  unfold dayOn at h
  simpa using pos_of_lastWith h

theorem metricsOn_eq_none_iff :
    metricsOn before date = none ↔ date ∉ before.days.map DayPlan.date := by
  rw [metricsOn, Option.map_eq_none_iff, dayOn, lastWith, List.find?_eq_none]
  simp only [List.mem_reverse, decide_eq_true_eq, List.mem_map, not_exists, not_and]

theorem mem_daysOnBoth : (left, right) ∈ daysOnBoth before after ↔
    dayOn before left.date = some left ∧ dayOn after left.date = some right := by
  simp only [daysOnBoth, List.mem_filterMap, mem_sortedSet]
  constructor
  · rintro ⟨date, -, hpair⟩
    obtain ⟨left', hleft, hpair⟩ := Option.bind_eq_some_iff.mp hpair
    obtain ⟨right', hright, hpair⟩ := Option.bind_eq_some_iff.mp hpair
    obtain ⟨rfl, rfl⟩ := Prod.mk.inj (Option.some.inj hpair)
    rw [date_of_dayOn hleft]
    exact ⟨hleft, hright⟩
  · rintro ⟨hleft, hright⟩
    refine ⟨left.date, List.mem_map_of_mem (mem_of_lastWith hleft), ?_⟩
    rw [hleft, hright]
    rfl

theorem nodup_daysOnBoth : ((daysOnBoth before after).map fun pair => pair.1.date).Nodup := by
  refine (map_filterMap_sublist (fun date pair hpair => ?_) _).nodup (nodup_sortedSet _)
  obtain ⟨left, hleft, hpair⟩ := Option.bind_eq_some_iff.mp hpair
  obtain ⟨right, -, hpair⟩ := Option.bind_eq_some_iff.mp hpair
  rw [← Option.some.inj hpair]
  exact date_of_dayOn hleft

theorem ne_changing_iff : left.changing ≠ right.changing ↔
    left.totalTravelMinutes ≠ right.totalTravelMinutes ∨
      left.walkingDistanceMeters ≠ right.walkingDistanceMeters ∨
      left.knownEstimatedCost ≠ right.knownEstimatedCost := by
  rw [ne_eq, DayPlan.changing, DayPlan.changing, Prod.mk.injEq, Prod.mk.injEq, Nat.cast_inj,
    Nat.cast_inj, not_and_or, not_and_or]

theorem reportsCost_of_eq {entry : DayMetricDiff} {before after : ℚ}
    (h : entry.knownCostDelta = Binary64.ofRat (after - before)) :
    entry.ReportsCost before after :=
  ⟨h, fun _ hdelta => Binary64.abs_ofRat_sub_le (h.symm.trans hdelta)⟩

/-- The entries of a difference about days. -/
theorem listsDays_of_eq
    (hdates : ∀ date, date ∈ before.days.map DayPlan.date ↔ date ∈ after.days.map DayPlan.date)
    {entries : List DayMetricDiff}
    (hentries : entries = ((daysOnBoth before after).filter fun (left, right) =>
      decide (left.totalTravelMinutes ≠ right.totalTravelMinutes ∨
        left.walkingDistanceMeters ≠ right.walkingDistanceMeters ∨
        left.knownEstimatedCost ≠ right.knownEstimatedCost)).map
      fun (left, right) =>
        { day := left.date
          travelMinutesDelta := right.totalTravelMinutes - left.totalTravelMinutes
          walkingMetersDelta := right.walkingDistanceMeters - left.walkingDistanceMeters
          knownCostDelta :=
            Binary64.ofRat (right.knownEstimatedCost - left.knownEstimatedCost) }) :
    ListsDays before after entries := by
  have hentry : ∀ entry ∈ entries, ∃ left right,
      dayOn before entry.day = some left ∧ dayOn after entry.day = some right ∧
        left.changing ≠ right.changing ∧
        entry.travelMinutesDelta = right.totalTravelMinutes - left.totalTravelMinutes ∧
        entry.walkingMetersDelta = right.walkingDistanceMeters - left.walkingDistanceMeters ∧
        entry.knownCostDelta =
          Binary64.ofRat (right.knownEstimatedCost - left.knownEstimatedCost) := by
    intro entry hmem
    rw [hentries] at hmem
    obtain ⟨⟨left, right⟩, hpair, rfl⟩ := List.mem_map.mp hmem
    obtain ⟨hboth, hdiffers⟩ := List.mem_filter.mp hpair
    obtain ⟨hleft, hright⟩ := mem_daysOnBoth.mp hboth
    exact ⟨left, right, hleft, hright, ne_changing_iff.mpr (of_decide_eq_true hdiffers), rfl, rfl,
      rfl⟩
  constructor
  · rw [hentries, List.map_map]
    exact (List.filter_sublist.map _).nodup nodup_daysOnBoth
  · intro entry hmem
    obtain ⟨left, right, hleft, hright, hne, -⟩ := hentry entry hmem
    rw [metricsOn, metricsOn, hleft, hright]
    exact fun heq => hne (Option.some.inj heq)
  · intro date hdate
    by_cases hknown : date ∈ before.days.map DayPlan.date
    · obtain ⟨left, hleft⟩ : ∃ left, dayOn before date = some left := by
        have hsome := (not_congr metricsOn_eq_none_iff).mpr (not_not.mpr hknown)
        rw [metricsOn, Option.map_eq_none_iff] at hsome
        exact Option.ne_none_iff_exists'.mp hsome
      obtain ⟨right, hright⟩ : ∃ right, dayOn after date = some right := by
        have hsome := (not_congr metricsOn_eq_none_iff).mpr (not_not.mpr ((hdates date).mp hknown))
        rw [metricsOn, Option.map_eq_none_iff] at hsome
        exact Option.ne_none_iff_exists'.mp hsome
      rw [metricsOn, metricsOn, hleft, hright, Option.map_some, Option.map_some]
      by_contra hdiffers
      have hne : left.changing ≠ right.changing := fun heq => hdiffers (congrArg some heq)
      obtain rfl := date_of_dayOn hleft
      rw [hentries, List.map_map] at hdate
      exact hdate (List.mem_map.mpr ⟨(left, right), List.mem_filter.mpr
        ⟨mem_daysOnBoth.mpr ⟨hleft, hright⟩, decide_eq_true (ne_changing_iff.mp hne)⟩, rfl⟩)
    · rw [metricsOn_eq_none_iff.mpr hknown,
        metricsOn_eq_none_iff.mpr fun hafter => hknown ((hdates date).mpr hafter)]
  · intro entry hmem
    obtain ⟨left, right, hleft, hright, -, hminutes, hmeters, -⟩ := hentry entry hmem
    rw [DayMetricDiff.change, hminutes, hmeters, travelOn, travelOn, metricsOn, metricsOn, hleft,
      hright]
    exact congrArg some (add_sub_cancel (left.changing.1, left.changing.2.1)
      (right.changing.1, right.changing.2.1))
  · intro entry hmem
    obtain ⟨left, right, hleft, hright, -, -, -, hcost⟩ := hentry entry hmem
    refine ⟨left.knownEstimatedCost, right.knownEstimatedCost, ?_, ?_, reportsCost_of_eq hcost⟩
    · rw [costOn, metricsOn, hleft]
      rfl
    · rw [costOn, metricsOn, hright]
      rfl

/-- Entries about days turn the travel minutes and distances before into those after. -/
theorem ListsDays.leadsTo {entries : List DayMetricDiff} (h : ListsDays before after entries) :
    LeadsTo (entries.map DayMetricDiff.change) (travelOn before) (travelOn after) := by
  have hdays : (entries.map DayMetricDiff.change).map Prod.fst =
      entries.map DayMetricDiff.day := by
    rw [List.map_map]
    rfl
  constructor
  · rw [hdays]
    exact h.once
  · intro change hchange
    obtain ⟨entry, hentry, rfl⟩ := List.mem_map.mp hchange
    exact h.travel entry hentry
  · intro date hdate
    rw [hdays] at hdate
    rw [travelOn, travelOn, h.kept date hdate]

theorem ListsDays.eq_nil_iff {entries : List DayMetricDiff} (h : ListsDays before after entries) :
    entries = [] ↔ metricsOn before = metricsOn after := by
  constructor
  · rintro rfl
    exact funext fun date => h.kept date List.not_mem_nil
  · intro hsame
    exact List.eq_nil_iff_forall_not_mem.mpr fun entry hentry =>
      h.differs entry hentry (congrFun hsame entry.day)

end Metrics

/-! ## The whole difference -/

/-- The start or the end of an item differs. -/
def IndexedItem.TimeDiffers (left right : IndexedItem) : Prop :=
  left.2.2.startAt.instant ≠ right.2.2.startAt.instant ∨
    left.2.2.endAt.instant ≠ right.2.2.endAt.instant

instance : DecidableRel IndexedItem.TimeDiffers :=
  fun _ _ => inferInstanceAs (Decidable (_ ∨ _))

/-- The way to an item differs. -/
def IndexedItem.RouteDiffers (left right : IndexedItem) : Prop :=
  left.2.2.travelFromPreviousMinutes ≠ right.2.2.travelFromPreviousMinutes ∨
    left.2.2.distanceFromPreviousMeters ≠ right.2.2.distanceFromPreviousMeters

instance : DecidableRel IndexedItem.RouteDiffers :=
  fun _ _ => inferInstanceAs (Decidable (_ ∨ _))

/-- A difference without entries. -/
def PlanDiff.IsEmpty (diff : PlanDiff) : Prop :=
  diff.itemDiffs = [] ∧ diff.timeChanges = [] ∧ diff.routeChanges = [] ∧
    diff.dayMetricChanges = []

/-- A difference says all that changed, and nothing else. -/
structure Describes (before after : PlanCandidate) (diff : PlanDiff) : Prop where
  once : (diff.itemDiffs.map ItemDiff.itemId).Nodup
  sources : ∀ entry ∈ diff.itemDiffs, entry.source = placementOf before entry.itemId
  placement : changeAll (placementOf before) (diff.itemDiffs.map ItemDiff.change) =
    placementOf after
  times : ∀ itemId, itemId ∈ diff.timeChanges.map TimeDiff.itemId ↔
    DiffersIn IndexedItem.TimeDiffers before after itemId
  routes : ∀ itemId, itemId ∈ diff.routeChanges.map RouteDiff.itemId ↔
    DiffersIn IndexedItem.RouteDiffers before after itemId
  metrics : changeAll (travelOn before) (diff.dayMetricChanges.map DayMetricDiff.change) =
    travelOn after
  costs : ∀ entry ∈ diff.dayMetricChanges, ∃ left right, costOn before entry.day = some left ∧
    costOn after entry.day = some right ∧ entry.ReportsCost left right
  otherCosts : ∀ date, date ∉ diff.dayMetricChanges.map DayMetricDiff.day →
    costOn before date = costOn after date
  empty : diff.IsEmpty ↔ placementOf before = placementOf after ∧
    (∀ itemId, ¬ DiffersIn IndexedItem.TimeDiffers before after itemId) ∧
    (∀ itemId, ¬ DiffersIn IndexedItem.RouteDiffers before after itemId) ∧
    metricsOn before = metricsOn after

theorem eq_nil_iff_of_mem {α : Type} {entries : List α} {key : α → String} {p : String → Prop}
    (h : ∀ k, k ∈ entries.map key ↔ p k) : entries = [] ↔ ∀ k, ¬ p k := by
  rw [← List.map_eq_nil_iff (f := key), List.eq_nil_iff_forall_not_mem]
  exact forall_congr' fun k => not_congr (h k)

section Whole

variable {before after : PlanCandidate} {fromVersionId toId : String}
  {softBefore softAfter : Option ℚ}

/-- What the four lists of a difference are about, taken together. -/
theorem placement_ne_iff {itemId : String} :
    ((((∃ entry, entryOf after itemId = some entry) ∧ entryOf before itemId = none) ∨
      ((∃ entry, entryOf before itemId = some entry) ∧ entryOf after itemId = none)) ∨
      DiffersIn (fun left right => left.1 ≠ right.1) before after itemId) ∨
      DiffersIn (fun left right => left.1 = right.1 ∧ left.2.1 ≠ right.2.1) before after itemId ↔
    placementOf before itemId ≠ placementOf after itemId := by
  unfold DiffersIn placementOf
  cases hbefore : entryOf before itemId with
  | none => cases hafter : entryOf after itemId <;> simp
  | some left =>
    cases hafter : entryOf after itemId with
    | none => simp
    | some right =>
      have hplace := ne_place_iff left.place right.place
      simp only [Option.map_some, ne_eq, Option.some.injEq] at hplace ⊢
      rw [hplace]
      simp [IndexedItem.place]

/-- The parts of a difference, taken together. -/
theorem describes_of_parts {diff : PlanDiff}
    (hitems : ListsItems before after
      (fun itemId => placementOf before itemId ≠ placementOf after itemId) diff.itemDiffs)
    (htimes : ∀ itemId, itemId ∈ diff.timeChanges.map TimeDiff.itemId ↔
      DiffersIn IndexedItem.TimeDiffers before after itemId)
    (hroutes : ∀ itemId, itemId ∈ diff.routeChanges.map RouteDiff.itemId ↔
      DiffersIn IndexedItem.RouteDiffers before after itemId)
    (hdays : ListsDays before after diff.dayMetricChanges) : Describes before after diff where
  once := hitems.once
  sources := hitems.source
  placement := hitems.leadsTo.changeAll_eq
  times := htimes
  routes := hroutes
  metrics := hdays.leadsTo.changeAll_eq
  costs := hdays.cost
  otherCosts date hdate := by rw [costOn, costOn, hdays.kept date hdate]
  empty := by
    rw [PlanDiff.IsEmpty, hitems.eq_nil_iff, eq_nil_iff_of_mem htimes, eq_nil_iff_of_mem hroutes,
      hdays.eq_nil_iff]

/-- **A difference is complete**: it lists each id at most once, gives the placement, the travel
minutes and the distances after from those before, names the items whose times or ways changed,
reports each change of a cost as the nearest double, and is empty exactly when nothing changed. -/
theorem buildPlanDiff_complete (hbefore : UniqueIds before) (hafter : UniqueIds after)
    (hdates : ∀ date, date ∈ before.days.map DayPlan.date ↔ date ∈ after.days.map DayPlan.date) :
    ∃ diff, buildPlanDiff before after fromVersionId toId softBefore softAfter = .ok diff ∧
      Describes before after diff := by
  obtain ⟨old, hold, hold'⟩ := get?_indexItems hbefore
  obtain ⟨new, hnew, hnew'⟩ := get?_indexItems hafter
  have hadded := listsItems_added hold' hnew'
  have hremoved := listsItems_removed hold' hnew'
  have hmoved := listsItems_both hold' hnew' fun left right => left.1 ≠ right.1
  have hreordered :=
    listsItems_both hold' hnew' fun left right => left.1 = right.1 ∧ left.2.1 ≠ right.2.1
  have honly := hadded.append hremoved fun itemId ⟨_, hnone⟩ ⟨⟨_, hsome⟩, _⟩ =>
    nomatch hnone.symm.trans hsome
  have hdated := honly.append hmoved fun itemId hone ⟨left, right, hleft, hright, _⟩ =>
    hone.elim (fun ⟨_, hnone⟩ => nomatch hnone.symm.trans hleft)
      fun ⟨_, hnone⟩ => nomatch hnone.symm.trans hright
  have hall := hdated.append hreordered fun itemId hother ⟨left, right, hleft, hright, hsame, _⟩ =>
    hother.elim
      (fun hone => hone.elim (fun ⟨_, hnone⟩ => nomatch hnone.symm.trans hleft)
        fun ⟨_, hnone⟩ => nomatch hnone.symm.trans hright)
      fun ⟨left', right', hleft', hright', hne⟩ => by
        rw [← Option.some.inj (hleft.symm.trans hleft'),
          ← Option.some.inj (hright.symm.trans hright')] at hne
        exact hne hsame
  have hitems := hall.congr fun _ => placement_ne_iff
  refine ⟨_, by rw [buildPlanDiff, hold]; change (indexItems after >>= _) = _; rw [hnew]; rfl, ?_⟩
  refine describes_of_parts hitems (fun itemId => ?_) (fun itemId => ?_)
    (listsDays_of_eq hdates rfl)
  · rw [List.map_map]
    exact mem_ids_indexedBoth hold' hnew' IndexedItem.TimeDiffers
  · rw [List.map_map]
    exact mem_ids_indexedBoth hold' hnew' IndexedItem.RouteDiffers

end Whole

namespace Sample

/-- A candidate whose days are free. -/
def cleared (candidate : PlanCandidate) : PlanCandidate :=
  { candidate with days := candidate.days.map fun day => { day with items := [] } }

end Sample

/-- The first version of the two-day trip and the same with free days. -/
theorem buildPlanDiff_complete_sample :
    ∃ version diff,
      activeVersion (Sample.selectedFrom [Sample.draft] Sample.pois).record = .ok version ∧
      version.candidate.datedItems ≠ [] ∧
      buildPlanDiff version.candidate (Sample.cleared version.candidate) "V1" "P1" none none =
        .ok diff ∧
      Describes version.candidate (Sample.cleared version.candidate) diff := by
  have hrun : okAnd (activeVersion (Sample.selectedFrom [Sample.draft] Sample.pois).record)
      (fun version => decide (version.candidate.datedItems ≠ []) &&
        decide (∀ entry ∈ version.candidate.datedItems, entry.2.itemId ≠ none) &&
        decide (version.candidate.datedItems.map fun entry => entry.2.itemId).Nodup) = true := by
    decide +kernel
  obtain ⟨version, hactive, hrun⟩ := okAnd_eq_true hrun
  simp only [Bool.and_eq_true, decide_eq_true_eq] at hrun
  obtain ⟨⟨hitems, hgiven⟩, honce⟩ := hrun
  have hfree : (Sample.cleared version.candidate).datedItems = [] := by
    rw [PlanCandidate.datedItems, List.flatMap_eq_nil_iff]
    intro day hday
    obtain ⟨day', -, rfl⟩ := List.mem_map.mp hday
    rfl
  have hafter : UniqueIds (Sample.cleared version.candidate) := by
    constructor <;> rw [hfree]
    · exact fun _ hmem => absurd hmem List.not_mem_nil
    · exact List.nodup_nil
  have hdates : ∀ date, date ∈ version.candidate.days.map DayPlan.date ↔
      date ∈ (Sample.cleared version.candidate).days.map DayPlan.date := fun date => by
    rw [Sample.cleared, List.map_map]
    rfl
  obtain ⟨diff, hdiff, hdescribes⟩ := buildPlanDiff_complete ⟨hgiven, honce⟩ hafter hdates
  exact ⟨version, diff, hactive, hitems, hdiff, hdescribes⟩

/-! ## Costs and their changes -/

/-- The cost of a day before and its change give the cost after, in exact numbers or in doubles. -/
def GivesCosts (before after : PlanCandidate) (diff : PlanDiff) : Prop :=
  ∀ entry ∈ diff.dayMetricChanges, ∀ left right, costOn before entry.day = some left →
    costOn after entry.day = some right →
    ∃ delta : ℚ, entry.knownCostDelta = ((delta : WithTop ℚ) : Binary64.Double) ∧
      (left + delta = right ∨
        Binary64.ofRat (Binary64.nearest left + delta) = Binary64.ofRat right)

namespace Sample

/-- A day with one walk that costs something. -/
def walkDay (cost : ℚ) (h : 0 ≤ cost) : DayPlan :=
  { date := day1, theme := "", primaryArea := ""
    items :=
      [{ itemId := some "walk", type := .activity, name := "walk", startAt := at_ day1 9
         endAt := at_ day1 10, poiId := none, travelFromPreviousMinutes := 0
         distanceFromPreviousMeters := 0, estimatedCost := some cost
         walkingDistanceEstimated := false, locked := false, startAt_lt_endAt := by decide
         estimatedCost_nonneg := by simpa using h }]
    knownEstimatedCost := cost, unknownCostItemCount := 0, totalTravelMinutes := 0
    walkingDistanceMeters := 0, fatigueScore := 0 }

def walkPlan (cost : ℚ) (h : 0 ≤ cost) : PlanCandidate :=
  { id := "a", style := .balanced, days := [walkDay cost h]
    metrics := ⟨0, 0, 0, 0, 0, cost, 0, 0⟩
    validation := none, score := none, assumptions := [] }

end Sample

/-- A tenth and the double nearest to seven tenths are not eight tenths. -/
theorem exists_not_givesCosts : ∃ before after diff, UniqueIds before ∧ UniqueIds after ∧
    (∀ date, date ∈ before.days.map DayPlan.date ↔ date ∈ after.days.map DayPlan.date) ∧
    buildPlanDiff before after "V1" "P1" none none = .ok diff ∧ ¬ GivesCosts before after diff := by
  have hunique {cost : ℚ} (h : 0 ≤ cost) : UniqueIds (Sample.walkPlan cost h) :=
    ⟨by simp [PlanCandidate.datedItems, Sample.walkPlan, Sample.walkDay],
      by simp [PlanCandidate.datedItems, Sample.walkPlan, Sample.walkDay]⟩
  have hlow : (0 : ℚ) ≤ 1 / 10 := by norm_num
  have hhigh : (0 : ℚ) ≤ 8 / 10 := by norm_num
  have hdays : (Sample.walkDay (1 / 10) hlow, Sample.walkDay (8 / 10) hhigh) ∈
      daysOnBoth (Sample.walkPlan (1 / 10) hlow) (Sample.walkPlan (8 / 10) hhigh) :=
    mem_daysOnBoth.mpr ⟨rfl, rfl⟩
  refine ⟨Sample.walkPlan (1 / 10) hlow, Sample.walkPlan (8 / 10) hhigh, _, hunique hlow,
    hunique hhigh, fun date => Iff.rfl, rfl, fun hgives => ?_⟩
  have hcosts : (1 / 10 : ℚ) ≠ 8 / 10 := by norm_num
  obtain ⟨delta, hdelta, hsum⟩ := hgives _ (List.mem_map.mpr ⟨_,
    List.mem_filter.mpr ⟨hdays, decide_eq_true (.inr (.inr hcosts))⟩, rfl⟩)
    (1 / 10) (8 / 10) rfl rfl
  have hconverted : Binary64.ofRat (8 / 10 - 1 / 10) =
      ((3152519739159347 / 4503599627370496 : ℚ) : WithTop ℚ) := by
    decide +kernel
  obtain rfl := WithTop.coe_injective (WithBot.coe_injective (hconverted.symm.trans hdelta))
  revert hsum
  decide +kernel

end TravelPlanAgent
