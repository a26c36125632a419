import TravelPlanAgent.Planning.Optimization
import TravelPlanAgent.Planning.Agreement
import TravelPlanAgent.Library.Dealing

/-!
# The heuristic drafts are well formed

A heuristic draft deals the best places of a style to the days of the trip and orders each day by
distance.  No place gets lost or doubled on the way, so the only question is which places are the
best.

* `perm_orderNearest`, `perm_scheduledIds`: a day and a draft hold what was selected.
* `WellFormedDraft`: the dates of the trip, every place at most once, and full days.
* `wellFormedDraft_prepareDraft`: every heuristic draft is well formed.
* `HasRequired`: a draft with room for the required places has them all.
* `soundDrafts_iff`: the drafts of a round have their required places exactly when, in every
  style, the optional places that outrank a required one leave room.
* `exists_not_soundDrafts`: an expensive required place is dropped.
-/

namespace TravelPlanAgent

open Calendar Selection Dealing

variable [Platform]

/-! ## Ordering a day -/

/-- Every place comes in its turn. -/
theorem perm_nearestFirst {fuel : ℕ} {current : Coordinate} {remaining : List PlanningPOI}
    (hfuel : remaining.length = fuel) :
    (nearestFirst fuel current remaining).Perm remaining := by
  induction fuel generalizing current remaining with
  | zero =>
    obtain rfl := List.eq_nil_of_length_eq_zero hfuel
    exact List.Perm.refl _
  | succ fuel ih =>
    have hne : remaining ≠ [] := List.ne_nil_of_length_pos (by omega)
    obtain ⟨next, hnext⟩ := exists_minByKey (fun poi : PlanningPOI =>
      (toLex (haversineDistanceMeters current poi.facts.coordinate, poi.facts.id) :
        ℕ ×ₗ String)) hne
    have hmem : next ∈ remaining := mem_of_minByKey hnext
    have hrest : (remaining.erase next).length = fuel := by
      rw [List.length_erase_of_mem hmem]
      omega
    rw [nearestFirst, hnext]
    exact ((ih hrest).cons next).trans (List.perm_cons_erase hmem).symm

/-- The order of a day loses and doubles nothing. -/
theorem perm_orderNearest (trip : TripSpec) (start : Coordinate) (pois : List PlanningPOI) :
    (orderNearest trip start pois).Perm pois :=
  ((perm_nearestFirst rfl).append (perm_nearestFirst rfl)).trans
    (List.filter_append_perm (isRequiredPoi trip) pois)

/-! ## Drafts -/

/-- How many places of a style fit into a day. -/
def perDayLimit (style : PlanStyle) (replanRound : ℕ) : ℕ :=
  max 1 (styleActivityLimit style - replanRound)

/-- How many places a heuristic draft of a style has. -/
def placeCount (trip : TripSpec) (pois : List PlanningPOI) (replanRound : ℕ)
    (style : PlanStyle) : ℕ :=
  min pois.length (trip.dayCount * perDayLimit style replanRound)

/-- The ids of the places of a draft, day by day. -/
def CandidateDraft.scheduledIds (draft : CandidateDraft) : List String :=
  draft.days.flatMap DraftDay.poiIds

/-- A draft of a round for some places: the dates of the trip in order, places of the list each at
most once, and as many as fit. -/
structure WellFormedDraft (trip : TripSpec) (pois : List PlanningPOI) (replanRound : ℕ)
    (draft : CandidateDraft) : Prop where
  dates : draft.days.map DraftDay.date = trip.dates
  known : ∀ poiId ∈ draft.scheduledIds, poiId ∈ pois.map fun poi => poi.facts.id
  once : draft.scheduledIds.Nodup
  perDay : ∀ day ∈ draft.days, day.poiIds.length ≤ perDayLimit draft.style replanRound
  full : draft.scheduledIds.length = placeCount trip pois replanRound draft.style

/-- When a draft has room for all required places, it has them. -/
def HasRequired (trip : TripSpec) (pois : List PlanningPOI) (replanRound : ℕ)
    (draft : CandidateDraft) : Prop :=
  (pois.filter (isRequiredPoi trip)).length ≤ placeCount trip pois replanRound draft.style →
    ∀ poi ∈ pois, isRequiredPoi trip poi = true → poi.facts.id ∈ draft.scheduledIds

section Drafts

variable {trip : TripSpec} {pois : List PlanningPOI} {replanRound : ℕ} {style : PlanStyle}

theorem length_selectPois :
    (selectPois trip pois style replanRound).length =
      placeCount trip pois replanRound style := by
  rw [selectPois, List.length_take, (perm_sortByKey _ _).length_eq]
  exact min_eq_left (min_le_left ..)

omit [Platform] in
theorem dayCount_pos (trip : TripSpec) : 0 < trip.dayCount := Nat.succ_pos _

/-- A draft holds the selected places. -/
theorem perm_scheduledIds :
    (prepareDraft trip pois replanRound style).scheduledIds.Perm
      ((selectPois trip pois style replanRound).map fun poi => poi.facts.id) := by
  have hdays : (prepareDraft trip pois replanRound style).scheduledIds =
      (List.range trip.dayCount).flatMap fun dayIndex => (orderNearest trip trip.anchorCoordinate
        (dealt trip.dayCount (selectPois trip pois style replanRound) dayIndex)).map
          fun poi => poi.facts.id :=
    List.flatMap_map ..
  rw [hdays, ← List.map_flatMap]
  refine List.Perm.map _ (List.Perm.trans ?_ (perm_dealt (dayCount_pos trip) _))
  exact List.Perm.flatMap_left _ fun dayIndex _ => perm_orderNearest trip _ _

theorem nodup_selectPois (hids : (pois.map fun poi => poi.facts.id).Nodup) :
    ((selectPois trip pois style replanRound).map fun poi => poi.facts.id).Nodup :=
  (((perm_sortByKey _ _).map _).nodup_iff.mpr hids).sublist ((List.take_sublist ..).map _)

/-- Every heuristic draft of places with ids of their own is well formed. -/
theorem wellFormedDraft_prepareDraft (hids : (pois.map fun poi => poi.facts.id).Nodup) :
    WellFormedDraft trip pois replanRound (prepareDraft trip pois replanRound style) where
  dates := by
    have hcount : trip.dayCount = trip.endDate.days + 1 - trip.startDate.days := by
      have hle : trip.startDate.days ≤ trip.endDate.days := trip.startDate_le_endDate
      unfold TripSpec.dayCount
      omega
    rw [prepareDraft, List.map_map, TripSpec.dates, Date.range, hcount]
    rfl
  known := by
    intro poiId hpoiId
    obtain ⟨poi, hpoi, rfl⟩ := List.mem_map.mp (perm_scheduledIds.mem_iff.mp hpoiId)
    exact List.mem_map_of_mem (mem_sortByKey.mp (List.mem_of_mem_take hpoi))
  once := perm_scheduledIds.nodup_iff.mpr (nodup_selectPois hids)
  perDay := by
    intro day hday
    obtain ⟨dayIndex, -, rfl⟩ := List.mem_map.mp hday
    rw [List.length_map, (perm_orderNearest trip _ _).length_eq]
    refine length_dealt_le ?_ dayIndex
    rw [length_selectPois]
    exact min_le_right ..
  full := by rw [perm_scheduledIds.length_eq, List.length_map, length_selectPois]; rfl

/-- Places with ids of their own have ranks of their own. -/
theorem nodup_heuristicRank (hids : (pois.map fun poi => poi.facts.id).Nodup) :
    (pois.map (heuristicRank trip replanRound)).Nodup := by
  have hid : (pois.map (heuristicRank trip replanRound)).map
      (fun rank => (ofLex (ofLex (ofLex rank).2).2).2) = pois.map fun poi => poi.facts.id := by
    rw [List.map_map]
    rfl
  exact List.Nodup.of_map _ (hid ▸ hids)

/-- A draft with room for the required places has them exactly when the optional places that
outrank one of them leave enough room. -/
theorem hasRequired_iff (hids : (pois.map fun poi => poi.facts.id).Nodup) :
    HasRequired trip pois replanRound (prepareDraft trip pois replanRound style) ↔
      ((pois.filter (isRequiredPoi trip)).length ≤ placeCount trip pois replanRound style →
        (pois.filter (isRequiredPoi trip)).length +
            (outrankers (heuristicRank trip replanRound) (isRequiredPoi trip) pois).length ≤
          placeCount trip pois replanRound style) := by
  refine forall_congr' fun (hroom : _ ≤ placeCount trip pois replanRound style) => ?_
  rw [← subset_take_sortByKey (nodup_heuristicRank hids) hroom]
  refine forall₂_congr fun poi hpoi => forall_congr' fun _ => ?_
  rw [perm_scheduledIds.mem_iff]
  refine ⟨fun hscheduled => ?_, List.mem_map_of_mem⟩
  obtain ⟨selected, hselected, hsame⟩ := List.mem_map.mp hscheduled
  have hmem : selected ∈ pois := mem_sortByKey.mp (List.mem_of_mem_take hselected)
  exact List.inj_on_of_nodup_map hids hmem hpoi hsame ▸ hselected

end Drafts

/-- The drafts of a round: one for each style, well formed and with their required places. -/
structure SoundDrafts (trip : TripSpec) (pois : List PlanningPOI) (replanRound : ℕ)
    (drafts : List CandidateDraft) : Prop where
  styles : drafts.map CandidateDraft.style = PlanStyle.all
  wellFormed : ∀ draft ∈ drafts, WellFormedDraft trip pois replanRound draft
  required : ∀ draft ∈ drafts, HasRequired trip pois replanRound draft

/-- **The heuristic drafts.**  For places with ids of their own the drafts are well formed, and
they keep the required places that they have room for exactly when in every style with room for
them the required places and the optional ones that outrank one of them fit in together. -/
theorem soundDrafts_iff {trip : TripSpec} {pois : List PlanningPOI}
    (hids : (pois.map fun poi => poi.facts.id).Nodup) (replanRound : ℕ) :
    SoundDrafts trip pois replanRound (prepareCandidateDrafts trip pois replanRound) ↔
      ∀ style,
        (pois.filter (isRequiredPoi trip)).length ≤ placeCount trip pois replanRound style →
          (pois.filter (isRequiredPoi trip)).length +
              (outrankers (heuristicRank trip replanRound) (isRequiredPoi trip) pois).length ≤
            placeCount trip pois replanRound style := by
  constructor
  · intro hsound style
    have hmem : prepareDraft trip pois replanRound style ∈
        prepareCandidateDrafts trip pois replanRound :=
      List.mem_map_of_mem (by cases style <;> decide)
    exact (hasRequired_iff hids).mp (hsound.required _ hmem)
  · intro hroom
    refine ⟨rfl, fun draft hdraft => ?_, fun draft hdraft => ?_⟩
    · obtain ⟨style, -, rfl⟩ := List.mem_map.mp hdraft
      exact wellFormedDraft_prepareDraft hids
    · obtain ⟨style, -, rfl⟩ := List.mem_map.mp hdraft
      exact (hasRequired_iff hids).mpr (hroom style)

omit [Platform] in
/-- In the first round every style keeps the required place. -/
theorem soundDrafts_iff_pois :
    (Sample.pois.map fun poi => poi.facts.id).Nodup ∧
      @SoundDrafts plainPlatform { Sample.trip with mustVisit := ["b"] } Sample.pois 0
        (@prepareCandidateDrafts plainPlatform { Sample.trip with mustVisit := ["b"] }
          Sample.pois 0) := by
  let := plainPlatform
  have hids : (Sample.pois.map fun poi => poi.facts.id).Nodup := by decide
  refine ⟨hids, (soundDrafts_iff hids 0).mpr fun style => ?_⟩
  cases style <;> decide +kernel

/-! ## A required place that is too expensive to keep -/

namespace Sample

/-- Three places, the first one for 20 000 yuan. -/
def expensivePois : List PlanningPOI :=
  [{ poi "a" 1 60 with partyCost := some 20000 }, poi "b" 2 60, poi "c" 3 60]

end Sample

omit [Platform] in
/-- In the second round the relaxed draft has room for two places and drops the only required
one. -/
theorem exists_not_soundDrafts :
    (Sample.expensivePois.map fun poi => poi.facts.id).Nodup ∧
      ¬@SoundDrafts plainPlatform { Sample.trip with mustVisit := ["a"] } Sample.expensivePois 1
        (@prepareCandidateDrafts plainPlatform { Sample.trip with mustVisit := ["a"] }
          Sample.expensivePois 1) := by
  let := plainPlatform
  refine ⟨by decide, fun hsound => ?_⟩
  have hrequired := hsound.required _ List.mem_cons_self (by decide +kernel)
    { Sample.poi "a" 1 60 with partyCost := some 20000 } List.mem_cons_self (by decide +kernel)
  revert hrequired
  decide +kernel

end TravelPlanAgent
