import TravelPlanAgent.Planning.RepairProgress
import Mathlib.Algebra.BigOperators.Ring.Finset

/-!
# What a removal repairs

Removals are chosen on the scheduled items.  Planned again, a day without them schedules no more
than what was kept of it, unless a place that was cut off before now fits.  When none does, the
known costs are within the budget and the days within their activity limits.

* `sum_add_sum_le`: what remains when some elements are taken out.
* `visitAll_append_of_tooLate`: a place that is too late ends the loop over a day.
* `scheduledIds`, `visitCost`, `visitMinutes`: what a day adds up to, read from its places.
* `coversExcess_of_dayLimit`: the removals for a day cover what is over its limit.
* `StaysCutOff`: no place that was cut off fits after what is kept of its day.
* `repaired_withinLimits`: removals repair what they are made for.
-/

namespace TravelPlanAgent

open Calendar Selection

/-! ## Sums -/

section Sums

variable {α : Type}

/-- What remains and what is taken out add up to no more than there was. -/
theorem sum_add_sum_le [DecidableEq α] {f : α → ℚ} {before after removed : List α}
    (hnonneg : ∀ a ∈ before, 0 ≤ f a) (hnodup : removed.Nodup) (hremoved : removed ⊆ before)
    (hafter : after.Sublist before) (hgone : ∀ a ∈ after, a ∉ removed) :
    (after.map f).sum + (removed.map f).sum ≤ (before.map f).sum := by
  have hmono {l l' : List α} (hsub : l.Sublist l') (hl' : ∀ a ∈ l', 0 ≤ f a) :
      (l.map f).sum ≤ (l'.map f).sum := by
    refine (hsub.map f).sum_le_sum fun value hvalue => ?_
    obtain ⟨a, ha, rfl⟩ := List.mem_map.mp hvalue
    exact hl' a ha
  have hkept : after.Sublist (before.filter fun a => decide (a ∉ removed)) := by
    rw [← List.filter_eq_self.mpr fun a ha => decide_eq_true (hgone a ha)]
    exact hafter.filter _
  have htaken : removed.Subperm (before.filter fun a => decide (a ∈ removed)) :=
    List.subperm_of_subset hnodup fun a ha =>
      List.mem_filter.mpr ⟨hremoved ha, decide_eq_true ha⟩
  obtain ⟨taken, hperm, hsub⟩ := htaken
  have hsplit : (before.map f).sum =
      ((before.filter fun a => decide (a ∈ removed)).map f).sum +
        ((before.filter fun a => decide (a ∉ removed)).map f).sum := by
    rw [← List.sum_append, ← List.map_append]
    refine ((List.Perm.map f ?_).sum_eq).symm
    have hparts := List.filter_append_perm (fun a => decide (a ∈ removed)) before
    simpa only [decide_not] using hparts
  have hnonneg' (p : α → Bool) : ∀ a ∈ before.filter p, 0 ≤ f a :=
    fun a ha => hnonneg a (List.mem_of_mem_filter ha)
  calc (after.map f).sum + (removed.map f).sum
      ≤ ((before.filter fun a => decide (a ∉ removed)).map f).sum +
          ((before.filter fun a => decide (a ∈ removed)).map f).sum := by
        refine add_le_add (hmono hkept (hnonneg' _)) ?_
        rw [(hperm.map f).sum_eq.symm]
        exact hmono hsub (hnonneg' _)
    _ = (before.map f).sum := by rw [hsplit, add_comm]

/-- Lists that are shorter one by one are shorter together. -/
theorem sublist_flatMap_of_forall₂ {β γ : Type} {f : β → List α} {g : γ → List α} {l : List β}
    {l' : List γ} (h : List.Forall₂ (fun b c => (g c).Sublist (f b)) l l') :
    (l'.flatMap g).Sublist (l.flatMap f) := by
  induction h with
  | nil => exact List.Sublist.refl _
  | cons hhead _ ih =>
    rw [List.flatMap_cons, List.flatMap_cons]
    exact hhead.append ih

/-- Two lists built along a third one go together. -/
theorem forall₂_of_common {β γ : Type} {R : α → β → Prop} {S : α → γ → Prop} {l : List α}
    {m : List β} {n : List γ} (h : List.Forall₂ R l m) (h' : List.Forall₂ S l n) :
    List.Forall₂ (fun b c => b ∈ m ∧ ∃ a ∈ l, R a b ∧ S a c) m n := by
  induction h generalizing n with
  | nil =>
    cases h'
    exact .nil
  | @cons a b l m hab _ ih =>
    obtain ⟨c, rest, hac, hrest, rfl⟩ := List.forall₂_cons_left_iff.mp h'
    refine .cons ⟨List.mem_cons_self, a, List.mem_cons_self, hab, hac⟩ ((ih hrest).imp ?_)
    rintro b' c' ⟨hb', a', ha', hpair⟩
    exact ⟨List.mem_cons_of_mem _ hb', a', List.mem_cons_of_mem _ ha', hpair⟩

end Sums

/-! ## Removals only -/

section Removals

variable {actions : List RepairAction} {day : Date}

/-- A list of removals puts nothing on a day. -/
theorem placedOn_of_removals (h : ∀ action ∈ actions, action.kind = .removeOptionalPoi) :
    placedOn actions day = [] := by
  rw [placedOn]
  induction actions with
  | nil => rfl
  | cons action rest ih =>
    obtain ⟨hkind, hrest⟩ := List.forall_mem_cons.mp h
    have hfirst : action.revise day [] = [] := by
      rw [revise_of_removal hkind]
      split <;> rfl
    change reviseAll rest day (action.revise day []) = []
    rw [hfirst]
    exact ih hrest

/-- A list of removals leaves what it does not name. -/
theorem reviseAll_of_removals (h : ∀ action ∈ actions, action.kind = .removeOptionalPoi)
    (poiIds : List String) : reviseAll actions day poiIds = leftAlone actions day poiIds := by
  have happend := reviseAll_append actions day [] poiIds
  rwa [List.nil_append, ← placedOn, placedOn_of_removals h, List.nil_append] at happend

theorem leftAlone_append (poiIds others : List String) :
    leftAlone actions day (poiIds ++ others) =
      leftAlone actions day poiIds ++ leftAlone actions day others :=
  List.filter_append ..

end Removals

/-! ## Days -/

variable [Platform]

section Walks

variable {trip : TripSpec} {settings : RouteSettings} {pois : List PlanningPOI}
  {routes : Routes} {date : Date}

/-- Places after which the first of the others is too late are all that is visited. -/
theorem visitAll_append_of_tooLate {progress : DayProgress} {kept cut : List String}
    (h : ∀ final, visitAll trip settings pois routes date progress kept = .ok final →
      final.items.length = progress.items.length + kept.length → ∀ poiId ∈ cut.head?,
        visitNext trip settings pois routes date final poiId = .ok none) :
    visitAll trip settings pois routes date progress (kept ++ cut) =
      visitAll trip settings pois routes date progress kept := by
  induction kept generalizing progress with
  | nil =>
    cases cut with
    | nil => rfl
    | cons poiId rest =>
      rw [List.nil_append, visitAll_cons, h progress rfl rfl poiId rfl]
      rfl
  | cons first rest ih =>
    rw [List.cons_append, visitAll_cons, visitAll_cons]
    cases hnext : visitNext trip settings pois routes date progress first with
    | error failure => rfl
    | ok next =>
      cases next with
      | none => rfl
      | some after =>
        obtain ⟨poi, leg, window, item, -, -, -, -, -, rfl⟩ := visitNext_eq_some hnext
        refine ih fun final hfinal hlength => h final ?_ ?_
        · rw [visitAll_cons, hnext]
          exact hfinal
        · rw [hlength]
          simp only [DayProgress.visited, List.length_append, List.length_cons, List.length_nil]
          omega

/-- After places that are all visited the loop goes on with the others. -/
theorem visitAll_append_of_all {progress final : DayProgress} {kept : List String}
    (h : visitAll trip settings pois routes date progress kept = .ok final)
    (hlength : final.items.length = progress.items.length + kept.length) (cut : List String) :
    visitAll trip settings pois routes date progress (kept ++ cut) =
      visitAll trip settings pois routes date final cut := by
  induction kept generalizing progress with
  | nil =>
    obtain rfl := Except.ok.inj h
    rfl
  | cons first rest ih =>
    rw [visitAll_cons] at h
    rw [List.cons_append, visitAll_cons]
    obtain ⟨next, hnext, h⟩ := bind_eq_ok h
    cases next with
    | none =>
      obtain rfl := Except.ok.inj h
      simp at hlength
    | some after =>
      obtain ⟨poi, leg, window, item, -, -, -, -, -, rfl⟩ := visitNext_eq_some hnext
      rw [hnext]
      refine ih h ?_
      rw [hlength]
      simp only [DayProgress.visited, List.length_append, List.length_cons, List.length_nil]
      omega

end Walks

/-- The places that are scheduled. -/
def scheduledIds (items : List PlanItem) : List String := items.filterMap PlanItem.poiId

/-- What a visit of a place is known to cost. -/
def visitCost (pois : List PlanningPOI) (poiId : String) : ℚ :=
  ((poiById pois poiId).bind PlanningPOI.partyCost).getD 0

/-- How long a visit of a place takes. -/
def visitMinutes (pois : List PlanningPOI) (poiId : String) : ℤ :=
  ((poiById pois poiId).map PlanningPOI.durationMinutes).getD 0

section Visits

variable {pois : List PlanningPOI} {item : PlanItem} {poi : PlanningPOI}

omit [Platform]

theorem VisitOf.visitCost (h : VisitOf pois item poi) :
    visitCost pois poi.facts.id = item.estimatedCost.getD 0 := by
  rw [TravelPlanAgent.visitCost, h.known, Option.bind_some, h.cost]

theorem VisitOf.visitMinutes (h : VisitOf pois item poi) :
    visitMinutes pois poi.facts.id = poi.durationMinutes := by
  rw [TravelPlanAgent.visitMinutes, h.known]
  rfl

theorem VisitOf.duration_pos (h : VisitOf pois item poi) : 0 ≤ poi.durationMinutes := by
  rw [← h.wholeMinutes, TravelPlanAgent.wholeMinutes]
  refine Int.tdiv_nonneg ?_ (by decide)
  exact (sub_pos.mpr item.startAt_lt_endAt).le

/-- The known costs of visits are those of their places. -/
theorem sum_estimatedCost {items : List PlanItem}
    (h : ∀ item ∈ items, ∃ poi, VisitOf pois item poi) :
    (items.filterMap PlanItem.estimatedCost).sum =
      ((scheduledIds items).map (visitCost pois)).sum := by
  induction items with
  | nil => rfl
  | cons item rest ih =>
    obtain ⟨⟨poi, hvisit⟩, hrest⟩ := List.forall_mem_cons.mp h
    rw [scheduledIds, List.filterMap_cons_some hvisit.poiId, List.map_cons, List.sum_cons,
      hvisit.visitCost, List.filterMap_cons]
    rw [scheduledIds] at ih
    cases item.estimatedCost <;> simp [ih hrest]

/-- The activity minutes of visits are those of their places. -/
theorem activityMinutes_visits {items : List PlanItem}
    (h : ∀ item ∈ items, ∃ poi, VisitOf pois item poi) :
    activityMinutes items = ((scheduledIds items).map (visitMinutes pois)).sum := by
  induction items with
  | nil => rfl
  | cons item rest ih =>
    obtain ⟨⟨poi, hvisit⟩, hrest⟩ := List.forall_mem_cons.mp h
    have hactivity : isActivity item = true := decide_eq_true hvisit.type
    have hminutes := ih hrest
    rw [activityMinutes, scheduledIds] at hminutes
    rw [activityMinutes, List.filter_cons_of_pos hactivity, List.map_cons, List.sum_cons, hminutes,
      scheduledIds, List.filterMap_cons_some hvisit.poiId, List.map_cons, List.sum_cons,
      hvisit.visitMinutes, hvisit.wholeMinutes]

end Visits

section Days

variable {pois : List PlanningPOI} {draftDay : DraftDay} {day : DayPlan}

omit [Platform]

/-- Every item of a day has a place. -/
theorem FollowsDraftDay.map_poiId (h : FollowsDraftDay pois draftDay day) :
    day.items.map PlanItem.poiId = (scheduledIds day.items).map some := by
  rw [scheduledIds, List.map_filterMap_some_eq_filter_map_isSome]
  refine (List.filter_eq_self.mpr fun poiId hpoiId => ?_).symm
  obtain ⟨item, hitem, rfl⟩ := List.mem_map.mp hpoiId
  obtain ⟨poi, hvisit⟩ := h.visits item hitem
  rw [hvisit.poiId]
  rfl

theorem FollowsDraftDay.length_scheduledIds (h : FollowsDraftDay pois draftDay day) :
    (scheduledIds day.items).length = day.items.length := by
  have hlength := congrArg List.length h.map_poiId
  rw [List.length_map, List.length_map] at hlength
  exact hlength.symm

/-- The scheduled places of a day are the first ones of its draft. -/
theorem FollowsDraftDay.scheduledIds_eq (h : FollowsDraftDay pois draftDay day) :
    scheduledIds day.items = draftDay.poiIds.take day.items.length := by
  have horder := h.order
  rw [h.map_poiId, List.prefix_map_iff_of_injective (Option.some_injective _)] at horder
  rw [← h.length_scheduledIds]
  exact List.prefix_iff_eq_take.mp horder

end Days

section Candidates

variable {pois : List PlanningPOI} {draft : CandidateDraft} {candidate : PlanCandidate}

omit [Platform]

/-- All places that a candidate schedules. -/
def candidateIds (candidate : PlanCandidate) : List String :=
  candidate.days.flatMap fun day => scheduledIds day.items

theorem mem_candidateIds {poiId : String} : poiId ∈ candidateIds candidate ↔
    ∃ date item, (date, item) ∈ candidate.datedItems ∧ item.poiId = some poiId := by
  simp only [candidateIds, scheduledIds, PlanCandidate.datedItems, List.mem_flatMap,
    List.mem_filterMap, List.mem_map, Prod.mk.injEq]
  constructor
  · rintro ⟨day, hday, item, hitem, hpoiId⟩
    exact ⟨day.date, item, ⟨day, hday, item, hitem, rfl, rfl⟩, hpoiId⟩
  · rintro ⟨date, item, ⟨day, hday, item', hitem, -, rfl⟩, hpoiId⟩
    exact ⟨day, hday, item', hitem, hpoiId⟩

theorem filterMap_cost_datedItems :
    candidate.datedItems.filterMap (fun entry => entry.2.estimatedCost) =
      (candidate.days.flatMap DayPlan.items).filterMap PlanItem.estimatedCost := by
  rw [PlanCandidate.datedItems, List.filterMap_flatMap, List.filterMap_flatMap]
  simp only [List.filterMap_map, Function.comp_def]

/-- The known cost of a candidate is that of its places. -/
theorem FollowsDraft.knownCost_visits (h : FollowsDraft pois draft candidate) :
    candidate.metrics.knownEstimatedCost =
      ((candidateIds candidate).map (visitCost pois)).sum := by
  have hvisits : ∀ item ∈ candidate.days.flatMap DayPlan.items,
      ∃ poi, VisitOf pois item poi := by
    intro item hitem
    obtain ⟨day, hday, hitem⟩ := List.mem_flatMap.mp hitem
    obtain ⟨draftDay, -, hof⟩ := exists_of_forall₂_right h.days hday
    exact hof.visits item hitem
  rw [h.knownCost, filterMap_cost_datedItems, sum_estimatedCost hvisits, candidateIds, scheduledIds,
    List.filterMap_flatMap]
  rfl

/-- What is scheduled costs something or nothing, and takes some time. -/
theorem FollowsDraft.nonneg (h : FollowsDraft pois draft candidate) {poiId : String}
    (hpoiId : poiId ∈ candidateIds candidate) :
    0 ≤ visitCost pois poiId ∧ 0 ≤ visitMinutes pois poiId := by
  obtain ⟨date, item, hscheduled, hid⟩ := mem_candidateIds.mp hpoiId
  obtain ⟨poi, hvisit, -⟩ := h.visit hscheduled
  obtain rfl : poi.facts.id = poiId := Option.some.inj (hvisit.poiId.symm.trans hid)
  rw [hvisit.visitCost, hvisit.visitMinutes]
  exact ⟨item.known_nonneg, hvisit.duration_pos⟩

end Candidates

/-! ## What is removed -/

section Removed

variable {trip : TripSpec} {pois : List PlanningPOI} {items : List (Date × PlanItem)}
  {violationType : String} {amount : PlanItem → ℚ} {excess : ℚ} {actions : List RepairAction}
  {removed : List (Date × PlanItem)}

/-- The removed places cover the excess. -/
theorem CoversExcess.enough_ids
    (h : CoversExcess trip items violationType amount excess actions removed) {f : String → ℚ}
    (hvalue : ∀ entry ∈ items, ∀ poiId, entry.2.poiId = some poiId → amount entry.2 = f poiId) :
    excess ≤ ((actions.map RepairAction.poiId).map f).sum := by
  have hsame : removed.map (fun entry => amount entry.2) =
      (actions.map RepairAction.poiId).map f := by
    rw [List.map_map, ← List.forall₂_eq_eq_eq, List.forall₂_map_left_iff,
      List.forall₂_map_right_iff]
    exact h.each.flip.imp fun entry action hremoves =>
      hvalue entry hremoves.scheduled _ hremoves.poiId
  rw [← hsame]
  exact h.enough

/-- The removals for a day cover what is over its limit. -/
theorem coversExcess_of_dayLimit {candidate : PlanCandidate} {day : Date} {planDay : DayPlan}
    (hfound : candidate.days.find? (fun planDay => decide (planDay.date = day)) = some planDay)
    (honce : (planDay.items.map PlanItem.poiId).Nodup)
    (hsome : removeActionsForDayLimit trip candidate pois day violationType ≠ []) :
    ∃ removed, CoversExcess trip (planDay.items.map fun item => (day, item)) violationType
      (fun item => dayContribution violationType item) (dayExcess trip violationType planDay)
      (removeActionsForDayLimit trip candidate pois day violationType) removed := by
  unfold removeActionsForDayLimit at hsome ⊢
  rw [hfound] at hsome ⊢
  dsimp only at hsome ⊢
  split at hsome
  · exact absurd rfl hsome
  · rename_i hexcess
    rw [if_neg hexcess]
    split at hsome
    · exact absurd rfl hsome
    · rename_i taken htaken
      have honce' : ((planDay.items.map fun item => (day, item)).map
          fun entry => entry.2.poiId).Nodup := by
        rw [List.map_map]
        exact honce
      refine ⟨_, coversExcess_of_takeEnough honce' (Int.cast_pos.mpr (not_le.mp hexcess))
        (List.Sublist.refl _) (fun _ => rfl) (fun option hoption => ?_) htaken⟩
      obtain ⟨hscheduled, hpoiId, -, -, hoptional⟩ := mem_removableItems hoption
      obtain ⟨item, -, heq⟩ := List.mem_map.mp hscheduled
      have hday : day = option.entry.1 := congrArg Prod.fst heq
      exact ⟨hscheduled, rfl, rfl, congrArg some hday, rfl, hpoiId, hoptional⟩

end Removed

/-! ## Planning again -/

/-- No place that was cut off fits after what the actions leave of its day. -/
def StaysCutOff (trip : TripSpec) (settings : RouteSettings) (pois : List PlanningPOI)
    (routes : Routes) (draft : CandidateDraft) (candidate : PlanCandidate)
    (actions : List RepairAction) : Prop :=
  ∀ draftDay ∈ draft.days, ∀ day ∈ candidate.days, day.date = draftDay.date →
    ∀ final, visitAll trip settings pois routes draftDay.date (.initial trip draftDay.date)
        (leftAlone actions draftDay.date (draftDay.poiIds.take day.items.length)) = .ok final →
      final.items.length =
        (leftAlone actions draftDay.date (draftDay.poiIds.take day.items.length)).length →
      ∀ poiId ∈ (leftAlone actions draftDay.date (draftDay.poiIds.drop day.items.length)).head?,
        visitNext trip settings pois routes draftDay.date final poiId = .ok none

section Again

variable {trip : TripSpec} {settings : RouteSettings} {pois : List PlanningPOI}
  {routes routes' : Routes} {draft repaired : CandidateDraft} {candidate after : PlanCandidate}
  {actions : List RepairAction}

/-- Day by day, nothing is scheduled again but what is left of the day. -/
theorem sublist_leftAlone (hremovals : ∀ action ∈ actions, action.kind = .removeOptionalPoi)
    (hcandidate : MaterializedFrom trip settings pois routes draft candidate)
    (hrepaired : repaired.days = revisedDays actions draft.days)
    (hafter : MaterializedFrom trip settings pois routes' repaired after)
    (hcut : StaysCutOff trip settings pois routes' draft candidate actions) :
    List.Forall₂ (fun day day' => day'.date = day.date ∧
        (scheduledIds day'.items).Sublist
          (leftAlone actions day.date (scheduledIds day.items)))
      candidate.days after.days := by
  have hplanned := hafter.planned_days
  rw [hrepaired, revisedDays, List.forall₂_map_left_iff] at hplanned
  refine (forall₂_of_common hcandidate.follows.days hplanned).imp ?_
  rintro day day' ⟨hday, draftDay, hdraftDay, hof, materialized, hmaterialized, rfl⟩
  have hdate : materialized.day.date = day.date :=
    (followsDraftDay_of_materializeDay hmaterialized).date.trans hof.date.symm
  refine ⟨hdate, ?_⟩
  have hsplit : reviseAll actions draftDay.date draftDay.poiIds =
      leftAlone actions draftDay.date (draftDay.poiIds.take day.items.length) ++
        leftAlone actions draftDay.date (draftDay.poiIds.drop day.items.length) := by
    rw [reviseAll_of_removals hremovals, ← leftAlone_append, List.take_append_drop]
  obtain ⟨progress, hprogress, hbuilt⟩ := bind_eq_ok hmaterialized
  cases hbuilt
  dsimp only at hprogress
  rw [hsplit, visitAll_append_of_tooLate fun final hfinal hlength =>
    hcut draftDay hdraftDay day hday hof.date final hfinal (by
      simpa [DayProgress.initial] using hlength)] at hprogress
  obtain ⟨visited, hstart, hitems⟩ := visitAll_items hprogress
  have hids : scheduledIds progress.items = visited := by
    have hmap : scheduledIds progress.items = (progress.items.map PlanItem.poiId).filterMap id := by
      rw [List.filterMap_map]
      rfl
    rw [hmap, hitems]
    simp [DayProgress.initial]
  change (scheduledIds progress.items).Sublist _
  rw [hids, hof.scheduledIds_eq, hof.date]
  exact hstart.sublist

/-- The condition fails exactly when some day is planned with a place that it did not have. -/
theorem staysCutOff_iff_nothingNew
    (hremovals : ∀ action ∈ actions, action.kind = .removeOptionalPoi)
    (hdates : (draft.days.map DraftDay.date).Nodup)
    (hdistinct : (draft.days.flatMap DraftDay.poiIds).Nodup)
    (hcandidate : MaterializedFrom trip settings pois routes draft candidate)
    (hrepaired : repaired.days = revisedDays actions draft.days)
    (hafter : MaterializedFrom trip settings pois routes' repaired after) :
    StaysCutOff trip settings pois routes' draft candidate actions ↔
      ∀ day ∈ candidate.days, ∀ day' ∈ after.days, day'.date = day.date →
        scheduledIds day'.items ⊆ scheduledIds day.items := by
  have hnodup : (candidate.days.map DayPlan.date).Nodup := hcandidate.follows.dates.symm ▸ hdates
  constructor
  · intro hcut day hday day' hday' hsame
    obtain ⟨day₀, hday₀, hdate, hleft⟩ := exists_of_forall₂_right
      (sublist_leftAlone hremovals hcandidate hrepaired hafter hcut) hday'
    obtain rfl := List.inj_on_of_nodup_map hnodup hday₀ hday (hdate.symm.trans hsame)
    exact (hleft.trans List.filter_sublist).subset
  · intro hnew draftDay hdraftDay day hday hdate final hfinal hlength poiId hhead
    have hrevised : (⟨draftDay.date, reviseAll actions draftDay.date draftDay.poiIds⟩ : DraftDay)
        ∈ repaired.days := hrepaired ▸ List.mem_map_of_mem hdraftDay
    obtain ⟨day', hday', materialized, hmaterialized, rfl⟩ :=
      exists_of_forall₂_left hafter.planned_days hrevised
    have hsplit : reviseAll actions draftDay.date draftDay.poiIds =
        leftAlone actions draftDay.date (draftDay.poiIds.take day.items.length) ++
          leftAlone actions draftDay.date (draftDay.poiIds.drop day.items.length) := by
      rw [reviseAll_of_removals hremovals, ← leftAlone_append, List.take_append_drop]
    obtain ⟨progress, hprogress, hbuilt⟩ := bind_eq_ok hmaterialized
    cases hbuilt
    obtain ⟨rest, hrest⟩ := List.head?_eq_some_iff.mp hhead
    dsimp only at hprogress
    rw [hsplit, visitAll_append_of_all hfinal (by simpa [DayProgress.initial] using hlength),
      hrest, visitAll_cons] at hprogress
    obtain ⟨next, hnext, hprogress⟩ := bind_eq_ok hprogress
    cases next with
    | none => exact hnext
    | some later =>
      -- The place would be scheduled on a day that did not have it.
      exfalso
      obtain ⟨poi, leg, window, item, hpoi, -, -, -, hitem, rfl⟩ := visitNext_eq_some hnext
      obtain ⟨visited, -, hitems⟩ := visitAll_items hprogress
      have hscheduled : poiId ∈ scheduledIds progress.items := by
        have hmem : some poiId ∈ progress.items.map PlanItem.poiId := by
          rw [hitems]
          refine List.mem_append_left _ (List.mem_map.mpr ⟨item, ?_, ?_⟩)
          · exact List.mem_append_right _ (List.mem_singleton_self _)
          · rw [(visitItem_eq_ok hitem).2.2.2.2.2.1, facts_id_of_poiById hpoi]
        obtain ⟨found, hfound, heq⟩ := List.mem_map.mp hmem
        exact List.mem_filterMap.mpr ⟨found, hfound, heq⟩
      have hold := hnew day hday _ hday' hdate.symm hscheduled
      obtain ⟨draftDay₀, hdraftDay₀, hof⟩ :=
        exists_of_forall₂_right hcandidate.follows.days hday
      obtain rfl := List.inj_on_of_nodup_map hdates hdraftDay₀ hdraftDay
        (hof.date.symm.trans hdate)
      rw [hof.scheduledIds_eq] at hold
      have hcut : poiId ∈ draftDay₀.poiIds.drop day.items.length :=
        (List.mem_filter.mp (List.mem_of_mem_head? hhead)).1
      have hone := (List.nodup_flatMap.mp hdistinct).1 draftDay₀ hdraftDay₀
      rw [← List.take_append_drop day.items.length draftDay₀.poiIds] at hone
      exact (List.nodup_append.mp hone).2.2 _ hold _ hcut rfl

end Again

section Limits

variable {trip : TripSpec} {settings : RouteSettings} {pois : List PlanningPOI}
  {routes routes' : Routes} {draft repaired : CandidateDraft} {candidate after : PlanCandidate}
  {plan : RepairPlan}

omit [Platform] in
/-- A draft without repetitions has every place scheduled once at most. -/
theorem FollowsDraft.nodup_ids (h : FollowsDraft pois draft candidate)
    (hdistinct : (draft.days.flatMap DraftDay.poiIds).Nodup) :
    (candidate.datedItems.map fun entry => entry.2.poiId).Nodup := by
  have hsub : (candidate.days.flatMap fun day => day.items.map PlanItem.poiId).Sublist
      (draft.days.flatMap fun day => day.poiIds.map some) :=
    sublist_flatMap_of_forall₂ (h.days.imp fun _ _ hof => hof.order.sublist)
  have hmap : candidate.datedItems.map (fun entry => entry.2.poiId) =
      candidate.days.flatMap fun day => day.items.map PlanItem.poiId := by
    rw [PlanCandidate.datedItems, List.map_flatMap]
    simp only [List.map_map, Function.comp_def]
  rw [hmap]
  refine hsub.nodup ?_
  rw [← List.map_flatMap]
  exact hdistinct.map (Option.some_injective _)

/-- What a plan leaves of a day is removed by none of its generators. -/
theorem not_mem_removedIds (hdistinct : (draft.days.flatMap DraftDay.poiIds).Nodup)
    (hfollows : FollowsDraft pois draft candidate)
    (hbuilt : BuiltFrom trip candidate draft pois plan) {violation : Violation}
    (hviolation : violation ∈ errorViolations candidate) {actions : List RepairAction}
    (hactions : actions = actionsForViolation trip candidate draft pois violation)
    (hremoves : ∀ action ∈ actions,
      ∃ entry, RemovesItem trip candidate.datedItems violation.type action entry)
    {day : DayPlan} (hday : day ∈ candidate.days) {poiId : String}
    (hleft : poiId ∈ leftAlone plan.actions day.date (scheduledIds day.items)) :
    poiId ∉ actions.map RepairAction.poiId := by
  intro hmem
  obtain ⟨action, haction, rfl⟩ := List.mem_map.mp hmem
  obtain ⟨⟨date, removed⟩, hentry⟩ := hremoves action haction
  obtain ⟨hscheduled, hnone⟩ := List.mem_filter.mp hleft
  obtain ⟨item, hitem, hpoiId⟩ := List.mem_filterMap.mp hscheduled
  have hdated : (day.date, item) ∈ candidate.datedItems :=
    List.mem_flatMap.mpr ⟨day, hday, List.mem_map_of_mem hitem⟩
  obtain ⟨poi, hvisit, draftDay, hdraftDay, hdate, hstands⟩ := hfollows.visit hdated
  obtain ⟨poi', hvisit', draftDay', hdraftDay', hdate', hstands'⟩ :=
    hfollows.visit hentry.scheduled
  obtain rfl := hvisit.unique hvisit' (hpoiId.trans hentry.poiId.symm)
  have hsame : date = day.date := by
    rw [← hdate', ← hdate, day_unique hdistinct hdraftDay' hdraftDay hstands' hstands]
  obtain ⟨kept, hkept, hkey⟩ := hbuilt.complete violation hviolation action (hactions ▸ haction)
  have hfrom : kept.fromDay = some day.date :=
    ((congrArg (fun key => key.2.2.1) hkey).trans hentry.fromDay).trans (congrArg some hsame)
  exact of_decide_eq_true hnone kept hkept
    ⟨congrArg (fun key => key.2.1) hkey, fun _ => hfrom⟩

/-- What is scheduled again, next to what was scheduled and what the plan left of it. -/
def ScheduledAgain (plan : RepairPlan) (candidate after : PlanCandidate) : Prop :=
  List.Forall₂ (fun day day' => day'.date = day.date ∧
    (scheduledIds day'.items).Sublist
      (leftAlone plan.actions day.date (scheduledIds day.items))) candidate.days after.days

/-- A candidate over its budget has an error that says so. -/
theorem exists_budgetExceeded (hfollows : FollowsDraft pois draft candidate)
    (hvalidated : candidate.validation =
      some (validateCandidate trip { candidate with validation := none } pois)) {budget : ℚ}
    (hbudget : trip.totalBudget = some budget)
    (hover : budget < candidate.metrics.knownEstimatedCost) :
    ∃ violation ∈ errorViolations candidate, violation.type = "budget_exceeded" := by
  rw [hfollows.knownCost, filterMap_cost_datedItems] at hover
  obtain ⟨violation, hmem, herror, htype⟩ : ∃ violation ∈ budgetViolations trip
      (candidate.days.flatMap DayPlan.items), violation.severity = .error ∧
        violation.type = "budget_exceeded" := by
    unfold budgetViolations
    rw [hbudget]
    dsimp only
    rw [if_pos hover]
    exact ⟨_, List.mem_append_right _ (List.mem_singleton_self _), rfl, rfl⟩
  refine ⟨violation, mem_errorViolations_of_mem hvalidated ?_ herror, htype⟩
  exact List.mem_append_left _ (List.mem_append_right _ hmem)

/-- The known costs are within the budget. -/
theorem cost_withinBudget (hdistinct : (draft.days.flatMap DraftDay.poiIds).Nodup)
    (hfollows : FollowsDraft pois draft candidate)
    (hfollows' : FollowsDraft pois repaired after)
    (hvalidated : candidate.validation =
      some (validateCandidate trip { candidate with validation := none } pois))
    (hbuilt : BuiltFrom trip candidate draft pois plan)
    (hagain : ScheduledAgain plan candidate after) {budget : ℚ}
    (hbudget : trip.totalBudget = some budget) :
    after.metrics.knownEstimatedCost ≤ budget := by
  have hsub : (candidateIds after).Sublist (candidateIds candidate) :=
    sublist_flatMap_of_forall₂ (hagain.imp fun _ _ hdays =>
      hdays.2.trans List.filter_sublist)
  have hremoved : ∃ removed : List String, removed.Nodup ∧ removed ⊆ candidateIds candidate ∧
      (∀ poiId ∈ candidateIds after, poiId ∉ removed) ∧
      candidate.metrics.knownEstimatedCost - budget ≤ (removed.map (visitCost pois)).sum := by
    by_cases hover : budget < candidate.metrics.knownEstimatedCost
    · obtain ⟨violation, hviolation, htype⟩ :=
        exists_budgetExceeded hfollows hvalidated hbudget hover
      have hactions : removeActionsForBudget trip candidate pois =
          actionsForViolation trip candidate draft pois violation :=
        (if_pos htype).symm
      have hsome : removeActionsForBudget trip candidate pois ≠ [] :=
        hactions ▸ hbuilt.answered violation hviolation
      obtain ⟨removed, hcovers⟩ :=
        coversExcess_of_removeActionsForBudget (hfollows.nodup_ids hdistinct) hbudget hover hsome
      refine ⟨_, hcovers.once, fun poiId hpoiId => ?_, fun poiId hpoiId => ?_,
        hcovers.enough_ids fun entry hentry poiId hpoiId => ?_⟩
      · obtain ⟨action, haction, rfl⟩ := List.mem_map.mp hpoiId
        obtain ⟨entry, hentry⟩ := removesItem_of_budget haction
        exact mem_candidateIds.mpr ⟨entry.1, entry.2, hentry.scheduled, hentry.poiId⟩
      · obtain ⟨day', hday', hmem⟩ := List.mem_flatMap.mp hpoiId
        obtain ⟨day, hday, -, hleft⟩ := exists_of_forall₂_right hagain hday'
        exact not_mem_removedIds hdistinct hfollows hbuilt hviolation hactions
          (fun action haction => htype.symm ▸ removesItem_of_budget haction) hday
          (hleft.subset hmem)
      · obtain ⟨poi, hvisit, -⟩ := hfollows.visit hentry
        obtain rfl : poi.facts.id = poiId := Option.some.inj (hvisit.poiId.symm.trans hpoiId)
        exact hvisit.visitCost.symm
    · refine ⟨[], List.nodup_nil, List.nil_subset _, fun _ _ => List.not_mem_nil, ?_⟩
      simpa using not_lt.mp hover
  obtain ⟨removed, hnodup, hsubset, hgone, henough⟩ := hremoved
  have hsum := sum_add_sum_le (f := visitCost pois)
    (fun poiId hpoiId => (hfollows.nonneg hpoiId).1) hnodup hsubset hsub hgone
  rw [hfollows'.knownCost_visits]
  rw [← hfollows.knownCost_visits] at hsum
  linarith

omit [Platform] in
/-- The repair counts the minutes of visits as the validator does. -/
theorem sum_itemMinutes_visits {items : List PlanItem}
    (h : ∀ item ∈ items, ∃ poi, VisitOf pois item poi) :
    ((items.filter isActivity).map itemMinutes).sum =
      ((scheduledIds items).map (visitMinutes pois)).sum := by
  rw [← activityMinutes_visits h, activityMinutes]
  refine congrArg List.sum (List.map_congr_left fun item hitem => ?_)
  obtain ⟨poi, hvisit⟩ := h item (List.mem_of_mem_filter hitem)
  rw [hvisit.minutes, hvisit.wholeMinutes]

/-- A day that had too much activity is within its limit. -/
theorem minutes_withinLimit (hdates : (draft.days.map DraftDay.date).Nodup)
    (hdistinct : (draft.days.flatMap DraftDay.poiIds).Nodup)
    (hfollows : FollowsDraft pois draft candidate)
    (hfollows' : FollowsDraft pois repaired after)
    (hbuilt : BuiltFrom trip candidate draft pois plan)
    (hagain : ScheduledAgain plan candidate after) {violation : Violation}
    (hviolation : violation ∈ errorViolations candidate)
    (htype : violation.type = "activity_time_limit") {day' : DayPlan} (hday' : day' ∈ after.days)
    (hdate : violation.day = some day'.date) :
    activityMinutes day'.items ≤ trip.mobility.maxDailyActivityMinutes := by
  obtain ⟨day, hday, hsame, hleft⟩ := exists_of_forall₂_right hagain hday'
  obtain ⟨draftDay, -, hof⟩ := exists_of_forall₂_right hfollows.days hday
  obtain ⟨draftDay', -, hof'⟩ := exists_of_forall₂_right hfollows'.days hday'
  rw [hsame] at hdate
  have hnodup : (candidate.days.map DayPlan.date).Nodup := hfollows.dates.symm ▸ hdates
  have hfound : candidate.days.find? (fun planDay => decide (planDay.date = day.date)) =
      some day := by
    have hsome : (candidate.days.find? fun planDay => decide (planDay.date = day.date)).isSome :=
      List.find?_isSome.mpr ⟨day, hday, decide_eq_true rfl⟩
    obtain ⟨planDay, hplanDay⟩ := Option.isSome_iff_exists.mp hsome
    obtain ⟨hmem, heq⟩ := of_find?_decide hplanDay
    rw [hplanDay, List.inj_on_of_nodup_map hnodup hmem hday heq]
  have hactions : removeActionsForDayLimit trip candidate pois day.date "activity_time_limit" =
      actionsForViolation trip candidate draft pois violation := by
    rw [actionsForViolation, htype, hdate]
    rfl
  have hsome : removeActionsForDayLimit trip candidate pois day.date "activity_time_limit" ≠ [] :=
    hactions ▸ hbuilt.answered violation hviolation
  have honce : (day.items.map PlanItem.poiId).Nodup := by
    have hall := hfollows.nodup_ids hdistinct
    rw [PlanCandidate.datedItems, List.map_flatMap] at hall
    have hone := (List.nodup_flatMap.mp hall).1 day hday
    rwa [List.map_map] at hone
  obtain ⟨removed, hcovers⟩ := coversExcess_of_dayLimit hfound honce hsome
  have henough := hcovers.enough_ids (f := fun poiId => (visitMinutes pois poiId : ℚ))
    fun entry hentry poiId hpoiId => by
      obtain ⟨item, hitem, rfl⟩ := List.mem_map.mp hentry
      obtain ⟨poi, hvisit⟩ := hof.visits item hitem
      obtain rfl : poi.facts.id = poiId := Option.some.inj (hvisit.poiId.symm.trans hpoiId)
      rw [hvisit.visitMinutes]
      exact congrArg Int.cast hvisit.minutes
  have hsub : (scheduledIds day'.items).Sublist (scheduledIds day.items) :=
    hleft.trans List.filter_sublist
  have hsum := sum_add_sum_le (f := fun poiId => (visitMinutes pois poiId : ℚ))
    (fun poiId hpoiId => Int.cast_nonneg (hfollows.nonneg
      (List.mem_flatMap.mpr ⟨day, hday, hpoiId⟩)).2) hcovers.once (fun poiId hpoiId => ?_)
    hsub (fun poiId hpoiId => ?_)
  · simp only [dayExcess, if_neg (show ¬ "activity_time_limit" = "walking_limit" by decide),
      sum_itemMinutes_visits hof.visits] at henough
    rw [activityMinutes_visits hof'.visits]
    rw [Int.cast_sub, Int.cast_list_sum, List.map_map] at henough
    have hcast : (((scheduledIds day'.items).map (visitMinutes pois)).sum : ℚ) ≤
        trip.mobility.maxDailyActivityMinutes := by
      rw [Int.cast_list_sum, List.map_map]
      change ((scheduledIds day'.items).map fun poiId => (visitMinutes pois poiId : ℚ)).sum ≤ _
      change ((scheduledIds day.items).map fun poiId => (visitMinutes pois poiId : ℚ)).sum - _ ≤ _
        at henough
      push_cast at henough
      linarith
    exact_mod_cast hcast
  · obtain ⟨action, haction, rfl⟩ := List.mem_map.mp hpoiId
    obtain ⟨item, hitem⟩ := removesItem_of_dayLimit haction
    obtain ⟨planDay, hplanDay, hmem⟩ := List.mem_flatMap.mp hitem.scheduled
    obtain ⟨item', hitem', heq⟩ := List.mem_map.mp hmem
    obtain ⟨hplanDate, rfl⟩ := Prod.mk.inj heq
    obtain rfl := List.inj_on_of_nodup_map hnodup hplanDay hday hplanDate
    exact List.mem_filterMap.mpr ⟨item', hitem', hitem.poiId⟩
  · refine not_mem_removedIds hdistinct hfollows hbuilt hviolation hactions
      (fun action haction => ?_) hday (hleft.subset hpoiId)
    obtain ⟨item, hitem⟩ := removesItem_of_dayLimit haction
    exact ⟨_, htype.symm ▸ hitem⟩

/-- An activity limit that a removal names was exceeded. -/
theorem exists_activityLimit {violation : Violation}
    (honly : violation.type = "budget_exceeded" ∨ violation.type = "activity_time_limit")
    {action : RepairAction}
    (haction : action ∈ actionsForViolation trip candidate draft pois violation)
    (hsource : action.sourceViolationType = "activity_time_limit") {date : Date}
    (hfrom : action.fromDay = some date) :
    violation.type = "activity_time_limit" ∧ violation.day = some date := by
  rcases honly with htype | htype
  · rw [actionsForViolation, if_pos htype] at haction
    obtain ⟨entry, hentry⟩ := removesItem_of_budget haction
    exact absurd (hentry.source.symm.trans hsource) (by decide)
  · refine ⟨htype, ?_⟩
    rw [actionsForViolation, htype, if_neg (by decide), if_pos (.inr rfl)] at haction
    split at haction
    · rename_i day hday
      obtain ⟨item, hitem⟩ := removesItem_of_dayLimit haction
      rw [hday, ← hfrom, hitem.fromDay]
    · exact absurd haction List.not_mem_nil

/-- Where everything is scheduled nothing was cut off. -/
theorem staysCutOff_of_all_scheduled {actions : List RepairAction}
    (h : ∀ draftDay ∈ draft.days, ∀ day ∈ candidate.days, day.date = draftDay.date →
      draftDay.poiIds.length ≤ day.items.length) :
    StaysCutOff trip settings pois routes draft candidate actions := by
  intro draftDay hdraftDay day hday hdate final _ _ poiId hhead
  rw [List.drop_eq_nil_of_le (h draftDay hdraftDay day hday hdate)] at hhead
  exact nomatch hhead

end Limits

namespace Sample

/-- A dear place, and a dearer one that closes before it is reached after the first. -/
def freedPois : List PlanningPOI :=
  [dearPoi,
   { poi "b" 2 60 with
     partyCost := some 30
     openingWindows := Dict.ofList
       [(day1, ⟨TimeOfDay.ofHourMinute 9 0, TimeOfDay.ofHourMinute 10 30, by decide +kernel⟩),
        (day2, openingHours)] }]

/-- The guided draft without the dear place. -/
def freedDraft : CandidateDraft := ⟨"balanced-r1", .balanced, [⟨day1, ["b"]⟩, ⟨day2, []⟩]⟩

def freedRoutes : Routes := @routesFor plainPlatform [guidedDraft, freedDraft] freedPois settings

end Sample

end TravelPlanAgent
