import TravelPlanAgent.Lifecycle.LockGuard

/-!
# What an edited draft lets the planner come to

The places that an edited plan schedules are bounded by the drafts before and after the edit.
A day that the edit keeps up to the place after those scheduled is scheduled as it was.  Of any
other day, the planner reaches no more than the places that fit when travelling takes no time.

* `canReach`: the places of a day of the edited draft that the planner can come to.
* `visitedPois_sublist_canReach`: it comes to no other.
* `stableIdentity_of_canReach`: when these places are identified, the edited plan has stable
  identity.
* `ReachedAsBefore`: the planner comes to the place of an item as it did for the version.
* `checkLocality_of_leavesPlacesAlone`: when the edit keeps the ids and the places of what it leaves
  alone, the guard does not fire.
-/

namespace TravelPlanAgent

open Calendar Selection

/-! ## The places that a day can reach -/

/-- The places that a candidate schedules on a date. -/
def scheduledOn (candidate : PlanCandidate) (date : Date) : List String :=
  ((dayOn candidate date).map fun day => scheduledIds day.items).getD []

/-- The places that a draft lists on a date. -/
def draftedOn (draft : CandidateDraft) (date : Date) : List String :=
  ((draft.days.find? fun day => decide (day.date = date)).map DraftDay.poiIds).getD []

/-- The places of a day of the edited draft that the planner can come to: those that the version
schedules on the date, when the day still begins with them and the place after them, and
otherwise those that fit without travel. -/
def canReach (trip : TripSpec) (pois : List PlanningPOI) (version : PlanVersion)
    (day : DraftDay) : List String :=
  let scheduled := scheduledOn version.candidate day.date
  let looked := scheduled.length + 1
  if day.poiIds.take looked = (draftedOn version.candidateDraft day.date).take looked then
    scheduled
  else fitting trip pois day.date (dayStart trip day.date) day.poiIds

section Drafted

variable {draft : CandidateDraft}

theorem draftedOn_eq (hdates : (draft.days.map DraftDay.date).Nodup) {day : DraftDay}
    (hday : day ∈ draft.days) : draftedOn draft day.date = day.poiIds := by
  rw [draftedOn, find?_key_of_nodup hdates hday]
  rfl

theorem scheduledIds_withoutIds (day : DayPlan) :
    scheduledIds day.withoutIds.items = scheduledIds day.items := by
  rw [scheduledIds, DayPlan.withoutIds, List.filterMap_map]
  rfl

end Drafted

variable [Platform]

section Days

variable {config : LifecycleConfig} {services : LifecycleServices} {sessionId requestId : String}
  {trip : TripSpec} {version : PlanVersion} {alternatives : List PlanningPOI}
  {locks : List PlanLock} {patch : EditPatch} {plan : EditedPlan}

/-- Where a day of the edited draft begins like a day of the version, it is scheduled alike. -/
theorem items_take_of_editedPlan
    (hplan : editedPlan config services sessionId requestId trip version alternatives locks patch =
      .ok plan)
    (hversion : Materialized trip config.planningPolicy.routeSettings version.candidateDraft
      version.planningPois version.routeResults version.candidate)
    {before after : DraftDay} (hbefore : before ∈ version.candidateDraft.days)
    (hafter : after ∈ plan.draft.days) (hdate : after.date = before.date) {n : ℕ}
    (hbegin : after.poiIds.take n = before.poiIds.take n) {day day' : DayPlan}
    (h : Schedules trip config.planningPolicy.routeSettings version.planningPois
      version.routeResults before day)
    (h' : Schedules trip config.planningPolicy.routeSettings plan.planningPois plan.routes after
      day') : day'.items.take n = day.items.take n := by
  obtain ⟨queries, hqueries, hpois, hroutes⟩ :=
    lookups_of_editedPlan hplan hversion hbefore hafter hbegin
  obtain ⟨materialized, hmaterialized, rfl⟩ := h
  obtain ⟨materialized', hmaterialized', rfl⟩ := h'
  exact items_take_of_materializeDay hdate hbegin hqueries hpois hroutes hmaterialized
    hmaterialized'

/-- A day of a version is scheduled from the day of its draft. -/
theorem Materialized.exists_plannedDay {settings : RouteSettings} {draft : CandidateDraft}
    {pois : List PlanningPOI} {routes : Routes} {candidate : PlanCandidate}
    (h : Materialized trip settings draft pois routes candidate) {before : DraftDay}
    (hbefore : before ∈ draft.days) :
    ∃ day ∈ candidate.days, day.date = before.date ∧
      Schedules trip settings pois routes before day.withoutIds := by
  obtain ⟨raw, hraw, hscheduled⟩ := exists_of_forall₂_left h.scheduled hbefore
  obtain ⟨day, hday, rfl⟩ := List.mem_map.mp hraw
  exact ⟨day, hday, hscheduled.date_eq, hscheduled⟩

/-- What the planner schedules on a day of the edited draft is a beginning of what it can come
to. -/
theorem scheduledIds_prefix_canReach
    (hplan : editedPlan config services sessionId requestId trip version alternatives locks patch =
      .ok plan)
    (hversion : Materialized trip config.planningPolicy.routeSettings version.candidateDraft
      version.planningPois version.routeResults version.candidate)
    {after : DraftDay} (hafter : after ∈ plan.draft.days) {day' : DayPlan}
    (h' : Schedules trip config.planningPolicy.routeSettings plan.planningPois plan.routes after
      day') :
    scheduledIds day'.items <+: canReach trip plan.planningPois version after := by
  obtain ⟨-, hedit, -⟩ := editedPlan_eq_ok hplan
  have hdate : after.date ∈ version.candidateDraft.days.map DraftDay.date :=
    dates_of_applyEditPatch hedit ▸ List.mem_map_of_mem hafter
  obtain ⟨before, hbefore, hdate⟩ := List.mem_map.mp hdate
  obtain ⟨day, hday, hof, hscheduled⟩ := hversion.exists_plannedDay hbefore
  have hon : scheduledOn version.candidate after.date = scheduledIds day.withoutIds.items := by
    rw [scheduledOn, ← hdate, ← hof, hversion.dayOn_eq hday, scheduledIds_withoutIds]
    rfl
  unfold canReach
  dsimp only
  split
  · next hbegin =>
    rw [← hdate, draftedOn_eq hversion.dates hbefore, hdate, hon] at hbegin
    obtain ⟨materialized, hmaterialized, heq⟩ := id hscheduled
    have hfollows := followsDraftDay_of_materializeDay hmaterialized
    have hlength : (scheduledIds day.withoutIds.items).length = day.withoutIds.items.length := by
      rw [heq]
      exact hfollows.length_scheduledIds
    rw [hlength] at hbegin
    rw [hon, items_eq_of_take (items_take_of_editedPlan hplan hversion hbefore hafter hdate.symm
      hbegin hscheduled h')]
  · obtain ⟨materialized, hmaterialized, rfl⟩ := h'
    exact scheduledIds_prefix_fitting hmaterialized

/-- What an edited plan schedules, day by day. -/
theorem exists_days_of_editedPlan
    (hplan : editedPlan config services sessionId requestId trip version alternatives locks patch =
      .ok plan)
    (hdates : (version.candidateDraft.days.map DraftDay.date).Nodup) :
    ∃ days, List.Forall₂ (Schedules trip config.planningPolicy.routeSettings plan.planningPois
        plan.routes) plan.draft.days days ∧
      plan.visits config trip =
        days.flatMap fun day => day.items.map fun item => (day.date, item) := by
  obtain ⟨raw, hraw, -⟩ := (materialized_of_editedPlan hplan hdates).planned
  obtain ⟨-, raw', heq, hscheduled⟩ := materializeCandidates_single hraw
  cases heq
  refine ⟨raw.days, hscheduled, ?_⟩
  rw [EditedPlan.visits, TravelPlanAgent.visits, hraw]
  rfl

omit [Platform] in
theorem flatMap_sublist_of_forall₂ {α β γ : Type} {f : α → List γ} {g : β → List γ} {l : List α}
    {m : List β} (h : List.Forall₂ (fun a b => (g b).Sublist (f a)) l m) :
    (m.flatMap g).Sublist (l.flatMap f) := by
  induction h with
  | nil => exact List.Sublist.refl _
  | cons hab _ ih =>
    rw [List.flatMap_cons, List.flatMap_cons]
    exact hab.append ih

/-- The planner comes to no place of the edited draft but those that it can come to. -/
theorem visitedPois_sublist_canReach
    (hplan : editedPlan config services sessionId requestId trip version alternatives locks patch =
      .ok plan)
    (hversion : Materialized trip config.planningPolicy.routeSettings version.candidateDraft
      version.planningPois version.routeResults version.candidate) :
    (plan.visitedPois config trip).Sublist
      (plan.draft.days.flatMap (canReach trip plan.planningPois version)) := by
  obtain ⟨days, hdays, hvisits⟩ := exists_days_of_editedPlan hplan hversion.dates
  have hpois : plan.visitedPois config trip = days.flatMap fun day => scheduledIds day.items := by
    change (plan.visits config trip).filterMap _ = _
    rw [hvisits, List.filterMap_flatMap]
    simp only [List.filterMap_map, Function.comp_def]
    rfl
  rw [hpois]
  refine flatMap_sublist_of_forall₂ (((List.forall₂_and_left _ _).mpr
    ⟨fun after hafter => hafter, hdays⟩).imp ?_)
  rintro after day ⟨hafter, hscheduled⟩
  exact (scheduledIds_prefix_canReach hplan hversion hafter hscheduled).sublist

/-! ## Stable identity -/

theorem SchedulesIdentified.mono {base : PlanCandidate} {pois : List PlanningPOI}
    {visited listed : List String} (hsublist : visited.Sublist listed)
    (h : SchedulesIdentified base patch pois listed) :
    SchedulesIdentified base patch pois visited :=
  ⟨fun poiId hpoi => h.recorded poiId (hsublist.subset hpoi), h.once.sublist hsublist,
    fun entry hentry hkept poiId hpoi => h.kept entry hentry hkept poiId (hsublist.subset hpoi)⟩

/-- An edit keeps the identity of items when every place that the edited draft can reach is
recorded or added, stands once, and is not added when it is the place of an item left alone. -/
theorem stableIdentity_of_canReach
    (hplan : editedPlan config services sessionId requestId trip version alternatives locks patch =
      .ok plan)
    (hversion : Materialized trip config.planningPolicy.routeSettings version.candidateDraft
      version.planningPois version.routeResults version.candidate)
    (hidentified : Identified version.candidate)
    (hfresh : FreshItemIds sessionId requestId version.candidate patch)
    (hplaces : SchedulesIdentified version.candidate patch plan.planningPois
      (plan.draft.days.flatMap (canReach trip plan.planningPois version))) :
    StableIdentity version.candidate plan.candidate patch :=
  (stableIdentity_iff hplan hidentified hfresh).mpr
    (hplaces.mono (visitedPois_sublist_canReach hplan hversion))

end Days

/-! ## The guard -/

/-- The planner comes to the place of an item as it did for the version: its day of the edited
draft begins as in the version up to and including the place, which stands there once, and the
days before it cannot reach the place. -/
def ReachedAsBefore (trip : TripSpec) (pois : List PlanningPOI) (version : PlanVersion)
    (edited : CandidateDraft) (entry : Date × PlanItem) : Prop :=
  ∃ day ∈ version.candidate.days, day.date = entry.1 ∧
    ∃ after ∈ edited.days, after.date = entry.1 ∧
      ∃ i < day.items.length, day.items[i]? = some entry.2 ∧
        after.poiIds.take (i + 1) =
          (draftedOn version.candidateDraft entry.1).take (i + 1) ∧
        entry.2.poiId ∉ (after.poiIds.take i).map some ∧
        ∀ other ∈ edited.days.takeWhile fun other => decide (other.date ≠ entry.1),
          entry.2.poiId ∉ (canReach trip pois version other).map some

/-- The items of the days that are not named keep their ids, and so does every locked item,
whose place the edited draft lets the planner reach as before. -/
@[mk_iff]
structure LeavesPlacesAlone (trip : TripSpec) (version : PlanVersion) (edited : CandidateDraft)
    (patch : EditPatch) (locks : List PlanLock) (pois : List PlanningPOI) : Prop where
  unnamed : ∀ entry ∈ version.candidate.datedItems, ¬ Names version.candidate patch entry.1 →
    KeepsId version.candidate patch pois entry.2
  locked : ∀ lock ∈ locks, lock.kind = .item → ∀ entry ∈ version.candidate.datedItems,
    entry.2.itemId = some lock.targetId →
      KeepsId version.candidate patch pois entry.2 ∧
        ReachedAsBefore trip pois version edited entry

omit [Platform] in
/-- The first place of a list with a property decides what a search finds. -/
theorem findSome?_of_forall₂ {α β γ : Type} {R : α → β → Prop} {p : α → Bool} {f : β → Option γ}
    {v : γ} {l : List α} {m : List β} (h : List.Forall₂ R l m) {a : α} (ha : a ∈ l)
    (hpos : p a = false) (hbefore : ∀ a ∈ l.takeWhile p, ∀ b, R a b → f b = none)
    (hat : ∀ a ∈ l, p a = false → ∀ b, R a b → f b = some v) : m.findSome? f = some v := by
  induction h with
  | nil => exact absurd ha List.not_mem_nil
  | @cons first b rest others hab _ ih =>
    cases hfirst : p first with
    | true =>
      rw [List.takeWhile_cons_of_pos hfirst] at hbefore
      obtain ⟨hnone, hbefore⟩ := List.forall_mem_cons.mp hbefore
      have hrest : a ∈ rest := (List.mem_cons.mp ha).resolve_left
        fun heq => by rw [heq, hfirst] at hpos; cases hpos
      rw [List.findSome?_cons, hnone b hab]
      exact ih hrest hbefore fun a ha => hat a (List.mem_cons_of_mem _ ha)
    | false => rw [List.findSome?_cons, hat first List.mem_cons_self hfirst b hab]

section Guarded

variable {config : LifecycleConfig} {services : LifecycleServices} {sessionId requestId : String}
  {trip : TripSpec} {version : PlanVersion} {alternatives : List PlanningPOI}
  {locks : List PlanLock} {patch : EditPatch} {plan : EditedPlan}

omit [Platform] in
/-- In a day that follows its draft, the item at a position is the first of its place, when the
place does not stand before this position. -/
theorem find?_of_followsDraftDay {pois : List PlanningPOI} {after : DraftDay} {day : DayPlan}
    (h : FollowsDraftDay pois after day) {i : ℕ} {item : PlanItem}
    (hitem : day.items[i]? = some item) {poiId : Option String} (hpoi : item.poiId = poiId)
    (hfirst : poiId ∉ (after.poiIds.take i).map some) :
    day.items.find? (fun item => decide (item.poiId = poiId)) = some item := by
  obtain ⟨hi, heq⟩ := List.getElem?_eq_some_iff.mp hitem
  refine List.find?_eq_some_iff_getElem.mpr ⟨decide_eq_true hpoi, i, hi, heq, fun j hj => ?_⟩
  rw [Bool.not_eq_true', decide_eq_false_iff_not]
  rintro rfl
  refine hfirst ?_
  have hmem : (day.items[j].poiId) ∈ (day.items.map PlanItem.poiId).take i := by
    refine List.mem_take_iff_getElem.mpr ⟨j, ?_, List.getElem_map ..⟩
    rw [List.length_map]
    omega
  rw [List.map_take]
  exact (h.order.take i).subset hmem

/-- A place that the edited draft lets the planner reach as before is visited in its place. -/
theorem visitedInPlace_of_reachedAsBefore
    (hplan : editedPlan config services sessionId requestId trip version alternatives locks patch =
      .ok plan)
    (hversion : Materialized trip config.planningPolicy.routeSettings version.candidateDraft
      version.planningPois version.routeResults version.candidate)
    {entry : Date × PlanItem}
    (h : ReachedAsBefore trip plan.planningPois version plan.draft entry) :
    VisitedInPlace (plan.visits config trip) entry := by
  obtain ⟨day, hday, hdate, after, hafter, hdate', i, -, hitem, hbegin, hfirst, hearlier⟩ := h
  obtain ⟨-, hedit, -⟩ := editedPlan_eq_ok hplan
  have hdates : (plan.draft.days.map DraftDay.date).Nodup :=
    dates_of_applyEditPatch hedit ▸ hversion.dates
  obtain ⟨days, hdays, hvisits⟩ := exists_days_of_editedPlan hplan hversion.dates
  obtain ⟨before, hbefore, hscheduled⟩ :=
    exists_of_forall₂_right hversion.scheduled (List.mem_map_of_mem hday)
  have hof : before.date = entry.1 := hscheduled.date_eq.symm.trans hdate
  rw [← hof, draftedOn_eq hversion.dates hbefore] at hbegin
  refine ⟨(entry.1, entry.2.withoutId), ?_, rfl, rfl, rfl⟩
  rw [hvisits, List.find?_flatMap]
  refine findSome?_of_forall₂ ((List.forall₂_and_left _ _).mpr ⟨fun a ha => ha, hdays⟩) hafter
    (p := fun other => decide (other.date ≠ entry.1)) (by simpa using hdate') ?_ ?_
  · rintro other hother day' ⟨hmem, hday'⟩
    rw [List.find?_map, Option.map_eq_none_iff, List.find?_eq_none]
    intro item hitem hsame
    -- A visit before would be to a place that the planner can come to.
    have hreach := scheduledIds_prefix_canReach hplan hversion hmem hday'
    obtain ⟨materialized, hmaterialized, rfl⟩ := hday'
    have hscheduled : item.poiId ∈ (scheduledIds materialized.day.items).map some :=
      (followsDraftDay_of_materializeDay hmaterialized).map_poiId ▸ List.mem_map_of_mem hitem
    have hpoi : item.poiId = entry.2.poiId := of_decide_eq_true hsame
    exact hearlier other hother (hpoi ▸ (hreach.map some).subset hscheduled)
  · rintro other - hsame day' ⟨hmem, hday'⟩
    have hother : other.date = entry.1 := by simpa using hsame
    obtain rfl := List.inj_on_of_nodup_map hdates hmem hafter (hother.trans hdate'.symm)
    have htake := items_take_of_editedPlan hplan hversion hbefore hmem (hother.trans hof.symm)
      hbegin hscheduled hday'
    have hitem' : day'.items[i]? = some entry.2.withoutId := by
      rw [← List.getElem?_take_of_lt (Nat.lt_succ_self i), htake,
        List.getElem?_take_of_lt (Nat.lt_succ_self i), DayPlan.withoutIds, List.getElem?_map,
        hitem, Option.map_some]
    have hday'date := hday'.date_eq
    obtain ⟨materialized, hmaterialized, rfl⟩ := hday'
    have hfound : materialized.day.items.find? (fun item =>
        decide (item.poiId = entry.2.poiId)) = some entry.2.withoutId :=
      find?_of_followsDraftDay (followsDraftDay_of_materializeDay hmaterialized) hitem' rfl hfirst
    rw [List.find?_map, Function.comp_def]
    dsimp only
    rw [hfound, Option.map_some, hday'date, hother]

/-- The guard of a preview lets an edit without lock conflicts pass when the patch keeps the ids
and the places of what it leaves alone. -/
theorem checkLocality_of_leavesPlacesAlone
    (hplan : editedPlan config services sessionId requestId trip version alternatives locks patch =
      .ok plan)
    (hversion : Materialized trip config.planningPolicy.routeSettings version.candidateDraft
      version.planningPois version.routeResults version.candidate)
    (hidentified : Identified version.candidate)
    (hfresh : FreshItemIds sessionId requestId version.candidate patch)
    (hlocks : ∀ lock ∈ locks, LockHolds version.candidate lock) {maxAffectedDays : ℕ}
    (hconflicts : (analyzeChangeImpact version.candidate patch locks
      maxAffectedDays).lockConflicts = [])
    (hplaces : LeavesPlacesAlone trip version plan.draft patch locks plan.planningPois) :
    checkLocality version.candidate plan.candidate
      (analyzeChangeImpact version.candidate patch locks maxAffectedDays).preservedDates locks =
        .ok () := by
  refine (checkLocality_iff hplan hversion hidentified hfresh hlocks hconflicts).1
    ⟨hplaces.unnamed, fun lock hlock hkind => ?_⟩
  have hholds := hlocks lock hlock
  unfold LockHolds at hholds
  rw [hkind] at hholds
  obtain ⟨day, hday, item, hitem, hid, hfingerprint⟩ := hholds
  have hentry : (day.date, item) ∈ version.candidate.datedItems :=
    mem_datedItems_iff.mpr ⟨day, hday, rfl, hitem⟩
  obtain ⟨hkeeps, hreached⟩ := hplaces.locked lock hlock hkind _ hentry hid
  exact ⟨_, hentry, hid, hfingerprint, hkeeps,
    visitedInPlace_of_reachedAsBefore hplan hversion hreached⟩

end Guarded

namespace Sample

omit [Platform]

instance (patch : EditPatch) (item : PlanItem) : Decidable (Discarded patch item) :=
  inferInstanceAs (Decidable (∃ operation ∈ patch.operations,
    (operation.kind = .removeItem ∨ operation.kind = .replaceItem) ∧
      operation.itemId = item.itemId))

instance (candidate : PlanCandidate) : Decidable (Identified candidate) :=
  inferInstanceAs (Decidable (∀ entry ∈ candidate.datedItems, isGiven entry.2.itemId = true))

instance {_ : Platform} (base : PlanCandidate) (patch : EditPatch) (pois : List PlanningPOI)
    (visited : List String) : Decidable (SchedulesIdentified base patch pois visited) :=
  decidable_of_iff' _ (schedulesIdentified_iff ..)

instance (candidate : PlanCandidate) (patch : EditPatch) (date : Date) :
    Decidable (Names candidate patch date) :=
  inferInstanceAs (Decidable (∃ operation ∈ patch.operations,
    date ∈ operationDates candidate operation))

instance {_ : Platform} (base : PlanCandidate) (patch : EditPatch) (pois : List PlanningPOI)
    (item : PlanItem) : Decidable (KeepsId base patch pois item) :=
  inferInstanceAs (Decidable (∃ poiId ∈ item.poiId, poiId ≠ "" ∧ poiId ∉ newPlaces pois patch ∧
    (recordedIds base).get? poiId = item.itemId))

instance (trip : TripSpec) (pois : List PlanningPOI) (version : PlanVersion)
    (edited : CandidateDraft) (entry : Date × PlanItem) :
    Decidable (ReachedAsBefore trip pois version edited entry) := by
  unfold ReachedAsBefore
  infer_instance

instance {_ : Platform} (trip : TripSpec) (version : PlanVersion) (edited : CandidateDraft)
    (patch : EditPatch) (locks : List PlanLock) (pois : List PlanningPOI) :
    Decidable (LeavesPlacesAlone trip version edited patch locks pois) :=
  decidable_of_iff' _ (leavesPlacesAlone_iff ..)

/-- One operation needs one id that is not taken. -/
theorem freshItemIds_removal {_ : Platform} {sessionId requestId poiId : String}
    {session : PlanSession} {candidate : PlanCandidate}
    (h : ∀ entry ∈ candidate.datedItems, entry.2.itemId ≠ some (newItemId sessionId requestId 0)) :
    FreshItemIds sessionId requestId candidate (removal session poiId) := by
  have hzero {i : ℕ} (hi : i < (removal session poiId).operations.length) : i = 0 :=
    Nat.lt_one_iff.mp hi
  refine ⟨fun i hi j hj _ => (hzero hi).trans (hzero hj).symm, fun i hi entry hentry => ?_⟩
  rw [hzero hi]
  exact h entry hentry

/-- A lock on the active version of a session. -/
def lockOf (session : PlanSession) (kind : LockKind) (targetId : String) : PlanLock :=
  let := plainPlatform
  let fingerprint := do
    let version ← activeVersion session.record
    lockFingerprint version.candidate kind targetId
  ⟨"lock", kind, targetId, (fingerprint.toOption).getD "", "r1"⟩

/-- Locks on the first visit and on the second day. -/
def pairLocks : List PlanLock :=
  [lockOf pairSession .item (itemIdOf pairSession "a"), lockOf pairSession .day "2026-10-02"]

/-- The removal of the later visit of the first day, and what it meets. -/
theorem exists_pairEdit :
    let := plainPlatform
    let patch := removal pairSession "b"
    ∃ version plan, editOf pairSession pairLocks patch = .ok (version, plan) ∧
      editedPlan config services "s" "r2" trip version [] pairLocks patch = .ok plan ∧
      Materialized trip config.planningPolicy.routeSettings version.candidateDraft
        version.planningPois version.routeResults version.candidate ∧
      Identified version.candidate ∧ FreshItemIds "s" "r2" version.candidate patch ∧
      (∀ lock ∈ pairLocks, LockHolds version.candidate lock) ∧
      (analyzeChangeImpact version.candidate patch pairLocks 2).lockConflicts = [] ∧
      SchedulesIdentified version.candidate patch plan.planningPois
        (plan.draft.days.flatMap (canReach trip plan.planningPois version)) ∧
      LeavesPlacesAlone trip version plan.draft patch pairLocks plan.planningPois := by
  have hedit : ∃ edit ∈ (editOf pairSession pairLocks (removal pairSession "b")).toOption,
      Identified edit.1.candidate ∧
        (∀ entry ∈ edit.1.candidate.datedItems,
          entry.2.itemId ≠ some (@newItemId plainPlatform "s" "r2" 0)) ∧
        (∀ lock ∈ pairLocks, @lockHolds plainPlatform edit.1.candidate lock = true) ∧
        (analyzeChangeImpact edit.1.candidate (removal pairSession "b") pairLocks
          2).lockConflicts = [] ∧
        (edit.1.candidateDraft.days.map DraftDay.date).Nodup ∧
        (∃ candidates ∈ (@materializeCandidates plainPlatform trip [edit.1.candidateDraft]
            edit.1.planningPois edit.1.routeResults
            config.planningPolicy.routeSettings).toOption,
          candidates.map PlanCandidate.days =
            [edit.1.candidate.days.map DayPlan.withoutIds]) ∧
        @SchedulesIdentified plainPlatform edit.1.candidate (removal pairSession "b")
          edit.2.planningPois
          (edit.2.draft.days.flatMap (canReach trip edit.2.planningPois edit.1)) ∧
        @LeavesPlacesAlone plainPlatform trip edit.1 edit.2.draft (removal pairSession "b")
          pairLocks edit.2.planningPois := by
    decide +kernel
  intro _ patch
  obtain ⟨⟨version, plan⟩, hmem, hidentified, hfresh, hlocks, hconflicts, hdates, hplanned,
    hidentifies, hplaces⟩ := hedit
  have hok := eq_ok_of_mem_toOption hmem
  refine ⟨version, plan, hok, ?_⟩
  obtain ⟨active, -, hok⟩ := bind_eq_ok hok
  obtain ⟨edited, hplan, hok⟩ := bind_eq_ok hok
  cases hok
  obtain ⟨candidates, hcandidates, hdays⟩ := hplanned
  obtain ⟨raw, rfl, hraw⟩ := List.map_eq_singleton_iff.mp hdays
  exact ⟨hplan, ⟨hdates, raw, eq_ok_of_mem_toOption hcandidates, hraw.symm⟩, hidentified,
    freshItemIds_removal hfresh, fun lock hlock => .of_lockHolds (hlocks lock hlock), hconflicts,
    hidentifies, hplaces⟩

end Sample

omit [Platform] in
/-- Removing a visit leaves the ids of the other visits as they were. -/
theorem stableIdentity_of_canReach_removal :
    let := plainPlatform
    let patch := Sample.removal Sample.pairSession "b"
    ∃ version plan, Sample.editOf Sample.pairSession Sample.pairLocks patch = .ok (version, plan) ∧
      StableIdentity version.candidate plan.candidate patch := by
  intro _ patch
  obtain ⟨version, plan, hedit, hplan, hversion, hidentified, hfresh, -, -, hidentifies, -⟩ :=
    Sample.exists_pairEdit
  exact ⟨version, plan, hedit,
    stableIdentity_of_canReach hplan hversion hidentified hfresh hidentifies⟩

omit [Platform] in
/-- Removing the later visit of a day leaves the locks on the earlier visit and the other day. -/
theorem checkLocality_of_leavesPlacesAlone_removal :
    let := plainPlatform
    let patch := Sample.removal Sample.pairSession "b"
    ∃ version plan, Sample.editOf Sample.pairSession Sample.pairLocks patch = .ok (version, plan) ∧
      checkLocality version.candidate plan.candidate
        (analyzeChangeImpact version.candidate patch Sample.pairLocks 2).preservedDates
        Sample.pairLocks = .ok () := by
  intro _ patch
  obtain ⟨version, plan, hedit, hplan, hversion, hidentified, hfresh, hlocks, hconflicts, -,
    hplaces⟩ := Sample.exists_pairEdit
  exact ⟨version, plan, hedit, checkLocality_of_leavesPlacesAlone hplan hversion hidentified hfresh
    hlocks hconflicts hplaces⟩

end TravelPlanAgent
