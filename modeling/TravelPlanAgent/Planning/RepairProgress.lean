import TravelPlanAgent.Planning.ErrorReasons
import TravelPlanAgent.Planning.RepairEffects

/-!
# What a repair plan changes

What a plan removes, and what it moves because of a conflict, does not stand on its day any more.

* `placedOn`, `leftAlone`: the places that a plan puts on a day, and those that it leaves there.
* `reviseAll_append`: a plan puts its places before those that it leaves alone.
* `removal_ne_insertion`: with distinct ids every removal is for good.
* `movesAway_of_scheduled`: with distinct ids a scheduled place is only moved away from its day.
* `revisedDays_ne_of_otherError`: a plan for an error about what is scheduled changes the draft.
-/

namespace TravelPlanAgent

open Calendar Selection

/-! ## Days -/

instance (action : RepairAction) (poiId : String) (day : Date) :
    Decidable (action.TakesOut poiId day) :=
  inferInstanceAs (Decidable (_ ∧ (_ → _)))

/-- The places that a list of actions puts on a day, the last one first. -/
def placedOn (actions : List RepairAction) (day : Date) : List String := reviseAll actions day []

/-- The places of a day that no action takes out. -/
def leftAlone (actions : List RepairAction) (day : Date) (poiIds : List String) : List String :=
  poiIds.filter fun poiId => decide (∀ action ∈ actions, ¬ action.TakesOut poiId day)

/-- One action puts its place before those that it leaves alone. -/
theorem revise_append (action : RepairAction) (day : Date) (placed poiIds : List String) :
    action.revise day (placed ++ poiIds) =
      action.revise day placed ++ leftAlone [action] day poiIds := by
  by_cases hkind : action.kind = .removeOptionalPoi
  · rw [revise_of_removal hkind, revise_of_removal hkind]
    by_cases hfrom : action.fromDay = some day
    · rw [if_pos hfrom, if_pos hfrom, List.filter_append, leftAlone]
      refine congrArg _ (List.filter_congr fun poiId _ => decide_eq_decide.mpr ?_)
      rw [List.forall_mem_singleton]
      exact ⟨fun hne htakes => hne htakes.1.symm, fun hnot heq => hnot ⟨heq.symm, fun _ => hfrom⟩⟩
    · rw [if_neg hfrom, if_neg hfrom, leftAlone, List.filter_eq_self.mpr fun poiId _ => ?_]
      refine decide_eq_true (List.forall_mem_singleton.mpr fun htakes => ?_)
      exact hfrom (htakes.2 hkind)
  · rw [revise_of_insertion hkind, revise_of_insertion hkind, List.filter_append,
      List.append_assoc, leftAlone]
    refine congrArg _ (congrArg _ (List.filter_congr fun poiId _ => decide_eq_decide.mpr ?_))
    rw [List.forall_mem_singleton]
    exact ⟨fun hne htakes => hne htakes.1.symm,
      fun hnot heq => hnot ⟨heq.symm, fun hremoves => absurd hremoves hkind⟩⟩

/-- A list of actions puts its places before those that it leaves alone. -/
theorem reviseAll_append (actions : List RepairAction) (day : Date)
    (placed poiIds : List String) :
    reviseAll actions day (placed ++ poiIds) =
      reviseAll actions day placed ++ leftAlone actions day poiIds := by
  induction actions generalizing placed poiIds with
  | nil => simp [reviseAll, leftAlone]
  | cons action rest ih =>
    have hleft : leftAlone rest day (leftAlone [action] day poiIds) =
        leftAlone (action :: rest) day poiIds := by
      rw [leftAlone, leftAlone, leftAlone, List.filter_filter]
      refine List.filter_congr fun poiId _ => ?_
      simp [Bool.and_comm]
    change reviseAll rest day (action.revise day (placed ++ poiIds)) =
      reviseAll rest day (action.revise day placed) ++ _
    rw [revise_append, ih, hleft]

/-- The days stay as they are when each already is what the actions make of it. -/
theorem revisedDays_eq_self_iff {actions : List RepairAction} {days : List DraftDay} :
    revisedDays actions days = days ↔ ∀ day ∈ days,
      day.poiIds = placedOn actions day.date ++ leftAlone actions day.date day.poiIds := by
  have hmap : revisedDays actions days = days ↔ revisedDays actions days = days.map id := by
    rw [List.map_id]
  rw [hmap, revisedDays, List.map_inj_left]
  refine forall₂_congr fun day _ => ?_
  rw [placedOn, ← reviseAll_append, List.nil_append]
  constructor
  · exact fun heq => (congrArg DraftDay.poiIds heq).symm
  · exact fun heq => by rw [← heq, id]

/-- A place that stood on a day and does not stand there any more makes a difference. -/
theorem revisedDays_ne_of_notMem {actions : List RepairAction} {days : List DraftDay}
    (hdates : (days.map DraftDay.date).Nodup) {day : DraftDay} (hday : day ∈ days)
    {poiId : String} (hmem : poiId ∈ day.poiIds)
    (hgone : poiId ∉ reviseAll actions day.date day.poiIds) : revisedDays actions days ≠ days := by
  intro hsame
  have hrevised : (⟨day.date, reviseAll actions day.date day.poiIds⟩ : DraftDay) ∈
      revisedDays actions days := List.mem_map_of_mem hday
  rw [hsame] at hrevised
  have hpoiIds : reviseAll actions day.date day.poiIds = day.poiIds :=
    congrArg DraftDay.poiIds (List.inj_on_of_nodup_map hdates hrevised hday rfl)
  exact hgone (hpoiIds.symm ▸ hmem)

/-! ## Removals -/

variable [Platform]

section Removals

variable {trip : TripSpec} {settings : RouteSettings} {pois : List PlanningPOI}
  {routes : Routes} {draft : CandidateDraft} {candidate : PlanCandidate} {plan : RepairPlan}

omit [Platform] in
/-- Nothing is scheduled in a candidate with an empty plan. -/
theorem not_scheduled_of_empty (hfollows : FollowsDraft pois draft candidate)
    (hnone : (candidate.days.flatMap DayPlan.items).filter isActivity = []) {date : Date}
    {item : PlanItem} : (date, item) ∉ candidate.datedItems := by
  intro hscheduled
  obtain ⟨poi, hvisit, -⟩ := hfollows.visit hscheduled
  obtain ⟨day, hday, hitem⟩ := List.mem_flatMap.mp hscheduled
  obtain ⟨item', hitem', heq⟩ := List.mem_map.mp hitem
  obtain ⟨-, rfl⟩ := Prod.mk.inj heq
  have hmem : item' ∈ (candidate.days.flatMap DayPlan.items).filter isActivity :=
    List.mem_filter.mpr ⟨List.mem_flatMap.mpr ⟨day, hday, hitem'⟩, decide_eq_true hvisit.type⟩
  rw [hnone] at hmem
  exact absurd hmem List.not_mem_nil

/-- No plan puts a place that it removes on another day: what is removed is scheduled and
optional, and what is put on a day is required or nothing is scheduled. -/
theorem removal_ne_insertion (hids : (pois.map fun poi => poi.facts.id).Nodup)
    (hfollows : FollowsDraft pois draft candidate)
    (hvalidated : candidate.validation =
      some (validateCandidate trip { candidate with validation := none } pois))
    {violationType : String} {removal insertion : RepairAction} {entry : Date × PlanItem}
    (hremoves : RemovesItem trip candidate.datedItems violationType removal entry)
    {violation : Violation} (hviolation : violation ∈ errorViolations candidate)
    (hinserts : InsertsPlace trip candidate draft pois violation.type insertion) :
    insertion.poiId ≠ removal.poiId := by
  intro hsame
  obtain ⟨removed, hvisit, -⟩ := hfollows.visit hremoves.scheduled
  have hremovedId : removed.facts.id = removal.poiId :=
    Option.some.inj (hvisit.poiId.symm.trans hremoves.poiId)
  have hoptional : trip.isMustVisit removed.facts.name = false :=
    hvisit.name ▸ hremoves.optional
  obtain ⟨poi, hpoi, hid, horigin⟩ := hinserts.place
  -- Both actions are about one known place.
  have hplace : poi = removed := by
    have hknown := poiById_of_mem hids hpoi
    rw [hid, hsame, ← hremovedId, hvisit.known] at hknown
    exact (Option.some.inj hknown).symm
  subst hplace
  cases horigin with
  | missing required hrequired _ hname =>
    have hmust : trip.isMustVisit poi.facts.name = true :=
      List.any_eq_true.mpr ⟨required, hrequired, hname⟩
    exact Bool.false_ne_true (hoptional.symm.trans hmust)
  | empty htype =>
    cases errorReason_of_mem_errorViolations hvalidated hviolation with
    | empty _ hnone => exact not_scheduled_of_empty hfollows hnone hremoves.scheduled
    | missing htype' => exact absurd (htype.symm.trans htype') (by decide)
    | item htype' => exact absurd (htype ▸ htype') (by decide)
    | walking htype' => exact absurd (htype.symm.trans htype') (by decide)
    | activity _ _ htype' => exact absurd (htype.symm.trans htype') (by decide)
    | budget _ htype' => exact absurd (htype.symm.trans htype') (by decide)
  | scheduled other hother hpoiId hrequired _ =>
    obtain ⟨visited, hvisited, -⟩ := hfollows.visit hother
    obtain rfl := hvisited.unique hvisit (hpoiId.trans hvisit.poiId.symm)
    rw [hvisited.name] at hrequired
    exact Bool.false_ne_true (hoptional.symm.trans hrequired)

/-- A plan with a removal changes the days: what is taken out for good stood on its day. -/
theorem revisedDays_ne_of_removal (hdates : (draft.days.map DraftDay.date).Nodup)
    (hids : (pois.map fun poi => poi.facts.id).Nodup)
    (hfollows : FollowsDraft pois draft candidate)
    (hvalidated : candidate.validation =
      some (validateCandidate trip { candidate with validation := none } pois))
    (hbuilt : BuiltFrom trip candidate draft pois plan) {removal : RepairAction}
    (hremoval : removal ∈ plan.actions) (hkind : removal.kind = .removeOptionalPoi) :
    revisedDays plan.actions draft.days ≠ draft.days := by
  obtain ⟨violation, -, ⟨entry, hremoves⟩ | hinserts⟩ := hbuilt.repairs hremoval
  · obtain ⟨poi, hvisit, day, hday, hdate, hmem⟩ := hfollows.visit hremoves.scheduled
    have hid : poi.facts.id = removal.poiId :=
      Option.some.inj (hvisit.poiId.symm.trans hremoves.poiId)
    refine revisedDays_ne_of_notMem hdates hday (hid ▸ hmem) ?_
    refine not_mem_reviseAll (fun _ => ⟨removal, hremoval, rfl, fun _ => ?_⟩)
      fun other hother hkind' hsame => ?_
    · rw [hremoves.fromDay, hdate]
    · obtain ⟨violation', hviolation', ⟨entry', hremoves'⟩ | hinserts⟩ := hbuilt.repairs hother
      · exact absurd hremoves'.kind hkind'
      · exact absurd hsame
          (removal_ne_insertion hids hfollows hvalidated hremoves hviolation' hinserts)
  · exact absurd hkind hinserts.kind

end Removals

/-! ## Moves -/

section Moves

variable {trip : TripSpec} {pois : List PlanningPOI} {draft : CandidateDraft}
  {candidate : PlanCandidate} {plan : RepairPlan} {violation : Violation} {action : RepairAction}

/-- An action moves a scheduled place away from the day on which it is scheduled. -/
def MovesAway (candidate : PlanCandidate) (action : RepairAction) : Prop :=
  ∃ day item target, action.fromDay = some day ∧ (day, item) ∈ candidate.datedItems ∧
    item.poiId = some action.poiId ∧ action.toDay = some target ∧ target ≠ day

/-- A conflict is answered by a removal or by a move to another day. -/
theorem movesAway_of_localTimeViolation
    (h : action ∈ actionsForLocalTimeViolation trip candidate draft pois violation)
    (hkind : action.kind ≠ .removeOptionalPoi) : MovesAway candidate action := by
  obtain ⟨-, day, item, hfrom, hscheduled, hpoiId⟩ := repairs_of_localTimeViolation h
  unfold actionsForLocalTimeViolation at h
  obtain ⟨day', -, h⟩ := Option.bind_eq_some_iff.mp (Option.mem_toList.mp h)
  obtain ⟨planDay, -, h⟩ := Option.bind_eq_some_iff.mp h
  obtain ⟨entry, -, haction⟩ := List.exists_of_findSome?_eq_some h
  unfold localTimeAction at haction
  split at haction
  · obtain rfl := Option.some.inj haction
    exact absurd rfl hkind
  · obtain ⟨poi, -, haction⟩ := Option.bind_eq_some_iff.mp haction
    obtain ⟨target, htarget, haction⟩ := Option.bind_eq_some_iff.mp haction
    obtain rfl := Option.some.inj haction
    obtain rfl := Option.some.inj hfrom
    obtain ⟨-, -, -, hother, -⟩ := bestTargetDay_eq_some htarget
    exact ⟨_, item, target, rfl, hscheduled, hpoiId, rfl, fun heq => hother (congrArg some heq)⟩

/-- No required place is missing that is scheduled. -/
theorem not_scheduled_of_missing (hids : (pois.map fun poi => poi.facts.id).Nodup)
    (hfollows : FollowsDraft pois draft candidate)
    (h : action ∈ actionsForMissingMustVisit trip candidate draft pois) {date : Date}
    {item : PlanItem} (hscheduled : (date, item) ∈ candidate.datedItems) :
    item.poiId ≠ some action.poiId := by
  intro hsame
  obtain ⟨required, -, hunscheduled, haction⟩ := exists_of_missingMustVisit h
  obtain ⟨poi, target, hfound, -, rfl⟩ := mustVisitAction_eq_some haction
  obtain ⟨visited, hvisit, -⟩ := hfollows.visit hscheduled
  have hplace : visited = poi := by
    have hknown := hvisit.known
    rw [Option.some.inj (hvisit.poiId.symm.trans hsame),
      poiById_of_mem hids (List.mem_of_find?_eq_some hfound)] at hknown
    exact (Option.some.inj hknown).symm
  have hname := List.find?_some hfound
  have hmentioned : mustVisitScheduled (scheduledNames candidate) required = true := by
    refine List.any_eq_true.mpr ⟨_, List.mem_map_of_mem hscheduled, ?_⟩
    rw [hvisit.name, hplace]
    exact hname
  exact Bool.false_ne_true (hunscheduled.symm.trans hmentioned)

/-- With distinct ids a scheduled place is put on no day but by a move away from its own. -/
theorem movesAway_of_scheduled (hids : (pois.map fun poi => poi.facts.id).Nodup)
    (hfollows : FollowsDraft pois draft candidate)
    (hvalidated : candidate.validation =
      some (validateCandidate trip { candidate with validation := none } pois))
    (hviolation : violation ∈ errorViolations candidate)
    (haction : action ∈ actionsForViolation trip candidate draft pois violation)
    (hkind : action.kind ≠ .removeOptionalPoi) {date : Date} {item : PlanItem}
    (hscheduled : (date, item) ∈ candidate.datedItems)
    (hpoiId : item.poiId = some action.poiId) : MovesAway candidate action := by
  unfold actionsForViolation at haction
  split_ifs at haction with hbudget hlimit hmissing hempty
  · obtain ⟨entry, hentry⟩ := removesItem_of_budget haction
    exact absurd hentry.kind hkind
  · split at haction
    · obtain ⟨entry, hentry⟩ := removesItem_of_dayLimit haction
      exact absurd hentry.kind hkind
    · exact absurd haction List.not_mem_nil
  · exact absurd hpoiId (not_scheduled_of_missing hids hfollows haction hscheduled)
  · cases errorReason_of_mem_errorViolations hvalidated hviolation with
    | empty _ hnone => exact absurd hscheduled (not_scheduled_of_empty hfollows hnone)
    | missing htype => exact absurd (hempty.symm.trans htype) (by decide)
    | item htype => exact absurd (hempty ▸ htype) (by decide)
    | walking htype => exact absurd (hempty.symm.trans htype) (by decide)
    | activity _ _ htype => exact absurd (hempty.symm.trans htype) (by decide)
    | budget _ htype => exact absurd (hempty.symm.trans htype) (by decide)
  · exact movesAway_of_localTimeViolation haction hkind

/-- A plan with a move away changes the days: the last move of a place takes it from a day on which
it stood. -/
theorem revisedDays_ne_of_move (hdates : (draft.days.map DraftDay.date).Nodup)
    (hids : (pois.map fun poi => poi.facts.id).Nodup)
    (hfollows : FollowsDraft pois draft candidate)
    (hvalidated : candidate.validation =
      some (validateCandidate trip { candidate with validation := none } pois))
    (hbuilt : BuiltFrom trip candidate draft pois plan) (haction : action ∈ plan.actions)
    (hkind : action.kind ≠ .removeOptionalPoi) {date : Date} {item : PlanItem}
    (hscheduled : (date, item) ∈ candidate.datedItems)
    (hpoiId : item.poiId = some action.poiId) :
    revisedDays plan.actions draft.days ≠ draft.days := by
  obtain ⟨before, last, after, hsplit, ⟨hlastKind, hlastId⟩, hnone⟩ := exists_last_of_mem
    (p := fun other : RepairAction => other.kind ≠ .removeOptionalPoi ∧
      other.poiId = action.poiId) haction ⟨hkind, rfl⟩
  have hlast : last ∈ plan.actions := by
    rw [hsplit]
    exact List.mem_append_right _ List.mem_cons_self
  obtain ⟨violation, hviolation, hgenerated⟩ := hbuilt.sound last hlast
  obtain ⟨day, item', target, -, hscheduled', hpoiId', htarget, haway⟩ :=
    movesAway_of_scheduled hids hfollows hvalidated hviolation hgenerated hlastKind hscheduled
      (hlastId ▸ hpoiId)
  obtain ⟨poi, hvisit, draftDay, hday, rfl, hmem⟩ := hfollows.visit hscheduled'
  have hid : poi.facts.id = last.poiId :=
    Option.some.inj (hvisit.poiId.symm.trans hpoiId')
  have hgone (poiIds : List String) :
      last.poiId ∉ reviseAll (last :: after) draftDay.date poiIds := by
    refine not_mem_reviseAll
      (fun _ => ⟨last, List.mem_cons_self, rfl, fun hremoval => absurd hremoval hlastKind⟩)
      fun other hother hkind' hid' => ?_
    rcases List.mem_cons.mp hother with rfl | hafter
    · rw [htarget, Ne, Option.some.injEq]
      exact haway
    · exact absurd ⟨hkind', hid'.trans hlastId⟩ (hnone other hafter)
  refine revisedDays_ne_of_notMem hdates hday (hid ▸ hmem) ?_
  rw [hsplit, reviseAll, List.foldl_append]
  exact hgone _

/-- A plan for an error about something that is scheduled changes the draft. -/
theorem revisedDays_ne_of_otherError (hdates : (draft.days.map DraftDay.date).Nodup)
    (hids : (pois.map fun poi => poi.facts.id).Nodup)
    (hfollows : FollowsDraft pois draft candidate)
    (hvalidated : candidate.validation =
      some (validateCandidate trip { candidate with validation := none } pois))
    (hbuilt : BuiltFrom trip candidate draft pois plan)
    (hviolation : violation ∈ errorViolations candidate) (hempty : violation.type ≠ "empty_plan")
    (hmissing : violation.type ≠ "missing_must_visit") :
    revisedDays plan.actions draft.days ≠ draft.days := by
  obtain ⟨action, haction⟩ := List.exists_mem_of_ne_nil _ (hbuilt.answered violation hviolation)
  obtain ⟨kept, hkept, hkey⟩ := hbuilt.complete violation hviolation action haction
  obtain ⟨hkeptKind, hrest⟩ := Prod.mk.inj hkey
  have hkeptId := (Prod.mk.inj hrest).1
  by_cases hkind : action.kind = .removeOptionalPoi
  · exact revisedDays_ne_of_removal hdates hids hfollows hvalidated hbuilt hkept
      (hkeptKind.trans hkind)
  · obtain ⟨entry, hscheduled, hpoiId⟩ : ∃ entry ∈ candidate.datedItems,
        entry.2.poiId = some action.poiId := by
      unfold actionsForViolation at haction
      split_ifs at haction with hbudget hlimit
      · obtain ⟨entry, hentry⟩ := removesItem_of_budget haction
        exact absurd hentry.kind hkind
      · split at haction
        · obtain ⟨entry, hentry⟩ := removesItem_of_dayLimit haction
          exact absurd hentry.kind hkind
        · exact absurd haction List.not_mem_nil
      · obtain ⟨-, day, item, -, hscheduled, hpoiId⟩ := repairs_of_localTimeViolation haction
        exact ⟨(day, item), hscheduled, hpoiId⟩
    exact revisedDays_ne_of_move hdates hids hfollows hvalidated hbuilt hkept
      (hkeptKind ▸ hkind) hscheduled (hpoiId.trans (congrArg some hkeptId.symm))

end Moves

end TravelPlanAgent
