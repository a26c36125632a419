import TravelPlanAgent.Planning.RepairProgress
import Mathlib.Data.List.Dedup

/-!
# When a repair plan can be applied

A repair plan that leaves the draft as it is cannot be applied.  Errors about what is scheduled
always lead to a change.  Where the only errors are that required places, or any places at all, are
missing, the plan puts some places first on their days, and they may be there already.

* `lastCalls`, `placedOn_of_insertions`: what is put on a day by actions that remove nothing.
* `revisedDays_eq_self_iff_of_insertions`: when such actions leave the days as they are.
* `missingPlaces`, `fallbackPlace`, `calledFor`: the places that are put on days.
* `actions_of_buildRepairPlan`: the actions of a plan for such errors.
* `NothingToDo`: each of these places stands where it is wanted, before all others.
* `applies_iff`: otherwise, and only then, the plan can be applied.
-/

namespace TravelPlanAgent

open Calendar Selection

/-! ## Actions that remove nothing -/

/-- The last action for each place. -/
def lastCalls : List RepairAction → List RepairAction
  | [] => []
  | action :: rest =>
    if action.poiId ∈ rest.map RepairAction.poiId then lastCalls rest else action :: lastCalls rest

section Insertions

variable {actions others : List RepairAction} {days : List DraftDay}

theorem mem_of_mem_lastCalls {action : RepairAction} (h : action ∈ lastCalls actions) :
    action ∈ actions := by
  induction actions with
  | nil => exact h
  | cons first rest ih =>
    rw [lastCalls] at h
    split at h
    · exact List.mem_cons_of_mem _ (ih h)
    · rcases List.mem_cons.mp h with rfl | h
      · exact List.mem_cons_self
      · exact List.mem_cons_of_mem _ (ih h)

theorem map_poiId_lastCalls (actions : List RepairAction) :
    (lastCalls actions).map RepairAction.poiId = (actions.map RepairAction.poiId).dedup := by
  induction actions with
  | nil => rfl
  | cons first rest ih =>
    rw [lastCalls, List.map_cons]
    split
    · next hlater => rw [ih, List.dedup_cons_of_mem hlater]
    · next hlater => rw [List.map_cons, ih, List.dedup_cons_of_notMem hlater]

/-- Later actions for the same places take precedence. -/
theorem lastCalls_append (actions others : List RepairAction) :
    lastCalls (actions ++ others) = (lastCalls actions).filter
      (fun action => decide (action.poiId ∉ others.map RepairAction.poiId)) ++
        lastCalls others := by
  induction actions with
  | nil => rfl
  | cons first rest ih =>
    rw [List.cons_append, lastCalls, lastCalls, List.map_append]
    by_cases hrest : first.poiId ∈ rest.map RepairAction.poiId
    · rw [if_pos (List.mem_append_left _ hrest), if_pos hrest, ih]
    · rw [if_neg hrest]
      by_cases hothers : first.poiId ∈ others.map RepairAction.poiId
      · rw [if_pos (List.mem_append_right _ hothers), ih,
          List.filter_cons_of_neg (by simpa using hothers)]
      · have hneither : first.poiId ∉ rest.map RepairAction.poiId ++
            others.map RepairAction.poiId := by
          rw [List.mem_append]
          exact not_or.mpr ⟨hrest, hothers⟩
        rw [if_neg hneither, ih, List.filter_cons_of_pos (by simpa using hothers),
          List.cons_append]

theorem lastCalls_of_nodup (h : (actions.map RepairAction.poiId).Nodup) :
    lastCalls actions = actions := by
  induction actions with
  | nil => rfl
  | cons first rest ih =>
    obtain ⟨hfirst, hrest⟩ := List.nodup_cons.mp h
    rw [lastCalls, if_neg hfirst, ih hrest]

/-- What actions that remove nothing leave alone: the other places. -/
theorem leftAlone_of_insertions
    (h : ∀ action ∈ actions, action.kind ≠ .removeOptionalPoi) (day : Date)
    (poiIds : List String) :
    leftAlone actions day poiIds =
      poiIds.filter fun poiId => decide (poiId ∉ actions.map RepairAction.poiId) := by
  refine List.filter_congr fun poiId _ => decide_eq_decide.mpr ?_
  rw [List.mem_map, not_exists]
  constructor
  · rintro hleft action ⟨haction, hid⟩
    exact hleft action haction ⟨hid, fun hremoval => absurd hremoval (h action haction)⟩
  · intro hleft action haction htakes
    exact hleft action ⟨haction, htakes.1⟩

/-- What actions that remove nothing put on a day, the last first. -/
theorem placedOn_of_insertions (h : ∀ action ∈ actions, action.kind ≠ .removeOptionalPoi)
    (day : Date) :
    placedOn actions day = (((lastCalls actions).filter fun action =>
      decide (action.toDay = some day)).map RepairAction.poiId).reverse := by
  induction actions with
  | nil => rfl
  | cons first rest ih =>
    obtain ⟨hfirst, hrest⟩ := List.forall_mem_cons.mp h
    have hstep : placedOn (first :: rest) day = placedOn rest day ++
        leftAlone rest day (if first.toDay = some day then [first.poiId] else []) := by
      have happend := reviseAll_append rest day []
        (if first.toDay = some day then [first.poiId] else [])
      rw [List.nil_append] at happend
      rw [placedOn, placedOn, ← happend]
      change reviseAll rest day (first.revise day []) = _
      rw [revise_of_insertion hfirst, List.filter_nil, List.append_nil]
    rw [hstep, ih hrest, leftAlone_of_insertions hrest, lastCalls]
    by_cases hlater : first.poiId ∈ rest.map RepairAction.poiId
    · rw [if_pos hlater]
      split
      · rw [List.filter_cons_of_neg (by simpa using hlater), List.filter_nil, List.append_nil]
      · rw [List.filter_nil, List.append_nil]
    · rw [if_neg hlater]
      split
      · next hto =>
        rw [List.filter_cons_of_pos (by simpa using hlater), List.filter_nil,
          List.filter_cons_of_pos (by simpa using hto), List.map_cons, List.reverse_cons]
      · next hto =>
        rw [List.filter_nil, List.append_nil,
          List.filter_cons_of_neg (by simpa using hto)]

/-- A place stands on a day of a draft and on no other. -/
structure StandsOnlyOn (days : List DraftDay) (poiId : String) (day : DraftDay) : Prop where
  mem : day ∈ days
  stands : poiId ∈ day.poiIds
  only : ∀ other ∈ days, poiId ∈ other.poiIds → other = day

/-- A day begins with those of some places that stand on it, the last first, each once. -/
def BeginsWith (called : List String) (day : DraftDay) : Prop :=
  ∃ rest, day.poiIds =
      (called.filter fun poiId => decide (poiId ∈ day.poiIds)).reverse ++ rest ∧
    ∀ poiId ∈ rest, poiId ∉ called

/-- Actions that remove nothing leave the days as they are exactly when each place stands on its
target day only, and every day begins with the places that are put there. -/
theorem revisedDays_eq_self_iff_of_insertions (hdates : (days.map DraftDay.date).Nodup)
    (h : ∀ action ∈ actions, action.kind ≠ .removeOptionalPoi)
    (htargets : ∀ action ∈ actions, ∃ day ∈ days, action.toDay = some day.date) :
    revisedDays actions days = days ↔
      (∀ action ∈ lastCalls actions, ∃ day, StandsOnlyOn days action.poiId day ∧
        action.toDay = some day.date) ∧
      ∀ day ∈ days, BeginsWith (actions.map RepairAction.poiId).dedup day := by
  have hcalls : ((lastCalls actions).map RepairAction.poiId).Nodup :=
    map_poiId_lastCalls actions ▸ List.nodup_dedup _
  -- What is put on a day are the places that stand there, once both is the same.
  have hfilter (day : DraftDay) (hboth : ∀ action ∈ lastCalls actions,
      (action.toDay = some day.date ↔ action.poiId ∈ day.poiIds)) :
      placedOn actions day.date = ((actions.map RepairAction.poiId).dedup.filter fun poiId =>
        decide (poiId ∈ day.poiIds)).reverse := by
    rw [placedOn_of_insertions h, ← map_poiId_lastCalls, List.filter_map]
    refine congrArg (fun calls : List RepairAction =>
      (calls.map RepairAction.poiId).reverse) (List.filter_congr fun action haction => ?_)
    exact decide_eq_decide.mpr (hboth action haction)
  rw [revisedDays_eq_self_iff]
  constructor
  · intro hself
    have hboth : ∀ day ∈ days, ∀ action ∈ lastCalls actions,
        (action.toDay = some day.date ↔ action.poiId ∈ day.poiIds) := by
      intro day hday action haction
      rw [hself day hday, leftAlone_of_insertions h, placedOn_of_insertions h, List.mem_append,
        List.mem_reverse, List.mem_map]
      constructor
      · intro hto
        exact .inl ⟨action, List.mem_filter.mpr ⟨haction, decide_eq_true hto⟩, rfl⟩
      · rintro (⟨other, hother, hid⟩ | hleft)
        · obtain ⟨hmem, hto⟩ := List.mem_filter.mp hother
          obtain rfl := List.inj_on_of_nodup_map hcalls hmem haction hid
          exact of_decide_eq_true hto
        · exact absurd (List.mem_map_of_mem (mem_of_mem_lastCalls haction))
            (of_decide_eq_true (List.mem_filter.mp hleft).2)
    refine ⟨fun action haction => ?_, fun day hday => ?_⟩
    · obtain ⟨day, hday, hto⟩ := htargets action (mem_of_mem_lastCalls haction)
      refine ⟨day, ⟨hday, (hboth day hday action haction).mp hto, fun other hother hstands => ?_⟩,
        hto⟩
      have hsame := (hboth other hother action haction).mpr hstands
      exact List.inj_on_of_nodup_map hdates hother hday (Option.some.inj (hsame.symm.trans hto))
    · refine ⟨leftAlone actions day.date day.poiIds, ?_, fun poiId hpoiId => ?_⟩
      · rw [← hfilter day (hboth day hday)]
        exact hself day hday
      · rw [leftAlone_of_insertions h] at hpoiId
        rw [List.mem_dedup]
        exact of_decide_eq_true (List.mem_filter.mp hpoiId).2
  · rintro ⟨hstands, hbegins⟩ day hday
    obtain ⟨rest, hpoiIds, hrest⟩ := hbegins day hday
    have hplaced := hfilter day fun action haction => by
      obtain ⟨target, honly, hto⟩ := hstands action haction
      rw [hto, Option.some.injEq]
      constructor
      · intro hdate
        exact List.inj_on_of_nodup_map hdates honly.mem hday hdate ▸ honly.stands
      · intro hmem
        rw [honly.only day hday hmem]
    have hleft : leftAlone actions day.date day.poiIds = rest := by
      rw [leftAlone_of_insertions h, hpoiIds, List.filter_append, List.filter_eq_nil_iff.mpr,
        List.nil_append, List.filter_eq_self.mpr]
      · intro poiId hpoiId
        exact decide_eq_true fun hmem => hrest poiId hpoiId (List.mem_dedup.mpr hmem)
      · intro poiId hpoiId
        have hcalled := List.mem_of_mem_filter (List.mem_reverse.mp hpoiId)
        simpa using List.mem_dedup.mp hcalled
    rw [hplaced, hleft]
    exact hpoiIds

end Insertions

/-! ## The places that are called for -/

section Called

variable [Platform]

/-- The required entries that nothing scheduled mentions. -/
def unscheduledEntries (trip : TripSpec) (candidate : PlanCandidate) : List String :=
  trip.mustVisit.filter fun required => !mustVisitScheduled (scheduledNames candidate) required

/-- The place that is found for a required entry. -/
def placeFor (pois : List PlanningPOI) (required : String) : Option PlanningPOI :=
  pois.find? fun poi => namesOverlap required poi.facts.name

/-- The places for the required entries that nothing scheduled mentions. -/
def missingPlaces (trip : TripSpec) (candidate : PlanCandidate) (pois : List PlanningPOI) :
    List PlanningPOI :=
  (unscheduledEntries trip candidate).filterMap (placeFor pois)

/-- The place for a plan without any activity: the best one that some day suits. -/
def fallbackPlace (trip : TripSpec) (candidate : PlanCandidate) (draft : CandidateDraft)
    (pois : List PlanningPOI) : Option PlanningPOI :=
  if ((candidate.days.flatMap DayPlan.items).filter isActivity).isEmpty then
    (sortByKey (emptyPlanRank trip) pois).find? fun poi =>
      (bestTargetDay trip draft poi none).isSome
  else none

/-- The places that are put on days when only places are missing, in the order in which they are
put there for good. -/
def calledFor (trip : TripSpec) (candidate : PlanCandidate) (draft : CandidateDraft)
    (pois : List PlanningPOI) : List String :=
  ((fallbackPlace trip candidate draft pois).toList.map (fun poi => poi.facts.id) ++
    ((missingPlaces trip candidate pois).map fun poi => poi.facts.id).eraseDups).dedup

/-- There is nothing to do that a repair plan could do: only places are missing; each of them stands
on one day of the draft, the only one that suits it or, in a plan without any activity, the best
one; and every day begins with those of these places that stand on it. -/
structure NothingToDo (trip : TripSpec) (candidate : PlanCandidate) (draft : CandidateDraft)
    (pois : List PlanningPOI) : Prop where
  errors : ∀ violation ∈ errorViolations candidate,
    violation.type = "empty_plan" ∨ violation.type = "missing_must_visit"
  missing : ∀ poi ∈ missingPlaces trip candidate pois, ∃ day,
    StandsOnlyOn draft.days poi.facts.id day ∧
      ∀ other ∈ draft.days, other ≠ day → ¬ SuitsDay trip poi other.date
  fallback : ∀ poi ∈ fallbackPlace trip candidate draft pois, ∃ day,
    StandsOnlyOn draft.days poi.facts.id day ∧
      bestTargetDay trip draft poi none = some day.date
  first : ∀ day ∈ draft.days, BeginsWith (calledFor trip candidate draft pois) day

variable {trip : TripSpec} {pois : List PlanningPOI} {draft : CandidateDraft}
  {candidate : PlanCandidate} {action : RepairAction}

/-- The actions for some required entries are about the places that are found for them. -/
theorem map_poiId_of_mapM {entries : List String} {actions : List RepairAction}
    (h : entries.mapM (mustVisitAction trip draft pois) = some actions) :
    actions.map RepairAction.poiId =
      (entries.filterMap (placeFor pois)).map fun poi => poi.facts.id := by
  induction entries generalizing actions with
  | nil =>
    obtain rfl := Option.some.inj h
    rfl
  | cons required rest ih =>
    rw [List.mapM_cons] at h
    obtain ⟨first, hfirst, h⟩ := Option.bind_eq_some_iff.mp h
    obtain ⟨others, hothers, h⟩ := Option.bind_eq_some_iff.mp h
    obtain rfl := Option.some.inj h
    obtain ⟨poi, target, hfound, -, rfl⟩ := mustVisitAction_eq_some hfirst
    have hplace : placeFor pois required = some poi := hfound
    rw [List.filterMap_cons_some hplace, List.map_cons, List.map_cons, ih hothers]

/-- The action for a plan without any activity. -/
def fallbackActions (trip : TripSpec) (candidate : PlanCandidate) (draft : CandidateDraft)
    (pois : List PlanningPOI) : List RepairAction :=
  if ((candidate.days.flatMap DayPlan.items).filter isActivity).isEmpty then
    actionsForEmptyPlan trip draft pois
  else []

/-- There is at most one such action, and it is about the place that is called for. -/
theorem fallbackActions_spec (h : action ∈ fallbackActions trip candidate draft pois) :
    ∃ poi target, fallbackPlace trip candidate draft pois = some poi ∧
      bestTargetDay trip draft poi none = some target ∧
      fallbackActions trip candidate draft pois = [action] ∧ action.kind = .addAvailablePoi ∧
      action.poiId = poi.facts.id ∧ action.toDay = some target := by
  unfold fallbackActions at h ⊢
  unfold fallbackPlace
  split at h
  · next hnone =>
    rw [if_pos hnone, if_pos hnone]
    unfold actionsForEmptyPlan at h ⊢
    have hfound := Option.mem_toList.mp h
    dsimp only
    rw [hfound]
    obtain ⟨before, poi, after, hsplit, haction, hunsuited⟩ :=
      List.findSome?_eq_some_iff.mp hfound
    obtain ⟨target, htarget, rfl⟩ := Option.map_eq_some_iff.mp haction
    refine ⟨poi, target, ?_, htarget, rfl, rfl, rfl, rfl⟩
    refine List.find?_eq_some_iff_append.mpr ⟨by rw [htarget]; rfl, before, after, hsplit, ?_⟩
    intro other hother
    rw [Option.map_eq_none_iff.mp (hunsuited other hother)]
    rfl
  · exact absurd h List.not_mem_nil

end Called

/-! ## The actions of a plan -/

section Deduplicated

variable {actions others : List RepairAction}
  {seen seen' : List (RepairActionKind × String × Option Date × Option Date)}

theorem deduplicateActions_congr
    (h : ∀ action ∈ actions, (action.key ∈ seen ↔ action.key ∈ seen')) :
    deduplicateActions seen actions = deduplicateActions seen' actions := by
  induction actions generalizing seen seen' with
  | nil => rfl
  | cons first rest ih =>
    obtain ⟨hfirst, hrest⟩ := List.forall_mem_cons.mp h
    rw [deduplicateActions, deduplicateActions]
    by_cases hseen : first.key ∈ seen
    · rw [if_pos hseen, if_pos (hfirst.mp hseen)]
      exact ih hrest
    · rw [if_neg hseen, if_neg fun hseen' => hseen (hfirst.mpr hseen')]
      refine congrArg _ (ih fun action haction => ?_)
      rw [List.mem_cons, List.mem_cons, hrest action haction]

theorem deduplicateActions_of_seen (h : ∀ action ∈ actions, action.key ∈ seen) :
    deduplicateActions seen actions = [] := by
  induction actions with
  | nil => rfl
  | cons first rest ih =>
    obtain ⟨hfirst, hrest⟩ := List.forall_mem_cons.mp h
    rw [deduplicateActions, if_pos hfirst, ih hrest]

theorem deduplicateActions_append
    (seen : List (RepairActionKind × String × Option Date × Option Date))
    (actions others : List RepairAction) :
    deduplicateActions seen (actions ++ others) = deduplicateActions seen actions ++
      deduplicateActions (actions.map RepairAction.key ++ seen) others := by
  induction actions generalizing seen with
  | nil => rfl
  | cons first rest ih =>
    rw [List.cons_append, deduplicateActions, deduplicateActions, List.map_cons, List.cons_append]
    by_cases hseen : first.key ∈ seen
    · rw [if_pos hseen, if_pos hseen, ih]
      refine congrArg _ (deduplicateActions_congr fun action _ => ?_)
      rw [List.mem_cons, List.mem_append]
      constructor
      · exact .inr
      · rintro (heq | hmem)
        · exact .inr (heq ▸ hseen)
        · exact hmem
    · rw [if_neg hseen, if_neg hseen, ih, List.cons_append]
      refine congrArg _ (congrArg _ (deduplicateActions_congr fun action _ => ?_))
      rw [List.mem_append, List.mem_cons, List.mem_cons, List.mem_append]
      tauto

/-- The same actions once more make no difference. -/
theorem deduplicateActions_flatMap {α : Type} {l : List α} (h : l ≠ []) :
    deduplicateActions seen (l.flatMap fun _ => actions) = deduplicateActions seen actions := by
  obtain ⟨first, rest, rfl⟩ := List.exists_cons_of_ne_nil h
  have hrest : deduplicateActions (actions.map RepairAction.key ++ seen)
      (rest.flatMap fun _ => actions) = [] := by
    refine deduplicateActions_of_seen fun action haction => ?_
    obtain ⟨-, -, hmem⟩ := List.mem_flatMap.mp haction
    exact List.mem_append_left _ (List.mem_map_of_mem hmem)
  rw [List.flatMap_cons, deduplicateActions_append, hrest, List.append_nil]

/-- Where actions for one place are the same, every place keeps its first action. -/
theorem map_poiId_deduplicateActions
    (h : ∀ action ∈ actions, ∀ other ∈ actions, action.poiId = other.poiId →
      action.key = other.key) :
    (deduplicateActions seen actions).map RepairAction.poiId =
      ((actions.filter fun action => decide (action.key ∉ seen)).map
        RepairAction.poiId).eraseDups := by
  induction actions generalizing seen with
  | nil => rfl
  | cons first rest ih =>
    have hrest : ∀ action ∈ rest, ∀ other ∈ rest, action.poiId = other.poiId →
        action.key = other.key := fun action haction other hother =>
      h action (List.mem_cons_of_mem _ haction) other (List.mem_cons_of_mem _ hother)
    rw [deduplicateActions]
    by_cases hseen : first.key ∈ seen
    · rw [if_pos hseen, ih hrest, List.filter_cons_of_neg (by simpa using hseen)]
    · rw [if_neg hseen, List.map_cons, ih hrest, List.filter_cons_of_pos (by simpa using hseen),
        List.map_cons, List.eraseDups_cons, List.filter_map, List.filter_filter]
      refine congrArg (fun kept : List RepairAction =>
        first.poiId :: (kept.map RepairAction.poiId).eraseDups)
          (List.filter_congr fun action haction => ?_)
      have hsame : action.key = first.key ↔ action.poiId = first.poiId :=
        ⟨fun hkey => (Prod.mk.inj (Prod.mk.inj hkey).2).1,
          h action (List.mem_cons_of_mem _ haction) first List.mem_cons_self⟩
      rcases eq_or_ne action.poiId first.poiId with heq | hne
      · simp [hsame, heq]
      · simp [hsame, hne]

end Deduplicated

section Missing

variable [Platform] {trip : TripSpec} {pois : List PlanningPOI} {draft : CandidateDraft}
  {candidate : PlanCandidate} {plan : RepairPlan}

/-- A plan is made of the actions for all errors, and every error has some. -/
theorem actions_of_buildRepairPlan {report : CriticReport} {repairRound : ℕ}
    {reason : Option String}
    (h : buildRepairPlan trip candidate draft pois report repairRound = (some plan, reason)) :
    plan.actions = deduplicateActions []
        ((errorViolations candidate).flatMap (actionsForViolation trip candidate draft pois)) := by
  unfold buildRepairPlan at h
  split at h
  · exact absurd h (by simp)
  split at h
  · exact absurd h (by simp)
  · rename_i generated hgenerated
    obtain ⟨rfl, -⟩ := generatedActions_eq_ok hgenerated
    split at h
    · exact absurd h (by simp)
    · obtain ⟨hplan, -⟩ := Prod.mk.inj h
      obtain rfl := Option.some.inj hplan
      rfl

omit [Platform] in
/-- What is reported about a day is about what is scheduled. -/
theorem type_of_mem_dayViolations {day : DayPlan} {violation : Violation}
    (h : violation ∈ dayViolations trip pois day) :
    violation.type ≠ "empty_plan" ∧ violation.type ≠ "missing_must_visit" := by
  simp only [dayViolations, List.mem_append] at h
  rcases h with (h | h) | h
  · obtain ⟨entry, -, h⟩ := List.mem_flatMap.mp h
    have htype := type_of_mem_itemViolations h
    constructor <;> intro heq <;> exact absurd (heq ▸ htype) (by decide)
  · rw [(of_mem_ite h).2]
    simp [errorViolation]
  · rw [(of_mem_ite h).2]
    simp [errorViolation]

/-- Violations about the budget are of other types. -/
theorem type_of_mem_budgetViolations {items : List PlanItem} {violation : Violation}
    (h : violation ∈ budgetViolations trip items) :
    violation.type ≠ "empty_plan" ∧ violation.type ≠ "missing_must_visit" := by
  unfold budgetViolations at h
  cases htotal : trip.totalBudget with
  | none =>
    rw [htotal] at h
    cases h
  | some budget =>
    rw [htotal] at h
    rcases List.mem_append.mp h with h | h
    · rw [(of_mem_ite h).2]
      simp [warningViolation]
    · rw [(of_mem_ite h).2]
      simp [errorViolation]

/-- When only places are missing, the errors are that nothing is scheduled and that the required
entries are missing. -/
theorem errorViolations_of_missing
    (hvalidated : candidate.validation =
      some (validateCandidate trip { candidate with validation := none } pois))
    (herrors : ∀ violation ∈ errorViolations candidate,
      violation.type = "empty_plan" ∨ violation.type = "missing_must_visit") :
    errorViolations candidate =
      emptyPlanViolations ((candidate.days.flatMap DayPlan.items).filter isActivity) ++
        mustVisitViolations trip ((candidate.days.flatMap DayPlan.items).filter isActivity) := by
  have hall : errorViolations candidate =
      (candidateViolations trip { candidate with validation := none } pois).filter
        Violation.isError := by
    rw [errorViolations, violationsOf, hvalidated]
    rfl
  rw [hall] at herrors ⊢
  -- The other parts of the report hold no error of the two types.
  have hnone (violations : List Violation)
      (hsub : violations ⊆ candidateViolations trip { candidate with validation := none } pois)
      (hother : ∀ violation ∈ violations, violation.isError = true →
        violation.type ≠ "empty_plan" ∧ violation.type ≠ "missing_must_visit") :
      violations.filter Violation.isError = [] := by
    refine List.filter_eq_nil_iff.mpr fun violation hmem herror => ?_
    obtain ⟨hempty, hmissing⟩ := hother violation hmem herror
    exact (herrors violation (List.mem_filter.mpr ⟨hsub hmem, herror⟩)).elim hempty hmissing
  have hdays := hnone (candidate.days.flatMap (dayViolations trip pois))
    (fun violation hmem => by simp only [candidateViolations, List.mem_append, hmem, true_or,
      or_true]) fun violation hmem _ => by
      obtain ⟨day, -, hmem⟩ := List.mem_flatMap.mp hmem
      exact type_of_mem_dayViolations hmem
  have hbudget := hnone (budgetViolations trip (candidate.days.flatMap DayPlan.items))
    (fun violation hmem => by simp only [candidateViolations, List.mem_append, hmem, true_or,
      or_true]) fun violation hmem _ => type_of_mem_budgetViolations hmem
  have hwarnings := hnone (assumptionWarnings candidate.assumptions (candidate.days.any fun day =>
      day.items.any (openingUnverified pois day.date)))
    (fun violation hmem => by simp only [candidateViolations, List.mem_append, hmem, or_true])
      fun violation hmem herror => by
      have hsevere : violation.severity = .error := of_decide_eq_true herror
      rw [severity_of_mem_assumptionWarnings hmem] at hsevere
      cases hsevere
  have hempty : (emptyPlanViolations ((candidate.days.flatMap DayPlan.items).filter
      isActivity)).filter Violation.isError = emptyPlanViolations
        ((candidate.days.flatMap DayPlan.items).filter isActivity) := by
    refine List.filter_eq_self.mpr fun violation hmem => ?_
    rw [(of_mem_ite hmem).2]
    rfl
  have hmissing : (mustVisitViolations trip ((candidate.days.flatMap DayPlan.items).filter
      isActivity)).filter Violation.isError = mustVisitViolations trip
        ((candidate.days.flatMap DayPlan.items).filter isActivity) := by
    refine List.filter_eq_self.mpr fun violation hmem => ?_
    obtain ⟨required, -, rfl⟩ := List.mem_map.mp hmem
    rfl
  simp only [candidateViolations, List.filter_append]
  rw [hdays, hbudget, hwarnings, hempty, hmissing, List.append_nil, List.append_nil,
    List.append_nil]

omit [Platform] in
theorem exists_datedItem {item : PlanItem} (h : item ∈ candidate.days.flatMap DayPlan.items) :
    ∃ date, (date, item) ∈ candidate.datedItems := by
  obtain ⟨day, hday, hitem⟩ := List.mem_flatMap.mp h
  exact ⟨day.date, List.mem_flatMap.mpr ⟨day, hday, List.mem_map_of_mem hitem⟩⟩

/-- What no item mentions is mentioned by no activity. -/
theorem unscheduledEntries_eq_nil
    (h : mustVisitViolations trip ((candidate.days.flatMap DayPlan.items).filter isActivity) =
      []) : unscheduledEntries trip candidate = [] := by
  refine List.filter_eq_nil_iff.mpr fun required hrequired hunscheduled => ?_
  have hscheduled := List.filter_eq_nil_iff.mp (List.map_eq_nil_iff.mp h) required hrequired
  rw [Bool.not_eq_true, Bool.not_eq_false', mustVisitScheduled, List.any_eq_true] at hscheduled
  obtain ⟨name, hname, hmentions⟩ := hscheduled
  obtain ⟨item, hitem, rfl⟩ := List.mem_map.mp hname
  obtain ⟨date, hdated⟩ := exists_datedItem (List.mem_of_mem_filter hitem)
  have hany : mustVisitScheduled (scheduledNames candidate) required = true :=
    List.any_eq_true.mpr ⟨_, List.mem_map_of_mem hdated, hmentions⟩
  rw [hany] at hunscheduled
  cases hunscheduled

/-- An action for a required entry is no action for a plan without any activity. -/
theorem key_ne_of_missing {action fallback : RepairAction}
    (h : action ∈ actionsForMissingMustVisit trip candidate draft pois)
    (hfallback : fallback.kind = .addAvailablePoi) : action.key ≠ fallback.key := by
  intro hkey
  obtain ⟨required, -, -, haction⟩ := exists_of_missingMustVisit h
  obtain ⟨poi, target, -, -, rfl⟩ := mustVisitAction_eq_some haction
  have hkind := (Prod.mk.inj hkey).1
  rw [hfallback] at hkind
  dsimp only at hkind
  split at hkind <;> exact nomatch hkind

section Reported

variable {activities : List PlanItem}

omit [Platform] in
/-- What is generated for a plan without any activity. -/
theorem flatMap_emptyPlanViolations [Platform] :
    (emptyPlanViolations activities).flatMap (actionsForViolation trip candidate draft pois) =
      if activities.isEmpty then actionsForEmptyPlan trip draft pois else [] := by
  unfold emptyPlanViolations
  split
  · rw [List.flatMap_singleton]
    simp [actionsForViolation, errorViolation]
  · rfl

/-- What is generated for each missing entry: the actions for all of them. -/
theorem actionsForViolation_of_mustVisit {violation : Violation}
    (h : violation ∈ mustVisitViolations trip activities) :
    actionsForViolation trip candidate draft pois violation =
      actionsForMissingMustVisit trip candidate draft pois := by
  obtain ⟨required, -, rfl⟩ := List.mem_map.mp h
  simp [actionsForViolation, errorViolation]

end Reported

variable (hvalidated : candidate.validation =
    some (validateCandidate trip { candidate with validation := none } pois))
  (herrors : ∀ violation ∈ errorViolations candidate,
    violation.type = "empty_plan" ∨ violation.type = "missing_must_visit")
  (hanswered : ∀ violation ∈ errorViolations candidate,
    actionsForViolation trip candidate draft pois violation ≠ [])

include hvalidated herrors hanswered

/-- When every error is answered, there is an action for every required entry that is missing. -/
theorem mapM_unscheduledEntries :
    (unscheduledEntries trip candidate).mapM (mustVisitAction trip draft pois) =
      some (actionsForMissingMustVisit trip candidate draft pois) := by
  have hgetD : actionsForMissingMustVisit trip candidate draft pois =
      ((unscheduledEntries trip candidate).mapM (mustVisitAction trip draft pois)).getD [] := rfl
  rw [hgetD]
  cases hactions : (unscheduledEntries trip candidate).mapM (mustVisitAction trip draft pois) with
  | some actions => rfl
  | none =>
    exfalso
    rw [hactions, Option.getD_none] at hgetD
    cases hreported : mustVisitViolations trip
        ((candidate.days.flatMap DayPlan.items).filter isActivity) with
    | nil =>
      rw [unscheduledEntries_eq_nil hreported] at hactions
      exact nomatch hactions
    | cons violation rest =>
      have hmem : violation ∈ mustVisitViolations trip
          ((candidate.days.flatMap DayPlan.items).filter isActivity) :=
        hreported ▸ List.mem_cons_self
      refine hanswered violation ?_ ((actionsForViolation_of_mustVisit hmem).trans hgetD)
      rw [errorViolations_of_missing hvalidated herrors]
      exact List.mem_append_right _ hmem

/-- When every error is answered, some place is put into a plan without any activity. -/
theorem fallbackActions_ne_nil
    (hnone : ((candidate.days.flatMap DayPlan.items).filter isActivity).isEmpty = true) :
    fallbackActions trip candidate draft pois ≠ [] := by
  rw [errorViolations_of_missing hvalidated herrors] at hanswered
  intro hnil
  have hreported : emptyPlanViolations
      ((candidate.days.flatMap DayPlan.items).filter isActivity) ≠ [] := by
    rw [emptyPlanViolations, if_pos hnone]
    exact List.cons_ne_nil _ _
  obtain ⟨violation, hviolation⟩ := List.exists_mem_of_ne_nil _ hreported
  obtain ⟨action, haction⟩ := List.exists_mem_of_ne_nil _
    (hanswered violation (List.mem_append_left _ hviolation))
  have hmem := List.mem_flatMap_of_mem hviolation haction
  rw [flatMap_emptyPlanViolations] at hmem
  change action ∈ fallbackActions trip candidate draft pois at hmem
  rw [hnil] at hmem
  exact absurd hmem List.not_mem_nil

/-- The actions of a plan when only places are missing: first one for a plan without any activity,
then those for the required entries. -/
theorem actions_of_missing
    (hactions : plan.actions = deduplicateActions []
      ((errorViolations candidate).flatMap (actionsForViolation trip candidate draft pois))) :
    plan.actions = fallbackActions trip candidate draft pois ++
      deduplicateActions [] (actionsForMissingMustVisit trip candidate draft pois) := by
  have hmapM := mapM_unscheduledEntries hvalidated herrors hanswered
  rw [hactions, errorViolations_of_missing hvalidated herrors, List.flatMap_append,
    flatMap_emptyPlanViolations, deduplicateActions_append]
  change deduplicateActions [] (fallbackActions trip candidate draft pois) ++ _ = _
  have hfallback : deduplicateActions [] (fallbackActions trip candidate draft pois) =
      fallbackActions trip candidate draft pois := by
    cases hsome : fallbackActions trip candidate draft pois with
    | nil => rfl
    | cons action rest =>
      obtain ⟨-, -, -, -, hone, -⟩ := fallbackActions_spec (hsome ▸ List.mem_cons_self)
      rw [← hsome, hone]
      rfl
  rw [hfallback]
  refine congrArg _ ?_
  rw [List.flatMap_congr fun violation hmem => actionsForViolation_of_mustVisit hmem]
  cases hreported : mustVisitViolations trip
      ((candidate.days.flatMap DayPlan.items).filter isActivity) with
  | nil =>
    rw [unscheduledEntries_eq_nil hreported] at hmapM
    rw [← Option.some.inj hmapM]
    rfl
  | cons violation rest =>
    rw [deduplicateActions_flatMap (List.cons_ne_nil _ _)]
    refine deduplicateActions_congr fun action haction => ?_
    rw [List.append_nil]
    refine iff_of_false (fun hmem => ?_) List.not_mem_nil
    obtain ⟨other, hother, hkey⟩ := List.mem_map.mp hmem
    obtain ⟨-, -, -, -, -, hkind, -⟩ := fallbackActions_spec hother
    exact key_ne_of_missing haction hkind hkey.symm

end Missing

/-! ## When there is nothing to do -/

section Standstill

variable [Platform] {trip : TripSpec} {pois : List PlanningPOI} {draft : CandidateDraft}
  {candidate : PlanCandidate} {plan : RepairPlan} {poi : PlanningPOI} {day : DraftDay}
  {action : RepairAction} {target : Date}

omit [Platform] in
theorem firstDayOf_eq (h : StandsOnlyOn draft.days poi.facts.id day) :
    firstDayOf draft poi = some day.date := by
  unfold firstDayOf
  cases hfound : draft.days.find? fun day => decide (poi.facts.id ∈ day.poiIds) with
  | none => exact absurd (decide_eq_true h.stands) (List.find?_eq_none.mp hfound day h.mem)
  | some other =>
    obtain ⟨hother, hstands⟩ := of_find?_decide hfound
    rw [h.only other hother hstands]
    rfl

omit [Platform] in
/-- A place that stands on the only day that suits it is put there. -/
theorem target_eq_of_only
    (hothers : ∀ other ∈ draft.days, other ≠ day → ¬ SuitsDay trip poi other.date)
    (htarget : (bestTargetDay trip draft poi (firstDayOf draft poi)).or
      (bestTargetDay trip draft poi none) = some target) : target = day.date := by
  obtain ⟨excluded, hbest⟩ : ∃ excluded, bestTargetDay trip draft poi excluded = some target :=
    (Option.or_eq_some_iff.mp htarget).elim (fun hbest => ⟨_, hbest⟩) fun hbest => ⟨_, hbest.2⟩
  obtain ⟨other, hother, rfl, -, hsuits⟩ := bestTargetDay_eq_some hbest
  by_contra hne
  exact hothers other hother (fun heq => hne (congrArg DraftDay.date heq)) hsuits

omit [Platform] in
/-- A place that is put on the only day on which it stands finds no other day. -/
theorem only_of_target_eq (hdates : (draft.days.map DraftDay.date).Nodup)
    (h : StandsOnlyOn draft.days poi.facts.id day)
    (htarget : (bestTargetDay trip draft poi (firstDayOf draft poi)).or
      (bestTargetDay trip draft poi none) = some day.date) :
    (∀ other ∈ draft.days, other ≠ day → ¬ SuitsDay trip poi other.date) ∧
      bestTargetDay trip draft poi none = some day.date := by
  rw [firstDayOf_eq h] at htarget
  obtain hbest | ⟨hnone, hbest⟩ := Option.or_eq_some_iff.mp htarget
  · obtain ⟨-, -, -, hother, -⟩ := bestTargetDay_eq_some hbest
    exact absurd rfl hother
  · refine ⟨fun other hother hne hsuits => ?_, hbest⟩
    obtain ⟨found, hfound⟩ := exists_bestTargetDay hother (fun heq => hne
      (List.inj_on_of_nodup_map hdates hother h.mem (Option.some.inj heq))) hsuits
    rw [hnone] at hfound
    exact nomatch hfound

/-- An action for a required entry puts the place that is found for it on its target day. -/
theorem place_of_missing (h : action ∈ actionsForMissingMustVisit trip candidate draft pois) :
    ∃ poi ∈ missingPlaces trip candidate pois, ∃ target, action.poiId = poi.facts.id ∧
      action.toDay = some target ∧
      (bestTargetDay trip draft poi (firstDayOf draft poi)).or
        (bestTargetDay trip draft poi none) = some target := by
  obtain ⟨required, hrequired, hunscheduled, haction⟩ := exists_of_missingMustVisit h
  obtain ⟨poi, target, hfound, htarget, rfl⟩ := mustVisitAction_eq_some haction
  refine ⟨poi, List.mem_filterMap.mpr ⟨required, List.mem_filter.mpr ⟨hrequired, ?_⟩, hfound⟩,
    target, rfl, rfl, htarget⟩
  rw [hunscheduled]
  rfl

theorem mem_of_mem_missingPlaces (h : poi ∈ missingPlaces trip candidate pois) : poi ∈ pois := by
  obtain ⟨required, -, hfound⟩ := List.mem_filterMap.mp h
  exact List.mem_of_find?_eq_some hfound

theorem mem_of_mem_fallbackPlace (h : poi ∈ fallbackPlace trip candidate draft pois) :
    poi ∈ pois := by
  unfold fallbackPlace at h
  split at h
  · exact mem_sortByKey.mp (List.mem_of_find?_eq_some h)
  · exact nomatch h

/-- With distinct ids the actions for one place are the same. -/
theorem key_eq_of_missing (hids : (pois.map fun poi => poi.facts.id).Nodup)
    (h : action ∈ actionsForMissingMustVisit trip candidate draft pois) {other : RepairAction}
    (hother : other ∈ actionsForMissingMustVisit trip candidate draft pois)
    (hsame : action.poiId = other.poiId) : action.key = other.key := by
  obtain ⟨required, -, -, haction⟩ := exists_of_missingMustVisit h
  obtain ⟨poi, target, hfound, htarget, rfl⟩ := mustVisitAction_eq_some haction
  obtain ⟨required', -, -, haction'⟩ := exists_of_missingMustVisit hother
  obtain ⟨poi', target', hfound', htarget', rfl⟩ := mustVisitAction_eq_some haction'
  obtain rfl := List.inj_on_of_nodup_map hids (List.mem_of_find?_eq_some hfound)
    (List.mem_of_find?_eq_some hfound') hsame
  obtain rfl := Option.some.inj (htarget.symm.trans htarget')
  rfl

/-- The actions of a plan when only places are missing, as calls for places. -/
structure CallsFor (trip : TripSpec) (candidate : PlanCandidate) (draft : CandidateDraft)
    (pois : List PlanningPOI) (fallback missing : List RepairAction) : Prop where
  fallbackPlaces : fallback.map RepairAction.poiId =
    (fallbackPlace trip candidate draft pois).toList.map fun poi => poi.facts.id
  fallbackTarget : ∀ action ∈ fallback, ∃ poi target,
    fallbackPlace trip candidate draft pois = some poi ∧ action.poiId = poi.facts.id ∧
      action.toDay = some target ∧ bestTargetDay trip draft poi none = some target
  missingPlaces : missing.map RepairAction.poiId =
    ((TravelPlanAgent.missingPlaces trip candidate pois).map fun poi => poi.facts.id).eraseDups
  missingTarget : ∀ action ∈ missing,
    ∃ poi ∈ TravelPlanAgent.missingPlaces trip candidate pois, ∃ target,
      action.poiId = poi.facts.id ∧ action.toDay = some target ∧
        (bestTargetDay trip draft poi (firstDayOf draft poi)).or
          (bestTargetDay trip draft poi none) = some target
  insertion : ∀ action ∈ fallback ++ missing, action.kind ≠ .removeOptionalPoi

variable {fallback missing : List RepairAction}

theorem CallsFor.calledFor_eq (h : CallsFor trip candidate draft pois fallback missing) :
    ((fallback ++ missing).map RepairAction.poiId).dedup = calledFor trip candidate draft pois := by
  rw [List.map_append, h.fallbackPlaces, h.missingPlaces]
  rfl

/-- Every call is for a day of the draft. -/
theorem CallsFor.exists_day (h : CallsFor trip candidate draft pois fallback missing)
    (haction : action ∈ fallback ++ missing) :
    ∃ day ∈ draft.days, action.toDay = some day.date := by
  obtain ⟨poi, target, excluded, hto, hbest⟩ : ∃ poi target excluded,
      action.toDay = some target ∧ bestTargetDay trip draft poi excluded = some target := by
    rcases List.mem_append.mp haction with hfallback | hmissing
    · obtain ⟨poi, target, -, -, hto, hbest⟩ := h.fallbackTarget action hfallback
      exact ⟨poi, target, none, hto, hbest⟩
    · obtain ⟨poi, -, target, -, hto, htarget⟩ := h.missingTarget action hmissing
      rcases Option.or_eq_some_iff.mp htarget with hbest | ⟨-, hbest⟩
      · exact ⟨poi, target, _, hto, hbest⟩
      · exact ⟨poi, target, _, hto, hbest⟩
  obtain ⟨day, hday, rfl⟩ := exists_of_bestTargetDay hbest
  exact ⟨day, hday, hto⟩

/-- The last calls are those for required entries, after that for another place. -/
theorem CallsFor.lastCalls_eq (h : CallsFor trip candidate draft pois fallback missing) :
    lastCalls (fallback ++ missing) = fallback.filter
      (fun action => decide (action.poiId ∉ missing.map RepairAction.poiId)) ++ missing := by
  have hmissing : (missing.map RepairAction.poiId).Nodup := by
    rw [h.missingPlaces]
    exact nodup_eraseDups _
  have hfallback : (fallback.map RepairAction.poiId).Nodup := by
    rw [h.fallbackPlaces]
    cases fallbackPlace trip candidate draft pois with
    | none => exact List.nodup_nil
    | some poi => exact List.nodup_singleton _
  rw [lastCalls_append, lastCalls_of_nodup hmissing, lastCalls_of_nodup hfallback]

/-- The calls leave the days as they are exactly when each called place stands on its only or its
best day, before the others. -/
theorem CallsFor.revisedDays_eq_self_iff (hdates : (draft.days.map DraftDay.date).Nodup)
    (hids : (pois.map fun poi => poi.facts.id).Nodup)
    (h : CallsFor trip candidate draft pois fallback missing) :
    revisedDays (fallback ++ missing) draft.days = draft.days ↔
      (∀ poi ∈ TravelPlanAgent.missingPlaces trip candidate pois, ∃ day,
        StandsOnlyOn draft.days poi.facts.id day ∧
          ∀ other ∈ draft.days, other ≠ day → ¬ SuitsDay trip poi other.date) ∧
      (∀ poi ∈ fallbackPlace trip candidate draft pois, ∃ day,
        StandsOnlyOn draft.days poi.facts.id day ∧
          bestTargetDay trip draft poi none = some day.date) ∧
      ∀ day ∈ draft.days, BeginsWith (calledFor trip candidate draft pois) day := by
  rw [revisedDays_eq_self_iff_of_insertions hdates h.insertion fun action => h.exists_day,
    h.calledFor_eq, ← and_assoc]
  refine and_congr_left fun _ => ⟨fun hstands => ?_, fun ⟨hmissing, hfallback⟩ => ?_⟩
  · -- A missing place stands on one day, finds no other, and this day is also the best.
    have hplaced : ∀ poi ∈ TravelPlanAgent.missingPlaces trip candidate pois, ∃ day,
        StandsOnlyOn draft.days poi.facts.id day ∧
          (∀ other ∈ draft.days, other ≠ day → ¬ SuitsDay trip poi other.date) ∧
            bestTargetDay trip draft poi none = some day.date := by
      intro poi hpoi
      have hcalled : poi.facts.id ∈ missing.map RepairAction.poiId := by
        rw [h.missingPlaces, List.mem_eraseDups]
        exact List.mem_map_of_mem hpoi
      obtain ⟨action, haction, hid⟩ := List.mem_map.mp hcalled
      obtain ⟨day, honly, hto⟩ := hstands action
        (h.lastCalls_eq ▸ List.mem_append_right _ haction)
      obtain ⟨other, hother, target, hid', hto', htarget⟩ := h.missingTarget action haction
      obtain rfl := List.inj_on_of_nodup_map hids (mem_of_mem_missingPlaces hother)
        (mem_of_mem_missingPlaces hpoi) (hid'.symm.trans hid)
      obtain rfl := Option.some.inj (hto'.symm.trans hto)
      rw [hid'] at honly
      exact ⟨day, honly, only_of_target_eq hdates honly htarget⟩
    refine ⟨fun poi hpoi => ?_, fun poi hpoi => ?_⟩
    · obtain ⟨day, honly, hothers, -⟩ := hplaced poi hpoi
      exact ⟨day, honly, hothers⟩
    · by_cases hcalled : poi.facts.id ∈ missing.map RepairAction.poiId
      · rw [h.missingPlaces, List.mem_eraseDups] at hcalled
        obtain ⟨other, hother, hid⟩ := List.mem_map.mp hcalled
        have hsame : other = poi := List.inj_on_of_nodup_map hids
          (mem_of_mem_missingPlaces hother) (mem_of_mem_fallbackPlace hpoi) hid
        obtain ⟨day, honly, -, hbest⟩ := hplaced other hother
        exact ⟨day, hsame ▸ honly, hsame ▸ hbest⟩
      · have hfirst : poi.facts.id ∈ fallback.map RepairAction.poiId := by
          rw [h.fallbackPlaces, hpoi]
          exact List.mem_singleton_self _
        obtain ⟨action, haction, hid⟩ := List.mem_map.mp hfirst
        have hlast : action ∈ lastCalls (fallback ++ missing) := by
          rw [h.lastCalls_eq]
          exact List.mem_append_left _ (List.mem_filter.mpr
            ⟨haction, decide_eq_true (hid ▸ hcalled)⟩)
        obtain ⟨day, honly, hto⟩ := hstands action hlast
        obtain ⟨other, target, hother, hid', hto', hbest⟩ := h.fallbackTarget action haction
        obtain rfl := Option.some.inj (hother.symm.trans hpoi)
        obtain rfl := Option.some.inj (hto'.symm.trans hto)
        exact ⟨day, hid' ▸ honly, hbest⟩
  · intro action haction
    rcases List.mem_append.mp (mem_of_mem_lastCalls haction) with hcall | hcall
    · obtain ⟨poi, target, hpoi, hid, hto, hbest⟩ := h.fallbackTarget action hcall
      obtain ⟨day, honly, hday⟩ := hfallback poi hpoi
      exact ⟨day, hid ▸ honly, hto.trans (hbest.symm.trans hday)⟩
    · obtain ⟨poi, hpoi, target, hid, hto, htarget⟩ := h.missingTarget action hcall
      obtain ⟨day, honly, hothers⟩ := hmissing poi hpoi
      exact ⟨day, hid ▸ honly,
        hto.trans (congrArg some (target_eq_of_only hothers htarget))⟩

/-- The actions of a plan are such calls when only places are missing. -/
theorem callsFor_of_missing (hids : (pois.map fun poi => poi.facts.id).Nodup)
    (hvalidated : candidate.validation =
      some (validateCandidate trip { candidate with validation := none } pois))
    (herrors : ∀ violation ∈ errorViolations candidate,
      violation.type = "empty_plan" ∨ violation.type = "missing_must_visit")
    (hanswered : ∀ violation ∈ errorViolations candidate,
      actionsForViolation trip candidate draft pois violation ≠ []) :
    CallsFor trip candidate draft pois (fallbackActions trip candidate draft pois)
      (deduplicateActions [] (actionsForMissingMustVisit trip candidate draft pois)) where
  fallbackPlaces := by
    cases hactions : fallbackActions trip candidate draft pois with
    | nil =>
      cases hplace : fallbackPlace trip candidate draft pois with
      | none => rfl
      | some poi =>
        unfold fallbackPlace at hplace
        split at hplace
        · next hnone =>
          exact absurd hactions (fallbackActions_ne_nil hvalidated herrors hanswered hnone)
        · exact nomatch hplace
    | cons action rest =>
      obtain ⟨poi, target, hplace, -, hone, -, hid, -⟩ :=
        fallbackActions_spec (hactions ▸ List.mem_cons_self)
      rw [← hactions, hone, hplace, List.map_singleton, hid]
      rfl
  fallbackTarget action haction := by
    obtain ⟨poi, target, hplace, hbest, -, -, hid, hto⟩ := fallbackActions_spec haction
    exact ⟨poi, target, hplace, hid, hto, hbest⟩
  missingPlaces := by
    rw [map_poiId_deduplicateActions fun action haction other hother =>
      key_eq_of_missing hids haction hother]
    have hmapM := mapM_unscheduledEntries hvalidated herrors hanswered
    rw [List.filter_eq_self.mpr fun action _ => decide_eq_true List.not_mem_nil,
      map_poiId_of_mapM hmapM]
    rfl
  missingTarget action haction :=
    place_of_missing ((mem_deduplicateActions _ []).1 action haction)
  insertion action haction := by
    rcases List.mem_append.mp haction with hfallback | hmissing
    · obtain ⟨-, -, -, -, -, hkind, -⟩ := fallbackActions_spec hfallback
      rw [hkind]
      exact nofun
    · exact (insertsPlace_of_missingMustVisit
        ((mem_deduplicateActions _ []).1 action hmissing)).1.kind

variable {settings settings' : RouteSettings} {routes : Routes}

/-- A plan that is built for a candidate leaves the days as they are exactly when there is nothing
to do. -/
theorem revisedDays_eq_self_iff_nothingToDo {report : CriticReport} {repairRound : ℕ}
    {reason : Option String} (hdates : (draft.days.map DraftDay.date).Nodup)
    (hids : (pois.map fun poi => poi.facts.id).Nodup)
    (hcandidate : MaterializedFrom trip settings pois routes draft candidate)
    (hvalidated : candidate.validation =
      some (validateCandidate trip { candidate with validation := none } pois))
    (hplan : buildRepairPlan trip candidate draft pois report repairRound = (some plan, reason)) :
    revisedDays plan.actions draft.days = draft.days ↔
      NothingToDo trip candidate draft pois := by
  obtain ⟨hbuilt, -⟩ := builtFrom_of_buildRepairPlan hplan
  by_cases herrors : ∀ violation ∈ errorViolations candidate,
      violation.type = "empty_plan" ∨ violation.type = "missing_must_visit"
  · have hcalls := callsFor_of_missing hids hvalidated herrors hbuilt.answered
    rw [actions_of_missing hvalidated herrors hbuilt.answered (actions_of_buildRepairPlan hplan),
      hcalls.revisedDays_eq_self_iff hdates hids]
    constructor
    · rintro ⟨hmissing, hfallback, hfirst⟩
      exact ⟨herrors, hmissing, hfallback, hfirst⟩
    · rintro ⟨-, hmissing, hfallback, hfirst⟩
      exact ⟨hmissing, hfallback, hfirst⟩
  · push Not at herrors
    obtain ⟨violation, hviolation, hempty, hmissing⟩ := herrors
    refine iff_of_false (revisedDays_ne_of_otherError hdates hids hcandidate.follows hvalidated
      hbuilt hviolation hempty hmissing) fun hnothing => ?_
    exact (hnothing.errors violation hviolation).elim hempty hmissing

/-- **When a repair plan can be applied.**  The plan that is built for a materialised and validated
candidate can be applied exactly when there is something to do: some error is about what is
scheduled, or some place that is missing does not stand first on the only or best day for it. -/
theorem applies_iff {report : CriticReport} {repairRound : ℕ} {reason : Option String}
    (hdates : (draft.days.map DraftDay.date).Nodup)
    (hids : (pois.map fun poi => poi.facts.id).Nodup)
    (hcandidate : MaterializedFrom trip settings pois routes draft candidate)
    (hvalidated : candidate.validation =
      some (validateCandidate trip { candidate with validation := none } pois))
    (hplan : buildRepairPlan trip candidate draft pois report repairRound = (some plan, reason)) :
    (∃ repaired applied,
        applyRepairPlan trip draft pois plan settings' = .ok (repaired, applied)) ↔
      ¬ NothingToDo trip candidate draft pois := by
  obtain ⟨hbuilt, -⟩ := builtFrom_of_buildRepairPlan hplan
  rw [← revisedDays_eq_self_iff_nothingToDo hdates hids hcandidate hvalidated hplan]
  constructor
  · rintro ⟨repaired, applied, happly⟩
    rw [← days_of_applyRepairPlan hdates happly]
    exact (applyRepairPlan_eq_ok happly).2.2.1
  · refine applyRepairPlan_exists _ _ hdates hcandidate.known (fun action haction day hday => ?_)
      fun action haction hkind => hbuilt.knownPlace haction hkind
    obtain ⟨violation, -, haction⟩ := hbuilt.sound action haction
    exact hcandidate.follows.date_of_names haction (names_of_landsOn hday)

end Standstill

namespace Sample

/-- A day trip that has to visit `a`. -/
def dayTrip : TripSpec :=
  { trip with
    endDate := day1, departure := ⟨"station", at_ day1 20, north 0⟩, mustVisit := ["a"]
    startDate_le_endDate := by decide +kernel
    departure_le_endDate := sameDay_departure
    arrival_lt_departure := arrival_lt_evening }

/-- A place that closes before it is reached. -/
def unreachablePoi : PlanningPOI :=
  { poi "a" 1 60 with
    openingWindows := Dict.ofList
      [(day1, ⟨TimeOfDay.ofHourMinute 9 0, TimeOfDay.ofHourMinute 10 0, nine_lt_ten⟩)] }

def stuckDraft : CandidateDraft := ⟨"balanced-r0", .balanced, [⟨day1, ["a"]⟩]⟩

def stuckRoutes : Routes := @routesFor plainPlatform [stuckDraft] [unreachablePoi] settings

end Sample

/-- The place that has to be visited stands first on its only day, but is not reached in time:
putting it there changes nothing. -/
theorem exists_not_applies :
    ∃ candidate plan,
      @plannedRepair plainPlatform Sample.dayTrip [Sample.unreachablePoi] Sample.stuckRoutes
        Sample.settings Sample.stuckDraft = .ok (candidate, plan) ∧
      @applyRepairPlan plainPlatform Sample.dayTrip Sample.stuckDraft [Sample.unreachablePoi]
        plan Sample.settings =
          .error (.valueError "repair plan did not change candidate draft") := by
  let := plainPlatform
  have hrun : okAnd (plannedRepair Sample.dayTrip [Sample.unreachablePoi] Sample.stuckRoutes
      Sample.settings Sample.stuckDraft) (fun round =>
        match applyRepairPlan Sample.dayTrip Sample.stuckDraft [Sample.unreachablePoi] round.2
          Sample.settings with
        | .ok _ => false
        | .error failure =>
          decide (failure = .valueError "repair plan did not change candidate draft")) =
      true := by decide +kernel
  obtain ⟨⟨candidate, plan⟩, hplanned, hfails⟩ := okAnd_eq_true hrun
  refine ⟨candidate, plan, hplanned, ?_⟩
  cases happly : applyRepairPlan Sample.dayTrip Sample.stuckDraft [Sample.unreachablePoi] plan
      Sample.settings with
  | ok repaired =>
    rw [happly] at hfails
    exact nomatch hfails
  | error failure =>
    rw [happly] at hfails
    exact congrArg Except.error (of_decide_eq_true hfails)

/-- The removal of a dear place can be applied. -/
theorem applies_iff_sample :
    ∃ candidate plan,
      @plannedRepair plainPlatform Sample.guidedTrip Sample.guidedPois Sample.guidedRoutes
        Sample.settings Sample.guidedDraft = .ok (candidate, plan) ∧
      ∃ repaired applied, @applyRepairPlan plainPlatform Sample.guidedTrip Sample.guidedDraft
        Sample.guidedPois plan Sample.settings = .ok (repaired, applied) := by
  let := plainPlatform
  have hrun : okAnd (plannedRepair Sample.guidedTrip Sample.guidedPois Sample.guidedRoutes
      Sample.settings Sample.guidedDraft) (fun round =>
        (errorViolations round.1).any fun violation =>
          decide (violation.type = "budget_exceeded")) = true := by
    decide +kernel
  obtain ⟨⟨candidate, plan⟩, hplanned, hover⟩ := okAnd_eq_true hrun
  obtain ⟨violation, hviolation, htype⟩ := List.any_eq_true.mp hover
  obtain ⟨hcandidate, hvalidated, hplan⟩ := plannedRepair_eq_ok (by decide +kernel) hplanned
  refine ⟨candidate, plan, hplanned,
    (applies_iff (by decide +kernel) (by decide +kernel) hcandidate hvalidated hplan).mpr
      fun hnothing => ?_⟩
  have herrors := hnothing.errors violation hviolation
  rw [of_decide_eq_true htype] at herrors
  exact absurd herrors (by decide)

end TravelPlanAgent
