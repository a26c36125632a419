import TravelPlanAgent.Graph.Nodes
import TravelPlanAgent.Planning.RepairEffects

/-!
# What a repair may change

A repair plan names the days that it affects; the node `validate_candidates` compares the other
days of the repaired candidate with those before.  An action that puts a place on a day takes it
out of every other day, whether the plan names that day or not.

* `RepairsLocally`: the named days and the preserved ones are the days of the draft, the
  preserved days keep their places, and the node finds them as they were.
* `StaysOnNamedDays`: no generator moves a place from a day that none of them names.
* `requirePreserved_of_days`: the guard passes when the preserved days are planned from the same
  places and routes.
* `repairsLocally_iff`: repairs are local exactly under that condition.
* `staysOnNamedDays_of_not_empty`: which holds unless something is added to an empty plan.
-/

namespace TravelPlanAgent

open Calendar Selection PlanningGraph

variable [Platform]

/-- An action that a generator makes for an error of a candidate. -/
def Generated (trip : TripSpec) (candidate : PlanCandidate) (draft : CandidateDraft)
    (pois : List PlanningPOI) (action : RepairAction) : Prop :=
  ∃ violation ∈ errorViolations candidate,
    action ∈ actionsForViolation trip candidate draft pois violation

/-- The routes that the preserved days look up are unchanged. -/
def KeepsRoutes (trip : TripSpec) (settings : RouteSettings) (pois : List PlanningPOI)
    (draft : CandidateDraft) (preservedDays : List Date) (routes routes' : Routes) : Prop :=
  ∀ day ∈ draft.days, day.date ∈ preservedDays → ∀ queries,
    dayQueries settings pois trip.anchorCoordinate none day.poiIds = .ok queries →
      ∀ query ∈ queries, routes'.get? (routeKey query) = routes.get? (routeKey query)

/-- A repair changes the days that its plan names and no other. -/
structure RepairsLocally (trip : TripSpec) (settings : RouteSettings) (candidate : PlanCandidate)
    (draft : CandidateDraft) (pois : List PlanningPOI) (plan : RepairPlan) : Prop where
  covered : ∀ day, day ∈ draft.days.map DraftDay.date ↔
    day ∈ plan.affectedDays ∨ day ∈ plan.preservedDays
  disjoint : ∀ day ∈ plan.affectedDays, day ∉ plan.preservedDays
  kept : ∀ repaired applied,
    applyRepairPlan trip draft pois plan settings = .ok (repaired, applied) →
      ∀ day ∈ draft.days, day.date ∈ plan.preservedDays →
      ∀ day' ∈ repaired.days, day'.date = day.date → day'.poiIds = day.poiIds
  guarded : ∀ repaired applied,
    applyRepairPlan trip draft pois plan settings = .ok (repaired, applied) →
      ∀ routes routes' after, MaterializedFrom trip settings pois routes draft candidate →
      MaterializedFrom trip settings pois routes' repaired after →
      KeepsRoutes trip settings pois draft plan.preservedDays routes routes' →
        requirePreserved "local repair changed preserved day: "
          (preservedHashes candidate plan.preservedDays) after = .ok ()

/-- No generator names a day outside of the draft, or moves a place from a day that none of them
names. -/
structure StaysOnNamedDays (trip : TripSpec) (candidate : PlanCandidate) (draft : CandidateDraft)
    (pois : List PlanningPOI) : Prop where
  dates : ∀ action, Generated trip candidate draft pois action →
    ∀ day, action.Names day → day ∈ draft.days.map DraftDay.date
  places : ∀ action, Generated trip candidate draft pois action →
    action.kind ≠ .removeOptionalPoi → ∀ day ∈ draft.days, action.poiId ∈ day.poiIds →
      ∃ other, Generated trip candidate draft pois other ∧ other.Names day.date

section Guard

variable {trip : TripSpec} {settings : RouteSettings} {pois : List PlanningPOI}
  {routes routes' : Routes} {draft repaired : CandidateDraft} {candidate after : PlanCandidate}

/-- A day of a draft has its planned day in the candidate. -/
theorem MaterializedFrom.planned_day
    (h : MaterializedFrom trip settings pois routes draft candidate) {day : DraftDay}
    (hday : day ∈ draft.days) : ∃ materialized,
      materializeDay trip settings pois routes day = .ok materialized ∧
        materialized.day ∈ candidate.days := by
  obtain ⟨planDay, hplanDay, built, hbuilt, rfl⟩ := exists_of_forall₂_left h.planned_days hday
  exact ⟨built, hbuilt, hplanDay⟩

/-- The guard passes when every preserved day is in both candidates. -/
theorem requirePreserved_of_days {preservedDays : List Date} {complaint : String}
    (hdates : (after.days.map DayPlan.date).Nodup)
    (h : ∀ day ∈ candidate.days, day.date ∈ preservedDays → day ∈ after.days) :
    requirePreserved complaint (preservedHashes candidate preservedDays) after = .ok () := by
  refine forM_require_eq_ok.mpr fun ⟨dayText, expected⟩ hentry => ?_
  have hentry := Dict.mem_of_get?_ofList (Dict.mem_entries_iff.mp hentry)
  obtain ⟨day, hday, heq⟩ := List.mem_map.mp hentry
  obtain ⟨rfl, rfl⟩ := Prod.mk.inj heq
  obtain ⟨hday, hpreserved⟩ := List.mem_filter.mp hday
  have hafter := h day hday (of_decide_eq_true hpreserved)
  rw [lastWith_eq_some_of_unique hafter (decide_eq_true rfl), Option.map_some]
  intro other hother hsame
  exact List.inj_on_of_nodup_map hdates hother hafter
    (Date.isoformat_inj.mp (of_decide_eq_true hsame))

/-- A draft day that both drafts have is the same planned day, when its routes are unchanged. -/
theorem mem_days_of_keepsRoutes {preservedDays : List Date}
    (hdates : (draft.days.map DraftDay.date).Nodup)
    (hcandidate : MaterializedFrom trip settings pois routes draft candidate)
    (hafter : MaterializedFrom trip settings pois routes' repaired after)
    (hroutes : KeepsRoutes trip settings pois draft preservedDays routes routes')
    (hkept : ∀ day ∈ draft.days, day.date ∈ preservedDays → day ∈ repaired.days) {day : DayPlan}
    (hday : day ∈ candidate.days) (hpreserved : day.date ∈ preservedDays) : day ∈ after.days := by
  obtain ⟨draftDay, hdraftDay, hof⟩ := exists_of_forall₂_right hcandidate.follows.days hday
  obtain ⟨materialized, hmaterialized, hmem⟩ := hcandidate.planned_day hdraftDay
  have hsame : materialized.day = day := by
    have hnodup : (candidate.days.map DayPlan.date).Nodup :=
      hcandidate.follows.dates.symm ▸ hdates
    refine List.inj_on_of_nodup_map hnodup hmem hday ?_
    exact (followsDraftDay_of_materializeDay hmaterialized).date.trans hof.date.symm
  rw [hof.date] at hpreserved
  obtain ⟨queries, hqueries⟩ := dayQueries_exists settings
    (hcandidate.known draftDay hdraftDay) trip.anchorCoordinate none
  obtain ⟨materialized', hmaterialized', hmem'⟩ :=
    hafter.planned_day (hkept draftDay hdraftDay hpreserved)
  rw [materializeDay_congr hqueries (fun _ _ => rfl)
    (hroutes draftDay hdraftDay hpreserved queries hqueries), hmaterialized] at hmaterialized'
  cases hmaterialized'
  exact hsame ▸ hmem'

end Guard

/-! ## Locality -/

section Locality

variable {trip : TripSpec} {candidate : PlanCandidate} {draft : CandidateDraft}
  {pois : List PlanningPOI} {plan : RepairPlan}

omit [Platform] in
theorem names_of_key_eq {action other : RepairAction} (h : action.key = other.key) {day : Date} :
    action.Names day ↔ other.Names day := by
  obtain ⟨-, hrest⟩ := Prod.mk.inj h
  obtain ⟨-, hdays⟩ := Prod.mk.inj hrest
  obtain ⟨hfrom, hto⟩ := Prod.mk.inj hdays
  rw [RepairAction.Names, RepairAction.Names, hfrom, hto]

/-- The affected days are those that a generated action names. -/
theorem BuiltFrom.mem_affectedDays_iff (h : BuiltFrom trip candidate draft pois plan)
    {day : Date} : day ∈ plan.affectedDays ↔
      ∃ action, Generated trip candidate draft pois action ∧ action.Names day := by
  rw [h.mem_affectedDays]
  constructor
  · rintro ⟨action, haction, hnames⟩
    exact ⟨action, h.sound action haction, hnames⟩
  · rintro ⟨action, ⟨violation, hviolation, haction⟩, hnames⟩
    obtain ⟨kept, hkept, hkey⟩ := h.complete violation hviolation action haction
    exact ⟨kept, hkept, (names_of_key_eq hkey).mpr hnames⟩

/-- What a plan that moves no place from an unnamed day does. -/
theorem repairsLocally_of_staysOnNamedDays {settings : RouteSettings}
    (hdates : (draft.days.map DraftDay.date).Nodup)
    (hbuilt : BuiltFrom trip candidate draft pois plan)
    (h : StaysOnNamedDays trip candidate draft pois) :
    RepairsLocally trip settings candidate draft pois plan := by
  have hunnamed : ∀ day ∈ plan.preservedDays, ∀ action,
      Generated trip candidate draft pois action → ¬ action.Names day := by
    intro day hday action haction hnames
    exact ((hbuilt.mem_preservedDays day).mp hday).2
      (hbuilt.mem_affectedDays_iff.mpr ⟨action, haction, hnames⟩)
  have hsame : ∀ repaired applied,
      applyRepairPlan trip draft pois plan settings = .ok (repaired, applied) →
        ∀ day ∈ draft.days, day.date ∈ plan.preservedDays →
          ∀ day' ∈ repaired.days, day'.date = day.date → day' = day := by
    intro repaired applied happly day hday hpreserved day' hday' heq
    rw [days_of_applyRepairPlan hdates happly] at hday'
    obtain ⟨old, hold, rfl⟩ := List.mem_map.mp hday'
    obtain rfl : old = day := List.inj_on_of_nodup_map hdates hold hday heq
    have hself : reviseAll plan.actions old.date old.poiIds = old.poiIds := by
      refine reviseAll_eq_self (fun action haction _ hfrom => ?_)
        (fun action haction _ hto => ?_) (fun action haction hkind hmem => ?_)
      · exact hunnamed _ hpreserved action (hbuilt.sound action haction) (.inl hfrom)
      · exact hunnamed _ hpreserved action (hbuilt.sound action haction) (.inr hto)
      · obtain ⟨other, hother, hnames⟩ :=
          h.places action (hbuilt.sound action haction) hkind old hold hmem
        exact hunnamed _ hpreserved other hother hnames
    rw [hself]
  refine ⟨fun day => ⟨fun hday => ?_, ?_⟩, fun day haffected hpreserved => ?_,
    fun repaired applied happly day hday hpreserved day' hday' heq => ?_,
    fun repaired applied happly routes routes' after hcandidate hafter hroutes => ?_⟩
  · by_cases haffected : day ∈ plan.affectedDays
    · exact .inl haffected
    · exact .inr ((hbuilt.mem_preservedDays day).mpr ⟨hday, haffected⟩)
  · rintro (haffected | hpreserved)
    · obtain ⟨action, haction, hnames⟩ := hbuilt.mem_affectedDays_iff.mp haffected
      exact h.dates action haction day hnames
    · exact ((hbuilt.mem_preservedDays day).mp hpreserved).1
  · exact ((hbuilt.mem_preservedDays day).mp hpreserved).2 haffected
  · rw [hsame repaired applied happly day hday hpreserved day' hday' heq]
  · have hrepaired : repaired.days.map DraftDay.date = draft.days.map DraftDay.date := by
      rw [days_of_applyRepairPlan hdates happly, dates_revisedDays]
    refine requirePreserved_of_days ?_ fun day hday hpreserved =>
      mem_days_of_keepsRoutes hdates hcandidate hafter hroutes (fun draftDay hdraftDay hmem => ?_)
        hday hpreserved
    · rw [hafter.follows.dates, hrepaired]
      exact hdates
    · have hdate : draftDay.date ∈ repaired.days.map DraftDay.date :=
        hrepaired ▸ List.mem_map_of_mem hdraftDay
      obtain ⟨day', hday', heq⟩ := List.mem_map.mp hdate
      exact hsame repaired applied happly draftDay hdraftDay hmem day' hday' heq ▸ hday'

/-- **Repairs are local.**  The named and the preserved days are the days of the draft, and the
preserved days keep their places, exactly when no generator moves a place from a day that none
of them names; then the node `validate_candidates` finds the preserved days as they were. -/
theorem repairsLocally_iff {settings : RouteSettings} {report : CriticReport} {repairRound : ℕ}
    {reason : Option String} (hdates : (draft.days.map DraftDay.date).Nodup)
    (hknown : KnowsDraft pois draft)
    (hplan : buildRepairPlan trip candidate draft pois report repairRound = (some plan, reason)) :
    RepairsLocally trip settings candidate draft pois plan ↔
      StaysOnNamedDays trip candidate draft pois := by
  obtain ⟨hbuilt, -⟩ := builtFrom_of_buildRepairPlan hplan
  refine ⟨fun h => ?_, repairsLocally_of_staysOnNamedDays hdates hbuilt⟩
  have hnamed : ∀ action, Generated trip candidate draft pois action →
      ∀ day, action.Names day → day ∈ draft.days.map DraftDay.date := by
    intro action haction day hnames
    exact (h.covered day).mpr (.inl (hbuilt.mem_affectedDays_iff.mpr ⟨action, haction, hnames⟩))
  refine ⟨hnamed, fun action haction hkind day hday hmem => ?_⟩
  by_contra hunnamed
  have hpreserved : day.date ∈ plan.preservedDays := by
    refine (hbuilt.mem_preservedDays _).mpr ⟨List.mem_map_of_mem hday, fun haffected => ?_⟩
    exact hunnamed (hbuilt.mem_affectedDays_iff.mp haffected)
  obtain ⟨violation, hviolation, hgenerated⟩ := haction
  obtain ⟨kept, hkept, hkey⟩ := hbuilt.complete violation hviolation action hgenerated
  have hsameKind : kept.kind = action.kind := congrArg Prod.fst hkey
  have hkeptKind : kept.kind ≠ .removeOptionalPoi := hsameKind ▸ hkind
  have hkeptPoi : kept.poiId = action.poiId := congrArg (fun key => key.2.1) hkey
  -- The place is taken out of the day and put on no unnamed day.
  have hgone : action.poiId ∉ reviseAll plan.actions day.date day.poiIds := by
    refine not_mem_reviseAll (fun _ => ⟨kept, hkept, hkeptPoi, fun hkind => absurd hkind hkeptKind⟩)
      fun other hother _ _ hto => hunnamed ⟨other, hbuilt.sound other hother, .inr hto⟩
  have hrevised : (⟨day.date, reviseAll plan.actions day.date day.poiIds⟩ : DraftDay) ∈
      revisedDays plan.actions draft.days := List.mem_map_of_mem hday
  have hchanged : revisedDays plan.actions draft.days ≠ draft.days := by
    intro hunchanged
    rw [hunchanged] at hrevised
    have heq := List.inj_on_of_nodup_map hdates hrevised hday rfl
    have hpoiIds : reviseAll plan.actions day.date day.poiIds = day.poiIds :=
      congrArg DraftDay.poiIds heq
    exact hgone (hpoiIds.symm ▸ hmem)
  obtain ⟨repaired, applied, happly⟩ := applyRepairPlan_exists trip settings hdates hknown
    (fun other hother date hdate => hnamed other (hbuilt.sound other hother) date
      (names_of_landsOn hdate))
    (fun other hother hinserts => hbuilt.knownPlace hother hinserts) hchanged
  have hkeeps : reviseAll plan.actions day.date day.poiIds = day.poiIds :=
    h.kept repaired applied happly day hday hpreserved
    ⟨day.date, reviseAll plan.actions day.date day.poiIds⟩
    (days_of_applyRepairPlan hdates happly ▸ hrevised) rfl
  exact hgone (hkeeps.symm ▸ hmem)

/-- Unless something is added to an empty plan, no place is moved from an unnamed day. -/
theorem staysOnNamedDays_of_not_empty (hfollows : FollowsDraft pois draft candidate)
    (hdistinct : (draft.days.flatMap DraftDay.poiIds).Nodup)
    (hne : ∀ violation ∈ errorViolations candidate, violation.type ≠ "empty_plan") :
    StaysOnNamedDays trip candidate draft pois := by
  refine ⟨?_, ?_⟩
  · rintro action ⟨violation, -, haction⟩ day hnames
    exact hfollows.date_of_names haction hnames
  · rintro action ⟨violation, hviolation, haction⟩ hkind day hday hmem
    refine ⟨action, ⟨violation, hviolation, haction⟩, .inl ?_⟩
    obtain ⟨hstands, hknows⟩ := standsOn_fromDay haction
    obtain ⟨fromDay, hfrom⟩ :=
      Option.ne_none_iff_exists'.mp (hknows (hne violation hviolation) ⟨day, hday, hmem⟩)
    obtain ⟨draftDay, hdraftDay, rfl, hmem'⟩ := hfollows.stands (hstands fromDay hfrom)
    exact day_unique hdistinct hdraftDay hday hmem' hmem ▸ hfrom

end Locality

namespace Sample

omit [Platform]

/-- The text of the last field of an object, which is the cost of a day. -/
def lastText : Json → String
  | .obj fields => match fields.getLast? with
    | some (_, .str text) => text
    | _ => ""
  | _ => ""

/-- A platform on which days have the same hash when they cost the same. -/
@[reducible] def costPlatform : Platform :=
  { plainPlatform with jsonHash := lastText, decimalText := fun q => toString q.num }

/-- A place that closes at ten on the first day, too early to be reached. -/
def earlyPoi : PlanningPOI :=
  { poi "a" 1 60 with
    openingWindows := Dict.ofList
      [(day1, ⟨TimeOfDay.ofHourMinute 9 0, TimeOfDay.ofHourMinute 10 0, nine_lt_ten⟩),
       (day2, openingHours)] }

def blockedPois : List PlanningPOI := [earlyPoi, { poi "b" 2 60 with partyCost := some 20 }]

def blockedDraft : CandidateDraft :=
  ⟨"balanced-r0", .balanced, [⟨day1, ["a", "b"]⟩, ⟨day2, []⟩]⟩

def movedDraft : CandidateDraft :=
  ⟨"balanced-r0-repair-r1", .balanced, [⟨day1, ["b"]⟩, ⟨day2, ["a"]⟩]⟩

def blockedRoutes : Routes :=
  @routesFor costPlatform [blockedDraft, movedDraft] blockedPois settings

/-- The round of the blocked draft, and the guard on its result. -/
theorem blockedRound :
    okAnd (@repairRound costPlatform trip blockedPois blockedRoutes settings blockedDraft)
      (fun (candidate, plan, repaired, _) =>
        decide (day1 ∈ plan.preservedDays) && decide (repaired.days = movedDraft.days) &&
        okAnd (@materializeCandidate costPlatform trip settings blockedPois blockedRoutes
          repaired) (fun after =>
            decide (@requirePreserved costPlatform "local repair changed preserved day: "
              (@preservedHashes costPlatform candidate plan.preservedDays) after =
                .error (.runtimeError "local repair changed preserved day: 2026-10-01")))) =
      true := by
  decide +kernel

end Sample

omit [Platform] in
/-- On the first day the first place cannot be reached before it closes, so nothing is scheduled.
The plan puts that place on the second day and preserves the first; without it the other place of
the first day is scheduled, and the guard raises. -/
theorem exists_not_repairsLocally :
    ∃ candidate plan repaired applied after,
      @repairRound Sample.costPlatform Sample.trip Sample.blockedPois Sample.blockedRoutes
        Sample.settings Sample.blockedDraft = .ok (candidate, plan, repaired, applied) ∧
      Sample.day1 ∈ plan.preservedDays ∧ repaired.days = Sample.movedDraft.days ∧
      ¬ @RepairsLocally Sample.costPlatform Sample.trip Sample.settings candidate
        Sample.blockedDraft Sample.blockedPois plan ∧
      @materializeCandidate Sample.costPlatform Sample.trip Sample.settings Sample.blockedPois
        Sample.blockedRoutes repaired = .ok after ∧
      @requirePreserved Sample.costPlatform "local repair changed preserved day: "
        (@preservedHashes Sample.costPlatform candidate plan.preservedDays) after =
          .error (.runtimeError "local repair changed preserved day: 2026-10-01") := by
  let := Sample.costPlatform
  obtain ⟨⟨candidate, plan, repaired, applied⟩, hround, hrun⟩ := okAnd_eq_true Sample.blockedRound
  simp only [Bool.and_eq_true, decide_eq_true_eq] at hrun
  obtain ⟨⟨hpreserved, hdays⟩, hafter⟩ := hrun
  obtain ⟨after, hafter, hguard⟩ := okAnd_eq_true hafter
  refine ⟨candidate, plan, repaired, applied, after, hround, hpreserved, hdays,
    fun hlocal => ?_, hafter, of_decide_eq_true hguard⟩
  obtain ⟨-, happly⟩ := repairRound_eq_ok hround
  have hkept := hlocal.kept repaired applied happly ⟨Sample.day1, ["a", "b"]⟩ (by decide)
    hpreserved ⟨Sample.day1, ["b"]⟩ (hdays ▸ by decide) rfl
  exact absurd hkept (by decide)

omit [Platform] in
/-- Removing a dear place from a full day is local. -/
theorem repairsLocally_iff_sample :
    ∃ candidate plan repaired applied,
      @repairRound plainPlatform Sample.guidedTrip Sample.guidedPois Sample.guidedRoutes
        Sample.settings Sample.guidedDraft = .ok (candidate, plan, repaired, applied) ∧
      @RepairsLocally plainPlatform Sample.guidedTrip Sample.settings candidate
        Sample.guidedDraft Sample.guidedPois plan := by
  let := plainPlatform
  have hrun : okAnd (repairRound Sample.guidedTrip Sample.guidedPois Sample.guidedRoutes
      Sample.settings Sample.guidedDraft) (fun (candidate, _, _, _) =>
        decide (∀ violation ∈ errorViolations candidate, violation.type ≠ "empty_plan")) =
        true := by decide +kernel
  obtain ⟨⟨candidate, plan, repaired, applied⟩, hround, hne⟩ := okAnd_eq_true hrun
  obtain ⟨hplanned, -⟩ := repairRound_eq_ok hround
  obtain ⟨hcandidate, -, hplan⟩ := plannedRepair_eq_ok (by decide +kernel) hplanned
  refine ⟨candidate, plan, repaired, applied, hround, ?_⟩
  exact (repairsLocally_iff (by decide +kernel) hcandidate.known hplan).mpr
    (staysOnNamedDays_of_not_empty hcandidate.follows (by decide +kernel)
      (of_decide_eq_true hne))

end TravelPlanAgent
