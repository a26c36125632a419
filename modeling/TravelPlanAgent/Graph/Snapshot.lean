import TravelPlanAgent.Graph.Delivery
import TravelPlanAgent.Planning.Locality
import TravelPlanAgent.Planning.Materialized
import TravelPlanAgent.Planning.Solver

/-!
# The snapshot of a planning run

A session is created from the last checkpoint of its planning run: the candidates, the drafts, the
places and the routes.  Candidates and drafts are replaced by solving, by hard repair, by soft
repair, by restoring and by merging, and routes are loaded in between; the checkpoint still says
which draft every candidate was made of.

* `MadeOf`, `Paired`: candidates and the drafts they were made of.
* `materializeCandidates_of_keepsStored`: routes under new keys change no candidate.
* `Unprefixed`: ids of which none begins another one, as those of the drafts of a run.
* `SnapshotFacts`, `snapshotFacts_next`: what holds before each node.
* `paired_of_runPlanning`: the checkpoint of every run that ends.
-/

namespace TravelPlanAgent

open Calendar Selection PlanningGraph

variable [Platform]

/-! ## Candidates and their drafts -/

/-- The planner makes a candidate of a draft; only its validation is attached later. -/
def MadeOf (setup : PlanningSetup) (state : TravelState) (draft : CandidateDraft)
    (candidate : PlanCandidate) : Prop :=
  materializeCandidates state.trip [draft] state.planningPois state.routeResults
    setup.policy.routeSettings = .ok [{ candidate with validation := none }]

/-- Candidates that were made of drafts, one by one. -/
def Paired (setup : PlanningSetup) (state : TravelState) (drafts : List CandidateDraft)
    (candidates : List PlanCandidate) : Prop :=
  List.Forall₂ (MadeOf setup state) drafts candidates

/-- Every route that is stored stays as it is. -/
def KeepsStored (routes routes' : Routes) : Prop :=
  ∀ key, routes.contains key = true → routes'.get? key = routes.get? key

section Materialising

variable {trip : TripSpec} {settings : RouteSettings} {pois : List PlanningPOI}
  {routes routes' : Routes} {drafts : List CandidateDraft} {candidates : List PlanCandidate}

/-- What a successful materialisation has found: every route that it needs is stored. -/
theorem materializeCandidates_eq_ok
    (h : materializeCandidates trip drafts pois routes settings = .ok candidates) :
    ∃ queries, collectRouteQueries trip drafts pois settings = .ok queries ∧
      (∀ query ∈ queries, routes.contains (routeKey query) = true) ∧
      drafts.mapM (materializeCandidate trip settings pois routes) = .ok candidates := by
  obtain ⟨queries, hqueries, h⟩ := bind_eq_ok h
  obtain ⟨_, hstored, h⟩ := bind_eq_ok h
  exact ⟨queries, hqueries, fun query hquery => require_eq_ok (forM_eq_ok.mp hstored query hquery),
    h⟩

/-- The routes of some drafts that are stored are those of each of their days. -/
theorem stored_dayQueries {queries : List RouteQuery}
    (hqueries : collectRouteQueries trip drafts pois settings = .ok queries)
    (hstored : ∀ query ∈ queries, routes.contains (routeKey query) = true)
    {draft : CandidateDraft} (hdraft : draft ∈ drafts) {day : DraftDay} (hday : day ∈ draft.days) :
    ∃ dayQs, dayQueries settings pois trip.anchorCoordinate none day.poiIds = .ok dayQs ∧
      ∀ query ∈ dayQs, routes.contains (routeKey query) = true := by
  obtain ⟨dayQs, hdayQs, hkeys⟩ := exists_dayQueries_of_collect hqueries hdraft hday
  refine ⟨dayQs, hdayQs, fun query hquery => ?_⟩
  obtain ⟨other, hother, hkey⟩ := List.mem_map.mp (hkeys query hquery)
  rw [← hkey]
  exact hstored other hother

/-- A draft can be materialised alone when the routes of its days are stored. -/
theorem materializeCandidates_singleton {draft : CandidateDraft} {candidate : PlanCandidate}
    (hdays : ∀ day ∈ draft.days, ∃ dayQs,
      dayQueries settings pois trip.anchorCoordinate none day.poiIds = .ok dayQs ∧
        ∀ query ∈ dayQs, routes.contains (routeKey query) = true)
    (h : materializeCandidate trip settings pois routes draft = .ok candidate) :
    materializeCandidates trip [draft] pois routes settings = .ok [candidate] := by
  obtain ⟨perDay, hperDay⟩ := exists_mapM fun day hday =>
    (hdays day hday).imp fun _ hdayQs => hdayQs.1
  have hcollect : collectRouteQueries trip [draft] pois settings =
      .ok (firstByKey [] perDay.flatten) := by
    rw [collectRouteQueries, List.flatMap_singleton, hperDay]
    rfl
  have hstored : ∀ query ∈ firstByKey [] perDay.flatten,
      routes.contains (routeKey query) = true := by
    intro query hquery
    have hkey : routeKey query ∈ perDay.flatten.map routeKey :=
      (mem_keys_firstByKey.mp (List.mem_map_of_mem hquery)).1
    obtain ⟨other, hother, hkey⟩ := List.mem_map.mp hkey
    obtain ⟨dayQs, hmem, hother⟩ := List.mem_flatten.mp hother
    obtain ⟨day, hday, hdayQs⟩ := exists_of_forall₂_right (mapM_eq_ok.mp hperDay) hmem
    obtain ⟨dayQs', hdayQs', hall⟩ := hdays day hday
    obtain rfl : dayQs' = dayQs := Except.ok.inj (hdayQs'.symm.trans hdayQs)
    rw [← hkey]
    exact hall other hother
  have hcheck : (firstByKey [] perDay.flatten).forM (fun query =>
      require (routes.contains (routeKey query)) (.missingRouteResult (routeKey query))) =
        .ok ⟨⟩ := forM_require_eq_ok.mpr hstored
  have hmade : [draft].mapM (materializeCandidate trip settings pois routes) = .ok [candidate] :=
    mapM_eq_ok.mpr (.cons h .nil)
  simp only [materializeCandidates, hcollect, bind, Except.bind, hcheck, hmade]

/-- Every candidate is made of its own draft alone. -/
theorem forall₂_of_materializeCandidates
    (h : materializeCandidates trip drafts pois routes settings = .ok candidates) :
    List.Forall₂ (fun draft candidate =>
      materializeCandidates trip [draft] pois routes settings =
        .ok [{ candidate with validation := none }]) drafts candidates := by
  obtain ⟨queries, hqueries, hstored, hmade⟩ := materializeCandidates_eq_ok h
  refine List.forall₂_iff_zip.mpr
    ⟨(mapM_eq_ok.mp hmade).length_eq, fun {draft candidate} hzip => ?_⟩
  have hplanned := (List.forall₂_iff_zip.mp (materializedFrom_of_materializeCandidates h)).2 hzip
  exact materializeCandidates_singleton
    (fun day hday => stored_dayQueries hqueries hstored (List.of_mem_zip hzip).1 hday)
    hplanned.planned

/-- Routes under new keys change nothing about a draft that could be materialised before. -/
theorem materializeCandidates_of_keepsStored (hkeeps : KeepsStored routes routes')
    {draft : CandidateDraft} {candidate : PlanCandidate}
    (h : materializeCandidates trip [draft] pois routes settings = .ok [candidate]) :
    materializeCandidates trip [draft] pois routes' settings = .ok [candidate] := by
  obtain ⟨queries, hqueries, hstored, hmade⟩ := materializeCandidates_eq_ok h
  have hdays := fun (day : DraftDay) (hday : day ∈ draft.days) =>
    stored_dayQueries hqueries hstored (List.mem_singleton_self draft) hday
  have hmade : materializeCandidate trip settings pois routes draft = .ok candidate := by
    cases mapM_eq_ok.mp hmade with
    | cons hfirst _ => exact hfirst
  refine materializeCandidates_singleton (fun day hday => ?_) ?_
  · obtain ⟨dayQs, hdayQs, hall⟩ := hdays day hday
    refine ⟨dayQs, hdayQs, fun query hquery => ?_⟩
    rw [Dict.contains, hkeeps _ (hall query hquery)]
    exact hall query hquery
  · rw [← hmade, materializeCandidate, materializeCandidate]
    rw [mapM_congr fun day hday => ?_]
    obtain ⟨dayQs, hdayQs, hall⟩ := hdays day hday
    exact materializeDay_congr hdayQs (fun _ _ => rfl) fun query hquery =>
      hkeeps _ (hall query hquery)

end Materialising

section Pairs

variable {setup : PlanningSetup} {state after : TravelState} {draft : CandidateDraft}
  {candidate : PlanCandidate} {drafts : List CandidateDraft} {candidates : List PlanCandidate}

/-- A candidate has the id of its draft. -/
theorem MadeOf.id_eq (h : MadeOf setup state draft candidate) : candidate.id = draft.id := by
  obtain ⟨_, -, -, hmade⟩ := materializeCandidates_eq_ok h
  cases mapM_eq_ok.mp hmade with
  | cons hfirst _ =>
    obtain ⟨days, -, hcandidate⟩ := bind_eq_ok hfirst
    exact (congrArg PlanCandidate.id (Except.ok.inj hcandidate)).symm

theorem Paired.ids_eq (h : Paired setup state drafts candidates) :
    candidates.map PlanCandidate.id = drafts.map CandidateDraft.id := by
  rw [← List.forall₂_eq_eq_eq, List.forall₂_map_left_iff, List.forall₂_map_right_iff]
  exact h.flip.imp fun _ _ hmade => MadeOf.id_eq hmade

/-- Candidates stay paired while the trip, the places and the stored routes stay. -/
theorem Paired.keep (h : Paired setup state drafts candidates) (htrip : after.trip = state.trip)
    (hpois : after.planningPois = state.planningPois)
    (hroutes : KeepsStored state.routeResults after.routeResults) :
    Paired setup after drafts candidates := by
  refine h.imp fun draft candidate hmade => ?_
  rw [MadeOf, htrip, hpois]
  exact materializeCandidates_of_keepsStored hroutes hmade

omit [Platform] in
theorem keepsStored_of_eq {routes routes' : Routes} (h : routes' = routes) :
    KeepsStored routes routes' := fun key _ => by rw [h]

/-- A validation is attached to the candidate that was made. -/
theorem Paired.validated (h : Paired setup state drafts candidates) :
    Paired setup state drafts
      (candidates.map (PlanningGraph.validated state.trip state.planningPois)) := by
  rw [Paired, List.forall₂_map_right_iff]
  exact h

/-- A draft and its candidate are left out together. -/
theorem Paired.without (h : Paired setup state drafts candidates) (id : String) :
    Paired setup state (drafts.filter fun draft => decide (draft.id ≠ id))
      (candidates.filter fun candidate => decide (candidate.id ≠ id)) := by
  refine List.rel_filter (fun draft candidate hmade => ?_) h
  dsimp only
  rw [MadeOf.id_eq hmade]

theorem paired_of_materialize (h : materialize setup state = .ok after) :
    Paired setup after after.candidateDrafts after.candidates := by
  obtain ⟨candidates, hcandidates, rfl⟩ := materialize_eq_ok h
  exact forall₂_of_materializeCandidates hcandidates

end Pairs

/-! ## Ids of drafts -/

/-- Ids of which none begins another one. -/
def Unprefixed (ids : List String) : Prop :=
  ∀ a ∈ ids, ∀ b ∈ ids, a.toList <+: b.toList → a = b

section Ids

omit [Platform]

theorem unprefixed_singleton (id : String) : Unprefixed [id] := by
  intro a ha b hb _
  rw [List.mem_singleton.mp ha, List.mem_singleton.mp hb]

/-- A longer id than one of them is a new one. -/
theorem Unprefixed.not_mem_append {ids : List String} (h : Unprefixed ids) {id tail : String}
    (hid : id ∈ ids) (htail : tail ≠ "") : id ++ tail ∉ ids := by
  intro hmem
  have heq := h id hid _ hmem (by rw [String.toList_append]; exact List.prefix_append ..)
  refine htail (String.toList_inj.mp ?_)
  have hlist := congrArg String.toList heq
  rw [String.toList_append, List.self_eq_append_right] at hlist
  exact hlist

/-- The names of the styles begin with different letters. -/
theorem unprefixed_styles (styles : List PlanStyle) (tail : String) :
    Unprefixed (styles.map fun style => style.value ++ tail) := by
  intro a ha b hb hbegins
  obtain ⟨style, -, rfl⟩ := List.mem_map.mp ha
  obtain ⟨other, -, rfl⟩ := List.mem_map.mp hb
  have hnonempty (style : PlanStyle) : style.value.toList ≠ [] := by
    cases style <;> decide
  obtain ⟨rest, hrest⟩ := hbegins
  have hfirst : style.value.toList.head? = other.value.toList.head? := by
    have hheads := congrArg List.head? hrest
    rwa [String.toList_append, String.toList_append, List.append_assoc,
      List.head?_append_of_ne_nil _ (hnonempty style),
      List.head?_append_of_ne_nil _ (hnonempty other)] at hheads
  have hsame : style = other := by
    revert hfirst
    cases style <;> cases other <;> decide
  rw [hsame]

end Ids

/-! ## What holds before each node -/

/-- The solver answers no style twice. -/
def AnswersOnce (world : PlanningWorld) : Prop :=
  ∀ problem result, world.solve problem = .solved result →
    (result.solutions.map OptimizationSolution.style).Nodup

omit [Platform] in
/-- As the solver of the program does not, whatever the constraint solver below it finds. -/
theorem answersOnce_of_solve {world : PlanningWorld} {cpSat : CpSat}
    (h : world.solve = solve cpSat) : AnswersOnce world := by
  intro problem result hsolved
  rw [h] at hsolved
  exact nodup_styles_of_solve hsolved

/-- No soft repair is pending, and the drafts can be told apart. -/
structure BeforeSoft (state : TravelState) : Prop where
  notPending : state.pendingSoftReplanRound = none
  ids : (state.candidateDrafts.map CandidateDraft.id).Nodup
  unprefixed : Unprefixed (state.candidateDrafts.map CandidateDraft.id)

/-- A soft repair is pending, and its draft is a new one beside those that are put aside. -/
structure Shelved (setup : PlanningSetup) (state : TravelState) : Prop where
  pending : state.pendingSoftReplanRound.isSome = true
  paired : Paired setup state state.softBaselineCandidateDrafts state.softBaselineCandidates
  baselineIds : (state.softBaselineCandidateDrafts.map CandidateDraft.id).Nodup
  ids : (state.candidateDrafts.map CandidateDraft.id).Nodup
  fresh : ∀ draft ∈ state.candidateDrafts,
    draft.id ∉ state.softBaselineCandidateDrafts.map CandidateDraft.id

/-- The candidates and the drafts of a state belong together. -/
structure BelongTogether (setup : PlanningSetup) (state : TravelState) : Prop where
  paired : Paired setup state state.candidateDrafts state.candidates
  ids : (state.candidateDrafts.map CandidateDraft.id).Nodup

/-- What holds of candidates and drafts before each node. -/
def SnapshotFacts (setup : PlanningSetup) (state : TravelState) : PlanningNode → Prop
  | .executionBudgetGuard | .buildSearchPlan | .loadPois | .resolvePoiFacts | .buildRouteMatrix
  | .buildOptimizationProblem | .solveCandidateVariants => state.pendingSoftReplanRound = none
  | .materializeOptimizedCandidates | .materializeCandidates | .applyLocalRepair
  | .collectDeltaRoutes | .loadDeltaRoutes => BeforeSoft state
  | .selectRepairTarget | .analyzeViolations | .buildRepairPlan | .compileSoftRepairPlan =>
    BelongTogether setup state ∧ BeforeSoft state
  | .validateCandidates | .prepareCriticContext | .softConstraintCritic | .validateCriticEvidence
  | .qualityGate => BelongTogether setup state ∧ (BeforeSoft state ∨ Shelved setup state)
  | .applySoftRepair =>
    Paired setup state state.softBaselineCandidateDrafts state.softBaselineCandidates ∧
      (state.softBaselineCandidateDrafts.map CandidateDraft.id).Nodup ∧
      Unprefixed (state.softBaselineCandidateDrafts.map CandidateDraft.id)
  | .collectSoftDeltaRoutes | .materializeSoftCandidate | .restoreSoftBaseline =>
    Shelved setup state
  | .loadSoftDeltaRoutes => Shelved setup state ∧
    ∀ query ∈ state.deltaRouteQueries, state.routeResults.contains (routeKey query) = false
  | .compareSoftRepair => BelongTogether setup state ∧ Shelved setup state
  | _ => BelongTogether setup state

/-- What holds of candidates and drafts wherever a run is. -/
def SnapshotInvariant (setup : PlanningSetup) (state : TravelState) : Option PlanningNode → Prop
  | some node => SnapshotFacts setup state node
  | none => BelongTogether setup state

variable {setup : PlanningSetup} {world : PlanningWorld} {n : ℕ}
  {run runAfter : Option RunContext} {state after : TravelState} {node : PlanningNode}

section Kept

omit [Platform] in
theorem BeforeSoft.keep (h : BeforeSoft state) (hframe : Frame node state after)
    (hdrafts : node ∉ [.solveCandidateVariants, .applyLocalRepair, .applySoftRepair,
      .restoreSoftBaseline, .compareSoftRepair])
    (hpending : node ∉ [.applySoftRepair, .restoreSoftBaseline, .compareSoftRepair]) :
    BeforeSoft after where
  notPending := (hframe.softPending hpending).trans h.notPending
  ids := hframe.drafts hdrafts ▸ h.ids
  unprefixed := hframe.drafts hdrafts ▸ h.unprefixed

theorem Shelved.keep (h : Shelved setup state) (hframe : Frame node state after)
    (hroutes : KeepsStored state.routeResults after.routeResults)
    (hpois : node ≠ .resolvePoiFacts)
    (hdrafts : node ∉ [.solveCandidateVariants, .applyLocalRepair, .applySoftRepair,
      .restoreSoftBaseline, .compareSoftRepair])
    (hpending : node ∉ [.applySoftRepair, .restoreSoftBaseline, .compareSoftRepair])
    (hbaseline : node ∉ [.compileSoftRepairPlan, .restoreSoftBaseline, .compareSoftRepair]) :
    Shelved setup after := by
  obtain ⟨hcandidates, hbaselineDrafts, -, -, -⟩ := hframe.baseline hbaseline
  refine ⟨?_, ?_, ?_, ?_, ?_⟩
  · rw [hframe.softPending hpending]
    exact h.pending
  · rw [hcandidates, hbaselineDrafts]
    exact h.paired.keep hframe.trip (hframe.planningPois hpois) hroutes
  · rw [hbaselineDrafts]
    exact h.baselineIds
  · rw [hframe.drafts hdrafts]
    exact h.ids
  · rw [hframe.drafts hdrafts, hbaselineDrafts]
    exact h.fresh

theorem BelongTogether.keep (h : BelongTogether setup state) (hframe : Frame node state after)
    (hroutes : KeepsStored state.routeResults after.routeResults)
    (hpois : node ≠ .resolvePoiFacts)
    (hdrafts : node ∉ [.solveCandidateVariants, .applyLocalRepair, .applySoftRepair,
      .restoreSoftBaseline, .compareSoftRepair])
    (hcandidates : node ∉ [.materializeOptimizedCandidates, .materializeCandidates,
      .materializeSoftCandidate, .validateCandidates, .applyLocalRepair, .applySoftRepair,
      .restoreSoftBaseline, .compareSoftRepair]) : BelongTogether setup after where
  paired := by
    rw [hframe.drafts hdrafts, hframe.candidates hcandidates]
    exact h.paired.keep hframe.trip (hframe.planningPois hpois) hroutes
  ids := hframe.drafts hdrafts ▸ h.ids

omit [Platform] in
/-- Storing the answers to queries that were missing keeps what is stored. -/
theorem keepsStored_loadDelta {text : String} (h : loadDelta world n state text = .ok after)
    (hmissing : ∀ query ∈ state.deltaRouteQueries,
      state.routeResults.contains (routeKey query) = false) :
    KeepsStored state.routeResults after.routeResults := by
  obtain ⟨answers, routes, hanswers, hroutes, rfl⟩ := loadDelta_eq_ok h
  intro key hkey
  refine get?_storeRoutes hroutes fun hanswered => ?_
  obtain ⟨query, hquery, rfl⟩ := List.mem_map.mp (keys_getRoutes hanswers hanswered)
  rw [hmissing query hquery] at hkey
  cases hkey

/-- The queries of a delta are missing, unless everything is planned again. -/
theorem missing_of_collectDelta {text : String} (hreuse : setup.overrides.fullReplan = false)
    (h : collectDelta setup state text = .ok after) :
    ∀ query ∈ after.deltaRouteQueries, after.routeResults.contains (routeKey query) = false := by
  obtain ⟨draft, rest, delta, -, hdelta, rfl⟩ := collectDelta_eq_ok h
  rw [hreuse] at hdelta
  obtain ⟨required, -, hdelta⟩ := bind_eq_ok hdelta
  cases hdelta
  intro query hquery
  exact Bool.not_eq_true' _ ▸ (List.mem_filter.mp hquery).2

end Kept

/-! ## Steps -/

section OneStep

/-- The drafts of an answer that names no style twice can be told apart. -/
theorem unprefixed_of_draftsFor {answer : SolverAnswer} {drafts : List CandidateDraft}
    {result : OptimizationResult}
    (honce : ∀ solved, answer = .solved solved →
      (solved.solutions.map OptimizationSolution.style).Nodup)
    (h : draftsFor state answer = .ok (drafts, result)) :
    (drafts.map CandidateDraft.id).Nodup ∧ Unprefixed (drafts.map CandidateDraft.id) := by
  have hheuristic : ((prepareCandidateDrafts state.trip state.optimizationPois 0).map
        CandidateDraft.id).Nodup ∧
      Unprefixed ((prepareCandidateDrafts state.trip state.optimizationPois 0).map
        CandidateDraft.id) := by
    refine ⟨nodup_prepareCandidateDrafts .., ?_⟩
    have hids : (prepareCandidateDrafts state.trip state.optimizationPois 0).map
        CandidateDraft.id = PlanStyle.all.map fun style => style.value ++ ("-r" ++ toString 0) := by
      rw [prepareCandidateDrafts, List.map_map]
      exact List.map_congr_left fun style _ => String.append_assoc ..
    rw [hids]
    exact unprefixed_styles _ _
  unfold draftsFor at h
  split at h
  · cases h
  · cases h
    exact hheuristic
  · split at h
    · cases h
      exact hheuristic
    · cases h
      refine ⟨nodup_draftsFromOptimization.mpr (honce _ rfl), ?_⟩
      have hids : (draftsFromOptimization result).map CandidateDraft.id =
          (result.solutions.map OptimizationSolution.style).map
            fun style => style.value ++ "-opt-r0" := by
        rw [draftsFromOptimization, List.map_map, List.map_map]
        rfl
      rw [hids]
      exact unprefixed_styles _ _

/-- A validation leads to where the candidates belong. -/
theorem snapshotFacts_validate (h : validate state = .ok after)
    (hframe : Frame .validateCandidates state after)
    (htogether : BelongTogether setup state) (hsoft : BeforeSoft state ∨ Shelved setup state) :
    SnapshotFacts setup after (routeAfterValidation setup after) := by
  have hroutes : KeepsStored state.routeResults after.routeResults :=
    keepsStored_of_eq (hframe.routes (by decide))
  have hafter : BelongTogether setup after := by
    obtain ⟨-, ⟨-, rfl⟩ | ⟨round, attempt, -, -, rfl⟩⟩ := validate_eq_ok h
    · exact ⟨htogether.paired.validated, htogether.ids⟩
    · exact ⟨htogether.paired.validated, htogether.ids⟩
  have hsoft : BeforeSoft after ∨ Shelved setup after := hsoft.imp
    (fun hbefore => hbefore.keep hframe (by decide) (by decide))
    fun hshelved => hshelved.keep hframe hroutes (by decide) (by decide) (by decide) (by decide)
  unfold routeAfterValidation
  dsimp only
  split
  · next hrestore =>
    refine hsoft.resolve_left fun hbefore => ?_
    rw [hbefore.notPending] at hrestore
    exact absurd hrestore.1 Bool.false_ne_true
  · next hrestore =>
    split
    · split
      · exact hafter
      · exact ⟨hafter, hsoft⟩
    · next hnone =>
      split
      · refine ⟨hafter, hsoft.resolve_right fun hshelved => ?_⟩
        exact hrestore ⟨hshelved.pending, not_not.mp hnone⟩
      · exact hafter

/-- A local repair leaves one draft. -/
theorem beforeSoft_applyLocalRepair (h : PlanningGraph.applyLocalRepair setup state = .ok after)
    (hpending : state.pendingSoftReplanRound = none) : BeforeSoft after := by
  obtain ⟨_, _, repaired, _, _, _, _, _, _, -, rfl⟩ := applyLocalRepair_eq_ok h
  exact ⟨hpending, List.nodup_singleton _, unprefixed_singleton _⟩

omit [Platform] in
/-- The draft of a soft repair is named after the one that it changes. -/
theorem id_of_applySoftRepair {draft repaired : CandidateDraft} {plan : SoftRepairPlan}
    (h : TravelPlanAgent.applySoftRepair draft plan = .ok repaired) :
    repaired.id = draft.id ++ ("-soft-r" ++ toString plan.round) := by
  obtain ⟨_, -, h⟩ := bind_eq_ok h
  obtain ⟨_, -, h⟩ := bind_eq_ok h
  obtain ⟨_, -, h⟩ := bind_eq_ok h
  cases h
  exact String.append_assoc ..

omit [Platform] in
theorem softSuffix_ne_empty (round : ℕ) : "-soft-r" ++ toString round ≠ "" := by
  intro hempty
  have hlist := congrArg String.toList hempty
  rw [String.toList_append] at hlist
  exact absurd (List.append_eq_nil_iff.mp hlist).1 (by decide)

/-- A soft repair puts the candidates aside and starts from a new draft. -/
theorem shelved_applySoftRepair (h : PlanningGraph.applySoftRepair state = .ok after)
    (hpaired : Paired setup state state.softBaselineCandidateDrafts state.softBaselineCandidates)
    (hids : (state.softBaselineCandidateDrafts.map CandidateDraft.id).Nodup)
    (hunprefixed : Unprefixed (state.softBaselineCandidateDrafts.map CandidateDraft.id)) :
    Shelved setup after := by
  obtain ⟨plan, _, _, draft, hdraft, repaired, -, -, -, hrepaired, rfl⟩ :=
    PlanningGraph.applySoftRepair_eq_ok h
  refine ⟨rfl, hpaired, hids, List.nodup_singleton _, fun other hother => ?_⟩
  obtain rfl := List.mem_singleton.mp hother
  rw [id_of_applySoftRepair hrepaired]
  exact hunprefixed.not_mem_append (List.mem_map_of_mem hdraft) (softSuffix_ne_empty _)

/-- A repair that is compared is merged beside the others or gives way to all of them. -/
theorem belongTogether_compareSoftRepair
    (h : PlanningGraph.compareSoftRepair setup state = .ok after)
    (htogether : BelongTogether setup state) (hshelved : Shelved setup state) :
    BelongTogether setup after := by
  obtain ⟨plan, before, -, -, ⟨-, attempt, -, rfl⟩ | ⟨-, reason, hrestored⟩⟩ :=
    compareSoftRepair_eq_ok h
  · refine ⟨List.rel_append (hshelved.paired.without _) htogether.paired, ?_⟩
    dsimp only [mergeSoftRepair]
    rw [List.map_append, List.nodup_append]
    refine ⟨hshelved.baselineIds.sublist (List.filter_sublist.map _), htogether.ids, ?_⟩
    rintro id hid other hother rfl
    obtain ⟨draft, hdraft, rfl⟩ := List.mem_map.mp hother
    exact hshelved.fresh draft hdraft ((List.filter_sublist.map _).subset hid)
  · obtain ⟨plan, attempt, -, rfl⟩ := restoreSoftValues_eq_ok hrestored
    exact ⟨hshelved.paired, hshelved.baselineIds⟩

/-- Every node keeps what holds of candidates and drafts. -/
theorem snapshotFacts_next (honce : AnswersOnce world)
    (hreuse : setup.overrides.fullReplan = false)
    (h : node.execute setup world n run state = .ok (after, runAfter))
    (hfacts : SnapshotFacts setup state node) :
    SnapshotInvariant setup after (node.next setup after) := by
  have hframe := frame_of_execute h
  have hroutes (hnode : node ∉ [.buildRouteMatrix, .loadDeltaRoutes, .loadSoftDeltaRoutes]) :
      KeepsStored state.routeResults after.routeResults := keepsStored_of_eq (hframe.routes hnode)
  cases node with
  | executionBudgetGuard | buildSearchPlan | loadPois | resolvePoiFacts | buildRouteMatrix
  | buildOptimizationProblem => exact (hframe.softPending (by decide)).trans hfacts
  | solveCandidateVariants =>
    obtain ⟨problem, drafts, result, hdrafts, rfl⟩ :=
      solveCandidateVariants_eq_ok (plainNode_eq_ok h)
    obtain ⟨hids, hunprefixed⟩ := unprefixed_of_draftsFor (fun solved hsolved => by
      split at hsolved
      · cases hsolved
      · exact honce problem solved hsolved) hdrafts
    exact ⟨hfacts, hids, hunprefixed⟩
  | materializeOptimizedCandidates | materializeCandidates =>
    have hbefore : BeforeSoft after := BeforeSoft.keep hfacts hframe (by decide) (by decide)
    have hafter : BelongTogether setup after :=
      ⟨paired_of_materialize (plainNode_eq_ok h), hbefore.ids⟩
    change SnapshotFacts setup after (validationTarget setup)
    unfold validationTarget
    split
    · exact hafter
    · exact ⟨hafter, .inl hbefore⟩
  | materializeSoftCandidate =>
    have hshelved : Shelved setup after := Shelved.keep hfacts hframe (hroutes (by decide))
      (by decide) (by decide) (by decide) (by decide)
    exact ⟨⟨paired_of_materialize (plainNode_eq_ok h), hshelved.ids⟩, .inr hshelved⟩
  | validateCandidates =>
    exact snapshotFacts_validate (plainNode_eq_ok h) hframe hfacts.1 hfacts.2
  | selectRepairTarget =>
    exact ⟨hfacts.1.keep hframe (hroutes (by decide)) (by decide) (by decide) (by decide),
      hfacts.2.keep hframe (by decide) (by decide)⟩
  | analyzeViolations =>
    have hafter : BelongTogether setup after ∧ BeforeSoft after :=
      ⟨hfacts.1.keep hframe (hroutes (by decide)) (by decide) (by decide) (by decide),
        hfacts.2.keep hframe (by decide) (by decide)⟩
    change SnapshotFacts setup after (routeAfterCritic after)
    unfold routeAfterCritic
    split
    · exact hafter.1
    · split
      · exact hafter
      · exact hafter.1
  | buildRepairPlan =>
    have hafter : BelongTogether setup after ∧ BeforeSoft after :=
      ⟨hfacts.1.keep hframe (hroutes (by decide)) (by decide) (by decide) (by decide),
        hfacts.2.keep hframe (by decide) (by decide)⟩
    change SnapshotFacts setup after (routeAfterRepairPlan after)
    unfold routeAfterRepairPlan
    split
    · exact hafter.2
    · exact hafter.1
  | applyLocalRepair =>
    exact beforeSoft_applyLocalRepair (plainNode_eq_ok h) (BeforeSoft.notPending hfacts)
  | collectDeltaRoutes =>
    have hbefore : BeforeSoft after := BeforeSoft.keep hfacts hframe (by decide) (by decide)
    change SnapshotFacts setup after (routeAfterDeltaRoutes after)
    unfold routeAfterDeltaRoutes
    split <;> exact hbefore
  | loadDeltaRoutes => exact BeforeSoft.keep hfacts hframe (by decide) (by decide)
  | prepareCriticContext | softConstraintCritic =>
    exact ⟨hfacts.1.keep hframe (hroutes (by decide)) (by decide) (by decide) (by decide),
      hfacts.2.imp (fun hbefore => hbefore.keep hframe (by decide) (by decide)) fun hshelved =>
        hshelved.keep hframe (hroutes (by decide)) (by decide) (by decide) (by decide) (by decide)⟩
  | validateCriticEvidence =>
    have hafter : BelongTogether setup after ∧ (BeforeSoft after ∨ Shelved setup after) :=
      ⟨hfacts.1.keep hframe (hroutes (by decide)) (by decide) (by decide) (by decide),
        hfacts.2.imp (fun hbefore => hbefore.keep hframe (by decide) (by decide)) fun hshelved =>
          hshelved.keep hframe (hroutes (by decide)) (by decide) (by decide) (by decide)
            (by decide)⟩
    change SnapshotFacts setup after (routeAfterGrounding after)
    unfold routeAfterGrounding
    split <;> exact hafter
  | qualityGate =>
    have hafter : BelongTogether setup after :=
      hfacts.1.keep hframe (hroutes (by decide)) (by decide) (by decide) (by decide)
    have hsoft : BeforeSoft after ∨ Shelved setup after :=
      hfacts.2.imp (fun hbefore => hbefore.keep hframe (by decide) (by decide)) fun hshelved =>
        hshelved.keep hframe (hroutes (by decide)) (by decide) (by decide) (by decide) (by decide)
    change SnapshotFacts setup after (routeAfterQualityGate after)
    unfold routeAfterQualityGate
    split
    · next hpending =>
      refine ⟨hafter, hsoft.resolve_left fun hbefore => ?_⟩
      rw [hbefore.notPending] at hpending
      exact Bool.false_ne_true hpending
    · next hnone =>
      split
      · exact ⟨hafter, hsoft.resolve_right fun hshelved => hnone hshelved.pending⟩
      · exact hafter
  | compileSoftRepairPlan =>
    obtain ⟨htogether, hbefore⟩ := hfacts
    obtain ⟨_, plan, _, _, _, rfl⟩ := compileSoftRepairPlan_eq_ok (plainNode_eq_ok h)
    cases plan with
    | none => exact ⟨htogether.paired, htogether.ids⟩
    | some plan => exact ⟨htogether.paired, hbefore.ids, hbefore.unprefixed⟩
  | applySoftRepair =>
    exact shelved_applySoftRepair (plainNode_eq_ok h) hfacts.1 hfacts.2.1 hfacts.2.2
  | collectSoftDeltaRoutes =>
    have hshelved : Shelved setup after := Shelved.keep hfacts hframe (hroutes (by decide))
      (by decide) (by decide) (by decide) (by decide)
    have hmissing := missing_of_collectDelta hreuse (plainNode_eq_ok h)
    change SnapshotFacts setup after (routeAfterSoftDeltaRoutes after)
    unfold routeAfterSoftDeltaRoutes
    split
    · exact hshelved
    · exact ⟨hshelved, hmissing⟩
  | loadSoftDeltaRoutes =>
    exact hfacts.1.keep hframe (keepsStored_loadDelta (plainNode_eq_ok h) hfacts.2)
      (by decide) (by decide) (by decide) (by decide)
  | restoreSoftBaseline =>
    obtain ⟨_, _, _, rfl⟩ := restoreSoftValues_eq_ok (plainNode_eq_ok h)
    exact ⟨Shelved.paired hfacts, Shelved.baselineIds hfacts⟩
  | compareSoftRepair =>
    exact belongTogether_compareSoftRepair (plainNode_eq_ok h) hfacts.1 hfacts.2
  | selectByQuality | explainSelection | selectBest | markInfeasible
  | selectUnvalidatedForEvaluation =>
    exact BelongTogether.keep hfacts hframe (hroutes (by decide)) (by decide) (by decide)
      (by decide)

end OneStep

/-! ## Runs -/

section Runs

variable {request : PlanningRequest} {position : Position}

/-- Wherever a run gets, its candidates and drafts are told apart and belong together. -/
theorem snapshotInvariant_of_visits (honce : AnswersOnce world)
    (hreuse : setup.overrides.fullReplan = false)
    (h : Visits setup world request run position) :
    SnapshotInvariant setup position.state position.node :=
  reaches_preserves (motive := fun node state => SnapshotInvariant setup state node) h rfl
    fun _ _ _ _ _ _ hexecute => snapshotFacts_next honce hreuse hexecute

/-- At the end of a run its candidates and drafts belong together. -/
theorem belongTogether_of_runPlanning (honce : AnswersOnce world)
    (hreuse : setup.overrides.fullReplan = false)
    (h : runPlanning setup world request run = .ok state) : BelongTogether setup state := by
  obtain ⟨position, hvisits, hend, rfl⟩ := exists_of_runPlanning h
  have hinvariant := snapshotInvariant_of_visits honce hreuse hvisits
  rw [hend] at hinvariant
  exact hinvariant

/-- **The snapshot of a run.**  The drafts and the candidates of every run that ends have the same
ids, each once, and every candidate is what the planner makes of its own draft with the places and
the routes of the last checkpoint. -/
theorem paired_of_runPlanning (honce : AnswersOnce world)
    (hreuse : setup.overrides.fullReplan = false)
    (h : runPlanning setup world request run = .ok state) :
    Paired setup state state.candidateDrafts state.candidates ∧
      (state.candidateDrafts.map CandidateDraft.id).Nodup ∧
      state.candidates.map PlanCandidate.id = state.candidateDrafts.map CandidateDraft.id := by
  have htogether := belongTogether_of_runPlanning honce hreuse h
  exact ⟨htogether.paired, htogether.ids, htogether.paired.ids_eq⟩

omit [Platform] in
/-- The run that fills the empty day keeps its draft and its candidate together. -/
theorem paired_of_runPlanning_emptyDay : ∃ state,
    @runPlanning plainPlatform PlanningSample.setup PlanningSample.emptyDay PlanningSample.request
      none = .ok state ∧ state.candidates.length = 1 ∧
      @Paired plainPlatform PlanningSample.setup state state.candidateDrafts state.candidates := by
  let := plainPlatform
  have hrun : ((runPlanning PlanningSample.setup PlanningSample.emptyDay PlanningSample.request
      none).toOption.map fun state => state.candidates.length) = some 1 := by
    decide +kernel
  obtain ⟨state, hstate, hlength⟩ := Option.map_eq_some_iff.mp hrun
  have honce : AnswersOnce PlanningSample.emptyDay := by
    intro problem result hsolved
    cases hsolved
    exact List.nodup_singleton _
  exact ⟨state, eq_ok_of_mem_toOption hstate, hlength,
    (paired_of_runPlanning honce rfl (eq_ok_of_mem_toOption hstate)).1⟩

end Runs

end TravelPlanAgent
