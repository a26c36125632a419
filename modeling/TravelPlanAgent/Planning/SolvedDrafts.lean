import TravelPlanAgent.Planning.Solver
import TravelPlanAgent.Planning.Agreement
import Mathlib.Algebra.Order.BigOperators.Group.List

/-!
# What the solver assigns is what the drafts hold

The legs that the solver reads are all in its matrix as long as no place has an empty id: such a
place is taken for the anchor, and the leg to it is missing.

* `mergeRouteMatrix_exists`, `leg_eq_ok_iff`: the matrix has a leg for every pair of the entries.
* `HasLegs`, `hasLegs_of_build`: from the anchor and between any two places there is a leg.
* `orderedFrom_spec`, `legEntries_exists`: a day is put in order without losing a place.
* `FaithfulDays`, `faithfulDays_of_satisfied`: the constraints carry over to the days.
* `faithful_iff_named`, `extractsFaithfully`: the solver answers faithfully exactly when every place
  has an id, as those of the providers have.
-/

namespace TravelPlanAgent

open Calendar Selection ZeroOne

/-! ## The legs at hand -/

section Legs

variable {problem : OptimizationProblem} {matrix : RouteMatrix}

/-- A pair of the entries has a leg: both modes are supported. -/
theorem mergedEntry_exists {pair : String × String} (hpair : pair ∈ problem.pairs) :
    ∃ entry, mergedEntry problem pair = .ok entry := by
  obtain ⟨entry, hentry, hpairOf⟩ := List.mem_map.mp (List.mem_dedup.mp hpair)
  have hraw : (rawEntry problem pair entry.mode).isSome := by
    rw [rawEntry, lastWith, List.find?_isSome]
    exact ⟨entry, List.mem_reverse.mpr hentry, decide_eq_true ⟨hpairOf, rfl⟩⟩
  have hsome : ((rawEntry problem pair .walking).filter (fun entry =>
      decide (entry.distanceMeters ≤ problem.maxWalkingLegMeters)) <|>
        rawEntry problem pair .driving <|> rawEntry problem pair .walking).isSome := by
    obtain ⟨found, hfound⟩ := Option.isSome_iff_exists.mp hraw
    cases hmode : entry.mode with
    | driving =>
      rw [hmode] at hfound
      simp [hfound]
    | walking =>
      rw [hmode] at hfound
      simp [hfound]
  obtain ⟨merged, hmerged⟩ := Option.isSome_iff_exists.mp hsome
  exact ⟨merged, by rw [mergedEntry]; exact congrArg (orRaise · _) hmerged⟩

theorem mergeRouteMatrix_exists (problem : OptimizationProblem) :
    ∃ matrix, mergeRouteMatrix problem = .ok matrix := by
  obtain ⟨entries, hentries⟩ := exists_mapM fun pair (hpair : pair ∈ problem.pairs) =>
    mergedEntry_exists hpair
  exact ⟨Dict.ofList (problem.pairs.zip entries), by rw [mergeRouteMatrix, hentries]; rfl⟩

/-- The matrix has a leg for the pairs of the entries, and for no others. -/
theorem leg_eq_ok_iff (h : mergeRouteMatrix problem = .ok matrix) {pair : String × String} :
    (∃ leg, matrix.leg pair = .ok leg) ↔ pair ∈ problem.pairs := by
  obtain ⟨entries, hentries, h⟩ := bind_eq_ok h
  cases h
  have hkeys : (problem.pairs.zip entries).map Prod.fst = problem.pairs := by
    rw [List.map_fst_zip]
    exact (mapM_eq_ok.mp hentries).length_eq.le
  have hmem : pair ∈ (Dict.ofList (problem.pairs.zip entries)).keys ↔ pair ∈ problem.pairs := by
    rw [Dict.mem_keys_ofList, hkeys]
  rw [← hmem]
  constructor
  · rintro ⟨leg, hleg⟩
    exact Dict.mem_keys_of_get? (orRaise_eq_ok hleg)
  · intro hmem
    obtain ⟨leg, hleg⟩ := Dict.exists_get?_of_mem_keys hmem
    exact ⟨leg, by rw [RouteMatrix.leg, hleg]; rfl⟩

/-- From the anchor to every place and between any two there is a leg. -/
structure HasLegs (matrix : RouteMatrix) (anchor : String) (poiIds : List String) : Prop where
  fromAnchor : ∀ poiId ∈ poiIds, ∃ leg, matrix.leg (anchor, poiId) = .ok leg
  between : ∀ origin ∈ poiIds, ∀ destination ∈ poiIds, origin ≠ destination →
    ∃ leg, matrix.leg (origin, destination) = .ok leg

/-! ## The order of a day -/

/-- A day is put in order, and no place is lost. -/
theorem orderedFrom_spec {anchor current : String} {poiIds remaining : List String} {fuel : ℕ}
    (hcovers : HasLegs matrix anchor poiIds) (hfuel : remaining.length = fuel)
    (hnodup : remaining.Nodup) (hknown : remaining ⊆ poiIds)
    (hreach : ∀ poiId ∈ remaining, ∃ leg, matrix.leg (current, poiId) = .ok leg) :
    ∃ ordered, orderedFrom matrix fuel current remaining = .ok ordered ∧
      ordered.Perm remaining := by
  induction fuel generalizing current remaining with
  | zero =>
    obtain rfl := List.eq_nil_of_length_eq_zero hfuel
    exact ⟨[], rfl, List.Perm.refl _⟩
  | succ fuel ih =>
    obtain ⟨keys, hkeys⟩ := exists_mapM (l := remaining) (f := fun poiId =>
        (do let leg ← matrix.leg (current, poiId)
            return toLex (leg.durationMinutes, toLex (leg.distanceMeters, poiId)) :
          Result (ℕ ×ₗ ℕ ×ₗ String))) fun poiId hpoiId => by
      obtain ⟨leg, hleg⟩ := hreach poiId hpoiId
      exact ⟨_, by rw [hleg]; rfl⟩
    have hpairs := mapM_eq_ok.mp hkeys
    have hne : keys ≠ [] := List.ne_nil_of_length_pos (by rw [← hpairs.length_eq]; omega)
    obtain ⟨key, hkey⟩ := exists_minByKey id hne
    -- the key of a place ends with its id
    obtain ⟨next, hnext, hof⟩ := exists_of_forall₂_right hpairs (mem_of_minByKey hkey)
    obtain ⟨leg, -, hof⟩ := bind_eq_ok hof
    have hid : (ofLex (ofLex key).2).2 = next := by
      cases hof
      rfl
    have hrest : (remaining.erase next).length = fuel := by
      rw [List.length_erase_of_mem hnext]
      omega
    have hreachRest : ∀ poiId ∈ remaining.erase next,
        ∃ leg, matrix.leg (next, poiId) = .ok leg := by
      intro poiId hpoiId
      obtain ⟨hother, hmem⟩ := (hnodup.mem_erase_iff).mp hpoiId
      exact hcovers.between next (hknown hnext) poiId (hknown hmem) (Ne.symm hother)
    obtain ⟨later, hlater, hperm⟩ := ih hrest (hnodup.erase next)
      (fun poiId hpoiId => hknown (List.mem_of_mem_erase hpoiId)) hreachRest
    refine ⟨next :: later, ?_, (hperm.cons next).trans (List.perm_cons_erase hnext).symm⟩
    rw [orderedFrom, hkeys]
    dsimp only [bind, Except.bind]
    rw [hkey]
    change (orderedFrom matrix fuel (ofLex (ofLex key).2).2 _ >>= _) = _
    rw [hid, hlater]
    rfl

/-- The legs of a day are at hand. -/
theorem legEntries_exists {anchor current : String} {poiIds ordered : List String}
    (hcovers : HasLegs matrix anchor poiIds) (hnodup : ordered.Nodup) (hknown : ordered ⊆ poiIds)
    (hreach : ∀ poiId ∈ ordered, ∃ leg, matrix.leg (current, poiId) = .ok leg) :
    ∃ legs, legEntries matrix current ordered = .ok legs := by
  induction ordered generalizing current with
  | nil => exact ⟨[], rfl⟩
  | cons next rest ih =>
    obtain ⟨hnext, hrest⟩ := List.nodup_cons.mp hnodup
    obtain ⟨hnextKnown, hrestKnown⟩ := List.cons_subset.mp hknown
    obtain ⟨leg, hleg⟩ := hreach next List.mem_cons_self
    have hreachRest : ∀ poiId ∈ rest, ∃ leg, matrix.leg (next, poiId) = .ok leg :=
      fun poiId hpoiId => hcovers.between next hnextKnown poiId (hrestKnown hpoiId)
        (ne_of_mem_of_not_mem hpoiId hnext).symm
    obtain ⟨later, hlater⟩ := ih hrest hrestKnown hreachRest
    refine ⟨leg :: later, ?_⟩
    rw [legEntries, hleg]
    change (legEntries matrix next rest >>= _) = _
    rw [hlater]
    rfl

end Legs

/-! ## The problem of some places -/

section Built

variable [Platform] {trip : TripSpec} {pois : List PlanningPOI} {routes : Routes}
  {budget : OptimizationBudget} {settings : RouteSettings} {problem : OptimizationProblem}

/-- The pair of ids that a query is recorded under. -/
def queryPair (query : RouteQuery) : String × String :=
  (idOrAnchor query.originPoiId, idOrAnchor (some query.destinationPoiId))

/-- What a problem tells the solver about some places. -/
structure DescribesPlaces (trip : TripSpec) (pois : List PlanningPOI) (settings : RouteSettings)
    (problem : OptimizationProblem) : Prop where
  dates : problem.dates = trip.dates
  anchor : problem.anchorId = anchorId
  ids : problem.pois.map OptimizationPOI.id = pois.map fun poi => poi.facts.id
  costs : ∀ poi ∈ problem.pois, 0 ≤ poi.knownCost
  minutes : problem.availableMinutesByDay.map Prod.fst = problem.dates
  pairs : ∀ pair, pair ∈ problem.pairs ↔
    ∃ query ∈ collectRouteMatrixQueries trip pois settings, queryPair query = pair

theorem describes_of_build
    (h : createOptimizationProblem trip pois routes budget settings = .ok problem) :
    DescribesPlaces trip pois settings problem := by
  obtain ⟨described, hdescribed, h⟩ := bind_eq_ok h
  obtain ⟨entries, hentries, h⟩ := bind_eq_ok h
  cases h
  have hpois := mapM_eq_ok.mp hdescribed
  have hpairs := mapM_eq_ok.mp hentries
  have hpoi : ∀ {poi : PlanningPOI} {told : OptimizationPOI}, optimizationPoi trip poi = .ok told →
      told.id = poi.facts.id ∧ 0 ≤ told.knownCost := by
    intro poi told htold
    obtain ⟨_, hchecked, htold⟩ := bind_eq_ok htold
    have hcost := (require_eq_ok hchecked).2
    cases htold
    refine ⟨rfl, ?_⟩
    rw [OptimizationPOI.knownCost]
    cases hknown : poi.partyCost with
    | none => exact le_refl _
    | some cost => exact hcost cost hknown
  have hentry : ∀ {query : RouteQuery} {entry : RouteMatrixEntry},
      routeMatrixEntry routes query = .ok entry → entry.pair = queryPair query := by
    intro query entry hof
    obtain ⟨route, -, hof⟩ := bind_eq_ok hof
    cases hof
    rfl
  refine ⟨rfl, rfl, ?_, ?_, ?_, ?_⟩
  · have hids : List.Forall₂ Eq (described.map OptimizationPOI.id)
        (pois.map fun poi => poi.facts.id) := by
      rw [List.forall₂_map_left_iff, List.forall₂_map_right_iff]
      exact (hpois.imp fun poi told htold => (hpoi htold).1).flip
    exact List.forall₂_eq_eq_eq ▸ hids
  · intro told htold
    obtain ⟨poi, -, hof⟩ := exists_of_forall₂_right hpois htold
    exact (hpoi hof).2
  · rw [List.map_map]
    exact List.map_id _
  · intro pair
    rw [OptimizationProblem.pairs, List.mem_dedup, List.mem_map]
    constructor
    · rintro ⟨entry, hmem, rfl⟩
      obtain ⟨query, hquery, hof⟩ := exists_of_forall₂_right hpairs hmem
      exact ⟨query, hquery, (hentry hof).symm⟩
    · rintro ⟨query, hquery, rfl⟩
      obtain ⟨entry, hmem, hof⟩ := exists_of_forall₂_left hpairs hquery
      exact ⟨entry, hmem, hentry hof⟩

omit [Platform] in
theorem idOrAnchor_of_ne {poiId : String} (h : poiId ≠ "") : idOrAnchor (some poiId) = poiId :=
  if_neg h

omit [Platform] in
theorem idOrAnchor_ne (poiId : Option String) : idOrAnchor poiId ≠ "" := by
  cases poiId with
  | none => decide
  | some poiId =>
    rw [idOrAnchor]
    split
    · decide
    · assumption

/-- Every leg is looked up for driving. -/
theorem driving_mem_legQueries (hmode : RouteMode.driving ∈ settings.activeModes)
    (origin destination : Coordinate) (originPoiId : Option String) (poiId : String) :
    legQuery settings origin destination originPoiId poiId .driving ∈
      legQueries settings origin destination originPoiId poiId :=
  List.mem_map_of_mem (by simp [legModes, hmode])

/-- With an id for every place the matrix has all the legs. -/
theorem hasLegs_of_build (hmode : RouteMode.driving ∈ settings.activeModes)
    (hdescribes : DescribesPlaces trip pois settings problem) {matrix : RouteMatrix}
    (hmatrix : mergeRouteMatrix problem = .ok matrix)
    (hnamed : "" ∉ pois.map fun poi => poi.facts.id) :
    HasLegs matrix problem.anchorId (problem.pois.map OptimizationPOI.id) := by
  have hname : ∀ poi ∈ pois, idOrAnchor (some poi.facts.id) = poi.facts.id := fun poi hpoi =>
    idOrAnchor_of_ne fun hempty => hnamed (List.mem_map.mpr ⟨poi, hpoi, hempty⟩)
  rw [hdescribes.ids, hdescribes.anchor]
  constructor
  · intro poiId hpoiId
    obtain ⟨poi, hpoi, rfl⟩ := List.mem_map.mp hpoiId
    rw [leg_eq_ok_iff hmatrix, hdescribes.pairs]
    refine ⟨legQuery settings trip.anchorCoordinate poi.facts.coordinate none poi.facts.id .driving,
      List.mem_append_left _ (List.mem_flatMap.mpr ⟨poi, hpoi, driving_mem_legQueries hmode ..⟩),
      Prod.ext rfl (hname poi hpoi)⟩
  · intro origin horigin destination hdestination hne
    obtain ⟨start, hstart, rfl⟩ := List.mem_map.mp horigin
    obtain ⟨goal, hgoal, rfl⟩ := List.mem_map.mp hdestination
    rw [leg_eq_ok_iff hmatrix, hdescribes.pairs]
    refine ⟨legQuery settings start.facts.coordinate goal.facts.coordinate (some start.facts.id)
      goal.facts.id .driving, List.mem_append_right _ ?_,
      Prod.ext (hname start hstart) (hname goal hgoal)⟩
    refine List.mem_flatMap.mpr ⟨start, hstart, List.mem_flatMap.mpr ⟨goal, hgoal, ?_⟩⟩
    rw [if_neg hne]
    exact driving_mem_legQueries hmode ..

/-- No leg leads to the empty id. -/
theorem leg_empty (hdescribes : DescribesPlaces trip pois settings problem) {matrix : RouteMatrix}
    (hmatrix : mergeRouteMatrix problem = .ok matrix) (origin : String) (leg : RouteMatrixEntry) :
    matrix.leg (origin, "") ≠ .ok leg := by
  intro hleg
  obtain ⟨query, -, hpair⟩ :=
    (hdescribes.pairs _).mp ((leg_eq_ok_iff hmatrix).mp ⟨leg, hleg⟩)
  exact idOrAnchor_ne (some query.destinationPoiId) (congrArg Prod.snd hpair)

end Built

/-! ## What the constraints say about the days -/

/-- The days of a solution hold what an assignment puts there: every place at most once, the
required ones once, no day with too many places and none with a closed one. -/
structure FaithfulDays (problem : OptimizationProblem) (value : CpVariable → Bool)
    (style : PlanStyle) (days : List DraftDay) : Prop where
  dates : days.map DraftDay.date = problem.dates
  assigned : ∀ day ∈ days, day.poiIds.Perm (assignedIds problem value day.date)
  once : (days.flatMap DraftDay.poiIds).Nodup
  required : ∀ poi ∈ problem.pois, poi.mustVisit = true →
    (days.flatMap DraftDay.poiIds).count poi.id = 1
  limit : ∀ day ∈ days, day.poiIds.length ≤ styleActivityLimit style
  available : ∀ day ∈ days, ∀ poi ∈ problem.pois, poi.id ∈ day.poiIds →
    day.date ∈ poi.availableDays

section Days

variable {problem : OptimizationProblem} {matrix : RouteMatrix} {style : PlanStyle}
  {model : Model CpVariable} {value : CpVariable → Bool}

theorem cpModel_exists
    (hcovers : HasLegs matrix problem.anchorId (problem.pois.map OptimizationPOI.id))
    (hminutes : problem.availableMinutesByDay.map Prod.fst = problem.dates) (style : PlanStyle) :
    ∃ model, cpModel problem matrix style = .ok model := by
  have hleg : ∀ poi ∈ problem.pois, ∃ leg, matrix.leg (problem.anchorId, poi.id) = .ok leg :=
    fun poi hpoi => hcovers.fromAnchor poi.id (List.mem_map_of_mem hpoi)
  have hlegs : ∀ {γ : Type} (f : OptimizationPOI → RouteMatrixEntry → γ), ∃ found,
      (problem.pois.mapM fun poi => do
        let leg ← matrix.leg (problem.anchorId, poi.id)
        return f poi leg : Result (List γ)) = .ok found := fun f =>
    exists_mapM fun poi hpoi => bind_exists (hleg poi hpoi) fun leg _ => ⟨f poi leg, rfl⟩
  have hday : ∀ day ∈ problem.dates, ∃ limits,
      dayConstraints problem matrix style day = .ok limits := by
    intro day hday
    have havailable : (dayConstraints.lookupDay problem.availableMinutesByDay day).isSome := by
      rw [dayConstraints.lookupDay, Option.isSome_map, lastWith, List.find?_isSome]
      obtain ⟨entry, hentry, hdate⟩ := List.mem_map.mp (hminutes ▸ hday)
      exact ⟨entry, List.mem_reverse.mpr hentry, decide_eq_true hdate⟩
    obtain ⟨available, havailable⟩ := Option.isSome_iff_exists.mp havailable
    refine bind_exists (hlegs _) fun minutes _ => ?_
    refine bind_exists ⟨available, by rw [havailable]; rfl⟩ fun _ _ => ?_
    exact bind_exists (hlegs _) fun walks _ => ⟨_, rfl⟩
  refine bind_exists (exists_mapM hday) fun limits _ => ?_
  exact bind_exists (bind_exists (hlegs _) fun _ _ => ⟨_, rfl⟩) fun objective _ => ⟨_, rfl⟩

/-- The constraints of a model about single places. -/
theorem holds_assignmentConstraints (hmodel : cpModel problem matrix style = .ok model)
    (hsatisfied : model.Satisfied value) {poi : OptimizationPOI} (hpoi : poi ∈ problem.pois) :
    ∀ constraint ∈ assignmentConstraints problem poi, constraint.Holds value := by
  obtain ⟨limits, -, hmodel⟩ := bind_eq_ok hmodel
  obtain ⟨objective, -, hmodel⟩ := bind_eq_ok hmodel
  cases hmodel
  intro constraint hconstraint
  refine hsatisfied constraint ?_
  have hmem : constraint ∈ problem.pois.flatMap (assignmentConstraints problem) :=
    List.mem_flatMap.mpr ⟨poi, hpoi, hconstraint⟩
  simp only [List.mem_append]
  exact Or.inl (Or.inl (Or.inl (Or.inl hmem)))

/-- The constraint of a model about the number of places on a day. -/
theorem holds_activityLimit (hmodel : cpModel problem matrix style = .ok model)
    (hsatisfied : model.Satisfied value) {day : Date} (hday : day ∈ problem.dates) :
    Constraint.Holds value ⟨units (problem.onDay day), .le, styleActivityLimit style⟩ := by
  obtain ⟨limits, hlimits, hmodel⟩ := bind_eq_ok hmodel
  obtain ⟨objective, -, hmodel⟩ := bind_eq_ok hmodel
  cases hmodel
  refine hsatisfied _ ?_
  obtain ⟨ofDay, hofDay, hof⟩ := exists_of_mapM hlimits hday
  obtain ⟨minutes, -, hof⟩ := bind_eq_ok hof
  obtain ⟨available, -, hof⟩ := bind_eq_ok hof
  obtain ⟨walks, -, hof⟩ := bind_eq_ok hof
  cases hof
  have hmem := List.mem_flatten.mpr ⟨_, hofDay, List.mem_cons_self⟩
  simp only [List.mem_append]
  exact Or.inl (Or.inl (Or.inr hmem))

theorem mem_assignedIds {day : Date} {poiId : String} :
    poiId ∈ assignedIds problem value day ↔
      poiId ∈ problem.pois.map OptimizationPOI.id ∧ value (.assigned poiId day) = true :=
  List.mem_filter

/-- As many places are assigned to a day as the model counts. -/
theorem length_assignedIds (day : Date) :
    (assignedIds problem value day).length = (problem.onDay day).countP value := by
  rw [assignedIds, ← List.countP_eq_length_filter, OptimizationProblem.onDay, List.countP_map,
    List.countP_map]
  rfl

/-- A place is assigned as often as the model counts. -/
theorem count_assignedIds (hids : (problem.pois.map OptimizationPOI.id).Nodup)
    {poi : OptimizationPOI} (hpoi : poi ∈ problem.pois) (dates : List Date) :
    (dates.flatMap (assignedIds problem value)).count poi.id =
      (dates.map (CpVariable.assigned poi.id)).countP value := by
  induction dates with
  | nil => rfl
  | cons day rest ih =>
    rw [List.flatMap_cons, List.count_append, ih, List.map_cons, List.countP_cons, add_comm]
    congr 1
    by_cases hvalue : value (.assigned poi.id day) = true
    · rw [if_pos hvalue]
      exact List.count_eq_one_of_mem (hids.filter _)
        (mem_assignedIds.mpr ⟨List.mem_map_of_mem hpoi, hvalue⟩)
    · rw [if_neg hvalue]
      exact List.count_eq_zero.mpr fun hmem => hvalue (mem_assignedIds.mp hmem).2

/-- Days in the order of the dates, each with what is assigned to it, are faithful. -/
theorem faithfulDays_of_satisfied (hids : (problem.pois.map OptimizationPOI.id).Nodup)
    (hmodel : cpModel problem matrix style = .ok model) (hsatisfied : model.Satisfied value)
    {days : List DraftDay} (hdates : days.map DraftDay.date = problem.dates)
    (hassigned : ∀ day ∈ days, day.poiIds.Perm (assignedIds problem value day.date)) :
    FaithfulDays problem value style days := by
  have hall : (days.flatMap DraftDay.poiIds).Perm
      (problem.dates.flatMap (assignedIds problem value)) := by
    rw [← hdates, List.flatMap_map]
    exact List.Perm.flatMap_left _ hassigned
  have hplaces : ∀ poi ∈ problem.pois, (days.flatMap DraftDay.poiIds).count poi.id =
      (problem.ofPoi poi).countP value := fun poi hpoi => by
    rw [hall.count_eq, count_assignedIds hids hpoi]
    rfl
  have hposted : ∀ poi ∈ problem.pois, (problem.ofPoi poi).countP value ≤ 1 ∧
      (poi.mustVisit = true → (problem.ofPoi poi).countP value = 1) := by
    intro poi hpoi
    have hholds := holds_assignmentConstraints hmodel hsatisfied hpoi _ List.mem_cons_self
    cases hmust : poi.mustVisit with
    | true =>
      rw [hmust] at hholds
      have hone := holds_exactly.mp hholds
      exact ⟨hone.le, fun _ => hone⟩
    | false =>
      rw [hmust] at hholds
      exact ⟨holds_atMost.mp hholds, by simp⟩
  have hdate : ∀ day ∈ days, day.date ∈ problem.dates := fun day hday =>
    hdates ▸ List.mem_map_of_mem hday
  refine ⟨hdates, hassigned, ?_, ?_, ?_, ?_⟩
  · refine List.nodup_iff_count_le_one.mpr fun poiId => ?_
    by_cases hknown : poiId ∈ problem.pois.map OptimizationPOI.id
    · obtain ⟨poi, hpoi, rfl⟩ := List.mem_map.mp hknown
      rw [hplaces poi hpoi]
      exact (hposted poi hpoi).1
    · rw [hall.count_eq, List.count_eq_zero.mpr]
      · exact Nat.zero_le _
      · intro hmem
        obtain ⟨day, -, hmem⟩ := List.mem_flatMap.mp hmem
        exact hknown (mem_assignedIds.mp hmem).1
  · intro poi hpoi hmust
    rw [hplaces poi hpoi]
    exact (hposted poi hpoi).2 hmust
  · intro day hday
    rw [(hassigned day hday).length_eq, length_assignedIds]
    exact holds_atMost.mp (holds_activityLimit hmodel hsatisfied (hdate day hday))
  · intro day hday poi hpoi hmem
    have hvalue := (mem_assignedIds.mp ((hassigned day hday).mem_iff.mp hmem)).2
    by_contra hclosed
    have hholds := holds_assignmentConstraints hmodel hsatisfied hpoi
      ⟨units [.assigned poi.id day.date], .eq, 0⟩ (List.mem_cons_of_mem _ (List.mem_map.mpr
        ⟨day.date, List.mem_filter.mpr ⟨hdate day hday, decide_eq_true hclosed⟩, rfl⟩))
    rw [holds_fixedZero.mp hholds] at hvalue
    cases hvalue

/-! ## Reading an assignment -/

/-- A day is read without a failure, and holds what is assigned to it. -/
theorem readDay_spec (value : CpVariable → Bool)
    (hids : (problem.pois.map OptimizationPOI.id).Nodup)
    (hcovers : HasLegs matrix problem.anchorId (problem.pois.map OptimizationPOI.id))
    (day : Date) :
    ∃ read, readDay problem matrix value day = .ok read ∧ read.1.date = day ∧
      read.1.poiIds.Perm (assignedIds problem value day) := by
  have hnodup : (assignedIds problem value day).Nodup := hids.filter _
  have hknown : assignedIds problem value day ⊆ problem.pois.map OptimizationPOI.id :=
    fun poiId hpoiId => (mem_assignedIds.mp hpoiId).1
  obtain ⟨ordered, hordered, hperm⟩ := orderedFrom_spec hcovers rfl hnodup hknown
    fun poiId hpoiId => hcovers.fromAnchor poiId (hknown hpoiId)
  have hsubset : ordered ⊆ problem.pois.map OptimizationPOI.id := fun poiId hpoiId =>
    hknown (hperm.mem_iff.mp hpoiId)
  obtain ⟨legs, hlegs⟩ := legEntries_exists hcovers (hperm.nodup_iff.mpr hnodup) hsubset
    fun poiId hpoiId => hcovers.fromAnchor poiId (hsubset hpoiId)
  refine ⟨(⟨day, ordered⟩, legs), ?_, rfl, hperm⟩
  rw [readDay, orderedDay, hnodup.dedup, hordered]
  change (legEntries matrix problem.anchorId ordered >>= _) = _
  rw [hlegs]
  rfl

theorem poi_exists {poiId : String} (h : poiId ∈ problem.pois.map OptimizationPOI.id) :
    ∃ poi, problem.poi poiId = .ok poi := by
  obtain ⟨poi, hpoi, hid⟩ := List.mem_map.mp h
  have hsome : (lastWith (fun poi : OptimizationPOI => decide (poi.id = poiId))
      problem.pois).isSome := by
    rw [lastWith, List.find?_isSome]
    exact ⟨poi, List.mem_reverse.mpr hpoi, decide_eq_true hid⟩
  obtain ⟨found, hfound⟩ := Option.isSome_iff_exists.mp hsome
  exact ⟨found, by rw [OptimizationProblem.poi, hfound]; rfl⟩

/-- An assignment that satisfies the model is read without a failure, and faithfully. -/
theorem extractSolution_spec {answer : CpAnswer}
    (hids : (problem.pois.map OptimizationPOI.id).Nodup)
    (hcosts : ∀ poi ∈ problem.pois, 0 ≤ poi.knownCost)
    (hcovers : HasLegs matrix problem.anchorId (problem.pois.map OptimizationPOI.id))
    (hmodel : cpModel problem matrix style = .ok model)
    (hsatisfied : model.Satisfied answer.value) :
    ∃ found, extractSolution problem matrix style answer = .ok found ∧
      found.solution.style = style ∧
      FaithfulDays problem answer.value style found.solution.days := by
  obtain ⟨days, hdays⟩ := exists_mapM fun day (_ : day ∈ problem.dates) =>
    (readDay_spec answer.value hids hcovers day).imp fun _ h => h.1
  have hread : List.Forall₂ (fun day read => read.1.date = day ∧
      read.1.poiIds.Perm (assignedIds problem answer.value day)) problem.dates days := by
    refine (mapM_eq_ok.mp hdays).imp fun day read hof => ?_
    obtain ⟨read', hof', hspec⟩ := readDay_spec answer.value hids hcovers day
    obtain rfl := Except.ok.inj (hof.symm.trans hof')
    exact hspec
  have hfaithful : FaithfulDays problem answer.value style (days.map Prod.fst) := by
    refine faithfulDays_of_satisfied hids hmodel hsatisfied ?_ ?_
    · rw [List.map_map, ← List.forall₂_eq_eq_eq, List.forall₂_map_left_iff]
      exact (hread.imp fun day read hspec => hspec.1).flip
    · intro day hmem
      obtain ⟨read, hof, rfl⟩ := List.mem_map.mp hmem
      obtain ⟨date, -, hdate, hperm⟩ := exists_of_forall₂_right hread hof
      rw [hdate]
      exact hperm
  obtain ⟨selected, hselected⟩ : ∃ selected,
      (days.flatMap fun day => day.1.poiIds).mapM problem.poi = .ok selected := by
    refine exists_mapM fun poiId hpoiId => ?_
    obtain ⟨read, hmem, hpoiId⟩ := List.mem_flatMap.mp hpoiId
    obtain ⟨date, -, -, hperm⟩ := exists_of_forall₂_right hread hmem
    exact poi_exists (mem_assignedIds.mp (hperm.mem_iff.mp hpoiId)).1
  -- the known costs are not negative, so their sum passes the check
  have hcost : 0 ≤ (selected.map OptimizationPOI.knownCost).sum := by
    refine List.sum_nonneg fun cost hcost => ?_
    obtain ⟨poi, hpoi, rfl⟩ := List.mem_map.mp hcost
    obtain ⟨poiId, -, hof⟩ := exists_of_forall₂_right (mapM_eq_ok.mp hselected) hpoi
    exact hcosts poi (mem_of_lastWith (orRaise_eq_ok hof))
  obtain ⟨breakdown, hbreakdown⟩ : ∃ breakdown,
      createObjectiveBreakdown selected (days.flatMap Prod.snd) = .ok breakdown :=
    bind_exists ⟨⟨⟩, require_eq_ok_iff.mpr hcost⟩ fun _ _ => ⟨_, rfl⟩
  refine ⟨⟨⟨style, days.map Prod.fst⟩, roundTo 3 answer.objectiveValue, breakdown⟩, ?_, rfl,
    hfaithful⟩
  rw [extractSolution, hdays]
  change ((days.flatMap fun day => day.1.poiIds).mapM problem.poi >>= _) = _
  rw [hselected]
  change (createObjectiveBreakdown selected _ >>= _) = _
  rw [hbreakdown]
  rfl

end Days

/-! ## Solving -/

/-- With a solved status comes an assignment that satisfies what was posted. -/
def SoundCpSat (cpSat : CpSat) : Prop :=
  ∀ parameters model, (cpSat parameters model).status.found = true →
    model.Satisfied (cpSat parameters model).value

/-- The constraint solver finds this answer to the model of a style. -/
def AnswersStyle (cpSat : CpSat) (problem : OptimizationProblem) (style : PlanStyle)
    (answer : CpAnswer) : Prop :=
  ∃ matrix model styleIndex, mergeRouteMatrix problem = .ok matrix ∧
    cpModel problem matrix style = .ok model ∧
    cpSat (cpParameters problem styleIndex) model = answer ∧ answer.status.found = true

/-- The days for a style hold what the constraint solver assigned for it. -/
def HoldsAnswer (cpSat : CpSat) (problem : OptimizationProblem) (style : PlanStyle)
    (days : List DraftDay) : Prop :=
  ∃ answer, AnswersStyle cpSat problem style answer ∧
    FaithfulDays problem answer.value style days

/-- The solver does not fail, and its solutions and their drafts hold what was assigned. -/
structure ExtractsFaithfully (cpSat : CpSat) (problem : OptimizationProblem) : Prop where
  noFailure : ∀ failure, solve cpSat problem ≠ .raised failure
  solutions : ∀ result, solve cpSat problem = .solved result → ∀ solution ∈ result.solutions,
    HoldsAnswer cpSat problem solution.style solution.days
  drafts : ∀ result, solve cpSat problem = .solved result →
    ∀ draft ∈ draftsFromOptimization result, HoldsAnswer cpSat problem draft.style draft.days

section Solving

variable {cpSat : CpSat} {problem : OptimizationProblem} {matrix : RouteMatrix}

/-- One style after the other, all are solved faithfully. -/
theorem solveStyles_spec (hsound : SoundCpSat cpSat)
    (hids : (problem.pois.map OptimizationPOI.id).Nodup)
    (hcosts : ∀ poi ∈ problem.pois, 0 ≤ poi.knownCost)
    (hminutes : problem.availableMinutesByDay.map Prod.fst = problem.dates)
    (hmatrix : mergeRouteMatrix problem = .ok matrix)
    (hcovers : HasLegs matrix problem.anchorId (problem.pois.map OptimizationPOI.id))
    (styles : List (PlanStyle × ℕ)) :
    ∃ answered, solveStyles cpSat problem matrix styles = .ok answered ∧
      ∀ outcomes ∈ answered, ∀ outcome ∈ outcomes, ∀ found ∈ outcome.found,
        HoldsAnswer cpSat problem found.solution.style found.solution.days := by
  induction styles with
  | nil => exact ⟨some [], rfl, by simp⟩
  | cons entry rest ih =>
    obtain ⟨style, styleIndex⟩ := entry
    obtain ⟨model, hmodel⟩ := cpModel_exists hcovers hminutes style
    obtain ⟨later, hlater, hrest⟩ := ih
    set answer := cpSat (cpParameters problem styleIndex) model with hanswer
    obtain ⟨found, hfound, hheld⟩ : ∃ found,
        readAnswer problem matrix style answer = .ok found ∧ ∀ solution ∈ found,
          HoldsAnswer cpSat problem solution.solution.style solution.solution.days := by
      by_cases hstatus : answer.status.found = true
      · obtain ⟨read, hread, hstyle, hfaithful⟩ :=
          extractSolution_spec hids hcosts hcovers hmodel (hsound _ model hstatus)
        refine ⟨some read, by rw [readAnswer, if_pos hstatus, hread]; rfl, ?_⟩
        intro solution hsolution
        obtain rfl := Option.some.inj hsolution
        rw [hstyle]
        exact ⟨answer, ⟨matrix, model, styleIndex, hmatrix, hmodel, rfl, hstatus⟩, hfaithful⟩
      · exact ⟨none, if_neg hstatus, by simp⟩
    by_cases htime : answer.status = .unknown
    · refine ⟨none, ?_, by simp⟩
      rw [solveStyles, hmodel]
      change (if answer.status = .unknown then Except.ok none else _) = _
      rw [if_pos htime]
    · refine ⟨later.map (⟨answer.status, found⟩ :: ·), ?_, ?_⟩
      · rw [solveStyles, hmodel]
        change (if answer.status = .unknown then Except.ok none else _) = _
        rw [if_neg htime]
        change (readAnswer problem matrix style answer >>= _) = _
        rw [hfound]
        change (solveStyles cpSat problem matrix rest >>= _) = _
        rw [hlater]
        rfl
      · intro outcomes houtcomes outcome houtcome
        obtain ⟨outcomes, hmem, rfl⟩ := Option.mem_map.mp houtcomes
        rcases List.mem_cons.mp houtcome with rfl | houtcome
        · exact hheld
        · exact hrest outcomes hmem outcome houtcome

variable [Platform] {trip : TripSpec} {pois : List PlanningPOI} {settings : RouteSettings}

/-- With an id for every place the solver answers faithfully. -/
theorem extractsFaithfully_of_named (hmode : RouteMode.driving ∈ settings.activeModes)
    (hdescribes : DescribesPlaces trip pois settings problem)
    (hids : (pois.map fun poi => poi.facts.id).Nodup) (hsound : SoundCpSat cpSat)
    (hnamed : "" ∉ pois.map fun poi => poi.facts.id) : ExtractsFaithfully cpSat problem := by
  obtain ⟨matrix, hmatrix⟩ := mergeRouteMatrix_exists problem
  obtain ⟨answered, hanswered, hheld⟩ := solveStyles_spec hsound (hdescribes.ids ▸ hids)
    hdescribes.costs hdescribes.minutes hmatrix (hasLegs_of_build hmode hdescribes hmatrix hnamed)
    (PlanStyle.all.take problem.budget.variantCount).zipIdx
  have hsolve : solve cpSat problem = answerOf (.ok answered) := by
    rw [solve, hmatrix, ← hanswered]
    rfl
  have hsolutions : ∀ result, solve cpSat problem = .solved result →
      ∀ solution ∈ result.solutions, HoldsAnswer cpSat problem solution.style solution.days := by
    intro result hresult solution hsolution
    rw [hsolve] at hresult
    cases answered with
    | none => cases hresult
    | some outcomes =>
      cases hresult
      obtain ⟨found, hfound, rfl⟩ := List.mem_map.mp hsolution
      obtain ⟨outcome, houtcome, hof⟩ := List.mem_filterMap.mp hfound
      exact hheld outcomes rfl outcome houtcome found hof
  refine ⟨?_, hsolutions, ?_⟩
  · intro failure hraised
    rw [hsolve] at hraised
    cases answered <;> cases hraised
  · intro result hresult draft hdraft
    obtain ⟨solution, hsolution, rfl⟩ := List.mem_map.mp hdraft
    exact hsolutions result hresult solution hsolution

/-- A place without an id makes the solver fail. -/
theorem solve_raises_of_empty (hdescribes : DescribesPlaces trip pois settings problem)
    (hempty : "" ∈ pois.map fun poi => poi.facts.id) (cpSat : CpSat) :
    ∃ failure, solve cpSat problem = .raised failure := by
  obtain ⟨matrix, hmatrix⟩ := mergeRouteMatrix_exists problem
  obtain ⟨poi, hpoi, hid⟩ := List.mem_map.mp (hdescribes.ids ▸ hempty)
  have hmodel : ∀ style model, cpModel problem matrix style ≠ .ok model := by
    intro style model hmodel
    obtain ⟨limits, hlimits, -⟩ := bind_eq_ok hmodel
    have hday : trip.startDate ∈ problem.dates := by
      rw [hdescribes.dates]
      exact Date.mem_range.mpr ⟨le_refl _, trip.startDate_le_endDate⟩
    obtain ⟨ofDay, -, hof⟩ := exists_of_mapM hlimits hday
    obtain ⟨minutes, hof, -⟩ := bind_eq_ok hof
    obtain ⟨term, -, hof⟩ := exists_of_mapM hof hpoi
    obtain ⟨leg, hleg, -⟩ := bind_eq_ok hof
    rw [hid] at hleg
    exact leg_empty hdescribes hmatrix _ leg hleg
  obtain ⟨count, hcount⟩ : ∃ count, problem.budget.variantCount = count + 1 :=
    Nat.exists_eq_succ_of_ne_zero (Nat.pos_iff_ne_zero.mp problem.budget.variantCount_bounds.1)
  have hstyles : ∃ rest, (PlanStyle.all.take problem.budget.variantCount).zipIdx =
      (.relaxed, 0) :: rest := by
    rw [hcount]
    exact ⟨_, rfl⟩
  obtain ⟨rest, hstyles⟩ := hstyles
  obtain ⟨failure, hfailure⟩ : ∃ failure,
      cpModel problem matrix .relaxed = .error failure := by
    cases hmodelOf : cpModel problem matrix .relaxed with
    | error failure => exact ⟨failure, rfl⟩
    | ok model => exact absurd hmodelOf (hmodel .relaxed model)
  refine ⟨failure, ?_⟩
  rw [solve, hmatrix]
  change answerOf (solveStyles cpSat problem matrix _) = _
  rw [hstyles, solveStyles, hfailure]
  rfl

section Reading

variable {routes : Routes} {budget : OptimizationBudget}

/-- For a problem made of places with ids of their own, with driving among the modes and a
constraint solver that satisfies what it is given, the solver answers faithfully exactly when no id
is empty: the matrix takes an empty id for the anchor. -/
theorem faithful_iff_named (hmode : RouteMode.driving ∈ settings.activeModes)
    (hbuild : createOptimizationProblem trip pois routes budget settings = .ok problem)
    (hids : (pois.map fun poi => poi.facts.id).Nodup) (hsound : SoundCpSat cpSat) :
    ExtractsFaithfully cpSat problem ↔ "" ∉ pois.map fun poi => poi.facts.id := by
  have hdescribes := describes_of_build hbuild
  constructor
  · intro hfaithful hempty
    obtain ⟨failure, hraised⟩ := solve_raises_of_empty hdescribes hempty cpSat
    exact hfaithful.noFailure failure hraised
  · exact extractsFaithfully_of_named hmode hdescribes hids hsound

/-- **Reading the solver.**  The providers deliver no place without an id.  For a problem made of
such places with ids of their own, with driving among the modes and a constraint solver that
satisfies what it is given, the solver answers faithfully. -/
theorem extractsFaithfully (hmode : RouteMode.driving ∈ settings.activeModes)
    (hbuild : createOptimizationProblem trip pois routes budget settings = .ok problem)
    (hids : (pois.map fun poi => poi.facts.id).Nodup)
    (hnamed : ∀ poi ∈ pois, poi.facts.id ≠ "") (hsound : SoundCpSat cpSat) :
    ExtractsFaithfully cpSat problem := by
  refine (faithful_iff_named hmode hbuild hids hsound).mpr fun hempty => ?_
  obtain ⟨poi, hpoi, hid⟩ := List.mem_map.mp hempty
  exact hnamed poi hpoi hid

end Reading

end Solving

namespace Sample

/-- A place within walking distance of the station and one that is not. -/
def twoPlaces : List PlanningPOI := [poi "a" 1 60, poi "b" 2 90]

/-- The problem of some places, with an answer to every query. -/
def problemOf (pois : List PlanningPOI) : Result OptimizationProblem :=
  let := plainPlatform
  createOptimizationProblem trip pois
    (answerAll (collectRouteMatrixQueries trip pois settings)) .default settings

/-- Everything is visited on the first day. -/
def onFirstDay : CpVariable → Bool
  | .assigned _ day => decide (day = day1)
  | .shown day _ => decide (day = day1)

/-- A constraint solver that tries one assignment. -/
def oneTry (value : CpVariable → Bool) : CpSat := fun _ model =>
  if model.Satisfied value then ⟨.feasible, value, 0⟩ else ⟨.infeasible, value, 0⟩

theorem soundCpSat_oneTry (value : CpVariable → Bool) : SoundCpSat (oneTry value) := by
  intro parameters model hfound
  by_cases hsatisfied : model.Satisfied value
  · rw [oneTry, if_pos hsatisfied]
    exact hsatisfied
  · rw [oneTry, if_neg hsatisfied] at hfound
    cases hfound

/-- The days of the solutions of an answer. -/
def solvedDays : SolverAnswer → List (List (List String))
  | .solved result => result.solutions.map fun solution => solution.days.map DraftDay.poiIds
  | _ => []

end Sample

/-- Both places are visited on the first day, the one that is closer by car first. -/
theorem extractsFaithfully_twoPlaces :
    ∃ problem, Sample.problemOf Sample.twoPlaces = .ok problem ∧
      Sample.solvedDays (solve (Sample.oneTry Sample.onFirstDay) problem) =
        List.replicate 3 [["b", "a"], []] ∧
      ExtractsFaithfully (Sample.oneTry Sample.onFirstDay) problem := by
  let := plainPlatform
  have hsolved : okAnd (Sample.problemOf Sample.twoPlaces) (fun problem => decide
      (Sample.solvedDays (solve (Sample.oneTry Sample.onFirstDay) problem) =
        List.replicate 3 [["b", "a"], []])) = true := by decide +kernel
  obtain ⟨problem, hbuild, hdays⟩ := okAnd_eq_true hsolved
  have hmode : RouteMode.driving ∈ Sample.settings.activeModes := by decide
  have hids : (Sample.twoPlaces.map fun poi => poi.facts.id).Nodup := by decide
  refine ⟨problem, hbuild, of_decide_eq_true hdays, ?_⟩
  exact extractsFaithfully hmode hbuild hids (by decide) (Sample.soundCpSat_oneTry _)

end TravelPlanAgent
