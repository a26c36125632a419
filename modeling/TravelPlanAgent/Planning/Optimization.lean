import TravelPlanAgent.Library.Binary64
import TravelPlanAgent.Planning.Planner

/-!
# From places to drafts

The solver itself is not under the program's control: it is given a problem and answers with
days for some styles, or with nothing in time.  Without an answer the drafts come from a fixed
heuristic.

* `selectOptimizationPois`, `collectRouteMatrixQueries`: the places and the routes of a problem.
* `OptimizationProblem`, `createOptimizationProblem`: what the solver is given.
* `OptimizationResult`, `draftsFromOptimization`: its answer and the drafts made from it.
* `prepareCandidateDrafts`, `degradedResult`: the drafts without an answer.
* `nodup_draftsFromOptimization`, `nodup_prepareCandidateDrafts`: when drafts have ids of their
  own.
-/

namespace TravelPlanAgent

open Calendar Selection

variable [Platform]

/-! ## Ranking places -/

/-- The normalised values of a list, each once. -/
def normalizedSet (values : List String) : List String := (values.map normalize).dedup

/-- How many normalised categories of a place are listed. -/
def categoryMatches (poi : PlanningPOI) (listed : List String) : ℕ :=
  ((normalizedSet poi.facts.categories).filter fun category =>
    decide (category ∈ listed.map normalize)).length

/-- `_is_required`: the name of the place matches an entry of `must_visit`. -/
def isRequiredPoi (trip : TripSpec) (poi : PlanningPOI) : Bool := trip.isMustVisit poi.facts.name

/-- `_preference_value`. -/
def preferenceValue (trip : TripSpec) (poi : PlanningPOI) : ℤ :=
  100 + 400 * categoryMatches poi trip.interests - 500 * categoryMatches poi trip.avoid +
    roundHalfEven (100 * poi.dataConfidence)

/-- A known cost, or infinity. -/
def costOrTop (cost : Option ℚ) : WithTop ℚ :=
  match cost with
  | some cost => (cost : WithTop ℚ)
  | none => ⊤

/-- Required places first, then by preference, confidence, cost and id. -/
def optimizationRank (trip : TripSpec) (poi : PlanningPOI) :
    ℕ ×ₗ ℤ ×ₗ ℚ ×ₗ WithTop ℚ ×ₗ String :=
  toLex (if isRequiredPoi trip poi then 0 else 1,
    toLex (-preferenceValue trip poi,
      toLex (-poi.dataConfidence, toLex (costOrTop poi.partyCost, poi.facts.id))))

/-- `OptimizationBudget` with the bounds of its fields. -/
structure OptimizationBudget where
  maxSolveMs : ℕ := 800
  maxSearchStates : ℕ := 20000
  candidateLimit : ℕ := 8
  variantCount : ℕ := 3
  maxSolveMs_bounds : 10 ≤ maxSolveMs ∧ maxSolveMs ≤ 30000 := by decide
  maxSearchStates_bounds : 1 ≤ maxSearchStates ∧ maxSearchStates ≤ 1000000 := by decide
  candidateLimit_bounds : 1 ≤ candidateLimit ∧ candidateLimit ≤ 20 := by decide
  variantCount_bounds : 1 ≤ variantCount ∧ variantCount ≤ 3 := by decide

/-- `OptimizationBudget()`. -/
def OptimizationBudget.default : OptimizationBudget := {}

/-- `select_optimization_pois`. -/
def selectOptimizationPois (trip : TripSpec) (pois : List PlanningPOI)
    (budget : OptimizationBudget) : List PlanningPOI :=
  (sortByKey (optimizationRank trip) pois).take budget.candidateLimit

/-- `collect_route_matrix_queries`: from the anchor to every place, and between any two. -/
def collectRouteMatrixQueries (trip : TripSpec) (pois : List PlanningPOI)
    (settings : RouteSettings) : List RouteQuery :=
  (pois.flatMap fun destination => legQueries settings trip.anchorCoordinate
      destination.facts.coordinate none destination.facts.id) ++
    pois.flatMap fun origin => pois.flatMap fun destination =>
      if origin.facts.id = destination.facts.id then []
      else legQueries settings origin.facts.coordinate destination.facts.coordinate
        (some origin.facts.id) destination.facts.id

/-! ## Problems -/

/-- `ANCHOR_ID`. -/
def anchorId : String := "__trip_anchor__"

structure ObjectiveWeights where
  preference : ℕ
  diversity : ℕ
  travel : ℕ
  cost : ℕ

/-- `STYLE_WEIGHTS`. -/
def styleWeights : PlanStyle → ObjectiveWeights
  | .relaxed => { preference := 10, diversity := 2, travel := 4, cost := 2 }
  | .balanced => { preference := 10, diversity := 5, travel := 2, cost := 1 }
  | .exploration => { preference := 8, diversity := 10, travel := 1, cost := 0 }

/-- `_available_minutes`. -/
def availableMinutes (trip : TripSpec) (day : Date) : ℕ :=
  (roundHalfEven (((dayEnd trip day).instant - (dayStart trip day).instant : ℤ) / 60000000)).toNat

structure OptimizationPOI where
  id : String
  name : String
  categories : List String
  durationMinutes : ℤ
  partyCost : Option ℚ
  preferenceValue : ℤ
  dataConfidence : ℚ
  mustVisit : Bool
  availableDays : List Date

structure RouteMatrixEntry where
  originId : String
  destinationId : String
  durationMinutes : ℕ
  distanceMeters : ℕ
  mode : RouteMode
  provider : String
  dataConfidence : ℚ

structure OptimizationProblem where
  id : String
  dates : List Date
  anchorId : String
  pois : List OptimizationPOI
  routeMatrix : List RouteMatrixEntry
  totalBudget : Option ℚ
  maxDailyActivityMinutes : ℕ
  maxDailyWalkingMeters : ℕ
  maxWalkingLegMeters : ℕ
  availableMinutesByDay : List (Date × ℕ)
  weightsByStyle : PlanStyle → ObjectiveWeights
  budget : OptimizationBudget

/-- The dates of a trip. -/
def TripSpec.dates (trip : TripSpec) : List Date := Date.range trip.startDate trip.endDate

/-- What the solver is told about a place; the model refuses an empty visit. -/
def optimizationPoi (trip : TripSpec) (poi : PlanningPOI) : Result OptimizationPOI := do
  require (0 < poi.durationMinutes ∧ ∀ cost ∈ poi.partyCost, 0 ≤ cost)
    (.validationError "OptimizationPOI")
  return {
    id := poi.facts.id
    name := poi.facts.name
    categories := sortedSet poi.facts.categories
    durationMinutes := poi.durationMinutes
    partyCost := poi.partyCost
    preferenceValue := preferenceValue trip poi
    dataConfidence := poi.dataConfidence
    mustVisit := isRequiredPoi trip poi
    availableDays := trip.dates.filter fun day => poi.openingWindows.contains day &&
      decide (poi.durationMinutes ≤ availableMinutes trip day) }

/-- `poi_id or ANCHOR_ID`. -/
def idOrAnchor (poiId : Option String) : String :=
  match poiId with
  | none => anchorId
  | some poiId => if poiId = "" then anchorId else poiId

/-- The matrix entry of a query. -/
def routeMatrixEntry (routes : Routes) (query : RouteQuery) : Result RouteMatrixEntry := do
  let route ← orRaise (routes.get? (routeKey query)) .keyError
  return {
    originId := idOrAnchor query.originPoiId
    destinationId := idOrAnchor (some query.destinationPoiId)
    durationMinutes := route.durationMinutes
    distanceMeters := route.distanceMeters
    mode := route.mode
    provider := route.provider
    dataConfidence := route.dataConfidence }

/-- `build_optimization_problem`. -/
def createOptimizationProblem (trip : TripSpec) (pois : List PlanningPOI) (routes : Routes)
    (budget : OptimizationBudget) (settings : RouteSettings) : Result OptimizationProblem := do
  let optimizationPois ← pois.mapM (optimizationPoi trip)
  let entries ← (collectRouteMatrixQueries trip pois settings).mapM (routeMatrixEntry routes)
  return {
    id := trip.destination ++ "-" ++ trip.startDate.isoformat ++ "-" ++ toString pois.length
    dates := trip.dates
    anchorId
    pois := optimizationPois
    routeMatrix := entries
    totalBudget := trip.totalBudget
    maxDailyActivityMinutes := trip.mobility.maxDailyActivityMinutes
    maxDailyWalkingMeters := trip.mobility.maxDailyWalkingMeters
    maxWalkingLegMeters := settings.maxWalkingLegMeters
    availableMinutesByDay := trip.dates.map fun day => (day, availableMinutes trip day)
    weightsByStyle := styleWeights
    budget }

/-! ## Answers -/

inductive OptimizationSolveStatus where
  | optimal | feasible | degraded | infeasible
  deriving DecidableEq

/-- The days that the solver found for a style. -/
structure OptimizationSolution where
  style : PlanStyle
  days : List DraftDay

structure OptimizationResult where
  status : OptimizationSolveStatus
  solver : String
  solutions : List OptimizationSolution
  degradedReason : Option String

/-- What a solver answers. -/
inductive SolverAnswer where
  | solved (result : OptimizationResult)
  /-- `OptimizationTimeoutError`. -/
  | timedOut
  | raised (failure : Failure)

/-- The draft of a solution. -/
def draftOfSolution (solution : OptimizationSolution) : CandidateDraft :=
  { id := solution.style.value ++ "-opt-r0", style := solution.style, days := solution.days }

/-- `drafts_from_optimization`. -/
def draftsFromOptimization (result : OptimizationResult) : List CandidateDraft :=
  result.solutions.map draftOfSolution

/-- `degraded_result`. -/
def degradedResult (drafts : List CandidateDraft) (reason : String) : OptimizationResult :=
  { status := .degraded, solver := "deterministic-nearest-neighbor-v0.5"
    solutions := drafts.map fun draft => ⟨draft.style, draft.days⟩
    degradedReason := some reason }

/-! ## The heuristic -/

/-- `PlanStyle`, in the order of its declaration. -/
def PlanStyle.all : List PlanStyle := [.relaxed, .balanced, .exploration]

/-- `STYLE_ACTIVITY_LIMITS`. -/
def styleActivityLimit : PlanStyle → ℕ
  | .relaxed => 2
  | .balanced => 3
  | .exploration => 4

/-- `_poi_preference_score`, a double.  Up to the last term it is a small integer, which doubles
add without an error. -/
def poiPreferenceScore (trip : TripSpec) (replanRound : ℕ) (poi : PlanningPOI) :
    Binary64.Double :=
  let score : ℚ := 1 + 4 * categoryMatches poi trip.interests -
    5 * categoryMatches poi trip.avoid + (if isRequiredPoi trip poi then 100 else 0) +
    (if trip.mobility.needsFrequentRest ∧ "适老" ∈ poi.facts.categories.map normalize
      then 2 else 0)
  match poi.partyCost with
  | some cost =>
    if replanRound = 0 then Binary64.ofRat score
    else Binary64.subtractedFrom score
      (Binary64.scaled replanRound (Binary64.ofRat (cost / 100)))
  | none => Binary64.ofRat score

/-- `rank_key` of `_select_pois`. -/
def heuristicRank (trip : TripSpec) (replanRound : ℕ) (poi : PlanningPOI) :
    Binary64.Double ×ₗ ℚ ×ₗ Binary64.Double ×ₗ String :=
  toLex (Binary64.opposite (poiPreferenceScore trip replanRound poi),
    toLex (-poi.dataConfidence,
      toLex ((poi.partyCost.map Binary64.ofRat).getD ⊤, poi.facts.id)))

/-- `_select_pois`. -/
def selectPois (trip : TripSpec) (pois : List PlanningPOI) (style : PlanStyle)
    (replanRound : ℕ) : List PlanningPOI :=
  let perDayLimit := max 1 (styleActivityLimit style - replanRound)
  (sortByKey (heuristicRank trip replanRound) pois).take
    (min pois.length (trip.dayCount * perDayLimit))

/-- The nearest place first, one after the other; `fuel` is the number of places left. -/
def nearestFirst : ℕ → Coordinate → List PlanningPOI → List PlanningPOI
  | 0, _, _ => []
  | fuel + 1, current, remaining =>
    match minByKey (fun poi : PlanningPOI =>
        (toLex (haversineDistanceMeters current poi.facts.coordinate, poi.facts.id) : ℕ ×ₗ String))
        remaining with
    | none => []
    | some next => next :: nearestFirst fuel next.facts.coordinate (remaining.erase next)

/-- `_order_nearest`: the required places first. -/
def orderNearest (trip : TripSpec) (start : Coordinate) (pois : List PlanningPOI) :
    List PlanningPOI :=
  let required := pois.filter (isRequiredPoi trip)
  let optional := pois.filter fun poi => !isRequiredPoi trip poi
  let first := nearestFirst required.length start required
  let current := (first.getLast?.map fun poi => poi.facts.coordinate).getD start
  first ++ nearestFirst optional.length current optional

/-- The places of a day: every `day_count`-th of the selected ones. -/
def dayBucket (trip : TripSpec) (selected : List PlanningPOI) (dayIndex : ℕ) :
    List PlanningPOI :=
  (selected.zipIdx.filter fun entry => decide (entry.2 % trip.dayCount = dayIndex)).map Prod.fst

/-- The heuristic draft of a style. -/
def prepareDraft (trip : TripSpec) (pois : List PlanningPOI) (replanRound : ℕ)
    (style : PlanStyle) : CandidateDraft :=
  let selected := selectPois trip pois style replanRound
  { id := style.value ++ "-r" ++ toString replanRound
    style
    days := (List.range trip.dayCount).map fun dayIndex =>
      { date := trip.startDate.addDays dayIndex
        poiIds := (orderNearest trip trip.anchorCoordinate (dayBucket trip selected dayIndex)).map
          fun poi => poi.facts.id } }

/-- `prepare_candidate_drafts`. -/
def prepareCandidateDrafts (trip : TripSpec) (pois : List PlanningPOI) (replanRound : ℕ) :
    List CandidateDraft :=
  PlanStyle.all.map (prepareDraft trip pois replanRound)

/-! ## Ids of drafts -/

omit [Platform] in
theorem planStyle_value_append_injective (tail : String) :
    Function.Injective fun style : PlanStyle => style.value ++ tail := by
  intro a b h
  have hlist := congrArg String.toList h
  simp only [String.toList_append, List.append_cancel_right_eq] at hlist
  revert hlist
  cases a <;> cases b <;> decide

omit [Platform] in
/-- Drafts of an answer have ids of their own when no style is answered twice. -/
theorem nodup_draftsFromOptimization {result : OptimizationResult} :
    ((draftsFromOptimization result).map CandidateDraft.id).Nodup ↔
      (result.solutions.map OptimizationSolution.style).Nodup := by
  have hids : (draftsFromOptimization result).map CandidateDraft.id =
      (result.solutions.map OptimizationSolution.style).map
        fun style : PlanStyle => style.value ++ "-opt-r0" := by
    simp only [draftsFromOptimization, List.map_map]
    rfl
  rw [hids]
  exact List.nodup_map_iff (planStyle_value_append_injective "-opt-r0")

/-- Drafts of the heuristic have ids of their own. -/
theorem nodup_prepareCandidateDrafts (trip : TripSpec) (pois : List PlanningPOI)
    (replanRound : ℕ) :
    ((prepareCandidateDrafts trip pois replanRound).map CandidateDraft.id).Nodup := by
  have hids : (prepareCandidateDrafts trip pois replanRound).map CandidateDraft.id =
      PlanStyle.all.map fun style => style.value ++ ("-r" ++ toString replanRound) := by
    rw [prepareCandidateDrafts, List.map_map]
    refine List.map_congr_left fun style _ => ?_
    exact String.append_assoc ..
  rw [hids]
  exact (List.nodup_map_iff (planStyle_value_append_injective _)).mpr (by decide)

end TravelPlanAgent
