import TravelPlanAgent.Planning.Optimization
import TravelPlanAgent.Library.ZeroOne

/-!
# The solver

A problem becomes one zero-one model for each style.  The constraint solver is a parameter: it is
given a model and answers with a status and an assignment.  What it assigns to a day is then put
in order, nearest first, by the route matrix.

* `mergeRouteMatrix`: one leg for each pair, walked when it is short enough.
* `assignmentConstraints`, `dayConstraints`, `budgetConstraints`, `categoryConstraints`: what is
  posted.
* `cpModel`: the model of a style.
* `CpSat`: the constraint solver.
* `orderedDay`, `legEntries`: the order of a day, and its legs.
* `readDay`, `extractSolution`, `solve`: reading the assignments.
* `nodup_styles_of_solve`: no style is answered twice.
-/

namespace TravelPlanAgent

open Calendar Selection ZeroOne

/-! ## The route matrix -/

/-- One leg for each pair of ids. -/
abbrev RouteMatrix := Dict (String × String) RouteMatrixEntry

/-- The pair of ids of an entry. -/
def RouteMatrixEntry.pair (entry : RouteMatrixEntry) : String × String :=
  (entry.originId, entry.destinationId)

/-- `raw_matrix.get((origin_id, destination_id, mode))`: later entries replace earlier ones. -/
def rawEntry (problem : OptimizationProblem) (pair : String × String) (mode : RouteMode) :
    Option RouteMatrixEntry :=
  lastWith (fun entry : RouteMatrixEntry => decide (entry.pair = pair ∧ entry.mode = mode))
    problem.routeMatrix

/-- The leg of a pair: a short walk, else a drive, else a long walk. -/
def mergedEntry (problem : OptimizationProblem) (pair : String × String) :
    Result RouteMatrixEntry :=
  let walking := rawEntry problem pair .walking
  let driving := rawEntry problem pair .driving
  let shortWalk := walking.filter fun entry =>
    decide (entry.distanceMeters ≤ problem.maxWalkingLegMeters)
  orRaise (shortWalk <|> driving <|> walking)
    (.valueError "route matrix pair has no supported mode")

/-- The pairs that some entry is about. -/
def OptimizationProblem.pairs (problem : OptimizationProblem) : List (String × String) :=
  (problem.routeMatrix.map RouteMatrixEntry.pair).dedup

/-- `matrix` of `solve`. -/
def mergeRouteMatrix (problem : OptimizationProblem) : Result RouteMatrix := do
  let entries ← problem.pairs.mapM (mergedEntry problem)
  return Dict.ofList (problem.pairs.zip entries)

/-- `matrix[pair]`. -/
def RouteMatrix.leg (matrix : RouteMatrix) (pair : String × String) : Result RouteMatrixEntry :=
  orRaise (matrix.get? pair) .keyError

/-! ## The model of a style -/

/-- The variables of a model. -/
inductive CpVariable where
  /-- `x_…`: this place is visited on that day. -/
  | assigned (poiId : String) (day : Date)
  /-- `category_…`: some place of this category is visited on that day. -/
  | shown (day : Date) (category : String)
  deriving DecidableEq

/-- The variables of a place. -/
def OptimizationProblem.ofPoi (problem : OptimizationProblem) (poi : OptimizationPOI) :
    List CpVariable :=
  problem.dates.map (.assigned poi.id)

/-- The variables of a day. -/
def OptimizationProblem.onDay (problem : OptimizationProblem) (day : Date) : List CpVariable :=
  problem.pois.map fun poi => .assigned poi.id day

/-- `assignments.values()`. -/
def OptimizationProblem.allAssignments (problem : OptimizationProblem) : List CpVariable :=
  (problem.pois.flatMap problem.ofPoi).dedup

/-- The terms with one weight for each place, on every day. -/
def OptimizationProblem.everyDay (problem : OptimizationProblem) (weight : OptimizationPOI → ℤ) :
    Terms CpVariable :=
  problem.pois.flatMap fun poi => problem.dates.map fun day => (weight poi, .assigned poi.id day)

/-- A place is visited once or, if it is not required, never; and not when it is closed. -/
def assignmentConstraints (problem : OptimizationProblem) (poi : OptimizationPOI) :
    List (Constraint CpVariable) :=
  ⟨units (problem.ofPoi poi), if poi.mustVisit then .eq else .le, 1⟩ ::
    (problem.dates.filter fun day => decide (day ∉ poi.availableDays)).map fun day =>
      ⟨units [.assigned poi.id day], .eq, 0⟩

/-- The length of the walk to a place. -/
def walkingMeters (entry : RouteMatrixEntry) : ℕ :=
  if entry.mode = .walking then entry.distanceMeters else 0

/-- The limits of a day: the number of places, the minutes and the walks from the anchor. -/
def dayConstraints (problem : OptimizationProblem) (matrix : RouteMatrix) (style : PlanStyle)
    (day : Date) : Result (List (Constraint CpVariable)) := do
  let minutes ← problem.pois.mapM fun poi => do
    let leg ← matrix.leg (problem.anchorId, poi.id)
    return ((poi.durationMinutes + leg.durationMinutes : ℤ), CpVariable.assigned poi.id day)
  let available ← orRaise (lookupDay problem.availableMinutesByDay day) .keyError
  let walks ← problem.pois.mapM fun poi => do
    let leg ← matrix.leg (problem.anchorId, poi.id)
    return ((walkingMeters leg : ℤ), CpVariable.assigned poi.id day)
  return [
    ⟨units (problem.onDay day), .le, styleActivityLimit style⟩,
    ⟨minutes, .le, (min problem.maxDailyActivityMinutes available : ℕ)⟩,
    ⟨walks, .le, problem.maxDailyWalkingMeters⟩]
where
  /-- `available_minutes_by_day[day]`. -/
  lookupDay (minutesByDay : List (Date × ℕ)) (day : Date) : Option ℕ :=
    (lastWith (fun entry : Date × ℕ => decide (entry.1 = day)) minutesByDay).map Prod.snd

/-- An unknown cost counts as none. -/
def OptimizationPOI.knownCost (poi : OptimizationPOI) : ℚ := poi.partyCost.getD 0

/-- The known costs stay within the budget, in cents. -/
def budgetConstraints (problem : OptimizationProblem) : List (Constraint CpVariable) :=
  match problem.totalBudget with
  | none => []
  | some totalBudget =>
    [⟨problem.everyDay fun poi => roundHalfEven (poi.knownCost * 100), .le,
      roundHalfEven (totalBudget * 100)⟩]

/-- The categories of all places, in order. -/
def OptimizationProblem.categories (problem : OptimizationProblem) : List String :=
  sortedSet (problem.pois.flatMap OptimizationPOI.categories)

/-- The category variables, day by day. -/
def OptimizationProblem.categoryVars (problem : OptimizationProblem) :
    List (Date × String) :=
  problem.dates.flatMap fun day => problem.categories.map fun category => (day, category)

/-- A category is shown on a day only by a place that has it. -/
def categoryConstraint (problem : OptimizationProblem) (day : Date) (category : String) :
    Constraint CpVariable :=
  let matching := (problem.pois.filter fun poi => decide (category ∈ poi.categories)).map
    fun poi => CpVariable.assigned poi.id day
  if matching.isEmpty then ⟨units [.shown day category], .eq, 0⟩
  else ⟨(1, .shown day category) :: opposite (units matching), .le, 0⟩

def categoryConstraints (problem : OptimizationProblem) : List (Constraint CpVariable) :=
  problem.categoryVars.map fun (day, category) => categoryConstraint problem day category

/-- Preference and diversity, less travel and cost. -/
def objectiveTerms (problem : OptimizationProblem) (matrix : RouteMatrix) (style : PlanStyle) :
    Result (Terms CpVariable) := do
  let weights := problem.weightsByStyle style
  let legs ← problem.pois.mapM fun poi => do
    let leg ← matrix.leg (problem.anchorId, poi.id)
    return (poi, leg)
  let preference := problem.everyDay fun poi => weights.preference * poi.preferenceValue
  let diversity := problem.categoryVars.map fun (day, category) =>
    ((weights.diversity : ℤ), CpVariable.shown day category)
  let travel := legs.flatMap fun (poi, leg) => problem.dates.map fun day =>
    ((weights.travel * leg.durationMinutes : ℤ), CpVariable.assigned poi.id day)
  let cost := problem.everyDay fun poi => weights.cost * roundHalfEven poi.knownCost
  return preference ++ diversity ++ opposite travel ++ opposite cost

/-- The model of a style. -/
def cpModel (problem : OptimizationProblem) (matrix : RouteMatrix) (style : PlanStyle) :
    Result (Model CpVariable) := do
  let limits ← problem.dates.mapM (dayConstraints problem matrix style)
  let objective ← objectiveTerms problem matrix style
  return {
    constraints := problem.pois.flatMap (assignmentConstraints problem) ++
      [⟨units problem.allAssignments, .ge, 1⟩] ++ limits.flatten ++ budgetConstraints problem ++
      categoryConstraints problem
    objective }

/-! ## The constraint solver -/

inductive CpStatus where
  | unknown | modelInvalid | feasible | infeasible | optimal
  deriving DecidableEq

/-- The status of a solve and, where there is one, the solution found. -/
structure CpAnswer where
  status : CpStatus
  value : CpVariable → Bool
  objectiveValue : ℚ

structure CpParameters where
  maxTimeInSeconds : ℚ
  maxNumberOfConflicts : ℕ
  numSearchWorkers : ℕ
  randomSeed : ℕ

/-- `CpSolver.solve`. -/
abbrev CpSat := CpParameters → Model CpVariable → CpAnswer

/-- The status comes with a solution. -/
def CpStatus.found (status : CpStatus) : Bool := decide (status = .optimal ∨ status = .feasible)

/-- The parameters of the solve for one of the styles. -/
def cpParameters (problem : OptimizationProblem) (styleIndex : ℕ) : CpParameters :=
  { maxTimeInSeconds := problem.budget.maxSolveMs / 1000 / max 1 problem.budget.variantCount
    maxNumberOfConflicts := problem.budget.maxSearchStates / max 1 problem.budget.variantCount
    numSearchWorkers := 1
    randomSeed := styleIndex }

/-! ## Reading an assignment -/

/-- The ids of the places assigned to a day. -/
def assignedIds (problem : OptimizationProblem) (value : CpVariable → Bool) (day : Date) :
    List String :=
  (problem.pois.map OptimizationPOI.id).filter fun poiId => value (.assigned poiId day)

/-- The nearest of the remaining places first; `fuel` is the number of places left. -/
def orderedFrom (matrix : RouteMatrix) : ℕ → String → List String → Result (List String)
  | 0, _, _ => .ok []
  | fuel + 1, current, remaining => do
    let keys ← remaining.mapM fun poiId => do
      let leg ← matrix.leg (current, poiId)
      return (toLex (leg.durationMinutes, toLex (leg.distanceMeters, poiId)) : ℕ ×ₗ ℕ ×ₗ String)
    match minByKey id keys with
    | none => return []
    | some key =>
      let nextId := (ofLex (ofLex key).2).2
      let later ← orderedFrom matrix fuel nextId (remaining.erase nextId)
      return nextId :: later

/-- `_ordered_day`. -/
def orderedDay (problem : OptimizationProblem) (matrix : RouteMatrix) (poiIds : List String) :
    Result (List String) :=
  orderedFrom matrix poiIds.dedup.length problem.anchorId poiIds.dedup

/-- The legs of a day. -/
def legEntries (matrix : RouteMatrix) : String → List String → Result (List RouteMatrixEntry)
  | _, [] => .ok []
  | current, poiId :: rest => do
    let leg ← matrix.leg (current, poiId)
    let later ← legEntries matrix poiId rest
    return leg :: later

/-- `ObjectiveBreakdown`. -/
structure ObjectiveBreakdown where
  preferenceValue : ℤ
  diversityCount : ℕ
  travelMinutes : ℕ
  walkingMeters : ℕ
  knownCost : ℚ

/-- The breakdown of some places and legs; the model refuses a negative cost. -/
def createObjectiveBreakdown (selected : List OptimizationPOI) (legs : List RouteMatrixEntry) :
    Result ObjectiveBreakdown := do
  let knownCost := (selected.map OptimizationPOI.knownCost).sum
  require (0 ≤ knownCost) (.validationError "ObjectiveBreakdown")
  return {
    preferenceValue := (selected.map OptimizationPOI.preferenceValue).sum
    diversityCount := (selected.flatMap OptimizationPOI.categories).dedup.length
    travelMinutes := (legs.map RouteMatrixEntry.durationMinutes).sum
    walkingMeters := (legs.map TravelPlanAgent.walkingMeters).sum
    knownCost }

/-- A day of an assignment, and its legs. -/
def readDay (problem : OptimizationProblem) (matrix : RouteMatrix) (value : CpVariable → Bool)
    (day : Date) : Result (DraftDay × List RouteMatrixEntry) := do
  let ordered ← orderedDay problem matrix (assignedIds problem value day)
  let legs ← legEntries matrix problem.anchorId ordered
  return (⟨day, ordered⟩, legs)

/-- `poi_by_id[poi_id]`. -/
def OptimizationProblem.poi (problem : OptimizationProblem) (poiId : String) :
    Result OptimizationPOI :=
  orRaise (lastWith (fun poi : OptimizationPOI => decide (poi.id = poiId)) problem.pois) .keyError

/-- A solution with its value. -/
structure StyleSolution where
  solution : OptimizationSolution
  objectiveValue : ℚ
  objectiveBreakdown : ObjectiveBreakdown

/-- The solution that an assignment stands for. -/
def extractSolution (problem : OptimizationProblem) (matrix : RouteMatrix) (style : PlanStyle)
    (answer : CpAnswer) : Result StyleSolution := do
  let days ← problem.dates.mapM (readDay problem matrix answer.value)
  let selected ← (days.flatMap fun day => day.1.poiIds).mapM problem.poi
  let breakdown ← createObjectiveBreakdown selected (days.flatMap Prod.snd)
  return {
    solution := { style, days := days.map Prod.fst }
    objectiveValue := roundTo 3 answer.objectiveValue
    objectiveBreakdown := breakdown }

/-- What is read from an answer: nothing when the status comes without a solution. -/
def readAnswer (problem : OptimizationProblem) (matrix : RouteMatrix) (style : PlanStyle)
    (answer : CpAnswer) : Result (Option StyleSolution) :=
  if answer.status.found then (extractSolution problem matrix style answer).map some else .ok none

/-- The status of one solve, and what was read from it. -/
structure StyleOutcome where
  status : CpStatus
  found : Option StyleSolution

/-- One style after the other; nothing when one of them is not answered in time. -/
def solveStyles (cpSat : CpSat) (problem : OptimizationProblem) (matrix : RouteMatrix) :
    List (PlanStyle × ℕ) → Result (Option (List StyleOutcome))
  | [] => .ok (some [])
  | (style, styleIndex) :: rest => do
    let model ← cpModel problem matrix style
    let answer := cpSat (cpParameters problem styleIndex) model
    if answer.status = .unknown then return none
    let found ← readAnswer problem matrix style answer
    let later ← solveStyles cpSat problem matrix rest
    return later.map (⟨answer.status, found⟩ :: ·)

/-- The result for the outcomes of all styles. -/
def resultOf (outcomes : List StyleOutcome) : OptimizationResult :=
  let solutions := outcomes.filterMap StyleOutcome.found
  { status :=
      if solutions.isEmpty then .infeasible
      else if outcomes.all fun outcome => decide (outcome.status = .optimal) then .optimal
      else .feasible
    solver := "ortools-cp-sat-assignment-v1"
    solutions := solutions.map StyleSolution.solution
    degradedReason := none }

/-- The answer for the outcomes, if they came in time and nothing was raised. -/
def answerOf : Result (Option (List StyleOutcome)) → SolverAnswer
  | .error failure => .raised failure
  | .ok none => .timedOut
  | .ok (some outcomes) => .solved (resultOf outcomes)

/-- `ORToolsOptimizationSolver.solve`. -/
def solve (cpSat : CpSat) (problem : OptimizationProblem) : SolverAnswer :=
  answerOf do
    let matrix ← mergeRouteMatrix problem
    solveStyles cpSat problem matrix (PlanStyle.all.take problem.budget.variantCount).zipIdx

/-! ## Styles of an answer -/

section Styles

variable {cpSat : CpSat} {problem : OptimizationProblem} {matrix : RouteMatrix}

theorem style_of_readAnswer {style : PlanStyle} {answer : CpAnswer} {found : Option StyleSolution}
    (h : readAnswer problem matrix style answer = .ok found) :
    ∀ solution ∈ found, solution.solution.style = style := by
  unfold readAnswer at h
  split at h
  · cases hsolution : extractSolution problem matrix style answer with
    | error failure =>
      rw [hsolution] at h
      cases h
    | ok solution =>
    rw [hsolution] at h
    cases h
    obtain ⟨_, -, hsolution⟩ := bind_eq_ok hsolution
    obtain ⟨_, -, hsolution⟩ := bind_eq_ok hsolution
    obtain ⟨_, -, hsolution⟩ := bind_eq_ok hsolution
    cases hsolution
    simp
  · cases h
    simp

/-- The styles that are answered are among those that were asked for, in their order. -/
theorem styles_of_solveStyles {styles : List (PlanStyle × ℕ)} {outcomes : List StyleOutcome}
    (h : solveStyles cpSat problem matrix styles = .ok (some outcomes)) :
    ((outcomes.filterMap StyleOutcome.found).map fun found => found.solution.style).Sublist
      (styles.map Prod.fst) := by
  induction styles generalizing outcomes with
  | nil =>
    cases h
    exact List.Sublist.refl _
  | cons entry rest ih =>
    obtain ⟨style, styleIndex⟩ := entry
    obtain ⟨model, -, h⟩ := bind_eq_ok h
    dsimp only at h
    split at h
    · cases h
    obtain ⟨found, hfound, h⟩ := bind_eq_ok h
    obtain ⟨later, hlater, h⟩ := bind_eq_ok h
    cases later with
    | none => cases h
    | some later =>
      cases h
      have hrest := ih hlater
      cases found with
      | none => exact hrest.cons _
      | some solution =>
        have hstyle : solution.solution.style = style := style_of_readAnswer hfound solution rfl
        change (solution.solution.style :: _).Sublist (style :: _)
        rw [hstyle]
        exact hrest.cons_cons _

/-- The solver answers no style twice. -/
theorem nodup_styles_of_solve {result : OptimizationResult}
    (h : solve cpSat problem = .solved result) :
    (result.solutions.map OptimizationSolution.style).Nodup := by
  unfold solve at h
  generalize hanswered : (do
    let matrix ← mergeRouteMatrix problem
    solveStyles cpSat problem matrix _ : Result (Option (List StyleOutcome))) = answered at h
  match answered with
  | .error _ => cases h
  | .ok none => cases h
  | .ok (some outcomes) =>
    cases h
    obtain ⟨matrix, -, hsolved⟩ := bind_eq_ok hanswered
    have hsub := styles_of_solveStyles hsolved
    rw [List.zipIdx_map_fst] at hsub
    have hall : PlanStyle.all.Nodup := by decide
    rw [resultOf, List.map_map]
    exact hall.sublist (hsub.trans (List.take_sublist ..))

end Styles

end TravelPlanAgent
