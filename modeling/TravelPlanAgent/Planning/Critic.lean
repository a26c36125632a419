import TravelPlanAgent.Domain.Critique
import TravelPlanAgent.Planning.Optimization
import TravelPlanAgent.Planning.Validator

/-!
# What is wrong with a candidate

The rule-based critic reads the hard violations of a candidate and says whether a local repair
can be tried.

* `violationFingerprint`: a text that names the violations of a candidate.
* `terminalReasonOf`, `analyzeCandidate`: why nothing can be repaired, and the whole report.
* `selectRepairTarget`: the candidate that is repaired first.
* `repairable_analyzeCandidate`: a candidate is repairable exactly without a terminal reason.
-/

namespace TravelPlanAgent

open Calendar Selection

variable [Platform]

/-! ## Violations -/

/-- `SUPPORTED_REPAIR_VIOLATIONS`. -/
def supportedRepairViolations : List String :=
  ["activity_time_limit", "arrival_buffer", "budget_exceeded", "departure_buffer", "empty_plan",
   "missing_must_visit", "outside_daily_window", "outside_opening_hours", "time_overlap",
   "walking_limit"]

/-- The violations of a candidate that was validated. -/
def violationsOf (candidate : PlanCandidate) : List Violation :=
  match candidate.validation with
  | some validation => validation.violations
  | none => []

/-- `error_violations`. -/
def errorViolations (candidate : PlanCandidate) : List Violation :=
  (violationsOf candidate).filter Violation.isError

/-- The part of a fingerprint that names one violation. -/
def fingerprintPart (violation : Violation) : String ×ₗ String ×ₗ String ×ₗ String :=
  toLex (violation.type, toLex (violation.severity.value,
    toLex ((violation.day.map Date.isoformat).getD "",
      ",".intercalate (violation.entityIds.insertionSort (· ≤ ·)))))

/-- The four texts of a part, separated by semicolons. -/
def fingerprintText (part : String ×ₗ String ×ₗ String ×ₗ String) : String :=
  let first := ofLex part
  let second := ofLex first.2
  let third := ofLex second.2
  ";".intercalate [first.1, second.1, third.1, third.2]

/-- `violation_fingerprint`. -/
def violationFingerprint (candidate : PlanCandidate) : String :=
  let parts := ((violationsOf candidate).map fingerprintPart).insertionSort (· ≤ ·)
  prefixText 16 (sha256 ("|".intercalate (parts.map fingerprintText)))

/-! ## What can be repaired -/

/-- The normalised names of the scheduled items. -/
def scheduledNames (candidate : PlanCandidate) : List String :=
  candidate.datedItems.map fun entry => normalize entry.2.name

/-- `_required_pois_available`: every unscheduled must-visit place is known. -/
def requiredPoisAvailable (trip : TripSpec) (candidate : PlanCandidate)
    (pois : List PlanningPOI) : Bool :=
  trip.mustVisit.all fun required =>
    mustVisitScheduled (scheduledNames candidate) required ||
      mustVisitScheduled (pois.map fun poi => normalize poi.facts.name) required

/-- The known costs of the items that are required, or of those that are not. -/
def knownCosts (trip : TripSpec) (candidate : PlanCandidate) (required : Bool) : ℚ :=
  (candidate.datedItems.filterMap fun entry =>
    if trip.isMustVisit entry.2.name = required then entry.2.estimatedCost else none).sum

/-- `_budget_can_be_repaired`. -/
def budgetCanBeRepaired (trip : TripSpec) (candidate : PlanCandidate) : Bool :=
  match trip.totalBudget with
  | none => false
  | some budget =>
    let excess := candidate.metrics.knownEstimatedCost - budget
    decide (knownCosts trip candidate true ≤ budget) &&
      decide (excess ≤ knownCosts trip candidate false) && decide (0 < excess)

/-- The types of the errors, sorted. -/
def errorTypes (candidate : PlanCandidate) : List String :=
  sortedSet ((errorViolations candidate).map Violation.type)

/-- Why a candidate cannot be repaired. -/
def terminalReasonOf (trip : TripSpec) (candidate : PlanCandidate) (pois : List PlanningPOI) :
    Option String :=
  let types := errorTypes candidate
  let unsupported := types.filter fun type => decide (type ∉ supportedRepairViolations)
  if (errorViolations candidate).isEmpty then some "no_error_violation"
  else if ¬unsupported.isEmpty then
    some ("unsupported_violation:" ++ ",".intercalate unsupported)
  else if "budget_exceeded" ∈ types ∧ ¬budgetCanBeRepaired trip candidate then
    some "hard_constraint_conflict:budget"
  else if "missing_must_visit" ∈ types ∧ ¬requiredPoisAvailable trip candidate pois then
    some "missing_required_poi_facts"
  else if "empty_plan" ∈ types ∧ pois.isEmpty then some "no_available_poi"
  else none

/-- `analyze_candidate`. -/
def analyzeCandidate (trip : TripSpec) (candidate : PlanCandidate) (pois : List PlanningPOI) :
    CriticReport :=
  let errors := errorViolations candidate
  let terminalReason := terminalReasonOf trip candidate pois
  { candidateId := candidate.id
    violationFingerprint := violationFingerprint candidate
    errorCount := errors.length
    warningCount := ((violationsOf candidate).filter fun violation =>
      decide (violation.severity = .warning)).length
    violationTypes := errorTypes candidate
    affectedDays := sortedSet (errors.filterMap Violation.day)
    affectedPoiIds := sortedSet (errors.flatMap Violation.entityIds)
    repairable := terminalReason.isNone
    terminalReason }

/-- A candidate is repairable exactly without a terminal reason. -/
theorem repairable_analyzeCandidate {trip : TripSpec} {candidate : PlanCandidate}
    {pois : List PlanningPOI} :
    (analyzeCandidate trip candidate pois).repairable = true ↔
      (analyzeCandidate trip candidate pois).terminalReason = none :=
  Option.isNone_iff_eq_none

/-! ## The target -/

/-- `-score`, where no score is minus infinity. -/
def negatedScore (score : Option ℚ) : WithTop ℚ := costOrTop (score.map fun score => -score)

/-- Repairable candidates first, then by errors, warnings, score and id.  The report is looked
up by id. -/
def repairTargetRank (trip : TripSpec) (candidates : List PlanCandidate)
    (pois : List PlanningPOI) (candidate : PlanCandidate) :
    ℕ ×ₗ ℕ ×ₗ ℕ ×ₗ WithTop ℚ ×ₗ String :=
  let reported := (lastWith (fun c => decide (c.id = candidate.id)) candidates).getD candidate
  let report := analyzeCandidate trip reported pois
  toLex (if report.repairable then 0 else 1, toLex (report.errorCount,
    toLex (report.warningCount, toLex (negatedScore candidate.score, candidate.id))))

/-- `select_repair_target`. -/
def selectRepairTarget (trip : TripSpec) (candidates : List PlanCandidate)
    (pois : List PlanningPOI) : Result PlanCandidate :=
  orRaise (minByKey (repairTargetRank trip candidates pois) candidates)
    (.valueError "repair target requires at least one candidate")

end TravelPlanAgent
