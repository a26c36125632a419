import TravelPlanAgent.Domain.Critique

/-!
# Evidence digests

A critic sees a candidate only through a digest: facts in a fixed order, cut off where the
budget ends.

* `candidateItems`: all facts of a candidate, the most important first.
* `takeWithin`: the longest prefix of the facts that fits into the remaining characters.
* `buildEvidenceDigests`: the digests of the candidates that fit.
-/

namespace TravelPlanAgent

open Calendar Selection

variable [Platform]

/-- `EvidenceBudget` with the bounds of its `__post_init__`. -/
structure EvidenceBudget where
  maxCandidates : ℕ := 3
  maxItemsPerCandidate : ℕ := 48
  maxInputChars : ℕ := 24000
  maxCandidates_pos : 0 < maxCandidates := by decide
  maxItemsPerCandidate_pos : 0 < maxItemsPerCandidate := by decide
  maxInputChars_pos : 0 < maxInputChars := by decide

/-- `EvidenceBudget()`. -/
def EvidenceBudget.default : EvidenceBudget := {}

/-! ## Facts -/

/-- `_evidence_id`. -/
def evidenceId (candidateId : String) (kind : EvidenceKind) (day : Option Date)
    (entityId : Option String) (field : String) : String :=
  let identity := "|".intercalate
    [candidateId, kind.value, (day.map Date.isoformat).getD "", entityId.getD "", field]
  "ev_" ++ prefixText 20 (sha256 identity)

/-- `_item`. -/
def evidenceItem (candidateId : String) (kind : EvidenceKind) (field : String)
    (value : EvidenceValue) (day : Option Date) (entityId : Option String) (source : String)
    (confidence : ℚ) : EvidenceItem :=
  { id := evidenceId candidateId kind day entityId field, kind, candidateId, day, entityId
    field, value, source, confidence }

/-- Several texts in one, or a placeholder for none. -/
def joinedOr (fallback : String) (texts : List String) : EvidenceValue :=
  let text := ",".intercalate texts
  .text (if text = "" then fallback else text)

/-- Whole minutes of a span, rounded down. -/
def spanMinutes (start finish : DateTime) : ℤ := (finish.instant - start.instant) / minuteMicros

def preferenceFields (trip : TripSpec) : List (String × EvidenceValue) :=
  [("pace", .text trip.pace.value), ("interests", joinedOr "none" trip.interests),
   ("avoid", joinedOr "none" trip.avoid), ("must_visit", joinedOr "none" trip.mustVisit),
   ("needs_frequent_rest", .truth trip.mobility.needsFrequentRest),
   ("max_daily_activity_minutes", .number trip.mobility.maxDailyActivityMinutes),
   ("max_daily_walking_meters", .number trip.mobility.maxDailyWalkingMeters)]

def metricFields (metrics : PlanMetrics) : List (String × EvidenceValue) :=
  [("preference_match", .number metrics.preferenceMatch), ("diversity", .number metrics.diversity),
   ("fatigue_score", .number metrics.fatigueScore),
   ("data_confidence", .number metrics.dataConfidence),
   ("total_travel_minutes", .number metrics.totalTravelMinutes),
   ("walking_distance_meters", .number metrics.walkingDistanceMeters),
   ("known_estimated_cost", .number metrics.knownEstimatedCost),
   ("unknown_cost_item_count", .number metrics.unknownCostItemCount)]

/-- From the start of the first item to the end of the last. -/
def occupiedMinutes (items : List PlanItem) : ℤ :=
  match items.head?, items.getLast? with
  | some first, some last => spanMinutes first.startAt last.endAt
  | _, _ => 0

def dayFields (day : DayPlan) : List (String × EvidenceValue) :=
  [("activity_count", .number day.items.length),
   ("activity_minutes",
    .number ((day.items.map fun item => spanMinutes item.startAt item.endAt).sum : ℤ)),
   ("occupied_span_minutes", .number (occupiedMinutes day.items)),
   ("total_travel_minutes", .number day.totalTravelMinutes),
   ("walking_distance_meters", .number day.walkingDistanceMeters),
   ("fatigue_score", .number day.fatigueScore)]

section Facts

variable (trip : TripSpec) (candidate : PlanCandidate) (pois : List PlanningPOI)

/-- The items that have a place, with their date, their position and the place's id. -/
def placedItems : List (Date × ℕ × PlanItem × String) :=
  candidate.days.flatMap fun day => (day.items.zipIdx).filterMap fun (item, index) =>
    item.poiId.map fun poiId => (day.date, index, item, poiId)

/-- `_candidate_items`: preferences and metrics, scheduled places, places, times, routes,
assumptions. -/
def candidateItems : List EvidenceItem :=
  let id := candidate.id
  let placed := placedItems candidate
  let facts (kind : EvidenceKind) (day : Option Date) (entityId : Option String)
      (source : String) (confidence : ℚ) (fields : List (String × EvidenceValue)) :=
    fields.map fun (field, value) => evidenceItem id kind field value day entityId source confidence
  let preferences := facts .tripPreference none none "normalized" 1 (preferenceFields trip)
  let metrics := facts .candidateMetric none none "normalized" 1 (metricFields candidate.metrics)
  let days := candidate.days.flatMap fun day =>
    facts .dayMetric (some day.date) none "normalized" 1 (dayFields day)
  let schedule := placed.flatMap fun (date, _, item, poiId) =>
    facts .scheduleFact (some date) (some poiId) "candidate_schedule" 1
      [("name", .text item.name), ("must_visit", .truth (trip.isMustVisit item.name))]
  let places := placed.flatMap fun (_, _, _, poiId) =>
    match poiById pois poiId with
    | none => []
    | some poi => facts .poiFact none (some poi.facts.id) poi.facts.provider poi.dataConfidence
        [("categories", joinedOr "unknown" poi.facts.categories),
         ("duration_minutes", .number poi.durationMinutes),
         ("data_confidence", .number poi.dataConfidence)]
  let times := placed.flatMap fun (date, index, item, poiId) =>
    facts .scheduleFact (some date) (some poiId) "candidate_schedule" 1
      [("position", .number index), ("start_at", .text item.startAt.isoformat),
       ("end_at", .text item.endAt.isoformat)]
  let routes := placed.flatMap fun (date, _, item, poiId) =>
    facts .routeFact (some date) (some poiId) "route_gateway" 1
      [("travel_minutes_from_previous", .number item.travelFromPreviousMinutes),
       ("distance_meters_from_previous", .number item.distanceFromPreviousMeters)]
  let assumptions := candidate.assumptions.map fun assumption =>
    evidenceItem id .assumption assumption.field (.text assumption.value) none none
      assumption.source.value (1 / 2)
  preferences ++ metrics ++ days ++ schedule ++ places ++ times ++ routes ++ assumptions

end Facts

/-! ## Digests -/

def evidenceValueJson : EvidenceValue → Json
  | .text s => .str s
  | .number q => .num q
  | .truth b => .bool b

def evidenceItemJson (item : EvidenceItem) : Json :=
  .obj
    [("id", .str item.id), ("kind", .str item.kind.value),
     ("candidate_id", .str item.candidateId),
     ("day", (item.day.map fun day => Json.str day.isoformat).getD .null),
     ("entity_id", (item.entityId.map Json.str).getD .null), ("field", .str item.field),
     ("value", evidenceValueJson item.value), ("source", .str item.source),
     ("confidence", .num item.confidence)]

/-- The number of characters of some facts. -/
def evidenceChars (items : List EvidenceItem) : ℕ := jsonLength (.arr (items.map evidenceItemJson))

/-- The longest prefix of the facts that fits; `true` when something was cut off. -/
def takeWithin (chars : ℕ) : List EvidenceItem → List EvidenceItem → List EvidenceItem × Bool
  | selected, [] => (selected, false)
  | selected, item :: rest =>
    if chars < evidenceChars (selected ++ [item]) then (selected, true)
    else takeWithin chars (selected ++ [item]) rest

/-- The digests of some candidates; the first one without any fact ends the list. -/
def digestsWithin (trip : TripSpec) (pois : List PlanningPOI) (maxItems : ℕ) :
    ℕ → List PlanCandidate → List CandidateEvidenceDigest
  | _, [] => []
  | chars, candidate :: rest =>
    let items := candidateItems trip candidate pois
    let (selected, cut) := takeWithin chars [] (items.take maxItems)
    if selected.isEmpty then []
    else
      { candidateId := candidate.id, style := candidate.style, evidence := selected
        inputChars := evidenceChars selected
        truncated := decide (maxItems < items.length) || cut } ::
      digestsWithin trip pois maxItems (chars - evidenceChars selected) rest

/-- `build_evidence_digests`. -/
def buildEvidenceDigests (trip : TripSpec) (candidates : List PlanCandidate)
    (pois : List PlanningPOI) (budget : EvidenceBudget) : List CandidateEvidenceDigest :=
  digestsWithin trip pois budget.maxItemsPerCandidate budget.maxInputChars
    (candidates.take budget.maxCandidates)

end TravelPlanAgent
