import TravelPlanAgent.Domain.Platform

/-!
# Trips, places and routes

The value types of `domain/models.py` and `domain/tool_models.py` that planning reads.  A
model validator of the source is a proof field here, so an invalid value cannot be built.

* `TripSpec`: the request: dates, anchors, budget, preferences and mobility limits.
* `POIFacts`, `PlanningPOI`: what a provider says about a place, and what planning uses.
* `RouteQuery`, `RouteResult`, `routeKey`: a leg to be looked up and the answer.
-/

namespace TravelPlanAgent

open Calendar

/-! ## Enumerations -/

inductive Pace where
  | relaxed | balanced | intensive
  deriving DecidableEq

inductive PlanStyle where
  | relaxed | balanced | exploration
  deriving DecidableEq

inductive RouteMode where
  | driving | walking
  deriving DecidableEq

/-- Where a planning fact comes from. -/
inductive ValueSource where
  | provider | derived | default | userConfirmed
  deriving DecidableEq

inductive UnknownFactPolicy where
  | assumeWithWarning | strict
  deriving DecidableEq

def Pace.value : Pace → String
  | .relaxed => "relaxed"
  | .balanced => "balanced"
  | .intensive => "intensive"

def PlanStyle.value : PlanStyle → String
  | .relaxed => "relaxed"
  | .balanced => "balanced"
  | .exploration => "exploration"

def RouteMode.value : RouteMode → String
  | .driving => "driving"
  | .walking => "walking"

def ValueSource.value : ValueSource → String
  | .provider => "provider"
  | .derived => "derived"
  | .default => "default"
  | .userConfirmed => "user_confirmed"

/-! ## The trip -/

/-- Opening hours of one day. -/
structure TimeWindow where
  start : TimeOfDay
  finish : TimeOfDay
  start_lt_finish : start < finish
  deriving DecidableEq

/-- Arrival or departure. -/
structure TransportAnchor where
  name : String
  instant : DateTime
  coordinate : Coordinate
  deriving DecidableEq

structure LocationAnchor where
  name : String
  coordinate : Coordinate
  deriving DecidableEq

theorem usualActivityMinutes_pos : 0 < 480 := by decide

structure MobilityConstraints where
  maxDailyWalkingMeters : ℕ := 8000
  maxDailyActivityMinutes : ℕ := 480
  needsFrequentRest : Bool := false
  maxDailyActivityMinutes_pos : 0 < maxDailyActivityMinutes := by
    first | exact usualActivityMinutes_pos | decide
  deriving DecidableEq

/-- A trip request that passed `TripSpec.validate_trip_dates`. -/
structure TripSpec where
  destination : String
  startDate : Date
  endDate : Date
  travelers : ℕ
  arrival : TransportAnchor
  departure : TransportAnchor
  accommodation : Option LocationAnchor
  totalBudget : Option ℚ
  interests : List String
  avoid : List String
  mustVisit : List String
  pace : Pace
  mobility : MobilityConstraints
  dailyStart : TimeOfDay
  dailyEnd : TimeOfDay
  startDate_le_endDate : startDate ≤ endDate
  startDate_le_arrival : startDate ≤ arrival.instant.date
  departure_le_endDate : departure.instant.date ≤ endDate
  arrival_lt_departure : arrival.instant.instant < departure.instant.instant
  dailyStart_lt_dailyEnd : dailyStart < dailyEnd
  totalBudget_pos : ∀ budget ∈ totalBudget, 0 < budget
  deriving DecidableEq

namespace TripSpec

def dayCount (trip : TripSpec) : ℕ := trip.endDate.days - trip.startDate.days + 1

/-- The UTC offset in which a trip is scheduled. -/
def timezone (trip : TripSpec) : ℤ := trip.arrival.instant.offset

/-- Where every day starts: the accommodation, or the arrival anchor. -/
def anchorCoordinate (trip : TripSpec) : Coordinate :=
  match trip.accommodation with
  | some place => place.coordinate
  | none => trip.arrival.coordinate

/-- A name matches an entry of `must_visit`, in one direction or the other. -/
def isMustVisit [Platform] (trip : TripSpec) (name : String) : Bool :=
  trip.mustVisit.any fun required => namesOverlap required name

end TripSpec

/-! ## Places -/

theorem noCost_nonneg : ∀ cost ∈ (none : Option ℚ), 0 ≤ cost := by simp

theorem noDuration_pos : ∀ minutes ∈ (none : Option ℕ), 0 < minutes := by simp

/-- A place as a provider describes it. -/
structure POIFacts where
  id : String
  name : String
  city : String
  coordinate : Coordinate
  categories : List String
  openingWindowsByWeekday : Dict ℕ TimeWindow
  todayOpeningWindow : Option TimeWindow
  todayOpeningDate : Option Date
  averageCostPerPerson : Option ℚ
  suggestedDurationMinutes : Option ℕ
  provider : String
  fetchedAt : DateTime
  dataConfidence : ℚ
  averageCostPerPerson_nonneg : ∀ cost ∈ averageCostPerPerson, 0 ≤ cost
  suggestedDurationMinutes_pos : ∀ minutes ∈ suggestedDurationMinutes, 0 < minutes
  deriving DecidableEq

/-- A fact that planning had to assume. -/
structure PlanningAssumption where
  field : String
  value : String
  reason : String
  source : ValueSource
  affectedDates : List Date
  createdAt : DateTime
  deriving DecidableEq

/-- A place with every fact that planning needs. -/
structure PlanningPOI where
  facts : POIFacts
  openingWindows : Dict Date TimeWindow
  durationMinutes : ℤ
  partyCost : Option ℚ
  assumptions : List PlanningAssumption
  openingWindowSources : Dict Date ValueSource
  dataConfidence : ℚ
  deriving DecidableEq

/-- `{poi.facts.id: poi for poi in pois}`, read at one id. -/
def poiById (pois : List PlanningPOI) (poiId : String) : Option PlanningPOI :=
  Selection.lastWith (fun poi => decide (poi.facts.id = poiId)) pois

theorem facts_id_of_poiById {pois : List PlanningPOI} {poiId : String} {poi : PlanningPOI}
    (h : poiById pois poiId = some poi) : poi.facts.id = poiId := by
  have hpos := Selection.pos_of_lastWith h
  exact of_decide_eq_true hpos

theorem mem_of_poiById {pois : List PlanningPOI} {poiId : String} {poi : PlanningPOI}
    (h : poiById pois poiId = some poi) : poi ∈ pois :=
  Selection.mem_of_lastWith h

/-- Appending places with other ids does not change a lookup. -/
theorem poiById_append_of_not_mem {pois extra : List PlanningPOI} {poiId : String}
    (h : ∀ poi ∈ extra, poi.facts.id ≠ poiId) :
    poiById (pois ++ extra) poiId = poiById pois poiId := by
  rw [poiById, poiById, Selection.lastWith, Selection.lastWith, List.reverse_append,
    List.find?_append, List.find?_eq_none.mpr, Option.none_or]
  intro poi hpoi
  simpa using h poi (List.mem_reverse.mp hpoi)

/-! ## Routes -/

structure POISearchQuery where
  city : String
  keyword : String
  exactMatch : Bool
  limit : ℕ
  priority : ℤ
  deriving DecidableEq

structure RouteQuery where
  origin : Coordinate
  destination : Coordinate
  originPoiId : Option String
  destinationPoiId : String
  mode : RouteMode
  strategy : ℕ
  deriving DecidableEq

/-- One route as a provider answered it. -/
structure RouteResult where
  distanceMeters : ℕ
  durationMinutes : ℕ
  mode : RouteMode
  provider : String
  dataConfidence : ℚ
  fetchedAt : DateTime
  distanceMeters_pos : 0 < distanceMeters
  durationMinutes_pos : 0 < durationMinutes
  deriving DecidableEq

/-- The key under which a route is cached and stored. -/
def routeKey (query : RouteQuery) : String :=
  "route:v1|" ++ fixedSix query.origin.longitude ++ "," ++ fixedSix query.origin.latitude ++
    "->" ++ fixedSix query.destination.longitude ++ "," ++ fixedSix query.destination.latitude ++
    "|" ++ query.mode.value ++ "|" ++ toString query.strategy

/-- Routes by route key. -/
abbrev Routes := Dict String RouteResult

end TravelPlanAgent
