import TravelPlanAgent.Domain.Trip

/-!
# Requirements of a trip

What was understood of a request is a draft whose fields may all be missing.  Its dates and times
come as they were written: with an offset or without one.

* `ClockTime`, `ClockTime.le`: times of day, which compare only when both or neither have an
  offset.
* `Zone`, `localized`: a time zone, and a moment in it.
* `RequirementDraft`: a draft as its validators leave it.
* `normalizeTerms`, `normalized_normalizeTerms`: what these do to a list of terms.
* `TripFields`, `createTripSpec`: the checks of a trip.
-/

namespace TravelPlanAgent

open Calendar

/-! ## Times -/

/-- `time`: what a clock shows, and its UTC offset in microseconds if it has one. -/
structure ClockTime where
  time : TimeOfDay
  offset : Option ℤ
  deriving DecidableEq

/-- The time in UTC; offsets count in whole minutes. -/
def ClockTime.utcMicros (clock : ClockTime) (offset : ℤ) : ℤ :=
  clock.time.micros - offset / minuteMicros * minuteMicros

/-- `a <= b`: times with the same offset compare by the clock, times with two offsets in UTC. -/
def ClockTime.le (a b : ClockTime) : Result Bool :=
  if a.offset = b.offset then .ok (decide (a.time ≤ b.time))
  else match a.offset, b.offset with
    | some offset, some offset' => .ok (decide (a.utcMicros offset ≤ b.utcMicros offset'))
    | _, _ => .error .typeError

/-- A time without an offset. -/
def ClockTime.ofHourMinute (hour : Fin 24) (minute : Fin 60) : ClockTime :=
  ⟨.ofHourMinute hour minute, none⟩

/-- The microseconds of the years 1 to 9999. -/
def calendarMicros : ℤ := 3652059 * dayMicros

/-- `datetime`: what a clock shows, in microseconds since 0001-01-01T00:00, and its UTC offset if
it has one. -/
structure WallDateTime where
  wall : ℤ
  fold : Bool
  offset : Option ℤ
  wall_bounds : 0 ≤ wall ∧ wall < calendarMicros

/-- A time zone: its offset at an instant, and its offset when clocks show a time, before or after
they are turned back. -/
structure Zone where
  offsetAt : ℤ → ℤ
  offsetOn : ℤ → Bool → ℤ

/-- `_localized`. -/
def localized (zone : Zone) (value : WallDateTime) : Result DateTime :=
  match value.offset with
  | none =>
    let offset := zone.offsetOn value.wall value.fold
    .ok ⟨value.wall - offset, offset⟩
  | some offset => do
    let instant := value.wall - offset
    require (0 ≤ instant ∧ instant < calendarMicros) .overflowError
    let shown := instant + zone.offsetAt instant
    require (0 ≤ shown ∧ shown < calendarMicros) .overflowError
    return ⟨instant, zone.offsetAt instant⟩

/-- What the clocks show.  Moments of one zone are compared by it. -/
def wallClock (moment : DateTime) : ℤ := moment.instant + moment.offset

/-! ## Drafts -/

variable [Platform]

/-- Terms as the validators leave them: without blanks around them, and none is empty. -/
def Normalized (terms : List String) : Prop :=
  ∀ term ∈ terms, strip term = term ∧ term ≠ ""

/-- `normalize_terms`: the stripped terms that are not empty, each once whatever its case. -/
def normalizeTerms (seen : List String) : List String → List String
  | [] => []
  | value :: rest =>
    let item := strip value
    let key := casefold item
    if item = "" ∨ key ∈ seen then normalizeTerms seen rest
    else item :: normalizeTerms (key :: seen) rest

theorem normalized_normalizeTerms (hstrip : ∀ text, strip (strip text) = strip text)
    (seen values : List String) : Normalized (normalizeTerms seen values) := by
  induction values generalizing seen with
  | nil => intro term hterm; cases hterm
  | cons value rest ih =>
    rw [normalizeTerms]
    split
    · exact ih seen
    · rename_i hkept
      intro term hterm
      rcases List.mem_cons.mp hterm with rfl | hterm
      · exact ⟨hstrip value, fun hempty => hkept (Or.inl hempty)⟩
      · exact ih _ term hterm

omit [Platform] in
/-- `AnchorDraft`. -/
structure AnchorDraft where
  name : Option String
  instant : Option WallDateTime

/-- `RequirementDraft`, with what its validators guarantee of the lists of terms. -/
structure RequirementDraft where
  destination : Option String
  startDate : Option Date
  endDate : Option Date
  travelers : Option ℤ
  arrival : Option AnchorDraft
  departure : Option AnchorDraft
  accommodationName : Option String
  totalBudget : Option ℚ
  interests : List String
  avoid : List String
  mustVisit : List String
  pace : Option Pace
  mobility : Option MobilityConstraints
  dailyStart : Option ClockTime
  dailyEnd : Option ClockTime
  interests_normalized : Normalized interests ∧ interests.length ≤ 100
  avoid_normalized : Normalized avoid ∧ avoid.length ≤ 100
  mustVisit_normalized : Normalized mustVisit ∧ mustVisit.length ≤ 100

/-! ## Anchors -/

inductive AnchorRole where
  | arrival | departure | accommodation
  deriving DecidableEq

/-- `AnchorResolution`. -/
structure AnchorResolution where
  role : AnchorRole
  queryName : String
  resolvedName : String
  poiId : String
  coordinate : Coordinate
  provider : String
  dataConfidence : ℚ

/-- Python's truth of an optional text. -/
def given (text : Option String) : Bool := decide (text.getD "" ≠ "")

/-- `_required_anchor_roles`. -/
def requiredAnchorRoles (draft : RequirementDraft) : List AnchorRole :=
  (if draft.arrival.any fun anchor => given anchor.name then [.arrival] else []) ++
    (if draft.departure.any fun anchor => given anchor.name then [.departure] else []) ++
    (if given draft.accommodationName then [.accommodation] else [])

/-! ## The checks of a trip -/

/-- The fields of a trip, with times as they were given. -/
structure TripFields where
  destination : String
  startDate : Date
  endDate : Date
  travelers : ℤ
  arrival : TransportAnchor
  departure : TransportAnchor
  accommodation : Option LocationAnchor
  totalBudget : Option ℚ
  interests : List String
  avoid : List String
  mustVisit : List String
  pace : Pace
  mobility : MobilityConstraints
  dailyStart : ClockTime
  dailyEnd : ClockTime

/-- `normalize_preference_terms`. -/
def normalizePreferenceTerms (values : List String) : List String :=
  (values.map strip).filter fun value => decide (value ≠ "")

/-- The bounds of the fields of `TripSpec`. -/
def TripFields.WithinBounds (fields : TripFields) : Prop :=
  fields.destination ≠ "" ∧ (1 ≤ fields.travelers ∧ fields.travelers ≤ 20) ∧
    (∀ budget ∈ fields.totalBudget, 0 < budget) ∧
    fields.interests.length ≤ 100 ∧ fields.avoid.length ≤ 100 ∧ fields.mustVisit.length ≤ 100

instance (fields : TripFields) : Decidable fields.WithinBounds :=
  inferInstanceAs (Decidable (_ ∧ _ ∧ _ ∧ _ ∧ _ ∧ _))

/-- `TripSpec(…)` with its validators, for anchors of one time zone. -/
def createTripSpec (fields : TripFields) : Result TripFields := do
  let refused := Failure.validationError "TripSpec"
  require fields.WithinBounds refused
  require (fields.startDate ≤ fields.endDate) refused
  require (fields.startDate ≤ fields.arrival.instant.date) refused
  require (fields.departure.instant.date ≤ fields.endDate) refused
  require (wallClock fields.arrival.instant < wallClock fields.departure.instant) refused
  let closed ← fields.dailyEnd.le fields.dailyStart
  require (closed = false) refused
  return { fields with
    interests := normalizePreferenceTerms fields.interests
    avoid := normalizePreferenceTerms fields.avoid
    mustVisit := normalizePreferenceTerms fields.mustVisit }

end TravelPlanAgent
