import TravelPlanAgent.Domain.Plan

/-!
# Weather

The value types of `domain/weather_models.py`: what a provider forecasts, the daily risk that
follows from it, the change event that a refresh derives, and the state of the monitor.

* `DailyWeather`, `WeatherSnapshot`, `DailyWeatherRisk`: a forecast and its risks.
* `ChangeEvent`, `WeatherImpactResult`, `WeatherRepairPlan`: from a change to a repair.
* `WeatherMonitorState`: what a session remembers about its refreshes.
-/

namespace TravelPlanAgent

open Calendar

/-! ## Enumerations -/

inductive WeatherAvailability where
  | fresh | stale | unavailable
  deriving DecidableEq

inductive WeatherPhenomenon where
  | clear | cloudy | rain | heavyRain | thunderstorm | snow | ice | fog | dust | unknown
  deriving DecidableEq

inductive WeatherRiskKind where
  | precipitation | thunderstorm | snowOrIce | extremeHeat | extremeCold | strongWind
  | lowVisibility | unknown
  deriving DecidableEq

inductive WeatherRiskLevel where
  | normal | warning | severe | unknown
  deriving DecidableEq

inductive ChangeEventKind where
  | weatherAlert | weatherRiskChanged | weatherRecovered
  deriving DecidableEq

inductive ExposureKind where
  | indoor | outdoor | mixed | unknown
  deriving DecidableEq

inductive WeatherEventStatus where
  | observed | noPlanImpact | needsUserAttention | previewCreated | approved | rejected
  | dismissed
  deriving DecidableEq

inductive WeatherRefreshOutcome where
  | noChange | duplicate | recovered | noPlanImpact | needsUserAttention | previewCreated
  | providerFailed
  deriving DecidableEq

def WeatherPhenomenon.value : WeatherPhenomenon → String
  | .clear => "clear"
  | .cloudy => "cloudy"
  | .rain => "rain"
  | .heavyRain => "heavy_rain"
  | .thunderstorm => "thunderstorm"
  | .snow => "snow"
  | .ice => "ice"
  | .fog => "fog"
  | .dust => "dust"
  | .unknown => "unknown"

def WeatherRiskKind.value : WeatherRiskKind → String
  | .precipitation => "precipitation"
  | .thunderstorm => "thunderstorm"
  | .snowOrIce => "snow_or_ice"
  | .extremeHeat => "extreme_heat"
  | .extremeCold => "extreme_cold"
  | .strongWind => "strong_wind"
  | .lowVisibility => "low_visibility"
  | .unknown => "unknown"

def WeatherRiskLevel.value : WeatherRiskLevel → String
  | .normal => "normal"
  | .warning => "warning"
  | .severe => "severe"
  | .unknown => "unknown"

def ChangeEventKind.value : ChangeEventKind → String
  | .weatherAlert => "weather_alert"
  | .weatherRiskChanged => "weather_risk_changed"
  | .weatherRecovered => "weather_recovered"

def ExposureKind.value : ExposureKind → String
  | .indoor => "indoor"
  | .outdoor => "outdoor"
  | .mixed => "mixed"
  | .unknown => "unknown"

/-! ## Forecasts -/

structure WeatherLocation where
  cityName : String
  adcode : String
  timezone : String
  provider : String
  longitude : Option ℚ
  latitude : Option ℚ

structure DailyWeather where
  date : Date
  dayPhenomenon : WeatherPhenomenon
  nightPhenomenon : WeatherPhenomenon
  highCelsius : Option ℤ
  lowCelsius : Option ℤ
  dayWindLevel : Option ℕ
  nightWindLevel : Option ℕ
  low_le_high : ∀ high ∈ highCelsius, ∀ low ∈ lowCelsius, low ≤ high

structure WeatherForecast where
  location : WeatherLocation
  provider : String
  days : List DailyWeather

structure WeatherSnapshot where
  snapshotId : String
  location : WeatherLocation
  provider : String
  fetchedAt : DateTime
  expiresAt : DateTime
  days : List DailyWeather
  snapshotFingerprint : String

structure DailyWeatherRisk where
  date : Date
  level : WeatherRiskLevel
  kinds : List WeatherRiskKind
  evidenceCodes : List String
  policyVersion : String
  riskFingerprint : String

/-! ## Events and repairs -/

structure ChangeEvent where
  eventId : String
  eventFingerprint : String
  kind : ChangeEventKind
  sessionId : String
  baseVersionId : String
  previousSnapshotId : Option String
  currentSnapshotId : String
  affectedDates : List Date
  beforeRiskFingerprints : List String
  afterRiskFingerprints : List String
  createdAt : DateTime

structure ActivityExposure where
  itemId : String
  exposure : ExposureKind
  ruleId : Option String
  confidence : ℚ

structure WeatherImpactResult where
  eventId : String
  affectedDates : List Date
  affectedItemIds : List String
  preservedDates : List Date
  lockConflicts : List String
  unknownExposureItemIds : List String
  requiresUserAttention : Bool
  reasons : List String

inductive WeatherRepairActionKind where
  | replaceWithIndoor | moveToSafeDate | removeOptionalItem
  deriving DecidableEq

structure WeatherRepairAction where
  kind : WeatherRepairActionKind
  itemId : String
  targetDate : Option Date
  replacementPoiId : Option String
  replacementPoiName : Option String
  evidenceCodes : List String

structure WeatherRepairPlan where
  eventId : String
  baseVersionId : String
  affectedDates : List Date
  actions : List WeatherRepairAction
  requiredToolOperations : List String
  preservedDayFingerprints : List (String × String)

/-! ## The monitor -/

structure WeatherEventReceipt where
  eventId : String
  eventFingerprint : String
  status : WeatherEventStatus
  resultingPreviewId : Option String
  resultingVersionId : Option String

structure WeatherMonitorState where
  location : Option WeatherLocation := none
  availability : WeatherAvailability := .unavailable
  latestSnapshotId : Option String := none
  previousSnapshotId : Option String := none
  latestEventId : Option String := none
  attentionEventId : Option String := none
  lastOutcome : Option WeatherRefreshOutcome := none
  lastAttemptAt : Option DateTime := none
  lastSuccessAt : Option DateTime := none
  lastSafeErrorCode : Option String := none
  uncoveredDates : List Date := []
  eventReceipts : Dict String WeatherEventReceipt := ∅

end TravelPlanAgent
