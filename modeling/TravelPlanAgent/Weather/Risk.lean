import TravelPlanAgent.Domain.Weather

/-!
# Risks and change events

How a forecast becomes a list of daily risks, and how two of them become a change event.

* `classifyDailyWeather`, `classifyForecast`: the risk of a day and of a forecast.
* `buildWeatherSnapshot`: a forecast with an id made from its contents.
* `deriveChangeEvent`: what changed between two refreshes on the days of the trip.
-/

namespace TravelPlanAgent

open Calendar Selection

variable [Platform]

def weatherPolicyVersion : String := "weather-risk-v1"

/-! ## Daily risks -/

/-- A rule of the policy that applies to a day: the kind of risk, its evidence, its level. -/
structure RiskFinding where
  kind : WeatherRiskKind
  evidence : String
  level : WeatherRiskLevel

/-- The stronger wind of a day. -/
def windLevel (day : DailyWeather) : ℕ := max (day.dayWindLevel.getD 0) (day.nightWindLevel.getD 0)

/-- The rules that apply to a day. -/
def riskFindings (day : DailyWeather) : List RiskFinding :=
  let shows (phenomenon : WeatherPhenomenon) : Bool :=
    decide (phenomenon = day.dayPhenomenon ∨ phenomenon = day.nightPhenomenon)
  let when_ (applies : Bool) (finding : RiskFinding) : List RiskFinding :=
    if applies then [finding] else []
  let high (bound : ℤ) : Bool := day.highCelsius.any fun value => decide (bound ≤ value)
  when_ (shows .heavyRain) ⟨.precipitation, "heavy_rain", .severe⟩ ++
    when_ (shows .thunderstorm) ⟨.thunderstorm, "thunderstorm", .severe⟩ ++
    when_ (shows .snow || shows .ice) ⟨.snowOrIce, "snow_or_ice", .severe⟩ ++
    when_ (shows .rain) ⟨.precipitation, "rain", .warning⟩ ++
    when_ (shows .fog || shows .dust) ⟨.lowVisibility, "low_visibility", .warning⟩ ++
    (if high 38 then [⟨.extremeHeat, "high_temp_ge_38", .severe⟩]
      else when_ (high 35) ⟨.extremeHeat, "high_temp_ge_35", .warning⟩) ++
    when_ (day.lowCelsius.any fun value => decide (value ≤ 0))
      ⟨.extremeCold, "low_temp_le_0", .warning⟩ ++
    (if 8 ≤ windLevel day then [⟨.strongWind, "wind_ge_8", .severe⟩]
      else when_ (decide (6 ≤ windLevel day)) ⟨.strongWind, "wind_ge_6", .warning⟩) ++
    when_ (shows .unknown) ⟨.unknown, "unknown_phenomenon", .unknown⟩

/-- The level of a day: severe before warning before unknown. -/
def riskLevel (findings : List RiskFinding) : WeatherRiskLevel :=
  let has (level : WeatherRiskLevel) : Bool := findings.any fun f => decide (f.level = level)
  if has .severe then .severe
  else if has .warning then .warning
  else if has .unknown then .unknown
  else .normal

/-- `classify_daily_weather`. -/
def classifyDailyWeather (day : DailyWeather) : DailyWeatherRisk :=
  let findings := riskFindings day
  let level := riskLevel findings
  let kinds := (findings.map RiskFinding.kind).dedup.insertionSort fun a b => a.value ≤ b.value
  let evidence := sortedSet (findings.map RiskFinding.evidence)
  { date := day.date, level, kinds, evidenceCodes := evidence
    policyVersion := weatherPolicyVersion
    riskFingerprint := jsonHash (.obj
      [("date", .str day.date.isoformat), ("evidence", .arr (evidence.map .str)),
       ("kinds", .arr (kinds.map fun kind => .str kind.value)), ("level", .str level.value),
       ("policy", .str weatherPolicyVersion)]) }

def sortedByDate {α : Type} (date : α → Date) (days : List α) : List α :=
  days.insertionSort fun a b => date a ≤ date b

/-- `classify_forecast`. -/
def classifyForecast (days : List DailyWeather) : List DailyWeatherRisk :=
  (sortedByDate DailyWeather.date days).map classifyDailyWeather

/-! ## Snapshots -/

def optionJson {α : Type} (toJson : α → Json) : Option α → Json
  | none => .null
  | some a => toJson a

def dailyWeatherJson (day : DailyWeather) : Json :=
  .obj
    [("date", .str day.date.isoformat), ("day_phenomenon", .str day.dayPhenomenon.value),
     ("day_wind_level", optionJson (fun n : ℕ => .num n) day.dayWindLevel),
     ("high_celsius", optionJson (fun n : ℤ => .num n) day.highCelsius),
     ("low_celsius", optionJson (fun n : ℤ => .num n) day.lowCelsius),
     ("night_phenomenon", .str day.nightPhenomenon.value),
     ("night_wind_level", optionJson (fun n : ℕ => .num n) day.nightWindLevel)]

/-- `build_weather_snapshot`. -/
def buildWeatherSnapshot (forecast : WeatherForecast) (fetchedAt expiresAt : DateTime) :
    WeatherSnapshot :=
  let days := sortedByDate DailyWeather.date forecast.days
  let fingerprint := jsonHash (.obj
    [("adcode", .str forecast.location.adcode), ("days", .arr (days.map dailyWeatherJson)),
     ("provider", .str forecast.provider)])
  { snapshotId := "ws_" ++ prefixText 16 fingerprint, location := forecast.location
    provider := forecast.provider, fetchedAt, expiresAt, days
    snapshotFingerprint := fingerprint }

/-! ## Change events -/

/-- The risk of a date; the last one wins. -/
def riskOn (risks : List DailyWeatherRisk) (date : Date) : Option DailyWeatherRisk :=
  lastWith (fun risk => decide (risk.date = date)) risks

/-- A day whose risk is new or changed, with the fingerprints before and after. -/
structure RiskChange where
  date : Date
  before : String
  after : String
  level : WeatherRiskLevel

/-- Without an earlier snapshot every day at risk is a change. -/
def firstChanges (risks : List DailyWeatherRisk) (tripDates : List Date) : List RiskChange :=
  tripDates.filterMap fun date => do
    let risk ← riskOn risks date
    if risk.level = .normal then none
    else some ⟨date, "missing", risk.riskFingerprint, risk.level⟩

/-- Against an earlier snapshot a day changes when its fingerprint does. -/
def laterChanges (current previous : List DailyWeatherRisk) (tripDates : List Date) :
    List RiskChange :=
  tripDates.filterMap fun date => do
    let now ← riskOn current date
    let before ← riskOn previous date
    if now.riskFingerprint = before.riskFingerprint then none
    else some ⟨date, before.riskFingerprint, now.riskFingerprint, now.level⟩

/-- `derive_change_event`. -/
def deriveChangeEvent (sessionId baseVersionId : String) (currentSnapshot : WeatherSnapshot)
    (currentRisks : List DailyWeatherRisk) (previousSnapshot : Option WeatherSnapshot)
    (previousRisks : List DailyWeatherRisk) (tripDates : List Date) (now : DateTime) :
    Option ChangeEvent :=
  let changes := match previousSnapshot with
    | none => firstChanges currentRisks tripDates
    | some _ => laterChanges currentRisks previousRisks tripDates
  let kind : ChangeEventKind := match previousSnapshot with
    | none => .weatherAlert
    | some _ =>
      if changes.all fun change => decide (change.level = .normal) then .weatherRecovered
      else .weatherRiskChanged
  let fingerprint := jsonHash (.obj
    [("after", .arr (changes.map fun c => .str c.after)), ("base_version_id", .str baseVersionId),
     ("before", .arr (changes.map fun c => .str c.before)),
     ("dates", .arr (changes.map fun c => .str c.date.isoformat)), ("kind", .str kind.value),
     ("session_id", .str sessionId)])
  if changes.isEmpty then none
  else some
    { eventId := "we_" ++ prefixText 16 fingerprint, eventFingerprint := fingerprint, kind
      sessionId, baseVersionId
      previousSnapshotId := previousSnapshot.map WeatherSnapshot.snapshotId
      currentSnapshotId := currentSnapshot.snapshotId
      affectedDates := changes.map RiskChange.date
      beforeRiskFingerprints := changes.map RiskChange.before
      afterRiskFingerprints := changes.map RiskChange.after, createdAt := now }

end TravelPlanAgent
