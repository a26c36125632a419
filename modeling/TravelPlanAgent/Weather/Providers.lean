import TravelPlanAgent.Domain.Tools
import TravelPlanAgent.Library.Attempts
import TravelPlanAgent.Tools.ProviderChain
import TravelPlanAgent.Weather.Risk

/-!
# Weather providers

AMap names a district by its administrative code, QWeather by an id of its own.  A chain asks one
provider after the other while the errors allow it, and leaves out those whose circuit is open.

* `AMapWeatherProvider`, `QWeatherProvider`: how a place is looked up and its forecast requested.
* `WeatherCall`: what a provider resolved, and what it was asked a forecast for.
* `ProviderChain.execute`: one call of a chain, with its circuits.
* `ProviderChain.called`: the providers that such a call reaches.
* `execute_rule`, `execute_calls`: an invariant of the calls made, and that they are recorded.
-/

namespace TravelPlanAgent

open Calendar Attempts

/-! ## Calls -/

inductive WeatherSource where
  | amap | qweather
  deriving DecidableEq

/-- The `name` of a provider. -/
def WeatherSource.name : WeatherSource → String
  | .amap => "amap"
  | .qweather => "qweather"

theorem WeatherSource.name_injective : Function.Injective WeatherSource.name := by
  intro a b h
  cases a <;> cases b <;> first | rfl | exact absurd h (by decide)

/-- What identifies a place in the request for a forecast. -/
inductive ForecastRequest where
  /-- `city` of `/v3/weather/weatherInfo`. -/
  | weatherInfo (city : String)
  /-- The coordinates of `/weather/v1/daily`. -/
  | daily (latitude longitude : Option ℚ)
  deriving DecidableEq

/-- What a provider sends for a location. -/
def WeatherSource.forecastRequest (location : WeatherLocation) : WeatherSource → ForecastRequest
  | .amap => .weatherInfo location.adcode
  | .qweather => .daily location.latitude location.longitude

deriving instance DecidableEq for WeatherLocation

/-- What the providers did: a place was resolved, or a forecast was requested for a location. -/
inductive WeatherCall where
  | resolved (source : WeatherSource) (text : String) (location : WeatherLocation)
  | requested (source : WeatherSource) (location : WeatherLocation)
  deriving DecidableEq

/-- The circuits of a chain, with the calls made so far. -/
structure ProviderState where
  circuits : WeatherSource → Circuit
  calls : List WeatherCall

def ProviderState.record (state : ProviderState) (call : WeatherCall) : ProviderState :=
  { state with calls := state.calls ++ [call] }

@[simp] theorem ProviderState.calls_record (state : ProviderState) (call : WeatherCall) :
    (state.record call).calls = state.calls ++ [call] := rfl

/-! ## AMap -/

/-- The days of an answer that belong to the trip. -/
def daysWithin (startDate endDate : Date) (days : List DailyWeather) : List DailyWeather :=
  days.filter fun day => decide (startDate ≤ day.date ∧ day.date ≤ endDate)

/-- The constraints on the fields of a location. -/
def WeatherLocation.valid (location : WeatherLocation) : Bool :=
  decide (1 ≤ location.cityName.length ∧ location.cityName.length ≤ 100 ∧
    6 ≤ location.adcode.length ∧ location.adcode.length ≤ 12) &&
  location.adcode.toList.all Char.isDigit &&
  decide (∀ longitude ∈ location.longitude, -180 ≤ longitude ∧ longitude ≤ 180) &&
  decide (∀ latitude ∈ location.latitude, -90 ≤ latitude ∧ latitude ≤ 90)

/-- A district of an answer of AMap, with empty texts for what is missing. -/
structure District where
  name : String
  adcode : String

/-- `str.removesuffix`. -/
def removesuffix (suffix value : String) : String :=
  if suffix.toList <:+ value.toList then
    String.ofList (value.toList.take (value.toList.length - suffix.toList.length))
  else value

namespace AMapWeatherProvider

variable [Platform]

/-- `_normalize_place`. -/
def normalizePlace (value : String) : String :=
  removesuffix "县" (removesuffix "区" (removesuffix "市" (normalize value)))

/-- `_provider_error`. -/
def providerError (code operation message : String) (invalidRequest : Bool) :
    ToolProviderError :=
  ⟨if invalidRequest then .invalidRequest else .invalidResponse, code, operation, false, message⟩

/-- The place that a list of districts stands for. -/
def selectDistrict (destination : String) (candidates : List District) :
    Except CallError WeatherLocation :=
  let operation := "weather.resolve_location"
  let exact := candidates.filter fun item =>
    decide (normalizePlace item.name = normalizePlace destination)
  let selected := if exact.isEmpty then candidates else exact
  let unique := Dict.ofList ((selected.filter fun item =>
    item.adcode.toList.all Char.isDigit && decide (item.adcode.length = 6)).map
      fun item => (item.adcode, item))
  match unique.entries with
  | [(adcode, item)] =>
    let name := strip item.name
    if name = "" then
      .error (.provider (providerError "invalid_district_response" operation
        "天气地点服务缺少标准化名称" false))
    else
      let location : WeatherLocation :=
        ⟨name, adcode, "Asia/Shanghai", WeatherSource.amap.name, none, none⟩
      if location.valid then .ok location
      else .error (.raised (.validationError "WeatherLocation"))
  | _ => .error (.provider (providerError "weather_location_unresolved" operation
      "无法唯一解析天气查询地点" true))

/-- `resolve_location`, with the districts of the answer when they are a list. -/
def resolveLocation (destination : String) (answer : Except CallError (Option (List District)))
    (state : ProviderState) : Except CallError WeatherLocation × ProviderState :=
  match answer with
  | .error error => (.error error, state)
  | .ok none => (.error (.provider (providerError "invalid_district_response"
      "weather.resolve_location" "天气地点服务返回了无效响应" false)), state)
  | .ok (some candidates) =>
    match selectDistrict destination candidates with
    | .error error => (.error error, state)
    | .ok location => (.ok location, state.record (.resolved .amap destination location))

/-- `get_forecast`, with the days of the answer. -/
def getForecast (location : WeatherLocation) (startDate endDate : Date)
    (answer : Except CallError (List DailyWeather)) (state : ProviderState) :
    Except CallError WeatherForecast × ProviderState :=
  let state := state.record (.requested .amap location)
  match answer with
  | .error error => (.error error, state)
  | .ok days => (.ok ⟨location, WeatherSource.amap.name,
      sortedByDate DailyWeather.date (daysWithin startDate endDate days)⟩, state)

end AMapWeatherProvider

/-! ## QWeather -/

/-- The first place of an answer of QWeather. -/
structure City where
  name : String
  id : String
  tz : String
  lon : ℚ
  lat : ℚ

/-- What a lookup of QWeather finds: no place, a place with missing fields, or a place. -/
inductive CityAnswer where
  | unresolved
  | malformed
  | found (city : City)

namespace QWeatherProvider

/-- `_invalid`. -/
def invalid (operation code : String) : ToolProviderError :=
  ⟨.invalidResponse, code, operation, true, "和风天气服务返回了无效响应"⟩

/-- The location of a place. -/
def City.location (city : City) : WeatherLocation :=
  ⟨city.name, city.id, if city.tz = "" then "Asia/Shanghai" else city.tz,
    WeatherSource.qweather.name, some city.lon, some city.lat⟩

/-- `resolve_location`. -/
def resolveLocation (destination : String) (answer : Except CallError CityAnswer)
    (state : ProviderState) : Except CallError WeatherLocation × ProviderState :=
  let operation := "weather.resolve_location"
  match answer with
  | .error error => (.error error, state)
  | .ok .unresolved =>
    (.error (.provider (invalid operation "weather_location_unresolved")), state)
  | .ok .malformed =>
    (.error (.provider (invalid operation "invalid_location_response")), state)
  | .ok (.found city) =>
    if (City.location city).valid then
      (.ok (City.location city),
        state.record (.resolved .qweather destination (City.location city)))
    else (.error (.provider (invalid operation "invalid_location_response")), state)

/-- What follows in `get_forecast` once there are coordinates. -/
def requestForecast (resolved : WeatherLocation) (startDate endDate : Date)
    (answer : Except CallError (List DailyWeather)) (state : ProviderState) :
    Except CallError WeatherForecast × ProviderState :=
  let state := state.record (.requested .qweather resolved)
  match answer with
  | .error error => (.error error, state)
  | .ok days =>
    (.ok ⟨resolved, WeatherSource.qweather.name, daysWithin startDate endDate days⟩, state)

/-- `get_forecast`.  A location without coordinates is looked up again by its name. -/
def getForecast (location : WeatherLocation) (startDate endDate : Date)
    (lookup : Except CallError CityAnswer) (answer : Except CallError (List DailyWeather))
    (state : ProviderState) : Except CallError WeatherForecast × ProviderState :=
  if location.latitude = none ∨ location.longitude = none then
    match resolveLocation location.cityName lookup state with
    | (.error error, state) => (.error error, state)
    | (.ok resolved, state) => requestForecast resolved startDate endDate answer state
  else requestForecast location startDate endDate answer state

end QWeatherProvider
/-! ## Chains -/

/-- What the clock shows while a chain is called. -/
structure ChainClock where
  now : DateTime
  failedAt : WeatherSource → DateTime

namespace ProviderChain

variable {α : Type} (chain : ProviderChain WeatherSource)

/-- The call of one provider, with what its circuit notes. -/
def attempt (call : WeatherSource → ProviderState → Except CallError α × ProviderState)
    (clock : ChainClock) (source : WeatherSource) (state : ProviderState) :
    Except CallError α × ProviderState :=
  match call source state with
  | (.ok result, state) =>
    (.ok result, { state with circuits := noteSuccess state.circuits source })
  | (.error (.provider error), state) =>
    (.error (.provider error),
      { state with
        circuits := chain.noteFailure state.circuits source (clock.failedAt source) })
  | (.error error, state) => (.error error, state)

variable (call : WeatherSource → ProviderState → Except CallError α × ProviderState)
  (clock : ChainClock) (state : ProviderState)

/-- The state in which the first provider is called. -/
def opened : ProviderState :=
  { state with circuits := (chain.available state.circuits clock.now).2 }

/-- `_execute`. -/
def execute : Except CallError α × ProviderState :=
  match (chain.available state.circuits clock.now).1 with
  | [] => (.error (.raised .assertionError), chain.opened clock state)
  | first :: rest =>
    attemptAll (chain.attempt call clock) canFailover first rest (chain.opened clock state)

/-- The providers that a call of the chain reaches, with the states that they find. -/
def called : List (WeatherSource × ProviderState) :=
  match (chain.available state.circuits clock.now).1 with
  | [] => []
  | first :: rest =>
    made (chain.attempt call clock) canFailover first rest (chain.opened clock state)

variable {chain call clock state}

omit call clock state in
theorem attempt_eq (source : WeatherSource) (state : ProviderState)
    (call : WeatherSource → ProviderState → Except CallError α × ProviderState)
    (clock : ChainClock) :
    (chain.attempt call clock source state).1 = (call source state).1 ∧
      (chain.attempt call clock source state).2.calls = (call source state).2.calls := by
  unfold attempt
  rcases hcall : call source state with ⟨error | result, next⟩
  · cases error <;> exact ⟨rfl, rfl⟩
  · exact ⟨rfl, rfl⟩

/-- What every call that is made keeps, and what it ensures of its result. -/
theorem execute_rule (Inv : List WeatherCall → Prop) (Post : α → List WeatherCall → Prop)
    (hinv : Inv state.calls)
    (hcall : ∀ p ∈ chain.called call clock state, Inv p.2.calls →
      Inv (call p.1 p.2).2.calls ∧
        ∀ result, (call p.1 p.2).1 = .ok result → Post result (call p.1 p.2).2.calls) :
    Inv (chain.execute call clock state).2.calls ∧
      ∀ result, (chain.execute call clock state).1 = .ok result →
        Post result (chain.execute call clock state).2.calls := by
  unfold execute
  unfold called at hcall
  split
  · exact ⟨hinv, fun _ hresult => absurd hresult (by simp)⟩
  · next first rest hsome =>
    rw [hsome] at hcall
    let Kept (state : ProviderState) : Prop := Inv state.calls
    let Ensured (outcome : Except CallError α) (state : ProviderState) : Prop :=
      ∀ result, outcome = .ok result → Post result state.calls
    refine attemptAll_rule Kept Ensured hinv fun p hp hstate => ?_
    show Inv _ ∧ ∀ result, _ = _ → _
    obtain ⟨hresult, hcalls⟩ := chain.attempt_eq p.1 p.2 call clock
    rw [hresult, hcalls]
    exact hcall p hp hstate

/-- The calls are recorded. -/
theorem execute_calls
    (hcall : ∀ source state, state.calls <+: (call source state).2.calls) :
    state.calls <+: (chain.execute call clock state).2.calls ∧
      ∀ p ∈ chain.called call clock state,
        (call p.1 p.2).2.calls <+: (chain.execute call clock state).2.calls := by
  unfold execute called
  split
  · exact ⟨List.prefix_refl _, fun p hp => absurd hp List.not_mem_nil⟩
  · next first rest _ =>
    obtain ⟨hstate, hmade⟩ := attemptAll_extends (chain.attempt call clock) canFailover
      (fun s t => s.calls <+: t.calls) (fun _ => List.prefix_refl _)
      (fun _ _ _ => List.IsPrefix.trans)
      (fun source state => by rw [(chain.attempt_eq source state call clock).2]; exact hcall ..)
      first rest (chain.opened clock state)
    refine ⟨hstate, fun p hp => ?_⟩
    have h := hmade p hp
    rwa [(chain.attempt_eq p.1 p.2 call clock).2] at h

end ProviderChain

end TravelPlanAgent
