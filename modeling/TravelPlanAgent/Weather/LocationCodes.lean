import TravelPlanAgent.Lifecycle.NodeSpecs
import TravelPlanAgent.Lifecycle.SessionInvariant
import TravelPlanAgent.Weather.Gateway
import TravelPlanAgent.Weather.Recorded

/-!
# Location codes and fail-over

The provider that resolved a location and the provider that is asked for the forecast are chosen
call by call, and the location is kept by the session.  AMap sends the code of a location whoever
resolved it; QWeather looks a place up again when it has no coordinates.

* `WeatherWorld`, `WeatherStep`, `refreshAll`: sessions that refresh over one gateway.
* `Atlas`, `ForDestination`: what the codes and names of all lookups stand for.
* `Unmixed`: requests carry what their provider resolved, and forecasts are for the destination.
* `Careful`, `CodesApart`: AMap is not asked about a place of QWeather, and the codes differ.
* `ForecastSparesAMap`, `careful_iff`: the same in terms of order, circuits, answers and cache.
* `WorldInvariant`, `worldInvariant_step`: where the kept locations and forecasts come from.
* `unmixed_iff`, `exists_mixed`: what a run needs, and a run in which AMap gets a foreign code.
* `located_of_resolveWeatherLocation`, `fetched_of_fetchWeatherSnapshot`: the nodes do the same.
-/

namespace TravelPlanAgent

open Calendar Attempts WeatherToolGateway

variable [Platform]

/-! ## Refreshes over one gateway -/

/-- The gateway with the sessions, and what the refreshes under way have found. -/
structure WeatherWorld where
  gateway : GatewayState
  sessions : Dict String PlanSessionRecord
  /-- `weather_location` of the state of a refresh. -/
  located : Dict String WeatherLocation
  /-- `weather_snapshot` of the state of a refresh. -/
  fetched : Dict String WeatherSnapshot

/-- One node of a refresh, or a new start of the process. -/
inductive WeatherStep where
  | resolveWeatherLocation (sessionId : String) (script : GatewayScript LocationAnswers)
      (failedAt : DateTime)
  | fetchWeatherSnapshot (sessionId : String) (script : GatewayScript ForecastAnswers)
      (failedAt : DateTime)
  | persistObservation (sessionId : String) (risks : List DailyWeatherRisk)
      (outcome : WeatherRefreshOutcome) (event : Option ChangeEvent)
      (eventStatus : Option WeatherEventStatus) (maxEvents : ℕ)
  | restart

namespace WeatherWorld

variable (gateway : WeatherToolGateway) (world : WeatherWorld)

/-- The trip of a session. -/
def trip (sessionId : String) : Option TripSpec :=
  ((world.sessions.get? sessionId).bind PlanSessionRecord.snapshot).map PlanningSnapshot.trip

/-- `persist_weather_failure`. -/
def persistFailure (sessionId : String) (session : PlanSessionRecord) (code : String)
    (failedAt : DateTime) : WeatherWorld :=
  let failed := markWeatherFailed session code failedAt
  { world with
    sessions := world.sessions.set sessionId
      { failed with sessionRevision := failed.sessionRevision + 1 } }

/-- `resolve_weather_location`. -/
def locate (sessionId : String) (script : GatewayScript LocationAnswers)
    (failedAt : DateTime) : WeatherWorld :=
  match world.sessions.get? sessionId, world.trip sessionId with
  | some session, some trip =>
    match session.weatherMonitor.location with
    | some location => { world with located := world.located.set sessionId location }
    | none =>
      let (answer, state) := gateway.resolveLocation trip.destination script world.gateway
      let world := { world with gateway := state }
      match answer with
      | .ok (.success location _ _) =>
        { world with located := world.located.set sessionId location }
      | .ok (.failed code _) => world.persistFailure sessionId session code failedAt
      | .error _ => world
  | _, _ => world

/-- `fetch_weather_snapshot`. -/
def fetch (sessionId : String) (script : GatewayScript ForecastAnswers) (failedAt : DateTime) :
    WeatherWorld :=
  match world.sessions.get? sessionId, world.trip sessionId, world.located.get? sessionId with
  | some session, some trip, some location =>
    let (answer, state) :=
      gateway.getForecast location trip.startDate trip.endDate script world.gateway
    let world := { world with gateway := state }
    match answer with
    | .ok (.success forecast fetchedAt expiresAt) =>
      let fetchedAt := fetchedAt.getD failedAt
      { world with
        fetched := world.fetched.set sessionId
          (buildWeatherSnapshot forecast fetchedAt (expiresAt.getD fetchedAt)) }
    | .ok (.failed code _) => world.persistFailure sessionId session code failedAt
    | .error _ => world
  | _, _, _ => world

/-- One step. -/
def step : WeatherStep → WeatherWorld
  | .resolveWeatherLocation sessionId script failedAt =>
    world.locate gateway sessionId script failedAt
  | .fetchWeatherSnapshot sessionId script failedAt =>
    world.fetch gateway sessionId script failedAt
  | .persistObservation sessionId risks outcome event eventStatus maxEvents =>
    match world.sessions.get? sessionId, world.fetched.get? sessionId with
    | some session, some snapshot =>
      { world with
        sessions := world.sessions.set sessionId
          (persistWeatherObservation session snapshot risks outcome event eventStatus
            maxEvents) }
    | _, _ => world
  | .restart =>
    { world with
      gateway :=
        { providers := { world.gateway.providers with circuits := fun _ => {} }
          cache := { world.gateway.cache with entries := ∅, inflight := ∅ } } }

/-- One step after the other. -/
def refreshAll (steps : List WeatherStep) : WeatherWorld :=
  steps.foldl (fun world step => world.step gateway step) world

/-- What the providers did so far. -/
def calls : List WeatherCall := world.gateway.providers.calls

end WeatherWorld

/-- Nothing was refreshed yet. -/
structure Unrefreshed (world : WeatherWorld) : Prop where
  calls : world.calls = []
  entries : world.gateway.cache.entries = ∅
  located : world.located = ∅
  fetched : world.fetched = ∅
  location : ∀ sessionId session, world.sessions.get? sessionId = some session →
    session.weatherMonitor.location = none
  snapshots : ∀ sessionId session, world.sessions.get? sessionId = some session →
    session.weatherSnapshots = ∅

/-! ## What codes stand for -/

/-- A reading of names, and of the codes of each provider, as places. -/
structure Atlas (Place : Type) where
  named : String → Place
  coded : String → String → Place

/-- Every lookup found the place that it was asked for. -/
def Atlas.Right {Place : Type} (atlas : Atlas Place) (calls : List WeatherCall) : Prop :=
  ∀ source text location, .resolved source text location ∈ calls →
    atlas.coded source.name location.adcode = atlas.named (normalize text) ∧
      atlas.named (normalize location.cityName) = atlas.named (normalize text)

/-- As far as the lookups are right, the provider takes the location for the destination. -/
def ForDestination (calls : List WeatherCall) (destination provider : String)
    (location : WeatherLocation) : Prop :=
  ∀ (Place : Type) (atlas : Atlas Place), atlas.Right calls →
    atlas.coded provider location.adcode = atlas.named (normalize destination)

/-- What a request sends was resolved by the same provider before. -/
def SentOwn (before : List WeatherCall) : WeatherCall → Prop
  | .resolved .. => True
  | .requested source location => ∃ text own, .resolved source text own ∈ before ∧
      source.forecastRequest own = source.forecastRequest location

/-- No request carries the code of another provider, and every stored forecast is for the
destination of its session. -/
structure Unmixed (world : WeatherWorld) : Prop where
  sent : Justified SentOwn world.calls
  stored : ∀ sessionId session trip, world.sessions.get? sessionId = some session →
    world.trip sessionId = some trip → ∀ snapshot ∈ session.weatherSnapshots.values,
      ForDestination world.calls trip.destination snapshot.provider snapshot.location

/-! ## What a run needs -/

/-- AMap is not asked for a forecast of a location that QWeather resolved. -/
def Careful (gateway : WeatherToolGateway) (world : WeatherWorld) : WeatherStep → Prop
  | .fetchWeatherSnapshot sessionId script _ =>
    ∀ session trip location, world.sessions.get? sessionId = some session →
      world.trip sessionId = some trip → world.located.get? sessionId = some location →
      location.provider = WeatherSource.qweather.name →
      ∀ q ∈ gateway.reachedBy "weather.get_forecast"
          (forecastCall location trip.startDate trip.endDate)
          (forecastKey location trip.startDate trip.endDate) script world.gateway,
        q.2.1 ≠ .amap
  | _ => True

/-- The attempt does not come to AMap: it ends before the providers are called, the circuit of AMap
is open, or QWeather comes first and its answer does not let the chain go on. -/
def SparesAMap (gateway : WeatherToolGateway) (attempt : Attempt ForecastAnswers)
    (circuits : WeatherSource → Circuit) : Prop :=
  attempt.before ≠ none ∨
    let available := (gateway.chain.available circuits attempt.clock.now).1
    .amap ∉ available ∨
      available.head? = some .qweather ∧
        ProviderChain.canFailover attempt.answers.qweather = false

/-- What `Careful` asks of the order of the providers, their circuits and answers, and the cache:
the forecast of a location that QWeather resolved is cached, or no attempt comes to AMap. -/
def ForecastSparesAMap (gateway : WeatherToolGateway) (world : WeatherWorld) : WeatherStep → Prop
  | .fetchWeatherSnapshot sessionId script _ =>
    ∀ session trip location, world.sessions.get? sessionId = some session →
      world.trip sessionId = some trip → world.located.get? sessionId = some location →
      location.provider = WeatherSource.qweather.name →
      (world.gateway.cache.getLiveEntry (forecastKey location trip.startDate trip.endDate)
        script.reading).1 ≠ none ∨
      ∀ p ∈ made (gateway.oneAttempt "weather.get_forecast"
          (forecastCall location trip.startDate trip.endDate) script.attempts) retryable 0
          (List.range' 1 (gateway.maxAttempts - 1)) world.gateway.providers,
        SparesAMap gateway (script.attempts p.1) p.2.circuits
  | _ => True

/-- No id of QWeather is a code of AMap. -/
def CodesApart (calls : List WeatherCall) : Prop :=
  ∀ text location text' location', .resolved .amap text location ∈ calls →
    .resolved .qweather text' location' ∈ calls → location.adcode ≠ location'.adcode

/-! ## What the providers record -/

/-- What a provider makes of a place. -/
structure LocationOf (source : WeatherSource) (location : WeatherLocation) : Prop where
  provider : location.provider = source.name
  amap : source = .amap → location.latitude = none
  qweather : source = .qweather → location.latitude ≠ none ∧ location.longitude ≠ none

section Providers

variable {destination : String} {location : WeatherLocation} {startDate endDate : Date}
  {state : ProviderState}

omit [Platform] in
theorem qweather_resolveLocation_cases (text : String) (answer : Except CallError CityAnswer)
    (state : ProviderState) :
    (∃ error, QWeatherProvider.resolveLocation text answer state = (.error error, state)) ∨
      ∃ found, LocationOf .qweather found ∧ QWeatherProvider.resolveLocation text answer state =
        (.ok found, state.record (.resolved .qweather text found)) := by
  unfold QWeatherProvider.resolveLocation
  split
  · exact .inl ⟨_, rfl⟩
  · exact .inl ⟨_, rfl⟩
  · exact .inl ⟨_, rfl⟩
  · next city =>
    split
    · exact .inr ⟨_, ⟨rfl, fun h => absurd h (by decide), fun _ => ⟨by simp
        [QWeatherProvider.City.location], by simp [QWeatherProvider.City.location]⟩⟩, rfl⟩
    · exact .inl ⟨_, rfl⟩

theorem selectDistrict_eq_ok {candidates : List District}
    (h : AMapWeatherProvider.selectDistrict destination candidates = .ok location) :
    LocationOf .amap location := by
  unfold AMapWeatherProvider.selectDistrict at h
  dsimp only at h
  split at h
  · split at h
    · cases h
    · split at h
      · cases h
        exact ⟨rfl, fun _ => rfl, fun h => absurd h (by decide)⟩
      · cases h
  · cases h

/-- A lookup fails, or is recorded with what it found. -/
theorem resolveCall_cases (destination : String) (answers : LocationAnswers)
    (source : WeatherSource) (state : ProviderState) :
    (∃ error, resolveCall destination answers source state = (.error error, state)) ∨
      ∃ found, LocationOf source found ∧ resolveCall destination answers source state =
        (.ok found, state.record (.resolved source destination found)) := by
  cases source with
  | amap =>
    unfold resolveCall AMapWeatherProvider.resolveLocation
    dsimp only
    split
    · exact .inl ⟨_, rfl⟩
    · exact .inl ⟨_, rfl⟩
    · split
      · exact .inl ⟨_, rfl⟩
      · next found hfound => exact .inr ⟨found, selectDistrict_eq_ok hfound, rfl⟩
  | qweather => exact qweather_resolveLocation_cases destination answers.qweather state

/-- A request for a forecast: who is asked about which location, and what comes of it. -/
structure Asked (source : WeatherSource) (location : WeatherLocation) (state : ProviderState)
    (outcome : Except CallError WeatherForecast × ProviderState) : Prop where
  state : outcome.2 = state.record (.requested source location)
  forecast : ∀ forecast, outcome.1 = .ok forecast →
    forecast.location = location ∧ forecast.provider = source.name

omit [Platform] in
theorem asked_requestForecast (answer : Except CallError (List DailyWeather)) :
    Asked .qweather location state
      (QWeatherProvider.requestForecast location startDate endDate answer state) := by
  unfold QWeatherProvider.requestForecast
  cases answer with
  | error error => exact ⟨rfl, fun _ h => by cases h⟩
  | ok days =>
    refine ⟨rfl, fun forecast h => ?_⟩
    cases h
    exact ⟨rfl, rfl⟩

/-- How a provider comes to its request for a forecast. -/
inductive ForecastCall (location : WeatherLocation) (state : ProviderState) :
    WeatherSource → Except CallError WeatherForecast × ProviderState → Prop where
  | amap {outcome} (asked : Asked .amap location state outcome) :
      ForecastCall location state .amap outcome
  | coordinates {outcome} (given : location.latitude ≠ none ∧ location.longitude ≠ none)
      (asked : Asked .qweather location state outcome) :
      ForecastCall location state .qweather outcome
  | unresolved (error : CallError) : ForecastCall location state .qweather (.error error, state)
  | lookedUp {outcome} (found : WeatherLocation) (resolved : LocationOf .qweather found)
      (asked : Asked .qweather found
        (state.record (.resolved .qweather location.cityName found)) outcome) :
      ForecastCall location state .qweather outcome

omit [Platform] in
theorem forecastCall_cases (location : WeatherLocation) (startDate endDate : Date)
    (answers : ForecastAnswers) (source : WeatherSource) (state : ProviderState) :
    ForecastCall location state source
      (forecastCall location startDate endDate answers source state) := by
  cases source with
  | amap =>
    refine .amap ?_
    unfold forecastCall AMapWeatherProvider.getForecast
    cases hanswer : answers.amap with
    | error error => exact ⟨rfl, fun _ h => by cases h⟩
    | ok days =>
      refine ⟨rfl, fun forecast h => ?_⟩
      cases h
      exact ⟨rfl, rfl⟩
  | qweather =>
    unfold forecastCall QWeatherProvider.getForecast
    dsimp only
    split
    · obtain ⟨error, heq⟩ | ⟨found, hresolved, heq⟩ :=
        qweather_resolveLocation_cases location.cityName answers.lookup state
      · rw [heq]
        exact .unresolved error
      · rw [heq]
        exact .lookedUp found hresolved (asked_requestForecast _)
    · next hgiven =>
      rw [not_or] at hgiven
      exact .coordinates hgiven (asked_requestForecast _)

end Providers

/-! ## Where the kept locations come from -/

/-- A provider resolved the location. -/
def Known (calls : List WeatherCall) (location : WeatherLocation) : Prop :=
  ∃ source text, .resolved source text location ∈ calls

/-- The location is one that the lookups lead to from this name. -/
structure Placed (calls : List WeatherCall) (key : String) (location : WeatherLocation) :
    Prop where
  known : Known calls location
  named : ∀ (Place : Type) (atlas : Atlas Place), atlas.Right calls →
    atlas.coded location.provider location.adcode = atlas.named key ∧
      atlas.named (normalize location.cityName) = atlas.named key

/-- The second location is the first one, or the lookups lead to it from there. -/
structure Leads (calls : List WeatherCall) (location next : WeatherLocation) : Prop where
  known : Known calls next
  named : ∀ (Place : Type) (atlas : Atlas Place), atlas.Right calls →
    atlas.coded next.provider next.adcode = atlas.coded location.provider location.adcode ∧
      atlas.named (normalize next.cityName) = atlas.coded location.provider location.adcode

/-- What the cache holds.  Under `own`, forecasts name the provider of their location. -/
def Sound (own : Prop) (calls : List WeatherCall) : WeatherKey → WeatherData → Prop
  | .location key, .location location => Placed calls key location
  | .forecast adcode _ _, .forecast forecast =>
    (∃ location, Known calls location ∧ location.adcode = adcode ∧
      Leads calls location forecast.location) ∧
    (own → forecast.provider = forecast.location.provider)
  | _, _ => False

/-- The calls of a run, as far as they are recorded. -/
structure GoodCalls (own : Prop) (calls : List WeatherCall) : Prop where
  resolved : ∀ source text location, .resolved source text location ∈ calls →
    LocationOf source location
  sent : own → Justified SentOwn calls

/-- What every step keeps.  Under `own`, every request carries what its provider resolved. -/
structure WorldInvariant (own : Prop) (world : WeatherWorld) : Prop where
  calls : GoodCalls own world.calls
  cached : Cached (Sound own) world.gateway
  located : ∀ sessionId trip location, world.trip sessionId = some trip →
    world.located.get? sessionId = some location →
    Placed world.calls (normalize trip.destination) location
  fetched : ∀ sessionId trip snapshot, world.trip sessionId = some trip →
    world.fetched.get? sessionId = some snapshot →
    Placed world.calls (normalize trip.destination) snapshot.location ∧
      (own → snapshot.provider = snapshot.location.provider)
  monitor : ∀ sessionId trip session location, world.trip sessionId = some trip →
    world.sessions.get? sessionId = some session →
    session.weatherMonitor.location = some location →
    Placed world.calls (normalize trip.destination) location
  stored : ∀ sessionId trip session, world.trip sessionId = some trip →
    world.sessions.get? sessionId = some session →
    ∀ snapshot ∈ session.weatherSnapshots.values,
      Placed world.calls (normalize trip.destination) snapshot.location ∧
        (own → snapshot.provider = snapshot.location.provider)

section Places

variable {own : Prop} {before calls : List WeatherCall} {key : String}
  {location next : WeatherLocation} {source : WeatherSource} {text : String}

theorem Atlas.Right.mono {Place : Type} {atlas : Atlas Place} (h : atlas.Right calls)
    (hbefore : before <+: calls) : atlas.Right before :=
  fun source text location hmem => h source text location (hbefore.subset hmem)

omit [Platform] in
theorem Known.mono (h : Known before location) (hbefore : before <+: calls) :
    Known calls location := by
  obtain ⟨source, text, hmem⟩ := h
  exact ⟨source, text, hbefore.subset hmem⟩

theorem Placed.mono (h : Placed before key location) (hbefore : before <+: calls) :
    Placed calls key location :=
  ⟨h.known.mono hbefore, fun Place atlas hright => h.named Place atlas (hright.mono hbefore)⟩

theorem Leads.mono (h : Leads before location next) (hbefore : before <+: calls) :
    Leads calls location next :=
  ⟨h.known.mono hbefore, fun Place atlas hright => h.named Place atlas (hright.mono hbefore)⟩

theorem Sound.mono {key : WeatherKey} {data : WeatherData} (h : Sound own before key data)
    (hbefore : before <+: calls) : Sound own calls key data := by
  cases key with
  | location key =>
    cases data with
    | location location => exact Placed.mono h hbefore
    | forecast forecast => exact h.elim
  | forecast adcode startDate endDate =>
    cases data with
    | location location => exact h.elim
    | forecast forecast =>
      obtain ⟨⟨location, hknown, hcode, hleads⟩, hown⟩ := h
      exact ⟨⟨location, hknown.mono hbefore, hcode, hleads.mono hbefore⟩, hown⟩

/-- A lookup leads to what it found. -/
theorem placed_of_resolved (hmem : .resolved source text location ∈ calls)
    (hresolved : LocationOf source location) : Placed calls (normalize text) location := by
  refine ⟨⟨source, text, hmem⟩, fun Place atlas hright => ?_⟩
  rw [hresolved.provider]
  exact hright source text location hmem

/-- A known location leads to itself. -/
theorem leads_refl (hgood : GoodCalls own calls) (hknown : Known calls location) :
    Leads calls location location := by
  refine ⟨hknown, fun Place atlas hright => ⟨rfl, ?_⟩⟩
  obtain ⟨source, text, hmem⟩ := hknown
  obtain ⟨hcode, hname⟩ := hright source text location hmem
  rw [(hgood.resolved source text location hmem).provider, hname, hcode]

/-- A lookup of the name of a known location leads on. -/
theorem leads_of_resolved (hgood : GoodCalls own calls) (hknown : Known calls location)
    (hmem : .resolved source location.cityName next ∈ calls) : Leads calls location next := by
  refine ⟨⟨source, _, hmem⟩, fun Place atlas hright => ?_⟩
  have hself := (leads_refl hgood hknown).named Place atlas hright
  obtain ⟨hcode, hname⟩ := hright source location.cityName next hmem
  rw [(hgood.resolved source _ next hmem).provider, hcode, hname]
  exact ⟨hself.2, hself.2⟩

theorem Placed.leads (h : Placed calls key location) (hleads : Leads calls location next) :
    Placed calls key next := by
  refine ⟨hleads.known, fun Place atlas hright => ?_⟩
  obtain ⟨hcode, hname⟩ := hleads.named Place atlas hright
  rw [hcode, hname]
  exact ⟨(h.named Place atlas hright).1, (h.named Place atlas hright).1⟩

omit [Platform] in
/-- Codes that are apart tell the provider. -/
theorem provider_of_adcode (hgood : GoodCalls own calls) (hapart : CodesApart calls)
    (hknown : Known calls location) (hnext : Known calls next)
    (hcode : location.adcode = next.adcode) : location.provider = next.provider := by
  obtain ⟨source, text, hmem⟩ := hknown
  obtain ⟨other, text', hmem'⟩ := hnext
  rw [(hgood.resolved _ _ _ hmem).provider, (hgood.resolved _ _ _ hmem').provider]
  cases source <;> cases other
  · rfl
  · exact absurd hcode (hapart _ _ _ _ hmem hmem')
  · exact absurd hcode.symm (hapart _ _ _ _ hmem' hmem)
  · rfl

/-- A cached forecast is for every location with its code. -/
theorem Placed.forecast {adcode : String} {startDate endDate : Date} {forecast : WeatherForecast}
    (h : Placed calls key location) (hgood : GoodCalls own calls) (hapart : CodesApart calls)
    (hsound : Sound own calls (.forecast adcode startDate endDate) (.forecast forecast))
    (hcode : location.adcode = adcode) : Placed calls key forecast.location := by
  obtain ⟨⟨other, hknown, hother, hleads⟩, -⟩ := hsound
  have hsame : location.adcode = other.adcode := hcode.trans hother.symm
  have hprovider := provider_of_adcode hgood hapart h.known hknown hsame
  refine h.leads ⟨hleads.known, fun Place atlas hright => ?_⟩
  rw [hprovider, hsame]
  exact hleads.named Place atlas hright

/-! ## The calls of one provider -/

omit [Platform] in
theorem GoodCalls.resolved_concat (h : GoodCalls own calls)
    (hresolved : LocationOf source location) :
    GoodCalls own (calls ++ [.resolved source text location]) := by
  refine ⟨fun source' text' location' hmem => ?_, fun hown =>
    justified_concat.mpr ⟨h.sent hown, trivial⟩⟩
  rcases List.mem_append.mp hmem with hmem | hmem
  · exact h.resolved source' text' location' hmem
  · cases List.mem_singleton.mp hmem
    exact hresolved

omit [Platform] in
variable (source location) in
theorem GoodCalls.requested_concat (h : GoodCalls own calls)
    (hsent : own → SentOwn calls (.requested source location)) :
    GoodCalls own (calls ++ [.requested source location]) := by
  refine ⟨fun source' text' location' hmem => ?_, fun hown =>
    justified_concat.mpr ⟨h.sent hown, hsent hown⟩⟩
  rcases List.mem_append.mp hmem with hmem | hmem
  · exact h.resolved source' text' location' hmem
  · cases List.mem_singleton.mp hmem

end Places

/-! ## The calls of the gateway -/

section Gateway

variable {own : Prop} {gateway : WeatherToolGateway} {state : GatewayState}
  {location : WeatherLocation} {startDate endDate : Date}

variable (startDate endDate) in
/-- What one provider does when it is asked for a forecast. -/
theorem goodCalls_of_forecastCall {providers : ProviderState} {source : WeatherSource}
    {outcome : Except CallError WeatherForecast × ProviderState}
    (hgood : GoodCalls own providers.calls) (hknown : Known providers.calls location)
    (hcareful : own → source = .amap → location.provider ≠ WeatherSource.qweather.name)
    (hcall : ForecastCall location providers source outcome) :
    providers.calls <+: outcome.2.calls ∧ GoodCalls own outcome.2.calls ∧
      ∀ forecast, outcome.1 = .ok forecast →
        Sound own outcome.2.calls (forecastKey location startDate endDate)
          (.forecast forecast) := by
  obtain ⟨resolver, text, hmem⟩ := id hknown
  have hresolver := hgood.resolved resolver text location hmem
  cases hcall with
  | amap asked =>
    -- Only a location of AMap itself has a code for AMap.
    have hamap (hown : own) : resolver = .amap := by
      cases resolver with
      | amap => rfl
      | qweather => exact absurd hresolver.provider (hcareful hown rfl)
    have hnext := hgood.requested_concat location .amap
      fun hown => ⟨text, location, hamap hown ▸ hmem, rfl⟩
    rw [asked.state, ProviderState.calls_record]
    refine ⟨List.prefix_append _ _, hnext, fun forecast hforecast => ?_⟩
    obtain ⟨hlocation, hprovider⟩ := asked.forecast forecast hforecast
    have hknown := hknown.mono (List.prefix_append _ [.requested .amap location])
    refine ⟨⟨location, hknown, rfl, ?_⟩, fun hown => ?_⟩
    · rw [hlocation]
      exact leads_refl hnext hknown
    · rw [hprovider, hlocation, hresolver.provider, hamap hown]
  | coordinates given asked =>
    have hqweather : resolver = .qweather := by
      cases resolver with
      | amap => exact absurd (hresolver.amap rfl) given.1
      | qweather => rfl
    subst hqweather
    have hnext := hgood.requested_concat location .qweather
      fun _ => ⟨text, location, hmem, rfl⟩
    rw [asked.state, ProviderState.calls_record]
    refine ⟨List.prefix_append _ _, hnext, fun forecast hforecast => ?_⟩
    obtain ⟨hlocation, hprovider⟩ := asked.forecast forecast hforecast
    have hknown := hknown.mono (List.prefix_append _ [.requested .qweather location])
    refine ⟨⟨location, hknown, rfl, ?_⟩, fun _ => ?_⟩
    · rw [hlocation]
      exact leads_refl hnext hknown
    · rw [hprovider, hlocation, hresolver.provider]
  | unresolved error => exact ⟨List.prefix_refl _, hgood, fun _ h => by cases h⟩
  | lookedUp found resolved asked =>
    have hfound : WeatherCall.resolved .qweather location.cityName found ∈
        providers.calls ++ [.resolved .qweather location.cityName found] :=
      List.mem_append_right _ (List.mem_singleton_self _)
    have hnext := (hgood.resolved_concat resolved).requested_concat found .qweather
      fun _ => ⟨location.cityName, found, hfound, rfl⟩
    rw [asked.state, ProviderState.calls_record, ProviderState.calls_record]
    have hbefore := List.prefix_append (providers.calls ++
      [.resolved .qweather location.cityName found]) [.requested .qweather found]
    refine ⟨(List.prefix_append _ _).trans hbefore, hnext, fun forecast hforecast => ?_⟩
    obtain ⟨hlocation, hprovider⟩ := asked.forecast forecast hforecast
    have hknown := hknown.mono ((List.prefix_append _ _).trans hbefore)
    refine ⟨⟨location, hknown, rfl, ?_⟩, fun _ => ?_⟩
    · rw [hlocation]
      exact leads_of_resolved hnext hknown (hbefore.subset hfound)
    · rw [hprovider, hlocation, resolved.provider]

variable (gateway) in
/-- A lookup through the gateway. -/
theorem resolveLocation_spec (hgood : GoodCalls own state.providers.calls)
    (hcached : Cached (Sound own) state) (destination : String)
    (script : GatewayScript LocationAnswers) :
    let answer := gateway.resolveLocation destination script state
    (state.providers.calls <+: answer.2.providers.calls ∧
      GoodCalls own answer.2.providers.calls) ∧ Cached (Sound own) answer.2 ∧
      ∀ location fetchedAt expiresAt,
        answer.1 = .ok (.success location fetchedAt expiresAt) →
        Placed answer.2.providers.calls (normalize destination) location := by
  obtain ⟨hkept, hcached, hresult⟩ := getOrLoad_rule gateway "weather.resolve_location"
    (resolveCall destination) (.location (normalize destination)) gateway.locationTtlSeconds
    .location script state
    (fun calls => state.providers.calls <+: calls ∧ GoodCalls own calls) (Sound own)
    (fun _ hinv _ _ hsound => hsound.mono hinv.1) ⟨List.prefix_refl _, hgood⟩ hcached
    fun q _ hinv => by
      obtain ⟨error, heq⟩ | ⟨found, hresolved, heq⟩ := resolveCall_cases destination
        (script.attempts q.1).answers q.2.1 q.2.2
      · rw [heq]
        exact ⟨hinv, fun _ h => by cases h⟩
      · rw [heq]
        refine ⟨⟨hinv.1.trans (List.prefix_append _ _), hinv.2.resolved_concat hresolved⟩,
          fun location h => ?_⟩
        cases h
        exact placed_of_resolved (List.mem_append_right _ (List.mem_singleton_self _)) hresolved
  refine ⟨hkept, hcached, fun location fetchedAt expiresAt hanswer => ?_⟩
  obtain ⟨data, hdata, hlocation⟩ := bind_eq_ok hanswer
  unfold asLocation at hlocation
  split at hlocation
  · cases hlocation
    exact hresult _ _ _ hdata
  · cases hlocation
  · cases hlocation

variable (gateway) in
/-- A request for a forecast through the gateway. -/
theorem getForecast_spec (hgood : GoodCalls own state.providers.calls)
    (hcached : Cached (Sound own) state) (hknown : Known state.providers.calls location)
    (script : GatewayScript ForecastAnswers)
    (hcareful : own → location.provider = WeatherSource.qweather.name →
      ∀ q ∈ gateway.reachedBy "weather.get_forecast" (forecastCall location startDate endDate)
        (forecastKey location startDate endDate) script state, q.2.1 ≠ .amap) :
    let answer := gateway.getForecast location startDate endDate script state
    (state.providers.calls <+: answer.2.providers.calls ∧
      GoodCalls own answer.2.providers.calls) ∧ Cached (Sound own) answer.2 ∧
      ∀ forecast fetchedAt expiresAt,
        answer.1 = .ok (.success forecast fetchedAt expiresAt) →
        Sound own answer.2.providers.calls (forecastKey location startDate endDate)
          (.forecast forecast) := by
  obtain ⟨hkept, hcached, hresult⟩ := getOrLoad_rule gateway "weather.get_forecast"
    (forecastCall location startDate endDate) (forecastKey location startDate endDate)
    gateway.forecastTtlSeconds .forecast script state
    (fun calls => state.providers.calls <+: calls ∧ GoodCalls own calls) (Sound own)
    (fun _ hinv _ _ hsound => hsound.mono hinv.1) ⟨List.prefix_refl _, hgood⟩ hcached
    fun q hq hinv => by
      obtain ⟨hbefore, hnext, hsound⟩ := goodCalls_of_forecastCall startDate endDate hinv.2
        (hknown.mono hinv.1)
        (fun hown hamap hqweather => hcareful hown hqweather q hq hamap)
        (forecastCall_cases location startDate endDate (script.attempts q.1).answers q.2.1 q.2.2)
      exact ⟨⟨hinv.1.trans hbefore, hnext⟩, hsound⟩
  refine ⟨hkept, hcached, fun forecast fetchedAt expiresAt hanswer => ?_⟩
  obtain ⟨data, hdata, hforecast⟩ := bind_eq_ok hanswer
  unfold asForecast at hforecast
  split at hforecast
  · cases hforecast
    exact hresult _ _ _ hdata
  · cases hforecast
  · cases hforecast

end Gateway

/-! ## Steps -/

section Steps

variable {own : Prop} {gateway : WeatherToolGateway} {world : WeatherWorld} {sessionId : String}
  {session record : PlanSessionRecord}

theorem WorldInvariant.setGateway (h : WorldInvariant own world) {state : GatewayState}
    (hbefore : world.calls <+: state.providers.calls)
    (hgood : GoodCalls own state.providers.calls) (hcached : Cached (Sound own) state) :
    WorldInvariant own { world with gateway := state } :=
  ⟨hgood, hcached,
    fun sessionId trip location htrip hget =>
      (h.located sessionId trip location htrip hget).mono hbefore,
    fun sessionId trip snapshot htrip hget =>
      (h.fetched sessionId trip snapshot htrip hget).imp_left (·.mono hbefore),
    fun sessionId trip session location htrip hget hlocation =>
      (h.monitor sessionId trip session location htrip hget hlocation).mono hbefore,
    fun sessionId trip session htrip hget snapshot hmem =>
      (h.stored sessionId trip session htrip hget snapshot hmem).imp_left (·.mono hbefore)⟩

omit [Platform] in
/-- A session that keeps its planning keeps its trip. -/
theorem trip_set (hget : world.sessions.get? sessionId = some session)
    (hsnapshot : record.snapshot = session.snapshot) (other : String) :
    { world with sessions := world.sessions.set sessionId record }.trip other =
      world.trip other := by
  unfold WeatherWorld.trip
  dsimp only
  rw [Dict.get?_set]
  split
  · next heq => simp [heq, hget, hsnapshot]
  · rfl

/-- A session changes in what its monitor and its snapshots say. -/
theorem WorldInvariant.setSession (h : WorldInvariant own world)
    (hget : world.sessions.get? sessionId = some session)
    (hsnapshot : record.snapshot = session.snapshot)
    (hmonitor : ∀ trip location, world.trip sessionId = some trip →
      record.weatherMonitor.location = some location →
      Placed world.calls (normalize trip.destination) location)
    (hstored : ∀ trip, world.trip sessionId = some trip →
      ∀ snapshot ∈ record.weatherSnapshots.values,
        Placed world.calls (normalize trip.destination) snapshot.location ∧
          (own → snapshot.provider = snapshot.location.provider)) :
    WorldInvariant own { world with sessions := world.sessions.set sessionId record } := by
  have htrip := trip_set hget hsnapshot
  refine ⟨h.calls, h.cached, fun other trip location hother => ?_,
    fun other trip snapshot hother => ?_, fun other trip found location hother hfound => ?_,
    fun other trip found hother hfound => ?_⟩
  · exact h.located other trip location ((htrip other).symm.trans hother)
  · exact h.fetched other trip snapshot ((htrip other).symm.trans hother)
  · have hother := (htrip other).symm.trans hother
    dsimp only at hfound
    rw [Dict.get?_set] at hfound
    split at hfound
    · next heq =>
      cases hfound
      exact hmonitor trip location (heq ▸ hother)
    · exact h.monitor other trip found location hother hfound
  · have hother := (htrip other).symm.trans hother
    dsimp only at hfound
    rw [Dict.get?_set] at hfound
    split at hfound
    · next heq =>
      cases hfound
      exact hstored trip (heq ▸ hother)
    · exact h.stored other trip found hother hfound

theorem WorldInvariant.persistFailure (h : WorldInvariant own world)
    (hget : world.sessions.get? sessionId = some session) (code : String)
    (failedAt : DateTime) :
    WorldInvariant own (world.persistFailure sessionId session code failedAt) :=
  h.setSession hget rfl
    (fun trip location htrip hlocation => h.monitor sessionId trip session location htrip hget
      hlocation)
    fun trip htrip snapshot hmem => h.stored sessionId trip session htrip hget snapshot hmem

theorem WorldInvariant.setLocated (h : WorldInvariant own world) {location : WeatherLocation}
    (hplaced : ∀ trip, world.trip sessionId = some trip →
      Placed world.calls (normalize trip.destination) location) :
    WorldInvariant own { world with located := world.located.set sessionId location } := by
  refine { h with located := fun other trip found htrip hget => ?_ }
  dsimp only at hget
  rw [Dict.get?_set] at hget
  split at hget
  · next heq =>
    cases hget
    exact hplaced trip (heq ▸ htrip)
  · exact h.located other trip found htrip hget

theorem WorldInvariant.setFetched (h : WorldInvariant own world) {snapshot : WeatherSnapshot}
    (hplaced : ∀ trip, world.trip sessionId = some trip →
      Placed world.calls (normalize trip.destination) snapshot.location ∧
        (own → snapshot.provider = snapshot.location.provider)) :
    WorldInvariant own { world with fetched := world.fetched.set sessionId snapshot } := by
  refine { h with fetched := fun other trip found htrip hget => ?_ }
  dsimp only at hget
  rw [Dict.get?_set] at hget
  split at hget
  · next heq =>
    cases hget
    exact hplaced trip (heq ▸ htrip)
  · exact h.fetched other trip found htrip hget

theorem worldInvariant_locate (h : WorldInvariant own world)
    (script : GatewayScript LocationAnswers) (failedAt : DateTime) :
    WorldInvariant own (world.locate gateway sessionId script failedAt) := by
  unfold WeatherWorld.locate
  split
  · next session trip hget htrip =>
    split
    · next location hlocation =>
      refine h.setLocated fun other hother => ?_
      exact h.monitor sessionId other session location hother hget hlocation
    · obtain ⟨⟨hbefore, hgood⟩, hcached, hplaced⟩ := resolveLocation_spec gateway
        h.calls h.cached trip.destination script
      have hworld := h.setGateway hbefore hgood hcached
      dsimp only
      split
      · next location fetchedAt expiresAt hanswer =>
        refine hworld.setLocated fun other hother => ?_
        obtain rfl : trip = other := Option.some.inj (htrip.symm.trans hother)
        exact hplaced location fetchedAt expiresAt hanswer
      · exact hworld.persistFailure hget _ failedAt
      · exact hworld
  · exact h

theorem worldInvariant_fetch (h : WorldInvariant own world)
    (script : GatewayScript ForecastAnswers) (failedAt : DateTime)
    (hcareful : own → Careful gateway world (.fetchWeatherSnapshot sessionId script failedAt))
    (hapart : CodesApart (world.fetch gateway sessionId script failedAt).calls) :
    WorldInvariant own (world.fetch gateway sessionId script failedAt) := by
  unfold WeatherWorld.fetch at hapart ⊢
  split at hapart
  · next session trip location hget htrip hlocated =>
    have hplaced := h.located sessionId trip location htrip hlocated
    obtain ⟨⟨hbefore, hgood⟩, hcached, hsound⟩ := getForecast_spec gateway
      h.calls h.cached hplaced.known script
      fun hown => hcareful hown session trip location hget htrip hlocated
    have hworld := h.setGateway hbefore hgood hcached
    dsimp only at hapart ⊢
    split at hapart
    · next forecast fetchedAt expiresAt hanswer =>
      refine hworld.setFetched fun other hother => ?_
      obtain rfl : trip = other := Option.some.inj (htrip.symm.trans hother)
      have hforecast := hsound forecast fetchedAt expiresAt hanswer
      exact ⟨(hplaced.mono hbefore).forecast hgood hapart hforecast rfl, hforecast.2⟩
    · exact hworld.persistFailure hget _ failedAt
    · exact hworld
  · exact h

omit [Platform] in
/-- What an observation stores. -/
theorem observation_location (session : PlanSessionRecord) (snapshot : WeatherSnapshot)
    (risks : List DailyWeatherRisk) (outcome : WeatherRefreshOutcome)
    (event : Option ChangeEvent) (eventStatus : Option WeatherEventStatus) (maxEvents : ℕ) :
    (persistWeatherObservation session snapshot risks outcome event eventStatus
        maxEvents).weatherMonitor.location = some snapshot.location ∧
      ∀ other ∈ (persistWeatherObservation session snapshot risks outcome event eventStatus
          maxEvents).weatherSnapshots.values,
        other = snapshot ∨ other ∈ session.weatherSnapshots.values := by
  constructor
  · have htrim (stored : PlanSessionRecord) :
        (trimEvents stored maxEvents).weatherMonitor.location =
          stored.weatherMonitor.location := by
      unfold trimEvents
      split <;> rfl
    unfold persistWeatherObservation
    cases event with
    | none => exact htrim _
    | some event => cases eventStatus <;> exact htrim _
  · intro other hother
    rw [(observation_storeSnapshot session snapshot risks outcome event eventStatus
      maxEvents).1] at hother
    obtain ⟨key, hkey⟩ := Dict.mem_values_iff.mp hother
    change ((session.weatherSnapshots.set snapshot.snapshotId snapshot).filterKeys _).get? key =
      some other at hkey
    rw [Dict.get?_filterKeys] at hkey
    split at hkey
    · rw [Dict.get?_set] at hkey
      split at hkey
      · cases hkey
        exact .inl rfl
      · exact .inr (Dict.mem_values_iff.mpr ⟨key, hkey⟩)
    · cases hkey

theorem worldInvariant_step (h : WorldInvariant own world) {step : WeatherStep}
    (hcareful : own → Careful gateway world step)
    (hapart : CodesApart (world.step gateway step).calls) :
    WorldInvariant own (world.step gateway step) := by
  cases step with
  | resolveWeatherLocation sessionId script failedAt =>
    exact worldInvariant_locate h script failedAt
  | fetchWeatherSnapshot sessionId script failedAt =>
    exact worldInvariant_fetch h script failedAt hcareful hapart
  | persistObservation sessionId risks outcome event eventStatus maxEvents =>
    unfold WeatherWorld.step
    dsimp only
    split
    · next session snapshot hget hfetched =>
      obtain ⟨hlocation, hvalues⟩ := observation_location session snapshot risks outcome event
        eventStatus maxEvents
      have hsame := samePlan_persistWeatherObservation session snapshot risks outcome event
        eventStatus maxEvents
      refine h.setSession hget hsame.snapshot (fun trip location htrip hmonitor => ?_)
        fun trip htrip other hother => ?_
      · rw [hlocation] at hmonitor
        cases hmonitor
        exact (h.fetched sessionId trip snapshot htrip hfetched).1
      · obtain rfl | hother := hvalues other hother
        · exact h.fetched sessionId trip other htrip hfetched
        · exact h.stored sessionId trip session htrip hget other hother
    · exact h
  | restart =>
    refine h.setGateway (List.prefix_refl _) h.calls ?_
    intro key entry data fetchedAt expiresAt hentry
    cases hentry

theorem worldInvariant_of_unrefreshed (h : Unrefreshed world) :
    WorldInvariant own world := by
  have hcalls := h.calls
  refine ⟨⟨fun _ _ _ hmem => ?_, fun _ => ?_⟩, fun key entry _ _ _ hentry => ?_,
    fun sessionId trip location _ hget => ?_, fun sessionId trip snapshot _ hget => ?_,
    fun sessionId trip session location _ hget hlocation => ?_,
    fun sessionId trip session _ hget snapshot hmem => ?_⟩
  · rw [hcalls] at hmem
    exact absurd hmem List.not_mem_nil
  · rw [hcalls]
    exact justified_nil
  · rw [h.entries] at hentry
    cases hentry
  · rw [h.located] at hget
    cases hget
  · rw [h.fetched] at hget
    cases hget
  · rw [h.location sessionId session hget] at hlocation
    cases hlocation
  · rw [h.snapshots sessionId session hget] at hmem
    exact absurd hmem (by simp)

/-! ## Calls are only added -/

variable (gateway) in
theorem calls_resolveLocation (destination : String) (script : GatewayScript LocationAnswers)
    (state : GatewayState) : state.providers.calls <+:
      (gateway.resolveLocation destination script state).2.providers.calls := by
  refine (getOrLoad_rule gateway _ _ _ _ _ script state (state.providers.calls <+: ·)
    (fun _ _ _ => True) (fun _ _ _ _ _ => trivial) (List.prefix_refl _)
    (fun _ _ _ _ _ _ _ => trivial) fun q _ hinv => ?_).1
  obtain ⟨error, heq⟩ | ⟨found, -, heq⟩ := resolveCall_cases destination
    (script.attempts q.1).answers q.2.1 q.2.2
  · rw [heq]
    exact ⟨hinv, fun _ _ => trivial⟩
  · rw [heq]
    exact ⟨hinv.trans (List.prefix_append _ _), fun _ _ => trivial⟩

omit [Platform] in
theorem calls_forecastCall (location : WeatherLocation) (startDate endDate : Date)
    (answers : ForecastAnswers) (source : WeatherSource) (state : ProviderState) :
    state.calls <+: (forecastCall location startDate endDate answers source state).2.calls := by
  have hcall := forecastCall_cases location startDate endDate answers source state
  generalize forecastCall location startDate endDate answers source state = outcome at hcall ⊢
  cases hcall with
  | amap asked =>
    rw [asked.state]
    exact List.prefix_append _ _
  | coordinates given asked =>
    rw [asked.state]
    exact List.prefix_append _ _
  | unresolved error => exact List.prefix_refl _
  | lookedUp found resolved asked =>
    rw [asked.state]
    exact (List.prefix_append _ _).trans (List.prefix_append _ _)

omit [Platform] in
variable (gateway) in
theorem calls_getForecast (location : WeatherLocation) (startDate endDate : Date)
    (script : GatewayScript ForecastAnswers) (state : GatewayState) :
    state.providers.calls <+:
      (gateway.getForecast location startDate endDate script state).2.providers.calls :=
  (getOrLoad_rule gateway _ _ _ _ _ script state (state.providers.calls <+: ·)
    (fun _ _ _ => True) (fun _ _ _ _ _ => trivial) (List.prefix_refl _)
    (fun _ _ _ _ _ _ _ => trivial) fun _ _ hinv =>
      ⟨hinv.trans (calls_forecastCall ..), fun _ _ => trivial⟩).1

omit [Platform] in
/-- A call of AMap that is made leaves its request behind. -/
theorem requested_of_reached {location : WeatherLocation} {startDate endDate : Date}
    {script : GatewayScript ForecastAnswers} {state : GatewayState}
    {q : ℕ × WeatherSource × ProviderState}
    (hq : q ∈ gateway.reachedBy "weather.get_forecast" (forecastCall location startDate endDate)
      (forecastKey location startDate endDate) script state) (hamap : q.2.1 = .amap) :
    q.2.2.calls ++ [.requested .amap location] <+:
      (gateway.getForecast location startDate endDate script state).2.providers.calls := by
  obtain ⟨index, source, found⟩ := q
  obtain rfl : source = .amap := hamap
  have hcall : (forecastCall location startDate endDate (script.attempts index).answers .amap
      found).2.calls = found.calls ++ [.requested .amap location] := by
    unfold forecastCall AMapWeatherProvider.getForecast
    cases (script.attempts index).answers.amap <;> rfl
  unfold reachedBy at hq
  unfold getForecast getOrLoad
  rcases hlive : state.cache.getLiveEntry (forecastKey location startDate endDate)
    script.reading with ⟨_ | entry, cache⟩
  · rw [hlive] at hq
    have hmade := (retryCalls_calls fun answers source state =>
      calls_forecastCall location startDate endDate answers source state).2 _ hq
    dsimp only at hmade ⊢
    rwa [hcall] at hmade
  · rw [hlive] at hq
    exact absurd hq List.not_mem_nil

variable (gateway world) in
theorem calls_locate (sessionId : String) (script : GatewayScript LocationAnswers)
    (failedAt : DateTime) :
    world.calls <+: (world.locate gateway sessionId script failedAt).calls := by
  unfold WeatherWorld.locate
  split
  · next session trip _ _ =>
    split
    · exact List.prefix_refl _
    · have hcalls := calls_resolveLocation gateway trip.destination script world.gateway
      dsimp only
      split <;> exact hcalls
  · exact List.prefix_refl _

variable (gateway) in
theorem calls_fetch_eq {location : WeatherLocation} {trip : TripSpec}
    (hget : world.sessions.get? sessionId = some session)
    (htrip : world.trip sessionId = some trip)
    (hlocated : world.located.get? sessionId = some location)
    (script : GatewayScript ForecastAnswers) (failedAt : DateTime) :
    (world.fetch gateway sessionId script failedAt).calls =
      (gateway.getForecast location trip.startDate trip.endDate script
        world.gateway).2.providers.calls := by
  unfold WeatherWorld.fetch
  rw [hget, htrip, hlocated]
  dsimp only
  split <;> rfl

variable (gateway world) in
theorem calls_step (step : WeatherStep) : world.calls <+: (world.step gateway step).calls := by
  cases step with
  | resolveWeatherLocation sessionId script failedAt =>
    exact calls_locate gateway world sessionId script failedAt
  | fetchWeatherSnapshot sessionId script failedAt =>
    show world.calls <+: (world.fetch gateway sessionId script failedAt).calls
    by_cases hfound : ∃ session trip location, world.sessions.get? sessionId = some session ∧
        world.trip sessionId = some trip ∧ world.located.get? sessionId = some location
    · obtain ⟨session, trip, location, hget, htrip, hlocated⟩ := hfound
      rw [calls_fetch_eq gateway hget htrip hlocated]
      exact calls_getForecast gateway location trip.startDate trip.endDate script world.gateway
    · unfold WeatherWorld.fetch
      split
      · next session trip location hget htrip hlocated =>
        exact absurd ⟨session, trip, location, hget, htrip, hlocated⟩ hfound
      · exact List.prefix_refl _
  | persistObservation sessionId risks outcome event eventStatus maxEvents =>
    unfold WeatherWorld.step
    dsimp only
    split <;> exact List.prefix_refl _
  | restart => exact List.prefix_refl _

end Steps

/-! ## Runs -/

section Runs

variable {own : Prop} {gateway : WeatherToolGateway} {world : WeatherWorld}
  {steps : List WeatherStep}

variable (gateway world) in
theorem refreshAll_take_succ {k : ℕ} {step : WeatherStep} (h : steps[k]? = some step) :
    world.refreshAll gateway (steps.take (k + 1)) =
      (world.refreshAll gateway (steps.take k)).step gateway step := by
  rw [List.take_add_one, h]
  exact List.foldl_concat ..

variable (gateway world steps) in
theorem calls_refreshAll (k : ℕ) : (world.refreshAll gateway (steps.take k)).calls <+:
    (world.refreshAll gateway steps).calls := by
  have hrun (world : WeatherWorld) (steps : List WeatherStep) :
      world.calls <+: (world.refreshAll gateway steps).calls := by
    induction steps generalizing world with
    | nil => exact List.prefix_refl _
    | cons step steps ih => exact (calls_step gateway world step).trans (ih _)
  have hsplit : world.refreshAll gateway steps =
      (world.refreshAll gateway (steps.take k)).refreshAll gateway (steps.drop k) := by
    unfold WeatherWorld.refreshAll
    rw [← List.foldl_append, List.take_append_drop]
  rw [hsplit]
  exact hrun _ _

omit [Platform] in
theorem CodesApart.mono {before calls : List WeatherCall} (h : CodesApart calls)
    (hbefore : before <+: calls) : CodesApart before :=
  fun text location text' location' hmem hmem' =>
    h text location text' location' (hbefore.subset hmem) (hbefore.subset hmem')

variable (own) in
/-- The invariant holds in every state of a run; its second half when the run is careful. -/
theorem worldInvariant_refreshAll (hstart : Unrefreshed world)
    (hapart : CodesApart (world.refreshAll gateway steps).calls)
    (hcareful : own → ∀ k step, steps[k]? = some step →
      Careful gateway (world.refreshAll gateway (steps.take k)) step) (k : ℕ) :
    WorldInvariant own (world.refreshAll gateway (steps.take k)) := by
  induction k with
  | zero => exact worldInvariant_of_unrefreshed hstart
  | succ k ih =>
    cases hstep : steps[k]? with
    | none =>
      rw [List.take_add_one, hstep, Option.toList_none, List.append_nil]
      exact ih
    | some step =>
      rw [refreshAll_take_succ gateway world hstep]
      refine worldInvariant_step ih (fun hown => hcareful hown k step hstep) (hapart.mono ?_)
      rw [← refreshAll_take_succ gateway world hstep]
      exact calls_refreshAll gateway world steps (k + 1)

theorem unmixed_of_worldInvariant (h : WorldInvariant True world) : Unmixed world := by
  refine ⟨h.calls.sent trivial, fun sessionId session trip hget htrip snapshot hmem => ?_⟩
  obtain ⟨hplaced, hprovider⟩ := h.stored sessionId trip session htrip hget snapshot hmem
  intro Place atlas hright
  rw [hprovider trivial]
  exact (hplaced.named Place atlas hright).1

/-- AMap cannot be asked for a location of QWeather without sending a foreign code. -/
theorem careful_of_unmixed {step : WeatherStep} (h : WorldInvariant own world)
    (hunmixed : Unmixed (world.step gateway step))
    (hapart : CodesApart (world.step gateway step).calls) : Careful gateway world step := by
  cases step with
  | fetchWeatherSnapshot sessionId script failedAt =>
    intro session trip location hget htrip hlocated hqweather q hq hamap
    have hcalls := calls_fetch_eq gateway hget htrip hlocated script failedAt
    obtain ⟨after, hafter⟩ := requested_of_reached hq hamap
    have hsent := hunmixed.sent q.2.2.calls (.requested .amap location) after (by
      refine hcalls.trans ?_
      rw [← hafter, List.append_assoc]
      rfl)
    obtain ⟨text, own, hmem, hsame⟩ := hsent
    obtain ⟨source, text', hknown⟩ := (h.located sessionId trip location htrip hlocated).known
    obtain rfl : source = .qweather := by
      rw [(h.calls.resolved source text' location hknown).provider] at hqweather
      exact WeatherSource.name_injective hqweather
    have hfinal : .resolved .amap text own ∈
        (world.fetch gateway sessionId script failedAt).calls := by
      rw [hcalls, ← hafter, List.append_assoc]
      exact List.mem_append_left _ hmem
    have hknown := (calls_step gateway world
      (.fetchWeatherSnapshot sessionId script failedAt)).subset hknown
    exact hapart _ _ _ _ hfinal hknown (ForecastRequest.weatherInfo.inj hsame)
  | resolveWeatherLocation sessionId script failedAt => trivial
  | persistObservation sessionId risks outcome event eventStatus maxEvents => trivial
  | restart => trivial

/-- Requests carry the codes of their own provider, and stored forecasts are for the destination,
in every state of a run exactly when AMap is never asked for a location of QWeather. -/
theorem unmixed_iff (hstart : Unrefreshed world)
    (hapart : CodesApart (world.refreshAll gateway steps).calls) :
    (∀ k, Unmixed (world.refreshAll gateway (steps.take k))) ↔
      ∀ k step, steps[k]? = some step →
        Careful gateway (world.refreshAll gateway (steps.take k)) step := by
  constructor
  · intro hunmixed k step hstep
    have hnext := hunmixed (k + 1)
    have hcalls := calls_refreshAll gateway world steps (k + 1)
    rw [refreshAll_take_succ gateway world hstep] at hnext hcalls
    exact careful_of_unmixed (worldInvariant_refreshAll False hstart hapart
      (fun hfalse => hfalse.elim) k) hnext (hapart.mono hcalls)
  · intro hcareful k
    exact unmixed_of_worldInvariant
      (worldInvariant_refreshAll True hstart hapart (fun _ => hcareful) k)

/-! ## When AMap is not asked -/

omit [Platform] in
/-- Given coordinates, the chain goes on after QWeather when the answer lets it. -/
theorem canFailover_forecastCall {location : WeatherLocation} (startDate endDate : Date)
    (answers : ForecastAnswers) (state : ProviderState)
    (hgiven : location.latitude ≠ none ∧ location.longitude ≠ none) :
    ProviderChain.canFailover
      (forecastCall location startDate endDate answers .qweather state).1 =
        ProviderChain.canFailover answers.qweather := by
  unfold forecastCall QWeatherProvider.getForecast
  dsimp only
  rw [if_neg (not_or.mpr hgiven)]
  unfold QWeatherProvider.requestForecast
  cases answers.qweather with
  | error error => cases error <;> rfl
  | ok days => rfl

omit [Platform] in
/-- One provider after the other comes to AMap unless QWeather stands before it and its answer is
final. -/
theorem spared_made_iff {chain : ProviderChain WeatherSource} {clock : ChainClock}
    {call : WeatherSource → ProviderState → Except CallError WeatherForecast × ProviderState}
    {goesOn : Bool}
    (hcall : ∀ state, ProviderChain.canFailover (call .qweather state).1 = goesOn)
    (first : WeatherSource) (rest : List WeatherSource) (state : ProviderState) :
    (∀ p ∈ made (chain.attempt call clock) ProviderChain.canFailover first rest state,
      p.1 ≠ .amap) ↔
        .amap ∉ first :: rest ∨ (first :: rest).head? = some .qweather ∧ goesOn = false := by
  induction rest generalizing first state with
  | nil => cases first <;> simp [made]
  | cons next rest ih =>
    cases first with
    | amap => simp [made]
    | qweather =>
      rw [made, (chain.attempt_eq .qweather state call clock).1, hcall]
      cases goesOn with
      | false => simp
      | true =>
        rw [if_pos rfl]
        have hnext := ih next (chain.attempt call clock .qweather state).2
        simp only [List.mem_cons, forall_eq_or_imp, ne_eq, reduceCtorEq, not_false_eq_true,
          true_and, false_or, and_false, or_false] at hnext ⊢
        exact hnext

omit [Platform] in
/-- The calls of one attempt that reach a provider spare AMap exactly when the attempt does. -/
theorem sparesAMap_iff {location : WeatherLocation} (startDate endDate : Date)
    {attempts : ℕ → Attempt ForecastAnswers} {index : ℕ} {state : ProviderState}
    (hgiven : location.latitude ≠ none ∧ location.longitude ≠ none) :
    (∀ p ∈ gateway.calledIn (forecastCall location startDate endDate) attempts index state,
      p.1 ≠ .amap) ↔ SparesAMap gateway (attempts index) state.circuits := by
  unfold calledIn SparesAMap ProviderChain.called
  cases hbefore : (attempts index).before with
  | some error => simp
  | none =>
    dsimp only
    cases havailable :
        (gateway.chain.available state.circuits (attempts index).clock.now).1 with
    | nil => simp
    | cons first rest =>
      rw [spared_made_iff (fun state => canFailover_forecastCall startDate endDate
        (attempts index).answers state hgiven)]
      simp

/-- In a run, a step is careful exactly when the forecast that it needs is cached, or AMap is out
of the question in every attempt: its circuit is open, or QWeather answers before it. -/
theorem careful_iff (hinvariant : WorldInvariant own world) (step : WeatherStep) :
    Careful gateway world step ↔ ForecastSparesAMap gateway world step := by
  cases step with
  | fetchWeatherSnapshot sessionId script failedAt =>
    refine forall₃_congr fun session trip location => forall₃_congr fun hget htrip hlocated =>
      forall_congr' fun hqweather => ?_
    -- QWeather gives coordinates to what it resolves.
    obtain ⟨source, text, hknown⟩ :=
      (hinvariant.located sessionId trip location htrip hlocated).known
    have hresolved := hinvariant.calls.resolved source text location hknown
    obtain rfl : source = .qweather := by
      rw [hresolved.provider] at hqweather
      exact WeatherSource.name_injective hqweather
    have hgiven := hresolved.qweather rfl
    unfold reachedBy
    cases (world.gateway.cache.getLiveEntry (forecastKey location trip.startDate trip.endDate)
      script.reading).1 with
    | some entry => simp
    | none =>
      simp only [reached, List.mem_flatMap, List.mem_map, forall_exists_index, and_imp, ne_eq,
        not_true_eq_false, false_or]
      constructor
      · intro hspared p hp
        exact (sparesAMap_iff trip.startDate trip.endDate hgiven).mp fun called hcalled =>
          hspared _ p hp called hcalled rfl
      · rintro hspares _ p hp called hcalled rfl
        exact (sparesAMap_iff trip.startDate trip.endDate hgiven).mpr (hspares p hp) called hcalled
  | resolveWeatherLocation sessionId script failedAt => exact Iff.rfl
  | persistObservation sessionId risks outcome event eventStatus maxEvents => exact Iff.rfl
  | restart => exact Iff.rfl

end Runs

/-! ## The nodes of the workflow -/

section Nodes

variable {config : LifecycleConfig} {services : LifecycleServices} {state next : LifecycleState}
  {gateway : WeatherToolGateway} {world : WeatherWorld} {sessionId : String}
  {session : PlanSessionRecord}

/-- The node `resolve_weather_location` goes on with the location that the step keeps. -/
theorem located_of_resolveWeatherLocation {script : GatewayScript LocationAnswers}
    (hget : world.sessions.get? sessionId = some session)
    (hservices : services.resolveLocation = fun destination =>
      (gateway.resolveLocation destination script world.gateway).1)
    (h : resolveWeatherLocation config services state session = .ok (.goto next))
    (failedAt : DateTime) :
    (world.locate gateway sessionId script failedAt).located.get? sessionId =
      next.weatherLocation := by
  unfold resolveWeatherLocation at h
  obtain ⟨_, -, h⟩ := bind_eq_ok h
  obtain ⟨_, -, h⟩ := bind_eq_ok h
  obtain ⟨_, -, h⟩ := bind_eq_ok h
  obtain ⟨_, -, h⟩ := bind_eq_ok h
  obtain ⟨_, -, h⟩ := bind_eq_ok h
  obtain ⟨planning, hplanning, h⟩ := bind_eq_ok h
  have htrip : world.trip sessionId = some planning.trip := by
    simp [WeatherWorld.trip, hget, orRaise_eq_ok hplanning]
  dsimp only at h
  unfold WeatherWorld.locate
  rw [hget, htrip]
  dsimp only
  cases hlocation : session.weatherMonitor.location with
  | some location =>
    rw [hlocation] at h
    cases h
    exact Dict.get?_set_self world.located sessionId location
  | none =>
    rw [hlocation] at h
    obtain ⟨result, hresult, h⟩ := bind_eq_ok h
    rw [hservices] at hresult
    dsimp only at hresult
    rw [hresult]
    cases result with
    | success location fetchedAt expiresAt =>
      cases h
      exact Dict.get?_set_self world.located sessionId location
    | failed code safeMessage => cases h

/-- The node `fetch_weather_snapshot` goes on with the snapshot that the step keeps. -/
theorem fetched_of_fetchWeatherSnapshot {script : GatewayScript ForecastAnswers}
    (hget : world.sessions.get? sessionId = some session)
    (hlocated : world.located.get? sessionId = state.weatherLocation)
    (hservices : services.getForecast = fun location startDate endDate =>
      (gateway.getForecast location startDate endDate script world.gateway).1)
    (h : fetchWeatherSnapshot config services state session = .ok (.goto next)) :
    (world.fetch gateway sessionId script services.now).fetched.get? sessionId =
      next.weatherSnapshot := by
  unfold fetchWeatherSnapshot at h
  obtain ⟨_, -, h⟩ := bind_eq_ok h
  obtain ⟨_, -, h⟩ := bind_eq_ok h
  obtain ⟨_, -, h⟩ := bind_eq_ok h
  obtain ⟨planning, hplanning, h⟩ := bind_eq_ok h
  obtain ⟨location, hlocation, h⟩ := bind_eq_ok h
  obtain ⟨result, hresult, h⟩ := bind_eq_ok h
  have htrip : world.trip sessionId = some planning.trip := by
    simp [WeatherWorld.trip, hget, orRaise_eq_ok hplanning]
  rw [hservices] at hresult
  dsimp only at hresult
  unfold WeatherWorld.fetch
  rw [hget, htrip, hlocated, orRaise_eq_ok hlocation]
  dsimp only
  split at h
  · cases h
  · next forecast fetchedAt expiresAt =>
    cases h
    rw [hresult]
    exact Dict.get?_set_self ..

end Nodes

/-! ## A session that refreshes -/

namespace Sample

omit [Platform]

def hangzhou : City := ⟨"杭州", "101210101", "Asia/Shanghai", 12016 / 100, 3029 / 100⟩

/-- A gateway over these providers. -/
def refreshGateway (providers : List WeatherSource) (h : providers ≠ []) : WeatherToolGateway :=
  { chain := ⟨providers, 3, 30, h, usualThreshold_pos, usualRecovery_pos⟩
    one_le_maxAttempts := by decide }

/-- Two sessions, and a gateway that was not used yet. -/
def unrefreshed : WeatherWorld :=
  { gateway :=
      { providers := ⟨fun _ => {}, []⟩
        cache := ⟨256, by decide, ∅, ∅⟩ }
    sessions := Dict.ofList (["s", "t"].map fun sessionId =>
      (sessionId, .created sessionId .active (some (snapshotOf [] [])) none))
    located := ∅, fetched := ∅ }

/-- The providers answer so in every attempt. -/
def answering {β : Type} (answers : β) : GatewayScript β :=
  { reading := 0, loadedAt := 1, fetchedAt := at_ day1 8
    attempts := fun _ => { clock := ⟨at_ day1 8, fun _ => at_ day1 8⟩, answers } }

def timedOut : CallError := .provider (.timeout "weather")

/-- AMap is out of reach while the destination is looked up, and back for the forecast. -/
def foreignSteps : List WeatherStep :=
  [.resolveWeatherLocation "s" (answering ⟨.error timedOut, .ok (.found hangzhou)⟩)
    (at_ day1 8),
   .fetchWeatherSnapshot "s" (answering ⟨.ok [], .error timedOut, .ok []⟩) (at_ day1 8)]

/-- The answers to the two requests for a forecast in `returningSteps`. -/
def returningAnswers : ForecastAnswers := ⟨.ok [], .ok (.found hangzhou), .ok []⟩

/-- QWeather comes first.  It is out of reach while the destination is looked up for one session,
looks it up again, and after a new start it finds the destination for another session. -/
def returningSteps : List WeatherStep :=
  [.resolveWeatherLocation "s"
    (answering ⟨.ok (some [⟨"杭州市", "330100"⟩]), .error timedOut⟩) (at_ day1 8),
   .fetchWeatherSnapshot "s" (answering returningAnswers) (at_ day1 8),
   .restart,
   .resolveWeatherLocation "t"
    (answering ⟨.ok (some [⟨"杭州市", "330100"⟩]), .ok (.found hangzhou)⟩) (at_ day1 8),
   .fetchWeatherSnapshot "t" (answering returningAnswers) (at_ day1 8)]

theorem unrefreshed_spec : Unrefreshed unrefreshed := by
  have hsession {sessionId : String} {session : PlanSessionRecord}
      (hget : unrefreshed.sessions.get? sessionId = some session) :
      ∃ id, session = .created id .active (some (snapshotOf [] [])) none := by
    obtain ⟨id, -, heq⟩ := List.mem_map.mp (Dict.mem_of_get?_ofList hget)
    exact ⟨id, (Prod.mk.inj heq).2.symm⟩
  refine ⟨rfl, rfl, rfl, rfl, fun sessionId session hget => ?_, fun sessionId session hget => ?_⟩
  · obtain ⟨id, rfl⟩ := hsession hget
    rfl
  · obtain ⟨id, rfl⟩ := hsession hget
    rfl

end Sample

omit [Platform] in
/-- QWeather looks up again what AMap resolved, and what it resolved itself is not sent to AMap. -/
theorem unmixed_iff_returning :
    let := plainPlatform
    let gateway := Sample.refreshGateway [.qweather, .amap] (by simp)
    (Sample.unrefreshed.refreshAll gateway Sample.returningSteps).calls =
      [.resolved .amap "杭州" ⟨"杭州市", "330100", "Asia/Shanghai", "amap", none, none⟩,
       .resolved .qweather "杭州市" (QWeatherProvider.City.location Sample.hangzhou),
       .requested .qweather (QWeatherProvider.City.location Sample.hangzhou),
       .resolved .qweather "杭州" (QWeatherProvider.City.location Sample.hangzhou),
       .requested .qweather (QWeatherProvider.City.location Sample.hangzhou)] ∧
    ∀ k, Unmixed (Sample.unrefreshed.refreshAll gateway (Sample.returningSteps.take k)) := by
  intro platform gateway
  have hcalls : (Sample.unrefreshed.refreshAll gateway Sample.returningSteps).calls =
      [.resolved .amap "杭州" ⟨"杭州市", "330100", "Asia/Shanghai", "amap", none, none⟩,
       .resolved .qweather "杭州市" (QWeatherProvider.City.location Sample.hangzhou),
       .requested .qweather (QWeatherProvider.City.location Sample.hangzhou),
       .resolved .qweather "杭州" (QWeatherProvider.City.location Sample.hangzhou),
       .requested .qweather (QWeatherProvider.City.location Sample.hangzhou)] := by
    decide +kernel
  have hreached : ∀ p ∈ [(1, "s"), (4, "t")],
      ∀ trip ∈ (Sample.unrefreshed.refreshAll gateway (Sample.returningSteps.take p.1)).trip p.2,
      ∀ location ∈ (Sample.unrefreshed.refreshAll gateway
        (Sample.returningSteps.take p.1)).located.get? p.2,
      (gateway.reachedBy "weather.get_forecast"
        (forecastCall location trip.startDate trip.endDate)
        (forecastKey location trip.startDate trip.endDate)
        (Sample.answering Sample.returningAnswers)
        (Sample.unrefreshed.refreshAll gateway (Sample.returningSteps.take p.1)).gateway).map
          (fun q => q.2.1) = [.qweather] := by
    decide +kernel
  have hcareful {k : ℕ} {sessionId : String} (hmem : (k, sessionId) ∈ [(1, "s"), (4, "t")])
      (failedAt : DateTime) : Careful gateway
        (Sample.unrefreshed.refreshAll gateway (Sample.returningSteps.take k))
        (.fetchWeatherSnapshot sessionId (Sample.answering Sample.returningAnswers) failedAt) := by
    intro session trip location _ htrip hlocation _ q hq
    have hsource := List.mem_map_of_mem (f := fun q => q.2.1) hq
    rw [hreached _ hmem trip htrip location hlocation] at hsource
    rw [List.mem_singleton.mp hsource]
    decide
  refine ⟨hcalls, (unmixed_iff Sample.unrefreshed_spec fun text location text' location' hmem hmem'
    => ?_).mpr fun k step hstep => ?_⟩
  · rw [hcalls] at hmem hmem'
    simp only [List.mem_cons, WeatherCall.resolved.injEq, reduceCtorEq, List.not_mem_nil, or_false,
      false_and, true_and, false_or] at hmem hmem'
    rw [hmem.2]
    obtain ⟨-, rfl⟩ | ⟨-, rfl⟩ := hmem' <;> decide
  · match k with
    | 0 | 2 | 3 =>
      obtain rfl := Option.some.inj hstep
      trivial
    | 1 =>
      obtain rfl := Option.some.inj hstep
      exact hcareful (by decide) _
    | 4 =>
      obtain rfl := Option.some.inj hstep
      exact hcareful (by decide) _
    | k + 5 => simp [Sample.returningSteps] at hstep

omit [Platform] in
/-- QWeather resolved the destination, and AMap is sent its id. -/
theorem exists_mixed :
    let := plainPlatform
    let gateway := Sample.refreshGateway [.amap, .qweather] (by simp)
    Unrefreshed Sample.unrefreshed ∧
      ¬ Unmixed (Sample.unrefreshed.refreshAll gateway Sample.foreignSteps) := by
  intro platform gateway
  refine ⟨Sample.unrefreshed_spec, fun hunmixed => ?_⟩
  have hcalls : (Sample.unrefreshed.refreshAll gateway Sample.foreignSteps).calls =
      [.resolved .qweather "杭州" (QWeatherProvider.City.location Sample.hangzhou)] ++
        .requested .amap (QWeatherProvider.City.location Sample.hangzhou) :: [] := by
    decide +kernel
  obtain ⟨text, own, hmem, -⟩ := hunmixed.sent _ _ _ hcalls
  simp at hmem

end TravelPlanAgent
