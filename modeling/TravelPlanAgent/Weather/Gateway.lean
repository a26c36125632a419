import TravelPlanAgent.Tools.Cache
import TravelPlanAgent.Weather.Providers

/-!
# The weather gateway

The gateway asks a chain of providers, several times when the errors allow it, and keeps what it
was told for a while: the location of a destination, and the forecast of a code and some days.

* `oneAttempt`, `retryCalls`: `RetryPolicy.execute` over calls of the chain.
* `reached`: the calls of single providers that are made on the way.
* `getOrLoad`: a result from the cache, or from the chain.
* `resolveLocation`, `getForecast`: the two operations of the gateway.
* `getOrLoad_rule`: what is cached and returned is sound when the calls that are made are.
-/

namespace TravelPlanAgent

open Calendar Attempts

/-! ## Values -/

/-- The keys of the cache. -/
inductive WeatherKey where
  | location (destination : String)
  | forecast (adcode : String) (startDate endDate : Date)
  deriving DecidableEq

inductive WeatherData where
  | location (location : WeatherLocation)
  | forecast (forecast : WeatherForecast)

/-- One attempt: what is raised before the providers are called, the clock, and the answers. -/
structure Attempt (β : Type) where
  before : Option CallError := none
  clock : ChainClock
  answers : β

/-- What the gateway meets in one call. -/
structure GatewayScript (β : Type) where
  reading : ℚ
  loadedAt : ℚ
  fetchedAt : DateTime
  attempts : ℕ → Attempt β

/-- What the providers answer when they look up a place. -/
structure LocationAnswers where
  amap : Except CallError (Option (List District))
  qweather : Except CallError CityAnswer

/-- What the providers answer when they are asked for a forecast. -/
structure ForecastAnswers where
  amap : Except CallError (List DailyWeather)
  lookup : Except CallError CityAnswer
  qweather : Except CallError (List DailyWeather)

structure WeatherToolGateway where
  chain : ProviderChain WeatherSource
  maxAttempts : ℕ := 3
  locationTtlSeconds : ℕ := 86400
  forecastTtlSeconds : ℕ := 1800
  one_le_maxAttempts : 1 ≤ maxAttempts

structure GatewayState where
  providers : ProviderState
  cache : AsyncTTLCache WeatherKey (ToolResult WeatherData) ℚ

/-- The call of one provider, given what it answers. -/
abbrev ProviderCall (α β : Type) : Type :=
  β → WeatherSource → ProviderState → Except CallError α × ProviderState

namespace WeatherToolGateway

/-! ## Retries -/

section Retries

variable {α β : Type} (gateway : WeatherToolGateway) (operation : String)
  (call : ProviderCall α β) (attempts : ℕ → Attempt β)

/-- `TimeoutError` becomes an error of the provider. -/
def onTimeout : Except CallError α → Except CallError α
  | .error .timeout => .error (.provider (.timeout operation))
  | outcome => outcome

/-- `one_attempt`. -/
def oneAttempt (index : ℕ) (state : ProviderState) : Except CallError α × ProviderState :=
  match (attempts index).before with
  | some error => (onTimeout operation (.error error), state)
  | none =>
    let (outcome, state) :=
      gateway.chain.execute (call (attempts index).answers) (attempts index).clock state
    (onTimeout operation outcome, state)

/-- An error after which `RetryPolicy.execute` tries again. -/
def retryable : Except CallError α → Bool
  | .error (.provider error) => error.retryable
  | _ => false

/-- `RetryPolicy.execute`. -/
def retryCalls (state : ProviderState) : Except CallError α × ProviderState :=
  attemptAll (gateway.oneAttempt operation call attempts) retryable 0
    (List.range' 1 (gateway.maxAttempts - 1)) state

/-- The calls of single providers in one attempt, with the states that they find. -/
def calledIn (index : ℕ) (state : ProviderState) : List (WeatherSource × ProviderState) :=
  match (attempts index).before with
  | some _ => []
  | none => gateway.chain.called (call (attempts index).answers) (attempts index).clock state

/-- The calls of single providers in all attempts that are made. -/
def reached (state : ProviderState) : List (ℕ × WeatherSource × ProviderState) :=
  (made (gateway.oneAttempt operation call attempts) retryable 0
    (List.range' 1 (gateway.maxAttempts - 1)) state).flatMap fun p =>
      (gateway.calledIn call attempts p.1 p.2).map (Prod.mk p.1)

variable {gateway operation call attempts} {state : ProviderState}

theorem onTimeout_eq_ok {outcome : Except CallError α} {result : α} :
    onTimeout operation outcome = .ok result ↔ outcome = .ok result := by
  rcases outcome with error | value
  · cases error <;> simp [onTimeout]
  · exact Iff.rfl

variable (operation) in
/-- An attempt keeps what its calls keep. -/
theorem oneAttempt_rule (Inv : List WeatherCall → Prop)
    (Post : α → List WeatherCall → Prop) {index : ℕ} (hinv : Inv state.calls)
    (hcall : ∀ p ∈ gateway.calledIn call attempts index state, Inv p.2.calls →
      Inv (call (attempts index).answers p.1 p.2).2.calls ∧
        ∀ result, (call (attempts index).answers p.1 p.2).1 = .ok result →
          Post result (call (attempts index).answers p.1 p.2).2.calls) :
    Inv (gateway.oneAttempt operation call attempts index state).2.calls ∧
      ∀ result, (gateway.oneAttempt operation call attempts index state).1 = .ok result →
        Post result (gateway.oneAttempt operation call attempts index state).2.calls := by
  unfold oneAttempt
  unfold calledIn at hcall
  cases hbefore : (attempts index).before with
  | some error =>
    refine ⟨hinv, fun result hresult => ?_⟩
    cases onTimeout_eq_ok.mp hresult
  | none =>
    rw [hbefore] at hcall
    obtain ⟨hkept, hpost⟩ := ProviderChain.execute_rule Inv Post hinv hcall
    exact ⟨hkept, fun result hresult => hpost result (onTimeout_eq_ok.mp hresult)⟩

variable (operation) in
/-- The retries keep what the calls that are made keep. -/
theorem retryCalls_rule (Inv : List WeatherCall → Prop) (Post : α → List WeatherCall → Prop)
    (hinv : Inv state.calls)
    (hcall : ∀ q ∈ gateway.reached operation call attempts state, Inv q.2.2.calls →
      Inv (call (attempts q.1).answers q.2.1 q.2.2).2.calls ∧
        ∀ result, (call (attempts q.1).answers q.2.1 q.2.2).1 = .ok result →
          Post result (call (attempts q.1).answers q.2.1 q.2.2).2.calls) :
    Inv (gateway.retryCalls operation call attempts state).2.calls ∧
      ∀ result, (gateway.retryCalls operation call attempts state).1 = .ok result →
        Post result (gateway.retryCalls operation call attempts state).2.calls := by
  let Kept (state : ProviderState) : Prop := Inv state.calls
  let Ensured (outcome : Except CallError α) (state : ProviderState) : Prop :=
    ∀ result, outcome = .ok result → Post result state.calls
  refine attemptAll_rule Kept Ensured hinv fun p hp hstate => ?_
  refine oneAttempt_rule operation Inv Post hstate fun q hq => ?_
  exact hcall (p.1, q) (List.mem_flatMap.mpr ⟨p, hp, List.mem_map.mpr ⟨q, hq, rfl⟩⟩)

/-- An attempt records its calls. -/
theorem oneAttempt_calls
    (hcall : ∀ answers source state, state.calls <+: (call answers source state).2.calls)
    (index : ℕ) (state : ProviderState) :
    state.calls <+: (gateway.oneAttempt operation call attempts index state).2.calls ∧
      ∀ p ∈ gateway.calledIn call attempts index state,
        (call (attempts index).answers p.1 p.2).2.calls <+:
          (gateway.oneAttempt operation call attempts index state).2.calls := by
  unfold oneAttempt calledIn
  cases hbefore : (attempts index).before with
  | some error =>
    exact ⟨List.prefix_refl _, fun p hp => absurd hp List.not_mem_nil⟩
  | none => exact ProviderChain.execute_calls (hcall (attempts index).answers)

/-- All calls that are made are recorded. -/
theorem retryCalls_calls
    (hcall : ∀ answers source state, state.calls <+: (call answers source state).2.calls) :
    state.calls <+: (gateway.retryCalls operation call attempts state).2.calls ∧
      ∀ q ∈ gateway.reached operation call attempts state,
        (call (attempts q.1).answers q.2.1 q.2.2).2.calls <+:
          (gateway.retryCalls operation call attempts state).2.calls := by
  obtain ⟨hstate, hmade⟩ := attemptAll_extends (gateway.oneAttempt operation call attempts)
    retryable (fun s t => s.calls <+: t.calls) (fun _ => List.prefix_refl _)
    (fun _ _ _ => List.IsPrefix.trans) (fun index state => (oneAttempt_calls hcall index state).1)
    0 (List.range' 1 (gateway.maxAttempts - 1)) state
  refine ⟨hstate, fun q hq => ?_⟩
  obtain ⟨p, hp, hmap⟩ := List.mem_flatMap.mp hq
  obtain ⟨called, hcalled, rfl⟩ := List.mem_map.mp hmap
  exact ((oneAttempt_calls hcall p.1 p.2).2 called hcalled).trans (hmade p hp)

end Retries

/-! ## The cache -/

section Cache

variable {α β : Type} (gateway : WeatherToolGateway) (operation : String)
  (call : ProviderCall α β) (key : WeatherKey) (ttlSeconds : ℕ) (wrap : α → WeatherData)
  (script : GatewayScript β) (state : GatewayState)

/-- What a load returns. -/
def loaded : Except CallError α → Result (ToolResult WeatherData)
  | .ok value => .ok (.success (wrap value) (some script.fetchedAt)
      (some (addSeconds script.fetchedAt ttlSeconds)))
  | .error (.provider error) => .ok (.failed error.code error.safeMessage)
  | .error (.raised failure) => .error failure
  | .error .timeout => .error .assertionError

/-- `should_cache`. -/
def isSuccess : ToolResult WeatherData → Bool
  | .success .. => true
  | .failed .. => false

/-- The end of a load. -/
def stored (cache : AsyncTTLCache WeatherKey (ToolResult WeatherData) ℚ)
    (outcome : Except CallError α) :
    Result (CacheLookup (ToolResult WeatherData) ℚ × Bool) ×
      AsyncTTLCache WeatherKey (ToolResult WeatherData) ℚ :=
  cache.loadAndCache 0 ⟨key, ttlSeconds, fun result => .ok (isSuccess result)⟩
    (loaded ttlSeconds wrap script outcome) script.loadedAt

/-- `_execute`, while no other call loads the key. -/
def getOrLoad : Result (ToolResult WeatherData) × GatewayState :=
  match state.cache.getLiveEntry key script.reading with
  | (some entry, cache) => (.ok entry.value, { state with cache })
  | (none, cache) =>
    let (outcome, providers) :=
      gateway.retryCalls operation call script.attempts state.providers
    let (lookup, cache) := stored key ttlSeconds wrap script cache outcome
    (lookup.map fun found => found.1.value, ⟨providers, cache⟩)

/-- The calls of single providers that it makes. -/
def reachedBy : List (ℕ × WeatherSource × ProviderState) :=
  match (state.cache.getLiveEntry key script.reading).1 with
  | some _ => []
  | none => gateway.reached operation call script.attempts state.providers

/-- `Sound` holds of all data in the cache. -/
def Cached (Sound : List WeatherCall → WeatherKey → WeatherData → Prop)
    (state : GatewayState) : Prop :=
  ∀ key entry data fetchedAt expiresAt, state.cache.entries.get? key = some entry →
    entry.value = .success data fetchedAt expiresAt → Sound state.providers.calls key data

variable {gateway operation call key ttlSeconds wrap script state}

omit state in
theorem loaded_eq_success {outcome : Except CallError α} {data : WeatherData}
    {fetchedAt expiresAt : Option DateTime}
    (h : loaded ttlSeconds wrap script outcome = .ok (.success data fetchedAt expiresAt)) :
    ∃ value, outcome = .ok value ∧ data = wrap value := by
  rcases outcome with error | value
  · cases error <;> cases h
  · cases h
    exact ⟨value, rfl, rfl⟩

/-- A lookup adds nothing to the cache. -/
theorem get?_getLiveEntry {cache : AsyncTTLCache WeatherKey (ToolResult WeatherData) ℚ}
    {reading : ℚ} {other : WeatherKey} {entry : CacheEntry (ToolResult WeatherData) ℚ}
    (h : (cache.getLiveEntry key reading).2.entries.get? other = some entry) :
    cache.entries.get? other = some entry := by
  unfold AsyncTTLCache.getLiveEntry at h
  split at h
  · exact h
  · split at h
    · exact h
    · rw [Dict.get?_erase] at h
      split at h
      · cases h
      · exact h

/-- An entry that a lookup finds is in the cache. -/
theorem get?_of_getLiveEntry {cache : AsyncTTLCache WeatherKey (ToolResult WeatherData) ℚ}
    {reading : ℚ} {entry : CacheEntry (ToolResult WeatherData) ℚ}
    (h : (cache.getLiveEntry key reading).1 = some entry) :
    cache.entries.get? key = some entry := by
  unfold AsyncTTLCache.getLiveEntry at h
  split at h
  · cases h
  · next found hfound =>
    split at h
    · cases h
      exact hfound
    · cases h

variable (gateway operation call key ttlSeconds wrap script state) in
/-- The cache and the result are sound when the calls that are made ensure it. -/
theorem getOrLoad_rule (Inv : List WeatherCall → Prop)
    (Sound : List WeatherCall → WeatherKey → WeatherData → Prop)
    (hsound : ∀ calls, Inv calls → ∀ key data, Sound state.providers.calls key data →
      Sound calls key data)
    (hinv : Inv state.providers.calls) (hcached : Cached Sound state)
    (hcall : ∀ q ∈ gateway.reachedBy operation call key script state, Inv q.2.2.calls →
      Inv (call (script.attempts q.1).answers q.2.1 q.2.2).2.calls ∧
        ∀ value, (call (script.attempts q.1).answers q.2.1 q.2.2).1 = .ok value →
          Sound (call (script.attempts q.1).answers q.2.1 q.2.2).2.calls key (wrap value)) :
    let answer := gateway.getOrLoad operation call key ttlSeconds wrap script state
    Inv answer.2.providers.calls ∧ Cached Sound answer.2 ∧
      ∀ data fetchedAt expiresAt, answer.1 = .ok (.success data fetchedAt expiresAt) →
        Sound answer.2.providers.calls key data := by
  intro answer
  have heq : answer = gateway.getOrLoad operation call key ttlSeconds wrap script state := rfl
  unfold getOrLoad at heq
  unfold reachedBy at hcall
  rcases hlive : state.cache.getLiveEntry key script.reading with ⟨_ | entry, cache⟩
  all_goals
    have hcache : cache = (state.cache.getLiveEntry key script.reading).2 := by rw [hlive]
  · rw [hlive] at heq hcall
    obtain ⟨hkept, hpost⟩ := retryCalls_rule operation Inv
      (fun value calls => Sound calls key (wrap value)) hinv hcall
    have hload {lookup : CacheLookup (ToolResult WeatherData) ℚ} {flag : Bool}
        {data : WeatherData} {fetchedAt expiresAt : Option DateTime}
        (hok : (stored key ttlSeconds wrap script cache
          (gateway.retryCalls operation call script.attempts state.providers).1).1 =
            .ok (lookup, flag))
        (hvalue : lookup.value = .success data fetchedAt expiresAt) :
        Sound (gateway.retryCalls operation call script.attempts state.providers).2.calls key
          data := by
      have houtcome := AsyncTTLCache.outcome_of_loadAndCache hok
      rw [hvalue] at houtcome
      obtain ⟨value, hretried, rfl⟩ := loaded_eq_success houtcome
      exact hpost value hretried
    rw [heq]
    refine ⟨hkept, fun other entry data fetchedAt expiresAt hentry hvalue => ?_,
      fun data fetchedAt expiresAt hresult => ?_⟩
    · obtain ⟨rfl, hlookup⟩ | ⟨hbefore, -⟩ := AsyncTTLCache.get?_loadAndCache hentry
      · exact hload hlookup hvalue
      · have hstored := get?_getLiveEntry (hcache ▸ hbefore)
        exact hsound _ hkept _ _ (hcached _ _ _ _ _ hstored hvalue)
    · rcases hfound : (stored key ttlSeconds wrap script cache
        (gateway.retryCalls operation call script.attempts state.providers).1).1
        with failure | ⟨lookup, flag⟩
      · dsimp only at hresult
        rw [hfound] at hresult
        cases hresult
      · dsimp only at hresult
        rw [hfound] at hresult
        exact hload hfound (Except.ok.inj hresult)
  · have hstored := get?_of_getLiveEntry (congrArg Prod.fst hlive)
    rw [hlive] at heq
    rw [heq]
    refine ⟨hinv, fun other entry data fetchedAt expiresAt hentry hvalue => ?_,
      fun data fetchedAt expiresAt hresult => ?_⟩
    · exact hcached _ _ _ _ _ (get?_getLiveEntry (hcache ▸ hentry)) hvalue
    · exact hcached _ _ _ _ _ hstored (Except.ok.inj hresult)

end Cache

/-! ## The operations -/

section Operations

variable [Platform] (gateway : WeatherToolGateway)

/-- `resolve_location` of a provider. -/
def resolveCall (destination : String) : ProviderCall WeatherLocation LocationAnswers :=
  fun answers source => match source with
    | .amap => AMapWeatherProvider.resolveLocation destination answers.amap
    | .qweather => QWeatherProvider.resolveLocation destination answers.qweather

/-- `get_forecast` of a provider. -/
def forecastCall (location : WeatherLocation) (startDate endDate : Date) :
    ProviderCall WeatherForecast ForecastAnswers :=
  fun answers source => match source with
    | .amap => AMapWeatherProvider.getForecast location startDate endDate answers.amap
    | .qweather =>
      QWeatherProvider.getForecast location startDate endDate answers.lookup answers.qweather

def asLocation : ToolResult WeatherData → Result (ToolResult WeatherLocation)
  | .success (.location location) fetchedAt expiresAt =>
    .ok (.success location fetchedAt expiresAt)
  | .success (.forecast _) _ _ => .error .typeError
  | .failed code safeMessage => .ok (.failed code safeMessage)

def asForecast : ToolResult WeatherData → Result (ToolResult WeatherForecast)
  | .success (.forecast forecast) fetchedAt expiresAt =>
    .ok (.success forecast fetchedAt expiresAt)
  | .success (.location _) _ _ => .error .typeError
  | .failed code safeMessage => .ok (.failed code safeMessage)

/-- `resolve_location`. -/
def resolveLocation (destination : String) (script : GatewayScript LocationAnswers)
    (state : GatewayState) : Result (ToolResult WeatherLocation) × GatewayState :=
  let (answer, state) := gateway.getOrLoad "weather.resolve_location" (resolveCall destination)
    (.location (normalize destination)) gateway.locationTtlSeconds .location script state
  (answer >>= asLocation, state)

/-- The key of a forecast. -/
def forecastKey (location : WeatherLocation) (startDate endDate : Date) : WeatherKey :=
  .forecast location.adcode startDate endDate

/-- `get_forecast`. -/
def getForecast (location : WeatherLocation) (startDate endDate : Date)
    (script : GatewayScript ForecastAnswers) (state : GatewayState) :
    Result (ToolResult WeatherForecast) × GatewayState :=
  let (answer, state) := gateway.getOrLoad "weather.get_forecast"
    (forecastCall location startDate endDate) (forecastKey location startDate endDate)
    gateway.forecastTtlSeconds .forecast script state
  (answer >>= asForecast, state)

end Operations

end WeatherToolGateway

end TravelPlanAgent
