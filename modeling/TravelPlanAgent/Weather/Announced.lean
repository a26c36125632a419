import TravelPlanAgent.Weather.Recorded

/-!
# Risks that an event tells

A refresh compares a forecast with the one before it.  A day that the earlier forecast did not
cover is not compared, so its risk is told only when there was no earlier forecast at all.

* `ChangeEvent.Lists`: an event names a day with the fingerprint of its risk.
* `lists_deriveChangeEvent_iff`: the days that a derived event names.
* `NoneMissed`, `Told`: every day at risk was named by some event.
* `Covers`: what a forecast has to meet so that nothing is missed.
* `noneMissed_derived_iff`: one refresh misses nothing exactly when its forecast meets it.
* `storedRisks`: what the next refresh compares with.
-/

namespace TravelPlanAgent

open Calendar Selection

variable [Platform]

/-! ## What an event names -/

/-- The event names the date, with this fingerprint as the one after the change. -/
def ChangeEvent.Lists (event : ChangeEvent) (date : Date) (fingerprint : String) : Prop :=
  (date, fingerprint) ∈ event.affectedDates.zip event.afterRiskFingerprints

instance (event : ChangeEvent) (date : Date) (fingerprint : String) :
    Decidable (event.Lists date fingerprint) :=
  inferInstanceAs (Decidable (_ ∈ _))

/-- Some event names the date with this fingerprint. -/
def Announced (events : List ChangeEvent) (date : Date) (fingerprint : String) : Prop :=
  ∃ event ∈ events, event.Lists date fingerprint

omit [Platform] in
/-- A risk is found on its own date. -/
theorem riskOn_mem {risks : List DailyWeatherRisk} {date : Date} {risk : DailyWeatherRisk}
    (h : riskOn risks date = some risk) : risk ∈ risks :=
  mem_of_lastWith h

section Derived

variable {sessionId baseVersionId : String} {snapshot : WeatherSnapshot}
  {current previousRisks : List DailyWeatherRisk} {previous : Option WeatherSnapshot}
  {tripDates : List Date} {now : DateTime} {event : ChangeEvent} {date : Date}
  {fingerprint : String}

/-- The days that a refresh finds changed. -/
def changesOf (current previousRisks : List DailyWeatherRisk) (previous : Option WeatherSnapshot)
    (tripDates : List Date) : List RiskChange :=
  match previous with
  | none => firstChanges current tripDates
  | some _ => laterChanges current previousRisks tripDates

/-- A day changes when it is at risk and there was no earlier forecast, or when an earlier one
had another fingerprint for it. -/
def Changed (current previousRisks : List DailyWeatherRisk) (previous : Option WeatherSnapshot)
    (date : Date) (fingerprint : String) : Prop :=
  ∃ risk, riskOn current date = some risk ∧ risk.riskFingerprint = fingerprint ∧
    match previous with
    | none => risk.level ≠ .normal
    | some _ => ∃ before, riskOn previousRisks date = some before ∧
        risk.riskFingerprint ≠ before.riskFingerprint

omit [Platform] in
theorem mem_changesOf_iff :
    (date, fingerprint) ∈ (changesOf current previousRisks previous tripDates).map
        (fun change => (change.date, change.after)) ↔
      date ∈ tripDates ∧ Changed current previousRisks previous date fingerprint := by
  rw [List.mem_map]
  cases previous with
  | none =>
    constructor
    · rintro ⟨change, hchange, heq⟩
      obtain ⟨day, hday, hsome⟩ := List.mem_filterMap.mp hchange
      obtain ⟨risk, hrisk, hsome⟩ := Option.bind_eq_some_iff.mp hsome
      split at hsome
      · cases hsome
      · next hlevel =>
        cases hsome
        cases heq
        exact ⟨hday, risk, hrisk, rfl, hlevel⟩
    · rintro ⟨hdate, risk, hrisk, rfl, hlevel⟩
      refine ⟨⟨date, "missing", risk.riskFingerprint, risk.level⟩,
        List.mem_filterMap.mpr ⟨date, hdate, ?_⟩, rfl⟩
      exact Option.bind_eq_some_iff.mpr ⟨risk, hrisk, if_neg hlevel⟩
  | some earlier =>
    constructor
    · rintro ⟨change, hchange, heq⟩
      obtain ⟨day, hday, hsome⟩ := List.mem_filterMap.mp hchange
      obtain ⟨risk, hrisk, hsome⟩ := Option.bind_eq_some_iff.mp hsome
      obtain ⟨before, hbefore, hsome⟩ := Option.bind_eq_some_iff.mp hsome
      split at hsome
      · cases hsome
      · next hne =>
        cases hsome
        cases heq
        exact ⟨hday, risk, hrisk, rfl, before, hbefore, hne⟩
    · rintro ⟨hdate, risk, hrisk, rfl, before, hbefore, hne⟩
      refine ⟨⟨date, before.riskFingerprint, risk.riskFingerprint, risk.level⟩,
        List.mem_filterMap.mpr ⟨date, hdate, ?_⟩, rfl⟩
      refine Option.bind_eq_some_iff.mpr ⟨risk, hrisk, ?_⟩
      exact Option.bind_eq_some_iff.mpr ⟨before, hbefore, if_neg hne⟩

/-- A refresh names the days that it finds changed. -/
theorem announced_deriveChangeEvent_iff :
    Announced (deriveChangeEvent sessionId baseVersionId snapshot current previous previousRisks
        tripDates now).toList date fingerprint ↔
      date ∈ tripDates ∧ Changed current previousRisks previous date fingerprint := by
  rw [← mem_changesOf_iff]
  have hzip (changes : List RiskChange) :
      (changes.map RiskChange.date).zip (changes.map RiskChange.after) =
        changes.map fun change => (change.date, change.after) := List.zip_map' ..
  unfold deriveChangeEvent Announced
  dsimp only
  change (∃ event ∈ (if (changesOf current previousRisks previous tripDates).isEmpty = true
    then none else some _ : Option ChangeEvent).toList, _) ↔ _
  split
  · next hempty =>
    rw [List.isEmpty_iff.mp hempty]
    exact iff_of_false (fun ⟨event, hevent, _⟩ => by cases hevent) List.not_mem_nil
  · rw [← hzip]
    constructor
    · rintro ⟨event, hevent, hlists⟩
      obtain rfl := List.mem_singleton.mp hevent
      exact hlists
    · exact fun hmem => ⟨_, List.mem_singleton_self _, hmem⟩

end Derived

/-! ## Nothing is missed -/

/-- Every trip date at risk was named with the risk that it has. -/
def NoneMissed (events : List ChangeEvent) (tripDates : List Date)
    (risks : List DailyWeatherRisk) : Prop :=
  ∀ date ∈ tripDates, ∀ risk, riskOn risks date = some risk → risk.level ≠ .normal →
    Announced events date risk.riskFingerprint

/-- The risks were classified from a forecast. -/
def Classified (risks : List DailyWeatherRisk) : Prop :=
  ∀ risk ∈ risks, ∃ day, risk = classifyDailyWeather day

/-- No two risks of different levels have the same fingerprint. -/
def FingerprintsTellLevels : Prop :=
  ∀ a b : DailyWeather,
    (classifyDailyWeather a).riskFingerprint = (classifyDailyWeather b).riskFingerprint →
      (classifyDailyWeather a).level = (classifyDailyWeather b).level

/-- Every trip date that a forecast puts at risk was covered by the forecast before it, unless
there was none or the risk was named already. -/
def Covers (events : List ChangeEvent) (tripDates : List Date)
    (current previousRisks : List DailyWeatherRisk) (previous : Option WeatherSnapshot) : Prop :=
  ∀ date ∈ tripDates, ∀ risk, riskOn current date = some risk → risk.level ≠ .normal →
    previous = none ∨ (riskOn previousRisks date).isSome = true ∨
      Announced events date risk.riskFingerprint

omit [Platform] in
theorem announced_append {events more : List ChangeEvent} {date : Date} {fingerprint : String} :
    Announced (events ++ more) date fingerprint ↔
      Announced events date fingerprint ∨ Announced more date fingerprint := by
  unfold Announced
  simp only [List.mem_append, or_and_right, exists_or]

omit [Platform] in
theorem NoneMissed.append {events : List ChangeEvent} {tripDates : List Date}
    {risks : List DailyWeatherRisk} (h : NoneMissed events tripDates risks)
    (more : List ChangeEvent) : NoneMissed (events ++ more) tripDates risks :=
  fun date hdate risk hrisk hlevel => announced_append.mpr (.inl (h date hdate risk hrisk hlevel))

theorem classified_classifyForecast (days : List DailyWeather) :
    Classified (classifyForecast days) := by
  intro risk hmem
  obtain ⟨day, -, rfl⟩ := List.mem_map.mp hmem
  exact ⟨day, rfl⟩

/-- What was stored misses nothing, so a forecast misses nothing exactly when it covers. -/
theorem noneMissed_derived_iff (htell : FingerprintsTellLevels) {events : List ChangeEvent}
    {sessionId baseVersionId : String} {snapshot : WeatherSnapshot}
    {current previousRisks : List DailyWeatherRisk} {previous : Option WeatherSnapshot}
    {tripDates : List Date} {now : DateTime} (hcurrent : Classified current)
    (hclassified : Classified previousRisks)
    (hprevious : NoneMissed events tripDates previousRisks) :
    NoneMissed (events ++ (deriveChangeEvent sessionId baseVersionId snapshot current previous
        previousRisks tripDates now).toList) tripDates current ↔
      Covers events tripDates current previousRisks previous := by
  constructor
  · intro hnone date hdate risk hrisk hlevel
    rcases announced_append.mp (hnone date hdate risk hrisk hlevel) with hearlier | hnew
    · exact .inr (.inr hearlier)
    · obtain ⟨-, risk', -, -, hchanged⟩ := announced_deriveChangeEvent_iff.mp hnew
      cases previous with
      | none => exact .inl rfl
      | some earlier =>
        obtain ⟨before, hbefore, -⟩ := hchanged
        exact .inr (.inl (by rw [hbefore]; rfl))
  · intro hcovers date hdate risk hrisk hlevel
    rw [announced_append, announced_deriveChangeEvent_iff]
    rcases hcovers date hdate risk hrisk hlevel with rfl | hcovered | hearlier
    · exact .inr ⟨hdate, risk, hrisk, rfl, hlevel⟩
    · cases previous with
      | none => exact .inr ⟨hdate, risk, hrisk, rfl, hlevel⟩
      | some earlier =>
        obtain ⟨before, hbefore⟩ := Option.isSome_iff_exists.mp hcovered
        by_cases hsame : risk.riskFingerprint = before.riskFingerprint
        · -- The risk did not change, so what named it before names it now.
          obtain ⟨day, hday⟩ := hcurrent risk (riskOn_mem hrisk)
          obtain ⟨earlierDay, hearlierDay⟩ := hclassified before (riskOn_mem hbefore)
          have hlevels : risk.level = before.level := by
            rw [hday, hearlierDay] at hsame ⊢
            exact htell day earlierDay hsame
          left
          rw [hsame]
          exact hprevious date hdate before hbefore (hlevels ▸ hlevel)
        · exact .inr ⟨hdate, risk, hrisk, rfl, before, hbefore, hsame⟩
    · exact .inl hearlier

/-! ## What is compared with -/

/-- The snapshot that the next refresh compares with. -/
def storedSnapshot (session : PlanSessionRecord) : Option WeatherSnapshot :=
  session.weatherMonitor.latestSnapshotId.bind session.weatherSnapshots.get?

/-- The risks that the next refresh compares with. -/
def storedRisks (session : PlanSessionRecord) : List DailyWeatherRisk :=
  ((storedSnapshot session).bind fun snapshot =>
    session.weatherRisks.get? snapshot.snapshotId).getD []

omit [Platform] in
/-- The snapshot that a refresh stores is compared with next, unless pruning forgets it. -/
theorem storedRisks_observation (before : PlanSessionRecord) (snapshot : WeatherSnapshot)
    (risks : List DailyWeatherRisk) (outcome : WeatherRefreshOutcome) (event : Option ChangeEvent)
    (status : Option WeatherEventStatus) (maxEvents : ℕ) :
    let observed := persistWeatherObservation before snapshot risks outcome event status maxEvents
    storedRisks observed = risks ∨ storedRisks observed = [] := by
  obtain ⟨hsnapshots, hrisks, hlatest, -⟩ :=
    observation_storeSnapshot before snapshot risks outcome event status maxEvents
  dsimp only at hsnapshots hrisks hlatest ⊢
  by_cases hkept : SnapshotKept before snapshot
  · obtain ⟨hsnapshot, hstored⟩ :=
      (snapshot_observation_iff before snapshot risks outcome event status maxEvents).mpr hkept
    left
    rw [storedRisks, storedSnapshot, hlatest, Option.bind_some, hsnapshot, Option.bind_some,
      hstored]
    rfl
  · right
    have hforgotten : (persistWeatherObservation before snapshot risks outcome event status
        maxEvents).weatherSnapshots.get? snapshot.snapshotId = none := by
      rw [hsnapshots]
      change ((before.weatherSnapshots.set snapshot.snapshotId snapshot).filterKeys
        (fun key => decide (key ∈ keptSnapshotIds before snapshot))).get? snapshot.snapshotId = none
      have hfiltered : snapshot.snapshotId ∉ keptSnapshotIds before snapshot := hkept
      rw [Dict.get?_filterKeys, if_neg (by simpa using hfiltered)]
    rw [storedRisks, storedSnapshot, hlatest, Option.bind_some, hforgotten]
    rfl

end TravelPlanAgent
