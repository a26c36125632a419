import Mathlib.Data.Finset.Card
import Mathlib.Data.Finset.Dedup
import TravelPlanAgent.Memory.Context

/-!
# Preferences applied in any order

The loop of `apply_to_trip` updates four fields, each in its own way.  A walking tolerance starts
from the limits of the trip, whatever was updated before, and a term is kept in the spelling in
which it comes first.

* `foldlM_applySummary`: the loop as four independent loops.
* `mem_mergeTerms`, `length_mergeTerms`: what merged terms are, and how many.
* `AppliesInAnyOrder`, `Harmonious`: the result of the loop, and what the summaries need.
* `appliesInAnyOrder_iff`: the two are the same.
* `exists_not_appliesInAnyOrder`: a need for rests is forgotten for a walking tolerance.
-/

namespace TravelPlanAgent

variable [Platform]

/-! ## Merged terms -/

section Terms

variable {current items : List String}

theorem mergeTerms_append (current items rest : List String) :
    mergeTerms current (items ++ rest) = mergeTerms (mergeTerms current items) rest := by
  induction items generalizing current with
  | nil => rfl
  | cons item items ih =>
    rw [List.cons_append, mergeTerms, mergeTerms]
    split
    · exact ih current
    · exact ih _

/-- A merged term was there, or is the first spelling of a new one. -/
theorem mem_mergeTerms {term : String} : term ∈ mergeTerms current items ↔
    term ∈ current ∨ casefold term ∉ current.map casefold ∧
      items.find? (fun item => casefold item = casefold term) = some term := by
  induction items generalizing current with
  | nil => simp [mergeTerms]
  | cons item items ih =>
    rw [mergeTerms, List.find?_cons]
    split
    · next hseen =>
      rw [ih]
      refine or_congr_right (and_congr_right fun hnew => ?_)
      have hne : casefold item ≠ casefold term := fun heq => hnew (heq ▸ hseen)
      rw [decide_eq_false hne]
    · next hnew =>
      rw [ih, List.mem_append, List.mem_singleton, List.map_append, List.map_singleton,
        List.mem_append, List.mem_singleton, not_or]
      by_cases heq : casefold item = casefold term
      · rw [decide_eq_true heq]
        simp only [heq, not_true, and_false, false_and, or_false, Option.some.injEq]
        constructor
        · rintro (hterm | rfl)
          · exact .inl hterm
          · exact .inr ⟨hnew, rfl⟩
        · rintro (hterm | ⟨-, rfl⟩)
          · exact .inl hterm
          · exact .inr rfl
      · rw [decide_eq_false heq]
        have hne : term ≠ item := fun h => heq (h ▸ rfl)
        simp only [hne, or_false, Ne.symm heq, not_false_eq_true, and_true]

/-- The keys of terms that are new. -/
def newKeys (current items : List String) : Finset String :=
  (items.map casefold).toFinset \ (current.map casefold).toFinset

theorem length_mergeTerms (current items : List String) :
    (mergeTerms current items).length = current.length + (newKeys current items).card := by
  induction items generalizing current with
  | nil => simp [mergeTerms, newKeys]
  | cons item items ih =>
    rw [mergeTerms]
    split
    · next hseen =>
      rw [ih, newKeys, newKeys, List.map_cons, List.toFinset_cons,
        Finset.insert_sdiff_of_mem _ (List.mem_toFinset.mpr hseen)]
    · next hnew =>
      have hkeys : newKeys current (item :: items) =
          insert (casefold item) (newKeys (current ++ [item]) items) := by
        ext key
        simp only [newKeys, List.map_cons, List.toFinset_cons, List.map_append, List.map_nil,
          Finset.mem_sdiff, Finset.mem_insert, List.mem_toFinset, List.mem_append,
          List.mem_singleton]
        by_cases heq : key = casefold item
        · simp [heq, hnew]
        · simp [heq]
      have hfresh : casefold item ∉ newKeys (current ++ [item]) items := by
        simp [newKeys]
      rw [ih, hkeys, Finset.card_insert_of_notMem hfresh, List.length_append,
        List.length_singleton]
      omega

end Terms

/-! ## The loop, field by field -/

section Fields

variable [PreferenceText] (trip : TripFields) (draft : Option RequirementDraft)

/-- The interests that a summary adds. -/
def interestTerms (summary : PreferenceSummary) : List String :=
  if summary.category = .preferredCategories then asStrings summary.value else []

/-- The avoided terms that a summary adds. -/
def avoidTerms (summary : PreferenceSummary) : List String :=
  if summary.category = .avoidedCategories then avoidCandidates trip summary.value else []

/-- The values that are read as a pace and as a number of metres can be read so. -/
structure Readable (summary : PreferenceSummary) : Prop where
  pace : summary.category = .pace → paceFree draft = true →
    ∃ pace, paceOf (strOf summary.value) = .ok pace
  walking : summary.category = .walkingTolerance → mobilityFree draft = true →
    ∃ meters, intOf summary.value = .ok meters

def paceStep (pace : Option Pace) (summary : PreferenceSummary) : Option Pace :=
  if summary.category = .pace ∧ paceFree draft = true then (paceOf (strOf summary.value)).toOption
  else pace

def mobilityStep (mobility : Option MobilityFields) (summary : PreferenceSummary) :
    Option MobilityFields :=
  if summary.category = .walkingTolerance ∧ mobilityFree draft = true then
    (intOf summary.value).toOption.map fun meters =>
      { MobilityFields.of trip.mobility with maxDailyWalkingMeters := meters }
  else if summary.category = .accessibilityNeeds ∧
      (asksForRest summary.value && mobilityFree draft) = true then
    some { mobility.getD (.of trip.mobility) with needsFrequentRest := true }
  else mobility

variable {trip draft}

/-- One summary. -/
theorem applySummary_eq_ok {updates updates' : TripUpdates} {summary : PreferenceSummary} :
    applySummary trip draft updates summary = .ok updates' ↔
      Readable draft summary ∧ updates' =
        { pace := paceStep draft updates.pace summary
          mobility := mobilityStep trip draft updates.mobility summary
          interests := mergeTerms updates.interests (interestTerms summary)
          avoid := mergeTerms updates.avoid (avoidTerms trip summary) } := by
  have hother (hpace : summary.category ≠ .pace) (hwalking : summary.category ≠ .walkingTolerance) :
      Readable draft summary :=
    ⟨fun h => absurd h hpace, fun h => absurd h hwalking⟩
  unfold applySummary paceStep mobilityStep interestTerms avoidTerms
  cases hcategory : summary.category <;>
    simp only [reduceCtorEq, false_and, if_false, if_true, true_and, mergeTerms]
  case pace =>
    have hwalking : summary.category ≠ .walkingTolerance := by simp [hcategory]
    by_cases hfree : paceFree draft = true
    · rw [if_pos hfree, if_pos hfree]
      constructor
      · intro h
        obtain ⟨pace, hpace, h⟩ := bind_eq_ok h
        cases h
        exact ⟨⟨fun _ _ => ⟨pace, hpace⟩, fun h => absurd h hwalking⟩, by rw [hpace]; rfl⟩
      · rintro ⟨hreadable, rfl⟩
        obtain ⟨pace, hpace⟩ := hreadable.pace hcategory hfree
        rw [hpace]
        rfl
    · rw [if_neg hfree, if_neg hfree, Except.ok.injEq]
      exact ⟨fun h => ⟨⟨fun _ h => absurd h hfree, fun h => absurd h hwalking⟩, h.symm⟩,
        fun h => h.2.symm⟩
  case walkingTolerance =>
    have hpace : summary.category ≠ .pace := by simp [hcategory]
    by_cases hfree : mobilityFree draft = true
    · rw [if_pos hfree, if_pos hfree]
      constructor
      · intro h
        obtain ⟨meters, hmeters, h⟩ := bind_eq_ok h
        cases h
        exact ⟨⟨fun h => absurd h hpace, fun _ _ => ⟨meters, hmeters⟩⟩, by rw [hmeters]; rfl⟩
      · rintro ⟨hreadable, rfl⟩
        obtain ⟨meters, hmeters⟩ := hreadable.walking hcategory hfree
        rw [hmeters]
        rfl
    · rw [if_neg hfree, if_neg hfree, Except.ok.injEq]
      exact ⟨fun h => ⟨⟨fun h => absurd h hpace, fun _ h => absurd h hfree⟩, h.symm⟩,
        fun h => h.2.symm⟩
  case accessibilityNeeds =>
    have hreadable := hother (by simp [hcategory]) (by simp [hcategory])
    split
    · rw [Except.ok.injEq]
      exact ⟨fun h => ⟨hreadable, h.symm⟩, fun h => h.2.symm⟩
    · rw [Except.ok.injEq]
      exact ⟨fun h => ⟨hreadable, h.symm⟩, fun h => h.2.symm⟩
  all_goals
    have hreadable := hother (by simp [hcategory]) (by simp [hcategory])
    rw [Except.ok.injEq]
    exact ⟨fun h => ⟨hreadable, h.symm⟩, fun h => h.2.symm⟩

/-- The whole loop. -/
theorem foldlM_applySummary {summaries : List PreferenceSummary} {updates updates' : TripUpdates} :
    summaries.foldlM (applySummary trip draft) updates = .ok updates' ↔
      (∀ summary ∈ summaries, Readable draft summary) ∧ updates' =
        { pace := summaries.foldl (paceStep draft) updates.pace
          mobility := summaries.foldl (mobilityStep trip draft) updates.mobility
          interests := mergeTerms updates.interests (summaries.flatMap interestTerms)
          avoid := mergeTerms updates.avoid (summaries.flatMap (avoidTerms trip)) } := by
  induction summaries generalizing updates with
  | nil =>
    rw [List.foldlM_nil]
    constructor
    · intro h
      cases h
      exact ⟨fun _ h => absurd h List.not_mem_nil, rfl⟩
    · rintro ⟨-, rfl⟩
      rfl
  | cons summary rest ih =>
    rw [List.foldlM_cons, List.forall_mem_cons, List.flatMap_cons, List.flatMap_cons,
      mergeTerms_append, mergeTerms_append]
    constructor
    · intro h
      obtain ⟨next, hnext, hrest⟩ := bind_eq_ok h
      obtain ⟨hreadable, rfl⟩ := applySummary_eq_ok.mp hnext
      obtain ⟨hreadables, rfl⟩ := ih.mp hrest
      exact ⟨⟨hreadable, hreadables⟩, rfl⟩
    · rintro ⟨⟨hreadable, hreadables⟩, rfl⟩
      rw [applySummary_eq_ok.mpr ⟨hreadable, rfl⟩]
      exact ih.mpr ⟨hreadables, rfl⟩

variable (trip draft) in
/-- What the loop makes of readable summaries. -/
def personalized (summaries : List PreferenceSummary) : PersonalizedTrip where
  trip
  pace := (summaries.foldl (paceStep draft) none).getD trip.pace
  mobility := (summaries.foldl (mobilityStep trip draft) none).getD (.of trip.mobility)
  interests := mergeTerms trip.interests (summaries.flatMap interestTerms)
  avoid := mergeTerms trip.avoid (summaries.flatMap (avoidTerms trip))

theorem applyToTrip_eq_ok {summaries : List PreferenceSummary} {result : PersonalizedTrip} :
    applyToTrip trip draft summaries = .ok result ↔
      (∀ summary ∈ summaries, Readable draft summary) ∧
        result = personalized trip draft summaries := by
  constructor
  · intro h
    obtain ⟨updates, hupdates, h⟩ := bind_eq_ok h
    obtain ⟨hreadable, rfl⟩ := foldlM_applySummary.mp hupdates
    cases h
    exact ⟨hreadable, rfl⟩
  · rintro ⟨hreadable, rfl⟩
    rw [applyToTrip, foldlM_applySummary.mpr ⟨hreadable, rfl⟩]
    rfl

end Fields

/-! ## Valid copies -/

section Validity

variable {fields trip : TripFields}

/-- The checks of a trip. -/
structure TripChecks (fields : TripFields) : Prop where
  bounds : fields.WithinBounds
  dates : fields.startDate ≤ fields.endDate
  arrives : fields.startDate ≤ fields.arrival.instant.date
  leaves : fields.departure.instant.date ≤ fields.endDate
  order : wallClock fields.arrival.instant < wallClock fields.departure.instant
  window : fields.dailyEnd.le fields.dailyStart = .ok false

/-- The trip that the checks leave. -/
def normalizedFields (fields : TripFields) : TripFields :=
  { fields with
    interests := normalizePreferenceTerms fields.interests
    avoid := normalizePreferenceTerms fields.avoid
    mustVisit := normalizePreferenceTerms fields.mustVisit }

theorem createTripSpec_iff : createTripSpec fields = .ok trip ↔
    TripChecks fields ∧ trip = normalizedFields fields := by
  constructor
  · intro h
    obtain ⟨_, hbounds, h⟩ := bind_eq_ok h
    obtain ⟨_, hdates, h⟩ := bind_eq_ok h
    obtain ⟨_, harrives, h⟩ := bind_eq_ok h
    obtain ⟨_, hleaves, h⟩ := bind_eq_ok h
    obtain ⟨_, horder, h⟩ := bind_eq_ok h
    obtain ⟨closed, hclosed, h⟩ := bind_eq_ok h
    obtain ⟨_, hopen, h⟩ := bind_eq_ok h
    exact ⟨⟨require_eq_ok hbounds, require_eq_ok hdates, require_eq_ok harrives,
      require_eq_ok hleaves, require_eq_ok horder, require_eq_ok hopen ▸ hclosed⟩,
      (Except.ok.inj h).symm⟩
  · rintro ⟨h, rfl⟩
    rw [createTripSpec, require_eq_ok_iff.mpr h.bounds, require_eq_ok_iff.mpr h.dates,
      require_eq_ok_iff.mpr h.arrives, require_eq_ok_iff.mpr h.leaves,
      require_eq_ok_iff.mpr h.order, h.window]
    rfl

theorem length_normalizePreferenceTerms (values : List String) :
    (normalizePreferenceTerms values).length ≤ values.length :=
  (List.length_filter_le _ _).trans (List.length_map ..).le

/-- A copy of a trip is valid when its new values are within their bounds. -/
theorem exists_validate_iff {copy : PersonalizedTrip}
    (htrip : createTripSpec fields = .ok copy.trip)
    (hactivity : 0 < copy.mobility.maxDailyActivityMinutes) :
    (∃ loaded, copy.validate = .ok loaded) ↔
      0 ≤ copy.mobility.maxDailyWalkingMeters ∧ copy.interests.length ≤ 100 ∧
        copy.avoid.length ≤ 100 := by
  obtain ⟨hchecks, htrip⟩ := createTripSpec_iff.mp htrip
  unfold PersonalizedTrip.validate
  split
  · next h =>
    constructor
    · rintro ⟨loaded, hloaded⟩
      have hbounds := (createTripSpec_iff.mp hloaded).1.bounds
      exact ⟨h.1, hbounds.2.2.2.1, hbounds.2.2.2.2.1⟩
    · rintro ⟨-, hinterests, havoid⟩
      refine ⟨_, createTripSpec_iff.mpr ⟨⟨?_, ?_, ?_, ?_, ?_, ?_⟩, rfl⟩⟩
      · obtain ⟨hdestination, htravelers, hbudget, -, -, hmustVisit⟩ := hchecks.bounds
        rw [htrip]
        exact ⟨hdestination, htravelers, hbudget, hinterests, havoid,
          (length_normalizePreferenceTerms _).trans hmustVisit⟩
      · rw [htrip]
        exact hchecks.dates
      · rw [htrip]
        exact hchecks.arrives
      · rw [htrip]
        exact hchecks.leaves
      · rw [htrip]
        exact hchecks.order
      · rw [htrip]
        exact hchecks.window
  · next h =>
    refine iff_of_false (fun ⟨loaded, hloaded⟩ => ?_) (fun hvalid => h ⟨hvalid.1, hactivity⟩)
    cases hloaded

end Validity

/-! ## The order of the summaries -/

section Order

variable [PreferenceText] {trip : TripFields} {draft : Option RequirementDraft}
  {summaries order : List PreferenceSummary}

/-- What one order of the summaries has to do, compared with the given one. -/
structure AppliedWell (draft : Option RequirementDraft) (summaries : List PreferenceSummary)
    (result copy : PersonalizedTrip) : Prop where
  pace : copy.pace = result.pace
  mobility : copy.mobility = result.mobility
  interests : ∀ term, term ∈ copy.interests ↔ term ∈ result.interests
  avoid : ∀ term, term ∈ copy.avoid ↔ term ∈ result.avoid
  /-- A walking tolerance and a need for rests are both applied. -/
  both : mobilityFree draft = true →
    ∀ walking ∈ summaries, walking.category = .walkingTolerance →
      ∀ need ∈ summaries, need.category = .accessibilityNeeds → asksForRest need.value = true →
        intOf walking.value = .ok copy.mobility.maxDailyWalkingMeters ∧
          copy.mobility.needsFrequentRest = true
  valid : ∃ loaded, copy.validate = .ok loaded

/-- Every order gives the same preferences and a valid trip. -/
def AppliesInAnyOrder (trip : TripFields) (draft : Option RequirementDraft)
    (summaries : List PreferenceSummary) : Prop :=
  ∃ result, applyToTrip trip draft summaries = .ok result ∧
    ∀ order : List PreferenceSummary, order.Perm summaries →
      ∃ copy, applyToTrip trip draft order = .ok copy ∧ AppliedWell draft summaries result copy

/-- New terms come first in one spelling, whichever list they are taken from. -/
def SpelledAlike (current : List String) (lists : List (List String)) : Prop :=
  ∀ items ∈ lists, ∀ items' ∈ lists, ∀ term term', casefold term ∉ current.map casefold →
    casefold term' = casefold term →
      items.find? (fun item => casefold item = casefold term) = some term →
        items'.find? (fun item => casefold item = casefold term) = some term' → term' = term

/-- What the summaries need. -/
structure Harmonious (trip : TripFields) (draft : Option RequirementDraft)
    (summaries : List PreferenceSummary) : Prop where
  pace : paceFree draft = true → ∃ pace, ∀ summary ∈ summaries, summary.category = .pace →
    paceOf (strOf summary.value) = .ok pace
  walking : mobilityFree draft = true → ∃ meters : ℤ, 0 ≤ meters ∧ ∀ summary ∈ summaries,
    summary.category = .walkingTolerance → intOf summary.value = .ok meters
  rest : mobilityFree draft = true →
    (∃ walking ∈ summaries, walking.category = .walkingTolerance) →
      (∃ need ∈ summaries, need.category = .accessibilityNeeds ∧ asksForRest need.value = true) →
        trip.mobility.needsFrequentRest = true
  interests : SpelledAlike trip.interests (summaries.map interestTerms)
  avoid : SpelledAlike trip.avoid (summaries.map (avoidTerms trip))
  interestsLength :
    trip.interests.length + (newKeys trip.interests (summaries.flatMap interestTerms)).card ≤ 100
  avoidLength :
    trip.avoid.length + (newKeys trip.avoid (summaries.flatMap (avoidTerms trip))).card ≤ 100

/-! ### Terms -/

omit [PreferenceText] in
/-- The first spelling of a new term is the one in any list that has it. -/
theorem find?_flatMap_iff {terms : PreferenceSummary → List String} {current : List String}
    (h : SpelledAlike current (summaries.map terms)) (hsub : ∀ s ∈ order, s ∈ summaries)
    {term : String} (hnew : casefold term ∉ current.map casefold) :
    (order.flatMap terms).find? (fun item => casefold item = casefold term) = some term ↔
      ∃ s ∈ order, (terms s).find? (fun item => casefold item = casefold term) = some term := by
  induction order with
  | nil => simp
  | cons first rest ih =>
    have hrest := ih fun s hs => hsub s (List.mem_cons_of_mem _ hs)
    rw [List.flatMap_cons, List.find?_append]
    cases hfind : (terms first).find? fun item => casefold item = casefold term with
    | none =>
      rw [Option.none_or, hrest]
      simp [hfind]
    | some found =>
      have hkey : casefold found = casefold term := by
        simpa using List.find?_some hfind
      rw [Option.some_or, Option.some.injEq]
      constructor
      · rintro rfl
        exact ⟨first, List.mem_cons_self, hfind⟩
      · rintro ⟨s, hs, hspelled⟩
        exact h _ (List.mem_map_of_mem (hsub s hs)) _
          (List.mem_map_of_mem (hsub first List.mem_cons_self)) term found hnew hkey hspelled hfind

omit [PreferenceText] in
/-- Terms of one spelling may be merged in any order. -/
theorem mem_mergeTerms_perm {terms : PreferenceSummary → List String} {current : List String}
    (h : SpelledAlike current (summaries.map terms)) (hperm : order.Perm summaries)
    (term : String) : term ∈ mergeTerms current (order.flatMap terms) ↔
      term ∈ mergeTerms current (summaries.flatMap terms) := by
  rw [mem_mergeTerms, mem_mergeTerms]
  refine or_congr_right (and_congr_right fun hnew => ?_)
  rw [find?_flatMap_iff h (fun s hs => hperm.mem_iff.mp hs) hnew,
    find?_flatMap_iff h (fun s hs => hs) hnew]
  exact exists_congr fun s => and_congr_left fun _ => hperm.mem_iff

omit [PreferenceText] in
theorem newKeys_perm {items items' : List String} (current : List String)
    (hperm : items'.Perm items) : newKeys current items' = newKeys current items := by
  rw [newKeys, newKeys, List.toFinset_eq_of_perm _ _ (hperm.map casefold)]

omit [PreferenceText] in
/-- When the order does not matter, the first spellings are the same. -/
theorem spelledAlike_of_perm {terms : PreferenceSummary → List String} {current : List String}
    {merged : List String}
    (h : ∀ order : List PreferenceSummary, order.Perm summaries → ∀ term,
      term ∈ mergeTerms current (order.flatMap terms) ↔ term ∈ merged) :
    SpelledAlike current (summaries.map terms) := by
  -- with its list in front, the first spelling of a new term is merged
  have hfront {s : PreferenceSummary} (hs : s ∈ summaries) {term : String}
      (hnew : casefold term ∉ current.map casefold)
      (hfind : (terms s).find? (fun item => casefold item = casefold term) = some term) :
      term ∈ merged := by
    obtain ⟨before, after, rfl⟩ := List.mem_iff_append.mp hs
    refine (h (s :: (before ++ after)) List.perm_middle.symm term).mp ?_
    rw [mem_mergeTerms]
    refine .inr ⟨hnew, ?_⟩
    rw [List.flatMap_cons, List.find?_append, hfind, Option.some_or]
  intro items hitems items' hitems' term term' hnew hkey hfind hfind'
  obtain ⟨s, hs, rfl⟩ := List.mem_map.mp hitems
  obtain ⟨s', hs', rfl⟩ := List.mem_map.mp hitems'
  have hterm := hfront hs hnew hfind
  have hterm' := hfront hs' (hkey ▸ hnew) (by rw [hkey]; exact hfind')
  -- but only one spelling of a new term is merged
  have hone := (h summaries (.refl _) term).mpr hterm
  have hone' := (h summaries (.refl _) term').mpr hterm'
  rw [mem_mergeTerms] at hone hone'
  obtain hold | ⟨-, hfirst⟩ := hone
  · exact absurd (List.mem_map_of_mem hold) hnew
  obtain hold | ⟨-, hfirst'⟩ := hone'
  · exact absurd (List.mem_map_of_mem hold) (hkey ▸ hnew)
  rw [hkey] at hfirst'
  exact Option.some.inj (hfirst'.symm.trans hfirst)

/-! ### Pace and mobility -/

/-- With one pace among the summaries, it is the pace. -/
theorem foldl_paceStep {pace : Pace} (hfree : paceFree draft = true) (start : Option Pace)
    (h : ∀ s ∈ order, s.category = .pace → paceOf (strOf s.value) = .ok pace) :
    order.foldl (paceStep draft) start =
      if ∃ s ∈ order, s.category = .pace then some pace else start := by
  induction order generalizing start with
  | nil => simp
  | cons first rest ih =>
    obtain ⟨hfirst, hrest⟩ := List.forall_mem_cons.mp h
    rw [List.foldl_cons, ih _ hrest]
    by_cases hcategory : first.category = .pace
    · have hstep : paceStep draft start first = some pace := by
        rw [paceStep, if_pos ⟨hcategory, hfree⟩, hfirst hcategory]
        rfl
      simp [hcategory, hstep]
    · have hstep : paceStep draft start first = start := if_neg fun h => hcategory h.1
      simp [hcategory, hstep]

/-- A summary asks for rests. -/
def AsksForRest (s : PreferenceSummary) : Prop :=
  s.category = .accessibilityNeeds ∧ asksForRest s.value = true

instance (s : PreferenceSummary) : Decidable (AsksForRest s) := inferInstanceAs (Decidable (_ ∧ _))

variable (trip) in
/-- The limits after some updates. -/
def limitsOf (mobility : Option MobilityFields) : MobilityFields :=
  mobility.getD (.of trip.mobility)

/-- What a summary does to the limits. -/
theorem limitsOf_mobilityStep {meters : ℤ} (hfree : mobilityFree draft = true)
    (mobility : Option MobilityFields) {s : PreferenceSummary}
    (h : s.category = .walkingTolerance → intOf s.value = .ok meters) :
    limitsOf trip (mobilityStep trip draft mobility s) =
      if s.category = .walkingTolerance then
        { MobilityFields.of trip.mobility with maxDailyWalkingMeters := meters }
      else if AsksForRest s then { limitsOf trip mobility with needsFrequentRest := true }
      else limitsOf trip mobility := by
  unfold mobilityStep
  by_cases hwalking : s.category = .walkingTolerance
  · rw [if_pos ⟨hwalking, hfree⟩, if_pos hwalking, h hwalking]
    rfl
  · rw [if_neg fun h => hwalking h.1, if_neg hwalking]
    by_cases hasks : AsksForRest s
    · rw [if_pos ⟨hasks.1, by simp [hasks.2, hfree]⟩, if_pos hasks]
      rfl
    · rw [if_neg (by simpa [AsksForRest, hfree] using hasks), if_neg hasks]

variable (trip draft) in
/-- The limits after the loop. -/
def finalLimits (start : Option MobilityFields) (order : List PreferenceSummary) :
    MobilityFields :=
  limitsOf trip (order.foldl (mobilityStep trip draft) start)

variable (trip draft order) in
/-- The activity limit is the one of the trip. -/
theorem activity_finalLimits (start : Option MobilityFields)
    (hstart : (limitsOf trip start).maxDailyActivityMinutes =
      trip.mobility.maxDailyActivityMinutes) :
    (finalLimits trip draft start order).maxDailyActivityMinutes =
      trip.mobility.maxDailyActivityMinutes := by
  induction order generalizing start with
  | nil => exact hstart
  | cons first rest ih =>
    refine ih (mobilityStep trip draft start first) ?_
    unfold mobilityStep
    split
    · cases intOf first.value <;> rfl
    · split <;> exact hstart

section Limits

variable {meters : ℤ} (hfree : mobilityFree draft = true)
  (h : ∀ s ∈ order, s.category = .walkingTolerance → intOf s.value = .ok meters)

include hfree h

variable (trip) in
/-- The walking limit is the tolerance, if there is one. -/
theorem walking_finalLimits (start : Option MobilityFields) :
    (finalLimits trip draft start order).maxDailyWalkingMeters =
      if ∃ s ∈ order, s.category = .walkingTolerance then meters
      else (limitsOf trip start).maxDailyWalkingMeters := by
  induction order generalizing start with
  | nil => simp [finalLimits]
  | cons first rest ih =>
    obtain ⟨hfirst, hrest⟩ := List.forall_mem_cons.mp h
    have hlimits := ih hrest (mobilityStep trip draft start first)
    rw [finalLimits, List.foldl_cons, ← finalLimits, hlimits,
      limitsOf_mobilityStep hfree start hfirst]
    by_cases hwalking : first.category = .walkingTolerance
    · simp [hwalking]
    · rw [if_neg hwalking]
      split <;> split <;> simp_all

/-- Rests stay needed when the trip needs them. -/
theorem rest_finalLimits_of_trip (htrip : trip.mobility.needsFrequentRest = true)
    (start : Option MobilityFields) (hstart : (limitsOf trip start).needsFrequentRest = true) :
    (finalLimits trip draft start order).needsFrequentRest = true := by
  induction order generalizing start with
  | nil => exact hstart
  | cons first rest ih =>
    obtain ⟨hfirst, hrest⟩ := List.forall_mem_cons.mp h
    refine ih hrest (mobilityStep trip draft start first) ?_
    rw [limitsOf_mobilityStep hfree start hfirst]
    split
    · exact htrip
    · split
      · rfl
      · exact hstart

/-- Without a walking tolerance rests are needed when a summary asks for them. -/
theorem rest_finalLimits_of_no_walking (hwalking : ∀ s ∈ order, s.category ≠ .walkingTolerance)
    (start : Option MobilityFields) :
    (finalLimits trip draft start order).needsFrequentRest =
      ((limitsOf trip start).needsFrequentRest || decide (∃ s ∈ order, AsksForRest s)) := by
  induction order generalizing start with
  | nil => simp [finalLimits]
  | cons first rest ih =>
    obtain ⟨hfirst, hrest⟩ := List.forall_mem_cons.mp h
    obtain ⟨hnot, hwalking⟩ := List.forall_mem_cons.mp hwalking
    have hlimits := ih hrest hwalking (mobilityStep trip draft start first)
    rw [finalLimits, List.foldl_cons, ← finalLimits, hlimits,
      limitsOf_mobilityStep hfree start hfirst, if_neg hnot]
    by_cases hasks : AsksForRest first
    · simp [hasks]
    · simp [hasks]

/-- Without a need for rests the trip decides. -/
theorem rest_finalLimits_of_no_need (hneed : ∀ s ∈ order, ¬ AsksForRest s)
    (start : Option MobilityFields)
    (hstart : (limitsOf trip start).needsFrequentRest = trip.mobility.needsFrequentRest) :
    (finalLimits trip draft start order).needsFrequentRest =
      trip.mobility.needsFrequentRest := by
  induction order generalizing start with
  | nil => exact hstart
  | cons first rest ih =>
    obtain ⟨hfirst, hrest⟩ := List.forall_mem_cons.mp h
    obtain ⟨hnot, hneed⟩ := List.forall_mem_cons.mp hneed
    refine ih hrest hneed (mobilityStep trip draft start first) ?_
    rw [limitsOf_mobilityStep hfree start hfirst]
    split
    · rfl
    · exact hstart

/-- The limits, when a walking tolerance and a need for rests do not meet. -/
theorem finalLimits_eq
    (hrest : (∃ s ∈ order, s.category = .walkingTolerance) → (∃ s ∈ order, AsksForRest s) →
      trip.mobility.needsFrequentRest = true) :
    finalLimits trip draft none order =
      { maxDailyWalkingMeters :=
          if ∃ s ∈ order, s.category = .walkingTolerance then meters
          else trip.mobility.maxDailyWalkingMeters
        maxDailyActivityMinutes := trip.mobility.maxDailyActivityMinutes
        needsFrequentRest :=
          trip.mobility.needsFrequentRest || decide (∃ s ∈ order, AsksForRest s) } := by
  have hneeds : (finalLimits trip draft none order).needsFrequentRest =
      (trip.mobility.needsFrequentRest || decide (∃ s ∈ order, AsksForRest s)) := by
    by_cases htrip : trip.mobility.needsFrequentRest = true
    · rw [htrip, Bool.true_or]
      exact rest_finalLimits_of_trip hfree h htrip none htrip
    by_cases hneed : ∃ s ∈ order, AsksForRest s
    · have hwalking : ∀ s ∈ order, s.category ≠ .walkingTolerance :=
        fun s hs hcategory => htrip (hrest ⟨s, hs, hcategory⟩ hneed)
      exact rest_finalLimits_of_no_walking hfree h hwalking none
    · rw [decide_eq_false hneed, Bool.or_false]
      exact rest_finalLimits_of_no_need hfree h (fun s hs hasks => hneed ⟨s, hs, hasks⟩) none rfl
  have hwalking := walking_finalLimits trip hfree h none
  have hactivity := activity_finalLimits trip draft order none rfl
  generalize finalLimits trip draft none order = limits at hneeds hwalking hactivity ⊢
  obtain ⟨walking, activity, rest⟩ := limits
  simp only at hneeds hwalking hactivity
  rw [hneeds, hwalking, hactivity]
  rfl

end Limits

theorem foldl_of_not_paceFree (hfree : ¬ paceFree draft = true) (start : Option Pace) :
    order.foldl (paceStep draft) start = start := by
  induction order with
  | nil => rfl
  | cons first rest ih => rwa [List.foldl_cons, paceStep, if_neg fun h => hfree h.2]

theorem foldl_of_not_mobilityFree (hfree : ¬ mobilityFree draft = true)
    (start : Option MobilityFields) : order.foldl (mobilityStep trip draft) start = start := by
  induction order with
  | nil => rfl
  | cons first rest ih =>
    have hstep : mobilityStep trip draft start first = start := by
      rw [mobilityStep, if_neg fun h => hfree h.2, if_neg (by simp [hfree])]
    rwa [List.foldl_cons, hstep]

/-! ### The two directions -/

omit [Platform] [PreferenceText] in
/-- Any summary may come last. -/
theorem exists_perm_concat {s : PreferenceSummary} (hs : s ∈ summaries) :
    ∃ others, (others ++ [s]).Perm summaries := by
  obtain ⟨before, after, rfl⟩ := List.mem_iff_append.mp hs
  exact ⟨before ++ after, (List.perm_append_singleton s _).trans List.perm_middle.symm⟩

theorem personalized_pace_concat {others : List PreferenceSummary} {s : PreferenceSummary}
    {pace : Pace} (hcategory : s.category = .pace) (hfree : paceFree draft = true)
    (hpace : paceOf (strOf s.value) = .ok pace) :
    (personalized trip draft (others ++ [s])).pace = pace := by
  rw [personalized, List.foldl_concat, paceStep, if_pos ⟨hcategory, hfree⟩, hpace]
  rfl

/-- A walking tolerance that comes last leaves nothing of the updates before. -/
theorem personalized_mobility_concat {others : List PreferenceSummary} {s : PreferenceSummary}
    {meters : ℤ} (hcategory : s.category = .walkingTolerance) (hfree : mobilityFree draft = true)
    (hmeters : intOf s.value = .ok meters) :
    (personalized trip draft (others ++ [s])).mobility =
      { MobilityFields.of trip.mobility with maxDailyWalkingMeters := meters } := by
  have hlast : (others ++ [s]).foldl (mobilityStep trip draft) none =
      some { MobilityFields.of trip.mobility with maxDailyWalkingMeters := meters } := by
    rw [List.foldl_concat]
    unfold mobilityStep
    rw [if_pos ⟨hcategory, hfree⟩, hmeters]
    rfl
  rw [personalized, hlast]
  rfl

/-- The activity limit of a copy is positive. -/
theorem activity_pos (summaries : List PreferenceSummary) :
    0 < (personalized trip draft summaries).mobility.maxDailyActivityMinutes := by
  have hactivity := activity_finalLimits trip draft summaries none rfl
  rw [finalLimits, limitsOf] at hactivity
  rw [personalized, hactivity]
  exact trip.mobility.maxDailyActivityMinutes_pos

/-- Summaries that apply in any order are harmonious. -/
theorem harmonious_of_applies {fields : TripFields} (htrip : createTripSpec fields = .ok trip)
    (h : AppliesInAnyOrder trip draft summaries) : Harmonious trip draft summaries := by
  obtain ⟨result, hresult, horders⟩ := h
  obtain ⟨hreadable, rfl⟩ := applyToTrip_eq_ok.mp hresult
  have hcopy (order : List PreferenceSummary) (hperm : order.Perm summaries) :
      AppliedWell draft summaries (personalized trip draft summaries)
        (personalized trip draft order) := by
    obtain ⟨copy, happly, hwell⟩ := horders order hperm
    obtain ⟨-, rfl⟩ := applyToTrip_eq_ok.mp happly
    exact hwell
  have hvalid := (exists_validate_iff htrip (activity_pos summaries)).mp (hcopy _ (.refl _)).valid
  constructor
  case pace =>
    intro hfree
    refine ⟨(personalized trip draft summaries).pace, fun s hs hcategory => ?_⟩
    obtain ⟨pace, hpace⟩ := (hreadable s hs).pace hcategory hfree
    obtain ⟨others, hperm⟩ := exists_perm_concat hs
    rw [hpace, ← (hcopy _ hperm).pace, personalized_pace_concat hcategory hfree hpace]
  case walking =>
    intro hfree
    refine ⟨(personalized trip draft summaries).mobility.maxDailyWalkingMeters, hvalid.1,
      fun s hs hcategory => ?_⟩
    obtain ⟨meters, hmeters⟩ := (hreadable s hs).walking hcategory hfree
    obtain ⟨others, hperm⟩ := exists_perm_concat hs
    rw [hmeters, ← (hcopy _ hperm).mobility, personalized_mobility_concat hcategory hfree hmeters]
  case rest =>
    rintro hfree ⟨walking, hwalking, hcategory⟩ ⟨need, hneed, hneeds, hasks⟩
    obtain ⟨meters, hmeters⟩ := (hreadable walking hwalking).walking hcategory hfree
    obtain ⟨others, hperm⟩ := exists_perm_concat hwalking
    have hboth := ((hcopy _ hperm).both hfree walking hwalking hcategory need hneed hneeds hasks).2
    rw [personalized_mobility_concat hcategory hfree hmeters] at hboth
    exact hboth
  case interests => exact spelledAlike_of_perm fun order hperm => (hcopy order hperm).interests
  case avoid => exact spelledAlike_of_perm fun order hperm => (hcopy order hperm).avoid
  case interestsLength =>
    rw [← length_mergeTerms]
    exact hvalid.2.1
  case avoidLength =>
    rw [← length_mergeTerms]
    exact hvalid.2.2

omit [Platform] [PreferenceText] in
theorem exists_mem_perm (hperm : order.Perm summaries) (p : PreferenceSummary → Prop) :
    (∃ s ∈ order, p s) ↔ ∃ s ∈ summaries, p s :=
  exists_congr fun _ => and_congr_left fun _ => hperm.mem_iff

theorem Harmonious.perm (h : Harmonious trip draft summaries) (hperm : order.Perm summaries) :
    Harmonious trip draft order where
  pace hfree := by
    obtain ⟨pace, hpace⟩ := h.pace hfree
    exact ⟨pace, fun s hs => hpace s (hperm.mem_iff.mp hs)⟩
  walking hfree := by
    obtain ⟨meters, hpos, hmeters⟩ := h.walking hfree
    exact ⟨meters, hpos, fun s hs => hmeters s (hperm.mem_iff.mp hs)⟩
  rest hfree hwalking hneed :=
    h.rest hfree ((exists_mem_perm hperm _).mp hwalking) ((exists_mem_perm hperm _).mp hneed)
  interests items hitems items' hitems' :=
    h.interests items ((hperm.map _).mem_iff.mp hitems) items' ((hperm.map _).mem_iff.mp hitems')
  avoid items hitems items' hitems' :=
    h.avoid items ((hperm.map _).mem_iff.mp hitems) items' ((hperm.map _).mem_iff.mp hitems')
  interestsLength := by
    rw [newKeys_perm trip.interests (hperm.flatMap_right interestTerms)]
    exact h.interestsLength
  avoidLength := by
    rw [newKeys_perm trip.avoid (hperm.flatMap_right (avoidTerms trip))]
    exact h.avoidLength

theorem Harmonious.readable (h : Harmonious trip draft summaries) :
    ∀ s ∈ summaries, Readable draft s := by
  intro s hs
  constructor
  case pace =>
    intro hcategory hfree
    obtain ⟨pace, hpace⟩ := h.pace hfree
    exact ⟨pace, hpace s hs hcategory⟩
  case walking =>
    intro hcategory hfree
    obtain ⟨meters, -, hmeters⟩ := h.walking hfree
    exact ⟨meters, hmeters s hs hcategory⟩

/-- The limits that harmonious summaries lead to. -/
theorem Harmonious.mobility (h : Harmonious trip draft summaries)
    (hfree : mobilityFree draft = true) {meters : ℤ}
    (hmeters : ∀ s ∈ summaries, s.category = .walkingTolerance → intOf s.value = .ok meters) :
    (personalized trip draft summaries).mobility =
      { maxDailyWalkingMeters :=
          if ∃ s ∈ summaries, s.category = .walkingTolerance then meters
          else trip.mobility.maxDailyWalkingMeters
        maxDailyActivityMinutes := trip.mobility.maxDailyActivityMinutes
        needsFrequentRest :=
          trip.mobility.needsFrequentRest || decide (∃ s ∈ summaries, AsksForRest s) } :=
  finalLimits_eq hfree hmeters (h.rest hfree)

/-- Harmonious summaries apply in any order. -/
theorem Harmonious.applies {fields : TripFields} (htrip : createTripSpec fields = .ok trip)
    (h : Harmonious trip draft summaries) : AppliesInAnyOrder trip draft summaries := by
  refine ⟨personalized trip draft summaries, applyToTrip_eq_ok.mpr ⟨h.readable, rfl⟩,
    fun order hperm => ?_⟩
  have horder := h.perm hperm
  refine ⟨personalized trip draft order, applyToTrip_eq_ok.mpr ⟨horder.readable, rfl⟩, ?_⟩
  constructor
  case pace =>
    by_cases hfree : paceFree draft = true
    · obtain ⟨pace, hpace⟩ := h.pace hfree
      have hpace' := fun s hs => hpace s (hperm.mem_iff.mp hs)
      rw [personalized, personalized, foldl_paceStep hfree none hpace,
        foldl_paceStep hfree none hpace']
      simp only [hperm.mem_iff]
    · rw [personalized, personalized, foldl_of_not_paceFree hfree, foldl_of_not_paceFree hfree]
  case mobility =>
    by_cases hfree : mobilityFree draft = true
    · obtain ⟨meters, -, hmeters⟩ := h.walking hfree
      have hmeters' := fun s hs => hmeters s (hperm.mem_iff.mp hs)
      rw [h.mobility hfree hmeters, horder.mobility hfree hmeters']
      simp only [hperm.mem_iff]
    · rw [personalized, personalized, foldl_of_not_mobilityFree hfree,
        foldl_of_not_mobilityFree hfree]
  case interests => exact mem_mergeTerms_perm h.interests hperm
  case avoid => exact mem_mergeTerms_perm h.avoid hperm
  case both =>
    intro hfree walking hwalking hcategory need hneed hneeds hasks
    obtain ⟨meters, -, hmeters⟩ := h.walking hfree
    have hmeters' := fun s hs => hmeters s (hperm.mem_iff.mp hs)
    have hone : ∃ s ∈ order, s.category = .walkingTolerance :=
      ⟨walking, hperm.mem_iff.mpr hwalking, hcategory⟩
    have hother : ∃ s ∈ order, AsksForRest s :=
      ⟨need, hperm.mem_iff.mpr hneed, hneeds, hasks⟩
    rw [horder.mobility hfree hmeters', hmeters walking hwalking hcategory]
    simp only [if_pos hone, decide_eq_true hother, Bool.or_true, and_self]
  case valid =>
    refine (exists_validate_iff htrip (activity_pos order)).mpr ⟨?_, ?_, ?_⟩
    · by_cases hfree : mobilityFree draft = true
      · obtain ⟨meters, hpos, hmeters⟩ := h.walking hfree
        rw [horder.mobility hfree fun s hs => hmeters s (hperm.mem_iff.mp hs)]
        dsimp only
        split
        · exact hpos
        · exact Int.natCast_nonneg _
      · rw [personalized, foldl_of_not_mobilityFree hfree]
        exact Int.natCast_nonneg _
    · exact (length_mergeTerms _ _).le.trans horder.interestsLength
    · exact (length_mergeTerms _ _).le.trans horder.avoidLength

/-- **Preferences apply in any order exactly when they are harmonious.** -/
theorem appliesInAnyOrder_iff {fields : TripFields} (htrip : createTripSpec fields = .ok trip)
    (draft : Option RequirementDraft) (summaries : List PreferenceSummary) :
    AppliesInAnyOrder trip draft summaries ↔ Harmonious trip draft summaries :=
  ⟨harmonious_of_applies htrip, Harmonious.applies htrip⟩

omit [Platform] [PreferenceText] in
/-- A pace and a walking tolerance apply in any order. -/
theorem appliesInAnyOrder_iff_pace :
    let := plainPlatform
    let := plainPreferenceText
    AppliesInAnyOrder Sample.weekendTrip none
      [Sample.summary "a" .pace (.scalar (.str "relaxed")), Sample.shortWalks] := by
  intro platform text
  have htrip : createTripSpec Sample.weekendTrip = .ok Sample.weekendTrip := by rfl
  -- neither summary has terms
  have hspelled : SpelledAlike [] [([] : List String), []] := by
    intro items hitems _ _ term _ _ _ hfind
    have hnil : items = [] := by simpa using hitems
    rw [hnil] at hfind
    cases hfind
  refine (appliesInAnyOrder_iff htrip none _).mpr
    { pace := fun _ => ⟨.relaxed, fun s hs hcategory => ?_⟩
      walking := fun _ => ⟨5000, by decide, fun s hs hcategory => ?_⟩
      rest := ?_
      interests := hspelled
      avoid := hspelled
      interestsLength := by decide
      avoidLength := by decide }
  · rcases List.mem_pair.mp hs with rfl | rfl
    · rfl
    · cases hcategory
  · rcases List.mem_pair.mp hs with rfl | rfl
    · cases hcategory
    · rfl
  · rintro - - ⟨s, hs, hcategory, -⟩
    rcases List.mem_pair.mp hs with rfl | rfl <;> cases hcategory

omit [Platform] [PreferenceText] in
/-- The walking tolerance comes last, and the need for rests is forgotten. -/
theorem exists_not_appliesInAnyOrder :
    let := plainPlatform
    let := plainPreferenceText
    createTripSpec Sample.weekendTrip = .ok Sample.weekendTrip ∧
      ¬ AppliesInAnyOrder Sample.weekendTrip none [Sample.restNeed, Sample.shortWalks] := by
  intro platform text
  have htrip : createTripSpec Sample.weekendTrip = .ok Sample.weekendTrip := by rfl
  refine ⟨htrip, fun happlies => ?_⟩
  have hrest := (harmonious_of_applies htrip happlies).rest rfl
    ⟨Sample.shortWalks, by simp, rfl⟩ ⟨Sample.restNeed, by simp, rfl, by decide⟩
  cases hrest

end Order

end TravelPlanAgent
