import TravelPlanAgent.Planning.SearchPlan
import TravelPlanAgent.Planning.Agreement

/-!
# Which searches get a place

The results of all searches are merged in the order of the plan, each place once, until the
candidate pool is full.  A search for a required place comes before every other one, but after
the earlier required places, whose results may fill the pool.

* `keys_collectFacts`: the pool holds the first distinct ids.
* `priorities_createSearchPlan`: a plan is ordered by priority already.
* `ids_loadedFacts`: the loaded places are the first distinct ones of the results in order.
* `requiredLoaded_iff`: a search keeps one of its places exactly when the earlier ones leave room
  or have found one of them.
* `exists_required_not_loaded`: the third of three required places is lost.
-/

namespace TravelPlanAgent

open Calendar Selection

/-! ## The pool -/

/-- The pool holds the first distinct ids. -/
theorem keys_collectFacts {limit : ℕ} {found : Dict String POIFacts} (hroom : found.size < limit)
    (facts : List POIFacts) :
    (collectFacts limit found facts).keys =
      (found.keys ++ ((facts.map POIFacts.id).removeAll found.keys).eraseDups).take limit := by
  induction facts generalizing found with
  | nil =>
    have hlength : found.keys.length ≤ limit := by
      rw [Dict.length_keys]
      exact hroom.le
    simp [collectFacts, List.removeAll, List.take_of_length_le hlength]
  | cons place rest ih =>
    rw [collectFacts]
    by_cases hknown : place.id ∈ found.keys
    · have hcontains : found.contains place.id = true := by
        obtain ⟨facts, hfacts⟩ := Dict.exists_get?_of_mem_keys hknown
        rw [Dict.contains, hfacts]
        rfl
      have hskip : ((place :: rest).map POIFacts.id).removeAll found.keys =
          (rest.map POIFacts.id).removeAll found.keys := by
        simp [List.removeAll, hknown]
      simp only [hcontains, if_true, if_neg hroom.ne, ih hroom, hskip]
    · have hcontains : ¬found.contains place.id = true := by
        rw [Dict.contains, Dict.get?_eq_none_iff.mpr hknown]
        exact Bool.noConfusion
      have hkeys := Dict.keys_set_of_not_mem hknown place
      have hsize := Dict.size_set_of_not_mem hknown place
      have htake : ((place :: rest).map POIFacts.id).removeAll found.keys =
          place.id :: (rest.map POIFacts.id).removeAll found.keys := by
        simp [List.removeAll, hknown]
      have hrest :
        ((rest.map POIFacts.id).removeAll found.keys).filter (fun id => !id == place.id) =
          (rest.map POIFacts.id).removeAll (found.set place.id place).keys := by
        rw [hkeys]
        simp only [List.removeAll, List.filter_filter]
        refine List.filter_congr fun id _ => ?_
        simp [Bool.and_comm, beq_eq_decide]
      simp only [hcontains, if_false, Bool.false_eq_true, hsize]
      rw [htake, List.eraseDups_cons, hrest]
      split
      · next hfull =>
        have hlength : (found.keys ++ [place.id]).length = limit := by
          rw [List.length_append, Dict.length_keys]
          exact hfull
        rw [List.append_cons, List.take_append_of_le_length hlength.ge,
          List.take_of_length_le hlength.le, hkeys]
      · next hmore =>
        rw [ih (by omega), hkeys, List.append_assoc]
        rfl

/-! ## The order of a plan -/

variable [Platform]

/-- The queries of some keywords keep the order of their priorities. -/
theorem priorities_keywordQueries {trip : TripSpec} {perQueryLimit maxQueries : ℕ}
    (seen : List String) (queries : List POISearchQuery) (keywords : List (String × Bool × ℤ)) :
    ∃ new : List POISearchQuery,
      keywordQueries trip perQueryLimit maxQueries seen queries keywords = queries ++ new ∧
        (new.map POISearchQuery.priority).Sublist (keywords.map fun keyword => keyword.2.2) := by
  induction keywords generalizing seen queries with
  | nil => exact ⟨[], (List.append_nil _).symm, List.Sublist.refl _⟩
  | cons keyword rest ih =>
    obtain ⟨keyword, exactMatch, priority⟩ := keyword
    simp only [keywordQueries]
    split
    · obtain ⟨new, hnew, hsublist⟩ := ih seen queries
      exact ⟨new, hnew, hsublist.cons _⟩
    · split
      · exact ⟨[_], rfl, List.Sublist.cons_cons priority (List.nil_sublist _)⟩
      · obtain ⟨new, hnew, hsublist⟩ := ih (normalize keyword :: seen)
          (queries ++ [⟨trip.destination, strip keyword, exactMatch, perQueryLimit, priority⟩])
        refine ⟨⟨trip.destination, strip keyword, exactMatch, perQueryLimit, priority⟩ :: new, ?_,
          List.Sublist.cons_cons priority hsublist⟩
        rw [hnew, List.append_assoc]
        rfl

/-- A plan is ordered by falling priority. -/
theorem priorities_createSearchPlan {trip : TripSpec} {perQueryLimit maxQueries : ℕ}
    {queries : List POISearchQuery}
    (h : createSearchPlan trip perQueryLimit maxQueries = .ok queries) :
    queries.Pairwise fun a b => -a.priority ≤ -b.priority := by
  obtain ⟨-, -, h⟩ := bind_eq_ok h
  obtain ⟨new, hnew, hsublist⟩ := @priorities_keywordQueries _ trip perQueryLimit maxQueries [] []
    (searchKeywords trip)
  rw [List.nil_append] at hnew
  have hkeywords : ((searchKeywords trip).map fun keyword => keyword.2.2).Pairwise
      fun a b => -a ≤ -b := by
    have hmap : (searchKeywords trip).map (fun keyword => keyword.2.2) =
        List.replicate trip.mustVisit.length 100 ++ List.replicate trip.interests.length 50 := by
      simp [searchKeywords, Function.comp_def]
    rw [hmap, List.pairwise_append]
    refine ⟨List.pairwise_replicate.mpr (.inr le_rfl), List.pairwise_replicate.mpr (.inr le_rfl),
      fun a ha b hb => ?_⟩
    rw [List.eq_of_mem_replicate ha, List.eq_of_mem_replicate hb]
    decide
  rw [hnew] at h
  split at h
  · obtain rfl := Except.ok.inj h
    exact List.pairwise_singleton ..
  · obtain rfl := Except.ok.inj h
    have hpriorities : (new.map POISearchQuery.priority).Pairwise fun a b => -a ≤ -b :=
      hkeywords.sublist hsublist
    exact (List.pairwise_map (f := POISearchQuery.priority)).mp hpriorities

/-! ## Loaded places -/

section Loaded

omit [Platform]

/-- What a search has found. -/
def foundIds (result : ToolResult (List POIFacts)) : List String :=
  match result with
  | .success facts _ _ => facts.map POIFacts.id
  | .failed _ _ => []

/-- The loaded places of a plan are the first distinct ones of its results. -/
theorem ids_loadedFacts {limit : ℕ} (hlimit : 0 < limit) {queries : List POISearchQuery}
    (hqueries : queries.Pairwise fun a b => -a.priority ≤ -b.priority)
    {results : List (ToolResult (List POIFacts))} (hlength : results.length = queries.length)
    {facts : List POIFacts} (h : loadedFacts limit queries results = .ok facts) :
    facts.map POIFacts.id = (results.flatMap foundIds).eraseDups.take limit := by
  obtain ⟨found, hfound, h⟩ := bind_eq_ok h
  obtain rfl := Except.ok.inj h
  have heach : List.Forall₂ (fun (entry : POISearchQuery × ToolResult (List POIFacts))
      (loaded : ℤ × List POIFacts) => loaded.1 = entry.1.priority ∧
        loaded.2.map POIFacts.id = foundIds entry.2) (queries.zip results) found := by
    refine (mapM_eq_ok.mp hfound).imp fun entry loaded hloaded => ?_
    obtain ⟨query, result⟩ := entry
    cases result with
    | success facts fetchedAt expiresAt =>
      obtain rfl := Except.ok.inj hloaded
      exact ⟨rfl, rfl⟩
    | failed code safeMessage => exact absurd hloaded (by simp)
  have hpriorities : found.map Prod.fst = queries.map POISearchQuery.priority := by
    have hzip : (queries.zip results).map (fun entry => entry.1.priority) =
        queries.map POISearchQuery.priority := by
      have hqueries : (queries.zip results).map Prod.fst = queries := List.map_fst_zip hlength.ge
      conv_rhs => rw [← hqueries]
      rw [List.map_map]
      rfl
    rw [← hzip, ← List.forall₂_eq_eq_eq, List.forall₂_map_left_iff, List.forall₂_map_right_iff]
    exact heach.flip.imp fun _ _ hentry => hentry.1
  have hsorted : sortByKey (fun entry : ℤ × List POIFacts => -entry.1) found = found := by
    have : Std.Total fun a b : ℤ × List POIFacts => -a.1 ≤ -b.1 := ⟨fun _ _ => le_total _ _⟩
    refine List.Pairwise.insertionSort_eq ?_
    have hfound : (found.map Prod.fst).Pairwise fun a b => -a ≤ -b := by
      rw [hpriorities, List.pairwise_map]
      exact hqueries
    exact (List.pairwise_map (f := Prod.fst)).mp hfound
  have hids : (found.flatMap Prod.snd).map POIFacts.id = results.flatMap foundIds := by
    have hzip : (queries.zip results).map Prod.snd = results := List.map_snd_zip hlength.le
    rw [List.map_flatMap, ← hzip, List.flatMap_map, List.flatMap, List.flatMap]
    congr 1
    rw [← List.forall₂_eq_eq_eq, List.forall₂_map_left_iff, List.forall₂_map_right_iff]
    exact heach.flip.imp fun _ _ hentry => hentry.2
  have hentries := @values_collectFacts limit ∅ (found.flatMap Prod.snd)
    (by intro entry hentry; cases hentry)
  have hkeys : (collectFacts limit ∅ (found.flatMap Prod.snd)).values.map POIFacts.id =
      (collectFacts limit ∅ (found.flatMap Prod.snd)).keys := by
    rw [Dict.values, List.map_map]
    exact List.map_congr_left fun entry hentry => hentries entry hentry
  rw [hsorted, hkeys, keys_collectFacts hlimit, hids]
  simp [List.removeAll]

/-- The distinct places that the searches before one have found, in the order of the plan. -/
def idsBefore (results : List (ToolResult (List POIFacts))) (i : ℕ) : List String :=
  ((results.take i).flatMap foundIds).eraseDups

/-- A search that has found something keeps one of its places exactly when the earlier ones leave
room or one of their places that are kept is its own. -/
theorem exists_loaded_iff {limit : ℕ} {results : List (ToolResult (List POIFacts))} {i : ℕ}
    {result : ToolResult (List POIFacts)} (hresult : results[i]? = some result)
    (hfound : foundIds result ≠ []) :
    (∃ id ∈ foundIds result, id ∈ (results.flatMap foundIds).eraseDups.take limit) ↔
      (idsBefore results i).length < limit ∨
        ∃ id ∈ foundIds result, id ∈ (idsBefore results i).take limit := by
  obtain ⟨hi, rfl⟩ := List.getElem?_eq_some_iff.mp hresult
  have hsplit : results.flatMap foundIds = (results.take i).flatMap foundIds ++
      (foundIds results[i] ++ (results.drop (i + 1)).flatMap foundIds) := by
    rw [← List.flatMap_cons, ← List.drop_eq_getElem_cons hi, ← List.flatMap_append,
      List.take_append_drop]
  rw [hsplit]
  exact exists_mem_take_eraseDups hfound limit

end Loaded

/-- **The candidate pool.**  The pool of a search plan has distinct places and never more than its
limit, and a search that has found something keeps one of its places exactly when the searches
before it have found fewer places than the limit, or one of its own among the first ones. -/
theorem requiredLoaded_iff {trip : TripSpec} {policy : PlanningPolicy}
    {queries : List POISearchQuery}
    (hplan : createSearchPlan trip policy.poiQueryLimit policy.poiMaxQueries = .ok queries)
    {results : List (ToolResult (List POIFacts))} (hlength : results.length = queries.length)
    {facts : List POIFacts} (hload : loadedFacts policy.poiCandidateLimit queries results =
      .ok facts) :
    (facts.map POIFacts.id).Nodup ∧ facts.length ≤ policy.poiCandidateLimit ∧
      ∀ i result, results[i]? = some result → foundIds result ≠ [] →
        ((∃ id ∈ foundIds result, id ∈ facts.map POIFacts.id) ↔
          (idsBefore results i).length < policy.poiCandidateLimit ∨
            ∃ id ∈ foundIds result,
              id ∈ (idsBefore results i).take policy.poiCandidateLimit) := by
  have hids := ids_loadedFacts policy.poiCandidateLimit_bounds.1
    (priorities_createSearchPlan hplan) hlength hload
  refine ⟨nodup_loadedFacts hload, ?_, fun i result hresult hfound => ?_⟩
  · rw [← List.length_map (f := POIFacts.id), hids]
    exact List.length_take_le ..
  · rw [hids]
    exact exists_loaded_iff hresult hfound

namespace Sample

/-- The trip, with three places that must be visited. -/
def requiringTrip : TripSpec := { trip with mustVisit := ["a", "b", "c"] }

/-- A search that has found so many places. -/
def findings (name : String) (count : ℕ) : ToolResult (List POIFacts) :=
  .success ((List.range count).map fun i => (poi (name ++ toString i) i 60).facts) none none

/-- The answers to the three searches. -/
def answers : List (ToolResult (List POIFacts)) :=
  [findings "a" 10, findings "b" 10, findings "c" 1]

/-- The searches of the trip. -/
def requiredQueries : List POISearchQuery :=
  ["a", "b", "c"].map fun keyword => ⟨"杭州", keyword, true, 10, 100⟩

omit [Platform] in
theorem createSearchPlan_requiringTrip :
    @createSearchPlan plainPlatform requiringTrip 10 12 = .ok requiredQueries := by
  decide +kernel

end Sample

omit [Platform] in
/-- The second of the three searches keeps a place, since the first has found ten only. -/
theorem requiredLoaded_iff_second :
    ∃ facts, loadedFacts 12 Sample.requiredQueries Sample.answers = .ok facts ∧
      ∃ id ∈ foundIds (Sample.findings "b" 10), id ∈ facts.map POIFacts.id := by
  let := plainPlatform
  obtain ⟨facts, hload, -⟩ := okAnd_eq_true (show okAnd (loadedFacts 12 Sample.requiredQueries
    Sample.answers) (fun _ => true) = true by decide +kernel)
  have hiff := @requiredLoaded_iff plainPlatform _ {} _ Sample.createSearchPlan_requiringTrip _
    rfl _ hload
  have hall := hiff.2.2 1 (Sample.findings "b" 10) rfl (by decide +kernel)
  exact ⟨facts, hload, hall.mpr (.inl (by decide +kernel))⟩

omit [Platform] in
/-- Three searches for required places: the first two fill the pool of twelve, and nothing of the
third is left. -/
theorem exists_required_not_loaded :
    ∃ facts, @createSearchPlan plainPlatform Sample.requiringTrip 10 12 =
        .ok Sample.requiredQueries ∧
      (Sample.requiredQueries.filter POISearchQuery.exactMatch).length ≤ 12 ∧
      loadedFacts 12 Sample.requiredQueries Sample.answers = .ok facts ∧
      foundIds (Sample.findings "c" 1) ≠ [] ∧
      ∀ id ∈ foundIds (Sample.findings "c" 1), id ∉ facts.map POIFacts.id := by
  obtain ⟨facts, hload, hlost⟩ := okAnd_eq_true (show okAnd (loadedFacts 12
    Sample.requiredQueries Sample.answers) (fun facts => decide (∀ id ∈ foundIds
      (Sample.findings "c" 1), id ∉ facts.map POIFacts.id)) = true by decide +kernel)
  exact ⟨facts, Sample.createSearchPlan_requiringTrip, by decide, hload, by decide +kernel,
    of_decide_eq_true hlost⟩

end TravelPlanAgent
