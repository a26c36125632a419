import TravelPlanAgent.Planning.Defaults
import TravelPlanAgent.Planning.Drafts

/-!
# Which places are searched for

* `createSearchPlan`: one query for each must-visit place and each interest, each keyword once.
* `loadedFacts`: the places that the searches found, the most important searches first.
* `nodup_loadedFacts`: no place is loaded twice.
-/

namespace TravelPlanAgent

open Calendar Selection

variable [Platform]

/-! ## Queries -/

/-- A keyword with `exact_match` and `priority`. -/
def searchKeywords (trip : TripSpec) : List (String × Bool × ℤ) :=
  (trip.mustVisit.map fun name => (name, true, 100)) ++
    trip.interests.map fun interest => (interest, false, 50)

/-- The queries of some keywords, until there are `max_queries` of them. -/
def keywordQueries (trip : TripSpec) (perQueryLimit maxQueries : ℕ) (seen : List String)
    (queries : List POISearchQuery) : List (String × Bool × ℤ) → List POISearchQuery
  | [] => queries
  | (keyword, exactMatch, priority) :: rest =>
    let normalized := normalize keyword
    if normalized = "" ∨ normalized ∈ seen then
      keywordQueries trip perQueryLimit maxQueries seen queries rest
    else
      let queries := queries ++ [{ city := trip.destination, keyword := strip keyword, exactMatch
                                   limit := perQueryLimit, priority }]
      if queries.length = maxQueries then queries
      else keywordQueries trip perQueryLimit maxQueries (normalized :: seen) queries rest

/-- `build_search_plan`. -/
def createSearchPlan (trip : TripSpec) (perQueryLimit maxQueries : ℕ) :
    Result (List POISearchQuery) := do
  require (1 ≤ maxQueries ∧ maxQueries ≤ 100)
    (.valueError "max_queries must be between 1 and 100")
  match keywordQueries trip perQueryLimit maxQueries [] [] (searchKeywords trip) with
  | [] => return [{ city := trip.destination, keyword := "景点", exactMatch := false
                    limit := perQueryLimit, priority := 10 }]
  | queries => return queries

/-! ## Found places -/

omit [Platform]

/-- `facts_by_id.setdefault`, until `poi_candidate_limit` places are known. -/
def collectFacts (limit : ℕ) (found : Dict String POIFacts) :
    List POIFacts → Dict String POIFacts
  | [] => found
  | facts :: rest =>
    let found := if found.contains facts.id then found else found.set facts.id facts
    if found.size = limit then found else collectFacts limit found rest

/-- The places of successful searches, by falling priority; one failed search raises. -/
def loadedFacts (limit : ℕ) (queries : List POISearchQuery)
    (results : List (ToolResult (List POIFacts))) : Result (List POIFacts) := do
  let found ← (queries.zip results).mapM fun (query, result) =>
    match result with
    | .success facts _ _ => .ok (query.priority, facts)
    | .failed _ _ => .error .toolUnavailable
  let ordered := sortByKey (fun entry : ℤ × List POIFacts => -entry.1) found
  return (collectFacts limit ∅ (ordered.flatMap Prod.snd)).values

theorem values_collectFacts {limit : ℕ} {found : Dict String POIFacts} {facts : List POIFacts}
    (h : ∀ entry ∈ found.entries, entry.2.id = entry.1) :
    ∀ entry ∈ (collectFacts limit found facts).entries, entry.2.id = entry.1 := by
  induction facts generalizing found with
  | nil => exact h
  | cons place rest ih =>
    have hset : ∀ entry ∈ (if found.contains place.id then found
        else found.set place.id place).entries, entry.2.id = entry.1 := by
      split
      · exact h
      · next hnew =>
        have hkey : place.id ∉ found.keys := by
          intro hkey
          obtain ⟨value, hvalue⟩ := Dict.exists_get?_of_mem_keys hkey
          exact hnew (by rw [Dict.contains, hvalue]; rfl)
        rw [Dict.entries_set_of_not_mem hkey]
        intro entry hentry
        obtain hentry | hentry := List.mem_append.mp hentry
        · exact h entry hentry
        · rw [List.mem_singleton.mp hentry]
    rw [collectFacts]
    generalize (if found.contains place.id then found else found.set place.id place) = found'
      at hset ⊢
    split
    · exact hset
    · exact ih hset

/-- No place is loaded twice. -/
theorem nodup_loadedFacts {limit : ℕ} {queries : List POISearchQuery}
    {results : List (ToolResult (List POIFacts))} {facts : List POIFacts}
    (h : loadedFacts limit queries results = .ok facts) : (facts.map POIFacts.id).Nodup := by
  obtain ⟨found, _, h⟩ := bind_eq_ok h
  obtain rfl := Except.ok.inj h
  have hids := @values_collectFacts limit ∅
    ((sortByKey (fun entry : ℤ × List POIFacts => -entry.1) found).flatMap Prod.snd)
    (by intro entry hentry; cases hentry)
  rw [Dict.values, List.map_map]
  convert Dict.keys_nodup _ using 1
  exact List.map_congr_left fun entry hentry => hids entry hentry

end TravelPlanAgent
