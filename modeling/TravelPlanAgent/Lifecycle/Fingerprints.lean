import TravelPlanAgent.Domain.Lifecycle

/-!
# Item ids and fingerprints

* `stableItemId`, `newItemId`: the ids of items of a first version and of an edit.
* `withStableItemIds`: the first version of a candidate, with an id for every item.
* `itemFingerprint`, `dayFingerprint`, `planFingerprint`: what a lock compares.
-/

namespace TravelPlanAgent

open Calendar

variable [Platform]

/-! ## Ids -/

/-- `item.poi_id or item.name.strip().casefold()`. -/
def itemIdentity (item : PlanItem) : String :=
  match item.poiId with
  | none => normalize item.name
  | some poiId => if poiId = "" then normalize item.name else poiId

/-- `stable_item_id`. -/
def stableItemId (sessionId candidateId : String) (item : PlanItem) (day : Date)
    (occurrence : ℕ) : String :=
  "item_" ++ prefixText 20 (jsonHash (.arr
    [.str sessionId, .str candidateId, .str (itemIdentity item), .str day.isoformat,
     .num occurrence]))

/-- `new_item_id`. -/
def newItemId (sessionId requestId : String) (operationIndex : ℕ) : String :=
  "item_" ++ prefixText 20 (jsonHash (.arr [.str sessionId, .str requestId, .num operationIndex]))

/-- How often each identity was seen on each date. -/
abbrev Occurrences := Dict (Date × String) ℕ

/-- Give an item its id, unless it has one, and count it. -/
def withStableItemId (sessionId candidateId : String) (day : Date) (seen : Occurrences)
    (item : PlanItem) : Occurrences × PlanItem :=
  let key := (day, itemIdentity item)
  let occurrence := (seen.get? key).getD 0
  let itemId := match item.itemId with
    | none => stableItemId sessionId candidateId item day occurrence
    | some itemId =>
      if itemId = "" then stableItemId sessionId candidateId item day occurrence else itemId
  (seen.set key (occurrence + 1), { item with itemId := some itemId, locked := false })

/-- Give the items of a day their ids. -/
def withStableItems (sessionId candidateId : String) (day : Date) :
    Occurrences → List PlanItem → Occurrences × List PlanItem
  | seen, [] => (seen, [])
  | seen, item :: rest =>
    let (seen, item) := withStableItemId sessionId candidateId day seen item
    let (seen, rest) := withStableItems sessionId candidateId day seen rest
    (seen, item :: rest)

/-- Give the items of some days their ids. -/
def withStableDays (sessionId candidateId : String) : Occurrences → List DayPlan → List DayPlan
  | _, [] => []
  | seen, day :: rest =>
    let (seen, items) := withStableItems sessionId candidateId day.date seen day.items
    { day with items } :: withStableDays sessionId candidateId seen rest

/-- `with_stable_item_ids`. -/
def withStableItemIds (sessionId : String) (candidate : PlanCandidate) : PlanCandidate :=
  { candidate with days := withStableDays sessionId candidate.id ∅ candidate.days }

/-! ## Fingerprints -/

def optionalText : Option String → Json
  | none => .null
  | some text => .str text

/-- `item_fingerprint`. -/
def itemFingerprint (item : PlanItem) (day : Date) : String :=
  jsonHash (.obj
    [("day", .str day.isoformat), ("end", .str item.endAt.isoformat),
     ("item_id", optionalText item.itemId), ("name", .str item.name),
     ("poi_id", optionalText item.poiId), ("start", .str item.startAt.isoformat),
     ("type", .str item.type.value)])

/-- `day_fingerprint`. -/
def dayFingerprint (day : DayPlan) : String :=
  jsonHash (.obj
    [("area", .str day.primaryArea), ("cost", .str (decimalText day.knownEstimatedCost)),
     ("date", .str day.date.isoformat),
     ("items", .arr (day.items.map fun item => .obj
       [("distance", .num item.distanceFromPreviousMeters), ("end", .str item.endAt.isoformat),
        ("id", optionalText item.itemId), ("name", .str item.name),
        ("poi", optionalText item.poiId), ("start", .str item.startAt.isoformat),
        ("travel", .num item.travelFromPreviousMinutes)])),
     ("theme", .str day.theme), ("travel", .num day.totalTravelMinutes),
     ("walking", .num day.walkingDistanceMeters)])

/-- `plan_fingerprint`. -/
def planFingerprint (candidate : PlanCandidate) : String :=
  jsonHash (.arr (candidate.days.map fun day => .str (dayFingerprint day)))

/-! ## Locating -/

/-- The first item with an id, together with its date. -/
def locateItem (candidate : PlanCandidate) (itemId : String) : Option (Date × PlanItem) :=
  candidate.datedItems.find? fun (_, item) => decide (item.itemId = some itemId)

/-- The first day whose date is written like this. -/
def dayNamed (candidate : PlanCandidate) (isoDate : String) : Option DayPlan :=
  candidate.days.find? fun day => decide (day.date.isoformat = isoDate)

/-- The day of a date; the last one wins. -/
def dayOn (candidate : PlanCandidate) (date : Date) : Option DayPlan :=
  Selection.lastWith (fun day => decide (day.date = date)) candidate.days

end TravelPlanAgent
