import TravelPlanAgent.Memory.Models
import TravelPlanAgent.Requirements.Models

/-!
# Preferences in the context of a trip

The composer takes up the confirmed preferences that matter for a trip, as far as its budget goes,
and applies what it took up to the trip.

* `PreferenceValue.same`: Python's comparison of preference values.
* `screen`, `contextOf`, `compose`: `PreferenceContextComposer.compose`.
* `applyToTrip`, `PersonalizedTrip.validate`: the trip with preferences, and whether it is valid.
* `same_iff`: values are the same when they denote the same.
-/

namespace TravelPlanAgent

open Calendar Selection

/-! ## Names -/

def MemoryCategory.value : MemoryCategory → String
  | .pace => "pace"
  | .preferredCategories => "preferred_categories"
  | .avoidedCategories => "avoided_categories"
  | .walkingTolerance => "walking_tolerance"
  | .preferredTransport => "preferred_transport"
  | .foodPreferences => "food_preferences"
  | .schedulePreferences => "schedule_preferences"
  | .accessibilityNeeds => "accessibility_needs"
  | .budgetStyle => "budget_style"

def MemorySource.value : MemorySource → String
  | .explicitUser => "explicit_user"
  | .repeatedBehavior => "repeated_behavior"
  | .singleAction => "single_action"
  | .modelInference => "model_inference"
  | .import => "import"

inductive AgentRole where
  | planner | critic | replanner
  deriving DecidableEq

def AgentRole.value : AgentRole → String
  | .planner => "planner"
  | .critic => "critic"
  | .replanner => "replanner"

/-! ## Values -/

/-- Texts and numbers are told apart; flags are the numbers 0 and 1. -/
def PreferenceScalar.denotes : PreferenceScalar → String ⊕ ℚ
  | .str value => .inl value
  | .int value => .inr value
  | .float value => .inr value
  | .bool value => .inr (if value then 1 else 0)

/-- A value of a dictionary. -/
abbrev PreferenceItem := PreferenceScalar ⊕ List PreferenceScalar

def PreferenceItem.denotes (item : PreferenceItem) : (String ⊕ ℚ) ⊕ List (String ⊕ ℚ) :=
  Sum.map PreferenceScalar.denotes (List.map PreferenceScalar.denotes) item

/-- What a dictionary has under a key. -/
def itemAt (values : List (String × PreferenceItem)) (key : String) :
    Option ((String ⊕ ℚ) ⊕ List (String ⊕ ℚ)) :=
  (values.lookup key).map PreferenceItem.denotes

/-- Python's `==`.  The order of the keys of a dictionary does not matter. -/
def PreferenceValue.same : PreferenceValue → PreferenceValue → Bool
  | .scalar a, .scalar b => a.denotes = b.denotes
  | .list a, .list b => a.map PreferenceScalar.denotes = b.map PreferenceScalar.denotes
  | .dict a, .dict b =>
    (a.map Prod.fst ++ b.map Prod.fst).all fun key => itemAt a key = itemAt b key
  | _, _ => false

/-- What Python compares. -/
inductive Denoted where
  | scalar (value : String ⊕ ℚ)
  | list (values : List (String ⊕ ℚ))
  | dict (item : String → Option ((String ⊕ ℚ) ⊕ List (String ⊕ ℚ)))

def PreferenceValue.denotes : PreferenceValue → Denoted
  | .scalar value => .scalar value.denotes
  | .list values => .list (values.map PreferenceScalar.denotes)
  | .dict values => .dict (itemAt values)

theorem itemAt_of_not_mem {values : List (String × PreferenceItem)} {key : String}
    (h : key ∉ values.map Prod.fst) : itemAt values key = none := by
  rw [itemAt, Option.map_eq_none_iff, List.lookup_eq_none_iff]
  intro item hitem
  rw [bne_iff_ne]
  rintro rfl
  exact h (List.mem_map_of_mem hitem)

theorem same_iff {a b : PreferenceValue} : a.same b = true ↔ a.denotes = b.denotes := by
  cases a <;> cases b
  case dict.dict a b =>
    simp only [PreferenceValue.same, PreferenceValue.denotes, Denoted.dict.injEq,
      List.all_eq_true, decide_eq_true_eq]
    constructor
    · intro h
      funext key
      by_cases hkey : key ∈ a.map Prod.fst ++ b.map Prod.fst
      · exact h key hkey
      · rw [List.mem_append, not_or] at hkey
        rw [itemAt_of_not_mem hkey.1, itemAt_of_not_mem hkey.2]
    · intro h key _
      rw [h]
  all_goals simp [PreferenceValue.same, PreferenceValue.denotes]

/-! ## The JSON of a summary -/

def PreferenceScalar.json : PreferenceScalar → Json
  | .str value => .str value
  | .int value => .num value
  | .float value => .float value
  | .bool value => .bool value

def PreferenceItem.json : PreferenceItem → Json
  | .inl value => value.json
  | .inr values => .arr (values.map PreferenceScalar.json)

def PreferenceValue.json : PreferenceValue → Json
  | .scalar value => value.json
  | .list values => .arr (values.map PreferenceScalar.json)
  | .dict values => .obj (values.map fun (key, item) => (key, PreferenceItem.json item))

structure PreferenceSummary where
  memoryId : String
  category : MemoryCategory
  value : PreferenceValue
  confidence : ℚ
  source : MemorySource
  reason : String
  score : ℚ

def PreferenceSummary.json (summary : PreferenceSummary) : Json :=
  .obj
    [("memory_id", .str summary.memoryId), ("category", .str summary.category.value),
     ("value", summary.value.json), ("confidence", .float summary.confidence),
     ("source", .str summary.source.value), ("reason", .str summary.reason),
     ("score", .float summary.score)]

/-! ## Contexts -/

inductive ConflictResolution where
  | currentRequestWins | userConfirmationRequired
  deriving DecidableEq

structure MemoryConflict where
  conflictId : String
  category : MemoryCategory
  currentMemoryId : String
  conflictingMemoryId : String
  resolution : ConflictResolution
  detectedAt : Instant
  deriving DecidableEq

structure ContextManifest where
  contextId : String
  agentRole : AgentRole
  policyVersion : String := "memory-context-v1"
  selectedMemoryIds : List String
  selectedCategories : List MemoryCategory
  excludedCount : ℕ
  exclusionReasons : Dict String ℕ
  estimatedTokens : ℕ
  characterCount : ℕ
  maxTokens : ℕ
  maxCharacters : ℕ
  overriddenMemoryIds : List String
  contentHash : String

structure PreferenceContext where
  summaries : List PreferenceSummary
  manifest : ContextManifest
  conflicts : List MemoryConflict

/-- Python's `==` of manifests.  The order of the reasons does not matter. -/
structure ContextManifest.Same (a b : ContextManifest) : Prop where
  rest : { a with exclusionReasons := ∅ } = { b with exclusionReasons := ∅ }
  reasons : ∀ reason, a.exclusionReasons.get? reason = b.exclusionReasons.get? reason

/-- Python's `==` of contexts. -/
structure PreferenceContext.Same (a b : PreferenceContext) : Prop where
  summaries : a.summaries = b.summaries
  manifest : a.manifest.Same b.manifest
  conflicts : a.conflicts = b.conflicts

/-- `PreferenceContextComposer`. -/
structure PreferenceContextComposer where
  maxTokens : ℕ := 1200
  maxCharacters : ℕ := 4800
  maxTokens_ge : 32 ≤ maxTokens := by decide
  maxCharacters_ge : 128 ≤ maxCharacters := by decide

/-! ## Which memories matter -/

variable [Platform]

/-- `_scope_matches`. -/
def scopeMatches (memory : PreferenceMemory) (trip : TripFields) : Bool :=
  match memory.scope with
  | .global => true
  | .destination =>
    memory.scopeKey.any fun key => key ≠ "" ∧ casefold key = casefold trip.destination
  | .travelParty => true

/-- `_explicitly_overridden`. -/
def explicitlyOverridden (memory : PreferenceMemory) (draft : Option RequirementDraft) : Bool :=
  draft.any fun draft =>
    match memory.category with
    | .pace => draft.pace.isSome
    | .walkingTolerance => draft.mobility.isSome
    | .preferredCategories => !draft.interests.isEmpty
    | .avoidedCategories => !draft.avoid.isEmpty
    | _ => false

/-- `_role_weight`. -/
def roleWeight (category : MemoryCategory) : AgentRole → ℚ
  | .planner =>
    match category with
    | .pace | .preferredCategories | .avoidedCategories | .walkingTolerance
    | .accessibilityNeeds => 3
    | .preferredTransport | .foodPreferences | .schedulePreferences | .budgetStyle => 2
  | .critic =>
    match category with
    | .pace | .avoidedCategories | .accessibilityNeeds | .schedulePreferences => 3
    | .preferredCategories | .walkingTolerance | .foodPreferences => 2
    | .preferredTransport | .budgetStyle => 0
  | .replanner =>
    match category with
    | .avoidedCategories | .walkingTolerance | .accessibilityNeeds => 3
    | .pace | .preferredTransport => 2
    | .preferredCategories | .foodPreferences | .schedulePreferences | .budgetStyle => 0

/-- `_freshness`. -/
def freshness (memory : PreferenceMemory) (now : Instant) : ℚ :=
  let elapsed : ℚ := ((now - memory.updatedAt : ℤ) : ℚ) / 1000000
  let ageDays := max (elapsed / 86400) 0
  max (1 - ageDays / 365) 0

/-- A memory with its score and the reason to take it up. -/
structure RankedMemory where
  score : ℚ
  memory : PreferenceMemory
  reason : String

/-- The first loop of `compose`, for one memory: why it is excluded, or its rank. -/
def screen (trip : TripFields) (draft : Option RequirementDraft) (agentRole : AgentRole)
    (now : Instant) (memory : PreferenceMemory) : Except String RankedMemory :=
  if ¬ memory.Active now then .error "inactive"
  else if !scopeMatches memory trip then .error "scope_mismatch"
  else if explicitlyOverridden memory draft then .error "current_request_override"
  else if roleWeight memory.category agentRole ≤ 0 then .error "role_irrelevant"
  else .ok {
    score := roundTo 6 (4 + roleWeight memory.category agentRole + memory.confidence * 2 +
      freshness memory now)
    memory
    reason := "confirmed " ++ memory.category.value ++ " relevant to " ++
      agentRole.value }

/-! ## Conflicts -/

/-- The second loop of `compose`: each memory that differs from the first of its category, with
that first one. -/
def conflictingPairs : List PreferenceMemory → List PreferenceMemory →
    List (PreferenceMemory × PreferenceMemory)
  | _, [] => []
  | firsts, memory :: rest =>
    match firsts.find? fun first => first.category = memory.category with
    | none => conflictingPairs (firsts ++ [memory]) rest
    | some previous =>
      if previous.value.same memory.value then conflictingPairs firsts rest
      else (previous, memory) :: conflictingPairs firsts rest

/-- The conflicts of a call, with the ids and times that it draws. -/
def memoryConflicts (draw : ℕ → String × Instant)
    (pairs : List (PreferenceMemory × PreferenceMemory)) : List MemoryConflict :=
  pairs.mapIdx fun i (previous, memory) => {
    conflictId := (draw i).1
    category := memory.category
    currentMemoryId := previous.memoryId
    conflictingMemoryId := memory.memoryId
    resolution := .userConfirmationRequired
    detectedAt := (draw i).2 }

/-! ## The budget -/

namespace PreferenceContextComposer

variable (composer : PreferenceContextComposer)

def summaryOf (ranked : RankedMemory) : PreferenceSummary where
  memoryId := ranked.memory.memoryId
  category := ranked.memory.category
  value := ranked.memory.value
  confidence := ranked.memory.confidence
  source := ranked.memory.source
  reason := ranked.reason
  score := ranked.score

/-- `len(summary.model_dump_json())`. -/
def summarySize (summary : PreferenceSummary) : ℕ := jsonLength summary.json

/-- `math.ceil(characters / 4)`. -/
def tokensOf (characters : ℕ) : ℕ := (characters + 3) / 4

/-- The third loop of `compose`: what is taken up, and why the others are left out. -/
def takeUp (conflicted : List MemoryCategory) (characters : ℕ) :
    List RankedMemory → List PreferenceSummary × List String
  | [] => ([], [])
  | ranked :: rest =>
    if ranked.memory.category ∈ conflicted then
      let (summaries, reasons) := takeUp conflicted characters rest
      (summaries, "memory_conflict" :: reasons)
    else
      let summary := summaryOf ranked
      let size := summarySize summary
      if characters + size > composer.maxCharacters ∨
          tokensOf (characters + size) > composer.maxTokens then
        let (summaries, reasons) := takeUp conflicted characters rest
        (summaries, "context_budget" :: reasons)
      else
        let (summaries, reasons) := takeUp conflicted (characters + size) rest
        (summary :: summaries, reasons)

/-- `exclusion[reason] = exclusion.get(reason, 0) + 1`, for one reason after the other. -/
def countReasons (reasons : List String) : Dict String ℕ :=
  reasons.foldl (fun counts reason => counts.set reason ((counts.get? reason).getD 0 + 1)) ∅

/-- The eligible memories, best first. -/
def rank (screened : List (Except String RankedMemory)) : List RankedMemory :=
  sortByKey (fun ranked => toLex (-ranked.score, ranked.memory.memoryId))
    (screened.filterMap Except.toOption)

/-- Why a memory is excluded. -/
def exclusionOf : Except String RankedMemory → Option String
  | .ok _ => none
  | .error reason => some reason

/-- The manifest hash. -/
def manifestHash (agentRole : AgentRole) (selected overridden : List String) : String :=
  jsonHash (.obj
    [("agent_role", .str agentRole.value), ("overridden", .arr (overridden.map .str)),
     ("policy", .str "memory-context-v1"), ("selected", .arr (selected.map .str))])

/-- What `compose` makes of memories of which it can be told whether they are active. -/
def contextOf (memories : List PreferenceMemory) (trip : TripFields)
    (draft : Option RequirementDraft) (agentRole : AgentRole) (now : Instant)
    (draw : ℕ → String × Instant) : PreferenceContext :=
  let screened := memories.map (screen trip draft agentRole now)
  let overridden := sortByKey id ((memories.filter fun memory =>
    exclusionOf (screen trip draft agentRole now memory) = some "current_request_override").map
      PreferenceMemory.memoryId)
  let active := rank screened
  let pairs := conflictingPairs [] (active.map RankedMemory.memory)
  let conflicted := pairs.map fun pair => pair.2.category
  let (summaries, reasons) := composer.takeUp conflicted 0 active
  let exclusion := countReasons (screened.filterMap exclusionOf ++ reasons)
  let characters := (summaries.map summarySize).sum
  let selected := summaries.map PreferenceSummary.memoryId
  let contentHash := manifestHash agentRole selected overridden
  { summaries
    manifest :=
      { contextId := "ctx-" ++ prefixText 24 contentHash
        agentRole
        selectedMemoryIds := selected
        selectedCategories := summaries.map PreferenceSummary.category
        excludedCount := exclusion.values.sum
        exclusionReasons := exclusion
        estimatedTokens := tokensOf characters
        characterCount := characters
        maxTokens := composer.maxTokens
        maxCharacters := composer.maxCharacters
        overriddenMemoryIds := overridden
        contentHash }
    conflicts := memoryConflicts draw pairs }

/-- `compose`; only `active_at` raises in its first loop. -/
def compose (memories : List PreferenceMemory) (trip : TripFields)
    (draft : Option RequirementDraft) (agentRole : AgentRole) (now : Instant)
    (draw : ℕ → String × Instant) : Except MemoryError PreferenceContext := do
  let _ ← onlyActive now memories
  .ok (composer.contextOf memories trip draft agentRole now draw)

end PreferenceContextComposer

/-! ## Preferences applied to a trip -/

/-- What `str` and `int` make of preference values. -/
class PreferenceText where
  /-- `str` of a value that is not a text. -/
  reprText : PreferenceValue → String
  /-- `int` of a text, where it is one. -/
  intOfText : String → Option ℤ

export PreferenceText (reprText intOfText)

/-- Only texts are texts, and no text is a number. -/
@[reducible] def plainPreferenceText : PreferenceText where
  reprText _ := ""
  intOfText _ := none

/-- Mobility limits that no model has checked. -/
structure MobilityFields where
  maxDailyWalkingMeters : ℤ
  maxDailyActivityMinutes : ℕ
  needsFrequentRest : Bool
  deriving DecidableEq

def MobilityFields.of (mobility : MobilityConstraints) : MobilityFields :=
  ⟨mobility.maxDailyWalkingMeters, mobility.maxDailyActivityMinutes, mobility.needsFrequentRest⟩

/-- A copy of a trip with other preferences, which is not validated. -/
structure PersonalizedTrip where
  trip : TripFields
  pace : Pace
  mobility : MobilityFields
  interests : List String
  avoid : List String

/-- `TripSpec.model_validate` of the copy. -/
def PersonalizedTrip.validate (copy : PersonalizedTrip) : Result TripFields :=
  if h : 0 ≤ copy.mobility.maxDailyWalkingMeters ∧ 0 < copy.mobility.maxDailyActivityMinutes then
    createTripSpec { copy.trip with
      pace := copy.pace
      mobility :=
        { maxDailyWalkingMeters := copy.mobility.maxDailyWalkingMeters.toNat
          maxDailyActivityMinutes := copy.mobility.maxDailyActivityMinutes
          needsFrequentRest := copy.mobility.needsFrequentRest
          maxDailyActivityMinutes_pos := h.2 }
      interests := copy.interests
      avoid := copy.avoid }
  else .error (.validationError "TripSpec")

/-- `updates`, `interests` and `avoid` of `apply_to_trip`. -/
structure TripUpdates where
  pace : Option Pace
  mobility : Option MobilityFields
  interests : List String
  avoid : List String
  deriving DecidableEq

section Applying

variable [PreferenceText]

/-- `str`. -/
def strOf : PreferenceValue → String
  | .scalar (.str value) => value
  | value => reprText value

/-- `_as_strings`. -/
def asStrings : PreferenceValue → List String
  | .list values => values.map fun value => strOf (.scalar value)
  | value => [strOf value]

/-- `int`. -/
def intOf : PreferenceValue → Result ℤ
  | .scalar (.int value) => .ok value
  | .scalar (.float value) => .ok (value.num.tdiv value.den)
  | .scalar (.bool value) => .ok (if value then 1 else 0)
  | .scalar (.str value) =>
    orRaise (intOfText value) (.valueError "invalid literal for int() with base 10")
  | _ => .error .typeError

/-- `Pace(…)`. -/
def paceOf (text : String) : Result Pace :=
  orRaise ([Pace.relaxed, .balanced, .intensive].find? fun pace => pace.value = text)
    (.valueError ("'" ++ text ++ "' is not a valid Pace"))

/-- `_merge_terms`. -/
def mergeTerms (current : List String) : List String → List String
  | [] => current
  | item :: rest =>
    if casefold item ∈ current.map casefold then mergeTerms current rest
    else mergeTerms (current ++ [item]) rest

/-- The avoided terms of a value, without those that the trip must visit. -/
def avoidCandidates (trip : TripFields) (value : PreferenceValue) : List String :=
  (asStrings value).filter fun term => casefold term ∉ trip.mustVisit.map casefold

/-- A value asks for frequent rests. -/
def asksForRest (value : PreferenceValue) : Bool :=
  "frequent_rest" ∈ (asStrings value).map casefold

/-- `draft is None or draft.pace is None`. -/
def paceFree (draft : Option RequirementDraft) : Bool := draft.all fun draft => draft.pace.isNone

/-- `draft is None or draft.mobility is None`. -/
def mobilityFree (draft : Option RequirementDraft) : Bool :=
  draft.all fun draft => draft.mobility.isNone

/-- The loop of `apply_to_trip`, for one summary. -/
def applySummary (trip : TripFields) (draft : Option RequirementDraft) (updates : TripUpdates)
    (summary : PreferenceSummary) : Result TripUpdates :=
  match summary.category with
  | .pace =>
    if paceFree draft then do
      let pace ← paceOf (strOf summary.value)
      return { updates with pace := some pace }
    else .ok updates
  | .walkingTolerance =>
    if mobilityFree draft then do
      let meters ← intOf summary.value
      -- the limits of the trip, whatever was updated before
      return { updates with
        mobility := some { MobilityFields.of trip.mobility with maxDailyWalkingMeters := meters } }
    else .ok updates
  | .preferredCategories =>
    .ok { updates with interests := mergeTerms updates.interests (asStrings summary.value) }
  | .avoidedCategories =>
    .ok { updates with avoid := mergeTerms updates.avoid (avoidCandidates trip summary.value) }
  | .accessibilityNeeds =>
    if asksForRest summary.value && mobilityFree draft then
      let base := updates.mobility.getD (.of trip.mobility)
      .ok { updates with mobility := some { base with needsFrequentRest := true } }
    else .ok updates
  | _ => .ok updates

/-- `apply_to_trip`, for the summaries of a context. -/
def applyToTrip (trip : TripFields) (draft : Option RequirementDraft)
    (summaries : List PreferenceSummary) : Result PersonalizedTrip := do
  let updates ← summaries.foldlM (applySummary trip draft) ⟨none, none, trip.interests, trip.avoid⟩
  return {
    trip
    pace := updates.pace.getD trip.pace
    mobility := updates.mobility.getD (.of trip.mobility)
    interests := updates.interests
    avoid := updates.avoid }

end Applying

/-! ## A trip and its memories -/

namespace Sample

/-- A memory that a user confirmed. -/
def preference (memoryId : String) (category : MemoryCategory) (value : PreferenceValue)
    (expiresAt : Option Instant) : PreferenceMemory where
  memoryId
  owner := ⟨"tenant", "user"⟩
  category
  value
  source := .explicitUser
  confidence := 1
  confirmationStatus := .confirmed
  createdAt := 0
  updatedAt := 0
  expiresAt := expiresAt.map .aware
  contentHash := "0123456789abcdef"

/-- A moment of the weekend, by its day and hour. -/
def weekendMoment (day hour : ℕ) : DateTime :=
  ⟨((Date.ofYmd 2026 10 1).days + day) * dayMicros + hour * 3600000000, 0⟩

/-- Two days in Hangzhou. -/
def weekendTrip : TripFields where
  destination := "Hangzhou"
  startDate := Date.ofYmd 2026 10 1
  endDate := Date.ofYmd 2026 10 2
  travelers := 2
  arrival := ⟨"Station", weekendMoment 0 10, ⟨120, 30⟩⟩
  departure := ⟨"Station", weekendMoment 1 18, ⟨120, 30⟩⟩
  accommodation := none
  totalBudget := none
  interests := []
  avoid := []
  mustVisit := []
  pace := .balanced
  mobility := {}
  dailyStart := .ofHourMinute 9 0
  dailyEnd := .ofHourMinute 20 0

/-- A preference of a context. -/
def summary (memoryId : String) (category : MemoryCategory) (value : PreferenceValue) :
    PreferenceSummary :=
  ⟨memoryId, category, value, 1, .explicitUser, "confirmed", 10⟩

/-- A need for frequent rests, and a walking tolerance. -/
def restNeed : PreferenceSummary :=
  summary "a" .accessibilityNeeds (.list [.str "frequent_rest"])

def shortWalks : PreferenceSummary := summary "b" .walkingTolerance (.scalar (.int 5000))

end Sample

end TravelPlanAgent
