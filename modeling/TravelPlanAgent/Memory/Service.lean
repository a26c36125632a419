import TravelPlanAgent.Memory.Context
import TravelPlanAgent.Memory.Stores

/-!
# The service of preference memories

* `normalizePreferenceValue`, `preferenceContentHash`: the policy of values and contents.
* `createExplicit`, `update`, `revoke`, `propose`, `confirmProposal`, `rejectProposal`: the methods
  of `PreferenceMemoryService`.
* `MemoryCall`, `MemoryServiceState.run`: sequences of calls by any users.
-/

namespace TravelPlanAgent

open Selection

/-! ## Policy -/

/-- What leaves a method of the service as an exception. -/
inductive PreferenceFailure where
  /-- An error of the repository or of a model. -/
  | memory (error : MemoryError)
  /-- `MemoryPolicyError`. -/
  | policy (code message : String)
  /-- `MemoryConflictError` of the service itself. -/
  | conflict (code : String)

/-- What the policy takes from the text operations of Python. -/
class PolicyText where
  /-- `json.dumps(…, ensure_ascii=False)`. -/
  dumps : Json → String
  /-- `str.lower`. -/
  lower : String → String
  /-- `\d`. -/
  isDecimal : Char → Bool

export PolicyText (dumps lower isDecimal)

/-- ASCII texts. -/
@[reducible] def plainPolicyText : PolicyText where
  dumps := Json.text
  lower s := String.ofList (s.toList.map Char.toLower)
  isDecimal := Char.isDigit

/-- The JSON of a value with `sort_keys=True`. -/
def PreferenceValue.sortedJson : PreferenceValue → Json
  | .dict values =>
    .obj ((sortByKey Prod.fst values).map fun (key, item) => (key, PreferenceItem.json item))
  | value => value.json

def forbiddenMarkers : List String :=
  ["身份证", "护照", "银行卡", "信用卡", "支付密码", "passport", "identity card", "credit card",
   "payment password"]

section Policy

variable [Platform] [PolicyText]

/-- `(?<!\d)\d{12,19}(?!\d)`: some run of digits is that long. -/
def hasLongNumber (text : String) : Bool :=
  (text.toList.splitOnP fun c => !isDecimal c).any fun run =>
    12 ≤ run.length && run.length ≤ 19

/-- `_reject_sensitive_value`. -/
def rejectSensitiveValue (value : PreferenceValue) : Except PreferenceFailure Unit :=
  let normalized := casefold (dumps value.sortedJson)
  if (forbiddenMarkers.any fun marker => textIn marker normalized) || hasLongNumber normalized then
    .error (.policy "sensitive_memory_rejected"
      "sensitive identity or payment data must not be stored as preference memory")
  else .ok ()

def invalidPreferenceValue {α : Type} (message : String) : Except PreferenceFailure α :=
  .error (.policy "invalid_preference_value" message)

/-- The values of a category that has a list of texts. -/
def normalizeTextValues (category : MemoryCategory) (values : List PreferenceItem) :
    Except PreferenceFailure PreferenceValue := do
  let texts ← values.mapM fun
    | .inl (.str text) => .ok text
    | _ => invalidPreferenceValue (category.value ++ " requires string values")
  let normalized := normalizeTerms [] texts
  if normalized = [] then invalidPreferenceValue (category.value ++ " must not be empty")
  else .ok (.list (normalized.map .str))

/-- The value of a category that has one of three words. -/
def normalizeWord (words : List String) (message : String) :
    PreferenceValue → Except PreferenceFailure PreferenceValue
  | .scalar (.str value) =>
    let word := lower (strip value)
    if word ∈ words then .ok (.scalar (.str word)) else invalidPreferenceValue message
  | _ => invalidPreferenceValue message

/-- The whole number of metres of a walking tolerance. -/
def normalizeMeters (meters : ℤ) : Except PreferenceFailure PreferenceValue :=
  if 0 ≤ meters ∧ meters ≤ 50000 then .ok (.scalar (.int meters))
  else invalidPreferenceValue "walking_tolerance must be between 0 and 50000 meters"

/-- `normalize_preference_value`. -/
def normalizePreferenceValue (category : MemoryCategory) (value : PreferenceValue) :
    Except PreferenceFailure PreferenceValue := do
  rejectSensitiveValue value
  match category with
  | .preferredCategories | .avoidedCategories | .preferredTransport | .foodPreferences
  | .accessibilityNeeds =>
    match value with
    | .list values => normalizeTextValues category (values.map .inl)
    | .scalar value => normalizeTextValues category [.inl value]
    | .dict _ => invalidPreferenceValue (category.value ++ " requires string values")
  | .pace =>
    normalizeWord ["relaxed", "balanced", "intensive"]
      "pace must be relaxed, balanced, or intensive" value
  | .walkingTolerance =>
    match value with
    | .scalar (.int meters) => normalizeMeters meters
    | .scalar (.float meters) => normalizeMeters (meters.num.tdiv meters.den)
    | _ => invalidPreferenceValue "walking_tolerance requires a numeric meter value"
  | .budgetStyle =>
    normalizeWord ["economy", "balanced", "comfort"]
      "budget_style must be economy, balanced, or comfort" value
  | .schedulePreferences =>
    match value with
    | .dict values =>
      if values.all fun (key, _) =>
          key ∈ ["earliest_start", "latest_end", "avoid_early_start"] then .ok value
      else invalidPreferenceValue "schedule_preferences contains unsupported fields"
    | _ => invalidPreferenceValue "schedule_preferences requires an object"

end Policy

def PreferenceScope.value : PreferenceScope → String
  | .global => "global"
  | .destination => "destination"
  | .travelParty => "travel_party"

/-- What a memory or a proposal is about. -/
structure PreferenceContent where
  category : MemoryCategory
  value : PreferenceValue
  scope : PreferenceScope
  scopeKey : Option String

def PreferenceMemory.content (memory : PreferenceMemory) : PreferenceContent :=
  ⟨memory.category, memory.value, memory.scope, memory.scopeKey⟩

def MemoryProposal.content (proposal : MemoryProposal) : PreferenceContent :=
  ⟨proposal.category, proposal.value, proposal.scope, proposal.scopeKey⟩

/-- The payload of `preference_content_hash`. -/
def PreferenceContent.payload (content : PreferenceContent) : Json :=
  .obj
    [("category", .str content.category.value), ("policy_version", .str "preference-policy-v1"),
     ("scope", .str content.scope.value),
     ("scope_key", match content.scopeKey with | none => .null | some key => .str key),
     ("value", content.value.sortedJson)]

/-- `preference_content_hash`. -/
def preferenceContentHash [Platform] (content : PreferenceContent) : String :=
  jsonHash content.payload

/-! ## Requests -/

structure PreferenceCreateRequest where
  category : MemoryCategory
  value : PreferenceValue
  scope : PreferenceScope := .global
  scopeKey : Option String := none
  expiresAt : Option Moment := none
  scopeKey_length : ∀ key ∈ scopeKey, LengthWithin 0 256 key := by decide

structure PreferenceUpdateRequest where
  value : Option PreferenceValue := none
  expiresAt : Option Moment := none
  expectedRevision : ℤ
  expectedRevision_ge : 1 ≤ expectedRevision := by decide

structure MemoryProposalRequest where
  category : MemoryCategory
  value : PreferenceValue
  scope : PreferenceScope := .global
  scopeKey : Option String := none
  source : MemorySource := .modelInference
  sourceRunId : Option String := none
  confidence : ℚ := 1 / 2
  reason : String
  expiresAt : Option Moment := none
  scopeKey_length : ∀ key ∈ scopeKey, LengthWithin 0 256 key := by decide
  sourceRunId_length : ∀ runId ∈ sourceRunId, LengthWithin 0 128 runId := by decide
  confidence_bounds : 0 ≤ confidence ∧ confidence ≤ 1 := by decide
  reason_length : LengthWithin 1 500 reason := by decide

/-! ## Methods -/

/-- What a request about a proposal was answered with. -/
inductive ProposalDecision where
  | memory (memory : PreferenceMemory)
  | proposal (proposal : MemoryProposal)

/-- A decision about a proposal of an owner, by the id of its request. -/
abbrev DecisionKey := Principal × String × String

/-- A `PreferenceMemoryService` with its repository. -/
structure MemoryServiceState (σ : Type) where
  store : σ
  /-- `_decisions`. -/
  decisions : Dict DecisionKey ProposalDecision := ∅

/-- An error of the repository leaves the method. -/
def raised {α : Type} : Except MemoryError α → Except PreferenceFailure α
  | .ok a => .ok a
  | .error error => .error (.memory error)

section Methods

variable [Platform] [PolicyText] {σ : Type} (repository : PreferenceRepository σ) (now : Instant)
  (owner : Principal) (s : σ)

/-- The first memory that is not revoked and stored under the hash, or a new one. -/
def findOrCreate (contentHash : String) (build : PreferenceMemory) :
    Except PreferenceFailure (PreferenceMemory × σ) := do
  let existing ← raised (repository.findContentHash s owner contentHash)
  match existing with
  | some existing => return (existing, s)
  | none =>
    let memory ← raised (readMemory build)
    let stored ← raised (repository.createMemory s memory)
    return (memory, stored)

/-- The memory that is built for a content. -/
def confirmedMemory (content : PreferenceContent) (sourceRunId : Option String)
    (expiresAt : Option Moment) (contentHash memoryId : String) : PreferenceMemory where
  memoryId
  owner
  category := content.category
  value := content.value
  scope := content.scope
  scopeKey := content.scopeKey
  source := .explicitUser
  sourceRunId
  confidence := 1
  confirmationStatus := .confirmed
  createdAt := now
  updatedAt := now
  expiresAt
  contentHash

/-- `create_explicit`, which draws an id. -/
def createExplicit (request : PreferenceCreateRequest) (sourceRunId : Option String)
    (memoryId : String) : Except PreferenceFailure (PreferenceMemory × σ) := do
  let value ← normalizePreferenceValue request.category request.value
  let content := ⟨request.category, value, request.scope, request.scopeKey⟩
  let contentHash := preferenceContentHash content
  findOrCreate repository owner s contentHash
    (confirmedMemory now owner content sourceRunId request.expiresAt contentHash memoryId)

/-- The value after an update. -/
def updatedValue (current : PreferenceMemory) (request : PreferenceUpdateRequest) :
    Except PreferenceFailure PreferenceValue :=
  match request.value with
  | some value => normalizePreferenceValue current.category value
  | none => .ok current.value

/-- `update`. -/
def updateMemory (memoryId : String) (request : PreferenceUpdateRequest) :
    Except PreferenceFailure (PreferenceMemory × σ) := do
  let current ← raised (repository.getMemory s owner memoryId)
  let value ← updatedValue current request
  let contentHash := preferenceContentHash { current.content with value }
  let updated := { current with
    value, contentHash
    expiresAt := request.expiresAt
    revision := current.revision + 1
    updatedAt := now }
  let stored ← raised (repository.saveMemory s updated request.expectedRevision)
  return (updated, stored)

/-- `revoke`. -/
def revokeMemory (memoryId : String) (expectedRevision : ℤ) :
    Except PreferenceFailure (PreferenceMemory × σ) := do
  let current ← raised (repository.getMemory s owner memoryId)
  let updated := { current with
    revokedAt := some now
    updatedAt := now
    revision := current.revision + 1 }
  let stored ← raised (repository.saveMemory s updated expectedRevision)
  return (updated, stored)

/-- `propose`, which draws an id. -/
def proposeMemory (request : MemoryProposalRequest) (proposalId : String) :
    Except PreferenceFailure (MemoryProposal × σ) := do
  let value ← normalizePreferenceValue request.category request.value
  let content : PreferenceContent := ⟨request.category, value, request.scope, request.scopeKey⟩
  let proposal ← raised (readPayload MemoryProposal.Valid
    { proposalId, owner
      category := content.category
      value := content.value
      scope := content.scope
      scopeKey := content.scopeKey
      source := request.source
      sourceRunId := request.sourceRunId
      confidence := request.confidence
      reason := request.reason
      createdAt := now
      expiresAt := request.expiresAt
      contentHash := preferenceContentHash content })
  let stored ← raised (repository.createProposal s proposal)
  return (proposal, stored)

variable (state : MemoryServiceState σ)

/-- `confirm_proposal`, which draws an id.  A memory that was stored stays when the proposal cannot
be saved. -/
def confirmProposal (proposalId requestId memoryId : String) :
    Except PreferenceFailure PreferenceMemory × MemoryServiceState σ :=
  let key := (owner, proposalId, requestId)
  match state.decisions.get? key with
  | some (.memory replay) => (.ok replay, state)
  | _ =>
    match raised (repository.getProposal state.store owner proposalId) with
    | .error failure => (.error failure, state)
    | .ok proposal =>
      match raised (proposal.pendingAt now) with
      | .error failure => (.error failure, state)
      | .ok true =>
        match findOrCreate repository owner state.store proposal.contentHash
          (confirmedMemory now owner proposal.content proposal.sourceRunId proposal.expiresAt
            proposal.contentHash memoryId) with
        | .error failure => (.error failure, state)
        | .ok (memory, store) =>
          let resolved := { proposal with
            status := .confirmed, resolvedAt := some now, memoryId := some memory.memoryId }
          match raised (repository.saveProposal store resolved) with
          | .error failure => (.error failure, { state with store })
          | .ok store =>
            (.ok memory, { store, decisions := state.decisions.set key (.memory memory) })
      | .ok false =>
        match proposal.memoryId with
        | some confirmed =>
          if proposal.status = .confirmed ∧ confirmed ≠ "" then
            match raised (repository.getMemory state.store owner confirmed) with
            | .error failure => (.error failure, state)
            | .ok memory =>
              (.ok memory, { state with decisions := state.decisions.set key (.memory memory) })
          else (.error (.conflict "proposal_not_pending"), state)
        | none => (.error (.conflict "proposal_not_pending"), state)

/-- `reject_proposal`. -/
def rejectProposal (proposalId requestId : String) :
    Except PreferenceFailure MemoryProposal × MemoryServiceState σ :=
  let key := (owner, proposalId, requestId)
  match state.decisions.get? key with
  | some (.proposal replay) => (.ok replay, state)
  | _ =>
    match raised (repository.getProposal state.store owner proposalId) with
    | .error failure => (.error failure, state)
    | .ok proposal =>
      if proposal.status = .rejected then
        (.ok proposal, { state with decisions := state.decisions.set key (.proposal proposal) })
      else
        match raised (proposal.pendingAt now) with
        | .error failure => (.error failure, state)
        | .ok true =>
          let resolved := { proposal with status := .rejected, resolvedAt := some now }
          match raised (repository.saveProposal state.store resolved) with
          | .error failure => (.error failure, state)
          | .ok store =>
            (.ok resolved, { store, decisions := state.decisions.set key (.proposal resolved) })
        | .ok false => (.error (.conflict "proposal_not_pending"), state)

end Methods

/-! ## Sequences of calls -/

/-- A call of a method, with the ids that it draws. -/
inductive MemoryCall where
  | createExplicit (request : PreferenceCreateRequest) (sourceRunId : Option String)
    (memoryId : String)
  | update (memoryId : String) (request : PreferenceUpdateRequest)
  | revoke (memoryId : String) (expectedRevision : ℤ)
  | delete (memoryId : String)
  | clear
  | propose (request : MemoryProposalRequest) (proposalId : String)
  | confirmProposal (proposalId requestId memoryId : String)
  | rejectProposal (proposalId requestId : String)

/-- A call by a user at a time. -/
structure MemoryEvent where
  now : Instant
  owner : Principal
  call : MemoryCall

namespace MemoryServiceState

variable [Platform] [PolicyText] {σ : Type} (repository : PreferenceRepository σ)

/-- The state after a method that stores once, or raises. -/
def stored {α : Type} (state : MemoryServiceState σ) :
    Except PreferenceFailure (α × σ) → MemoryServiceState σ
  | .ok (_, store) => { state with store }
  | .error _ => state

/-- The state after a call. -/
def perform (state : MemoryServiceState σ) (event : MemoryEvent) : MemoryServiceState σ :=
  let { now, owner, call } := event
  match call with
  | .createExplicit request sourceRunId memoryId =>
    state.stored (createExplicit repository now owner state.store request sourceRunId memoryId)
  | .update memoryId request =>
    state.stored (updateMemory repository now owner state.store memoryId request)
  | .revoke memoryId expectedRevision =>
    state.stored (revokeMemory repository now owner state.store memoryId expectedRevision)
  | .delete memoryId =>
    match repository.deleteMemory state.store owner memoryId with
    | .error _ => state
    | .ok store => { state with store }
  | .clear =>
    match repository.clearMemories state.store owner with
    | .error _ => state
    | .ok (_, store) => { state with store }
  | .propose request proposalId =>
    state.stored (proposeMemory repository now owner state.store request proposalId)
  | .confirmProposal proposalId requestId memoryId =>
    (confirmProposal repository now owner state proposalId requestId memoryId).2
  | .rejectProposal proposalId requestId =>
    (rejectProposal repository now owner state proposalId requestId).2

/-- The state after some calls. -/
def run (state : MemoryServiceState σ) (events : List MemoryEvent) : MemoryServiceState σ :=
  events.foldl (perform repository) state

end MemoryServiceState

end TravelPlanAgent
