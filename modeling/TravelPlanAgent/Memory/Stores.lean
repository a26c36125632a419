import Mathlib.Data.List.Sort
import Mathlib.Tactic.Simps.Basic
import TravelPlanAgent.Memory.Models

/-!
# The three preference repositories

A table of SQL is a dictionary of its rows by primary key, in the order of insertion.

* `PreferenceRepository`: the methods of a repository on stores of a type.
* `bindInteger`, `bindTexts`: what the drivers refuse.
* `InMemoryStore`, `SqliteStore`, `PostgresStore` and their `repository`.
* `TieOrder`: how Postgres orders what `updated_at` leaves open.
* `PreferenceOperation.perform`: one call of a method, and what it returns.
-/

namespace TravelPlanAgent

/-- `PreferenceRepository`.  A method that raises leaves the store as it is. -/
structure PreferenceRepository (σ : Type) where
  listMemories : σ → Principal → Bool → Instant → Except MemoryError (List PreferenceMemory)
  getMemory : σ → Principal → String → Except MemoryError PreferenceMemory
  createMemory : σ → PreferenceMemory → Except MemoryError σ
  saveMemory : σ → PreferenceMemory → ℤ → Except MemoryError σ
  deleteMemory : σ → Principal → String → Except MemoryError σ
  clearMemories : σ → Principal → Except MemoryError (ℕ × σ)
  findContentHash : σ → Principal → String → Except MemoryError (Option PreferenceMemory)
  createProposal : σ → MemoryProposal → Except MemoryError σ
  getProposal : σ → Principal → String → Except MemoryError MemoryProposal
  saveProposal : σ → MemoryProposal → Except MemoryError σ
  getPersonalization : σ → Principal → Instant → Except MemoryError PersonalizationSettings × σ
  savePersonalization : σ → PersonalizationSettings → Option ℤ → Except MemoryError σ

/-- `items.sort(key=lambda item: (item.updated_at, item.memory_id), reverse=True)`. -/
def newestFirst (items : List PreferenceMemory) : List PreferenceMemory :=
  items.mergeSort fun a b =>
    b.updatedAt < a.updatedAt || (b.updatedAt == a.updatedAt && b.memoryId ≤ a.memoryId)

/-- What `PersonalizationSettings(tenant_id=…, user_id=…)` builds at a time. -/
def defaultPersonalization (owner : Principal) (now : Instant) : PersonalizationSettings :=
  { owner, updatedAt := now }

/-- A driver binds an integer to a column of a width. -/
def bindInteger (bits : ℕ) (n : ℤ) : Except MemoryError Unit :=
  if -2 ^ (bits - 1) ≤ n ∧ n < 2 ^ (bits - 1) then .ok () else .error .outOfRange

/-- A text without NUL, which the columns `text` and `jsonb` of Postgres do not hold. -/
def Bindable (text : String) : Prop := Char.ofNat 0 ∉ text.toList

instance (text : String) : Decidable (Bindable text) := inferInstanceAs (Decidable (¬_))

/-- Postgres binds texts to its columns. -/
def bindTexts (texts : List String) : Except MemoryError Unit :=
  if ∀ text ∈ texts, Bindable text then .ok () else .error .invalidText

/-- The texts of an owner. -/
def Principal.texts (owner : Principal) : List String := [owner.tenantId, owner.userId]

/-- The texts of a value. -/
def PreferenceScalar.texts : PreferenceScalar → List String
  | .str value => [value]
  | _ => []

/-- The texts of a value. -/
def PreferenceValue.texts : PreferenceValue → List String
  | .scalar value => value.texts
  | .list values => values.flatMap PreferenceScalar.texts
  | .dict values => values.flatMap fun (key, item) =>
    key :: match item with
      | .inl value => value.texts
      | .inr values => values.flatMap PreferenceScalar.texts

/-- The texts of the columns and the payload of a memory. -/
def PreferenceMemory.texts (memory : PreferenceMemory) : List String :=
  memory.memoryId :: memory.contentHash :: memory.owner.texts ++ memory.value.texts ++
    memory.scopeKey.toList ++ memory.sourceRunId.toList

/-- The texts of the columns and the payload of a proposal. -/
def MemoryProposal.texts (proposal : MemoryProposal) : List String :=
  proposal.proposalId :: proposal.contentHash :: proposal.reason :: proposal.owner.texts ++
    proposal.value.texts ++ proposal.scopeKey.toList ++ proposal.sourceRunId.toList ++
      proposal.memoryId.toList

/-! ## In memory -/

structure InMemoryStore where
  memories : Dict String PreferenceMemory := ∅
  proposals : Dict String MemoryProposal := ∅
  settings : Dict Principal PersonalizationSettings := ∅

namespace InMemoryStore

variable (s : InMemoryStore)

def listMemories (owner : Principal) (includeInactive : Bool) (now : Instant) :
    Except MemoryError (List PreferenceMemory) := do
  let items := s.memories.values.filter fun item => item.owner = owner
  let items ← (if includeInactive then .ok items else onlyActive now items)
  .ok (newestFirst items)

def getMemory (owner : Principal) (memoryId : String) : Except MemoryError PreferenceMemory :=
  match s.memories.get? memoryId with
  | none => .error .notFound
  | some item => if item.owner = owner then .ok item else .error .notFound

def createMemory (memory : PreferenceMemory) : Except MemoryError InMemoryStore :=
  if s.memories.contains memory.memoryId then .error .conflict
  else .ok { s with memories := s.memories.set memory.memoryId memory }

def saveMemory (memory : PreferenceMemory) (expectedRevision : ℤ) :
    Except MemoryError InMemoryStore :=
  match s.memories.get? memory.memoryId with
  | none => .error .notFound
  | some current =>
    if current.owner ≠ memory.owner then .error .notFound
    else if current.revision ≠ expectedRevision then .error .conflict
    else .ok { s with memories := s.memories.set memory.memoryId memory }

def deleteMemory (owner : Principal) (memoryId : String) : Except MemoryError InMemoryStore := do
  let _ ← s.getMemory owner memoryId
  .ok { s with memories := s.memories.erase memoryId }

def clearMemories (owner : Principal) : Except MemoryError (ℕ × InMemoryStore) :=
  .ok ((s.memories.values.filter fun item => item.owner = owner).length,
    { s with memories := s.memories.filterValues fun item => item.owner ≠ owner })

def findContentHash (owner : Principal) (contentHash : String) :
    Except MemoryError (Option PreferenceMemory) :=
  .ok (s.memories.values.find? fun item =>
    item.owner = owner && item.contentHash = contentHash && item.revokedAt = none)

def createProposal (proposal : MemoryProposal) : Except MemoryError InMemoryStore :=
  if s.proposals.contains proposal.proposalId then .error .conflict
  else .ok { s with proposals := s.proposals.set proposal.proposalId proposal }

def getProposal (owner : Principal) (proposalId : String) : Except MemoryError MemoryProposal :=
  match s.proposals.get? proposalId with
  | none => .error .notFound
  | some item => if item.owner = owner then .ok item else .error .notFound

def saveProposal (proposal : MemoryProposal) : Except MemoryError InMemoryStore :=
  match s.proposals.get? proposal.proposalId with
  | none => .error .notFound
  | some current =>
    if current.owner = proposal.owner then
      .ok { s with proposals := s.proposals.set proposal.proposalId proposal }
    else .error .notFound

def getPersonalization (owner : Principal) (now : Instant) :
    Except MemoryError PersonalizationSettings × InMemoryStore :=
  match s.settings.get? owner with
  | some item => (.ok item, s)
  | none =>
    let item := defaultPersonalization owner now
    (.ok item, { s with settings := s.settings.set owner item })

def savePersonalization (settings : PersonalizationSettings) (expectedRevision : Option ℤ) :
    Except MemoryError InMemoryStore :=
  match s.settings.get? settings.owner with
  | some current =>
    if expectedRevision = some current.revision then
      .ok { s with settings := s.settings.set settings.owner settings }
    else .error .conflict
  | none =>
    if expectedRevision = none ∨ expectedRevision = some 0 then
      .ok { s with settings := s.settings.set settings.owner settings }
    else .error .conflict

/-- `InMemoryPreferenceRepository`. -/
def repository : PreferenceRepository InMemoryStore where
  listMemories
  getMemory
  createMemory
  saveMemory
  deleteMemory
  clearMemories
  findContentHash
  createProposal
  getProposal
  saveProposal
  getPersonalization
  savePersonalization

end InMemoryStore

/-! ## SQLite -/

structure SqliteMemoryRow where
  owner : Principal
  revision : ℤ
  contentHash : String
  payload : PreferenceMemory

structure SqliteProposalRow where
  owner : Principal
  payload : MemoryProposal

structure SqliteSettingsRow where
  revision : ℤ
  payload : PersonalizationSettings

/-- The row of a memory. -/
@[simps]
def SqliteMemoryRow.of (memory : PreferenceMemory) : SqliteMemoryRow :=
  ⟨memory.owner, memory.revision, memory.contentHash, memory⟩

/-- The row of a proposal. -/
@[simps]
def SqliteProposalRow.of (proposal : MemoryProposal) : SqliteProposalRow :=
  ⟨proposal.owner, proposal⟩

/-- The row of settings. -/
@[simps]
def SqliteSettingsRow.of (settings : PersonalizationSettings) : SqliteSettingsRow :=
  ⟨settings.revision, settings⟩

structure SqliteStore where
  preferenceMemories : Dict String SqliteMemoryRow := ∅
  memoryProposals : Dict String SqliteProposalRow := ∅
  personalizationSettings : Dict Principal SqliteSettingsRow := ∅

namespace SqliteStore

variable (s : SqliteStore)

/-- The first of the rows whose memory is not revoked; the rows before it are read, too. -/
def firstUnrevoked : List SqliteMemoryRow → Except MemoryError (Option PreferenceMemory)
  | [] => .ok none
  | row :: rows => do
    let item ← readMemory row.payload
    if item.revokedAt = none then .ok (some item) else firstUnrevoked rows

def listMemories (owner : Principal) (includeInactive : Bool) (now : Instant) :
    Except MemoryError (List PreferenceMemory) := do
  let rows := s.preferenceMemories.values.filter fun row => row.owner = owner
  let items ← rows.mapM fun row => readMemory row.payload
  let items ← (if includeInactive then .ok items else onlyActive now items)
  .ok (newestFirst items)

def getMemory (owner : Principal) (memoryId : String) : Except MemoryError PreferenceMemory :=
  match (s.preferenceMemories.get? memoryId).filter fun row => row.owner = owner with
  | none => .error .notFound
  | some row => readMemory row.payload

def createMemory (memory : PreferenceMemory) : Except MemoryError SqliteStore := do
  bindInteger 64 memory.revision
  if s.preferenceMemories.contains memory.memoryId then .error .conflict
  else .ok { s with
    preferenceMemories := s.preferenceMemories.set memory.memoryId (.of memory) }

def saveMemory (memory : PreferenceMemory) (expectedRevision : ℤ) :
    Except MemoryError SqliteStore := do
  bindInteger 64 memory.revision
  bindInteger 64 expectedRevision
  match (s.preferenceMemories.get? memory.memoryId).filter fun row => row.owner = memory.owner with
  | none => .error .notFound
  | some row =>
    if row.revision = expectedRevision then
      let row := { row with
        revision := memory.revision, contentHash := memory.contentHash, payload := memory }
      .ok { s with preferenceMemories := s.preferenceMemories.set memory.memoryId row }
    else .error .conflict

def deleteMemory (owner : Principal) (memoryId : String) : Except MemoryError SqliteStore :=
  match (s.preferenceMemories.get? memoryId).filter fun row => row.owner = owner with
  | none => .error .notFound
  | some _ => .ok { s with preferenceMemories := s.preferenceMemories.erase memoryId }

def clearMemories (owner : Principal) : Except MemoryError (ℕ × SqliteStore) :=
  .ok ((s.preferenceMemories.values.filter fun row => row.owner = owner).length,
    { s with preferenceMemories := s.preferenceMemories.filterValues fun row =>
        row.owner ≠ owner })

def findContentHash (owner : Principal) (contentHash : String) :
    Except MemoryError (Option PreferenceMemory) :=
  firstUnrevoked (s.preferenceMemories.values.filter fun row =>
    row.owner = owner && row.contentHash = contentHash)

def createProposal (proposal : MemoryProposal) : Except MemoryError SqliteStore :=
  if s.memoryProposals.contains proposal.proposalId then .error .conflict
  else .ok { s with
    memoryProposals := s.memoryProposals.set proposal.proposalId (.of proposal) }

def getProposal (owner : Principal) (proposalId : String) : Except MemoryError MemoryProposal :=
  match (s.memoryProposals.get? proposalId).filter fun row => row.owner = owner with
  | none => .error .notFound
  | some row => readPayload MemoryProposal.Valid row.payload

def saveProposal (proposal : MemoryProposal) : Except MemoryError SqliteStore :=
  match (s.memoryProposals.get? proposal.proposalId).filter fun row =>
    row.owner = proposal.owner with
  | none => .error .notFound
  | some row =>
    let row := { row with payload := proposal }
    .ok { s with memoryProposals := s.memoryProposals.set proposal.proposalId row }

def getPersonalization (owner : Principal) (now : Instant) :
    Except MemoryError PersonalizationSettings × SqliteStore :=
  match s.personalizationSettings.get? owner with
  | some row => (readPayload PersonalizationSettings.Valid row.payload, s)
  | none =>
    let item := defaultPersonalization owner now
    (.ok item, { s with
      personalizationSettings := s.personalizationSettings.set owner (.of item) })

def savePersonalization (settings : PersonalizationSettings) (expectedRevision : Option ℤ) :
    Except MemoryError SqliteStore :=
  match s.personalizationSettings.get? settings.owner with
  | none => do
    if expectedRevision ≠ none ∧ expectedRevision ≠ some 0 then .error .conflict
    else
      bindInteger 64 settings.revision
      .ok { s with personalizationSettings :=
        s.personalizationSettings.set settings.owner (.of settings) }
  | some row => do
    if expectedRevision ≠ some row.revision then .error .conflict
    else
      bindInteger 64 settings.revision
      let row := { row with revision := settings.revision, payload := settings }
      .ok { s with
        personalizationSettings := s.personalizationSettings.set settings.owner row }

/-- `SQLitePreferenceRepository`. -/
def repository : PreferenceRepository SqliteStore where
  listMemories
  getMemory
  createMemory
  saveMemory
  deleteMemory
  clearMemories
  findContentHash
  createProposal
  getProposal
  saveProposal
  getPersonalization
  savePersonalization

end SqliteStore

/-! ## Postgres -/

structure PostgresMemoryRow where
  owner : Principal
  contentHash : String
  revision : ℤ
  updatedAt : Instant
  revokedAt : Option Instant
  payload : PreferenceMemory

structure PostgresProposalRow where
  owner : Principal
  status : ProposalStatus
  updatedAt : Instant
  payload : MemoryProposal

structure PostgresSettingsRow where
  revision : ℤ
  payload : PersonalizationSettings

/-- The row of a memory. -/
@[simps]
def PostgresMemoryRow.of (memory : PreferenceMemory) : PostgresMemoryRow :=
  ⟨memory.owner, memory.contentHash, memory.revision, memory.updatedAt, memory.revokedAt, memory⟩

/-- The row of a proposal. -/
@[simps]
def PostgresProposalRow.of (proposal : MemoryProposal) : PostgresProposalRow :=
  ⟨proposal.owner, proposal.status, proposal.resolvedAt.getD proposal.createdAt, proposal⟩

/-- The row of settings. -/
@[simps]
def PostgresSettingsRow.of (settings : PersonalizationSettings) : PostgresSettingsRow :=
  ⟨settings.revision, settings⟩

/-- `ORDER BY updated_at DESC`; rows of one time come in any order, which may differ from time to
time. -/
structure TieOrder where
  arrange : Instant → List PostgresMemoryRow → List PostgresMemoryRow
  perm : ∀ now rows, (arrange now rows).Perm rows
  sorted : ∀ now rows, (arrange now rows).Pairwise fun a b => b.updatedAt ≤ a.updatedAt

/-- Rows of one time in the order of the table. -/
def TieOrder.stable : TieOrder where
  arrange _ rows := rows.mergeSort fun a b => b.updatedAt ≤ a.updatedAt
  perm _ rows := List.mergeSort_perm ..
  sorted _ rows := by
    refine (List.pairwise_mergeSort ?_ ?_ rows).imp fun h => of_decide_eq_true h
    · intro a b c hab hbc
      exact decide_eq_true ((of_decide_eq_true hbc).trans (of_decide_eq_true hab))
    · intro a b
      rw [Bool.or_eq_true, decide_eq_true_eq, decide_eq_true_eq]
      exact le_total _ _

structure PostgresStore where
  preferenceMemories : Dict String PostgresMemoryRow := ∅
  memoryProposals : Dict String PostgresProposalRow := ∅
  personalizationSettings : Dict Principal PostgresSettingsRow := ∅

namespace PostgresStore

variable (order : TieOrder) (s : PostgresStore)

def listMemories (owner : Principal) (includeInactive : Bool) (now : Instant) :
    Except MemoryError (List PreferenceMemory) := do
  bindTexts owner.texts
  let rows := s.preferenceMemories.values.filter fun row =>
    row.owner = owner && (includeInactive || row.revokedAt = none)
  (order.arrange now rows).mapM fun row => readMemory row.payload

def getMemory (owner : Principal) (memoryId : String) : Except MemoryError PreferenceMemory := do
  bindTexts (memoryId :: owner.texts)
  match (s.preferenceMemories.get? memoryId).filter fun row => row.owner = owner with
  | none => .error .notFound
  | some row => readMemory row.payload

/-- The insertion violates the primary key, or `UNIQUE(tenant_id,user_id,content_hash)`. -/
def createMemory (memory : PreferenceMemory) : Except MemoryError PostgresStore := do
  bindInteger 32 memory.revision
  bindTexts memory.texts
  if s.preferenceMemories.contains memory.memoryId ∨
      ∃ row ∈ s.preferenceMemories.values,
        row.owner = memory.owner ∧ row.contentHash = memory.contentHash then .error .conflict
  else .ok { s with
    preferenceMemories := s.preferenceMemories.set memory.memoryId (.of memory) }

/-- `_memory_missing_or_conflict` when no row was updated; `content_hash` stays as it is. -/
def saveMemory (memory : PreferenceMemory) (expectedRevision : ℤ) :
    Except MemoryError PostgresStore := do
  bindInteger 32 memory.revision
  bindInteger 32 expectedRevision
  bindTexts memory.texts
  match (s.preferenceMemories.get? memory.memoryId).filter fun row => row.owner = memory.owner with
  | none => .error .notFound
  | some row =>
    if row.revision = expectedRevision then
      let row := { row with
        revision := memory.revision, updatedAt := memory.updatedAt,
        revokedAt := memory.revokedAt, payload := memory }
      .ok { s with preferenceMemories := s.preferenceMemories.set memory.memoryId row }
    else .error .conflict

def deleteMemory (owner : Principal) (memoryId : String) : Except MemoryError PostgresStore := do
  bindTexts (memoryId :: owner.texts)
  match (s.preferenceMemories.get? memoryId).filter fun row => row.owner = owner with
  | none => .error .notFound
  | some _ => .ok { s with preferenceMemories := s.preferenceMemories.erase memoryId }

def clearMemories (owner : Principal) : Except MemoryError (ℕ × PostgresStore) := do
  bindTexts owner.texts
  .ok ((s.preferenceMemories.values.filter fun row => row.owner = owner).length,
    { s with preferenceMemories := s.preferenceMemories.filterValues fun row =>
        row.owner ≠ owner })

def findContentHash (owner : Principal) (contentHash : String) :
    Except MemoryError (Option PreferenceMemory) := do
  bindTexts (contentHash :: owner.texts)
  match s.preferenceMemories.values.find? fun row =>
    row.owner = owner && row.contentHash = contentHash && row.revokedAt = none with
  | none => .ok none
  | some row => (readMemory row.payload).map some

def createProposal (proposal : MemoryProposal) : Except MemoryError PostgresStore := do
  bindTexts proposal.texts
  if s.memoryProposals.contains proposal.proposalId then .error .conflict
  else .ok { s with
    memoryProposals := s.memoryProposals.set proposal.proposalId (.of proposal) }

def getProposal (owner : Principal) (proposalId : String) :
    Except MemoryError MemoryProposal := do
  bindTexts (proposalId :: owner.texts)
  match (s.memoryProposals.get? proposalId).filter fun row => row.owner = owner with
  | none => .error .notFound
  | some row => readPayload MemoryProposal.Valid row.payload

def saveProposal (proposal : MemoryProposal) : Except MemoryError PostgresStore := do
  bindTexts proposal.texts
  match (s.memoryProposals.get? proposal.proposalId).filter fun row =>
    row.owner = proposal.owner with
  | none => .error .notFound
  | some row =>
    let row := { row with
      status := proposal.status, updatedAt := proposal.resolvedAt.getD proposal.createdAt,
      payload := proposal }
    .ok { s with memoryProposals := s.memoryProposals.set proposal.proposalId row }

/-- Nothing is inserted for an owner without a row. -/
def getPersonalization (owner : Principal) (now : Instant) :
    Except MemoryError PersonalizationSettings × PostgresStore :=
  match bindTexts owner.texts, s.personalizationSettings.get? owner with
  | .error error, _ => (.error error, s)
  | .ok _, some row => (readPayload PersonalizationSettings.Valid row.payload, s)
  | .ok _, none => (.ok (defaultPersonalization owner now), s)

/-- `UPDATE personalization_settings … WHERE … AND revision=…`. -/
def updateSettings (settings : PersonalizationSettings) (expectedRevision : ℤ) :
    Except MemoryError PostgresStore := do
  bindInteger 32 settings.revision
  bindInteger 32 expectedRevision
  bindTexts settings.owner.texts
  match s.personalizationSettings.get? settings.owner with
  | none => .error .conflict
  | some row =>
    if row.revision = expectedRevision then
      let row := { row with revision := settings.revision, payload := settings }
      .ok { s with
        personalizationSettings := s.personalizationSettings.set settings.owner row }
    else .error .conflict

def savePersonalization (settings : PersonalizationSettings) (expectedRevision : Option ℤ) :
    Except MemoryError PostgresStore := do
  let inserted := { s with
    personalizationSettings := s.personalizationSettings.set settings.owner (.of settings) }
  match expectedRevision with
  | none =>
    bindInteger 32 settings.revision
    bindTexts settings.owner.texts
    .ok inserted
  | some expectedRevision =>
    if expectedRevision = 0 then
      bindInteger 32 settings.revision
      bindTexts settings.owner.texts
      if s.personalizationSettings.contains settings.owner then
        s.updateSettings settings expectedRevision
      else .ok inserted
    else s.updateSettings settings expectedRevision

/-- `PostgresPreferenceRepository`. -/
def repository : PreferenceRepository PostgresStore where
  listMemories := listMemories order
  getMemory
  createMemory
  saveMemory
  deleteMemory
  clearMemories
  findContentHash
  createProposal
  getProposal
  saveProposal
  getPersonalization
  savePersonalization

end PostgresStore

/-! ## Operations -/

inductive PreferenceOperation where
  | listMemories (owner : Principal) (includeInactive : Bool)
  | getMemory (owner : Principal) (memoryId : String)
  | createMemory (memory : PreferenceMemory)
  | saveMemory (memory : PreferenceMemory) (expectedRevision : ℤ)
  | deleteMemory (owner : Principal) (memoryId : String)
  | clearMemories (owner : Principal)
  | findContentHash (owner : Principal) (contentHash : String)
  | createProposal (proposal : MemoryProposal)
  | getProposal (owner : Principal) (proposalId : String)
  | saveProposal (proposal : MemoryProposal)
  | getPersonalization (owner : Principal)
  | savePersonalization (settings : PersonalizationSettings) (expectedRevision : Option ℤ)

/-- What a method returns. -/
inductive PreferenceAnswer where
  | done
  | memories (items : List PreferenceMemory)
  | memory (item : PreferenceMemory)
  | count (n : ℕ)
  | found (item : Option PreferenceMemory)
  | proposal (item : MemoryProposal)
  | settings (item : PersonalizationSettings)

namespace PreferenceOperation

variable {σ : Type} (repository : PreferenceRepository σ) (now : Instant) (s : σ)

/-- A method that only writes. -/
def written (result : Except MemoryError σ) : Except MemoryError PreferenceAnswer × σ :=
  match result with
  | .ok s' => (.ok .done, s')
  | .error error => (.error error, s)

/-- One call, at a time. -/
def perform : PreferenceOperation → Except MemoryError PreferenceAnswer × σ
  | listMemories owner includeInactive =>
    ((repository.listMemories s owner includeInactive now).map .memories, s)
  | getMemory owner memoryId => ((repository.getMemory s owner memoryId).map .memory, s)
  | createMemory memory => written s (repository.createMemory s memory)
  | saveMemory memory expectedRevision =>
    written s (repository.saveMemory s memory expectedRevision)
  | deleteMemory owner memoryId => written s (repository.deleteMemory s owner memoryId)
  | clearMemories owner =>
    match repository.clearMemories s owner with
    | .ok (n, s') => (.ok (.count n), s')
    | .error error => (.error error, s)
  | findContentHash owner contentHash =>
    ((repository.findContentHash s owner contentHash).map .found, s)
  | createProposal proposal => written s (repository.createProposal s proposal)
  | getProposal owner proposalId => ((repository.getProposal s owner proposalId).map .proposal, s)
  | saveProposal proposal => written s (repository.saveProposal s proposal)
  | getPersonalization owner =>
    let (result, s') := repository.getPersonalization s owner now
    (result.map .settings, s')
  | savePersonalization settings expectedRevision =>
    written s (repository.savePersonalization s settings expectedRevision)

/-- What the calls of a sequence return. -/
def answers (s : σ) : List (Instant × PreferenceOperation) →
    List (Except MemoryError PreferenceAnswer)
  | [] => []
  | (now, operation) :: rest =>
    let (answer, s') := operation.perform repository now s
    answer :: answers s' rest

end PreferenceOperation

/-- `MemoryService.update_personalization`. -/
def updatePersonalization {σ : Type} (repository : PreferenceRepository σ) (owner : Principal)
    (enabled : Bool) (expectedRevision : Option ℤ) (now : Instant) (s : σ) :
    Except MemoryError PersonalizationSettings × σ :=
  match repository.getPersonalization s owner now with
  | (.error error, s') => (.error error, s')
  | (.ok current, s') =>
    if expectedRevision.any fun expected => expected ≠ current.revision then (.error .conflict, s')
    else
      let updated :=
        { current with enabled, revision := current.revision + 1, updatedAt := now }
      match repository.savePersonalization s' updated (some current.revision) with
      | .ok s'' => (.ok updated, s'')
      | .error error => (.error error, s')

end TravelPlanAgent
