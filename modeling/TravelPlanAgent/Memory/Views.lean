import TravelPlanAgent.Memory.Stores

/-!
# What the three repositories store

A view of a repository says which memory and which proposal is stored under an id, and what the
methods do with them.  The columns of a row are kept beside the payload, and only those of Postgres
may differ from it.

* `storedAt`, `EveryRow`: what a table stores under a key, and what holds of every row.
* `StoreView`: the view of a repository, with the laws of its methods.
* `RepositoryKind`, `RepositoryKind.view`: the three repositories and their views.
* `mem_under_of_stored`: a lookup by content hash finds what is stored, except on Postgres.
-/

namespace TravelPlanAgent

/-- Both halves of a sequence go well. -/
theorem exceptBind_eq_ok {ε α β : Type} {x : Except ε α} {f : α → Except ε β} {b : β}
    (h : x >>= f = .ok b) : ∃ a, x = .ok a ∧ f a = .ok b := by
  cases x with
  | error e => cases h
  | ok a => exact ⟨a, rfl, h⟩

/-! ## Tables -/

section Tables

variable {ρ α : Type} {table : Dict String ρ}

/-- What a table stores under a key. -/
def storedAt (payload : ρ → α) (table : Dict String ρ) (key : String) : Option α :=
  (table.get? key).map payload

theorem get?_set_eq_update (table : Dict String ρ) (key : String) (row : ρ) :
    (table.set key row).get? = Function.update table.get? key (some row) := by
  funext other
  rw [Dict.get?_set, Function.update_apply]

theorem get?_erase_eq_update (table : Dict String ρ) (key : String) :
    (table.erase key).get? = Function.update table.get? key none := by
  funext other
  rw [Dict.get?_erase, Function.update_apply]

variable (payload : ρ → α)

theorem storedAt_set (table : Dict String ρ) (key : String) (row : ρ) :
    storedAt payload (table.set key row) =
      Function.update (storedAt payload table) key (some (payload row)) := by
  funext other
  rw [storedAt, Dict.get?_set, Function.update_apply]
  split
  · rfl
  · rfl

theorem storedAt_erase (table : Dict String ρ) (key : String) :
    storedAt payload (table.erase key) = Function.update (storedAt payload table) key none := by
  funext other
  rw [storedAt, Dict.get?_erase, Function.update_apply]
  split
  · rfl
  · rfl

theorem storedAt_eq_some {key : String} {a : α} :
    storedAt payload table key = some a ↔ ∃ row, table.get? key = some row ∧ payload row = a :=
  Option.map_eq_some_iff

/-- Every row of a table has a property. -/
def EveryRow (p : String → ρ → Prop) (table : Dict String ρ) : Prop :=
  ∀ key row, table.get? key = some row → p key row

variable {payload} {p : String → ρ → Prop}

theorem everyRow_empty : EveryRow p ∅ := fun _ _ h => by cases h

theorem EveryRow.set (h : EveryRow p table) {key : String} {row : ρ} (hrow : p key row) :
    EveryRow p (table.set key row) := by
  intro other found hfound
  rw [Dict.get?_set] at hfound
  split at hfound
  · next heq =>
    cases hfound
    exact heq ▸ hrow
  · exact h other found hfound

theorem EveryRow.erase (h : EveryRow p table) (key : String) : EveryRow p (table.erase key) := by
  intro other found hfound
  rw [Dict.get?_erase] at hfound
  split at hfound
  · cases hfound
  · exact h other found hfound

theorem EveryRow.filterValues (h : EveryRow p table) (keep : ρ → Bool) :
    EveryRow p (table.filterValues keep) := by
  intro other found hfound
  rw [Dict.get?_filterValues, Option.filter_eq_some_iff] at hfound
  exact h other found hfound.1

/-- A table without the rows that a test on their payloads rejects. -/
theorem storedAt_filterValues (h : EveryRow p table) {keep : ρ → Bool} {test : α → Bool}
    (hkeep : ∀ key row, p key row → keep row = test (payload row)) (key : String) :
    storedAt payload (table.filterValues keep) key = (storedAt payload table key).filter test := by
  rw [storedAt, Dict.get?_filterValues, storedAt]
  cases hrow : table.get? key with
  | none => rfl
  | some row =>
    rw [Option.filter_some, Option.map_some, Option.filter_some, hkeep key row (h key row hrow)]
    split
    · rfl
    · rfl

/-- A row of the owner, or none. -/
theorem filter_owner_eq_some {ownerOf : ρ → Principal} {owner : Principal} {key : String}
    {row : ρ} (h : (table.get? key).filter (fun row => ownerOf row = owner) = some row) :
    table.get? key = some row ∧ ownerOf row = owner := by
  rw [Option.filter_eq_some_iff] at h
  exact ⟨h.1, of_decide_eq_true h.2⟩

end Tables

/-! ## Views -/

/-- What the stores of a repository hold, and what its methods do with it. -/
structure StoreView {σ : Type} (repository : PreferenceRepository σ) where
  /-- A new store. -/
  empty : σ
  /-- The memory that is stored under an id. -/
  memoryAt : σ → String → Option PreferenceMemory
  /-- The proposal that is stored under an id. -/
  proposalAt : σ → String → Option MemoryProposal
  /-- The memories of an owner that are not revoked and stored under a content hash, in the order
  of the table. -/
  under : σ → Principal → String → List PreferenceMemory
  /-- The columns belong to what is stored beside them. -/
  Consistent : σ → Prop
  /-- The driver binds the texts of an owner. -/
  Accepts : Principal → Prop
  /-- A listing of active memories gets over a memory. -/
  Readable : PreferenceMemory → Prop
  memoryAt_empty : memoryAt empty = fun _ => none
  proposalAt_empty : proposalAt empty = fun _ => none
  consistent_empty : Consistent empty
  memoryId_eq : ∀ {s id memory}, Consistent s → memoryAt s id = some memory →
    memory.memoryId = id
  proposalId_eq : ∀ {s id proposal}, Consistent s → proposalAt s id = some proposal →
    proposal.proposalId = id
  mem_under : ∀ {s owner contentHash memory}, Consistent s →
    memory ∈ under s owner contentHash →
      (∃ id, memoryAt s id = some memory) ∧ memory.owner = owner ∧ memory.revokedAt = none
  getMemory : ∀ {s owner id memory}, Consistent s → repository.getMemory s owner id = .ok memory →
    memoryAt s id = some memory ∧ memory.owner = owner
  createMemory : ∀ {s memory s'}, Consistent s → repository.createMemory s memory = .ok s' →
    Consistent s' ∧ memoryAt s memory.memoryId = none ∧
      memoryAt s' = Function.update (memoryAt s) memory.memoryId (some memory) ∧
        proposalAt s' = proposalAt s
  saveMemory : ∀ {s memory revision s'}, Consistent s →
    repository.saveMemory s memory revision = .ok s' →
      Consistent s' ∧ (∃ current, memoryAt s memory.memoryId = some current ∧
        current.owner = memory.owner ∧ current.revision = revision) ∧
          memoryAt s' = Function.update (memoryAt s) memory.memoryId (some memory) ∧
            proposalAt s' = proposalAt s
  deleteMemory : ∀ {s owner id s'}, Consistent s → repository.deleteMemory s owner id = .ok s' →
    Consistent s' ∧ memoryAt s' = Function.update (memoryAt s) id none ∧
      proposalAt s' = proposalAt s
  clearMemories : ∀ {s owner n s'}, Consistent s → repository.clearMemories s owner = .ok (n, s') →
    Consistent s' ∧
      (∀ id, memoryAt s' id = (memoryAt s id).filter fun memory => memory.owner ≠ owner) ∧
        proposalAt s' = proposalAt s
  findContentHash : ∀ {s owner contentHash found},
    repository.findContentHash s owner contentHash = .ok found →
      Accepts owner ∧ found = (under s owner contentHash).head?
  getProposal : ∀ {s owner id proposal}, Consistent s →
    repository.getProposal s owner id = .ok proposal →
      proposalAt s id = some proposal ∧ proposal.owner = owner
  createProposal : ∀ {s proposal s'}, Consistent s →
    repository.createProposal s proposal = .ok s' →
      Consistent s' ∧ proposalAt s proposal.proposalId = none ∧
        proposalAt s' = Function.update (proposalAt s) proposal.proposalId (some proposal) ∧
          memoryAt s' = memoryAt s
  saveProposal : ∀ {s proposal s'}, Consistent s →
    repository.saveProposal s proposal = .ok s' →
      Consistent s' ∧
        proposalAt s' = Function.update (proposalAt s) proposal.proposalId (some proposal) ∧
          memoryAt s' = memoryAt s
  /-- A listing of active memories fails at the memories that are not readable. -/
  listMemories : ∀ {s owner} (now), Accepts owner → Consistent s →
    ((∃ items, repository.listMemories s owner false now = .ok items) ↔
      ∀ id memory, memoryAt s id = some memory → memory.owner = owner → Readable memory)
  mem_listMemories : ∀ {s owner now items id memory}, Consistent s →
    repository.listMemories s owner false now = .ok items → memoryAt s id = some memory →
      memory.owner = owner → memory.Active now → memory ∈ items

/-- Payloads are read when all are valid. -/
theorem exists_mapM_readMemory_iff {ρ : Type} {payload : ρ → PreferenceMemory} {rows : List ρ} :
    (∃ items, rows.mapM (fun row => readMemory (payload row)) = .ok items) ↔
      ∀ row ∈ rows, (payload row).Valid := by
  induction rows with
  | nil => simp [pure, Except.pure]
  | cons row rest ih =>
    rw [List.mapM_cons, List.forall_mem_cons, ← ih]
    constructor
    · rintro ⟨items, h⟩
      obtain ⟨_, hread, h⟩ := exceptBind_eq_ok h
      obtain ⟨others, hrest, -⟩ := exceptBind_eq_ok h
      obtain ⟨rfl, hvalid⟩ := readMemory_eq_ok hread
      exact ⟨hvalid, others, hrest⟩
    · rintro ⟨hvalid, others, hrest⟩
      refine ⟨payload row :: others, ?_⟩
      rw [readMemory_of_valid hvalid, hrest]
      rfl

/-- Payloads that are read are those of the rows, and valid. -/
theorem mapM_readMemory_eq {ρ : Type} {payload : ρ → PreferenceMemory} {rows : List ρ}
    {items : List PreferenceMemory}
    (h : rows.mapM (fun row => readMemory (payload row)) = .ok items) :
    items = rows.map payload ∧ ∀ item ∈ items, item.Valid := by
  induction rows generalizing items with
  | nil =>
    cases h
    exact ⟨rfl, fun _ hitem => nomatch hitem⟩
  | cons row rest ih =>
    rw [List.mapM_cons] at h
    obtain ⟨_, hread, h⟩ := exceptBind_eq_ok h
    obtain ⟨others, hrest, h⟩ := exceptBind_eq_ok h
    obtain ⟨rfl, hvalid⟩ := readMemory_eq_ok hread
    obtain ⟨rfl, hothers⟩ := ih hrest
    cases h
    exact ⟨rfl, List.forall_mem_cons.mpr ⟨hvalid, hothers⟩⟩

theorem mem_newestFirst {items : List PreferenceMemory} {memory : PreferenceMemory} :
    memory ∈ newestFirst items ↔ memory ∈ items :=
  (List.mergeSort_perm ..).mem_iff

/-! ## In memory -/

namespace InMemoryStore

variable {s s' : InMemoryStore} {owner : Principal}

/-- Items are stored under their ids. -/
structure Consistent (s : InMemoryStore) : Prop where
  memories : EveryRow (fun key item => item.memoryId = key) s.memories
  proposals : EveryRow (fun key item => item.proposalId = key) s.proposals

theorem get?_of_getMemory {id : String} {memory : PreferenceMemory}
    (h : s.getMemory owner id = .ok memory) :
    s.memories.get? id = some memory ∧ memory.owner = owner := by
  unfold getMemory at h
  split at h
  · cases h
  · next item hitem =>
    split at h
    · next howner =>
      cases h
      exact ⟨hitem, howner⟩
    · cases h

theorem get?_of_getProposal {id : String} {proposal : MemoryProposal}
    (h : s.getProposal owner id = .ok proposal) :
    s.proposals.get? id = some proposal ∧ proposal.owner = owner := by
  unfold getProposal at h
  split at h
  · cases h
  · next item hitem =>
    split at h
    · next howner =>
      cases h
      exact ⟨hitem, howner⟩
    · cases h

/-- The dictionaries of the store are what is stored. -/
def view : StoreView repository where
  empty := {}
  memoryAt s := s.memories.get?
  proposalAt s := s.proposals.get?
  under s owner contentHash := s.memories.values.filter fun item =>
    item.owner = owner && item.contentHash = contentHash && item.revokedAt = none
  Consistent := Consistent
  Accepts _ := True
  Readable := PreferenceMemory.Dated
  memoryAt_empty := rfl
  proposalAt_empty := rfl
  consistent_empty := ⟨everyRow_empty, everyRow_empty⟩
  memoryId_eq hs h := hs.memories _ _ h
  proposalId_eq hs h := hs.proposals _ _ h
  mem_under {s owner contentHash memory} _ h := by
    obtain ⟨hmem, htest⟩ := List.mem_filter.mp h
    simp only [Bool.and_eq_true, decide_eq_true_eq] at htest
    exact ⟨Dict.mem_values_iff.mp hmem, htest.1.1, htest.2⟩
  getMemory _ h := get?_of_getMemory h
  createMemory {s memory s'} hs h := by
    change s.createMemory memory = .ok s' at h
    unfold InMemoryStore.createMemory at h
    split at h
    · cases h
    · next hnew =>
      cases h
      refine ⟨⟨hs.memories.set rfl, hs.proposals⟩, ?_, ?_, rfl⟩
      · simpa [Dict.contains] using hnew
      · exact get?_set_eq_update ..
  saveMemory {s memory revision s'} hs h := by
    change s.saveMemory memory revision = .ok s' at h
    unfold InMemoryStore.saveMemory at h
    split at h
    · cases h
    · next current hcurrent =>
      split at h
      · cases h
      · next howner =>
        split at h
        · cases h
        · next hrevision =>
          cases h
          refine ⟨⟨hs.memories.set rfl, hs.proposals⟩,
            ⟨current, hcurrent, not_not.mp howner, not_not.mp hrevision⟩, ?_, rfl⟩
          exact get?_set_eq_update ..
  deleteMemory {s owner id s'} hs h := by
    obtain ⟨memory, -, h⟩ := exceptBind_eq_ok h
    cases h
    exact ⟨⟨hs.memories.erase id, hs.proposals⟩, get?_erase_eq_update .., rfl⟩
  clearMemories {s owner n s'} hs h := by
    cases h
    exact ⟨⟨hs.memories.filterValues _, hs.proposals⟩, fun id => Dict.get?_filterValues .., rfl⟩
  findContentHash {s owner contentHash found} h := by
    cases h
    exact ⟨trivial, List.head?_filter.symm⟩
  getProposal _ h := get?_of_getProposal h
  createProposal {s proposal s'} hs h := by
    change s.createProposal proposal = .ok s' at h
    unfold InMemoryStore.createProposal at h
    split at h
    · cases h
    · next hnew =>
      cases h
      refine ⟨⟨hs.memories, hs.proposals.set rfl⟩, ?_, ?_, rfl⟩
      · simpa [Dict.contains] using hnew
      · exact get?_set_eq_update ..
  saveProposal {s proposal s'} hs h := by
    change s.saveProposal proposal = .ok s' at h
    unfold InMemoryStore.saveProposal at h
    split at h
    · cases h
    · split at h
      · cases h
        refine ⟨⟨hs.memories, hs.proposals.set rfl⟩, ?_, rfl⟩
        exact get?_set_eq_update ..
      · cases h
  listMemories {s owner} now _ _ := by
    constructor
    · rintro ⟨items, h⟩ id memory hmem howner
      obtain ⟨active, hactive, -⟩ := exceptBind_eq_ok h
      exact (onlyActive_eq_ok hactive).1 memory (List.mem_filter.mpr
        ⟨Dict.mem_values_iff.mpr ⟨id, hmem⟩, decide_eq_true howner⟩)
    · intro h
      have hdated : ∀ item ∈ s.memories.values.filter fun item => item.owner = owner,
          item.Dated := by
        intro item hitem
        obtain ⟨hvalue, howner⟩ := List.mem_filter.mp hitem
        obtain ⟨id, hid⟩ := Dict.mem_values_iff.mp hvalue
        exact h id item hid (of_decide_eq_true howner)
      refine ⟨newestFirst ((s.memories.values.filter fun item => item.owner = owner).filter
        fun item => item.Active now), ?_⟩
      show (onlyActive now _ >>= fun items => .ok (newestFirst items)) = _
      rw [onlyActive_of_dated hdated]
      rfl
  mem_listMemories {s owner now items id memory} _ h hmem howner hactive := by
    obtain ⟨found, hfound, h⟩ := exceptBind_eq_ok h
    obtain ⟨-, rfl⟩ := onlyActive_eq_ok hfound
    cases h
    refine mem_newestFirst.mpr (List.mem_filter.mpr ⟨List.mem_filter.mpr
      ⟨Dict.mem_values_iff.mpr ⟨id, hmem⟩, decide_eq_true howner⟩, decide_eq_true hactive⟩)

end InMemoryStore

/-! ## SQLite -/

namespace SqliteStore

variable {s s' : SqliteStore} {owner : Principal}

/-- Rows are stored under the ids of their payloads, with the columns of these. -/
structure Consistent (s : SqliteStore) : Prop where
  memories : EveryRow (fun key row => row.payload.memoryId = key ∧ .of row.payload = row)
    s.preferenceMemories
  proposals : EveryRow (fun key row => row.payload.proposalId = key ∧ .of row.payload = row)
    s.memoryProposals

theorem owner_eq {key : String} {row : SqliteMemoryRow} (hs : s.Consistent)
    (h : s.preferenceMemories.get? key = some row) : row.owner = row.payload.owner := by
  rw [← (hs.memories key row h).2]
  rfl

/-- The rows before the first one that is not revoked are read. -/
theorem firstUnrevoked_eq_ok {rows : List SqliteMemoryRow} {found : Option PreferenceMemory}
    (h : firstUnrevoked rows = .ok found) :
    found = ((rows.map SqliteMemoryRow.payload).filter fun item =>
      item.revokedAt = none).head? := by
  induction rows with
  | nil =>
    cases h
    rfl
  | cons row rest ih =>
    obtain ⟨item, hitem, h⟩ := exceptBind_eq_ok h
    obtain ⟨rfl, -⟩ := readMemory_eq_ok hitem
    rw [List.map_cons, List.filter_cons]
    split at h
    · next hrevoked =>
      rw [if_pos (decide_eq_true hrevoked)]
      cases h
      rfl
    · next hrevoked =>
      rw [if_neg fun hnone => hrevoked (of_decide_eq_true hnone)]
      exact ih h

/-- The payloads of the tables are what is stored. -/
def view : StoreView repository where
  empty := {}
  memoryAt s := storedAt SqliteMemoryRow.payload s.preferenceMemories
  proposalAt s := storedAt SqliteProposalRow.payload s.memoryProposals
  under s owner contentHash := ((s.preferenceMemories.values.filter fun row =>
    row.owner = owner && row.contentHash = contentHash).map SqliteMemoryRow.payload).filter
      fun item => item.revokedAt = none
  Consistent := Consistent
  Accepts _ := True
  Readable := PreferenceMemory.Valid
  memoryAt_empty := rfl
  proposalAt_empty := rfl
  consistent_empty := ⟨everyRow_empty, everyRow_empty⟩
  memoryId_eq {s id memory} hs h := by
    obtain ⟨row, hrow, rfl⟩ := (storedAt_eq_some _).mp h
    exact (hs.memories id row hrow).1
  proposalId_eq {s id proposal} hs h := by
    obtain ⟨row, hrow, rfl⟩ := (storedAt_eq_some _).mp h
    exact (hs.proposals id row hrow).1
  mem_under {s owner contentHash memory} hs h := by
    obtain ⟨hmem, hrevoked⟩ := List.mem_filter.mp h
    obtain ⟨row, hrow, rfl⟩ := List.mem_map.mp hmem
    obtain ⟨hvalue, htest⟩ := List.mem_filter.mp hrow
    obtain ⟨id, hid⟩ := Dict.mem_values_iff.mp hvalue
    rw [Bool.and_eq_true, decide_eq_true_eq, decide_eq_true_eq] at htest
    exact ⟨⟨id, (storedAt_eq_some _).mpr ⟨row, hid, rfl⟩⟩, (owner_eq hs hid).symm.trans htest.1,
      of_decide_eq_true hrevoked⟩
  getMemory {s owner id memory} hs h := by
    change s.getMemory owner id = .ok memory at h
    unfold SqliteStore.getMemory at h
    split at h
    · cases h
    · next row hrow =>
      obtain ⟨hget, howner⟩ := filter_owner_eq_some hrow
      obtain ⟨rfl, -⟩ := readMemory_eq_ok h
      exact ⟨(storedAt_eq_some _).mpr ⟨row, hget, rfl⟩, (owner_eq hs hget).symm.trans howner⟩
  createMemory {s memory s'} hs h := by
    obtain ⟨_, -, h⟩ := exceptBind_eq_ok h
    split at h
    · cases h
    · next hnew =>
      cases h
      refine ⟨⟨hs.memories.set ⟨rfl, rfl⟩, hs.proposals⟩, ?_, storedAt_set .., rfl⟩
      rw [storedAt, Option.map_eq_none_iff]
      simpa [Dict.contains] using hnew
  saveMemory {s memory revision s'} hs h := by
    obtain ⟨_, -, h⟩ := exceptBind_eq_ok h
    obtain ⟨_, -, h⟩ := exceptBind_eq_ok h
    split at h
    · cases h
    · next row hrow =>
      obtain ⟨hget, howner⟩ := filter_owner_eq_some hrow
      split at h
      · next hrevision =>
        cases h
        have hcolumn : row.revision = row.payload.revision := by
          rw [← (hs.memories _ row hget).2]
          rfl
        refine ⟨⟨hs.memories.set ⟨rfl, ?_⟩, hs.proposals⟩, ⟨row.payload,
          (storedAt_eq_some _).mpr ⟨row, hget, rfl⟩, (owner_eq hs hget).symm.trans howner,
          hcolumn.symm.trans hrevision⟩, storedAt_set .., rfl⟩
        rw [SqliteMemoryRow.of, howner]
      · cases h
  deleteMemory {s owner id s'} hs h := by
    change s.deleteMemory owner id = .ok s' at h
    unfold SqliteStore.deleteMemory at h
    split at h
    · cases h
    · cases h
      exact ⟨⟨hs.memories.erase id, hs.proposals⟩, storedAt_erase .., rfl⟩
  clearMemories {s owner n s'} hs h := by
    cases h
    refine ⟨⟨hs.memories.filterValues _, hs.proposals⟩, fun id => ?_, rfl⟩
    refine storedAt_filterValues hs.memories (fun key row hrow => ?_) id
    rw [← hrow.2]
    rfl
  findContentHash {s owner contentHash found} h := by
    change firstUnrevoked (s.preferenceMemories.values.filter fun row =>
      row.owner = owner && row.contentHash = contentHash) = .ok found at h
    exact ⟨trivial, firstUnrevoked_eq_ok h⟩
  getProposal {s owner id proposal} hs h := by
    change s.getProposal owner id = .ok proposal at h
    unfold SqliteStore.getProposal at h
    split at h
    · cases h
    · next row hrow =>
      obtain ⟨hget, howner⟩ := filter_owner_eq_some hrow
      obtain rfl := readPayload_eq_ok h
      have hcolumn : row.owner = row.payload.owner := by
        rw [← (hs.proposals _ row hget).2]
        rfl
      exact ⟨(storedAt_eq_some _).mpr ⟨row, hget, rfl⟩, hcolumn.symm.trans howner⟩
  createProposal {s proposal s'} hs h := by
    change s.createProposal proposal = .ok s' at h
    unfold SqliteStore.createProposal at h
    split at h
    · cases h
    · next hnew =>
      cases h
      refine ⟨⟨hs.memories, hs.proposals.set ⟨rfl, rfl⟩⟩, ?_, storedAt_set .., rfl⟩
      rw [storedAt, Option.map_eq_none_iff]
      simpa [Dict.contains] using hnew
  saveProposal {s proposal s'} hs h := by
    change s.saveProposal proposal = .ok s' at h
    unfold SqliteStore.saveProposal at h
    split at h
    · cases h
    · next row hrow =>
      cases h
      refine ⟨⟨hs.memories, hs.proposals.set ⟨rfl, ?_⟩⟩, storedAt_set .., rfl⟩
      rw [SqliteProposalRow.of, (filter_owner_eq_some hrow).2]
  listMemories {s owner} now _ hs := by
    have hiff := @exists_mapM_readMemory_iff _ SqliteMemoryRow.payload
      (s.preferenceMemories.values.filter fun row => row.owner = owner)
    constructor
    · rintro ⟨items, h⟩ id memory hmem howner
      obtain ⟨found, hfound, -⟩ := exceptBind_eq_ok h
      obtain ⟨row, hrow, rfl⟩ := (storedAt_eq_some _).mp hmem
      refine hiff.mp ⟨found, hfound⟩ row (List.mem_filter.mpr
        ⟨Dict.mem_values_iff.mpr ⟨id, hrow⟩, ?_⟩)
      exact decide_eq_true ((owner_eq hs hrow).trans howner)
    · intro h
      obtain ⟨found, hfound⟩ := hiff.mpr fun row hrow => by
        obtain ⟨hvalue, howner⟩ := List.mem_filter.mp hrow
        obtain ⟨id, hid⟩ := Dict.mem_values_iff.mp hvalue
        exact h id row.payload ((storedAt_eq_some _).mpr ⟨row, hid, rfl⟩)
          ((owner_eq hs hid).symm.trans (of_decide_eq_true howner))
      have hdated : ∀ item ∈ found, item.Dated := fun item hitem =>
        ((mapM_readMemory_eq hfound).2 item hitem).dated
      refine ⟨newestFirst (found.filter fun item => item.Active now), ?_⟩
      change s.listMemories owner false now = _
      unfold SqliteStore.listMemories
      dsimp only
      rw [hfound]
      show (onlyActive now found >>= fun items => .ok (newestFirst items)) = _
      rw [onlyActive_of_dated hdated]
      rfl
  mem_listMemories {s owner now items id memory} hs h hmem howner hactive := by
    obtain ⟨found, hfound, h⟩ := exceptBind_eq_ok h
    obtain ⟨listed, hlisted, h⟩ := exceptBind_eq_ok h
    cases h
    obtain ⟨row, hrow, rfl⟩ := (storedAt_eq_some _).mp hmem
    obtain ⟨rfl, -⟩ := mapM_readMemory_eq hfound
    obtain ⟨-, rfl⟩ := onlyActive_eq_ok hlisted
    refine mem_newestFirst.mpr (List.mem_filter.mpr ⟨List.mem_map_of_mem (List.mem_filter.mpr
      ⟨Dict.mem_values_iff.mpr ⟨id, hrow⟩, ?_⟩), decide_eq_true hactive⟩)
    exact decide_eq_true ((owner_eq hs hrow).trans howner)

end SqliteStore

/-! ## Postgres -/

namespace PostgresStore

variable {s s' : PostgresStore} {owner : Principal}

/-- Rows are stored under the ids of their payloads, with their columns but for `content_hash`. -/
structure Consistent (s : PostgresStore) : Prop where
  memories : EveryRow (fun key row => row.payload.memoryId = key ∧
    { PostgresMemoryRow.of row.payload with contentHash := row.contentHash } = row)
      s.preferenceMemories
  proposals : EveryRow (fun key row => row.payload.proposalId = key ∧ .of row.payload = row)
    s.memoryProposals

theorem columns_eq {key : String} {row : PostgresMemoryRow} (hs : s.Consistent)
    (h : s.preferenceMemories.get? key = some row) :
    row.owner = row.payload.owner ∧ row.revision = row.payload.revision ∧
      row.revokedAt = row.payload.revokedAt := by
  rw [← (hs.memories key row h).2]
  exact ⟨rfl, rfl, rfl⟩

/-- Texts that were bound hold no NUL. -/
theorem bindable_of_bindTexts {texts : List String} (h : bindTexts texts = .ok ()) :
    ∀ text ∈ texts, Bindable text := by
  unfold bindTexts at h
  split at h
  · assumption
  · cases h

/-- The payloads of the tables are what is stored. -/
def view (order : TieOrder) : StoreView (repository order) where
  empty := {}
  memoryAt s := storedAt PostgresMemoryRow.payload s.preferenceMemories
  proposalAt s := storedAt PostgresProposalRow.payload s.memoryProposals
  under s owner contentHash := (s.preferenceMemories.values.filter fun row =>
    row.owner = owner && row.contentHash = contentHash && row.revokedAt = none).map
      PostgresMemoryRow.payload
  Consistent := Consistent
  Accepts owner := ∀ text ∈ owner.texts, Bindable text
  Readable memory := memory.revokedAt = none → memory.Valid
  memoryAt_empty := rfl
  proposalAt_empty := rfl
  consistent_empty := ⟨everyRow_empty, everyRow_empty⟩
  memoryId_eq {s id memory} hs h := by
    obtain ⟨row, hrow, rfl⟩ := (storedAt_eq_some _).mp h
    exact (hs.memories id row hrow).1
  proposalId_eq {s id proposal} hs h := by
    obtain ⟨row, hrow, rfl⟩ := (storedAt_eq_some _).mp h
    exact (hs.proposals id row hrow).1
  mem_under {s owner contentHash memory} hs h := by
    obtain ⟨row, hrow, rfl⟩ := List.mem_map.mp h
    obtain ⟨hvalue, htest⟩ := List.mem_filter.mp hrow
    obtain ⟨id, hid⟩ := Dict.mem_values_iff.mp hvalue
    simp only [Bool.and_eq_true, decide_eq_true_eq] at htest
    obtain ⟨howner, -, hrevoked⟩ := columns_eq hs hid
    exact ⟨⟨id, (storedAt_eq_some _).mpr ⟨row, hid, rfl⟩⟩, howner.symm.trans htest.1.1,
      hrevoked.symm.trans htest.2⟩
  getMemory {s owner id memory} hs h := by
    obtain ⟨_, -, h⟩ := exceptBind_eq_ok h
    split at h
    · cases h
    · next row hrow =>
      obtain ⟨hget, howner⟩ := filter_owner_eq_some hrow
      obtain ⟨rfl, -⟩ := readMemory_eq_ok h
      exact ⟨(storedAt_eq_some _).mpr ⟨row, hget, rfl⟩, (columns_eq hs hget).1.symm.trans howner⟩
  createMemory {s memory s'} hs h := by
    obtain ⟨_, -, h⟩ := exceptBind_eq_ok h
    obtain ⟨_, -, h⟩ := exceptBind_eq_ok h
    split at h
    · cases h
    · next hnew =>
      cases h
      refine ⟨⟨hs.memories.set ⟨rfl, rfl⟩, hs.proposals⟩, ?_, storedAt_set .., rfl⟩
      rw [not_or] at hnew
      rw [storedAt, Option.map_eq_none_iff]
      simpa [Dict.contains] using hnew.1
  saveMemory {s memory revision s'} hs h := by
    obtain ⟨_, -, h⟩ := exceptBind_eq_ok h
    obtain ⟨_, -, h⟩ := exceptBind_eq_ok h
    obtain ⟨_, -, h⟩ := exceptBind_eq_ok h
    split at h
    · cases h
    · next row hrow =>
      obtain ⟨hget, howner⟩ := filter_owner_eq_some hrow
      obtain ⟨hcolumn, hrevisions, -⟩ := columns_eq hs hget
      split at h
      · next hrevision =>
        cases h
        refine ⟨⟨hs.memories.set ⟨rfl, ?_⟩, hs.proposals⟩, ⟨row.payload,
          (storedAt_eq_some _).mpr ⟨row, hget, rfl⟩, hcolumn.symm.trans howner,
          hrevisions.symm.trans hrevision⟩, storedAt_set .., rfl⟩
        rw [PostgresMemoryRow.of, howner]
      · cases h
  deleteMemory {s owner id s'} hs h := by
    obtain ⟨_, -, h⟩ := exceptBind_eq_ok h
    split at h
    · cases h
    · cases h
      exact ⟨⟨hs.memories.erase id, hs.proposals⟩, storedAt_erase .., rfl⟩
  clearMemories {s owner n s'} hs h := by
    obtain ⟨_, -, h⟩ := exceptBind_eq_ok h
    cases h
    refine ⟨⟨hs.memories.filterValues _, hs.proposals⟩, fun id => ?_, rfl⟩
    refine storedAt_filterValues hs.memories (fun key row hrow => ?_) id
    rw [← hrow.2]
    rfl
  findContentHash {s owner contentHash found} h := by
    obtain ⟨_, hbound, h⟩ := exceptBind_eq_ok h
    refine ⟨(List.forall_mem_cons.mp (bindable_of_bindTexts hbound)).2, ?_⟩
    rw [List.head?_map, List.head?_filter]
    split at h
    · next hnone =>
      cases h
      rw [hnone]
      rfl
    · next row hrow =>
      rw [hrow]
      cases hread : readMemory row.payload with
      | error error =>
        rw [hread] at h
        cases h
      | ok memory =>
        rw [hread] at h
        cases h
        rw [← (readMemory_eq_ok hread).1]
        rfl
  getProposal {s owner id proposal} hs h := by
    obtain ⟨_, -, h⟩ := exceptBind_eq_ok h
    split at h
    · cases h
    · next row hrow =>
      obtain ⟨hget, howner⟩ := filter_owner_eq_some hrow
      obtain rfl := readPayload_eq_ok h
      have hcolumn : row.owner = row.payload.owner := by
        rw [← (hs.proposals _ row hget).2]
        rfl
      exact ⟨(storedAt_eq_some _).mpr ⟨row, hget, rfl⟩, hcolumn.symm.trans howner⟩
  createProposal {s proposal s'} hs h := by
    obtain ⟨_, -, h⟩ := exceptBind_eq_ok h
    split at h
    · cases h
    · next hnew =>
      cases h
      refine ⟨⟨hs.memories, hs.proposals.set ⟨rfl, rfl⟩⟩, ?_, storedAt_set .., rfl⟩
      rw [storedAt, Option.map_eq_none_iff]
      simpa [Dict.contains] using hnew
  saveProposal {s proposal s'} hs h := by
    obtain ⟨_, -, h⟩ := exceptBind_eq_ok h
    split at h
    · cases h
    · next row hrow =>
      cases h
      refine ⟨⟨hs.memories, hs.proposals.set ⟨rfl, ?_⟩⟩, storedAt_set .., rfl⟩
      rw [PostgresProposalRow.of, (filter_owner_eq_some hrow).2]
  listMemories {s owner} now haccepts hs := by
    have hiff := @exists_mapM_readMemory_iff _ PostgresMemoryRow.payload
      (order.arrange now (s.preferenceMemories.values.filter fun row =>
        row.owner = owner && (false || row.revokedAt = none)))
    have hlist : (repository order).listMemories s owner false now =
        (order.arrange now (s.preferenceMemories.values.filter fun row =>
          row.owner = owner && (false || row.revokedAt = none))).mapM fun row =>
            readMemory row.payload := by
      show (bindTexts owner.texts >>= fun _ => _) = _
      rw [bindTexts, if_pos haccepts]
      rfl
    rw [hlist]
    refine Iff.trans hiff ?_
    constructor
    · intro h id memory hmem howner hunrevoked
      obtain ⟨row, hrow, rfl⟩ := (storedAt_eq_some _).mp hmem
      obtain ⟨hcolumn, -, hrevoked⟩ := columns_eq hs hrow
      refine h row ((order.perm ..).mem_iff.mpr (List.mem_filter.mpr
        ⟨Dict.mem_values_iff.mpr ⟨id, hrow⟩, ?_⟩))
      simp [hcolumn.trans howner, hrevoked.trans hunrevoked]
    · intro h row hrow
      obtain ⟨hvalue, htest⟩ := List.mem_filter.mp ((order.perm ..).mem_iff.mp hrow)
      obtain ⟨id, hid⟩ := Dict.mem_values_iff.mp hvalue
      obtain ⟨hcolumn, -, hrevoked⟩ := columns_eq hs hid
      simp only [Bool.false_or, Bool.and_eq_true, decide_eq_true_eq] at htest
      exact h id row.payload ((storedAt_eq_some _).mpr ⟨row, hid, rfl⟩)
        (hcolumn.symm.trans htest.1) (hrevoked.symm.trans htest.2)
  mem_listMemories {s owner now items id memory} hs h hmem howner hactive := by
    obtain ⟨row, hrow, rfl⟩ := (storedAt_eq_some _).mp hmem
    obtain ⟨hcolumn, -, hrevoked⟩ := columns_eq hs hrow
    obtain ⟨_, -, h⟩ := exceptBind_eq_ok h
    obtain ⟨rfl, -⟩ := mapM_readMemory_eq h
    refine List.mem_map_of_mem ((order.perm ..).mem_iff.mpr (List.mem_filter.mpr
      ⟨Dict.mem_values_iff.mpr ⟨id, hrow⟩, ?_⟩))
    simp [hcolumn.trans howner, hrevoked.trans hactive.unrevoked]

end PostgresStore

/-! ## The three repositories -/

/-- The repositories that `open_preference_repository` opens. -/
inductive RepositoryKind where
  | inMemory
  | sqlite
  | postgres (order : TieOrder)

namespace RepositoryKind

abbrev Store : RepositoryKind → Type
  | inMemory => InMemoryStore
  | sqlite => SqliteStore
  | postgres _ => PostgresStore

def repository : (kind : RepositoryKind) → PreferenceRepository kind.Store
  | inMemory => InMemoryStore.repository
  | sqlite => SqliteStore.repository
  | postgres order => PostgresStore.repository order

def view : (kind : RepositoryKind) → StoreView kind.repository
  | inMemory => InMemoryStore.view
  | sqlite => SqliteStore.view
  | postgres order => PostgresStore.view order

/-- A lookup by content hash finds what is stored, except on Postgres. -/
theorem mem_under_of_stored {kind : RepositoryKind} (hkind : ∀ order, kind ≠ postgres order)
    {s : kind.Store} (hs : kind.view.Consistent s) {id : String} {memory : PreferenceMemory}
    (hmem : kind.view.memoryAt s id = some memory) (hrevoked : memory.revokedAt = none) :
    memory ∈ kind.view.under s memory.owner memory.contentHash := by
  cases kind with
  | inMemory =>
    refine List.mem_filter.mpr ⟨Dict.mem_values_iff.mpr ⟨id, hmem⟩, ?_⟩
    simp [hrevoked]
  | sqlite =>
    obtain ⟨row, hrow, rfl⟩ := (storedAt_eq_some _).mp hmem
    refine List.mem_filter.mpr ⟨List.mem_map_of_mem (List.mem_filter.mpr
      ⟨Dict.mem_values_iff.mpr ⟨id, hrow⟩, ?_⟩), decide_eq_true hrevoked⟩
    rw [← (SqliteStore.Consistent.memories hs id row hrow).2]
    simp
  | postgres order => exact absurd rfl (hkind order)

/-- Except on Postgres, what a lookup finds has the content hash. -/
theorem contentHash_of_mem_under {kind : RepositoryKind}
    (hkind : ∀ order, kind ≠ postgres order) {s : kind.Store} (hs : kind.view.Consistent s)
    {owner : Principal} {contentHash : String} {memory : PreferenceMemory}
    (h : memory ∈ kind.view.under s owner contentHash) : memory.contentHash = contentHash := by
  cases kind with
  | inMemory =>
    obtain ⟨-, htest⟩ := List.mem_filter.mp h
    simp only [Bool.and_eq_true, decide_eq_true_eq] at htest
    exact htest.1.2
  | sqlite =>
    obtain ⟨hmem, -⟩ := List.mem_filter.mp h
    obtain ⟨row, hrow, rfl⟩ := List.mem_map.mp hmem
    obtain ⟨hvalue, htest⟩ := List.mem_filter.mp hrow
    obtain ⟨id, hid⟩ := Dict.mem_values_iff.mp hvalue
    rw [Bool.and_eq_true, decide_eq_true_eq, decide_eq_true_eq] at htest
    have hcolumn : row.contentHash = row.payload.contentHash := by
      rw [← (SqliteStore.Consistent.memories hs id row hid).2]
      rfl
    exact hcolumn.symm.trans htest.2
  | postgres order => exact absurd rfl (hkind order)

end RepositoryKind

end TravelPlanAgent
