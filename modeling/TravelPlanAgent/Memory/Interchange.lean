import TravelPlanAgent.Memory.Stores

/-!
# When the three repositories answer alike

* `Storable`, `PreferenceOperation.Admissible`: what every database stores as it is.
* `InMemoryStore.toSqlite`, `Mirrors`: the stores of the other two repositories that hold what an
  in-memory store holds.
* `perform_toSqlite`: SQLite does what the in-memory repository does.
* `PreferenceOperation.Portable`, `Mirrors.perform`: the calls that Postgres answers alike.
* `answers_alike`: sequences of such calls.
-/

namespace TravelPlanAgent

open PreferenceOperation

/-! ## Valid stores and calls -/

/-- Everything that is stored passes the checks of its model. -/
structure InMemoryStore.Valid (s : InMemoryStore) : Prop where
  memories : ∀ item ∈ s.memories.values, item.Valid
  proposals : ∀ item ∈ s.proposals.values, item.Valid
  settings : ∀ item ∈ s.settings.values, item.Valid

/-- An integer that the columns of every database hold. -/
def FitsColumn (n : ℤ) : Prop := -2 ^ 31 ≤ n ∧ n < 2 ^ 31

instance (n : ℤ) : Decidable (FitsColumn n) := inferInstanceAs (Decidable (_ ∧ _))

/-- A number that is read from `jsonb` as it was written: a text of it has no exponent, and no more
digits than an integer may have. -/
def PreferenceScalar.Plain : PreferenceScalar → Prop
  | .float value => |value| < 10 ^ 16
  | .int value => |value| < 10 ^ 4300
  | _ => True

/-- The scalars of a value. -/
def PreferenceValue.scalars : PreferenceValue → List PreferenceScalar
  | .scalar value => [value]
  | .list values => values
  | .dict values => values.flatMap fun (_, item) => item.elim ([·]) id

/-- A memory that every database stores: it passes its checks, its texts and numbers come back as
they are, and its id fits into an index. -/
structure PreferenceMemory.Storable (memory : PreferenceMemory) : Prop where
  valid : memory.Valid
  fits : FitsColumn memory.revision
  bindable : ∀ text ∈ memory.texts, Bindable text
  plain : ∀ scalar ∈ memory.value.scalars, scalar.Plain
  memoryId : memory.memoryId.length ≤ 128

/-- A proposal that every database stores. -/
structure MemoryProposal.Storable (proposal : MemoryProposal) : Prop where
  valid : proposal.Valid
  bindable : ∀ text ∈ proposal.texts, Bindable text
  plain : ∀ scalar ∈ proposal.value.scalars, scalar.Plain
  proposalId : proposal.proposalId.length ≤ 128

/-- Settings that every database stores. -/
structure PersonalizationSettings.Storable (settings : PersonalizationSettings) : Prop where
  valid : settings.Valid
  fits : FitsColumn settings.revision
  bindable : ∀ text ∈ settings.owner.texts, Bindable text
  owner : ∀ text ∈ settings.owner.texts, text.length ≤ 128

/-- What a call gives to a database can be stored, and compared with what is stored. -/
def PreferenceOperation.Admissible : PreferenceOperation → Prop
  | listMemories owner _ | clearMemories owner | getPersonalization owner =>
    ∀ text ∈ owner.texts, Bindable text
  | getMemory owner key | deleteMemory owner key | findContentHash owner key
  | getProposal owner key => ∀ text ∈ key :: owner.texts, Bindable text
  | createMemory memory => memory.Storable
  | saveMemory memory expectedRevision => memory.Storable ∧ FitsColumn expectedRevision
  | createProposal proposal => proposal.Storable
  | saveProposal proposal => proposal.Storable
  | savePersonalization settings expectedRevision =>
    settings.Storable ∧ ∀ n ∈ expectedRevision, FitsColumn n

theorem bindTexts_of_bindable {texts : List String} (h : ∀ text ∈ texts, Bindable text) :
    bindTexts texts = .ok () :=
  if_pos h

theorem bindInteger_32 {n : ℤ} (h : FitsColumn n) : bindInteger 32 n = .ok () :=
  if_pos h

theorem bindInteger_64 {n : ℤ} (h : FitsColumn n) : bindInteger 64 n = .ok () := by
  refine if_pos ?_
  unfold FitsColumn at h
  omega

theorem valid_defaultPersonalization (owner : Principal) (now : Instant) :
    (defaultPersonalization owner now).Valid := by
  show (1 : ℤ) ≤ 1
  exact le_refl 1

theorem InMemoryStore.valid_empty : InMemoryStore.Valid {} :=
  ⟨fun _ h => (nomatch h), fun _ h => (nomatch h), fun _ h => (nomatch h)⟩

namespace InMemoryStore.Valid

variable {s : InMemoryStore} (hs : s.Valid)

include hs

theorem get?_memories {memoryId : String} {item : PreferenceMemory}
    (h : s.memories.get? memoryId = some item) : item.Valid :=
  hs.memories item (Dict.mem_values_iff.mpr ⟨memoryId, h⟩)

theorem get?_proposals {proposalId : String} {item : MemoryProposal}
    (h : s.proposals.get? proposalId = some item) : item.Valid :=
  hs.proposals item (Dict.mem_values_iff.mpr ⟨proposalId, h⟩)

theorem get?_settings {owner : Principal} {item : PersonalizationSettings}
    (h : s.settings.get? owner = some item) : item.Valid :=
  hs.settings item (Dict.mem_values_iff.mpr ⟨owner, h⟩)

theorem set_memory {memory : PreferenceMemory} (h : memory.Valid) :
    InMemoryStore.Valid { s with memories := s.memories.set memory.memoryId memory } := by
  refine ⟨fun item hitem => ?_, hs.proposals, hs.settings⟩
  rcases Dict.mem_values_set hitem with rfl | hold
  · exact h
  · exact hs.memories item hold

theorem set_proposal {proposal : MemoryProposal} (h : proposal.Valid) :
    InMemoryStore.Valid
      { s with proposals := s.proposals.set proposal.proposalId proposal } := by
  refine ⟨hs.memories, fun item hitem => ?_, hs.settings⟩
  rcases Dict.mem_values_set hitem with rfl | hold
  · exact h
  · exact hs.proposals item hold

theorem set_settings {owner : Principal} {settings : PersonalizationSettings}
    (h : settings.Valid) :
    InMemoryStore.Valid { s with settings := s.settings.set owner settings } := by
  refine ⟨hs.memories, hs.proposals, fun item hitem => ?_⟩
  rcases Dict.mem_values_set hitem with rfl | hold
  · exact h
  · exact hs.settings item hold

/-- A call that may be made keeps the store valid. -/
theorem perform {operation : PreferenceOperation} (h : operation.Admissible) (now : Instant) :
    (operation.perform InMemoryStore.repository now s).2.Valid := by
  cases operation with
  | listMemories | getMemory | findContentHash | getProposal => exact hs
  | createMemory memory =>
    show (written s (s.createMemory memory)).2.Valid
    unfold InMemoryStore.createMemory
    split
    · exact hs
    · exact hs.set_memory h.valid
  | saveMemory memory expectedRevision =>
    show (written s (s.saveMemory memory expectedRevision)).2.Valid
    unfold InMemoryStore.saveMemory
    split
    · exact hs
    · split
      · exact hs
      · split
        · exact hs
        · exact hs.set_memory h.1.valid
  | deleteMemory owner memoryId =>
    show (written s (s.deleteMemory owner memoryId)).2.Valid
    unfold InMemoryStore.deleteMemory
    cases s.getMemory owner memoryId with
    | error error => exact hs
    | ok item =>
      refine ⟨fun item hitem => ?_, hs.proposals, hs.settings⟩
      exact hs.memories item (Dict.mem_values_of_erase hitem)
  | clearMemories owner =>
    refine ⟨fun item hitem => ?_, hs.proposals, hs.settings⟩
    exact hs.memories item (Dict.mem_values_of_filterValues hitem)
  | createProposal proposal =>
    show (written s (s.createProposal proposal)).2.Valid
    unfold InMemoryStore.createProposal
    split
    · exact hs
    · exact hs.set_proposal h.valid
  | saveProposal proposal =>
    show (written s (s.saveProposal proposal)).2.Valid
    unfold InMemoryStore.saveProposal
    split
    · exact hs
    · split
      · exact hs.set_proposal h.valid
      · exact hs
  | getPersonalization owner =>
    show (s.getPersonalization owner now).2.Valid
    unfold InMemoryStore.getPersonalization
    split
    · exact hs
    · exact hs.set_settings (valid_defaultPersonalization owner now)
  | savePersonalization settings expectedRevision =>
    show (written s (s.savePersonalization settings expectedRevision)).2.Valid
    unfold InMemoryStore.savePersonalization
    split
    · split
      · exact hs.set_settings h.1.valid
      · exact hs
    · split
      · exact hs.set_settings h.1.valid
      · exact hs

end InMemoryStore.Valid

/-! ## SQLite -/

/-- The SQLite store with the same contents. -/
def InMemoryStore.toSqlite (s : InMemoryStore) : SqliteStore where
  preferenceMemories := s.memories.mapTo .of
  memoryProposals := s.proposals.mapTo .of
  personalizationSettings := s.settings.mapTo .of

/-- The row of an owner, where there is one. -/
theorem filter_map_of {ν ρ : Type} {of : ν → ρ} {ownerOf : ρ → Principal} {owner : Principal}
    (item? : Option ν) :
    (item?.map of).filter (fun row => ownerOf row = owner) =
      item?.bind fun item => if ownerOf (of item) = owner then some (of item) else none := by
  cases item? with
  | none => rfl
  | some item =>
    rw [Option.map_some, Option.filter_some, Option.bind_some]
    by_cases howner : ownerOf (of item) = owner
    · rw [if_pos howner, if_pos (decide_eq_true howner)]
    · rw [if_neg howner, if_neg fun h => howner (of_decide_eq_true h)]

/-- Valid payloads are read as they are. -/
theorem mapM_readMemory {ρ : Type} (of : PreferenceMemory → ρ) (payload : ρ → PreferenceMemory)
    (hof : ∀ item, payload (of item) = item) {items : List PreferenceMemory}
    (h : ∀ item ∈ items, item.Valid) :
    ((items.map of).mapM fun row => readMemory (payload row)) = .ok items := by
  induction items with
  | nil => rfl
  | cons item rest ih =>
    have hitem : readMemory (payload (of item)) = .ok item := by
      rw [hof]
      exact readMemory_of_valid (h item List.mem_cons_self)
    rw [List.map_cons, List.mapM_cons, hitem,
      ih fun item' h' => h item' (List.mem_cons_of_mem _ h')]
    rfl

theorem firstUnrevoked_map_of {items : List PreferenceMemory} (h : ∀ item ∈ items, item.Valid) :
    SqliteStore.firstUnrevoked (items.map .of) =
      .ok (items.find? fun item => item.revokedAt = none) := by
  induction items with
  | nil => rfl
  | cons item rest ih =>
    have hitem : readMemory (SqliteMemoryRow.of item).payload = .ok item :=
      readMemory_of_valid (h item List.mem_cons_self)
    have hrest := ih fun item' h' => h item' (List.mem_cons_of_mem _ h')
    rw [List.map_cons, SqliteStore.firstUnrevoked, hitem, List.find?_cons]
    show (if item.revokedAt = none then _ else _) = _
    by_cases hrevoked : item.revokedAt = none
    · simp [hrevoked]
    · simp [hrevoked, hrest]

namespace InMemoryStore

variable {s : InMemoryStore} (hs : s.Valid) (owner : Principal) (now : Instant)

theorem get?_toSqlite_memories (memoryId : String) :
    s.toSqlite.preferenceMemories.get? memoryId = (s.memories.get? memoryId).map .of :=
  Dict.get?_mapTo ..

theorem get?_toSqlite_proposals (proposalId : String) :
    s.toSqlite.memoryProposals.get? proposalId = (s.proposals.get? proposalId).map .of :=
  Dict.get?_mapTo ..

theorem get?_toSqlite_settings :
    s.toSqlite.personalizationSettings.get? owner = (s.settings.get? owner).map .of :=
  Dict.get?_mapTo ..

include hs

theorem listMemories_toSqlite (includeInactive : Bool) :
    s.toSqlite.listMemories owner includeInactive now =
      s.listMemories owner includeInactive now := by
  have hvalid : ∀ item ∈ s.memories.values.filter fun item => item.owner = owner, item.Valid :=
    fun item hitem => hs.memories item (List.mem_filter.mp hitem).1
  have hrows : (s.toSqlite.preferenceMemories.values.filter fun row => row.owner = owner) =
      (s.memories.values.filter fun item => item.owner = owner).map .of := by
    rw [toSqlite, Dict.values_mapTo, List.filter_map]
    rfl
  unfold SqliteStore.listMemories listMemories
  dsimp only
  rw [hrows, mapM_readMemory _ _ (fun _ => rfl) hvalid]
  rfl

theorem findContentHash_toSqlite (contentHash : String) :
    s.toSqlite.findContentHash owner contentHash = s.findContentHash owner contentHash := by
  have hvalid : ∀ item ∈ s.memories.values.filter fun item =>
      item.owner = owner && item.contentHash = contentHash, item.Valid :=
    fun item hitem => hs.memories item (List.mem_filter.mp hitem).1
  unfold SqliteStore.findContentHash findContentHash toSqlite
  rw [Dict.values_mapTo, List.filter_map]
  refine (firstUnrevoked_map_of hvalid).trans (congrArg Except.ok ?_)
  rw [List.find?_filter]
  refine congrArg (s.memories.values.find? ·) (funext fun item => ?_)
  simp

theorem getMemory_toSqlite (memoryId : String) :
    s.toSqlite.getMemory owner memoryId = s.getMemory owner memoryId := by
  unfold SqliteStore.getMemory getMemory
  rw [get?_toSqlite_memories, filter_map_of]
  cases hget : s.memories.get? memoryId with
  | none => rfl
  | some item =>
    rw [Option.bind_some]
    by_cases howner : item.owner = owner
    · simpa [howner] using readMemory_of_valid (hs.get?_memories hget)
    · simp [howner]

theorem getProposal_toSqlite (proposalId : String) :
    s.toSqlite.getProposal owner proposalId = s.getProposal owner proposalId := by
  unfold SqliteStore.getProposal getProposal
  rw [get?_toSqlite_proposals, filter_map_of]
  cases hget : s.proposals.get? proposalId with
  | none => rfl
  | some item =>
    rw [Option.bind_some]
    by_cases howner : item.owner = owner
    · simpa [howner] using readPayload_of_valid (hs.get?_proposals hget)
    · simp [howner]

theorem getPersonalization_toSqlite :
    s.toSqlite.getPersonalization owner now =
      ((s.getPersonalization owner now).1, (s.getPersonalization owner now).2.toSqlite) := by
  unfold SqliteStore.getPersonalization getPersonalization
  rw [get?_toSqlite_settings]
  cases hget : s.settings.get? owner with
  | none =>
    dsimp only [Option.map_none]
    rw [toSqlite, toSqlite, Dict.mapTo_set]
  | some item => exact Prod.ext (readPayload_of_valid (hs.get?_settings hget)) rfl

omit hs

theorem createMemory_toSqlite {memory : PreferenceMemory} (h : FitsColumn memory.revision) :
    s.toSqlite.createMemory memory = (s.createMemory memory).map toSqlite := by
  unfold SqliteStore.createMemory createMemory
  rw [bindInteger_64 h, show s.toSqlite.preferenceMemories.contains memory.memoryId =
    s.memories.contains memory.memoryId from Dict.contains_mapTo ..]
  show (if _ then _ else _) = _
  split
  · rfl
  · show Except.ok _ = Except.ok _
    rw [toSqlite, toSqlite, Dict.mapTo_set]

theorem saveMemory_toSqlite {memory : PreferenceMemory} {expectedRevision : ℤ}
    (h : FitsColumn memory.revision) (hexpected : FitsColumn expectedRevision) :
    s.toSqlite.saveMemory memory expectedRevision =
      (s.saveMemory memory expectedRevision).map toSqlite := by
  unfold SqliteStore.saveMemory saveMemory
  rw [bindInteger_64 h, bindInteger_64 hexpected, get?_toSqlite_memories, filter_map_of]
  dsimp only [bind, Except.bind]
  cases s.memories.get? memory.memoryId with
  | none => rfl
  | some current =>
    by_cases howner : current.owner = memory.owner
    · by_cases hrevision : current.revision = expectedRevision
      · simp [howner, hrevision, SqliteMemoryRow.of, toSqlite, Dict.mapTo_set, Except.map]
      · simp [howner, hrevision, SqliteMemoryRow.of, Except.map]
    · simp [howner, Except.map]

theorem deleteMemory_toSqlite (memoryId : String) :
    s.toSqlite.deleteMemory owner memoryId = (s.deleteMemory owner memoryId).map toSqlite := by
  unfold SqliteStore.deleteMemory deleteMemory getMemory
  rw [get?_toSqlite_memories, filter_map_of]
  cases s.memories.get? memoryId with
  | none => rfl
  | some item =>
    by_cases howner : item.owner = owner
    · simp [howner, toSqlite, Dict.mapTo_erase, Except.map, bind, Except.bind]
    · simp [howner, Except.map, bind, Except.bind]

theorem clearMemories_toSqlite :
    s.toSqlite.clearMemories owner =
      (s.clearMemories owner).map fun (n, s') => (n, s'.toSqlite) := by
  have herased : (s.memories.filterValues fun item => item.owner ≠ owner).mapTo .of =
      s.toSqlite.preferenceMemories.filterValues fun row => row.owner ≠ owner :=
    Dict.mapTo_filterValues SqliteMemoryRow.of s.memories fun row => row.owner ≠ owner
  unfold SqliteStore.clearMemories clearMemories
  rw [← herased, toSqlite, Dict.values_mapTo, List.filter_map, List.length_map]
  rfl

theorem createProposal_toSqlite (proposal : MemoryProposal) :
    s.toSqlite.createProposal proposal = (s.createProposal proposal).map toSqlite := by
  unfold SqliteStore.createProposal createProposal
  rw [show s.toSqlite.memoryProposals.contains proposal.proposalId =
    s.proposals.contains proposal.proposalId from Dict.contains_mapTo ..]
  split
  · rfl
  · show Except.ok _ = Except.ok _
    rw [toSqlite, toSqlite, Dict.mapTo_set]

theorem saveProposal_toSqlite (proposal : MemoryProposal) :
    s.toSqlite.saveProposal proposal = (s.saveProposal proposal).map toSqlite := by
  unfold SqliteStore.saveProposal saveProposal
  rw [get?_toSqlite_proposals, filter_map_of]
  cases s.proposals.get? proposal.proposalId with
  | none => rfl
  | some current =>
    by_cases howner : current.owner = proposal.owner
    · simp [howner, SqliteProposalRow.of, toSqlite, Dict.mapTo_set, Except.map]
    · simp [howner, Except.map]

theorem savePersonalization_toSqlite {settings : PersonalizationSettings}
    (h : FitsColumn settings.revision) (expectedRevision : Option ℤ) :
    s.toSqlite.savePersonalization settings expectedRevision =
      (s.savePersonalization settings expectedRevision).map toSqlite := by
  unfold SqliteStore.savePersonalization savePersonalization
  rw [bindInteger_64 h, get?_toSqlite_settings]
  cases s.settings.get? settings.owner with
  | none =>
    by_cases hexpected : expectedRevision = none ∨ expectedRevision = some 0
    · rw [if_pos hexpected, Option.map_none]
      dsimp only
      rw [if_neg (by tauto)]
      simp [toSqlite, Dict.mapTo_set, Except.map, bind, Except.bind]
    · rw [if_neg hexpected, Option.map_none]
      dsimp only
      rw [if_pos (by tauto)]
      rfl
  | some current =>
    by_cases hexpected : expectedRevision = some current.revision
    · simp [hexpected, SqliteSettingsRow.of, toSqlite, Dict.mapTo_set, Except.map, bind,
        Except.bind]
    · simp [hexpected, SqliteSettingsRow.of, Except.map]

/-- A method that only writes, on both stores. -/
theorem written_toSqlite (result : Except MemoryError InMemoryStore) :
    written s.toSqlite (result.map toSqlite) =
      ((written s result).1, (written s result).2.toSqlite) := by
  cases result <;> rfl

include hs

/-- SQLite answers every call as the in-memory repository does. -/
theorem perform_toSqlite {operation : PreferenceOperation} (h : operation.Admissible) :
    operation.perform SqliteStore.repository now s.toSqlite =
      ((operation.perform repository now s).1,
        (operation.perform repository now s).2.toSqlite) := by
  cases operation with
  | listMemories owner includeInactive =>
    exact Prod.ext (congrArg (Except.map PreferenceAnswer.memories)
      (listMemories_toSqlite hs owner now includeInactive)) rfl
  | getMemory owner memoryId =>
    exact Prod.ext (congrArg (Except.map PreferenceAnswer.memory)
      (getMemory_toSqlite hs owner memoryId)) rfl
  | createMemory memory =>
    exact (congrArg _ (createMemory_toSqlite h.fits)).trans (written_toSqlite _)
  | saveMemory memory expectedRevision =>
    exact (congrArg _ (saveMemory_toSqlite h.1.fits h.2)).trans (written_toSqlite _)
  | deleteMemory owner memoryId =>
    exact (congrArg _ (deleteMemory_toSqlite owner memoryId)).trans (written_toSqlite _)
  | clearMemories owner =>
    dsimp only [PreferenceOperation.perform, SqliteStore.repository, repository]
    rw [clearMemories_toSqlite]
    rfl
  | findContentHash owner contentHash =>
    exact Prod.ext (congrArg (Except.map PreferenceAnswer.found)
      (findContentHash_toSqlite hs owner contentHash)) rfl
  | createProposal proposal =>
    exact (congrArg _ (createProposal_toSqlite proposal)).trans (written_toSqlite _)
  | getProposal owner proposalId =>
    exact Prod.ext (congrArg (Except.map PreferenceAnswer.proposal)
      (getProposal_toSqlite hs owner proposalId)) rfl
  | saveProposal proposal =>
    exact (congrArg _ (saveProposal_toSqlite proposal)).trans (written_toSqlite _)
  | getPersonalization owner =>
    show (Except.map PreferenceAnswer.settings (s.toSqlite.getPersonalization owner now).1,
      (s.toSqlite.getPersonalization owner now).2) = _
    rw [getPersonalization_toSqlite hs]
    rfl
  | savePersonalization settings expectedRevision =>
    exact (congrArg _ (savePersonalization_toSqlite h.1.fits expectedRevision)).trans
      (written_toSqlite _)

end InMemoryStore

/-! ## Postgres -/

/-- The Postgres store holds the same, but for settings that were only read. -/
structure Mirrors (s : InMemoryStore) (t : PostgresStore) : Prop where
  memories : t.preferenceMemories = s.memories.mapTo .of
  proposals : t.memoryProposals = s.proposals.mapTo .of
  settings : ∀ owner,
    t.personalizationSettings.get? owner = (s.settings.get? owner).map .of ∨
      t.personalizationSettings.get? owner = none ∧
        ∃ since, s.settings.get? owner = some (defaultPersonalization owner since)

/-- The calls that Postgres answers as the other repositories do, on the stores as they are. -/
def PreferenceOperation.Portable (now : Instant) (s : InMemoryStore) (t : PostgresStore) :
    PreferenceOperation → Prop
  | listMemories owner includeInactive =>
    includeInactive = true ∨ ∀ item ∈ s.memories.values,
      item.owner = owner → item.revokedAt = none → item.Active now
  | createMemory memory =>
    s.memories.contains memory.memoryId = true ∨ ∀ item ∈ s.memories.values,
      item.owner = memory.owner → item.contentHash ≠ memory.contentHash
  | saveMemory memory expectedRevision =>
    ∀ current ∈ s.memories.get? memory.memoryId,
      current.owner = memory.owner → current.revision = expectedRevision →
        memory.contentHash = current.contentHash
  | getPersonalization owner =>
    t.personalizationSettings.contains owner = true ∨
      ∀ settings ∈ s.settings.get? owner, settings.updatedAt = now
  | savePersonalization settings expectedRevision =>
    s.settings.contains settings.owner = true →
      expectedRevision ≠ none ∧
        (t.personalizationSettings.contains settings.owner = true ∨
          expectedRevision ≠ some 0 ∧ expectedRevision ≠ some 1)
  | _ => True

/-- The same answer, up to the order of memories that were updated at the same time. -/
def SameAnswer : Except MemoryError PreferenceAnswer → Except MemoryError PreferenceAnswer → Prop
  | .ok (.memories items), .ok (.memories items') =>
    items.Perm items' ∧
      (items.map fun item => item.updatedAt) = items'.map fun item => item.updatedAt
  | answer, answer' => answer = answer'

/-- Two methods that only write fail alike or leave stores with the same contents. -/
def SameStore : Except MemoryError InMemoryStore → Except MemoryError PostgresStore → Prop
  | .ok s, .ok t => Mirrors s t
  | .error error, .error error' => error = error'
  | _, _ => False

theorem SameAnswer.of_eq {answer answer' : Except MemoryError PreferenceAnswer}
    (h : answer = answer') : SameAnswer answer answer' := by
  subst h
  unfold SameAnswer
  split
  · exact ⟨.refl _, rfl⟩
  · rfl

theorem newestFirst_perm (items : List PreferenceMemory) : (newestFirst items).Perm items :=
  List.mergeSort_perm ..

/-- What `newestFirst` is about. -/
theorem newestFirst_sorted (items : List PreferenceMemory) :
    (newestFirst items).Pairwise fun a b => b.updatedAt ≤ a.updatedAt := by
  refine (List.pairwise_mergeSort ?_ ?_ items).imp fun {a b} h => ?_
  · intro a b c hab hbc
    simp only [Bool.or_eq_true, Bool.and_eq_true, decide_eq_true_eq, beq_iff_eq] at hab hbc ⊢
    rcases hab with hab | ⟨hab, hab'⟩
    · rcases hbc with hbc | ⟨hbc, -⟩
      · exact Or.inl (hbc.trans hab)
      · exact Or.inl (hbc ▸ hab)
    · rcases hbc with hbc | ⟨hbc, hbc'⟩
      · exact Or.inl (hab ▸ hbc)
      · exact Or.inr ⟨hbc.trans hab, hbc'.trans hab'⟩
  · intro a b
    simp only [Bool.or_eq_true, Bool.and_eq_true, decide_eq_true_eq, beq_iff_eq]
    rcases lt_trichotomy a.updatedAt b.updatedAt with hlt | heq | hlt
    · exact Or.inr (Or.inl hlt)
    · rcases le_total a.memoryId b.memoryId with hle | hle
      · exact Or.inr (Or.inr ⟨heq, hle⟩)
      · exact Or.inl (Or.inr ⟨heq.symm, hle⟩)
    · exact Or.inl (Or.inl hlt)
  · simp only [Bool.or_eq_true, Bool.and_eq_true, decide_eq_true_eq, beq_iff_eq] at h
    exact h.elim le_of_lt fun h => le_of_eq h.1

/-- Two orders by `updated_at` differ in ties only. -/
theorem map_updatedAt_eq {items items' : List PreferenceMemory} (hperm : items.Perm items')
    (hitems : items.Pairwise fun a b => b.updatedAt ≤ a.updatedAt)
    (hitems' : items'.Pairwise fun a b => b.updatedAt ≤ a.updatedAt) :
    (items.map fun item => item.updatedAt) = items'.map fun item => item.updatedAt := by
  have hsorted : (items.map fun item => item.updatedAt).Pairwise fun x y => y ≤ x :=
    List.pairwise_map.mpr hitems
  have hsorted' : (items'.map fun item => item.updatedAt).Pairwise fun x y => y ≤ x :=
    List.pairwise_map.mpr hitems'
  exact List.Perm.eq_of_pairwise (fun x y _ _ hxy hyx => le_antisymm hyx hxy) hsorted hsorted'
    (hperm.map _)

/-- What `ORDER BY updated_at DESC` makes of the rows of some memories. -/
theorem sameAnswer_arrange (order : TieOrder) (now : Instant) {items : List PreferenceMemory}
    (h : ∀ item ∈ items, item.Valid) :
    SameAnswer ((Except.ok (newestFirst items)).map .memories)
      (((order.arrange now (items.map .of)).mapM fun row => readMemory row.payload).map
        .memories) := by
  have hperm := order.perm now (items.map PostgresMemoryRow.of)
  have hsorted := order.sorted now (items.map PostgresMemoryRow.of)
  generalize order.arrange now (items.map .of) = rows at hperm hsorted
  have hrow : ∀ row ∈ rows, ∃ item ∈ items, PostgresMemoryRow.of item = row :=
    fun row hrow => List.mem_map.mp (hperm.mem_iff.mp hrow)
  -- the payloads, in the order of the rows
  have hrows : (rows.map PostgresMemoryRow.payload).map .of = rows := by
    rw [List.map_map]
    refine (List.map_congr_left fun row hmem => ?_).trans (List.map_id rows)
    obtain ⟨item, -, rfl⟩ := hrow row hmem
    rfl
  have hpayloads : (rows.map PostgresMemoryRow.payload).Perm items := by
    have := hperm.map PostgresMemoryRow.payload
    rwa [List.map_map, show PostgresMemoryRow.payload ∘ PostgresMemoryRow.of = id from rfl,
      List.map_id] at this
  have htimes : (rows.map PostgresMemoryRow.payload).Pairwise
      fun a b => b.updatedAt ≤ a.updatedAt := by
    rw [← hrows] at hsorted
    exact List.pairwise_map.mp hsorted
  rw [← hrows, mapM_readMemory _ _ (fun _ => rfl) fun item hitem =>
    h item (hpayloads.mem_iff.mp hitem)]
  have hnewest := (newestFirst_perm items).trans hpayloads.symm
  exact ⟨hnewest, map_updatedAt_eq hnewest (newestFirst_sorted items) htimes⟩

namespace Mirrors

variable {s : InMemoryStore} {t : PostgresStore} (h : Mirrors s t) (owner : Principal)

include h

theorem get?_memories (memoryId : String) :
    t.preferenceMemories.get? memoryId = (s.memories.get? memoryId).map .of := by
  rw [h.memories, Dict.get?_mapTo]

theorem get?_proposals (proposalId : String) :
    t.memoryProposals.get? proposalId = (s.proposals.get? proposalId).map .of := by
  rw [h.proposals, Dict.get?_mapTo]

theorem with_memories {memories : Dict String PreferenceMemory} :
    Mirrors { s with memories } { t with preferenceMemories := memories.mapTo .of } :=
  ⟨rfl, h.proposals, h.settings⟩

theorem with_proposals {proposals : Dict String MemoryProposal} :
    Mirrors { s with proposals } { t with memoryProposals := proposals.mapTo .of } :=
  ⟨h.memories, rfl, h.settings⟩

/-- Settings that are written on both sides. -/
theorem with_settings (settings : PersonalizationSettings) :
    Mirrors { s with settings := s.settings.set owner settings }
      { t with personalizationSettings := t.personalizationSettings.set owner (.of settings) } := by
  refine ⟨h.memories, h.proposals, fun owner' => ?_⟩
  rcases eq_or_ne owner' owner with rfl | hne
  · left
    rw [Dict.get?_set_self, Dict.get?_set_self]
    rfl
  · rw [Dict.get?_set_of_ne _ hne, Dict.get?_set_of_ne _ hne]
    exact h.settings owner'

theorem values_memories (p : PostgresMemoryRow → Bool) :
    t.preferenceMemories.values.filter p =
      (s.memories.values.filter fun item => p (.of item)).map .of := by
  rw [h.memories, Dict.values_mapTo, List.filter_map]
  rfl

omit h in
/-- Postgres selects the rows of the memories that the others list. -/
theorem listMemories_eq (hs : s.Valid) {includeInactive : Bool} {now : Instant}
    (hportable : (PreferenceOperation.listMemories owner includeInactive).Portable now s t) :
    s.listMemories owner includeInactive now =
      .ok (newestFirst (s.memories.values.filter fun item =>
        item.owner = owner && (includeInactive || item.revokedAt = none))) := by
  unfold InMemoryStore.listMemories
  cases includeInactive with
  | true =>
    show Except.ok _ = Except.ok _
    simp
  | false =>
    have hdated : ∀ item ∈ s.memories.values.filter fun item => item.owner = owner, item.Dated :=
      fun item hitem => (hs.memories item (List.mem_filter.mp hitem).1).dated
    dsimp only
    rw [if_neg (by decide), onlyActive_of_dated hdated, List.filter_filter]
    refine congrArg (Except.ok ∘ newestFirst) (List.filter_congr fun item hitem => ?_)
    rw [Bool.false_or, Bool.and_comm]
    by_cases howner : item.owner = owner
    · have hiff : item.Active now ↔ item.revokedAt = none :=
        ⟨PreferenceMemory.Active.unrevoked, (hportable.resolve_left (by decide)) item hitem howner⟩
      rw [decide_eq_decide.mpr hiff]
    · rw [decide_eq_false howner, Bool.false_and, Bool.false_and]

theorem listMemories (hs : s.Valid) (order : TieOrder) {includeInactive : Bool} {now : Instant}
    (hbound : ∀ text ∈ owner.texts, Bindable text)
    (hportable : (PreferenceOperation.listMemories owner includeInactive).Portable now s t) :
    SameAnswer ((s.listMemories owner includeInactive now).map .memories)
      ((t.listMemories order owner includeInactive now).map .memories) := by
  rw [listMemories_eq owner hs hportable, PostgresStore.listMemories,
    bindTexts_of_bindable hbound]
  dsimp only [bind, Except.bind]
  rw [h.values_memories]
  exact sameAnswer_arrange order now fun item hitem =>
    hs.memories item (List.mem_filter.mp hitem).1

theorem findContentHash (hs : s.Valid) {contentHash : String}
    (hbound : ∀ text ∈ contentHash :: owner.texts, Bindable text) :
    t.findContentHash owner contentHash = s.findContentHash owner contentHash := by
  have hfind : (t.preferenceMemories.values.find? fun row =>
      row.owner = owner && row.contentHash = contentHash && row.revokedAt = none) =
      (s.memories.values.find? fun item =>
        item.owner = owner && item.contentHash = contentHash && item.revokedAt = none).map .of := by
    rw [h.memories, Dict.values_mapTo, List.find?_map]
    rfl
  unfold PostgresStore.findContentHash InMemoryStore.findContentHash
  rw [bindTexts_of_bindable hbound]
  dsimp only [bind, Except.bind]
  rw [hfind]
  cases hitem : s.memories.values.find? fun item =>
      item.owner = owner && item.contentHash = contentHash && item.revokedAt = none with
  | none => rfl
  | some item =>
    have hvalid := hs.memories item (List.mem_of_find?_eq_some hitem)
    show (readMemory item).map some = _
    rw [readMemory_of_valid hvalid]
    rfl

theorem getMemory (hs : s.Valid) {memoryId : String}
    (hbound : ∀ text ∈ memoryId :: owner.texts, Bindable text) :
    t.getMemory owner memoryId = s.getMemory owner memoryId := by
  unfold PostgresStore.getMemory InMemoryStore.getMemory
  rw [bindTexts_of_bindable hbound, h.get?_memories, filter_map_of]
  dsimp only [bind, Except.bind]
  cases hget : s.memories.get? memoryId with
  | none => rfl
  | some item =>
    rw [Option.bind_some]
    by_cases howner : item.owner = owner
    · simpa [howner] using readMemory_of_valid (hs.get?_memories hget)
    · simp [howner]

theorem getProposal (hs : s.Valid) {proposalId : String}
    (hbound : ∀ text ∈ proposalId :: owner.texts, Bindable text) :
    t.getProposal owner proposalId = s.getProposal owner proposalId := by
  unfold PostgresStore.getProposal InMemoryStore.getProposal
  rw [bindTexts_of_bindable hbound, h.get?_proposals, filter_map_of]
  dsimp only [bind, Except.bind]
  cases hget : s.proposals.get? proposalId with
  | none => rfl
  | some item =>
    rw [Option.bind_some]
    by_cases howner : item.owner = owner
    · simpa [howner] using readPayload_of_valid (hs.get?_proposals hget)
    · simp [howner]

theorem createMemory {memory : PreferenceMemory} (hstorable : memory.Storable) {now : Instant}
    (hportable : (PreferenceOperation.createMemory memory).Portable now s t) :
    SameStore (s.createMemory memory) (t.createMemory memory) := by
  have hcontains : t.preferenceMemories.contains memory.memoryId =
      s.memories.contains memory.memoryId := by
    rw [h.memories, Dict.contains_mapTo]
  unfold InMemoryStore.createMemory PostgresStore.createMemory
  rw [bindInteger_32 hstorable.fits, bindTexts_of_bindable hstorable.bindable, hcontains]
  dsimp only [bind, Except.bind]
  by_cases hpresent : s.memories.contains memory.memoryId = true
  · rw [if_pos hpresent, if_pos (Or.inl hpresent)]
    rfl
  · have hunique : ¬∃ row ∈ t.preferenceMemories.values,
        row.owner = memory.owner ∧ row.contentHash = memory.contentHash := by
      rintro ⟨row, hrow, howner, hhash⟩
      rw [h.memories, Dict.values_mapTo] at hrow
      obtain ⟨item, hitem, rfl⟩ := List.mem_map.mp hrow
      exact hportable.resolve_left hpresent item hitem howner hhash
    rw [if_neg hpresent, if_neg (not_or.mpr ⟨hpresent, hunique⟩), h.memories, ← Dict.mapTo_set]
    exact h.with_memories

theorem saveMemory {memory : PreferenceMemory} {expectedRevision : ℤ}
    (hstorable : memory.Storable) (hexpected : FitsColumn expectedRevision) {now : Instant}
    (hportable : (PreferenceOperation.saveMemory memory expectedRevision).Portable now s t) :
    SameStore (s.saveMemory memory expectedRevision) (t.saveMemory memory expectedRevision) := by
  unfold InMemoryStore.saveMemory PostgresStore.saveMemory
  rw [bindInteger_32 hstorable.fits, bindInteger_32 hexpected,
    bindTexts_of_bindable hstorable.bindable, h.get?_memories, filter_map_of]
  dsimp only [bind, Except.bind]
  cases hget : s.memories.get? memory.memoryId with
  | none => rfl
  | some current =>
    by_cases howner : current.owner = memory.owner
    · by_cases hrevision : current.revision = expectedRevision
      · have hhash := hportable current hget howner hrevision
        have hrow : PostgresMemoryRow.mk memory.owner current.contentHash memory.revision
            memory.updatedAt memory.revokedAt memory = .of memory := by
          rw [← hhash]
          rfl
        simp only [howner, hrevision, Option.bind_some, PostgresMemoryRow.of_owner, if_true,
          PostgresMemoryRow.of_revision, PostgresMemoryRow.of_contentHash, ne_eq, not_true,
          if_false]
        rw [hrow, h.memories, ← Dict.mapTo_set]
        exact h.with_memories
      · simp [howner, hrevision, SameStore]
    · simp [howner, SameStore]

theorem deleteMemory {memoryId : String}
    (hbound : ∀ text ∈ memoryId :: owner.texts, Bindable text) :
    SameStore (s.deleteMemory owner memoryId) (t.deleteMemory owner memoryId) := by
  unfold InMemoryStore.deleteMemory InMemoryStore.getMemory PostgresStore.deleteMemory
  rw [bindTexts_of_bindable hbound, h.get?_memories, filter_map_of]
  dsimp only [bind, Except.bind]
  cases s.memories.get? memoryId with
  | none => rfl
  | some item =>
    by_cases howner : item.owner = owner
    · simp only [howner, Option.bind_some, PostgresMemoryRow.of_owner, if_true]
      rw [h.memories, ← Dict.mapTo_erase]
      exact h.with_memories
    · simp [howner, SameStore]

theorem clearMemories (hbound : ∀ text ∈ owner.texts, Bindable text) :
    ∃ n s' t', s.clearMemories owner = .ok (n, s') ∧ t.clearMemories owner = .ok (n, t') ∧
      Mirrors s' t' := by
  have hkept : (s.memories.filterValues fun item => item.owner ≠ owner).mapTo .of =
      t.preferenceMemories.filterValues fun row => row.owner ≠ owner := by
    rw [h.memories]
    exact Dict.mapTo_filterValues PostgresMemoryRow.of s.memories fun row => row.owner ≠ owner
  have hstores : Mirrors
      { s with memories := s.memories.filterValues fun item => item.owner ≠ owner }
      { t with
        preferenceMemories := t.preferenceMemories.filterValues fun row => row.owner ≠ owner } := by
    rw [← hkept]
    exact h.with_memories
  refine ⟨_, _, _, rfl, ?_, hstores⟩
  unfold PostgresStore.clearMemories
  rw [bindTexts_of_bindable hbound, h.values_memories, List.length_map]
  rfl

theorem createProposal {proposal : MemoryProposal} (hstorable : proposal.Storable) :
    SameStore (s.createProposal proposal) (t.createProposal proposal) := by
  have hcontains : t.memoryProposals.contains proposal.proposalId =
      s.proposals.contains proposal.proposalId := by
    rw [h.proposals, Dict.contains_mapTo]
  unfold InMemoryStore.createProposal PostgresStore.createProposal
  rw [bindTexts_of_bindable hstorable.bindable, hcontains]
  dsimp only [bind, Except.bind]
  by_cases hpresent : s.proposals.contains proposal.proposalId = true
  · rw [if_pos hpresent, if_pos hpresent]
    rfl
  · rw [if_neg hpresent, if_neg hpresent, h.proposals, ← Dict.mapTo_set]
    exact h.with_proposals

theorem saveProposal {proposal : MemoryProposal} (hstorable : proposal.Storable) :
    SameStore (s.saveProposal proposal) (t.saveProposal proposal) := by
  unfold InMemoryStore.saveProposal PostgresStore.saveProposal
  rw [bindTexts_of_bindable hstorable.bindable, h.get?_proposals, filter_map_of]
  dsimp only [bind, Except.bind]
  cases s.proposals.get? proposal.proposalId with
  | none => rfl
  | some current =>
    by_cases howner : current.owner = proposal.owner
    · have hrow : PostgresProposalRow.mk proposal.owner proposal.status
          (proposal.resolvedAt.getD proposal.createdAt) proposal = .of proposal := rfl
      simp only [howner, Option.bind_some, PostgresProposalRow.of_owner, if_true]
      rw [hrow, h.proposals, ← Dict.mapTo_set]
      exact h.with_proposals
    · simp [howner, SameStore]

theorem getPersonalization (hs : s.Valid) {now : Instant}
    (hbound : ∀ text ∈ owner.texts, Bindable text)
    (hportable : (PreferenceOperation.getPersonalization owner).Portable now s t) :
    (s.getPersonalization owner now).1 = (t.getPersonalization owner now).1 ∧
      Mirrors (s.getPersonalization owner now).2 (t.getPersonalization owner now).2 := by
  unfold InMemoryStore.getPersonalization PostgresStore.getPersonalization
  rw [bindTexts_of_bindable hbound]
  rcases h.settings owner with hrow | ⟨hrow, since, hsettings⟩
  · rw [hrow]
    cases hsettings : s.settings.get? owner with
    | none =>
      refine ⟨rfl, h.memories, h.proposals, fun owner' => ?_⟩
      rcases eq_or_ne owner' owner with rfl | hne
      · right
        refine ⟨?_, now, Dict.get?_set_self ..⟩
        show t.personalizationSettings.get? owner' = none
        rw [hrow, hsettings]
        rfl
      · rw [Dict.get?_set_of_ne _ hne]
        exact h.settings owner'
    | some settings => exact ⟨(readPayload_of_valid (hs.get?_settings hsettings)).symm, h⟩
  · -- the settings were read before, and only the other repositories stored them
    have hcontains : ¬t.personalizationSettings.contains owner = true := by
      rw [Dict.contains, hrow]
      decide
    have hnow : since = now := hportable.resolve_left hcontains _ hsettings
    rw [hrow, hsettings, hnow]
    exact ⟨rfl, h⟩

omit h in
theorem updateSettings_eq {settings : PersonalizationSettings} {expectedRevision : ℤ}
    (hfits : FitsColumn settings.revision) (hexpected : FitsColumn expectedRevision)
    (hbound : ∀ text ∈ settings.owner.texts, Bindable text) :
    t.updateSettings settings expectedRevision =
      match t.personalizationSettings.get? settings.owner with
      | none => .error .conflict
      | some row =>
        if row.revision = expectedRevision then
          .ok { t with personalizationSettings :=
            t.personalizationSettings.set settings.owner (.of settings) }
        else .error .conflict := by
  unfold PostgresStore.updateSettings
  rw [bindInteger_32 hfits, bindInteger_32 hexpected, bindTexts_of_bindable hbound]
  rfl

section Saving

variable {settings : PersonalizationSettings} {expectedRevision : Option ℤ}
  (hstorable : settings.Storable) (hexpected : ∀ n ∈ expectedRevision, FitsColumn n)

include hstorable hexpected

/-- Settings of an owner without any are inserted on both sides, or on none. -/
theorem savePersonalization_new (hs : s.settings.get? settings.owner = none)
    (ht : t.personalizationSettings.get? settings.owner = none) :
    SameStore (s.savePersonalization settings expectedRevision)
      (t.savePersonalization settings expectedRevision) := by
  have hbound := bindTexts_of_bindable hstorable.bindable
  unfold InMemoryStore.savePersonalization PostgresStore.savePersonalization
  rw [hs]
  cases expectedRevision with
  | none =>
    rw [if_pos (Or.inl rfl), bindInteger_32 hstorable.fits, hbound]
    exact h.with_settings settings.owner settings
  | some n =>
    by_cases hzero : n = 0
    · subst hzero
      have hcontains : ¬t.personalizationSettings.contains settings.owner = true := by
        rw [Dict.contains, ht]
        decide
      rw [if_pos (Or.inr rfl)]
      dsimp only
      rw [if_pos rfl, bindInteger_32 hstorable.fits, hbound]
      dsimp only [bind, Except.bind]
      rw [if_neg hcontains]
      exact h.with_settings settings.owner settings
    · rw [if_neg (by simpa using hzero)]
      dsimp only
      rw [if_neg hzero,
        updateSettings_eq hstorable.fits (hexpected n rfl) hstorable.bindable, ht]
      rfl

/-- Settings that both sides store are updated when the revision is the expected one. -/
theorem savePersonalization_stored {current : PersonalizationSettings}
    (hs : s.settings.get? settings.owner = some current)
    (ht : t.personalizationSettings.get? settings.owner = some (.of current))
    (hnone : expectedRevision ≠ none) :
    SameStore (s.savePersonalization settings expectedRevision)
      (t.savePersonalization settings expectedRevision) := by
  obtain ⟨n, rfl⟩ := Option.ne_none_iff_exists'.mp hnone
  have hupdate : SameStore
      (if some n = some current.revision then
        .ok { s with settings := s.settings.set settings.owner settings }
      else .error .conflict) (t.updateSettings settings n) := by
    rw [updateSettings_eq hstorable.fits (hexpected n rfl) hstorable.bindable, ht]
    dsimp only
    by_cases hrevision : current.revision = n
    · rw [if_pos (by rw [hrevision]),
        if_pos (show (PostgresSettingsRow.of current).revision = n from hrevision)]
      exact h.with_settings settings.owner settings
    · rw [if_neg fun heq => hrevision (Option.some.inj heq).symm,
        if_neg (show ¬(PostgresSettingsRow.of current).revision = n from hrevision)]
      rfl
  unfold InMemoryStore.savePersonalization PostgresStore.savePersonalization
  rw [hs]
  dsimp only
  by_cases hzero : n = 0
  · have hcontains : t.personalizationSettings.contains settings.owner = true := by
      rw [Dict.contains, ht]
      rfl
    rw [if_pos hzero, bindInteger_32 hstorable.fits, bindTexts_of_bindable hstorable.bindable]
    dsimp only [bind, Except.bind]
    rw [if_pos hcontains]
    exact hupdate
  · rw [if_neg hzero]
    exact hupdate

omit h in
/-- Settings that were only read are saved on neither side when another revision is expected. -/
theorem savePersonalization_read {since : Instant}
    (hs : s.settings.get? settings.owner = some (defaultPersonalization settings.owner since))
    (ht : t.personalizationSettings.get? settings.owner = none) (hnone : expectedRevision ≠ none)
    (hzero : expectedRevision ≠ some 0) (hone : expectedRevision ≠ some 1) :
    SameStore (s.savePersonalization settings expectedRevision)
      (t.savePersonalization settings expectedRevision) := by
  obtain ⟨n, rfl⟩ := Option.ne_none_iff_exists'.mp hnone
  unfold InMemoryStore.savePersonalization PostgresStore.savePersonalization
  rw [hs]
  dsimp only
  rw [if_neg (show some n ≠ some (defaultPersonalization settings.owner since).revision from hone),
    if_neg fun h => hzero (by rw [h]),
    updateSettings_eq hstorable.fits (hexpected n rfl) hstorable.bindable, ht]
  rfl

theorem savePersonalization {now : Instant}
    (hportable :
      (PreferenceOperation.savePersonalization settings expectedRevision).Portable now s t) :
    SameStore (s.savePersonalization settings expectedRevision)
      (t.savePersonalization settings expectedRevision) := by
  have hstored (hs : s.settings.get? settings.owner ≠ none) :
      s.settings.contains settings.owner = true :=
    Option.isSome_iff_ne_none.mpr hs
  rcases h.settings settings.owner with ht | ⟨ht, since, hs⟩
  · cases hs : s.settings.get? settings.owner with
    | none => exact h.savePersonalization_new hstorable hexpected hs (by rw [ht, hs]; rfl)
    | some current =>
      exact h.savePersonalization_stored hstorable hexpected hs (by rw [ht, hs]; rfl)
        (hportable (hstored (by rw [hs]; exact Option.some_ne_none _))).1
  · -- the settings were read before, and only the other repositories stored them
    have hcontains : ¬t.personalizationSettings.contains settings.owner = true := by
      rw [Dict.contains, ht]
      decide
    obtain ⟨hnone, hrevisions⟩ := hportable (hstored (by rw [hs]; exact Option.some_ne_none _))
    obtain ⟨hzero, hone⟩ := hrevisions.resolve_left hcontains
    exact savePersonalization_read hstorable hexpected hs ht hnone hzero hone

end Saving

omit h in
/-- A method that only writes, on both stores. -/
theorem written {result : Except MemoryError InMemoryStore}
    {result' : Except MemoryError PostgresStore} (h : Mirrors s t)
    (hresult : SameStore result result') :
    SameAnswer (written s result).1 (written t result').1 ∧
      Mirrors (written s result).2 (written t result').2 := by
  cases result with
  | ok s' =>
    cases result' with
    | ok t' => exact ⟨rfl, hresult⟩
    | error error' => exact hresult.elim
  | error error =>
    cases result' with
    | ok t' => exact hresult.elim
    | error error' => exact ⟨congrArg Except.error hresult, h⟩

/-- Postgres answers a portable call as the in-memory repository does. -/
theorem perform (hs : s.Valid) (order : TieOrder) {operation : PreferenceOperation}
    (hadmissible : operation.Admissible) {now : Instant}
    (hportable : operation.Portable now s t) :
    SameAnswer (operation.perform InMemoryStore.repository now s).1
        (operation.perform (PostgresStore.repository order) now t).1 ∧
      Mirrors (operation.perform InMemoryStore.repository now s).2
        (operation.perform (PostgresStore.repository order) now t).2 := by
  cases operation with
  | listMemories owner includeInactive =>
    exact ⟨h.listMemories owner hs order hadmissible hportable, h⟩
  | getMemory owner memoryId =>
    have hsame := congrArg (Except.map PreferenceAnswer.memory) (h.getMemory owner hs hadmissible)
    exact ⟨.of_eq hsame.symm, h⟩
  | createMemory memory => exact h.written (h.createMemory hadmissible hportable)
  | saveMemory memory expectedRevision =>
    exact h.written (h.saveMemory hadmissible.1 hadmissible.2 hportable)
  | deleteMemory owner memoryId => exact h.written (h.deleteMemory owner hadmissible)
  | clearMemories owner =>
    obtain ⟨n, s', t', hcleared, hcleared', hstores⟩ := h.clearMemories owner hadmissible
    dsimp only [PreferenceOperation.perform, InMemoryStore.repository, PostgresStore.repository]
    rw [hcleared, hcleared']
    exact ⟨rfl, hstores⟩
  | findContentHash owner contentHash =>
    have hsame := congrArg (Except.map PreferenceAnswer.found)
      (h.findContentHash owner hs hadmissible)
    exact ⟨.of_eq hsame.symm, h⟩
  | createProposal proposal => exact h.written (h.createProposal hadmissible)
  | getProposal owner proposalId =>
    have hsame := congrArg (Except.map PreferenceAnswer.proposal)
      (h.getProposal owner hs hadmissible)
    exact ⟨.of_eq hsame.symm, h⟩
  | saveProposal proposal => exact h.written (h.saveProposal hadmissible)
  | getPersonalization owner =>
    obtain ⟨hresult, hstores⟩ := h.getPersonalization owner hs hadmissible hportable
    have hsame := congrArg (Except.map PreferenceAnswer.settings) hresult
    exact ⟨.of_eq hsame, hstores⟩
  | savePersonalization settings expectedRevision =>
    exact h.written (h.savePersonalization hadmissible.1 hadmissible.2 hportable)

end Mirrors

/-! ## The first update of the personalization -/

variable (owner : Principal) (enabled : Bool) {expectedRevision : Option ℤ} (now : Instant)

/-- With the revision that is shown, the first update succeeds in memory. -/
theorem updatePersonalization_inMemory {s : InMemoryStore} (hs : s.settings.get? owner = none)
    (h : ∀ n ∈ expectedRevision, n = 1) :
    (updatePersonalization InMemoryStore.repository owner enabled expectedRevision now s).1 =
      .ok { owner, enabled, revision := 2, updatedAt := now } := by
  have hget : s.getPersonalization owner now = (.ok (defaultPersonalization owner now),
      { s with settings := s.settings.set owner (defaultPersonalization owner now) }) := by
    unfold InMemoryStore.getPersonalization
    rw [hs]
  have hexpected : ¬(expectedRevision.any fun n =>
      n ≠ (defaultPersonalization owner now).revision) = true := by
    cases expectedRevision with
    | none => simp
    | some n => simp [h n rfl, defaultPersonalization]
  unfold updatePersonalization
  rw [show InMemoryStore.repository.getPersonalization s owner now = _ from hget]
  dsimp only
  rw [if_neg hexpected]
  dsimp only [InMemoryStore.repository, InMemoryStore.savePersonalization, defaultPersonalization]
  rw [Dict.get?_set_self]
  rfl

/-- On Postgres the first update fails, with any expected revision. -/
theorem updatePersonalization_postgres (order : TieOrder) {t : PostgresStore}
    (howner : ∀ text ∈ owner.texts, Bindable text)
    (ht : t.personalizationSettings.get? owner = none) :
    (updatePersonalization (PostgresStore.repository order) owner enabled expectedRevision now
      t).1 = .error .conflict := by
  have hget : t.getPersonalization owner now = (.ok (defaultPersonalization owner now), t) := by
    unfold PostgresStore.getPersonalization
    rw [bindTexts_of_bindable howner, ht]
  have hsave : (PostgresStore.repository order).savePersonalization t
      { owner, enabled, revision := 2, updatedAt := now } (some 1) = .error .conflict := by
    show t.updateSettings _ 1 = _
    rw [Mirrors.updateSettings_eq (show FitsColumn 2 by decide) (by decide) howner, ht]
  unfold updatePersonalization
  rw [show (PostgresStore.repository order).getPersonalization t owner now = _ from hget]
  dsimp only
  split
  · rfl
  · dsimp only [defaultPersonalization]
    rw [show (1 : ℤ) + 1 = 2 from rfl, hsave]

/-! ## Sequences of calls -/

/-- Every call of a sequence may be made and is portable when it is made. -/
def PortableRun (order : TieOrder) (s : InMemoryStore) (t : PostgresStore) :
    List (Instant × PreferenceOperation) → Prop
  | [] => True
  | (now, operation) :: rest =>
    (operation.Admissible ∧ operation.Portable now s t) ∧
      PortableRun order (operation.perform InMemoryStore.repository now s).2
        (operation.perform (PostgresStore.repository order) now t).2 rest

/-- SQLite answers every sequence of calls as the in-memory repository does. -/
theorem answers_toSqlite {s : InMemoryStore} (hs : s.Valid)
    {operations : List (Instant × PreferenceOperation)}
    (h : ∀ call ∈ operations, call.2.Admissible) :
    answers SqliteStore.repository s.toSqlite operations =
      answers InMemoryStore.repository s operations := by
  induction operations generalizing s with
  | nil => rfl
  | cons call rest ih =>
    obtain ⟨now, operation⟩ := call
    have hcall := h _ List.mem_cons_self
    rw [answers, answers, InMemoryStore.perform_toSqlite hs now hcall]
    exact congrArg _ (ih (hs.perform hcall now) fun call' h' => h call' (List.mem_cons_of_mem _ h'))

theorem Mirrors.answers {s : InMemoryStore} {t : PostgresStore} (h : Mirrors s t) (hs : s.Valid)
    {order : TieOrder} {operations : List (Instant × PreferenceOperation)}
    (hrun : PortableRun order s t operations) :
    List.Forall₂ SameAnswer (answers InMemoryStore.repository s operations)
      (answers (PostgresStore.repository order) t operations) := by
  induction operations generalizing s t with
  | nil => exact .nil
  | cons call rest ih =>
    obtain ⟨now, operation⟩ := call
    obtain ⟨⟨hadmissible, hportable⟩, hrest⟩ := hrun
    obtain ⟨hanswer, hstores⟩ := h.perform hs order hadmissible hportable
    exact .cons hanswer (ih hstores (hs.perform hadmissible now) hrest)

theorem PortableRun.admissible {order : TieOrder} {s : InMemoryStore} {t : PostgresStore}
    {operations : List (Instant × PreferenceOperation)} (h : PortableRun order s t operations) :
    ∀ call ∈ operations, call.2.Admissible := by
  induction operations generalizing s t with
  | nil => exact fun _ hcall => (nomatch hcall)
  | cons call rest ih =>
    obtain ⟨now, operation⟩ := call
    obtain ⟨⟨hadmissible, -⟩, hrest⟩ := h
    exact List.forall_mem_cons.mpr ⟨hadmissible, ih hrest⟩

theorem mirrors_empty : Mirrors {} {} :=
  ⟨rfl, rfl, fun _ => Or.inl rfl⟩

/-- From empty stores, the three repositories answer a sequence of portable calls alike. -/
theorem answers_alike (order : TieOrder) (operations : List (Instant × PreferenceOperation))
    (h : PortableRun order {} {} operations) :
    answers SqliteStore.repository {} operations = answers InMemoryStore.repository {} operations ∧
      List.Forall₂ SameAnswer (answers InMemoryStore.repository {} operations)
        (answers (PostgresStore.repository order) {} operations) :=
  ⟨answers_toSqlite InMemoryStore.valid_empty h.admissible,
    mirrors_empty.answers InMemoryStore.valid_empty h⟩

/-- A memory that a user has stated. -/
def samplePreference : PreferenceMemory where
  memoryId := "memory"
  owner := ⟨"tenant", "user"⟩
  category := .pace
  value := .scalar (.str "relaxed")
  source := .explicitUser
  confidence := 1
  confirmationStatus := .confirmed
  createdAt := 0
  updatedAt := 0
  expiresAt := some (.aware 10)
  contentHash := "0123456789abcdef"

theorem storable_sample : samplePreference.Storable :=
  ⟨by decide, by decide, by decide, List.forall_mem_singleton.mpr trivial, by decide⟩

theorem bindable_user : ∀ text ∈ Principal.texts ⟨"tenant", "user"⟩, Bindable text := by decide

/-- A memory is created, listed before it expires, and saved with another value. -/
theorem answers_alike_sample :
    answers SqliteStore.repository {}
        [(0, createMemory samplePreference), (1, listMemories ⟨"tenant", "user"⟩ false),
          (2, saveMemory { samplePreference with revision := 2, updatedAt := 2 } 1)] =
        answers InMemoryStore.repository {}
          [(0, createMemory samplePreference), (1, listMemories ⟨"tenant", "user"⟩ false),
            (2, saveMemory { samplePreference with revision := 2, updatedAt := 2 } 1)] ∧
      List.Forall₂ SameAnswer
        (answers InMemoryStore.repository {}
          [(0, createMemory samplePreference), (1, listMemories ⟨"tenant", "user"⟩ false),
            (2, saveMemory { samplePreference with revision := 2, updatedAt := 2 } 1)])
        (answers (PostgresStore.repository .stable) {}
          [(0, createMemory samplePreference), (1, listMemories ⟨"tenant", "user"⟩ false),
            (2, saveMemory { samplePreference with revision := 2, updatedAt := 2 } 1)]) := by
  refine answers_alike .stable _ ⟨⟨storable_sample, ?_⟩,
    ⟨bindable_user, ?_⟩, ⟨⟨⟨by decide, by decide, by decide,
      List.forall_mem_singleton.mpr trivial, by decide⟩, by decide⟩, ?_⟩, trivial⟩
  · exact Or.inr fun item hitem => (nomatch hitem)
  · refine Or.inr fun item hitem _ _ => ?_
    rw [List.mem_singleton.mp (show item ∈ [samplePreference] from hitem)]
    rfl
  · intro current hcurrent _ _
    rw [← Option.some.inj (show some samplePreference = some current from hcurrent)]

/-- The settings are read and saved with the revision that was read. -/
def firstPersonalization : List (Instant × PreferenceOperation) :=
  [(0, getPersonalization ⟨"tenant", "user"⟩),
    (1, savePersonalization
      { owner := ⟨"tenant", "user"⟩, revision := 2, updatedAt := 1 } (some 1))]

/-- A memory is saved with another hash and looked up by it. -/
def foundByNewHash : List (Instant × PreferenceOperation) :=
  [(0, createMemory samplePreference),
    (1, saveMemory { samplePreference with revision := 2, contentHash := "fedcba9876543210" } 1),
    (2, findContentHash ⟨"tenant", "user"⟩ "fedcba9876543210")]

/-- The memories are listed when one has expired. -/
def listedAfterExpiry : List (Instant × PreferenceOperation) :=
  [(0, createMemory samplePreference), (10, listMemories ⟨"tenant", "user"⟩ false)]

/-- Admissible calls that Postgres answers otherwise than the store in memory. -/
def AnswersDiffer (calls : List (Instant × PreferenceOperation)) : Prop :=
  (∀ call ∈ calls, call.2.Admissible) ∧
    ¬List.Forall₂ SameAnswer (answers InMemoryStore.repository {} calls)
      (answers (PostgresStore.repository .stable) {} calls)

/-- Postgres answers otherwise: the update fails, the memory is not found, the expired one is
listed. -/
theorem exists_answers_differ : AnswersDiffer firstPersonalization ∧
    AnswersDiffer foundByNewHash ∧ AnswersDiffer listedAfterExpiry := by
  refine ⟨⟨?_, ?_⟩, ⟨?_, ?_⟩, ⟨?_, ?_⟩⟩
  · refine List.forall_mem_cons.mpr ⟨bindable_user, List.forall_mem_singleton.mpr ?_⟩
    exact ⟨⟨by decide, by decide, by decide, by decide⟩, by decide⟩
  · rintro (_ | ⟨-, _ | ⟨h, -⟩⟩)
    exact (nomatch (show (Except.ok PreferenceAnswer.done : Except MemoryError _) =
      .error .conflict from h))
  · refine List.forall_mem_cons.mpr ⟨storable_sample,
      List.forall_mem_cons.mpr ⟨⟨⟨by decide, by decide, by decide,
        List.forall_mem_singleton.mpr trivial, by decide⟩, by decide⟩,
          List.forall_mem_singleton.mpr (List.forall_mem_cons.mpr ⟨by decide, bindable_user⟩)⟩⟩
  · rintro (_ | ⟨-, _ | ⟨-, _ | ⟨h, -⟩⟩⟩)
    have hfound : (Except.ok (PreferenceAnswer.found (some { samplePreference with
        revision := 2, contentHash := "fedcba9876543210" })) : Except MemoryError _) =
      .ok (.found none) := h
    cases hfound
  · exact List.forall_mem_cons.mpr ⟨storable_sample, List.forall_mem_singleton.mpr bindable_user⟩
  · rintro (_ | ⟨-, _ | ⟨h, -⟩⟩)
    have hlisted : SameAnswer (.ok (.memories (newestFirst [])))
        (((TieOrder.stable.arrange 10 [.of samplePreference]).mapM fun row =>
          readMemory row.payload).map .memories) := h
    rw [newestFirst, List.mergeSort_nil, show TieOrder.stable.arrange 10
      [PostgresMemoryRow.of samplePreference] = [.of samplePreference] from
        List.mergeSort_singleton _] at hlisted
    have htimes : ([] : List Instant) = [0] := And.right
      (show SameAnswer (.ok (.memories [])) (.ok (.memories [samplePreference])) from hlisted)
    exact (nomatch htimes)

end TravelPlanAgent
