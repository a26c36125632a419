import TravelPlanAgent.Memory.Service
import TravelPlanAgent.Memory.Views

/-!
# What the calls of the memory service store

* `findOrCreate_eq_ok`, `Confirmation`: what a saving method does.
* `MemoryChange`, `ProposalChange`: what a call does with the stored memories and proposals.
* `CallEffect`, `callEffect`: what a call does.
* `Tidy`, `tidy_run`, `RepositoryKind.after`: what holds of the store after any calls.
-/

namespace TravelPlanAgent

variable [Platform] [PolicyText]

/-! ## Saving -/

section Saving

variable {σ : Type} {repository : PreferenceRepository σ} {now : Instant} {owner : Principal}
  {s s' : σ}

omit [Platform] [PolicyText] in
theorem raised_eq_ok {α : Type} {x : Except MemoryError α} {a : α} (h : raised x = .ok a) :
    x = .ok a := by
  cases x with
  | error error => cases h
  | ok found =>
    cases h
    rfl

omit [Platform] [PolicyText] in
/-- A saving method returns what is stored under the hash, or stores a new memory. -/
theorem findOrCreate_eq_ok (view : StoreView repository) {contentHash : String}
    {build memory : PreferenceMemory}
    (h : findOrCreate repository owner s contentHash build = .ok (memory, s')) :
    view.Accepts owner ∧
      ((view.under s owner contentHash).head? = some memory ∧ s' = s ∨
        view.under s owner contentHash = [] ∧ memory = build ∧ build.Valid ∧
          repository.createMemory s build = .ok s') := by
  obtain ⟨existing, hexisting, h⟩ := exceptBind_eq_ok h
  obtain ⟨haccepts, hfound⟩ := view.findContentHash (raised_eq_ok hexisting)
  refine ⟨haccepts, ?_⟩
  cases existing with
  | some existing =>
    cases h
    exact .inl ⟨hfound.symm, rfl⟩
  | none =>
    obtain ⟨built, hbuilt, h⟩ := exceptBind_eq_ok h
    obtain ⟨stored, hstored, h⟩ := exceptBind_eq_ok h
    cases h
    obtain ⟨rfl, hvalid⟩ := readMemory_eq_ok (raised_eq_ok hbuilt)
    exact .inr ⟨List.head?_eq_none_iff.mp hfound.symm, rfl, hvalid, raised_eq_ok hstored⟩

omit [Platform] [PolicyText] in
/-- A saving method keeps the proposals. -/
theorem findOrCreate_keeps (view : StoreView repository) (hs : view.Consistent s)
    {contentHash : String} {build memory : PreferenceMemory}
    (h : findOrCreate repository owner s contentHash build = .ok (memory, s')) :
    view.Consistent s' ∧ view.proposalAt s' = view.proposalAt s := by
  obtain ⟨-, ⟨-, rfl⟩ | ⟨-, -, -, hcreate⟩⟩ := findOrCreate_eq_ok view h
  · exact ⟨hs, rfl⟩
  · obtain ⟨hs', -, -, hproposals⟩ := view.createMemory hs hcreate
    exact ⟨hs', hproposals⟩

/-- A confirmed proposal. -/
def MemoryProposal.confirmedWith (proposal : MemoryProposal) (now : Instant) (memoryId : String) :
    MemoryProposal :=
  { proposal with status := .confirmed, resolvedAt := some now, memoryId := some memoryId }

/-- A rejected proposal. -/
def MemoryProposal.rejectedWith (proposal : MemoryProposal) (now : Instant) : MemoryProposal :=
  { proposal with status := .rejected, resolvedAt := some now }

omit [Platform] [PolicyText] in
theorem status_confirmedWith (proposal : MemoryProposal) (now : Instant) (memoryId : String) :
    (proposal.confirmedWith now memoryId).status ≠ .pending := by
  simp [MemoryProposal.confirmedWith]

omit [Platform] [PolicyText] in
theorem status_rejectedWith (proposal : MemoryProposal) (now : Instant) :
    (proposal.rejectedWith now).status ≠ .pending := by
  simp [MemoryProposal.rejectedWith]

/-- The memory that the confirmation of a proposal builds. -/
def MemoryProposal.memory (proposal : MemoryProposal) (now : Instant) (owner : Principal)
    (memoryId : String) : PreferenceMemory :=
  confirmedMemory now owner proposal.content proposal.sourceRunId proposal.expiresAt
    proposal.contentHash memoryId

variable (repository now owner) in
/-- The ways in which a confirmation ends. -/
inductive Confirmation (state : MemoryServiceState σ) (proposalId requestId memoryId : String) :
    Except PreferenceFailure PreferenceMemory × MemoryServiceState σ → Prop where
  | replayed (memory : PreferenceMemory)
      (h : state.decisions.get? (owner, proposalId, requestId) = some (.memory memory)) :
      Confirmation state proposalId requestId memoryId (.ok memory, state)
  | failed (failure : PreferenceFailure) :
      Confirmation state proposalId requestId memoryId (.error failure, state)
  /-- The proposal was confirmed by another request. -/
  | again (proposal : MemoryProposal) (memory : PreferenceMemory)
      (hproposal : repository.getProposal state.store owner proposalId = .ok proposal)
      (hpending : ¬ proposal.Pending now) (hstatus : proposal.status = .confirmed) :
      Confirmation state proposalId requestId memoryId
        (.ok memory, { state with
          decisions := state.decisions.set (owner, proposalId, requestId) (.memory memory) })
  /-- The memory was saved, but not the proposal. -/
  | unsaved (proposal : MemoryProposal) (memory : PreferenceMemory) (store : σ)
      (failure : PreferenceFailure)
      (hproposal : repository.getProposal state.store owner proposalId = .ok proposal)
      (hpending : proposal.Pending now)
      (hsaved : findOrCreate repository owner state.store proposal.contentHash
        (proposal.memory now owner memoryId) = .ok (memory, store)) :
      Confirmation state proposalId requestId memoryId (.error failure, { state with store })
  | saved (proposal : MemoryProposal) (memory : PreferenceMemory) (store store' : σ)
      (hproposal : repository.getProposal state.store owner proposalId = .ok proposal)
      (hpending : proposal.Pending now)
      (hsaved : findOrCreate repository owner state.store proposal.contentHash
        (proposal.memory now owner memoryId) = .ok (memory, store))
      (hresolved : repository.saveProposal store (proposal.confirmedWith now memory.memoryId) =
        .ok store') :
      Confirmation state proposalId requestId memoryId
        (.ok memory, {
          store := store'
          decisions := state.decisions.set (owner, proposalId, requestId) (.memory memory) })

omit [Platform] [PolicyText] in
variable (repository now owner) in
theorem confirmation (state : MemoryServiceState σ) (proposalId requestId memoryId : String) :
    Confirmation repository now owner state proposalId requestId memoryId
      (confirmProposal repository now owner state proposalId requestId memoryId) := by
  unfold confirmProposal
  dsimp only
  split
  · next replay hreplay => exact .replayed replay hreplay
  · split
    · exact .failed _
    · next proposal hproposal =>
      replace hproposal := raised_eq_ok hproposal
      split
      · exact .failed _
      · next hpending =>
        replace hpending := raised_eq_ok hpending
        split
        · exact .failed _
        · next memory store hsaved =>
          split
          · exact .unsaved proposal memory store _ hproposal hpending hsaved
          · next store' hresolved =>
            exact .saved proposal memory store store' hproposal hpending hsaved
              (raised_eq_ok hresolved)
      · next hended =>
        have hpending : ¬ proposal.Pending now := fun h =>
          nomatch h.symm.trans (raised_eq_ok hended)
        split
        · next confirmed hconfirmed =>
          split
          · next hstatus =>
            split
            · exact .failed _
            · next memory hmemory => exact .again proposal memory hproposal hpending hstatus.1
          · exact .failed _
        · exact .failed _

variable (repository now owner) in
/-- The ways in which a rejection ends. -/
inductive Rejection (state : MemoryServiceState σ) (proposalId requestId : String) :
    Except PreferenceFailure MemoryProposal × MemoryServiceState σ → Prop where
  | kept (result : Except PreferenceFailure MemoryProposal) :
      Rejection state proposalId requestId (result, state)
  | again (proposal : MemoryProposal) :
      Rejection state proposalId requestId
        (.ok proposal, { state with
          decisions := state.decisions.set (owner, proposalId, requestId) (.proposal proposal) })
  | rejected (proposal : MemoryProposal) (store : σ)
      (hproposal : repository.getProposal state.store owner proposalId = .ok proposal)
      (hsaved : repository.saveProposal state.store (proposal.rejectedWith now) = .ok store) :
      Rejection state proposalId requestId
        (.ok (proposal.rejectedWith now), {
          store
          decisions := state.decisions.set (owner, proposalId, requestId)
            (.proposal (proposal.rejectedWith now)) })

omit [Platform] [PolicyText] in
variable (repository now owner) in
theorem rejection (state : MemoryServiceState σ) (proposalId requestId : String) :
    Rejection repository now owner state proposalId requestId
      (rejectProposal repository now owner state proposalId requestId) := by
  unfold rejectProposal
  dsimp only
  split
  · exact .kept _
  · split
    · exact .kept _
    · next proposal hproposal =>
      split
      · exact .again proposal
      · split
        · exact .kept _
        · split
          · exact .kept _
          · next store hsaved =>
            exact .rejected proposal store (raised_eq_ok hproposal) (raised_eq_ok hsaved)
        · exact .kept _

end Saving

/-! ## What holds of the store -/

/-- Content hashes are those of the contents. -/
def Hashed (memoryAt : String → Option PreferenceMemory) : Prop :=
  ∀ id memory, memoryAt id = some memory →
    memory.contentHash = preferenceContentHash memory.content

section Tidy

variable {σ : Type} {repository : PreferenceRepository σ} (view : StoreView repository)

/-- What holds of the store and the decisions after any calls. -/
structure Tidy (state : MemoryServiceState σ) : Prop where
  consistent : view.Consistent state.store
  hashed : Hashed (view.memoryAt state.store)
  confirmed : ∀ id memory, view.memoryAt state.store id = some memory →
    memory.confirmationStatus = .confirmed
  proposed : ∀ id proposal, view.proposalAt state.store id = some proposal →
    proposal.contentHash = preferenceContentHash proposal.content
  /-- A proposal that was decided is not pending. -/
  decided : ∀ owner id requestId memory,
    state.decisions.get? (owner, id, requestId) = some (.memory memory) →
      ∃ proposal, view.proposalAt state.store id = some proposal ∧ proposal.status ≠ .pending

omit [PolicyText] in
theorem tidy_empty : Tidy view { store := view.empty } where
  consistent := view.consistent_empty
  hashed := by
    intro id memory h
    rw [view.memoryAt_empty] at h
    cases h
  confirmed := by
    intro id memory h
    rw [view.memoryAt_empty] at h
    cases h
  proposed := by
    intro id proposal h
    rw [view.proposalAt_empty] at h
    cases h
  decided := by
    intro owner id requestId memory h
    cases h

/-! ## What a call does with the memories -/

/-- A memory with an updated value. -/
def PreferenceMemory.updatedWith (current : PreferenceMemory) (now : Instant)
    (request : PreferenceUpdateRequest) (value : PreferenceValue) : PreferenceMemory :=
  { current with
    value
    contentHash := preferenceContentHash { current.content with value }
    expiresAt := request.expiresAt
    revision := current.revision + 1
    updatedAt := now }

/-- A revoked memory. -/
def PreferenceMemory.revokedWith (current : PreferenceMemory) (now : Instant) : PreferenceMemory :=
  { current with
    revokedAt := some now
    updatedAt := now
    revision := current.revision + 1 }

/-- What a call asks to be saved: the content of a request with its normalised value, or that of
a pending proposal. -/
def MemoryEvent.requested (event : MemoryEvent) (s : σ) : Option PreferenceContent :=
  match event.call with
  | .createExplicit request _ _ =>
    (normalizePreferenceValue request.category request.value).toOption.map fun value =>
      ⟨request.category, value, request.scope, request.scopeKey⟩
  | .confirmProposal proposalId _ _ =>
    ((view.proposalAt s proposalId).filter fun proposal =>
      proposal.owner = event.owner && proposal.Pending event.now).map MemoryProposal.content
  | _ => none

/-- The ways in which a call changes the stored memories. -/
inductive MemoryChange (event : MemoryEvent) (s : σ) (after : String → Option PreferenceMemory) :
    Prop where
  | same (h : after = view.memoryAt s)
  | created (memory : PreferenceMemory) (hrequested : event.requested view s = some memory.content)
      (hhash : memory.contentHash = preferenceContentHash memory.content)
      (hunder : view.under s event.owner memory.contentHash = [])
      (howner : memory.owner = event.owner) (hstatus : memory.confirmationStatus = .confirmed)
      (hnew : view.memoryAt s memory.memoryId = none)
      (h : after = Function.update (view.memoryAt s) memory.memoryId (some memory))
  | updated (id : String) (request : PreferenceUpdateRequest)
      (hcall : event.call = .update id request) (current : PreferenceMemory)
      (value : PreferenceValue) (hcurrent : view.memoryAt s id = some current)
      (howner : current.owner = event.owner)
      (hrevision : current.revision = request.expectedRevision)
      (hvalue : updatedValue current request = .ok value)
      (h : after = Function.update (view.memoryAt s) id
        (some (current.updatedWith event.now request value)))
  | revoked (id : String) (current : PreferenceMemory)
      (hcurrent : view.memoryAt s id = some current)
      (h : after = Function.update (view.memoryAt s) id (some (current.revokedWith event.now)))
  | removed (id : String) (h : after = Function.update (view.memoryAt s) id none)
  | cleared (h : ∀ id, after id =
      (view.memoryAt s id).filter fun memory => memory.owner ≠ event.owner)

/-- The ways in which a call changes the stored proposals. -/
inductive ProposalChange (s : σ) (after : String → Option MemoryProposal) : Prop where
  | same (h : after = view.proposalAt s)
  | created (proposal : MemoryProposal)
      (hhash : proposal.contentHash = preferenceContentHash proposal.content)
      (hnew : view.proposalAt s proposal.proposalId = none)
      (h : after = Function.update (view.proposalAt s) proposal.proposalId (some proposal))
  | resolved (id : String) (proposal resolved : MemoryProposal)
      (hproposal : view.proposalAt s id = some proposal)
      (hcontent : resolved.content = proposal.content)
      (hhash : resolved.contentHash = proposal.contentHash) (hstatus : resolved.status ≠ .pending)
      (h : after = Function.update (view.proposalAt s) id (some resolved))

/-- What a call does. -/
structure CallEffect (event : MemoryEvent) (state state' : MemoryServiceState σ) : Prop where
  consistent : view.Consistent state'.store
  memories : MemoryChange view event state.store (view.memoryAt state'.store)
  proposals : ProposalChange view state.store (view.proposalAt state'.store)
  /-- A new decision to save a memory is about a proposal that is not pending. -/
  decisions : ∀ owner id requestId memory,
    state'.decisions.get? (owner, id, requestId) = some (.memory memory) →
      state.decisions.get? (owner, id, requestId) = some (.memory memory) ∨
        ∃ proposal, view.proposalAt state'.store id = some proposal ∧ proposal.status ≠ .pending

variable {view} {state : MemoryServiceState σ} {now : Instant} {owner : Principal}

/-! ### Calls that store at most once -/

theorem callEffect_refl (hs : view.Consistent state.store) (event : MemoryEvent) :
    CallEffect view event state state :=
  ⟨hs, .same rfl, .same rfl, fun _ _ _ _ h => .inl h⟩

theorem callEffect_of_memories {event : MemoryEvent} {store : σ} (hs : view.Consistent store)
    (hmemories : MemoryChange view event state.store (view.memoryAt store))
    (hproposals : view.proposalAt store = view.proposalAt state.store) :
    CallEffect view event state { state with store } :=
  ⟨hs, hmemories, .same hproposals, fun _ _ _ _ h => .inl h⟩

/-- What a saving method does with the stored memories. -/
theorem memoryChange_findOrCreate (event : MemoryEvent) {s s' : σ} (hs : view.Consistent s)
    {content : PreferenceContent} {runId : Option String} {expiresAt : Option Moment}
    {contentHash memoryId : String} {memory : PreferenceMemory}
    (hrequested : event.requested view s = some content)
    (hhash : contentHash = preferenceContentHash content)
    (h : findOrCreate repository event.owner s contentHash
      (confirmedMemory event.now event.owner content runId expiresAt contentHash memoryId) =
        .ok (memory, s')) :
    MemoryChange view event s (view.memoryAt s') := by
  obtain ⟨-, ⟨-, rfl⟩ | ⟨hunder, rfl, -, hcreate⟩⟩ := findOrCreate_eq_ok view h
  · exact .same rfl
  · obtain ⟨-, hnew, hmemories, -⟩ := view.createMemory hs hcreate
    exact .created (confirmedMemory event.now event.owner content runId expiresAt contentHash
      memoryId) hrequested hhash hunder rfl rfl hnew hmemories

theorem callEffect_createExplicit (hs : view.Consistent state.store)
    (request : PreferenceCreateRequest) (sourceRunId : Option String) (memoryId : String) :
    CallEffect view ⟨now, owner, .createExplicit request sourceRunId memoryId⟩ state
      (state.stored (createExplicit repository now owner state.store request sourceRunId
        memoryId)) := by
  cases hresult : createExplicit repository now owner state.store request sourceRunId memoryId with
  | error failure => exact callEffect_refl hs _
  | ok result =>
    obtain ⟨value, hvalue, hsaved⟩ := exceptBind_eq_ok hresult
    obtain ⟨hs', hproposals⟩ := findOrCreate_keeps view hs hsaved
    refine callEffect_of_memories hs' (memoryChange_findOrCreate ⟨now, owner,
      .createExplicit request sourceRunId memoryId⟩ hs ?_ rfl hsaved) hproposals
    simp [MemoryEvent.requested, hvalue, Except.toOption]

theorem callEffect_update (hs : view.Consistent state.store) (memoryId : String)
    (request : PreferenceUpdateRequest) :
    CallEffect view ⟨now, owner, .update memoryId request⟩ state
      (state.stored (updateMemory repository now owner state.store memoryId request)) := by
  cases hresult : updateMemory repository now owner state.store memoryId request with
  | error failure => exact callEffect_refl hs _
  | ok result =>
    obtain ⟨current, hcurrent, h⟩ := exceptBind_eq_ok hresult
    obtain ⟨value, hvalue, h⟩ := exceptBind_eq_ok h
    obtain ⟨stored, hstored, h⟩ := exceptBind_eq_ok h
    cases h
    obtain ⟨hat, howner⟩ := view.getMemory hs (raised_eq_ok hcurrent)
    obtain ⟨hs', ⟨before, hbefore, -, hrevision⟩, hmemories, hproposals⟩ :=
      view.saveMemory hs (raised_eq_ok hstored)
    obtain rfl := view.memoryId_eq hs hat
    obtain rfl := Option.some.inj (hat.symm.trans hbefore)
    exact callEffect_of_memories hs'
      (.updated _ request rfl current value hat howner hrevision hvalue hmemories) hproposals

theorem callEffect_revoke (hs : view.Consistent state.store) (memoryId : String)
    (expectedRevision : ℤ) :
    CallEffect view ⟨now, owner, .revoke memoryId expectedRevision⟩ state
      (state.stored
        (revokeMemory repository now owner state.store memoryId expectedRevision)) := by
  cases hresult : revokeMemory repository now owner state.store memoryId expectedRevision with
  | error failure => exact callEffect_refl hs _
  | ok result =>
    obtain ⟨current, hcurrent, h⟩ := exceptBind_eq_ok hresult
    obtain ⟨stored, hstored, h⟩ := exceptBind_eq_ok h
    cases h
    obtain ⟨hat, -⟩ := view.getMemory hs (raised_eq_ok hcurrent)
    obtain ⟨hs', -, hmemories, hproposals⟩ := view.saveMemory hs (raised_eq_ok hstored)
    obtain rfl := view.memoryId_eq hs hat
    exact callEffect_of_memories hs' (.revoked _ current hat hmemories) hproposals

theorem callEffect_propose (hs : view.Consistent state.store) (request : MemoryProposalRequest)
    (proposalId : String) :
    CallEffect view ⟨now, owner, .propose request proposalId⟩ state
      (state.stored (proposeMemory repository now owner state.store request proposalId)) := by
  cases hresult : proposeMemory repository now owner state.store request proposalId with
  | error failure => exact callEffect_refl hs _
  | ok result =>
    obtain ⟨value, -, h⟩ := exceptBind_eq_ok hresult
    obtain ⟨proposal, hproposal, h⟩ := exceptBind_eq_ok h
    obtain ⟨stored, hstored, h⟩ := exceptBind_eq_ok h
    cases h
    obtain rfl := readPayload_eq_ok (raised_eq_ok hproposal)
    obtain ⟨hs', hnew, hproposals, hmemories⟩ := view.createProposal hs (raised_eq_ok hstored)
    exact ⟨hs', .same hmemories, .created _ rfl hnew hproposals, fun _ _ _ _ h => .inl h⟩

/-! ### Decisions about proposals -/

/-- A pending proposal is requested. -/
theorem requested_of_pending {s : σ} (hs : view.Consistent s)
    {proposalId requestId memoryId : String} {proposal : MemoryProposal}
    (hproposal : repository.getProposal s owner proposalId = .ok proposal)
    (hpending : proposal.Pending now) :
    (MemoryEvent.mk now owner (.confirmProposal proposalId requestId memoryId)).requested view s =
      some proposal.content := by
  obtain ⟨hat, howner⟩ := view.getProposal hs hproposal
  simp [MemoryEvent.requested, hat, howner, hpending]

omit [Platform] [PolicyText] in
/-- A decision is the one that was just made, or an earlier one. -/
theorem get?_set_decision {decisions : Dict DecisionKey ProposalDecision} {key key' : DecisionKey}
    {decision : ProposalDecision} {memory : PreferenceMemory}
    (h : (decisions.set key decision).get? key' = some (.memory memory)) :
    key' = key ∨ decisions.get? key' = some (.memory memory) := by
  rw [Dict.get?_set] at h
  split at h
  · next heq => exact .inl heq
  · exact .inr h

theorem callEffect_confirmProposal (htidy : Tidy view state)
    (proposalId requestId memoryId : String) :
    CallEffect view ⟨now, owner, .confirmProposal proposalId requestId memoryId⟩ state
      (confirmProposal repository now owner state proposalId requestId memoryId).2 := by
  have hs := htidy.consistent
  have hsaves {proposal : MemoryProposal} {memory : PreferenceMemory} {store : σ}
      (hproposal : repository.getProposal state.store owner proposalId = .ok proposal)
      (hpending : proposal.Pending now)
      (hsaved : findOrCreate repository owner state.store proposal.contentHash
        (proposal.memory now owner memoryId) = .ok (memory, store)) :
      MemoryChange view ⟨now, owner, .confirmProposal proposalId requestId memoryId⟩ state.store
        (view.memoryAt store) :=
    memoryChange_findOrCreate ⟨now, owner, .confirmProposal proposalId requestId memoryId⟩ hs
      (requested_of_pending hs hproposal hpending)
        (htidy.proposed _ _ (view.getProposal hs hproposal).1) hsaved
  have hcases := confirmation repository now owner state proposalId requestId memoryId
  generalize confirmProposal repository now owner state proposalId requestId memoryId = outcome
    at hcases
  cases hcases with
  | replayed memory h => exact callEffect_refl hs _
  | failed failure => exact callEffect_refl hs _
  | again proposal memory hproposal hpending hstatus =>
    refine ⟨hs, .same rfl, .same rfl, fun owner' id requestId' memory' h => ?_⟩
    obtain heq | h := get?_set_decision h
    · cases heq
      refine .inr ⟨proposal, (view.getProposal hs hproposal).1, ?_⟩
      rw [hstatus]
      decide
    · exact .inl h
  | unsaved proposal memory store failure hproposal hpending hsaved =>
    obtain ⟨hs', hproposals⟩ := findOrCreate_keeps view hs hsaved
    exact callEffect_of_memories hs' (hsaves hproposal hpending hsaved) hproposals
  | saved proposal memory store store' hproposal hpending hsaved hresolved =>
    obtain ⟨hs', hkept⟩ := findOrCreate_keeps view hs hsaved
    obtain ⟨hs'', hproposals, hmemories⟩ := view.saveProposal hs' hresolved
    obtain ⟨hat, -⟩ := view.getProposal hs hproposal
    obtain rfl := view.proposalId_eq hs hat
    rw [hkept] at hproposals
    refine ⟨hs'', ?_, .resolved proposal.proposalId proposal
      (proposal.confirmedWith now memory.memoryId) hat rfl rfl (status_confirmedWith _ _ _)
        hproposals,
      fun owner' id requestId' memory' h => ?_⟩
    · rw [hmemories]
      exact hsaves hproposal hpending hsaved
    · obtain heq | h := get?_set_decision h
      · cases heq
        refine .inr ⟨proposal.confirmedWith now memory.memoryId, ?_, status_confirmedWith _ _ _⟩
        rw [hproposals]
        exact Function.update_self ..
      · exact .inl h

theorem callEffect_rejectProposal (hs : view.Consistent state.store)
    (proposalId requestId : String) :
    CallEffect view ⟨now, owner, .rejectProposal proposalId requestId⟩ state
      (rejectProposal repository now owner state proposalId requestId).2 := by
  have hcases := rejection repository now owner state proposalId requestId
  generalize rejectProposal repository now owner state proposalId requestId = outcome at hcases
  have hearlier (decision : MemoryProposal) (owner' : Principal) (id requestId' : String)
      (memory : PreferenceMemory)
      (h : (state.decisions.set (owner, proposalId, requestId) (.proposal decision)).get?
        (owner', id, requestId') = some (.memory memory)) :
      state.decisions.get? (owner', id, requestId') = some (.memory memory) := by
    rw [Dict.get?_set] at h
    split at h
    · cases h
    · exact h
  cases hcases with
  | kept result => exact callEffect_refl hs _
  | again proposal =>
    exact ⟨hs, .same rfl, .same rfl, fun _ _ _ _ h => .inl (hearlier _ _ _ _ _ h)⟩
  | rejected proposal store hproposal hsaved =>
    obtain ⟨hat, -⟩ := view.getProposal hs hproposal
    obtain ⟨hs', hproposals, hmemories⟩ := view.saveProposal hs hsaved
    obtain rfl := view.proposalId_eq hs hat
    exact ⟨hs', .same hmemories, .resolved proposal.proposalId proposal
      (proposal.rejectedWith now) hat rfl rfl (status_rejectedWith _ _) hproposals,
      fun _ _ _ _ h => .inl (hearlier _ _ _ _ _ h)⟩

/-- What a call does. -/
theorem callEffect (htidy : Tidy view state) (event : MemoryEvent) :
    CallEffect view event state (state.perform repository event) := by
  obtain ⟨now, owner, call⟩ := event
  have hs := htidy.consistent
  cases call with
  | createExplicit request sourceRunId memoryId => exact callEffect_createExplicit hs ..
  | update memoryId request => exact callEffect_update hs ..
  | revoke memoryId expectedRevision => exact callEffect_revoke hs ..
  | delete memoryId =>
    dsimp only [MemoryServiceState.perform]
    split
    · exact callEffect_refl hs _
    · next store hstore =>
      obtain ⟨hs', hmemories, hproposals⟩ := view.deleteMemory hs hstore
      exact callEffect_of_memories hs' (.removed memoryId hmemories) hproposals
  | clear =>
    dsimp only [MemoryServiceState.perform]
    split
    · exact callEffect_refl hs _
    · next n store hstore =>
      obtain ⟨hs', hmemories, hproposals⟩ := view.clearMemories hs hstore
      exact callEffect_of_memories hs' (.cleared hmemories) hproposals
  | propose request proposalId => exact callEffect_propose hs ..
  | confirmProposal proposalId requestId memoryId => exact callEffect_confirmProposal htidy ..
  | rejectProposal proposalId requestId => exact callEffect_rejectProposal hs ..

/-! ## Sequences of calls -/

/-- What every memory that a call leaves or stores has. -/
theorem MemoryChange.forall {p : PreferenceMemory → Prop} {event : MemoryEvent} {s : σ}
    {after : String → Option PreferenceMemory} (h : MemoryChange view event s after)
    (hbefore : ∀ id memory, view.memoryAt s id = some memory → p memory)
    (hcreated : ∀ memory, memory.contentHash = preferenceContentHash memory.content →
      memory.confirmationStatus = .confirmed → p memory)
    (hupdated : ∀ current request value, p current →
      p (current.updatedWith event.now request value))
    (hrevoked : ∀ current, p current → p (current.revokedWith event.now)) :
    ∀ id memory, after id = some memory → p memory := by
  have hset {id : String} {memory : PreferenceMemory} (hmemory : p memory)
      (h : after = Function.update (view.memoryAt s) id (some memory)) :
      ∀ id memory, after id = some memory → p memory := by
    intro other found hfound
    rw [h, Function.update_apply] at hfound
    split at hfound
    · cases hfound
      exact hmemory
    · exact hbefore other found hfound
  cases h with
  | same h => rwa [h]
  | created memory hrequested hhash hunder howner hstatus hnew h =>
    exact hset (hcreated memory hhash hstatus) h
  | updated id request hcall current value hcurrent howner hrevision hvalue h =>
    exact hset (hupdated current request value (hbefore id current hcurrent)) h
  | revoked id current hcurrent h => exact hset (hrevoked current (hbefore id current hcurrent)) h
  | removed id h =>
    intro other found hfound
    rw [h, Function.update_apply] at hfound
    split at hfound
    · cases hfound
    · exact hbefore other found hfound
  | cleared h =>
    intro other found hfound
    rw [h, Option.filter_eq_some_iff] at hfound
    exact hbefore other found hfound.1

/-- A call keeps the store tidy. -/
theorem tidy_perform (htidy : Tidy view state) (event : MemoryEvent) :
    Tidy view (state.perform repository event) := by
  have heffect := callEffect htidy event
  constructor
  case consistent => exact heffect.consistent
  case hashed =>
    exact heffect.memories.forall htidy.hashed (fun _ hhash _ => hhash)
      (fun _ _ _ _ => rfl) fun _ hcurrent => hcurrent
  case confirmed =>
    exact heffect.memories.forall htidy.confirmed (fun _ _ hstatus => hstatus)
      (fun _ _ _ hcurrent => hcurrent) fun _ hcurrent => hcurrent
  case proposed =>
    intro id proposal hproposal
    cases heffect.proposals with
    | same h => exact htidy.proposed id proposal (h ▸ hproposal)
    | created new hhash hnew h =>
      rw [h, Function.update_apply] at hproposal
      split at hproposal
      · cases hproposal
        exact hhash
      · exact htidy.proposed id proposal hproposal
    | resolved decided before resolved hbefore hcontent hhash hstatus h =>
      rw [h, Function.update_apply] at hproposal
      split at hproposal
      · cases hproposal
        rw [hhash, hcontent]
        exact htidy.proposed decided before hbefore
      · exact htidy.proposed id proposal hproposal
  case decided =>
    intro owner id requestId memory hdecision
    obtain hearlier | hdecided := heffect.decisions owner id requestId memory hdecision
    · obtain ⟨proposal, hproposal, hstatus⟩ := htidy.decided owner id requestId memory hearlier
      cases heffect.proposals with
      | same h => exact ⟨proposal, h ▸ hproposal, hstatus⟩
      | created new hhash hnew h =>
        refine ⟨proposal, ?_, hstatus⟩
        rw [h, Function.update_apply, if_neg, hproposal]
        -- the new proposal has another id
        rintro rfl
        rw [hproposal] at hnew
        cases hnew
      | resolved decided before resolved hbefore hcontent hhash hresolved h =>
        by_cases heq : id = decided
        · refine ⟨resolved, ?_, hresolved⟩
          rw [h, Function.update_apply, if_pos heq]
        · refine ⟨proposal, ?_, hstatus⟩
          rw [h, Function.update_apply, if_neg heq, hproposal]
    · exact hdecided

/-- The store is tidy after any calls. -/
theorem tidy_run (htidy : Tidy view state) (events : List MemoryEvent) :
    Tidy view (state.run repository events) := by
  induction events generalizing state with
  | nil => exact htidy
  | cons event rest ih => exact ih (tidy_perform htidy event)

end Tidy

/-- The state after some calls on an empty repository. -/
def RepositoryKind.after (kind : RepositoryKind) (events : List MemoryEvent) :
    MemoryServiceState kind.Store :=
  MemoryServiceState.run kind.repository { store := kind.view.empty } events

theorem tidy_after (kind : RepositoryKind) (events : List MemoryEvent) :
    Tidy kind.view (kind.after events) :=
  tidy_run (tidy_empty kind.view) events

namespace Sample

/-- A user wants a pace. -/
def wantsPace (now : Instant) (expiresAt : Option Instant) (pace memoryId : String) : MemoryEvent :=
  ⟨now, ⟨"tenant", "user"⟩, .createExplicit ⟨.pace, .scalar (.str pace), .global, none,
    expiresAt.map .aware, by decide⟩ none memoryId⟩

end Sample

end TravelPlanAgent
