import TravelPlanAgent.Library.OrderedDict
import TravelPlanAgent.Library.Selection

/-!
# The cache with expiry

`AsyncTTLCache` keeps the values that were loaded, and the task that loads each key.  This file
has what the cache does between two awaits: the lookup, and the end of a load.

* `getLiveEntry`, `removeExpired`, `evictIfNeeded`: the lookup, the expiry and the capacity.
* `loadAndCache`: what follows `value = await loader()`, with its `finally` clause.
* `get?_evictIfNeeded`, `size_evictIfNeeded`: eviction only removes, down to the capacity.
* `get?_loadAndCache`: after a load a stored value is the loaded one, or it was there before.
-/

namespace TravelPlanAgent

variable {κ α τ ε : Type}

/-! ## Entries -/

/-- `CacheLookup`. -/
structure CacheLookup (α τ : Type) where
  value : α
  hit : Bool
  expiresAtMonotonic : τ
  deriving DecidableEq

/-- `_CacheEntry`. -/
structure CacheEntry (α τ : Type) where
  value : α
  expiresAt : τ
  insertedAt : τ
  deriving DecidableEq

/-- What a call that finds the entry returns. -/
def CacheEntry.lookup (entry : CacheEntry α τ) : CacheLookup α τ :=
  ⟨entry.value, true, entry.expiresAt⟩

/-- What the load that stored the entry returned. -/
def CacheEntry.loaded (entry : CacheEntry α τ) : CacheLookup α τ :=
  ⟨entry.value, false, entry.expiresAt⟩

/-- The cache.  Tasks are named by numbers. -/
structure AsyncTTLCache (κ α τ : Type) where
  maxEntries : ℕ
  one_le_maxEntries : 1 ≤ maxEntries
  entries : Dict κ (CacheEntry α τ)
  inflight : Dict κ ℕ

/-- The arguments of a call that starts a load.  The predicate may raise. -/
structure Load (κ α τ ε : Type) where
  key : κ
  ttlSeconds : τ
  shouldCache : α → Except ε Bool

namespace AsyncTTLCache

/-- `__init__`. -/
def create (maxEntries : ℤ) : Except String (AsyncTTLCache κ α τ) :=
  if h : maxEntries < 1 then .error "max_entries must be at least 1"
  else .ok ⟨maxEntries.toNat, by omega, .empty, .empty⟩

variable [DecidableEq κ] [LinearOrder τ]

/-- `_get_live_entry`, with the reading of the clock. -/
def getLiveEntry (cache : AsyncTTLCache κ α τ) (key : κ) (reading : τ) :
    Option (CacheEntry α τ) × AsyncTTLCache κ α τ :=
  match cache.entries.get? key with
  | none => (none, cache)
  | some entry =>
    if reading < entry.expiresAt then (some entry, cache)
    else (none, { cache with entries := cache.entries.erase key })

/-- `_remove_expired`. -/
def removeExpired (entries : Dict κ (CacheEntry α τ)) (now : τ) : Dict κ (CacheEntry α τ) :=
  entries.filterValues fun entry => !decide (now ≥ entry.expiresAt)

/-- The item that is evicted first. -/
def evicted (entries : Dict κ (CacheEntry α τ)) : Option (κ × CacheEntry α τ) :=
  Selection.minByKey (fun item => toLex (item.2.expiresAt, item.2.insertedAt)) entries.entries

/-- The loop of `_evict_if_needed`.  It ends within as many rounds as there are entries. -/
def evictRounds (maxEntries : ℕ) : ℕ → Dict κ (CacheEntry α τ) → Dict κ (CacheEntry α τ)
  | 0, entries => entries
  | rounds + 1, entries =>
    if entries.size > maxEntries then
      match evicted entries with
      | some (key, _) => evictRounds maxEntries rounds (entries.erase key)
      | none => entries
    else entries

/-- `_evict_if_needed`. -/
def evictIfNeeded (maxEntries : ℕ) (entries : Dict κ (CacheEntry α τ)) :
    Dict κ (CacheEntry α τ) :=
  evictRounds maxEntries entries.size entries

/-- The entries after a value was accepted. -/
def storeEntry (cache : AsyncTTLCache κ α τ) (key : κ) (entry : CacheEntry α τ) (loadedAt : τ) :
    Dict κ (CacheEntry α τ) :=
  evictIfNeeded cache.maxEntries ((removeExpired cache.entries loadedAt).set key entry)

/-- The `finally` clause of `_load_and_cache`. -/
def leaveInflight (cache : AsyncTTLCache κ α τ) (key : κ) (task : ℕ) : AsyncTTLCache κ α τ :=
  if cache.inflight.get? key = some task then
    { cache with inflight := cache.inflight.erase key }
  else cache

variable [Add τ]

/-- `_load_and_cache` from the moment when the loader returns or raises. -/
def loadAndCache (cache : AsyncTTLCache κ α τ) (task : ℕ) (load : Load κ α τ ε)
    (outcome : Except ε α) (loadedAt : τ) :
    Except ε (CacheLookup α τ × Bool) × AsyncTTLCache κ α τ :=
  match outcome with
  | .error error => (.error error, cache.leaveInflight load.key task)
  | .ok value =>
    let expiresAt := loadedAt + load.ttlSeconds
    match load.shouldCache value with
    | .error error => (.error error, cache.leaveInflight load.key task)
    | .ok false => (.ok (⟨value, false, expiresAt⟩, false), cache.leaveInflight load.key task)
    | .ok true =>
      let entries := cache.storeEntry load.key ⟨value, expiresAt, loadedAt⟩ loadedAt
      (.ok (⟨value, false, expiresAt⟩, true),
        { cache with entries := entries }.leaveInflight load.key task)

/-! ## The lookup -/

omit [Add τ]

theorem getLiveEntry_of_live {cache : AsyncTTLCache κ α τ} {key : κ} {reading : τ}
    {entry : CacheEntry α τ} (h : cache.entries.get? key = some entry)
    (hlive : reading < entry.expiresAt) :
    cache.getLiveEntry key reading = (some entry, cache) := by
  simp only [getLiveEntry, h]
  exact if_pos hlive

/-- Without a live entry the key has no entry after the lookup; other keys are as before. -/
theorem getLiveEntry_of_not_live {cache : AsyncTTLCache κ α τ} {key : κ} {reading : τ}
    (h : ∀ entry, cache.entries.get? key = some entry → ¬ reading < entry.expiresAt) :
    cache.getLiveEntry key reading =
      (none, { cache with entries := (cache.getLiveEntry key reading).2.entries }) ∧
    (cache.getLiveEntry key reading).2.entries.get? key = none ∧
    (∀ other, other ≠ key → (cache.getLiveEntry key reading).2.entries.get? other =
      cache.entries.get? other) ∧
    (cache.getLiveEntry key reading).2.entries.size ≤ cache.entries.size := by
  rw [getLiveEntry]
  split
  · next hnone => exact ⟨rfl, hnone, fun _ _ => rfl, le_refl _⟩
  · next entry hentry =>
    rw [if_neg (h entry hentry)]
    refine ⟨rfl, ?_, fun other hother => ?_, ?_⟩
    · simp [Dict.get?_erase]
    · simp [Dict.get?_erase, hother]
    · exact List.length_filter_le _ _

/-! ## Eviction -/

theorem get?_removeExpired {entries : Dict κ (CacheEntry α τ)} {now : τ} {key : κ}
    {entry : CacheEntry α τ} (h : (removeExpired entries now).get? key = some entry) :
    entries.get? key = some entry := by
  rw [← Dict.mem_entries_iff] at h ⊢
  exact List.mem_of_mem_filter h

/-- Eviction only removes entries. -/
theorem get?_evictRounds {maxEntries rounds : ℕ} {entries : Dict κ (CacheEntry α τ)} {key : κ}
    {entry : CacheEntry α τ}
    (h : (evictRounds maxEntries rounds entries).get? key = some entry) :
    entries.get? key = some entry := by
  induction rounds generalizing entries with
  | zero => exact h
  | succ rounds ih =>
    rw [evictRounds] at h
    split at h
    · split at h
      · next out _ _ =>
        have hget := ih h
        rw [Dict.get?_erase] at hget
        split at hget
        · cases hget
        · exact hget
      · exact h
    · exact h

/-- Enough rounds bring the entries down to the capacity. -/
theorem size_evictRounds {maxEntries rounds : ℕ} {entries : Dict κ (CacheEntry α τ)}
    (h : entries.size ≤ maxEntries + rounds) :
    (evictRounds maxEntries rounds entries).size ≤ maxEntries := by
  induction rounds generalizing entries with
  | zero => exact h
  | succ rounds ih =>
    rw [evictRounds]
    split
    · next hover =>
      have hne : entries.entries ≠ [] := by
        intro hnil
        rw [Dict.size, hnil] at hover
        exact absurd hover (by simp)
      obtain ⟨out, hout⟩ := Selection.exists_minByKey
        (fun item : κ × CacheEntry α τ => toLex (item.2.expiresAt, item.2.insertedAt)) hne
      have hmem := Selection.mem_of_minByKey hout
      rw [← evicted] at hout
      rw [hout]
      refine ih ?_
      -- the evicted key is a key, so one entry less is left
      have hless : (entries.erase out.1).size < entries.size :=
        List.length_filter_lt_length_iff_exists.mpr ⟨out, hmem, by simp⟩
      omega
    · omega

theorem size_evictIfNeeded (maxEntries : ℕ) (entries : Dict κ (CacheEntry α τ)) :
    (evictIfNeeded maxEntries entries).size ≤ maxEntries :=
  size_evictRounds (Nat.le_add_left _ _)

/-- What is stored afterwards is the new entry, or was stored before under another key. -/
theorem get?_storeEntry {cache : AsyncTTLCache κ α τ} {key other : κ}
    {new entry : CacheEntry α τ} {loadedAt : τ}
    (h : (cache.storeEntry key new loadedAt).get? other = some entry) :
    other = key ∧ entry = new ∨ other ≠ key ∧ cache.entries.get? other = some entry := by
  have hset := get?_evictRounds h
  rw [Dict.get?_set] at hset
  split at hset
  · next heq => exact .inl ⟨heq, (Option.some.inj hset).symm⟩
  · next hne => exact .inr ⟨hne, get?_removeExpired hset⟩

/-! ## The end of a load -/

omit [LinearOrder τ] in
@[simp] theorem entries_leaveInflight (cache : AsyncTTLCache κ α τ) (key : κ) (task : ℕ) :
    (cache.leaveInflight key task).entries = cache.entries := by
  rw [leaveInflight]
  split <;> rfl

omit [LinearOrder τ] in
@[simp] theorem maxEntries_leaveInflight (cache : AsyncTTLCache κ α τ) (key : κ) (task : ℕ) :
    (cache.leaveInflight key task).maxEntries = cache.maxEntries := by
  rw [leaveInflight]
  split <;> rfl

omit [LinearOrder τ] in
/-- Only the task itself leaves. -/
theorem get?_leaveInflight {cache : AsyncTTLCache κ α τ} {key : κ} {task : ℕ}
    (h : cache.inflight.get? key = some task) (other : κ) :
    (cache.leaveInflight key task).inflight.get? other =
      if other = key then none else cache.inflight.get? other := by
  rw [leaveInflight, if_pos h]
  exact Dict.get?_erase _ _ _

variable [Add τ] {cache : AsyncTTLCache κ α τ} {task : ℕ} {load : Load κ α τ ε}
  {outcome : Except ε α} {loadedAt : τ}

/-- A load leaves the in-flight map, however it ends. -/
theorem inflight_loadAndCache :
    (cache.loadAndCache task load outcome loadedAt).2.inflight =
      (cache.leaveInflight load.key task).inflight := by
  unfold loadAndCache
  split
  · rfl
  · dsimp only
    split
    · rfl
    · rfl
    · simp only [leaveInflight]
      split <;> rfl

theorem maxEntries_loadAndCache :
    (cache.loadAndCache task load outcome loadedAt).2.maxEntries = cache.maxEntries := by
  unfold loadAndCache
  split
  · exact maxEntries_leaveInflight ..
  · dsimp only
    split <;> exact maxEntries_leaveInflight ..

theorem size_loadAndCache (h : cache.entries.size ≤ cache.maxEntries) :
    (cache.loadAndCache task load outcome loadedAt).2.entries.size ≤ cache.maxEntries := by
  unfold loadAndCache
  split
  · rwa [entries_leaveInflight]
  · dsimp only
    split
    · rwa [entries_leaveInflight]
    · rwa [entries_leaveInflight]
    · rw [entries_leaveInflight]
      exact size_evictIfNeeded ..

/-- A stored value is the one that the load returned, or it was stored before. -/
theorem get?_loadAndCache {other : κ} {entry : CacheEntry α τ}
    (h : (cache.loadAndCache task load outcome loadedAt).2.entries.get? other = some entry) :
    other = load.key ∧
        (cache.loadAndCache task load outcome loadedAt).1 = .ok (entry.loaded, true) ∨
      cache.entries.get? other = some entry ∧ (other = load.key →
        ∀ lookup, (cache.loadAndCache task load outcome loadedAt).1 ≠ .ok (lookup, true)) := by
  unfold loadAndCache at h ⊢
  split at h
  · rw [entries_leaveInflight] at h
    exact .inr ⟨h, fun _ _ => by simp⟩
  · dsimp only at h ⊢
    split at h
    · rw [entries_leaveInflight] at h
      exact .inr ⟨h, fun _ _ => by simp⟩
    · rw [entries_leaveInflight] at h
      exact .inr ⟨h, fun _ _ => by simp⟩
    · rw [entries_leaveInflight] at h
      obtain ⟨hkey, rfl⟩ | ⟨hkey, hentry⟩ := get?_storeEntry h
      · exact .inl ⟨hkey, rfl⟩
      · exact .inr ⟨hentry, fun heq => absurd heq hkey⟩

/-- The result is what the loader returned. -/
theorem outcome_of_loadAndCache {lookup : CacheLookup α τ} {cached : Bool}
    (h : (cache.loadAndCache task load outcome loadedAt).1 = .ok (lookup, cached)) :
    outcome = .ok lookup.value := by
  unfold loadAndCache at h
  split at h
  · cases h
  · dsimp only at h
    split at h <;> cases h <;> rfl

/-- The flag of the result is what the predicate said of the value. -/
theorem shouldCache_of_loadAndCache {lookup : CacheLookup α τ} {cached : Bool}
    (h : (cache.loadAndCache task load outcome loadedAt).1 = .ok (lookup, cached)) :
    load.shouldCache lookup.value = .ok cached := by
  unfold loadAndCache at h
  split at h
  · cases h
  · dsimp only at h
    split at h
    · cases h
    · next hshould => cases h; exact hshould
    · next hshould => cases h; exact hshould

end AsyncTTLCache

end TravelPlanAgent
