import TravelPlanAgent.Tools.Cache

/-!
# Every schedule of calls on one cache

`get_or_load` gives up control in one place, where it waits for the task of its key, and that
wait is shielded.  So a schedule is a list of events: a call up to its wait, the first part of a
task, the end of its loader, a caller that goes on, a caller that is cancelled.  A loader may do
anything between its two events, also call the cache.

* `step`, `runEvents`: schedules; an event that is not possible has no next state.
* `Coherent`, `coherent_step`: the invariant.
* `CacheCorrect`, `cacheCorrect`: what holds after every schedule.
-/

namespace TravelPlanAgent

variable {κ α τ ε : Type}

/-! ## Schedules -/

/-- What a task of `_load_and_cache` returns or raises. -/
abbrev LoadResult (α τ ε : Type) : Type := Except ε (CacheLookup α τ × Bool)

/-- How far a task is. -/
inductive LoadPhase (α τ ε : Type) where
  | created
  | loading
  | done (result : LoadResult α τ ε)

/-- A task of `_load_and_cache`. -/
structure LoadTask (κ α τ ε : Type) where
  load : Load κ α τ ε
  phase : LoadPhase α τ ε

/-- The task is not done. -/
def LoadTask.Open (task : LoadTask κ α τ ε) : Prop := ∀ result, task.phase ≠ .done result

/-- A call of `get_or_load`. -/
inductive CacheCaller (α τ ε : Type) where
  | waiting (task : ℕ) (isLoader : Bool)
  | returned (lookup : CacheLookup α τ)
  | raised (error : ε)
  | cancelled

/-- What is remembered of a schedule, the newest first. -/
inductive CacheAccess (κ α τ ε : Type) where
  | loaded (task : ℕ) (key : κ) (result : LoadResult α τ ε)
  | served (caller : ℕ) (key : κ) (reading : τ) (lookup : CacheLookup α τ)

/-- The cache with the tasks and callers that use it. -/
structure CacheSchedule (κ α τ ε : Type) where
  cache : AsyncTTLCache κ α τ
  tasks : List (LoadTask κ α τ ε)
  callers : List (CacheCaller α τ ε)
  now : τ
  history : List (CacheAccess κ α τ ε)

/-- The events. -/
inductive CacheEvent (κ α τ ε : Type) where
  | call (load : Load κ α τ ε) (reading : τ)
  | start (task : ℕ)
  | finish (task : ℕ) (outcome : Except ε α) (reading : τ)
  | resume (caller : ℕ)
  | cancel (caller : ℕ)

/-- How a caller goes on when its task is done. -/
def answer (isLoader : Bool) : LoadResult α τ ε → CacheCaller α τ ε
  | .error error => .raised error
  | .ok (lookup, cached) =>
    if isLoader || !cached then .returned lookup
    else .returned ⟨lookup.value, true, lookup.expiresAtMonotonic⟩

/-- The result of the latest load of a key. -/
def latestLoad [DecidableEq κ] (key : κ) :
    List (CacheAccess κ α τ ε) → Option (LoadResult α τ ε)
  | [] => none
  | .loaded _ other result :: history =>
    if other = key then some result else latestLoad key history
  | .served .. :: history => latestLoad key history

namespace CacheSchedule

variable [DecidableEq κ] [LinearOrder τ]

/-- `get_or_load` up to its return or its wait. -/
def getOrLoad (s : CacheSchedule κ α τ ε) (load : Load κ α τ ε) (reading : τ) :
    CacheSchedule κ α τ ε :=
  match s.cache.getLiveEntry load.key reading with
  | (some entry, cache) =>
    { s with
      cache := cache
      callers := s.callers ++ [.returned entry.lookup]
      now := reading
      history := .served s.callers.length load.key reading entry.lookup :: s.history }
  | (none, cache) =>
    match cache.inflight.get? load.key with
    | some task =>
      { s with
        cache := cache
        callers := s.callers ++ [.waiting task false]
        now := reading }
    | none =>
      { s with
        cache := { cache with inflight := cache.inflight.set load.key s.tasks.length }
        tasks := s.tasks ++ [⟨load, .created⟩]
        callers := s.callers ++ [.waiting s.tasks.length true]
        now := reading }

variable [Add τ]

/-- One event. -/
def step (s : CacheSchedule κ α τ ε) : CacheEvent κ α τ ε → Option (CacheSchedule κ α τ ε)
  | .call load reading => if s.now ≤ reading then some (s.getOrLoad load reading) else none
  | .start task =>
    match s.tasks[task]? with
    | some ⟨load, .created⟩ => some { s with tasks := s.tasks.set task ⟨load, .loading⟩ }
    | _ => none
  | .finish task outcome reading =>
    match s.tasks[task]? with
    | some ⟨load, .loading⟩ =>
      if s.now ≤ reading then
        let end' := s.cache.loadAndCache task load outcome reading
        some { s with
          cache := end'.2
          tasks := s.tasks.set task ⟨load, .done end'.1⟩
          now := reading
          history := .loaded task load.key end'.1 :: s.history }
      else none
    | _ => none
  | .resume caller =>
    match s.callers[caller]? with
    | some (.waiting task isLoader) =>
      match s.tasks[task]? with
      | some ⟨_, .done result⟩ =>
        some { s with callers := s.callers.set caller (answer isLoader result) }
      | _ => none
    | _ => none
  | .cancel caller =>
    match s.callers[caller]? with
    | some (.waiting _ _) => some { s with callers := s.callers.set caller .cancelled }
    | _ => none

/-- A cache that no one has called. -/
def fresh (cache : AsyncTTLCache κ α τ) (now : τ) : CacheSchedule κ α τ ε :=
  ⟨cache, [], [], now, []⟩

/-- A schedule, event by event. -/
def runEvents (s : CacheSchedule κ α τ ε) :
    List (CacheEvent κ α τ ε) → Option (CacheSchedule κ α τ ε)
  | [] => some s
  | event :: events => (s.step event).bind (runEvents · events)

end CacheSchedule

open CacheSchedule

variable [DecidableEq κ] [LinearOrder τ]

/-! ## The invariant -/

/-- What was served was not expired, and is what the latest load of its key stored. -/
def ServedLive (key : κ) (reading : τ) (lookup : CacheLookup α τ)
    (earlier : List (CacheAccess κ α τ ε)) : Prop :=
  ∃ entry : CacheEntry α τ, latestLoad key earlier = some (.ok (entry.loaded, true)) ∧
    reading < entry.expiresAt ∧ lookup = entry.lookup

/-- What every schedule keeps. -/
structure Coherent (s : CacheSchedule κ α τ ε) : Prop where
  inflight_iff : ∀ key i, s.cache.inflight.get? key = some i ↔
    ∃ task, s.tasks[i]? = some task ∧ task.load.key = key ∧ task.Open
  latest : ∀ key entry, s.cache.entries.get? key = some entry →
    latestLoad key s.history = some (.ok (entry.loaded, true))
  apart : ∀ key entry, s.cache.entries.get? key = some entry → s.cache.inflight.get? key = none
  size_le : s.cache.entries.size ≤ s.cache.maxEntries
  accepted : ∀ i key lookup cached, .loaded i key (.ok (lookup, cached)) ∈ s.history →
    ∃ task, s.tasks[i]? = some task ∧ task.load.key = key ∧
      task.phase = .done (.ok (lookup, cached)) ∧ task.load.shouldCache lookup.value = .ok cached
  served : ∀ later earlier caller key reading lookup,
    s.history = later ++ .served caller key reading lookup :: earlier →
      ServedLive key reading lookup earlier
  waiting : ∀ (c i : ℕ) (isLoader : Bool), s.callers[c]? = some (.waiting i isLoader) →
    i < s.tasks.length

theorem coherent_fresh (cache : AsyncTTLCache κ α τ) (now : τ)
    (hentries : cache.entries = ∅) (hinflight : cache.inflight = ∅) :
    Coherent (fresh cache now : CacheSchedule κ α τ ε) where
  inflight_iff key i := by simp [fresh, hinflight]
  latest key entry h := by simp [fresh, hentries] at h
  apart key entry h := by simp [fresh, hentries] at h
  size_le := by
    rw [fresh, hentries]
    exact Nat.zero_le _
  accepted i key lookup cached h := by simp [fresh] at h
  served later earlier caller key reading lookup h := by simp [fresh] at h
  waiting c i isLoader h := by simp [fresh] at h

/-- A task that is done is in flight under no key. -/
theorem Coherent.not_inflight {s : CacheSchedule κ α τ ε} (h : Coherent s) {i : ℕ}
    {task : LoadTask κ α τ ε} {result : LoadResult α τ ε} (htask : s.tasks[i]? = some task)
    (hdone : task.phase = .done result) (key : κ) : s.cache.inflight.get? key ≠ some i := by
  intro hget
  obtain ⟨task', htask', -, hopen⟩ := (h.inflight_iff key i).mp hget
  rw [htask, Option.some.injEq] at htask'
  exact hopen result (htask' ▸ hdone)

/-- No entry is served from a history to which a load was added. -/
theorem served_cons_loaded {history : List (CacheAccess κ α τ ε)} {i : ℕ} {key : κ}
    {result : LoadResult α τ ε}
    (h : ∀ later earlier caller key reading lookup,
      history = later ++ .served caller key reading lookup :: earlier →
        ServedLive key reading lookup earlier)
    (later earlier : List (CacheAccess κ α τ ε)) (caller : ℕ) (other : κ) (reading : τ)
    (lookup : CacheLookup α τ)
    (heq : .loaded i key result :: history =
      later ++ .served caller other reading lookup :: earlier) :
    ServedLive other reading lookup earlier := by
  cases later with
  | nil => cases heq
  | cons first later =>
    rw [List.cons_append, List.cons.injEq] at heq
    exact h later earlier caller other reading lookup heq.2

/-! ## Calls -/

/-- What a call does: it is served, or it drops an expired entry and waits. -/
theorem getOrLoad_cases (s : CacheSchedule κ α τ ε) (load : Load κ α τ ε) (reading : τ) :
    (∃ entry, s.cache.entries.get? load.key = some entry ∧ reading < entry.expiresAt ∧
      s.getOrLoad load reading =
        { s with
          callers := s.callers ++ [.returned entry.lookup]
          now := reading
          history := .served s.callers.length load.key reading entry.lookup :: s.history }) ∨
    ∃ entries : Dict κ (CacheEntry α τ), entries.get? load.key = none ∧
      (∀ other entry, entries.get? other = some entry →
        s.cache.entries.get? other = some entry) ∧
      entries.size ≤ s.cache.entries.size ∧
      ((∃ i, s.cache.inflight.get? load.key = some i ∧ s.getOrLoad load reading =
        { s with
          cache := { s.cache with entries := entries }
          callers := s.callers ++ [.waiting i false]
          now := reading }) ∨
      s.cache.inflight.get? load.key = none ∧ s.getOrLoad load reading =
        { s with
          cache := { s.cache with
            entries := entries
            inflight := s.cache.inflight.set load.key s.tasks.length }
          tasks := s.tasks ++ [⟨load, .created⟩]
          callers := s.callers ++ [.waiting s.tasks.length true]
          now := reading }) := by
  by_cases hlive : ∃ entry, s.cache.entries.get? load.key = some entry ∧
      reading < entry.expiresAt
  · obtain ⟨entry, hentry, hreading⟩ := hlive
    refine .inl ⟨entry, hentry, hreading, ?_⟩
    rw [getOrLoad, AsyncTTLCache.getLiveEntry_of_live hentry hreading]
  · obtain ⟨hlookup, hkey, hother, hsize⟩ := AsyncTTLCache.getLiveEntry_of_not_live
      (fun entry hentry hreading => hlive ⟨entry, hentry, hreading⟩)
    refine .inr ⟨_, hkey, fun other entry hentry => ?_, hsize, ?_⟩
    · have hne : other ≠ load.key := by
        rintro rfl
        rw [hkey] at hentry
        cases hentry
      rwa [hother other hne] at hentry
    · rw [getOrLoad, hlookup]
      dsimp only
      split
      · next i hi => exact .inl ⟨i, hi, rfl⟩
      · next hnone => exact .inr ⟨hnone, rfl⟩

/-- Entries may be dropped. -/
theorem Coherent.drop_entries {s : CacheSchedule κ α τ ε} (h : Coherent s)
    {entries : Dict κ (CacheEntry α τ)} (hsub : ∀ other entry,
      entries.get? other = some entry → s.cache.entries.get? other = some entry)
    (hsize : entries.size ≤ s.cache.entries.size) :
    Coherent { s with cache := { s.cache with entries := entries } } where
  inflight_iff := h.inflight_iff
  latest key entry hentry := h.latest key entry (hsub key entry hentry)
  apart key entry hentry := h.apart key entry (hsub key entry hentry)
  size_le := hsize.trans h.size_le
  accepted := h.accepted
  served := h.served
  waiting := h.waiting

/-- A caller may come to wait for a task, whatever the clock reads. -/
theorem Coherent.add_waiting {s : CacheSchedule κ α τ ε} (h : Coherent s) {i : ℕ}
    (hi : i < s.tasks.length) (isLoader : Bool) (reading : τ) :
    Coherent { s with callers := s.callers ++ [.waiting i isLoader], now := reading } where
  inflight_iff := h.inflight_iff
  latest := h.latest
  apart := h.apart
  size_le := h.size_le
  accepted := h.accepted
  served := h.served
  waiting c j other hc := by
    rw [List.getElem?_append] at hc
    split at hc
    · exact h.waiting c j other hc
    · rw [List.getElem?_singleton] at hc
      split at hc
      · cases hc
        exact hi
      · cases hc

/-- A key without entry and without task may get a task. -/
theorem Coherent.add_task {s : CacheSchedule κ α τ ε} (h : Coherent s) {load : Load κ α τ ε}
    (hentry : s.cache.entries.get? load.key = none)
    (hinflight : s.cache.inflight.get? load.key = none) :
    Coherent { s with
      cache := { s.cache with inflight := s.cache.inflight.set load.key s.tasks.length }
      tasks := s.tasks ++ [⟨load, .created⟩] } where
  inflight_iff key i := by
    show (s.cache.inflight.set _ _).get? key = some i ↔ ∃ task, (s.tasks ++ _)[i]? = some task ∧ _
    rw [Dict.get?_set]
    rcases lt_trichotomy i s.tasks.length with hlt | rfl | hgt
    · rw [List.getElem?_append_left hlt, ← h.inflight_iff]
      split
      · next heq =>
        rw [heq, hinflight]
        simp only [Option.some.injEq, reduceCtorEq, iff_false]
        omega
      · rfl
    · simp only [List.getElem?_concat_length, Option.some.injEq, exists_eq_left']
      constructor
      · intro hget
        split at hget
        · next heq => exact ⟨heq.symm, fun result hdone => by cases hdone⟩
        · obtain ⟨task, htask, -⟩ := (h.inflight_iff key _).mp hget
          rw [List.getElem?_eq_none (le_refl _)] at htask
          cases htask
      · intro hkey
        rw [if_pos hkey.1.symm]
    · have hlength : (s.tasks ++ [LoadTask.mk load .created]).length ≤ i := by
        rw [List.length_append]
        exact hgt
      rw [List.getElem?_eq_none hlength]
      simp only [reduceCtorEq, false_and, exists_false, iff_false]
      intro hget
      split at hget
      · cases hget
        omega
      · obtain ⟨task, htask, -⟩ := (h.inflight_iff key i).mp hget
        rw [List.getElem?_eq_none hgt.le] at htask
        cases htask
  latest := h.latest
  apart key entry hget := by
    have hne : key ≠ load.key := by
      rintro rfl
      rw [hentry] at hget
      cases hget
    show (s.cache.inflight.set _ _).get? key = none
    rw [Dict.get?_set, if_neg hne]
    exact h.apart key entry hget
  size_le := h.size_le
  accepted i key lookup cached hmem := by
    obtain ⟨task, htask, hrest⟩ := h.accepted i key lookup cached hmem
    have hlt := (List.getElem?_eq_some_iff.mp htask).1
    exact ⟨task, (List.getElem?_append_left hlt).trans htask, hrest⟩
  served := h.served
  waiting c i isLoader hc := by
    have hlt := h.waiting c i isLoader hc
    simp only [List.length_append]
    omega

/-- A live entry may be served. -/
theorem Coherent.serve {s : CacheSchedule κ α τ ε} (h : Coherent s) {key : κ}
    {entry : CacheEntry α τ} {reading : τ} (hentry : s.cache.entries.get? key = some entry)
    (hreading : reading < entry.expiresAt) :
    Coherent { s with
      callers := s.callers ++ [.returned entry.lookup]
      now := reading
      history := .served s.callers.length key reading entry.lookup :: s.history } where
  inflight_iff := h.inflight_iff
  latest := h.latest
  apart := h.apart
  size_le := h.size_le
  accepted i other lookup cached hmem := by
    rw [List.mem_cons] at hmem
    obtain hmem | hmem := hmem
    · cases hmem
    · exact h.accepted i other lookup cached hmem
  served later earlier caller other reading' lookup heq := by
    cases later with
    | nil =>
      cases heq
      exact ⟨entry, h.latest key entry hentry, hreading, rfl⟩
    | cons first later =>
      rw [List.cons_append, List.cons.injEq] at heq
      exact h.served later earlier caller other reading' lookup heq.2
  waiting c i isLoader hc := by
    rw [List.getElem?_append] at hc
    split at hc
    · exact h.waiting c i isLoader hc
    · rw [List.getElem?_singleton] at hc
      split at hc <;> cases hc

theorem coherent_getOrLoad {s : CacheSchedule κ α τ ε} (h : Coherent s)
    (load : Load κ α τ ε) (reading : τ) : Coherent (s.getOrLoad load reading) := by
  obtain ⟨entry, hentry, hreading, heq⟩ | ⟨entries, hkey, hsub, hsize, hwait⟩ :=
    getOrLoad_cases s load reading
  · rw [heq]
    exact h.serve hentry hreading
  · have hdrop := h.drop_entries hsub hsize
    obtain ⟨i, hi, heq⟩ | ⟨hnone, heq⟩ := hwait
    · rw [heq]
      obtain ⟨task, htask, -⟩ := (h.inflight_iff _ i).mp hi
      exact hdrop.add_waiting (List.getElem?_eq_some_iff.mp htask).1 false reading
    · rw [heq]
      have htask := hdrop.add_task hkey hnone
      exact htask.add_waiting (by simp) true reading

/-! ## Tasks -/

variable {s : CacheSchedule κ α τ ε} {i : ℕ} {old new : LoadTask κ α τ ε}

omit [DecidableEq κ] [LinearOrder τ] in
/-- The tasks of a key that are not done, after a task has changed. -/
theorem exists_open_set (hold : s.tasks[i]? = some old) (key : κ) (j : ℕ) :
    (∃ task, (s.tasks.set i new)[j]? = some task ∧ task.load.key = key ∧ task.Open) ↔
      if j = i then new.load.key = key ∧ new.Open
      else ∃ task, s.tasks[j]? = some task ∧ task.load.key = key ∧ task.Open := by
  split
  · next heq =>
    have hlt := (List.getElem?_eq_some_iff.mp hold).1
    rw [heq, List.getElem?_set_self hlt]
    simp
  · next hne => rw [List.getElem?_set_ne (Ne.symm hne)]

/-- Loads that ended are not touched when another task changes. -/
theorem Coherent.accepted_set (h : Coherent s) (hold : s.tasks[i]? = some old)
    (hopen : old.Open) (j : ℕ) (key : κ) (lookup : CacheLookup α τ) (cached : Bool)
    (hmem : .loaded j key (.ok (lookup, cached)) ∈ s.history) :
    ∃ task, (s.tasks.set i new)[j]? = some task ∧ task.load.key = key ∧
      task.phase = .done (.ok (lookup, cached)) ∧
        task.load.shouldCache lookup.value = .ok cached := by
  obtain ⟨task, htask, hkey, hphase, hshould⟩ := h.accepted j key lookup cached hmem
  have hne : i ≠ j := by
    rintro rfl
    rw [hold, Option.some.injEq] at htask
    exact hopen _ (htask ▸ hphase)
  exact ⟨task, (List.getElem?_set_ne hne).trans htask, hkey, hphase, hshould⟩

theorem coherent_start (h : Coherent s) {load : Load κ α τ ε}
    (hold : s.tasks[i]? = some ⟨load, .created⟩) :
    Coherent { s with tasks := s.tasks.set i ⟨load, .loading⟩ } where
  inflight_iff key j := by
    rw [h.inflight_iff, exists_open_set hold]
    split
    · next heq =>
      rw [heq, hold]
      simp [LoadTask.Open]
    · rfl
  latest := h.latest
  apart := h.apart
  size_le := h.size_le
  accepted := h.accepted_set hold (fun result hdone => by cases hdone)
  served := h.served
  waiting c j isLoader hc := by
    rw [List.length_set]
    exact h.waiting c j isLoader hc

theorem coherent_finish [Add τ] (h : Coherent s) {load : Load κ α τ ε}
    (hold : s.tasks[i]? = some ⟨load, .loading⟩) (outcome : Except ε α) (reading : τ) :
    Coherent { s with
      cache := (s.cache.loadAndCache i load outcome reading).2
      tasks := s.tasks.set i ⟨load, .done (s.cache.loadAndCache i load outcome reading).1⟩
      now := reading
      history := .loaded i load.key (s.cache.loadAndCache i load outcome reading).1 ::
        s.history } := by
  have hopen : LoadTask.Open ⟨load, .loading⟩ := fun result hdone => by cases hdone
  have hinflight : s.cache.inflight.get? load.key = some i :=
    (h.inflight_iff load.key i).mpr ⟨_, hold, rfl, hopen⟩
  -- a key that is in flight has no entry, so what is stored under it is new
  have hnone : s.cache.entries.get? load.key = none := by
    cases hget : s.cache.entries.get? load.key with
    | none => rfl
    | some entry =>
      rw [h.apart load.key entry hget] at hinflight
      cases hinflight
  constructor
  case inflight_iff =>
    intro key j
    show (s.cache.loadAndCache i load outcome reading).2.inflight.get? key = some j ↔ _
    rw [AsyncTTLCache.inflight_loadAndCache, AsyncTTLCache.get?_leaveInflight hinflight,
      exists_open_set hold]
    split
    · next hkey =>
      simp only [reduceCtorEq, false_iff]
      split
      · exact fun hnew => hnew.2 _ rfl
      · next hne =>
        rw [← h.inflight_iff, hkey, hinflight, Option.some.injEq]
        exact fun heq => hne heq.symm
    · next hkey =>
      rw [h.inflight_iff]
      split
      · next heq =>
        rw [heq, hold]
        simp only [Option.some.injEq, exists_eq_left']
        exact iff_of_false (fun hold' => hkey hold'.1.symm) (fun hnew => hkey hnew.1.symm)
      · rfl
  case latest =>
    intro key entry hget
    show latestLoad key (.loaded i load.key _ :: s.history) = _
    rw [latestLoad]
    obtain ⟨hkey, hresult⟩ | ⟨hentry, -⟩ := AsyncTTLCache.get?_loadAndCache hget
    · rw [if_pos hkey.symm, hresult]
    · have hne : load.key ≠ key := by
        rintro rfl
        rw [hnone] at hentry
        cases hentry
      rw [if_neg hne]
      exact h.latest key entry hentry
  case apart =>
    intro key entry hget
    show (s.cache.loadAndCache i load outcome reading).2.inflight.get? key = none
    rw [AsyncTTLCache.inflight_loadAndCache, AsyncTTLCache.get?_leaveInflight hinflight]
    obtain ⟨hkey, -⟩ | ⟨hentry, -⟩ := AsyncTTLCache.get?_loadAndCache hget
    · rw [if_pos hkey]
    · split
      · rfl
      · exact h.apart key entry hentry
  case size_le =>
    show _ ≤ (s.cache.loadAndCache i load outcome reading).2.maxEntries
    rw [AsyncTTLCache.maxEntries_loadAndCache]
    exact AsyncTTLCache.size_loadAndCache h.size_le
  case accepted =>
    intro j key lookup cached hmem
    obtain hnew | hmem := List.mem_cons.mp hmem
    · injection hnew with hj hkey hresult
      have hlt := (List.getElem?_eq_some_iff.mp hold).1
      refine ⟨⟨load, .done (.ok (lookup, cached))⟩, ?_, hkey.symm, rfl,
        AsyncTTLCache.shouldCache_of_loadAndCache hresult.symm⟩
      show (s.tasks.set i _)[j]? = _
      rw [hj, List.getElem?_set_self hlt, ← hresult]
    · exact h.accepted_set hold hopen j key lookup cached hmem
  case served => exact served_cons_loaded h.served
  case waiting =>
    intro c j isLoader hc
    rw [List.length_set]
    exact h.waiting c j isLoader hc

/-- A caller may stop waiting. -/
theorem Coherent.set_caller (h : Coherent s) (c : ℕ) {caller : CacheCaller α τ ε}
    (hcaller : ∀ i isLoader, caller ≠ .waiting i isLoader) :
    Coherent { s with callers := s.callers.set c caller } where
  inflight_iff := h.inflight_iff
  latest := h.latest
  apart := h.apart
  size_le := h.size_le
  accepted := h.accepted
  served := h.served
  waiting d j isLoader hd := by
    rw [List.getElem?_set] at hd
    split at hd
    · split at hd
      · exact absurd (Option.some.inj hd) (hcaller j isLoader)
      · cases hd
    · exact h.waiting d j isLoader hd

omit [DecidableEq κ] [LinearOrder τ] in
theorem answer_ne_waiting (isLoader : Bool) (result : LoadResult α τ ε) (j : ℕ)
    (other : Bool) : answer isLoader result ≠ .waiting j other := by
  unfold answer
  split
  · simp
  · split <;> simp

/-! ## Runs -/

theorem coherent_step [Add τ] (h : Coherent s) {event : CacheEvent κ α τ ε}
    {s' : CacheSchedule κ α τ ε} (hstep : s.step event = some s') : Coherent s' := by
  cases event with
  | call load reading =>
    rw [step] at hstep
    split at hstep
    · cases hstep
      exact coherent_getOrLoad h load reading
    · cases hstep
  | start task =>
    rw [step] at hstep
    split at hstep
    · next hold =>
      cases hstep
      exact coherent_start h hold
    · cases hstep
  | finish task outcome reading =>
    rw [step] at hstep
    split at hstep
    · next hold =>
      split at hstep
      · cases hstep
        exact coherent_finish h hold outcome reading
      · cases hstep
    · cases hstep
  | resume caller =>
    rw [step] at hstep
    split at hstep
    · split at hstep
      · cases hstep
        exact h.set_caller caller (answer_ne_waiting _ _)
      · cases hstep
    · cases hstep
  | cancel caller =>
    rw [step] at hstep
    split at hstep
    · cases hstep
      exact h.set_caller caller (fun _ _ => by simp)
    · cases hstep

theorem coherent_runEvents [Add τ] (h : Coherent s) {events : List (CacheEvent κ α τ ε)}
    {s' : CacheSchedule κ α τ ε} (hrun : s.runEvents events = some s') : Coherent s' := by
  induction events generalizing s with
  | nil =>
    rw [runEvents, Option.some.injEq] at hrun
    exact hrun ▸ h
  | cons event events ih =>
    rw [runEvents, Option.bind_eq_some_iff] at hrun
    obtain ⟨next, hstep, hrest⟩ := hrun
    exact ih (coherent_step h hstep) hrest

theorem maxEntries_step [Add τ] {event : CacheEvent κ α τ ε} {s' : CacheSchedule κ α τ ε}
    (hstep : s.step event = some s') : s'.cache.maxEntries = s.cache.maxEntries := by
  cases event with
  | call load reading =>
    rw [step] at hstep
    split at hstep
    · cases hstep
      obtain ⟨entry, -, -, heq⟩ | ⟨entries, -, -, -, ⟨j, -, heq⟩ | ⟨-, heq⟩⟩ :=
        getOrLoad_cases s load reading
      all_goals rw [heq]
    · cases hstep
  | finish task outcome reading =>
    rw [step] at hstep
    split at hstep
    · split at hstep
      · cases hstep
        exact AsyncTTLCache.maxEntries_loadAndCache
      · cases hstep
    · cases hstep
  | start task | cancel task =>
    rw [step] at hstep
    split at hstep <;> cases hstep
    rfl
  | resume caller =>
    rw [step] at hstep
    split at hstep
    · split at hstep <;> cases hstep
      rfl
    · cases hstep

theorem maxEntries_runEvents [Add τ] {events : List (CacheEvent κ α τ ε)}
    {s' : CacheSchedule κ α τ ε} (hrun : s.runEvents events = some s') :
    s'.cache.maxEntries = s.cache.maxEntries := by
  induction events generalizing s with
  | nil =>
    rw [runEvents, Option.some.injEq] at hrun
    rw [hrun]
  | cons event events ih =>
    rw [runEvents, Option.bind_eq_some_iff] at hrun
    obtain ⟨next, hstep, hrest⟩ := hrun
    exact (ih hrest).trans (maxEntries_step hstep)

/-! ## Correctness -/

/-- What a cache of `maxEntries` entries grants after a schedule. -/
structure CacheCorrect [Add τ] (maxEntries : ℤ) (s : CacheSchedule κ α τ ε) : Prop where
  /-- At most one task of a key is not done, so at most one of its loaders runs. -/
  oneLoader : ∀ (i j : ℕ) task task', s.tasks[i]? = some task →
    s.tasks[j]? = some task' → task.Open → task'.Open → task.load.key = task'.load.key → i = j
  /-- What was ever served from the entries was live, and the latest value of its key. -/
  served : ∀ later earlier caller key reading lookup,
    s.history = later ++ .served caller key reading lookup :: earlier →
      ServedLive key reading lookup earlier
  /-- The stored value of a key is the one of its latest load, and the predicate accepted it. -/
  accepted : ∀ key entry, s.cache.entries.get? key = some entry →
    latestLoad key s.history = some (.ok (entry.loaded, true)) ∧
    ∃ (i : ℕ) (task : _), s.tasks[i]? = some task ∧ task.load.key = key ∧
      task.phase = .done (.ok (entry.loaded, true)) ∧
        task.load.shouldCache entry.value = .ok true
  size_le : (s.cache.entries.size : ℤ) ≤ maxEntries
  /-- A task that ended in any way is no longer in flight. -/
  gone : ∀ (i : ℕ) task result, s.tasks[i]? = some task → task.phase = .done result →
    ∀ key, s.cache.inflight.get? key ≠ some i
  /-- A call is served a live entry, or waits for a task of its key that is not done. -/
  calls : ∀ load reading s', s.step (.call load reading) = some s' →
    (∃ entry, s.cache.entries.get? load.key = some entry ∧ reading < entry.expiresAt ∧
      s'.callers = s.callers ++ [.returned entry.lookup]) ∨
    ∃ (i : ℕ) (task : _) (isLoader : _), s'.callers = s.callers ++ [.waiting i isLoader] ∧
      s'.tasks[i]? = some task ∧ task.load.key = load.key ∧ task.Open
  /-- When the loads of a key are done and it has no live entry, a call loads again. -/
  loadsAgain : ∀ load reading s', s.step (.call load reading) = some s' →
    (∀ (i : ℕ) task, s.tasks[i]? = some task → task.load.key = load.key → ¬ task.Open) →
    (∀ entry, s.cache.entries.get? load.key = some entry → ¬ reading < entry.expiresAt) →
    s'.tasks = s.tasks ++ [⟨load, .created⟩] ∧
      s'.callers = s.callers ++ [.waiting s.tasks.length true]
  /-- There is no entry after a load that failed or whose value was rejected. -/
  notStored : ∀ key, (∀ lookup, latestLoad key s.history ≠ some (.ok (lookup, true))) →
    s.cache.entries.get? key = none
  /-- A caller goes on with the result of its task once that is done. -/
  goesOn : ∀ (c i : ℕ) (isLoader : Bool), s.callers[c]? = some (.waiting i isLoader) →
    ∃ task, s.tasks[i]? = some task ∧ ∀ result, task.phase = .done result →
      ∃ s', s.step (.resume c) = some s' ∧ s'.callers[c]? = some (answer isLoader result)

omit [LinearOrder τ] in
theorem mem_of_latestLoad {key : κ} {history : List (CacheAccess κ α τ ε)}
    {result : LoadResult α τ ε} (h : latestLoad key history = some result) :
    ∃ j, .loaded j key result ∈ history := by
  induction history with
  | nil => cases h
  | cons access history ih =>
    cases access with
    | loaded j other found =>
      rw [latestLoad] at h
      split at h
      · next heq =>
        cases h
        exact ⟨j, heq ▸ List.mem_cons_self⟩
      · obtain ⟨j', hj'⟩ := ih h
        exact ⟨j', List.mem_cons_of_mem _ hj'⟩
    | served caller other reading lookup =>
      obtain ⟨j, hj⟩ := ih h
      exact ⟨j, List.mem_cons_of_mem _ hj⟩

theorem Coherent.calls [Add τ] (h : Coherent s) {load : Load κ α τ ε} {reading : τ}
    {s' : CacheSchedule κ α τ ε} (hstep : s.step (.call load reading) = some s') :
    (∃ entry, s.cache.entries.get? load.key = some entry ∧ reading < entry.expiresAt ∧
      s'.callers = s.callers ++ [.returned entry.lookup]) ∨
    ∃ (j : ℕ) (task : _) (isLoader : _), s'.callers = s.callers ++ [.waiting j isLoader] ∧
      s'.tasks[j]? = some task ∧ task.load.key = load.key ∧ task.Open := by
  rw [step] at hstep
  split at hstep
  · cases hstep
    obtain ⟨entry, hentry, hreading, heq⟩ | ⟨entries, -, -, -, ⟨j, hj, heq⟩ | ⟨-, heq⟩⟩ :=
      getOrLoad_cases s load reading
    · exact .inl ⟨entry, hentry, hreading, by rw [heq]⟩
    · obtain ⟨task, htask, hkey, hopen⟩ := (h.inflight_iff _ j).mp hj
      exact .inr ⟨j, task, false, by rw [heq], by rw [heq]; exact htask, hkey, hopen⟩
    · refine .inr ⟨s.tasks.length, ⟨load, .created⟩, true, by rw [heq], ?_, rfl, ?_⟩
      · rw [heq]
        exact List.getElem?_concat_length
      · exact fun result hdone => by cases hdone
  · cases hstep

theorem Coherent.loadsAgain [Add τ] (h : Coherent s) {load : Load κ α τ ε} {reading : τ}
    {s' : CacheSchedule κ α τ ε} (hstep : s.step (.call load reading) = some s')
    (hdone : ∀ (j : ℕ) task, s.tasks[j]? = some task → task.load.key = load.key → ¬ task.Open)
    (hexpired : ∀ entry, s.cache.entries.get? load.key = some entry →
      ¬ reading < entry.expiresAt) :
    s'.tasks = s.tasks ++ [⟨load, .created⟩] ∧
      s'.callers = s.callers ++ [.waiting s.tasks.length true] := by
  rw [step] at hstep
  split at hstep
  · cases hstep
    obtain ⟨entry, hentry, hreading, -⟩ | ⟨entries, -, -, -, ⟨j, hj, -⟩ | ⟨-, heq⟩⟩ :=
      getOrLoad_cases s load reading
    · exact absurd hreading (hexpired entry hentry)
    · obtain ⟨task, htask, hkey, hopen⟩ := (h.inflight_iff _ j).mp hj
      exact absurd hopen (hdone j task htask hkey)
    · rw [heq]
      exact ⟨rfl, rfl⟩
  · cases hstep

theorem Coherent.goesOn [Add τ] (h : Coherent s) {c j : ℕ} {isLoader : Bool}
    (hc : s.callers[c]? = some (.waiting j isLoader)) :
    ∃ task, s.tasks[j]? = some task ∧ ∀ result, task.phase = .done result →
      ∃ s', s.step (.resume c) = some s' ∧ s'.callers[c]? = some (answer isLoader result) := by
  have hlt := h.waiting c j isLoader hc
  refine ⟨s.tasks[j], List.getElem?_eq_getElem hlt, fun result hdone => ?_⟩
  have htask : s.tasks[j]? = some ⟨s.tasks[j].load, .done result⟩ := by
    rw [List.getElem?_eq_getElem hlt, ← hdone]
  refine ⟨{ s with callers := s.callers.set c (answer isLoader result) }, ?_, ?_⟩
  · simp only [step, hc, htask]
  · exact List.getElem?_set_self (List.getElem?_eq_some_iff.mp hc).1

/-- **A new cache is correct after every schedule.** -/
theorem cacheCorrect [Add τ] {maxEntries : ℤ} {cache : AsyncTTLCache κ α τ}
    (hcreate : AsyncTTLCache.create maxEntries = .ok cache) (now : τ)
    (events : List (CacheEvent κ α τ ε))
    (hrun : (fresh cache now).runEvents events = some s) : CacheCorrect maxEntries s := by
  have hnew : cache.entries = ∅ ∧ cache.inflight = ∅ ∧ (cache.maxEntries : ℤ) = maxEntries := by
    rw [AsyncTTLCache.create] at hcreate
    split at hcreate
    · cases hcreate
    · cases hcreate
      exact ⟨rfl, rfl, Int.toNat_of_nonneg (by omega)⟩
  have h := coherent_runEvents (coherent_fresh cache now hnew.1 hnew.2.1) hrun
  have hmax := maxEntries_runEvents hrun
  constructor
  case oneLoader =>
    intro i j task task' htask htask' hopen hopen' hkeys
    have hi := (h.inflight_iff task.load.key i).mpr ⟨task, htask, rfl, hopen⟩
    have hj := (h.inflight_iff task.load.key j).mpr ⟨task', htask', hkeys.symm, hopen'⟩
    exact Option.some.inj (hi.symm.trans hj)
  case served => exact h.served
  case accepted =>
    intro key entry hentry
    have hlatest := h.latest key entry hentry
    obtain ⟨i, hmem⟩ := mem_of_latestLoad hlatest
    exact ⟨hlatest, i, h.accepted i key _ true hmem⟩
  case size_le =>
    rw [← hnew.2.2]
    exact_mod_cast h.size_le.trans hmax.le
  case gone => exact fun i task result htask hdone => h.not_inflight htask hdone
  case calls => exact fun load reading s' hstep => h.calls hstep
  case loadsAgain => exact fun load reading s' hstep => h.loadsAgain hstep
  case notStored =>
    intro key hlatest
    cases hentry : s.cache.entries.get? key with
    | none => rfl
    | some entry => exact absurd (h.latest key entry hentry) (hlatest entry.loaded)
  case goesOn => exact fun c i isLoader hc => h.goesOn hc

/-- Two callers share a load, another is served its value, and a load of another key fails. -/
def sharedEvents : List (CacheEvent ℕ String ℕ String) :=
  [.call ⟨7, 5, fun _ => .ok true⟩ 0, .start 0, .call ⟨7, 5, fun _ => .ok true⟩ 1,
    .finish 0 (.ok "value") 2, .resume 1, .cancel 0, .call ⟨7, 5, fun _ => .ok true⟩ 6,
    .call ⟨8, 5, fun _ => .ok true⟩ 7, .start 1, .finish 1 (.error "down") 8]

theorem cacheCorrect_shared :
    ∃ s, (fresh ⟨1, le_refl 1, ∅, ∅⟩ 0).runEvents sharedEvents = some s ∧
      CacheCorrect 1 s := by
  obtain ⟨s, hrun⟩ : ∃ s, (fresh ⟨1, le_refl 1, ∅, ∅⟩ 0).runEvents sharedEvents = some s :=
    ⟨_, rfl⟩
  have hcreate : AsyncTTLCache.create 1 =
      .ok (⟨1, le_refl 1, ∅, ∅⟩ : AsyncTTLCache ℕ String ℕ) := rfl
  exact ⟨s, hrun, cacheCorrect hcreate 0 sharedEvents hrun⟩

end TravelPlanAgent
