import TravelPlanAgent.Domain.Tools
import TravelPlanAgent.Tools.CacheSchedules

/-!
# The cache keys of place searches

`search_pois` joins the texts of a query with bars to the key of its result, and the texts may
have bars of their own.  Searches and routes share one cache.

* `CachedGateway`: `ToolGateway` with its keys; `GatewaySchedule.step`: its calls, event by event.
* `poiKey_eq_iff`: two queries with one key are the same search, or a bar is shifted.
* `Attributed`, `attributed_step`: whom a task loads for, and whose result a caller got.
* `ownResults_iff`: results are served for their own queries as long as no bar is shifted.
* `exists_not_ownResults`: a search for "C" in "A|B" is answered with "B|C" in "A".
-/

namespace TravelPlanAgent

/-! ## Separators -/

section Separators

variable {α : Type} {s : α} {x y z w : List α}

/-- Two lists with a separator are equal part by part, or the separator is shifted. -/
theorem append_cons_eq_iff : x ++ s :: z = y ++ s :: w ↔
    x = y ∧ z = w ∨ (∃ t, y = x ++ s :: t ∧ z = t ++ s :: w) ∨
      ∃ t, x = y ++ s :: t ∧ w = t ++ s :: z := by
  rw [List.append_eq_append_iff]
  constructor
  · rintro (⟨t, hy, hz⟩ | ⟨t, hx, hw⟩)
    · cases t with
      | nil =>
        rw [List.nil_append, List.cons.injEq] at hz
        exact .inl ⟨by rw [hy, List.append_nil], hz.2⟩
      | cons a t =>
        rw [List.cons_append, List.cons.injEq] at hz
        exact .inr (.inl ⟨t, by rw [hy, hz.1], hz.2⟩)
    · cases t with
      | nil =>
        rw [List.nil_append, List.cons.injEq] at hw
        exact .inl ⟨by rw [hx, List.append_nil], hw.2.symm⟩
      | cons a t =>
        rw [List.cons_append, List.cons.injEq] at hw
        exact .inr (.inr ⟨t, by rw [hx, hw.1], hw.2⟩)
  · rintro (⟨rfl, rfl⟩ | ⟨t, rfl, rfl⟩ | ⟨t, rfl, rfl⟩)
    · exact .inl ⟨[], by simp⟩
    · exact .inl ⟨s :: t, rfl, rfl⟩
    · exact .inr ⟨s :: t, rfl, rfl⟩

/-- The last separator is where it is. -/
theorem append_cons_inj_of_notMem_right (hz : s ∉ z) (hw : s ∉ w) :
    x ++ s :: z = y ++ s :: w ↔ x = y ∧ z = w := by
  rw [append_cons_eq_iff]
  constructor
  · rintro (h | ⟨t, -, rfl⟩ | ⟨t, -, rfl⟩)
    · exact h
    · exact absurd (by simp) hz
    · exact absurd (by simp) hw
  · exact Or.inl

end Separators

/-! ## The gateway -/

inductive ProviderMode where
  | mock | amap | baidu
  deriving DecidableEq

def ProviderMode.value : ProviderMode → String
  | .mock => "mock"
  | .amap => "amap"
  | .baidu => "baidu"

/-- The `name` of a provider, or of a chain of providers. -/
def providerName (providers : List ProviderMode) : String :=
  "->".intercalate (providers.map ProviderMode.value)

/-- What `_execute` is called for. -/
inductive MapCall where
  | poi (query : POISearchQuery)
  | route (query : RouteQuery)
  deriving DecidableEq

inductive MapData where
  | pois (facts : List POIFacts)
  | route (route : RouteResult)

/-- The settings of `ToolGateway` that its cache depends on. -/
structure CachedGateway where
  poiProvider : List ProviderMode
  routeProvider : List ProviderMode
  poiCacheTtlSeconds : ℕ
  routeCacheTtlSeconds : ℕ
  cacheEnabled : Bool

/-- `str` of a flag. -/
def flagText : Bool → String
  | true => "True"
  | false => "False"

/-- The cache key of a search. -/
def poiKey [Platform] (provider : String) (query : POISearchQuery) : String :=
  provider ++ "|poi|" ++ casefold query.city ++ "|" ++ casefold query.keyword ++ "|" ++
    flagText query.exactMatch ++ "|" ++ toString query.limit

namespace CachedGateway

variable [Platform] (gateway : CachedGateway)

/-- `cache_key`. -/
def key : MapCall → String
  | .poi query => poiKey (providerName gateway.poiProvider) query
  | .route query => providerName gateway.routeProvider ++ "|route|" ++ routeKey query

/-- The arguments of `get_or_load`. -/
def load (call : MapCall) : Load String (ToolResult MapData) ℚ Failure where
  key := gateway.key call
  ttlSeconds :=
    match call with
    | .poi _ => gateway.poiCacheTtlSeconds
    | .route _ => gateway.routeCacheTtlSeconds
  shouldCache := fun
    | .success .. => .ok true
    | .failed .. => .ok false

end CachedGateway

/-- The cache of a gateway with its callers and tasks, and what they ask for. -/
structure GatewaySchedule where
  schedule : CacheSchedule String (ToolResult MapData) ℚ Failure
  /-- What each caller asked for. -/
  asked : List MapCall
  /-- What each task asks its provider. -/
  loading : List MapCall
  /-- The calls of a gateway without cache, with their outcomes. -/
  uncached : List (MapCall × Result (ToolResult MapData))

/-- `_execute` up to its wait, `_execute` without cache, or what happens in the cache later. -/
inductive GatewayEvent where
  | execute (call : MapCall) (reading : ℚ)
  | loadDirectly (call : MapCall) (outcome : Result (ToolResult MapData))
  | continues (event : CacheEvent String (ToolResult MapData) ℚ Failure)

namespace GatewaySchedule

variable [Platform] (gateway : CachedGateway) (s : GatewaySchedule)

/-- One event. -/
def step : GatewayEvent → Option GatewaySchedule
  | .execute call reading =>
    if gateway.cacheEnabled then
      (s.schedule.step (.call (gateway.load call) reading)).map fun next =>
        { s with
          schedule := next
          asked := s.asked ++ [call]
          loading :=
            if s.schedule.tasks.length < next.tasks.length then s.loading ++ [call]
            else s.loading }
    else none
  | .loadDirectly call outcome =>
    if gateway.cacheEnabled then none
    else some { s with uncached := s.uncached ++ [(call, outcome)] }
  | .continues (.call ..) => none
  | .continues event => (s.schedule.step event).map fun next => { s with schedule := next }

/-- A gateway that was not called yet. -/
def fresh (maxEntries : ℕ) (h : 1 ≤ maxEntries) (now : ℚ) : GatewaySchedule :=
  ⟨.fresh ⟨maxEntries, h, ∅, ∅⟩ now, [], [], []⟩

/-- A schedule, event by event. -/
def runEvents (s : GatewaySchedule) : List GatewayEvent → Option GatewaySchedule
  | [] => some s
  | event :: events => (s.step gateway event).bind (runEvents · events)

/-- All calls so far. -/
def issued : List MapCall := s.asked ++ s.uncached.map Prod.fst

end GatewaySchedule

/-! ## Equal keys -/

section Keys

variable [Platform]

/-- Two queries are the same up to case folding. -/
structure SameSearch (query other : POISearchQuery) : Prop where
  city : casefold query.city = casefold other.city
  keyword : casefold query.keyword = casefold other.keyword
  exactMatch : query.exactMatch = other.exactMatch
  limit : query.limit = other.limit

/-- What follows a bar in the city of one query precedes a bar in the keyword of the other. -/
structure Shifted (query other : POISearchQuery) : Prop where
  text : ∃ t, casefold other.city = casefold query.city ++ "|" ++ t ∧
    casefold query.keyword = t ++ "|" ++ casefold other.keyword
  exactMatch : query.exactMatch = other.exactMatch
  limit : query.limit = other.limit

/-- A shifted bar makes a city longer. -/
theorem Shifted.not_sameSearch {query other : POISearchQuery} (h : Shifted query other) :
    ¬ SameSearch query other := by
  intro hsame
  obtain ⟨t, hcity, -⟩ := h.text
  have hlength := congrArg (fun text => text.toList.length) hcity
  rw [← hsame.city] at hlength
  simp at hlength

omit [Platform] in
theorem flagText_injective : Function.Injective flagText := by
  intro a b h
  cases a <;> cases b <;> first | rfl | exact absurd h (by decide)

omit [Platform] in
theorem bar_notMem_flagText (b : Bool) : '|' ∉ (flagText b).toList := by
  cases b <;> decide

omit [Platform] in
theorem bar_notMem_toString (n : ℕ) : '|' ∉ (toString n).toList := by
  intro h
  rw [Nat.toString_eq_repr, Nat.toList_repr] at h
  exact absurd (Nat.isDigit_of_mem_toDigits (by decide) (by decide) h) (by decide)

/-- The characters of a key, with its last separators in sight. -/
theorem toList_poiKey (provider : String) (query : POISearchQuery) :
    (poiKey provider query).toList =
      (provider ++ "|poi|").toList ++
        ((((casefold query.city).toList ++ '|' :: (casefold query.keyword).toList) ++
          '|' :: (flagText query.exactMatch).toList) ++ '|' :: (toString query.limit).toList) := by
  simp [poiKey, List.append_assoc]

/-- **Two queries have one key when they are the same search, or when a bar is shifted.** -/
theorem poiKey_eq_iff {provider : String} {query other : POISearchQuery} :
    poiKey provider query = poiKey provider other ↔
      SameSearch query other ∨ Shifted query other ∨ Shifted other query := by
  have hshift (a b c d : String) :
      (∃ t, casefold b = casefold a ++ "|" ++ t ∧ casefold c = t ++ "|" ++ casefold d) ↔
        ∃ t, (casefold b).toList = (casefold a).toList ++ '|' :: t ∧
          (casefold c).toList = t ++ '|' :: (casefold d).toList := by
    constructor
    · rintro ⟨t, hb, hc⟩
      exact ⟨t.toList, by simp [hb], by simp [hc]⟩
    · rintro ⟨t, hb, hc⟩
      refine ⟨String.ofList t, String.toList_inj.mp ?_, String.toList_inj.mp ?_⟩
      · simp [hb]
      · simp [hc]
  rw [← String.toList_inj, toList_poiKey, toList_poiKey, List.append_cancel_left_eq,
    append_cons_inj_of_notMem_right (bar_notMem_toString _) (bar_notMem_toString _),
    append_cons_inj_of_notMem_right (bar_notMem_flagText _) (bar_notMem_flagText _),
    append_cons_eq_iff]
  simp only [String.toList_inj, flagText_injective.eq_iff, toString_nat_injective.eq_iff]
  constructor
  · rintro ⟨⟨⟨hcity, hkeyword⟩ | hright | ⟨t, hcity, hkeyword⟩, hexact⟩, hlimit⟩
    · exact .inl ⟨hcity, hkeyword, hexact, hlimit⟩
    · exact .inr (.inl ⟨(hshift _ _ _ _).mpr hright, hexact, hlimit⟩)
    · exact .inr (.inr ⟨(hshift _ _ _ _).mpr ⟨t, hcity, hkeyword⟩, hexact.symm, hlimit.symm⟩)
  · rintro (hsame | hshifted | hshifted)
    · exact ⟨⟨.inl ⟨hsame.city, hsame.keyword⟩, hsame.exactMatch⟩, hsame.limit⟩
    · exact ⟨⟨.inr (.inl ((hshift _ _ _ _).mp hshifted.text)), hshifted.exactMatch⟩,
        hshifted.limit⟩
    · exact ⟨⟨.inr (.inr ((hshift _ _ _ _).mp hshifted.text)), hshifted.exactMatch.symm⟩,
        hshifted.limit.symm⟩

end Keys

/-! ## What callers get -/

section Callers

variable {κ α τ ε : Type}

/-- A value was loaded under a key. -/
def LoadedFor (s : CacheSchedule κ α τ ε) (key : κ) (lookup : CacheLookup α τ) : Prop :=
  ∃ (i : ℕ) (task : LoadTask κ α τ ε) (found : CacheLookup α τ) (cached : Bool),
    s.tasks[i]? = some task ∧ task.load.key = key ∧ task.phase = .done (.ok (found, cached)) ∧
      found.value = lookup.value

/-- Tasks keep what they load, and their results. -/
def TasksGrow (tasks tasks' : List (LoadTask κ α τ ε)) : Prop :=
  ∀ (i : ℕ) (task : LoadTask κ α τ ε), tasks[i]? = some task →
    ∃ task' : LoadTask κ α τ ε, tasks'[i]? = some task' ∧ task'.load = task.load ∧
      ∀ result, task.phase = .done result → task'.phase = .done result

/-- Callers wait for tasks of their keys, and get what was loaded under their keys. -/
structure KeyedCallers [DecidableEq κ] [LinearOrder τ] (keys : List κ)
    (s : CacheSchedule κ α τ ε) : Prop where
  coherent : Coherent s
  length : keys.length = s.callers.length
  waiting : ∀ (c i : ℕ) isLoader key task, keys[c]? = some key →
    s.callers[c]? = some (.waiting i isLoader) → s.tasks[i]? = some task → task.load.key = key
  returned : ∀ (c : ℕ) key lookup, keys[c]? = some key →
    s.callers[c]? = some (.returned lookup) → LoadedFor s key lookup

theorem TasksGrow.refl (tasks : List (LoadTask κ α τ ε)) : TasksGrow tasks tasks :=
  fun _ task htask => ⟨task, htask, rfl, fun _ h => h⟩

theorem TasksGrow.append (tasks : List (LoadTask κ α τ ε)) (task : LoadTask κ α τ ε) :
    TasksGrow tasks (tasks ++ [task]) := by
  intro i old hold
  have hlt := (List.getElem?_eq_some_iff.mp hold).1
  exact ⟨old, (List.getElem?_append_left hlt).trans hold, rfl, fun _ h => h⟩

/-- A task that is not done may go on. -/
theorem TasksGrow.set {tasks : List (LoadTask κ α τ ε)} {i : ℕ} {old new : LoadTask κ α τ ε}
    (hold : tasks[i]? = some old) (hload : new.load = old.load) (hopen : old.Open) :
    TasksGrow tasks (tasks.set i new) := by
  intro j task htask
  by_cases heq : i = j
  · subst heq
    rw [hold, Option.some.injEq] at htask
    subst htask
    have hlt := (List.getElem?_eq_some_iff.mp hold).1
    exact ⟨new, List.getElem?_set_self hlt, hload, fun result h => absurd h (hopen result)⟩
  · exact ⟨task, (List.getElem?_set_ne heq).trans htask, rfl, fun _ h => h⟩

theorem LoadedFor.mono {s s' : CacheSchedule κ α τ ε} {key : κ} {lookup : CacheLookup α τ}
    (h : LoadedFor s key lookup) (hgrow : TasksGrow s.tasks s'.tasks) :
    LoadedFor s' key lookup := by
  obtain ⟨i, task, found, cached, htask, hkey, hdone, hvalue⟩ := h
  obtain ⟨task', htask', hload, hphase⟩ := hgrow i task htask
  exact ⟨i, task', found, cached, htask', hload ▸ hkey, hphase _ hdone, hvalue⟩

variable [DecidableEq κ] [LinearOrder τ] {keys : List κ} {s s' : CacheSchedule κ α τ ε}

/-- A stored value was loaded under its key. -/
theorem loadedFor_of_entry (h : Coherent s) {key : κ} {entry : CacheEntry α τ}
    (hentry : s.cache.entries.get? key = some entry) : LoadedFor s key entry.lookup := by
  obtain ⟨i, hmem⟩ := mem_of_latestLoad (h.latest key entry hentry)
  obtain ⟨task, htask, hkey, hdone, -⟩ := h.accepted i key _ true hmem
  exact ⟨i, task, entry.loaded, true, htask, hkey, hdone, rfl⟩

/-- Tasks may go on. -/
theorem KeyedCallers.grow (h : KeyedCallers keys s) (hcoherent : Coherent s')
    (hcallers : s'.callers = s.callers) (hgrow : TasksGrow s.tasks s'.tasks) :
    KeyedCallers keys s' where
  coherent := hcoherent
  length := hcallers ▸ h.length
  waiting c i isLoader key task hkey hcaller htask := by
    rw [hcallers] at hcaller
    have hlt := h.coherent.waiting c i isLoader hcaller
    obtain ⟨task', htask', hload, -⟩ := hgrow i _ (List.getElem?_eq_getElem hlt)
    rw [htask, Option.some.injEq] at htask'
    rw [htask', hload]
    exact h.waiting c i isLoader key _ hkey hcaller (List.getElem?_eq_getElem hlt)
  returned c key lookup hkey hcaller :=
    (h.returned c key lookup hkey (hcallers ▸ hcaller)).mono hgrow

/-- A caller may come. -/
theorem KeyedCallers.add (h : KeyedCallers keys s) {key : κ} {caller : CacheCaller α τ ε}
    (hcoherent : Coherent s') (hcallers : s'.callers = s.callers ++ [caller])
    (hgrow : TasksGrow s.tasks s'.tasks)
    (hwaiting : ∀ i isLoader task, caller = .waiting i isLoader → s'.tasks[i]? = some task →
      task.load.key = key)
    (hreturned : ∀ lookup, caller = .returned lookup → LoadedFor s' key lookup) :
    KeyedCallers (keys ++ [key]) s' := by
  -- the new caller is the last one, the others are as before
  have hcases {c : ℕ} {other : κ} {found : CacheCaller α τ ε}
      (hkey : (keys ++ [key])[c]? = some other) (hcaller : s'.callers[c]? = some found) :
      keys[c]? = some other ∧ s.callers[c]? = some found ∨ other = key ∧ found = caller := by
    rw [hcallers] at hcaller
    rcases lt_or_ge c keys.length with hlt | hge
    · rw [List.getElem?_append_left hlt] at hkey
      rw [List.getElem?_append_left (h.length ▸ hlt)] at hcaller
      exact .inl ⟨hkey, hcaller⟩
    · rw [List.getElem?_append_right hge, List.getElem?_singleton] at hkey
      rw [List.getElem?_append_right (h.length ▸ hge), List.getElem?_singleton] at hcaller
      split at hkey
      · split at hcaller
        · cases hkey
          cases hcaller
          exact .inr ⟨rfl, rfl⟩
        · cases hcaller
      · cases hkey
  constructor
  case coherent => exact hcoherent
  case length => rw [hcallers, List.length_append, List.length_append, h.length]; rfl
  case waiting =>
    intro c i isLoader other task hkey hcaller htask
    obtain ⟨hold, hcaller⟩ | ⟨rfl, hnew⟩ := hcases hkey hcaller
    · have hlt := h.coherent.waiting c i isLoader hcaller
      obtain ⟨task', htask', hload, -⟩ := hgrow i _ (List.getElem?_eq_getElem hlt)
      rw [htask, Option.some.injEq] at htask'
      rw [htask', hload]
      exact h.waiting c i isLoader other _ hold hcaller (List.getElem?_eq_getElem hlt)
    · exact hwaiting i isLoader task hnew.symm htask
  case returned =>
    intro c other lookup hkey hcaller
    obtain ⟨hold, hcaller⟩ | ⟨rfl, hnew⟩ := hcases hkey hcaller
    · exact (h.returned c other lookup hold hcaller).mono hgrow
    · exact hreturned lookup hnew.symm

/-- A caller may stop waiting. -/
theorem KeyedCallers.settle (h : KeyedCallers keys s) {c : ℕ} {caller : CacheCaller α τ ε}
    (hcoherent : Coherent s') (hcallers : s'.callers = s.callers.set c caller)
    (htasks : s'.tasks = s.tasks) (hwaiting : ∀ i isLoader, caller ≠ .waiting i isLoader)
    (hreturned : ∀ lookup key, caller = .returned lookup → keys[c]? = some key →
      LoadedFor s key lookup) : KeyedCallers keys s' := by
  have hgrow : TasksGrow s.tasks s'.tasks := htasks ▸ .refl _
  constructor
  case coherent => exact hcoherent
  case length => rw [hcallers, List.length_set, h.length]
  case waiting =>
    intro d i isLoader key task hkey hcaller htask
    rw [hcallers, List.getElem?_set] at hcaller
    split at hcaller
    · split at hcaller
      · exact absurd (Option.some.inj hcaller) (hwaiting i isLoader)
      · cases hcaller
    · exact h.waiting d i isLoader key task hkey hcaller (htasks ▸ htask)
  case returned =>
    intro d key lookup hkey hcaller
    rw [hcallers, List.getElem?_set] at hcaller
    split at hcaller
    · next heq =>
      split at hcaller
      · exact (hreturned lookup key (Option.some.inj hcaller) (heq ▸ hkey)).mono hgrow
      · cases hcaller
    · exact (h.returned d key lookup hkey hcaller).mono hgrow

/-- A call is one more caller of its key. -/
theorem keyedCallers_getOrLoad (h : KeyedCallers keys s) (load : Load κ α τ ε) (reading : τ) :
    KeyedCallers (keys ++ [load.key]) (s.getOrLoad load reading) := by
  have hcoherent := coherent_getOrLoad h.coherent load reading
  obtain ⟨entry, hentry, -, heq⟩ | ⟨entries, -, -, -, ⟨i, hi, heq⟩ | ⟨-, heq⟩⟩ :=
    getOrLoad_cases s load reading
  all_goals rw [heq] at hcoherent ⊢
  · refine h.add hcoherent rfl (.refl _) (fun i isLoader task hwait => ?_) fun lookup hlookup => ?_
    · cases hwait
    · cases hlookup
      exact loadedFor_of_entry h.coherent hentry
  · refine h.add hcoherent rfl (.refl _) (fun j isLoader task hwait htask => ?_)
      fun lookup hlookup => ?_
    · cases hwait
      obtain ⟨task', htask', hkey, -⟩ := (h.coherent.inflight_iff load.key i).mp hi
      exact Option.some.inj (htask.symm.trans htask') ▸ hkey
    · cases hlookup
  · refine h.add hcoherent rfl (.append _ _) (fun j isLoader task hwait htask => ?_)
      fun lookup hlookup => ?_
    · cases hwait
      rw [List.getElem?_concat_length, Option.some.injEq] at htask
      rw [← htask]
    · cases hlookup

/-- What happens between calls keeps the callers at their keys, and no task is added. -/
theorem keyedCallers_step [Add τ] (h : KeyedCallers keys s) {event : CacheEvent κ α τ ε}
    (hevent : ∀ load reading, event ≠ .call load reading) (hstep : s.step event = some s') :
    KeyedCallers keys s' := by
  have hcoherent := coherent_step h.coherent hstep
  cases event with
  | call load reading => exact absurd rfl (hevent load reading)
  | start task =>
    rw [CacheSchedule.step] at hstep
    split at hstep
    · next hold =>
      cases hstep
      exact h.grow hcoherent rfl (.set hold rfl fun result hdone => by cases hdone)
    · cases hstep
  | finish task outcome reading =>
    rw [CacheSchedule.step] at hstep
    split at hstep
    · next hold =>
      split at hstep
      · cases hstep
        exact h.grow hcoherent rfl (.set hold rfl fun result hdone => by cases hdone)
      · cases hstep
    · cases hstep
  | resume caller =>
    rw [CacheSchedule.step] at hstep
    split at hstep
    · next i isLoader hcaller =>
      split at hstep
      · next load result htask =>
        cases hstep
        refine h.settle hcoherent rfl rfl (answer_ne_waiting _ _) fun lookup key hlookup hkey => ?_
        have hload := h.waiting caller i isLoader key _ hkey hcaller htask
        unfold answer at hlookup
        split at hlookup
        · cases hlookup
        · next found cached =>
          refine ⟨i, _, found, cached, htask, hload, rfl, ?_⟩
          split at hlookup <;> cases hlookup <;> rfl
      · cases hstep
    · cases hstep
  | cancel caller =>
    rw [CacheSchedule.step] at hstep
    split at hstep
    · cases hstep
      exact h.settle hcoherent rfl rfl (fun i isLoader h => by cases h)
        fun lookup key hlookup => by cases hlookup
    · cases hstep

end Callers

/-! ## Runs of a gateway -/

section Runs

variable [Platform] {gateway : CachedGateway} {s s' : GatewaySchedule}

omit [Platform] in
theorem bar_notMem_providerName (providers : List ProviderMode) :
    '|' ∉ (providerName providers).toList := by
  have hvalue : ∀ mode : ProviderMode, '|' ∉ mode.value.toList := by
    intro mode
    cases mode <;> decide
  induction providers with
  | nil => simp [providerName]
  | cons mode rest ih =>
    cases rest with
    | nil => simpa [providerName] using hvalue mode
    | cons next rest => 
      simp [providerName, hvalue] at ih ⊢
      exact ih

/-- A search and a route never share a key. -/
theorem poiKey_ne_routeKey (query : POISearchQuery) (route : RouteQuery) :
    gateway.key (.poi query) ≠ gateway.key (.route route) := by
  intro h
  have hchars := congrArg String.toList h
  have hpoi (rest : List Char) :
      "|poi|".toList ++ rest = '|' :: 'p' :: ("oi|".toList ++ rest) := rfl
  have hroute (rest : List Char) :
      "|route|".toList ++ rest = '|' :: 'r' :: ("oute|".toList ++ rest) := rfl
  simp only [CachedGateway.key, poiKey, String.toList_append, List.append_assoc, hpoi,
    hroute] at hchars
  rcases append_cons_eq_iff.mp hchars with ⟨-, htail⟩ | ⟨t, hname, -⟩ | ⟨t, hname, -⟩
  · exact absurd (List.cons.inj htail).1 (by decide)
  · exact bar_notMem_providerName gateway.routeProvider (by rw [hname]; simp)
  · exact bar_notMem_providerName gateway.poiProvider (by rw [hname]; simp)

/-- The callers are at their keys, and every task loads what one of them asked for. -/
structure Attributed (gateway : CachedGateway) (s : GatewaySchedule) : Prop where
  keyed : KeyedCallers (s.asked.map gateway.key) s.schedule
  loading : s.schedule.tasks.map LoadTask.load = s.loading.map gateway.load
  asked : ∀ call ∈ s.loading, call ∈ s.asked

omit [Platform] in
/-- Only calls add loads. -/
theorem map_load_step {κ α τ ε : Type} [DecidableEq κ] [LinearOrder τ] [Add τ]
    {s s' : CacheSchedule κ α τ ε} {event : CacheEvent κ α τ ε}
    (hevent : ∀ load reading, event ≠ .call load reading) (hstep : s.step event = some s') :
    s'.tasks.map LoadTask.load = s.tasks.map LoadTask.load := by
  have hset (i : ℕ) (load : Load κ α τ ε) (old new : LoadPhase α τ ε)
      (hold : s.tasks[i]? = some ⟨load, old⟩) :
      (s.tasks.set i ⟨load, new⟩).map LoadTask.load = s.tasks.map LoadTask.load := by
    ext j
    rw [List.getElem?_map, List.getElem?_map, List.getElem?_set]
    split
    · next heq =>
      subst heq
      rw [if_pos (List.getElem?_eq_some_iff.mp hold).1, hold]
      rfl
    · rfl
  cases event with
  | call load reading => exact absurd rfl (hevent load reading)
  | start task =>
    rw [CacheSchedule.step] at hstep
    split at hstep
    · next hold =>
      cases hstep
      exact hset task _ _ _ hold
    · cases hstep
  | finish task outcome reading =>
    rw [CacheSchedule.step] at hstep
    split at hstep
    · next hold =>
      split at hstep
      · cases hstep
        exact hset task _ _ _ hold
      · cases hstep
    · cases hstep
  | resume caller =>
    rw [CacheSchedule.step] at hstep
    split at hstep
    · split at hstep <;> cases hstep
      rfl
    · cases hstep
  | cancel caller =>
    rw [CacheSchedule.step] at hstep
    split at hstep <;> cases hstep
    rfl

theorem attributed_step (h : Attributed gateway s) {event : GatewayEvent}
    (hstep : s.step gateway event = some s') : Attributed gateway s' := by
  cases event with
  | execute call reading =>
    rw [GatewaySchedule.step] at hstep
    split at hstep
    · rw [Option.map_eq_some_iff] at hstep
      obtain ⟨next, hnext, rfl⟩ := hstep
      rw [CacheSchedule.step] at hnext
      split at hnext
      · cases hnext
        have hkeyed := keyedCallers_getOrLoad h.keyed (gateway.load call) reading
        refine ⟨by rw [List.map_append]; exact hkeyed, ?_, ?_⟩
        · dsimp only
          obtain ⟨entry, -, -, heq⟩ | ⟨entries, -, -, -, ⟨i, -, heq⟩ | ⟨-, heq⟩⟩ :=
            getOrLoad_cases s.schedule (gateway.load call) reading
          · rw [heq, if_neg (lt_irrefl _)]
            exact h.loading
          · rw [heq, if_neg (lt_irrefl _)]
            exact h.loading
          · rw [heq, if_pos (by simp), List.map_append, List.map_append, h.loading]
            rfl
        · dsimp only
          intro loaded hloaded
          rw [List.mem_append, List.mem_singleton]
          split at hloaded
          · rw [List.mem_append, List.mem_singleton] at hloaded
            exact hloaded.imp_left (h.asked loaded)
          · exact .inl (h.asked loaded hloaded)
      · cases hnext
    · cases hstep
  | loadDirectly call outcome =>
    rw [GatewaySchedule.step] at hstep
    split at hstep
    · cases hstep
    · cases hstep
      exact ⟨h.keyed, h.loading, h.asked⟩
  | continues event =>
    have hinner : ∀ load reading, event ≠ .call load reading := by
      rintro load reading rfl
      cases hstep
    obtain ⟨next, hnext, rfl⟩ : ∃ next, s.schedule.step event = some next ∧
        { s with schedule := next } = s' := by
      cases event with
      | call load reading => exact absurd rfl (hinner load reading)
      | start | finish | resume | cancel => exact Option.map_eq_some_iff.mp hstep
    exact ⟨keyedCallers_step h.keyed hinner hnext,
      (map_load_step hinner hnext).trans h.loading, h.asked⟩

theorem attributed_runEvents (h : Attributed gateway s) {events : List GatewayEvent}
    (hrun : s.runEvents gateway events = some s') : Attributed gateway s' := by
  induction events generalizing s with
  | nil =>
    rw [GatewaySchedule.runEvents, Option.some.injEq] at hrun
    exact hrun ▸ h
  | cons event events ih =>
    rw [GatewaySchedule.runEvents, Option.bind_eq_some_iff] at hrun
    obtain ⟨next, hstep, hrest⟩ := hrun
    exact ih (attributed_step h hstep) hrest

theorem attributed_fresh (maxEntries : ℕ) (hmax : 1 ≤ maxEntries) (now : ℚ) :
    Attributed gateway (.fresh maxEntries hmax now) where
  keyed :=
    { coherent := coherent_fresh _ now rfl rfl
      length := rfl
      waiting := fun c i isLoader key task hkey => by simp [GatewaySchedule.fresh] at hkey
      returned := fun c key lookup hkey => by simp [GatewaySchedule.fresh] at hkey }
  loading := rfl
  asked call hcall := absurd hcall List.not_mem_nil

/-! ## Results for their own queries -/

variable (gateway) in
/-- Equal keys are for equal searches, and what a search got was loaded for the same search. -/
structure OwnResults (s : GatewaySchedule) : Prop where
  keys : ∀ query other, .poi query ∈ s.issued → .poi other ∈ s.issued →
    gateway.key (.poi query) = gateway.key (.poi other) → SameSearch query other
  served : ∀ (c : ℕ) query lookup, s.asked[c]? = some (.poi query) →
    s.schedule.callers[c]? = some (.returned lookup) →
      ∃ (i : ℕ) (loaded : POISearchQuery) (load : Load String (ToolResult MapData) ℚ Failure)
          (found : CacheLookup (ToolResult MapData) ℚ) (cached : Bool),
        s.loading[i]? = some (.poi loaded) ∧
          s.schedule.tasks[i]? = some ⟨load, .done (.ok (found, cached))⟩ ∧
            found.value = lookup.value ∧ SameSearch loaded query

/-- **Results are served for their own queries exactly while no bar is shifted.** -/
theorem ownResults_iff {maxEntries : ℕ} {hmax : 1 ≤ maxEntries} {now : ℚ}
    {events : List GatewayEvent}
    (hrun : (GatewaySchedule.fresh maxEntries hmax now).runEvents gateway events = some s) :
    OwnResults gateway s ↔ ∀ query other, .poi query ∈ s.issued → .poi other ∈ s.issued →
      ¬ Shifted query other := by
  have h := attributed_runEvents (attributed_fresh maxEntries hmax now) hrun
  constructor
  · intro hown query other hquery hother hshifted
    have hsame := hown.keys query other hquery hother
      (poiKey_eq_iff.mpr (.inr (.inl hshifted)))
    exact hshifted.not_sameSearch hsame
  · intro hapart
    have hkeys : ∀ query other, .poi query ∈ s.issued → .poi other ∈ s.issued →
        gateway.key (.poi query) = gateway.key (.poi other) → SameSearch query other := by
      intro query other hquery hother heq
      obtain hsame | hshifted | hshifted := poiKey_eq_iff.mp heq
      · exact hsame
      · exact absurd hshifted (hapart query other hquery hother)
      · exact absurd hshifted (hapart other query hother hquery)
    refine ⟨hkeys, fun c query lookup hasked hcaller => ?_⟩
    have hkey : (s.asked.map gateway.key)[c]? = some (gateway.key (.poi query)) := by
      rw [List.getElem?_map, hasked]
      rfl
    obtain ⟨i, ⟨load, phase⟩, found, cached, htask, hload, hdone, hvalue⟩ :=
      h.keyed.returned c _ lookup hkey hcaller
    obtain ⟨call, hcall, hof⟩ : ∃ call, s.loading[i]? = some call ∧ gateway.load call = load := by
      have hmap := congrArg (·[i]?) h.loading
      simp only [List.getElem?_map, htask, Option.map_some] at hmap
      exact Option.map_eq_some_iff.mp hmap.symm
    subst hdone hof
    have hissued := List.mem_append_left (s.uncached.map Prod.fst)
      (h.asked call (List.mem_of_getElem? hcall))
    have hissued' := List.mem_append_left (s.uncached.map Prod.fst) (List.mem_of_getElem? hasked)
    cases call with
    | poi loaded =>
      exact ⟨i, loaded, _, found, cached, hcall, htask, hvalue,
        hkeys loaded query hissued hissued' hload⟩
    | route route => exact absurd hload.symm (poiKey_ne_routeKey query route)

end Runs

/-! ## Two searches -/

namespace Sample

def mapGateway : CachedGateway := ⟨[.amap, .baidu], [.amap, .baidu], 86400, 1800, true⟩

/-- One search finds nothing, and another comes after it. -/
def searchesInTurn (query other : POISearchQuery) : List GatewayEvent :=
  [.execute (.poi query) 0, .continues (.start 0),
    .continues (.finish 0 (.ok (.success (.pois []) none none)) 1), .continues (.resume 0),
    .execute (.poi other) 2]

def barInCity : POISearchQuery := ⟨"A|B", "C", false, 10, 0⟩

def barInKeyword : POISearchQuery := ⟨"A", "B|C", false, 10, 0⟩

def isReturned {α τ ε : Type} : CacheCaller α τ ε → Bool
  | .returned _ => true
  | _ => false

/-- Two such calls and one load, and the second caller has its result. -/
def SecondServed [Platform] (query other : POISearchQuery) (s : GatewaySchedule) : Bool :=
  s.asked = [.poi query, .poi other] && s.uncached.isEmpty && s.loading = [.poi query] &&
    s.schedule.callers[1]?.any isReturned

/-- The run of two searches in turn, when the second is served what the first has found. -/
theorem exists_secondServed [Platform] {query other : POISearchQuery}
    (h : ((GatewaySchedule.fresh 8 (by decide) 0).runEvents mapGateway
      (searchesInTurn query other)).any (SecondServed query other) = true) :
    ∃ s, (GatewaySchedule.fresh 8 (by decide) 0).runEvents mapGateway
        (searchesInTurn query other) = some s ∧
      s.asked = [.poi query, .poi other] ∧ s.uncached = [] ∧ s.loading = [.poi query] ∧
        ∃ lookup, s.schedule.callers[1]? = some (.returned lookup) := by
  obtain ⟨s, hrun, hserved⟩ := (Option.any_eq_true _ _).mp h
  simp only [SecondServed, Bool.and_eq_true, decide_eq_true_eq, List.isEmpty_iff] at hserved
  obtain ⟨⟨⟨hasked, huncached⟩, hloading⟩, hreturned⟩ := hserved
  obtain ⟨caller, hcaller, hreturned⟩ := (Option.any_eq_true _ _).mp hreturned
  cases caller with
  | returned lookup => exact ⟨s, hrun, hasked, huncached, hloading, lookup, hcaller⟩
  | waiting | raised | cancelled => cases hreturned

end Sample

/-- A search is answered again from the cache. -/
theorem ownResults_iff_repeated :
    let := plainPlatform
    ∃ s, (GatewaySchedule.fresh 8 (by decide) 0).runEvents Sample.mapGateway
        (Sample.searchesInTurn Sample.barInCity Sample.barInCity) = some s ∧
      OwnResults Sample.mapGateway s := by
  intro platform
  obtain ⟨s, hrun, hasked, huncached, -⟩ :=
    @Sample.exists_secondServed platform Sample.barInCity Sample.barInCity (by decide +kernel)
  refine ⟨s, hrun, (ownResults_iff hrun).mpr fun query other hquery hother hshifted => ?_⟩
  have hone : ∀ q, MapCall.poi q ∈ s.issued → q = Sample.barInCity := by
    intro q hq
    simpa [GatewaySchedule.issued, hasked, huncached] using hq
  rw [hone query hquery, hone other hother] at hshifted
  exact hshifted.not_sameSearch ⟨rfl, rfl, rfl, rfl⟩

/-- A search for "B|C" in "A" gets what was found for "C" in "A|B". -/
theorem exists_not_ownResults :
    let := plainPlatform
    ∃ s, (GatewaySchedule.fresh 8 (by decide) 0).runEvents Sample.mapGateway
        (Sample.searchesInTurn Sample.barInCity Sample.barInKeyword) = some s ∧
      ¬ OwnResults Sample.mapGateway s := by
  intro platform
  obtain ⟨s, hrun, hasked, -, hloading, lookup, hlookup⟩ :=
    @Sample.exists_secondServed platform Sample.barInCity Sample.barInKeyword
      (by decide +kernel)
  refine ⟨s, hrun, fun hown => ?_⟩
  obtain ⟨i, loaded, load, found, cached, hload, -, -, hsame⟩ :=
    hown.served 1 Sample.barInKeyword lookup (by rw [hasked]; rfl) hlookup
  -- the only task asked for the first search
  have hmem := List.mem_of_getElem? hload
  rw [hloading, List.mem_singleton, MapCall.poi.injEq] at hmem
  rw [hmem] at hsame
  exact absurd hsame.keyword (by decide)

end TravelPlanAgent
