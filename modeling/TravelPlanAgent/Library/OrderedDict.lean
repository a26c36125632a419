import Mathlib.Data.List.Nodup
import Mathlib.Data.List.Induction
import Mathlib.Data.List.Perm.Basic

/-!
# Insertion-ordered dictionaries

A dictionary is a list of key-value pairs with pairwise distinct keys, in the order in which
the keys were first set.  Overwriting a key keeps its place; a new key goes to the end.

* `Dict.get?`, `Dict.set`, `Dict.erase`, `Dict.filterKeys`, `Dict.ofList`: the operations.
* `Dict.mapTo`: other values under the same keys; `mapTo_set`, `mapTo_erase`: it commutes.
* `get?_set`: reading after writing, at the written key and at every other key.
* `keys_set_of_mem`, `keys_set_of_not_mem`: what a write does to the key list.
* `mem_entries_iff`: membership is lookup.
* `get?_ofList`: building from a list of pairs, the last pair of a key wins.
* `Numbered`: the keys are the names of `1, …, n`; kept by overwriting and by the next name.
-/

universe u v

/-- A finite map that remembers the order in which its keys were first set. -/
structure Dict (κ : Type u) (ν : Type v) where
  entries : List (κ × ν)
  nodup : (entries.map Prod.fst).Nodup

namespace Dict

variable {κ : Type u} {ν : Type v} [DecidableEq κ]

instance [DecidableEq ν] : DecidableEq (Dict κ ν) := fun a b =>
  decidable_of_iff (a.entries = b.entries)
    ⟨fun h => by cases a; cases b; simp_all, fun h => by rw [h]⟩

/-- The empty dictionary. -/
def empty : Dict κ ν := ⟨[], List.nodup_nil⟩

instance : EmptyCollection (Dict κ ν) := ⟨empty⟩
instance : Inhabited (Dict κ ν) := ⟨empty⟩

/-- The keys, oldest first. -/
def keys (d : Dict κ ν) : List κ := d.entries.map Prod.fst

/-- The values, in the order of their keys. -/
def values (d : Dict κ ν) : List ν := d.entries.map Prod.snd

/-- The number of keys. -/
def size (d : Dict κ ν) : ℕ := d.entries.length

/-! ## Association lists -/

/-- The value of the first pair with key `k`. -/
def lookupIn (k : κ) : List (κ × ν) → Option ν
  | [] => none
  | (k', v) :: rest => if k' = k then some v else lookupIn k rest

/-- Overwrite the value of `k` in place, or append a new pair. -/
def setIn (k : κ) (v : ν) : List (κ × ν) → List (κ × ν)
  | [] => [(k, v)]
  | (k', v') :: rest => if k' = k then (k, v) :: rest else (k', v') :: setIn k v rest

theorem lookupIn_eq_none_iff {k : κ} {l : List (κ × ν)} :
    lookupIn k l = none ↔ k ∉ l.map Prod.fst := by
  induction l with
  | nil => simp [lookupIn]
  | cons p l ih =>
    obtain ⟨k', v⟩ := p
    by_cases h : k' = k
    · simp [lookupIn, h]
    · simp [lookupIn, h, ih, Ne.symm h]

theorem lookupIn_setIn_self (k : κ) (v : ν) (l : List (κ × ν)) :
    lookupIn k (setIn k v l) = some v := by
  induction l with
  | nil => simp [lookupIn, setIn]
  | cons p l ih =>
    obtain ⟨k', v'⟩ := p
    by_cases h : k' = k
    · simp [lookupIn, setIn, h]
    · simp [lookupIn, setIn, h, ih]

theorem lookupIn_setIn_of_ne {k k₀ : κ} (h : k₀ ≠ k) (v : ν) (l : List (κ × ν)) :
    lookupIn k₀ (setIn k v l) = lookupIn k₀ l := by
  induction l with
  | nil => simp [lookupIn, setIn, Ne.symm h]
  | cons p l ih =>
    obtain ⟨k', v'⟩ := p
    by_cases h' : k' = k
    · subst h'
      simp [lookupIn, setIn, Ne.symm h]
    · rw [setIn, if_neg h', lookupIn, lookupIn, ih]

theorem map_fst_setIn_of_mem {k : κ} {l : List (κ × ν)} (h : k ∈ l.map Prod.fst) (v : ν) :
    (setIn k v l).map Prod.fst = l.map Prod.fst := by
  induction l with
  | nil => simp at h
  | cons p l ih =>
    obtain ⟨k', v'⟩ := p
    by_cases h' : k' = k
    · simp [setIn, h']
    · have hl : k ∈ l.map Prod.fst := by
        rw [List.map_cons, List.mem_cons] at h
        exact h.resolve_left fun hk => h' hk.symm
      simp only [setIn, h', ↓reduceIte, List.map_cons, ih hl]

theorem map_fst_setIn_of_not_mem {k : κ} {l : List (κ × ν)} (h : k ∉ l.map Prod.fst) (v : ν) :
    (setIn k v l).map Prod.fst = l.map Prod.fst ++ [k] := by
  induction l with
  | nil => rfl
  | cons p l ih =>
    obtain ⟨k', v'⟩ := p
    rw [List.map_cons, List.mem_cons, not_or] at h
    simp only [setIn, Ne.symm h.1, ↓reduceIte, List.map_cons, ih h.2, List.cons_append]

theorem nodup_setIn {l : List (κ × ν)} (h : (l.map Prod.fst).Nodup) (k : κ) (v : ν) :
    ((setIn k v l).map Prod.fst).Nodup := by
  by_cases hk : k ∈ l.map Prod.fst
  · rwa [map_fst_setIn_of_mem hk]
  · rw [map_fst_setIn_of_not_mem hk, ← List.concat_eq_append]
    exact h.concat hk

theorem setIn_of_not_mem {k : κ} {l : List (κ × ν)} (h : k ∉ l.map Prod.fst) (v : ν) :
    setIn k v l = l ++ [(k, v)] := by
  induction l with
  | nil => rfl
  | cons p l ih =>
    obtain ⟨k', v'⟩ := p
    rw [List.map_cons, List.mem_cons, not_or] at h
    simp only [setIn, Ne.symm h.1, ↓reduceIte, ih h.2, List.cons_append]

theorem mem_iff_lookupIn {l : List (κ × ν)} (h : (l.map Prod.fst).Nodup) {k : κ} {v : ν} :
    (k, v) ∈ l ↔ lookupIn k l = some v := by
  induction l with
  | nil => simp [lookupIn]
  | cons p l ih =>
    obtain ⟨k', v'⟩ := p
    rw [List.map_cons, List.nodup_cons] at h
    by_cases h' : k' = k
    · subst h'
      have hnot : (k', v) ∉ l := fun hm => h.1 (List.mem_map.mpr ⟨(k', v), hm, rfl⟩)
      simp [lookupIn, hnot, eq_comm]
    · simp [lookupIn, h', ih h.2, Ne.symm h']

/-! ## The operations -/

/-- The value stored under a key. -/
def get? (d : Dict κ ν) (k : κ) : Option ν := lookupIn k d.entries

/-- Store a value under a key. -/
def set (d : Dict κ ν) (k : κ) (v : ν) : Dict κ ν :=
  ⟨setIn k v d.entries, nodup_setIn d.nodup k v⟩

/-- Remove a key. -/
def erase (d : Dict κ ν) (k : κ) : Dict κ ν :=
  ⟨d.entries.filter fun p => p.1 ≠ k,
    d.nodup.sublist (List.Sublist.map _ List.filter_sublist)⟩

/-- Keep the pairs whose key passes a test. -/
def filterKeys (d : Dict κ ν) (p : κ → Bool) : Dict κ ν :=
  ⟨d.entries.filter fun q => p q.1,
    d.nodup.sublist (List.Sublist.map _ List.filter_sublist)⟩

/-- Store the pairs of a list one after the other, so the last pair of a key wins. -/
def ofList (l : List (κ × ν)) : Dict κ ν := l.foldl (fun d p => d.set p.1 p.2) empty

/-- Store every pair of `e` into `d`. -/
def update (d e : Dict κ ν) : Dict κ ν := e.entries.foldl (fun d p => d.set p.1 p.2) d

/-- Change every value. -/
def mapValues (d : Dict κ ν) (f : ν → ν) : Dict κ ν :=
  ⟨d.entries.map fun p => (p.1, f p.2), by
    rw [List.map_map]
    exact d.nodup⟩

/-- Keep the pairs whose value passes a test. -/
def filterValues (d : Dict κ ν) (p : ν → Bool) : Dict κ ν :=
  ⟨d.entries.filter fun q => p q.2,
    d.nodup.sublist (List.Sublist.map _ List.filter_sublist)⟩

/-- Turn every value into one of another kind. -/
def mapTo {μ : Type v} (d : Dict κ ν) (f : ν → μ) : Dict κ μ :=
  ⟨d.entries.map fun p => (p.1, f p.2), by
    rw [List.map_map]
    exact d.nodup⟩

/-- Is the key present? -/
def contains (d : Dict κ ν) (k : κ) : Bool := (d.get? k).isSome

@[simp] theorem get?_empty (k : κ) : (∅ : Dict κ ν).get? k = none := rfl

omit [DecidableEq κ] in
@[simp] theorem keys_empty : (∅ : Dict κ ν).keys = [] := rfl

omit [DecidableEq κ] in
@[simp] theorem values_empty : (∅ : Dict κ ν).values = [] := rfl

@[simp] theorem get?_set_self (d : Dict κ ν) (k : κ) (v : ν) : (d.set k v).get? k = some v :=
  lookupIn_setIn_self k v d.entries

theorem get?_set_of_ne (d : Dict κ ν) {k k₀ : κ} (h : k₀ ≠ k) (v : ν) :
    (d.set k v).get? k₀ = d.get? k₀ :=
  lookupIn_setIn_of_ne h v d.entries

/-- Reading after writing. -/
theorem get?_set (d : Dict κ ν) (k k₀ : κ) (v : ν) :
    (d.set k v).get? k₀ = if k₀ = k then some v else d.get? k₀ := by
  split
  · next h => rw [h, get?_set_self]
  · next h => exact get?_set_of_ne d h v

theorem get?_eq_none_iff {d : Dict κ ν} {k : κ} : d.get? k = none ↔ k ∉ d.keys :=
  lookupIn_eq_none_iff

theorem mem_keys_of_get? {d : Dict κ ν} {k : κ} {v : ν} (h : d.get? k = some v) : k ∈ d.keys := by
  by_contra hk
  rw [get?_eq_none_iff.mpr hk] at h
  exact Option.some_ne_none v h.symm

theorem exists_get?_of_mem_keys {d : Dict κ ν} {k : κ} (h : k ∈ d.keys) :
    ∃ v, d.get? k = some v := by
  cases hv : d.get? k with
  | none => exact absurd h (get?_eq_none_iff.mp hv)
  | some v => exact ⟨v, rfl⟩

/-- Membership is lookup. -/
theorem mem_entries_iff {d : Dict κ ν} {k : κ} {v : ν} :
    (k, v) ∈ d.entries ↔ d.get? k = some v :=
  mem_iff_lookupIn d.nodup

theorem mem_values_iff {d : Dict κ ν} {v : ν} : v ∈ d.values ↔ ∃ k, d.get? k = some v := by
  simp only [values, List.mem_map, Prod.exists, exists_eq_right, mem_entries_iff]

/-- A value after a write is the written one or an old one. -/
theorem mem_values_set {d : Dict κ ν} {k : κ} {v v' : ν} (h : v' ∈ (d.set k v).values) :
    v' = v ∨ v' ∈ d.values := by
  obtain ⟨k', hget⟩ := mem_values_iff.mp h
  rw [get?_set] at hget
  split at hget
  · exact .inl (Option.some.inj hget).symm
  · exact .inr (mem_values_iff.mpr ⟨k', hget⟩)

omit [DecidableEq κ] in
theorem keys_nodup (d : Dict κ ν) : d.keys.Nodup := d.nodup

omit [DecidableEq κ] in
@[simp] theorem length_keys (d : Dict κ ν) : d.keys.length = d.size := List.length_map ..

theorem keys_set_of_mem {d : Dict κ ν} {k : κ} (h : k ∈ d.keys) (v : ν) :
    (d.set k v).keys = d.keys :=
  map_fst_setIn_of_mem h v

theorem keys_set_of_not_mem {d : Dict κ ν} {k : κ} (h : k ∉ d.keys) (v : ν) :
    (d.set k v).keys = d.keys ++ [k] :=
  map_fst_setIn_of_not_mem h v

theorem entries_set_of_not_mem {d : Dict κ ν} {k : κ} (h : k ∉ d.keys) (v : ν) :
    (d.set k v).entries = d.entries ++ [(k, v)] :=
  setIn_of_not_mem h v

theorem get?_erase (d : Dict κ ν) (k k₀ : κ) :
    (d.erase k).get? k₀ = if k₀ = k then none else d.get? k₀ := by
  apply Option.ext
  intro v
  rw [← mem_entries_iff, erase]
  split <;> rename_i h
  · simp [h]
  · simp [h, mem_entries_iff]

theorem get?_foldl_erase (keys : List κ) (d : Dict κ ν) (k : κ) :
    (keys.foldl erase d).get? k = if k ∈ keys then none else d.get? k := by
  induction keys generalizing d with
  | nil => simp
  | cons key keys ih =>
    rw [List.foldl_cons, ih, get?_erase]
    by_cases hkey : k = key <;> simp [hkey]

theorem mem_values_of_erase {d : Dict κ ν} {k : κ} {v : ν} (h : v ∈ (d.erase k).values) :
    v ∈ d.values := by
  obtain ⟨k', hget⟩ := mem_values_iff.mp h
  rw [get?_erase] at hget
  split at hget
  · cases hget
  · exact mem_values_iff.mpr ⟨k', hget⟩

theorem get?_filterKeys (d : Dict κ ν) (p : κ → Bool) (k : κ) :
    (d.filterKeys p).get? k = if p k then d.get? k else none := by
  apply Option.ext
  intro v
  rw [← mem_entries_iff, filterKeys]
  split <;> rename_i h
  · simp [h, mem_entries_iff]
  · simp [h]

/-- The keys that a filter leaves. -/
theorem mem_keys_filterKeys {d : Dict κ ν} {p : κ → Bool} {k : κ} :
    k ∈ (d.filterKeys p).keys ↔ k ∈ d.keys ∧ p k = true := by
  rw [← not_iff_not, ← get?_eq_none_iff, get?_filterKeys, not_and_or,
    ← get?_eq_none_iff]
  cases p k <;> simp

/-- The keys after a value was stored. -/
theorem mem_keys_set {d : Dict κ ν} {k k' : κ} {v : ν} :
    k' ∈ (d.set k v).keys ↔ k' = k ∨ k' ∈ d.keys := by
  by_cases hk : k ∈ d.keys
  · rw [keys_set_of_mem hk]
    refine ⟨.inr, ?_⟩
    rintro (rfl | h)
    · exact hk
    · exact h
  · rw [keys_set_of_not_mem hk, List.mem_append, List.mem_singleton]
    exact or_comm

theorem get?_filterValues (d : Dict κ ν) (p : ν → Bool) (k : κ) :
    (d.filterValues p).get? k = (d.get? k).filter p := by
  apply Option.ext
  intro v
  rw [← mem_entries_iff, filterValues, Option.filter_eq_some_iff, ← mem_entries_iff]
  exact List.mem_filter

omit [DecidableEq κ] in
theorem mem_values_of_filterValues {d : Dict κ ν} {p : ν → Bool} {v : ν}
    (h : v ∈ (d.filterValues p).values) : v ∈ d.values := by
  obtain ⟨entry, hentry, rfl⟩ := List.mem_map.mp h
  exact List.mem_map_of_mem (List.mem_filter.mp hentry).1

omit [DecidableEq κ] in
theorem ext_entries {d e : Dict κ ν} (h : d.entries = e.entries) : d = e := by
  cases d
  cases e
  simp_all

section MapTo

variable {μ : Type v} (f : ν → μ) (d : Dict κ ν)

@[simp] theorem get?_mapTo (k : κ) : (d.mapTo f).get? k = (d.get? k).map f := by
  obtain ⟨entries, hnodup⟩ := d
  unfold get? mapTo
  dsimp only
  clear hnodup
  induction entries with
  | nil => rfl
  | cons p rest ih =>
    rw [List.map_cons, lookupIn, lookupIn]
    split
    · rfl
    · exact ih

@[simp] theorem get?_mapValues (f : ν → ν) (k : κ) :
    (d.mapValues f).get? k = (d.get? k).map f :=
  get?_mapTo f d k

omit [DecidableEq κ] in
@[simp] theorem keys_mapValues (f : ν → ν) : (d.mapValues f).keys = d.keys := by
  rw [keys, mapValues, List.map_map]
  rfl

@[simp] theorem contains_mapTo (k : κ) : (d.mapTo f).contains k = d.contains k := by
  rw [contains, get?_mapTo, Option.isSome_map, contains]

omit [DecidableEq κ] in
@[simp] theorem values_mapTo : (d.mapTo f).values = d.values.map f := by
  simp [values, mapTo]

theorem mapTo_set (k : κ) (v : ν) : (d.set k v).mapTo f = (d.mapTo f).set k (f v) := by
  refine ext_entries ?_
  obtain ⟨entries, hnodup⟩ := d
  unfold set mapTo
  dsimp only
  clear hnodup
  induction entries with
  | nil => rfl
  | cons p rest ih =>
    rw [setIn, List.map_cons, setIn]
    split
    · rfl
    · rw [List.map_cons, ih]

theorem mapTo_erase (k : κ) : (d.erase k).mapTo f = (d.mapTo f).erase k := by
  refine ext_entries ?_
  simp [erase, mapTo, List.filter_map, Function.comp_def]

omit [DecidableEq κ] in
theorem mapTo_filterValues (p : μ → Bool) :
    (d.filterValues fun v => p (f v)).mapTo f = (d.mapTo f).filterValues p := by
  refine ext_entries ?_
  simp [filterValues, mapTo, List.filter_map, Function.comp_def]

end MapTo

theorem get?_foldl_set (l : List (κ × ν)) (d : Dict κ ν) (k : κ) :
    (l.foldl (fun d p => d.set p.1 p.2) d).get? k =
      (lookupIn k l.reverse).or (d.get? k) := by
  induction l using List.reverseRecOn with
  | nil => simp [lookupIn]
  | append_singleton l p ih =>
    obtain ⟨k', v⟩ := p
    rw [List.foldl_append, List.foldl_cons, List.foldl_nil, get?_set, List.reverse_append,
      List.reverse_singleton, List.singleton_append, lookupIn]
    by_cases h : k = k'
    · simp [h]
    · simp [h, Ne.symm h, ih]

/-- Building from a list of pairs, the last pair of a key wins. -/
theorem get?_ofList (l : List (κ × ν)) (k : κ) :
    (ofList l).get? k = lookupIn k l.reverse := by
  rw [ofList, get?_foldl_set]
  simp [show (empty : Dict κ ν).get? k = none from rfl]

theorem lookupIn_mem {l : List (κ × ν)} {k : κ} {v : ν} (h : lookupIn k l = some v) :
    (k, v) ∈ l := by
  induction l with
  | nil => exact absurd h (by simp [lookupIn])
  | cons p l ih =>
    obtain ⟨k', v'⟩ := p
    by_cases hk : k' = k
    · rw [lookupIn, if_pos hk, Option.some.injEq] at h
      rw [hk, h]
      exact List.mem_cons_self
    · rw [lookupIn, if_neg hk] at h
      exact List.mem_cons_of_mem _ (ih h)

theorem mem_of_get?_ofList {l : List (κ × ν)} {k : κ} {v : ν} (h : (ofList l).get? k = some v) :
    (k, v) ∈ l := by
  rw [get?_ofList] at h
  exact List.mem_reverse.mp (lookupIn_mem h)

theorem get?_ofList_eq_none_iff {l : List (κ × ν)} {k : κ} :
    (ofList l).get? k = none ↔ k ∉ l.map Prod.fst := by
  rw [get?_ofList, lookupIn_eq_none_iff, List.map_reverse, List.mem_reverse]

theorem mem_keys_ofList {l : List (κ × ν)} {k : κ} : k ∈ (ofList l).keys ↔ k ∈ l.map Prod.fst := by
  rw [← not_iff_not, ← get?_eq_none_iff, get?_ofList_eq_none_iff]

/-- Without repeated keys, a list and its dictionary have the same entries. -/
theorem mem_entries_ofList {l : List (κ × ν)} (h : (l.map Prod.fst).Nodup) {p : κ × ν}
    (hp : p ∈ l) : p ∈ (ofList l).entries := by
  rw [mem_entries_iff, get?_ofList, ← mem_iff_lookupIn, List.mem_reverse]
  · exact hp
  · rwa [List.map_reverse, List.nodup_reverse]

theorem get?_ofList_eq_some_iff {l : List (κ × ν)} (h : (l.map Prod.fst).Nodup) {k : κ} {v : ν} :
    (ofList l).get? k = some v ↔ (k, v) ∈ l :=
  ⟨mem_of_get?_ofList, fun hmem => mem_entries_iff.mp (mem_entries_ofList h hmem)⟩

theorem get?_update (d e : Dict κ ν) (k : κ) :
    (d.update e).get? k = (e.get? k).or (d.get? k) := by
  rw [update, get?_foldl_set]
  congr 1
  apply Option.ext
  intro v
  have hrev : (e.entries.reverse.map Prod.fst).Nodup := by
    rw [List.map_reverse, List.nodup_reverse]
    exact e.nodup
  rw [get?, ← mem_iff_lookupIn e.nodup, ← mem_iff_lookupIn hrev, List.mem_reverse]

/-- The first value of a dictionary with a single key. -/
theorem head?_values {d : Dict κ ν} {k : κ} (h : ∀ k', k' ∈ d.keys ↔ k' = k) :
    d.values.head? = d.get? k := by
  obtain ⟨v, hv⟩ := exists_get?_of_mem_keys ((h k).mpr rfl)
  obtain ⟨w, rest, hvalues⟩ :=
    List.exists_cons_of_ne_nil (List.ne_nil_of_mem (mem_values_iff.mpr ⟨k, hv⟩))
  have hw : w ∈ d.values := by
    rw [hvalues]
    exact List.mem_cons_self
  obtain ⟨k', hk'⟩ := mem_values_iff.mp hw
  obtain rfl := (h k').mp (mem_keys_of_get? hk')
  rw [hvalues, hk', List.head?_cons]

omit [DecidableEq κ] in
theorem eq_empty_of_size {d : Dict κ ν} (h : d.size = 0) : d = ∅ := by
  obtain ⟨entries, hnodup⟩ := d
  obtain rfl : entries = [] := List.eq_nil_of_length_eq_zero h
  rfl

theorem size_set_of_mem {d : Dict κ ν} {k : κ} (h : k ∈ d.keys) (v : ν) :
    (d.set k v).size = d.size := by
  rw [← length_keys, keys_set_of_mem h, length_keys]

theorem size_set_of_not_mem {d : Dict κ ν} {k : κ} (h : k ∉ d.keys) (v : ν) :
    (d.set k v).size = d.size + 1 := by
  rw [← length_keys, keys_set_of_not_mem h, List.length_append, length_keys, List.length_singleton]

/-! ## Numbered dictionaries -/

/-- The keys are the names of `1, …, n`, in this order. -/
def Numbered (name : ℕ → κ) (d : Dict κ ν) : Prop :=
  d.keys = (List.range d.size).map fun i => name (i + 1)

section Numbered

variable {name : ℕ → κ} {d : Dict κ ν}

omit [DecidableEq κ] in
theorem numbered_empty : Numbered name (∅ : Dict κ ν) := rfl

omit [DecidableEq κ] in
theorem Numbered.mem_keys_iff (h : Numbered name d) {k : κ} :
    k ∈ d.keys ↔ ∃ i < d.size, k = name (i + 1) := by
  rw [h, List.mem_map]
  simp only [List.mem_range, eq_comm]

omit [DecidableEq κ] in
theorem Numbered.next_not_mem (h : Numbered name d) (hinj : Function.Injective name) :
    name (d.size + 1) ∉ d.keys := by
  rw [h.mem_keys_iff]
  rintro ⟨i, hi, heq⟩
  have := hinj heq
  omega

theorem Numbered.set_of_mem (h : Numbered name d) {k : κ} (hk : k ∈ d.keys) (v : ν) :
    Numbered name (d.set k v) := by
  rw [Numbered, keys_set_of_mem hk, size_set_of_mem hk]
  exact h

theorem Numbered.set_next (h : Numbered name d) (hinj : Function.Injective name) (v : ν) :
    Numbered name (d.set (name (d.size + 1)) v) := by
  have hnew := h.next_not_mem hinj
  rw [Numbered, keys_set_of_not_mem hnew, size_set_of_not_mem hnew, List.range_succ,
    List.map_append, ← h, List.map_singleton]

end Numbered

end Dict
