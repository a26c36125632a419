import TravelPlanAgent.Library.OrderedDict
import Mathlib.Data.List.Count

/-!
# Lists under keys

A dictionary of lists holds elements in places, a place being a key with an element of its list.
The elements of one list may be taken out, put in and exchanged; what this does is told by how
often each place is held.

* `countIn`: how often a place is held.
* `countIn_erase`, `countIn_insertIdx`, `countIn_exchange`: the three changes of one list.
* `count_placed`: the places of some keys, listed.
* `perm_listed_set`: what is held under some keys after the list of one of them is replaced.
-/

universe u v

namespace Buckets

variable {κ : Type u} {α : Type v} [DecidableEq κ] [DecidableEq α]

/-- How often a place is held. -/
def countIn (d : Dict κ (List α)) (place : κ × α) : ℕ :=
  ((d.get? place.1).getD []).count place.2

variable {d : Dict κ (List α)} {k : κ} {l : List α} {a b : α}

theorem countIn_set (d : Dict κ (List α)) (k : κ) (l : List α) (place : κ × α) :
    countIn (d.set k l) place = if place.1 = k then l.count place.2 else countIn d place := by
  unfold countIn
  rw [Dict.get?_set]
  split <;> rfl

/-- A held place has a key. -/
theorem mem_keys_of_countIn {place : κ × α} (h : 0 < countIn d place) : place.1 ∈ d.keys := by
  by_contra hkey
  rw [countIn, Dict.get?_eq_none_iff.mpr hkey] at h
  exact absurd h (by simp)

theorem countIn_of_get? (h : d.get? k = some l) (a : α) : countIn d (k, a) = l.count a := by
  rw [countIn, h]
  rfl

theorem mem_of_countIn (h : d.get? k = some l) : 0 < countIn d (k, a) ↔ a ∈ l := by
  rw [countIn_of_get? h, List.count_pos_iff]

/-- How often a place is among at most one. -/
theorem count_toList_some (place place' : κ × α) :
    (some place).toList.count place' =
      if place'.1 = place.1 ∧ place'.2 = place.2 then 1 else 0 := by
  rw [Option.toList_some]
  by_cases heq : place' = place
  · rw [heq, List.count_singleton_self, if_pos ⟨rfl, rfl⟩]
  · rw [if_neg fun h => heq (Prod.ext h.1 h.2), List.count_eq_zero, List.mem_singleton]
    exact heq

/-- Take an element out of its list. -/
theorem countIn_erase (hget : d.get? k = some l) (hmem : a ∈ l) (place : κ × α) :
    countIn (d.set k (l.erase a)) place + (some (k, a)).toList.count place = countIn d place := by
  rw [countIn_set, count_toList_some]
  obtain ⟨k', b⟩ := place
  by_cases hk : k' = k
  · subst hk
    rw [if_pos rfl, countIn_of_get? hget, List.count_erase]
    by_cases hb : b = a
    · subst hb
      have hpos : 0 < l.count b := List.count_pos_iff.mpr hmem
      simp only [beq_self_eq_true, if_true, and_self]
      omega
    · simp [hb, Ne.symm hb]
  · simp [hk]

/-- Put an element into a list. -/
theorem countIn_insertIdx (hget : d.get? k = some l) {i : ℕ} (hi : i ≤ l.length) (a : α)
    (place : κ × α) :
    countIn (d.set k (l.insertIdx i a)) place =
      countIn d place + (some (k, a)).toList.count place := by
  rw [countIn_set, count_toList_some]
  obtain ⟨k', b⟩ := place
  by_cases hk : k' = k
  · subst hk
    rw [if_pos rfl, countIn_of_get? hget, (List.perm_insertIdx a l hi).count_eq, List.count_cons]
    by_cases hb : b = a
    · simp [hb]
    · simp [hb, Ne.symm hb]
  · simp [hk]

/-- Exchange an element of a list for another one. -/
theorem countIn_exchange (hget : d.get? k = some l) (hmem : a ∈ l) (b : α) (place : κ × α) :
    countIn (d.set k (l.set (l.idxOf a) b)) place + (some (k, a)).toList.count place =
      countIn d place + (some (k, b)).toList.count place := by
  rw [countIn_set, count_toList_some, count_toList_some]
  obtain ⟨k', c⟩ := place
  by_cases hk : k' = k
  · subst hk
    have hi : l.idxOf a < l.length := List.idxOf_lt_length_of_mem hmem
    rw [if_pos rfl, countIn_of_get? hget, List.count_set hi, List.getElem_idxOf hi]
    have hpos : 0 < l.count a := List.count_pos_iff.mpr hmem
    simp only [beq_iff_eq, true_and, eq_comm (a := a), eq_comm (a := b)]
    by_cases ha : c = a
    · rw [if_pos ha, ha]
      omega
    · rw [if_neg ha, Nat.sub_zero, Nat.add_zero]
  · simp [hk]

/-- The places of some keys, each key once. -/
theorem count_placed {ks : List κ} (hnodup : ks.Nodup) (g : κ → List α) (place : κ × α) :
    (ks.flatMap fun k => (g k).map fun a => (k, a)).count place =
      if place.1 ∈ ks then (g place.1).count place.2 else 0 := by
  induction ks with
  | nil => rfl
  | cons k rest ih =>
    obtain ⟨hk, hrest⟩ := List.nodup_cons.mp hnodup
    rw [List.flatMap_cons, List.count_append, ih hrest]
    obtain ⟨k', a⟩ := place
    by_cases heq : k' = k
    · subst heq
      rw [if_neg hk, if_pos List.mem_cons_self, Nat.add_zero]
      exact List.count_map_of_injective _ _ (fun _ _ h => (Prod.mk.inj h).2) a
    · have hnone : ((g k).map fun a => (k, a)).count (k', a) = 0 := by
        refine List.count_eq_zero.mpr fun hmem => ?_
        obtain ⟨b, -, hb⟩ := List.mem_map.mp hmem
        exact heq (Prod.mk.inj hb).1.symm
      rw [hnone, Nat.zero_add]
      simp only [List.mem_cons, heq, false_or]

/-! ## What is held under some keys -/

/-- The elements that are held under some keys. -/
def listed (d : Dict κ (List α)) (ks : List κ) : List α := ks.flatMap fun k => (d.get? k).getD []

omit [DecidableEq α] in
theorem listed_set_of_not_mem {ks : List κ} (h : k ∉ ks) (new : List α) :
    listed (d.set k new) ks = listed d ks := by
  refine List.flatMap_congr fun k' hk' => ?_
  have hne : k' ≠ k := fun heq => h (heq ▸ hk')
  rw [Dict.get?_set_of_ne d hne]

omit [DecidableEq α] in
/-- Replace the list of one key. -/
theorem perm_listed_set {ks : List κ} (hnodup : ks.Nodup) (hk : k ∈ ks) (hget : d.get? k = some l)
    (new : List α) : (listed (d.set k new) ks ++ l).Perm (listed d ks ++ new) := by
  obtain ⟨before, after, rfl⟩ := List.append_of_mem hk
  obtain ⟨hbefore, hafter⟩ : k ∉ before ∧ k ∉ after := by
    have hsplit := List.nodup_middle.mp hnodup
    have hnot := (List.nodup_cons.mp hsplit).1
    exact ⟨fun h => hnot (List.mem_append_left _ h), fun h => hnot (List.mem_append_right _ h)⟩
  have hset : listed (d.set k new) (before ++ k :: after) =
      listed d before ++ (new ++ listed d after) := by
    rw [listed, List.flatMap_append, List.flatMap_cons, Dict.get?_set_self, Option.getD_some]
    exact congrArg₂ _ (listed_set_of_not_mem hbefore new)
      (congrArg _ (listed_set_of_not_mem hafter new))
  have hold : listed d (before ++ k :: after) = listed d before ++ (l ++ listed d after) := by
    rw [listed, List.flatMap_append, List.flatMap_cons, hget, Option.getD_some]
    rfl
  rw [hset, hold, List.append_assoc (listed d before), List.append_assoc (listed d before)]
  refine List.Perm.append_left _ ?_
  calc (new ++ listed d after) ++ l
      _ = new ++ (listed d after ++ l) := List.append_assoc ..
      List.Perm _ ((listed d after ++ l) ++ new) := List.perm_append_comm
      List.Perm _ ((l ++ listed d after) ++ new) := List.perm_append_comm.append_right _

omit [DecidableEq α] in
/-- The order of the keys does not matter. -/
theorem perm_listed {ks ks' : List κ} (h : ks.Perm ks') : (listed d ks).Perm (listed d ks') :=
  h.flatMap_right _

omit [DecidableEq α] in
/-- What is held under all keys. -/
theorem listed_keys (d : Dict κ (List α)) : listed d d.keys = d.values.flatten := by
  rw [listed, Dict.keys, Dict.values, List.flatMap_map, List.flatMap]
  refine congrArg _ (List.map_congr_left fun entry hentry => ?_)
  rw [Dict.mem_entries_iff.mp hentry]
  rfl

/-! ## Exchanging one element -/

section Exchange

variable {α : Type v} [DecidableEq α] {l : List α} {a : α} {f : α → Option α}

/-- Put something in the place of an element, or nothing. -/
def exchange (l : List α) (a : α) : Option α → List α
  | none => l.erase a
  | some b => l.set (l.idxOf a) b

theorem exchange_of_split {before after : List α} (h : a ∉ before) (b : Option α) :
    exchange (before ++ a :: after) a b = before ++ (b.toList ++ after) := by
  cases b with
  | none =>
    rw [exchange, List.erase_append_right _ h, List.erase_cons_head]
    rfl
  | some b =>
    have hindex : (before ++ a :: after).idxOf a = before.length := by
      rw [List.idxOf_append_of_notMem h, List.idxOf_cons_self, Nat.add_zero]
    rw [exchange, hindex, List.set_append_right _ _ (Nat.le_refl _), Nat.sub_self]
    rfl

/-- Exchanging what a function keeps is changing the function. -/
theorem exchange_filterMap (hcount : l.count a = 1) (hself : f a = some a)
    (hother : ∀ x ∈ l, f x = some a → x = a) (rest : List α) (b : Option α) :
    exchange (l.filterMap f ++ rest) a b = l.filterMap (Function.update f a b) ++ rest := by
  obtain ⟨before, after, rfl, hbefore⟩ :=
    List.eq_append_cons_of_mem (List.count_pos_iff.mp (hcount ▸ Nat.one_pos))
  have hafter : a ∉ after := by
    rw [List.count_append, List.count_cons_self, List.count_eq_zero.mpr hbefore] at hcount
    exact List.count_eq_zero.mp (by omega)
  have hkept : a ∉ before.filterMap f := by
    intro hmem
    obtain ⟨x, hx, hfx⟩ := List.mem_filterMap.mp hmem
    exact hbefore (hother x (List.mem_append_left _ hx) hfx ▸ hx)
  have hsame {rest : List α} (hrest : a ∉ rest) :
      rest.filterMap (Function.update f a b) = rest.filterMap f := by
    refine List.filterMap_congr fun x hx => Function.update_of_ne ?_ ..
    rintro rfl
    exact hrest hx
  rw [List.filterMap_append, List.filterMap_append, List.filterMap_cons_some hself, hsame hbefore,
    List.append_assoc, List.cons_append, exchange_of_split hkept, List.append_assoc]
  refine congrArg _ ?_
  cases b with
  | none => rw [List.filterMap_cons_none (Function.update_self ..), hsame hafter]; rfl
  | some b => rw [List.filterMap_cons_some (Function.update_self ..), hsame hafter]; rfl

end Exchange

section Counting

variable {α : Type u} {β : Type v} {l : List α}

/-- A stronger test counts fewer when some element passes only the weaker one. -/
theorem countP_lt_of_mem {p q : α → Bool} (h : ∀ a ∈ l, p a = true → q a = true) {a : α}
    (hmem : a ∈ l) (hp : ¬ p a = true) (hq : q a = true) : l.countP p < l.countP q := by
  obtain ⟨before, after, rfl⟩ := List.append_of_mem hmem
  have hbefore := List.countP_mono_left fun b hb => h b (List.mem_append_left _ hb)
  have hafter := List.countP_mono_left fun b hb =>
    h b (List.mem_append_right _ (List.mem_cons_of_mem _ hb))
  rw [List.countP_append, List.countP_append, List.countP_cons_of_neg hp,
    List.countP_cons_of_pos hq]
  omega

/-- Two partial functions that keep the same elements and list the same agree. -/
theorem eq_of_filterMap_eq {f g : α → Option β} (h : l.filterMap f = l.filterMap g)
    (hkept : ∀ a ∈ l, (f a).isSome = (g a).isSome) : ∀ a ∈ l, f a = g a := by
  induction l with
  | nil => exact fun _ hmem => absurd hmem List.not_mem_nil
  | cons a rest ih =>
    obtain ⟨ha, hrest⟩ := List.forall_mem_cons.mp hkept
    cases hf : f a with
    | none =>
      have hg : g a = none := by
        rw [hf] at ha
        exact Option.isNone_iff_eq_none.mp (Option.isSome_eq_false_iff.mp ha.symm)
      rw [List.filterMap_cons_none hf, List.filterMap_cons_none hg] at h
      exact List.forall_mem_cons.mpr ⟨hf.trans hg.symm, ih h hrest⟩
    | some b =>
      obtain ⟨c, hg⟩ := Option.isSome_iff_exists.mp (ha.symm.trans (by rw [hf]; rfl))
      rw [List.filterMap_cons_some hf, List.filterMap_cons_some hg, List.cons.injEq] at h
      exact List.forall_mem_cons.mpr ⟨hf.trans (h.1 ▸ hg.symm), ih h.2 hrest⟩

end Counting

end Buckets
