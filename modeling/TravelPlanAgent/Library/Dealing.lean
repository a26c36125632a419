import Mathlib.Algebra.BigOperators.Group.List.Lemmas
import Mathlib.Data.List.Nodup
import Mathlib.Data.List.Range
import Mathlib.Data.List.Perm.Basic

/-!
# Dealing out a list

The elements of a list are dealt to `k` hands in turn, like cards.

* `dealt`: what one hand gets.
* `perm_flatMap_filter`: a list is sorted into the fibres of a function.
* `perm_dealt`: the hands together hold the list.
* `length_dealt_le`: no hand gets more than its share.
-/

universe u

namespace Dealing

variable {α : Type u}

/-- What hand `i` of `k` gets: the elements at the places `i`, `i + k`, … -/
def dealt (k : ℕ) (l : List α) (i : ℕ) : List α :=
  (l.zipIdx.filter fun entry => decide (entry.2 % k = i)).map Prod.fst

/-- A list is the fibres of a function one after the other. -/
theorem perm_flatMap_filter (f : α → ℕ) {k : ℕ} {l : List α} (h : ∀ a ∈ l, f a < k) :
    ((List.range k).flatMap fun i => l.filter fun a => decide (f a = i)).Perm l := by
  classical
  refine List.perm_iff_count.mpr fun a => ?_
  rw [List.count_flatMap]
  have hother : ∀ i ≠ f a, i ∈ List.range k →
      (List.count a ∘ fun i => l.filter fun a => decide (f a = i)) i = 0 := by
    intro i hi _
    refine List.count_eq_zero.mpr fun hmem => hi ?_
    exact (of_decide_eq_true (List.mem_filter.mp hmem).2).symm
  rw [List.sum_map_eq_nsmul_single (f a) _ hother]
  have hown : (List.count a ∘ fun i => l.filter fun a => decide (f a = i)) (f a) = l.count a :=
    List.count_filter (decide_eq_true rfl)
  by_cases ha : a ∈ l
  · rw [hown, List.count_eq_one_of_mem List.nodup_range (List.mem_range.mpr (h a ha)), one_nsmul]
  · rw [hown, List.count_eq_zero.mpr ha, nsmul_zero]

/-- The hands together hold the list. -/
theorem perm_dealt {k : ℕ} (hk : 0 < k) (l : List α) :
    ((List.range k).flatMap (dealt k l)).Perm l := by
  have hhands : (List.range k).flatMap (dealt k l) =
      ((List.range k).flatMap fun i =>
        l.zipIdx.filter fun entry => decide (entry.2 % k = i)).map Prod.fst := by
    rw [List.map_flatMap]
    rfl
  rw [hhands]
  refine ((perm_flatMap_filter _ fun entry _ => Nat.mod_lt _ hk).map Prod.fst).trans ?_
  rw [List.zipIdx_map_fst]

/-- No hand gets more than its share. -/
theorem length_dealt_le {k m : ℕ} {l : List α} (h : l.length ≤ k * m) (i : ℕ) :
    (dealt k l i).length ≤ m := by
  rw [dealt, List.length_map, ← List.countP_eq_length_filter]
  have hplaces : l.zipIdx.countP (fun entry => decide (entry.2 % k = i)) =
      (List.range l.length).countP fun j => decide (j % k = i) := by
    rw [List.range_eq_range', ← List.zipIdx_map_snd 0 l, List.countP_map]
    rfl
  rw [hplaces, List.countP_eq_length_filter, ← List.length_map (f := (· / k))]
  -- A place of the hand is known by its round.
  have hnodup : (((List.range l.length).filter fun j => decide (j % k = i)).map (· / k)).Nodup := by
    refine List.Nodup.map_on (fun a ha b hb hround => ?_) (List.nodup_range.filter _)
    have hmod : a % k = b % k := (of_decide_eq_true (List.mem_filter.mp ha).2).trans
      (of_decide_eq_true (List.mem_filter.mp hb).2).symm
    rw [← Nat.div_add_mod a k, ← Nat.div_add_mod b k, hmod, hround]
  have hsub : ((List.range l.length).filter fun j => decide (j % k = i)).map (· / k) ⊆
      List.range m := by
    intro round hround
    obtain ⟨j, hj, rfl⟩ := List.mem_map.mp hround
    have hlt : j < k * m := (List.mem_range.mp (List.mem_filter.mp hj).1).trans_le h
    exact List.mem_range.mpr (Nat.div_lt_of_lt_mul hlt)
  have hle := hnodup.length_le_of_subset hsub
  rwa [List.length_range] at hle

example : (List.range 3).map (dealt 3 [10, 11, 12, 13]) = [[10, 13], [11], [12]] := by decide

end Dealing
