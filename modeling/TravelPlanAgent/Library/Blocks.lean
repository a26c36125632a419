import Mathlib.Data.List.Basic
import Mathlib.Data.List.Nodup

/-!
# Lists in blocks

A list that is written block after block, each block for a subject of its own, and cut off after
`n` elements.

* `begun`: the subjects whose blocks begin before the cut.
* `mem_begun_of_mem_take`, `exists_mem_take_of_begun`: what stands before the cut.
* `nodup_take_flatMap_iff`: nothing is repeated before the cut exactly when no subject is.
* `append_sep_inj`, `append_sep_inj_right`: a text is split at its first and last separator.
-/

universe u v

namespace Blocks

variable {σ : Type u} {κ : Type v}

/-! ## Cut blocks -/

/-- The subjects whose blocks begin among the first `n` elements. -/
def begun (f : σ → List κ) : ℕ → List σ → List σ
  | _, [] => []
  | n, s :: rest => if n = 0 then [] else s :: begun f (n - (f s).length) rest

variable {f : σ → List κ}

@[simp] theorem begun_zero (l : List σ) : begun f 0 l = [] := by
  cases l <;> simp [begun]

/-- The subjects begun are the first ones. -/
theorem begun_isPrefix (n : ℕ) (l : List σ) : begun f n l <+: l := by
  induction l generalizing n with
  | nil => exact List.prefix_rfl
  | cons s rest ih =>
    rw [begun]
    split
    · exact List.nil_prefix
    · exact (List.prefix_cons_inj s).mpr (ih _)

/-- What stands before the cut belongs to a subject begun. -/
theorem mem_begun_of_mem_take {n : ℕ} {l : List σ} {k : κ} (h : k ∈ (l.flatMap f).take n) :
    ∃ s ∈ begun f n l, k ∈ f s := by
  induction l generalizing n with
  | nil => simp at h
  | cons s rest ih =>
    rw [List.flatMap_cons, List.take_append, List.mem_append] at h
    have hpos : n ≠ 0 := by
      rintro rfl
      simp at h
    rw [begun, if_neg hpos]
    rcases h with h | h
    · exact ⟨s, List.mem_cons_self, List.mem_of_mem_take h⟩
    · obtain ⟨t, ht, hk⟩ := ih h
      exact ⟨t, List.mem_cons_of_mem _ ht, hk⟩

/-- A subject begun has something before the cut. -/
theorem exists_mem_take_of_begun (hne : ∀ s, f s ≠ []) {n : ℕ} {l : List σ} {s : σ}
    (h : s ∈ begun f n l) : ∃ k ∈ f s, k ∈ (l.flatMap f).take n := by
  induction l generalizing n with
  | nil => simp [begun] at h
  | cons t rest ih =>
    rw [begun] at h
    split at h
    · exact absurd h List.not_mem_nil
    · next hpos =>
      rw [List.flatMap_cons, List.take_append]
      rcases List.mem_cons.mp h with rfl | h
      · obtain ⟨k, block, hblock⟩ := List.exists_cons_of_ne_nil (hne s)
        obtain ⟨m, rfl⟩ := Nat.exists_eq_succ_of_ne_zero hpos
        refine ⟨k, by rw [hblock]; exact List.mem_cons_self, List.mem_append_left _ ?_⟩
        rw [hblock, List.take_succ_cons]
        exact List.mem_cons_self
      · obtain ⟨k, hk, hmem⟩ := ih h
        exact ⟨k, hk, List.mem_append_right _ hmem⟩

/-- When blocks of different subjects have nothing in common, nothing is repeated before the cut
exactly when no subject is. -/
theorem nodup_take_flatMap_iff (hne : ∀ s, f s ≠ []) (hnodup : ∀ s, (f s).Nodup)
    (hdisjoint : ∀ s t k, k ∈ f s → k ∈ f t → s = t) (n : ℕ) (l : List σ) :
    ((l.flatMap f).take n).Nodup ↔ (begun f n l).Nodup := by
  induction l generalizing n with
  | nil => simp [begun]
  | cons s rest ih =>
    rw [List.flatMap_cons, List.take_append, begun]
    by_cases hpos : n = 0
    · simp [hpos]
    rw [if_neg hpos, List.nodup_append, List.nodup_cons, ih]
    constructor
    · rintro ⟨-, hrest, hapart⟩
      refine ⟨fun hs => ?_, hrest⟩
      obtain ⟨k, hk, hmem⟩ := exists_mem_take_of_begun hne hs
      -- The block of `s` is complete, since another one begins after it.
      have hlong : (f s).length ≤ n := by
        by_contra hshort
        rw [Nat.sub_eq_zero_of_le (by omega), begun_zero] at hs
        exact absurd hs List.not_mem_nil
      rw [List.take_of_length_le hlong] at hapart
      exact hapart k hk k hmem rfl
    · rintro ⟨hs, hrest⟩
      refine ⟨(hnodup s).sublist (List.take_sublist ..), hrest, fun k hk k' hk' heq => ?_⟩
      obtain ⟨t, ht, hkt⟩ := mem_begun_of_mem_take hk'
      have hsame := hdisjoint s t k (List.mem_of_mem_take hk) (heq ▸ hkt)
      exact hs (hsame ▸ ht)

/-! ## Separators -/

section Separators

variable {c : κ} {a b a' b' : List κ}

/-- A text is split at its first separator. -/
theorem append_sep_inj (ha : c ∉ a) (ha' : c ∉ a') (h : a ++ c :: b = a' ++ c :: b') :
    a = a' ∧ b = b' := by
  induction a generalizing a' with
  | nil =>
    cases a' with
    | nil => exact ⟨rfl, (List.cons.inj h).2⟩
    | cons d a' => exact absurd ((List.cons.inj h).1 ▸ List.mem_cons_self) ha'
  | cons d a ih =>
    cases a' with
    | nil => exact absurd ((List.cons.inj h).1 ▸ List.mem_cons_self) ha
    | cons d' a' =>
      obtain ⟨hhead, hrest⟩ := List.cons.inj h
      obtain ⟨htail, hb⟩ := ih (List.not_mem_of_not_mem_cons ha)
        (List.not_mem_of_not_mem_cons ha') hrest
      exact ⟨by rw [hhead, htail], hb⟩

/-- A text is split at its last separator. -/
theorem append_sep_inj_right (hb : c ∉ b) (hb' : c ∉ b') (h : a ++ c :: b = a' ++ c :: b') :
    a = a' ∧ b = b' := by
  have hreverse : b.reverse ++ c :: a.reverse = b'.reverse ++ c :: a'.reverse := by
    have := congrArg List.reverse h
    simpa using this
  obtain ⟨htail, hhead⟩ := append_sep_inj (by simpa using hb) (by simpa using hb') hreverse
  exact ⟨List.reverse_injective hhead, List.reverse_injective htail⟩

end Separators

end Blocks
