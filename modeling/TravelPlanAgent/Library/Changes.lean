import Mathlib.Data.List.Nodup
import Mathlib.Logic.Function.Basic

/-!
# Maps changed key by key

A list of changes names some keys and says what becomes of their values.  When no key is named
twice the order of the changes does not matter.

* `changeAll_of_mem`, `changeAll_of_not_mem`: the value of a key after all changes.
* `LeadsTo`: the changes that turn one map into another.
* `LeadsTo.changeAll_eq`: applied to the first map they give the second.
* `LeadsTo.eq_nil_iff`: there are none exactly when the maps are equal.
-/

namespace Changes

variable {κ ν : Type*} [DecidableEq κ] {m m' : κ → ν} {changes : List (κ × (ν → ν))}

/-- Change the value of one key. -/
def changeAt (m : κ → ν) (change : κ × (ν → ν)) : κ → ν :=
  Function.update m change.1 (change.2 (m change.1))

/-- Change the values of some keys, one after the other. -/
def changeAll (m : κ → ν) (changes : List (κ × (ν → ν))) : κ → ν := changes.foldl changeAt m

theorem changeAt_of_ne {change : κ × (ν → ν)} {k : κ} (h : k ≠ change.1) :
    changeAt m change k = m k :=
  Function.update_of_ne h _ _

/-- A key that is not named keeps its value. -/
theorem changeAll_of_not_mem {k : κ} (h : k ∉ changes.map Prod.fst) :
    changeAll m changes k = m k := by
  induction changes generalizing m with
  | nil => rfl
  | cons change rest ih =>
    obtain ⟨hne, hrest⟩ := List.ne_and_not_mem_of_not_mem_cons h
    change changeAll (changeAt m change) rest k = m k
    rw [ih hrest, changeAt_of_ne hne]

/-- A key that is named once gets its new value. -/
theorem changeAll_of_mem {change : κ × (ν → ν)} (hnodup : (changes.map Prod.fst).Nodup)
    (h : change ∈ changes) : changeAll m changes change.1 = change.2 (m change.1) := by
  induction changes generalizing m with
  | nil => exact absurd h List.not_mem_nil
  | cons first rest ih =>
    obtain ⟨hfirst, hrest⟩ := List.nodup_cons.mp hnodup
    change changeAll (changeAt m first) rest change.1 = change.2 (m change.1)
    rcases List.mem_cons.mp h with rfl | hmem
    · rw [changeAll_of_not_mem hfirst, changeAt, Function.update_self]
    · have hne : change.1 ≠ first.1 := fun heq => hfirst (heq ▸ List.mem_map_of_mem hmem)
      rw [ih hrest hmem, changeAt_of_ne hne]

/-- The changes turn the first map into the second. -/
structure LeadsTo (changes : List (κ × (ν → ν))) (m m' : κ → ν) : Prop where
  once : (changes.map Prod.fst).Nodup
  changed : ∀ change ∈ changes, change.2 (m change.1) = m' change.1
  kept : ∀ k, k ∉ changes.map Prod.fst → m k = m' k

omit [DecidableEq κ] in
/-- Changes of values that differ are there exactly when the maps do. -/
theorem LeadsTo.eq_nil_iff (h : LeadsTo changes m m')
    (hproper : ∀ change ∈ changes, m change.1 ≠ m' change.1) : changes = [] ↔ m = m' := by
  constructor
  · rintro rfl
    exact funext fun k => h.kept k List.not_mem_nil
  · rintro rfl
    exact List.eq_nil_iff_forall_not_mem.mpr fun change hchange => hproper change hchange rfl

theorem LeadsTo.changeAll_eq (h : LeadsTo changes m m') : changeAll m changes = m' := by
  funext k
  by_cases hk : k ∈ changes.map Prod.fst
  · obtain ⟨change, hchange, rfl⟩ := List.mem_map.mp hk
    rw [changeAll_of_mem h.once hchange, h.changed change hchange]
  · rw [changeAll_of_not_mem hk, h.kept k hk]

end Changes
