import Mathlib.Logic.Basic

/-!
# Outcomes side by side

Two computations that fail alike, and whose values are related when they succeed.

* `SameOutcome`: the relation.
* `SameOutcome.bind`: sequences of such computations.
* `SameOutcome.exists_of_ok`, `SameOutcome.exists_of_ok_right`: success of one is success of both.
-/

universe u v w

/-- Both computations fail with the same error, or succeed with related values. -/
inductive SameOutcome {α : Type u} {β : Type v} {ε : Type w} (related : α → β → Prop) :
    Except ε α → Except ε β → Prop where
  | ok {a : α} {b : β} (h : related a b) : SameOutcome related (.ok a) (.ok b)
  | error (e : ε) : SameOutcome related (.error e) (.error e)

namespace SameOutcome

variable {α α' : Type u} {β β' : Type v} {ε : Type w} {related : α → β → Prop}
  {related' : α' → β' → Prop} {x : Except ε α} {y : Except ε β}

theorem of_eq {x y : Except ε α} (h : x = y) : SameOutcome Eq x y := by
  subst h
  cases x with
  | error e => exact .error e
  | ok a => exact .ok rfl

/-- Sequences whose parts have the same outcomes. -/
theorem bind {f : α → Except ε α'} {g : β → Except ε β'} (h : SameOutcome related x y)
    (hnext : ∀ a b, related a b → SameOutcome related' (f a) (g b)) :
    SameOutcome related' (x.bind f) (y.bind g) := by
  cases h with
  | ok h => exact hnext _ _ h
  | error e => exact .error e

theorem map {f : α → α'} {g : β → β'} (h : SameOutcome related x y)
    (hvalues : ∀ a b, related a b → related' (f a) (g b)) :
    SameOutcome related' (x.map f) (y.map g) := by
  cases h with
  | ok h => exact .ok (hvalues _ _ h)
  | error e => exact .error e

/-- What the first computation succeeds with has a partner. -/
theorem exists_of_ok {a : α} (h : SameOutcome related (.ok a) y) :
    ∃ b, y = .ok b ∧ related a b := by
  cases h with
  | ok h => exact ⟨_, rfl, h⟩

/-- What the second computation succeeds with has a partner. -/
theorem exists_of_ok_right {b : β} (h : SameOutcome related x (.ok b)) :
    ∃ a, x = .ok a ∧ related a b := by
  cases h with
  | ok h => exact ⟨_, rfl, h⟩

end SameOutcome
