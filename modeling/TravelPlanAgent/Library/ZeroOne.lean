import Mathlib.Algebra.BigOperators.Group.List.Basic
import Mathlib.Data.List.Nodup
import Mathlib.Tactic.Ring

/-!
# Linear constraints over zero-one variables

* `Constraint`: a sum of weighted variables compared with a bound.
* `weigh_units`: a sum of variables counts the ones among them.
* `holds_fixedZero`, `holds_atMost`, `holds_exactly`: the common constraints.
* `Model`: constraints and an objective.
-/

universe u

namespace ZeroOne

variable {ν : Type u}

/-- A sum of weighted variables. -/
abbrev Terms (ν : Type u) := List (ℤ × ν)

/-- The value of a sum under an assignment. -/
def weigh (value : ν → Bool) (terms : Terms ν) : ℤ :=
  (terms.map fun term => if value term.2 then term.1 else 0).sum

/-- Every variable once. -/
def units (vars : List ν) : Terms ν := vars.map fun v => (1, v)

/-- The terms with the opposite sign. -/
def opposite (terms : Terms ν) : Terms ν := terms.map fun term => (-term.1, term.2)

inductive Relation where
  | le | ge | eq
  deriving DecidableEq

structure Constraint (ν : Type u) where
  terms : Terms ν
  relation : Relation
  bound : ℤ

/-- A constraint is met by an assignment. -/
def Constraint.Holds (value : ν → Bool) (constraint : Constraint ν) : Prop :=
  match constraint.relation with
  | .le => weigh value constraint.terms ≤ constraint.bound
  | .ge => constraint.bound ≤ weigh value constraint.terms
  | .eq => weigh value constraint.terms = constraint.bound

instance (value : ν → Bool) (constraint : Constraint ν) : Decidable (constraint.Holds value) :=
  match h : constraint.relation with
  | .le => decidable_of_iff (weigh value constraint.terms ≤ constraint.bound)
      (by rw [Constraint.Holds, h])
  | .ge => decidable_of_iff (constraint.bound ≤ weigh value constraint.terms)
      (by rw [Constraint.Holds, h])
  | .eq => decidable_of_iff (weigh value constraint.terms = constraint.bound)
      (by rw [Constraint.Holds, h])

/-- Constraints and an objective to be maximised. -/
structure Model (ν : Type u) where
  constraints : List (Constraint ν)
  objective : Terms ν

/-- All constraints are met. -/
def Model.Satisfied (model : Model ν) (value : ν → Bool) : Prop :=
  ∀ constraint ∈ model.constraints, constraint.Holds value

instance (model : Model ν) (value : ν → Bool) : Decidable (model.Satisfied value) :=
  inferInstanceAs (Decidable (∀ constraint ∈ model.constraints, constraint.Holds value))

/-! ## Counting -/

section Counting

variable {value : ν → Bool}

@[simp] theorem weigh_nil : weigh value ([] : Terms ν) = 0 := rfl

@[simp] theorem weigh_cons (term : ℤ × ν) (terms : Terms ν) :
    weigh value (term :: terms) = (if value term.2 then term.1 else 0) + weigh value terms := by
  simp [weigh]

@[simp] theorem weigh_units (vars : List ν) :
    weigh value (units vars) = vars.countP value := by
  induction vars with
  | nil => rfl
  | cons v rest ih =>
    have hcons : units (v :: rest) = (1, v) :: units rest := rfl
    rw [hcons, weigh_cons, ih, List.countP_cons]
    split
    · push_cast
      ring
    · simp

/-- A variable fixed to zero. -/
theorem holds_fixedZero {v : ν} :
    Constraint.Holds value ⟨units [v], .eq, 0⟩ ↔ value v = false := by
  simp [Constraint.Holds]

/-- At most `n` of the variables are one. -/
theorem holds_atMost {vars : List ν} {n : ℕ} :
    Constraint.Holds value ⟨units vars, .le, n⟩ ↔ vars.countP value ≤ n := by
  simp [Constraint.Holds]

/-- Exactly `n` of the variables are one. -/
theorem holds_exactly {vars : List ν} {n : ℕ} :
    Constraint.Holds value ⟨units vars, .eq, n⟩ ↔ vars.countP value = n := by
  simp [Constraint.Holds]

end Counting

end ZeroOne
