import Mathlib.Algebra.Order.Floor.Ring
import Mathlib.Data.Int.Log
import Mathlib.Tactic.Linarith
import Mathlib.Tactic.NormNum
import Mathlib.Tactic.Positivity
import TravelPlanAgent.Library.Selection

/-!
# Double precision

A double is a multiple of a power of two with 53 binary digits, or an infinity.  Arithmetic on
doubles is exact arithmetic whose result is replaced by the nearest double.  Zeros have no sign here
and there is no NaN, so doubles are ordered like their values.

* `Double`: the values of doubles, with the two infinities.
* `spacing`, `nearest`: the distance of the doubles around a number, and the nearest one.
* `ofRat`: the conversion of an exact number, with overflow.
* `opposite`, `scaled`, `subtractedFrom`: arithmetic that meets no NaN.
* `abs_nearest_sub_le`, `abs_ofRat_sub_le`: how far a conversion is off.
-/

namespace Binary64

open Selection

/-! ## Conversion -/

/-- A number or an infinity. -/
abbrev Double : Type := WithBot (WithTop ℚ)

/-- The distance of the doubles around a number: 53 digits are kept, as far as there are exponents
for them. -/
def spacing (q : ℚ) : ℚ := 2 ^ max (-1074) (Int.log 2 |q| - 52)

/-- The nearest double when the exponent may be any number; a tie goes to the even neighbour. -/
def nearest (q : ℚ) : ℚ := roundHalfEven (q / spacing q) * spacing q

/-- The nearest double. -/
def ofRat (q : ℚ) : Double :=
  if 2 ^ 1024 ≤ nearest q then ⊤
  else if nearest q ≤ -2 ^ 1024 then ⊥
  else ((nearest q : WithTop ℚ) : Double)

/-! ## Arithmetic -/

/-- `-x`. -/
def opposite : Double → Double
  | none => ⊤
  | some none => ⊥
  | some (some q) => ((-q : ℚ) : WithTop ℚ)

/-- `x * n` for a positive number. -/
def scaled (n : ℕ) : Double → Double
  | some (some q) => ofRat (q * nearest n)
  | infinity => infinity

/-- `a - x` for a finite double. -/
def subtractedFrom (a : ℚ) : Double → Double
  | none => ⊤
  | some none => ⊥
  | some (some q) => ofRat (a - q)

example : ofRat (1 / 10) = ((3602879701896397 / 36028797018963968 : ℚ) : WithTop ℚ) := by
  decide +kernel

/-! ## The error -/

/-- Rounding to an integer is off by at most a half. -/
theorem abs_roundHalfEven_sub_le (q : ℚ) : |(roundHalfEven q : ℚ) - q| ≤ 1 / 2 := by
  have hfloor : (q.floor : ℚ) ≤ q := Rat.floor_le q
  have hlt : q < q.floor + 1 := by exact_mod_cast Rat.lt_floor_add_one q
  unfold roundHalfEven
  dsimp only
  rw [abs_le]
  split_ifs with hlow hhigh heven
  · constructor <;> linarith
  · push_cast
    constructor <;> linarith
  · constructor <;> linarith
  · push_cast
    constructor <;> linarith

theorem spacing_pos (q : ℚ) : 0 < spacing q := zpow_pos (by norm_num) _

/-- A number lies within half a spacing of the nearest double. -/
theorem abs_nearest_sub_le_spacing (q : ℚ) : |nearest q - q| ≤ spacing q / 2 := by
  have hpos := spacing_pos q
  have hscaled : nearest q - q = (roundHalfEven (q / spacing q) - q / spacing q) * spacing q := by
    rw [sub_mul, div_mul_cancel₀ q hpos.ne']
    rfl
  rw [hscaled, abs_mul, abs_of_pos hpos]
  calc |(roundHalfEven (q / spacing q) : ℚ) - q / spacing q| * spacing q
      ≤ 1 / 2 * spacing q := by
        exact mul_le_mul_of_nonneg_right (abs_roundHalfEven_sub_le _) hpos.le
    _ = spacing q / 2 := by ring

theorem nearest_zero : nearest 0 = 0 := by decide +kernel

theorem nearest_nonneg {q : ℚ} (h : 0 ≤ q) : 0 ≤ nearest q := by
  have hround : (0 : ℤ) ≤ roundHalfEven (q / spacing q) :=
    le_roundHalfEven (by exact_mod_cast div_nonneg h (spacing_pos q).le)
  exact mul_nonneg (by exact_mod_cast hround) (spacing_pos q).le

/-- The nearest double is off by at most one part in 2 ^ 53, or by half the smallest double. -/
theorem abs_nearest_sub_le (q : ℚ) :
    |nearest q - q| ≤ max (2 ^ (-1075 : ℤ)) (|q| * 2 ^ (-53 : ℤ)) := by
  rcases eq_or_ne q 0 with rfl | hne
  · rw [nearest_zero, sub_self, abs_zero]
    positivity
  refine (abs_nearest_sub_le_spacing q).trans ?_
  have hlog : (2 : ℚ) ^ Int.log 2 |q| ≤ |q| := by
    exact_mod_cast Int.zpow_log_le_self Nat.one_lt_two (abs_pos.mpr hne)
  have hhalf : spacing q / 2 = 2 ^ (max (-1074) (Int.log 2 |q| - 52) - 1) := by
    rw [spacing, zpow_sub_one₀ two_ne_zero, div_eq_mul_inv]
  rw [hhalf]
  rcases max_cases (-1074) (Int.log 2 |q| - 52) with ⟨hmax, -⟩ | ⟨hmax, -⟩
  · rw [hmax]
    exact le_max_left _ _
  · rw [hmax]
    refine le_trans ?_ (le_max_right _ _)
    have hsplit : Int.log 2 |q| - 52 - 1 = Int.log 2 |q| + -53 := by ring
    rw [hsplit, zpow_add₀ two_ne_zero]
    exact mul_le_mul_of_nonneg_right hlog (by positivity)

/-- A conversion that does not overflow is as close. -/
theorem abs_ofRat_sub_le {q converted : ℚ} (h : ofRat q = ((converted : WithTop ℚ) : Double)) :
    |converted - q| ≤ max (2 ^ (-1075 : ℤ)) (|q| * 2 ^ (-53 : ℤ)) := by
  unfold ofRat at h
  split_ifs at h with hlarge hsmall
  · exact absurd (WithBot.coe_injective h) WithTop.top_ne_coe
  · exact absurd h WithBot.bot_ne_coe
  · obtain rfl := WithTop.coe_injective (WithBot.coe_injective h)
    exact abs_nearest_sub_le q

end Binary64
