import Mathlib.Data.Int.Log
import OpenRouter.Base.Rounding

/-!
# Binary64 — the nearest double of a rational

`toBinary64` is the value of the double nearest to a rational, ties to the even significand, and
`Double.ofRat` is that double where it may overflow.

A double keeps the first fifteen decimal digits, so a fixed-point column can be sent as one and
read back: `roundHalfAway_toBinary64` is that for six decimals.
-/

namespace OpenRouter
namespace Base

/-- The nearest integer; a tie goes to the even one. -/
def roundHalfEven (x : ℚ) : ℤ :=
  if Int.fract x < 1 / 2 ∨ Int.fract x = 1 / 2 ∧ ⌊x⌋ % 2 = 0 then ⌊x⌋ else ⌊x⌋ + 1

/-- The exponent of the last place of a double of this magnitude. -/
def lastPlace (x : ℚ) : ℤ :=
  max (Int.log 2 |x| - 52) (-1074)

def toBinary64 (x : ℚ) : ℚ :=
  roundHalfEven (x / 2 ^ lastPlace x) * 2 ^ lastPlace x

theorem abs_roundHalfEven_sub_le (x : ℚ) : |(roundHalfEven x : ℚ) - x| ≤ 1 / 2 := by
  have hx : (⌊x⌋ : ℚ) + Int.fract x = x := Int.floor_add_fract x
  have h0 : 0 ≤ Int.fract x := Int.fract_nonneg x
  have h1 : Int.fract x < 1 := Int.fract_lt_one x
  unfold roundHalfEven
  split
  · rename_i hdown
    have hhalf : Int.fract x ≤ 1 / 2 := by
      rcases hdown with hlt | ⟨heq, -⟩
      · exact hlt.le
      · exact heq.le
    rw [abs_le]
    constructor <;> linarith
  · rename_i hup
    have hhalf : 1 / 2 ≤ Int.fract x := not_lt.1 fun hlt => hup (.inl hlt)
    rw [abs_le]
    push_cast
    constructor <;> linarith

/-- Integers are left alone. -/
@[simp] theorem roundHalfEven_intCast (n : ℤ) : roundHalfEven (n : ℚ) = n := by
  have hfract : Int.fract (n : ℚ) < 1 / 2 := by
    rw [Int.fract_intCast]
    norm_num
  rw [roundHalfEven, if_pos (.inl hfract), Int.floor_intCast]

/-- To a multiple of a unit the error is at most half of it. -/
theorem abs_roundHalfEven_mul_sub_le {unit : ℚ} (hunit : 0 < unit) (x : ℚ) :
    |roundHalfEven (x / unit) * unit - x| ≤ unit / 2 := by
  have hscaled : roundHalfEven (x / unit) * unit - x =
      ((roundHalfEven (x / unit) : ℚ) - x / unit) * unit := by
    rw [sub_mul, div_mul_cancel₀ x hunit.ne']
  rw [hscaled, abs_mul, abs_of_pos hunit]
  have herror := abs_roundHalfEven_sub_le (x / unit)
  calc
    |(roundHalfEven (x / unit) : ℚ) - x / unit| * unit ≤ 1 / 2 * unit :=
      mul_le_mul_of_nonneg_right herror hunit.le
    _ = unit / 2 := by ring

/-- The error is at most half a unit in the last place. -/
theorem abs_toBinary64_sub_le (x : ℚ) : |toBinary64 x - x| ≤ 2 ^ lastPlace x / 2 :=
  abs_roundHalfEven_mul_sub_le (zpow_pos (by norm_num) _) x

/-- The last place of what is below `2^n`. -/
theorem lastPlace_le {x : ℚ} {n : ℕ} (hn : 0 < n) (h : |x| < 2 ^ n) :
    lastPlace x ≤ n - 53 := by
  have hlog : Int.log 2 |x| < n := by
    rcases (abs_nonneg x).eq_or_lt with hzero | hpos
    · rw [← hzero, Int.log_zero_right]
      exact_mod_cast hn
    · rw [← Int.lt_zpow_iff_log_lt Nat.one_lt_two hpos]
      exact_mod_cast h
  unfold lastPlace
  omega

/-- Integers below `2^53` are doubles. -/
theorem toBinary64_intCast {n : ℤ} (h : |n| < 2 ^ 53) : toBinary64 (n : ℚ) = n := by
  have hbound : |(n : ℚ)| < 2 ^ 53 := by exact_mod_cast h
  have hplace : lastPlace (n : ℚ) ≤ 0 := by
    simpa using lastPlace_le (by norm_num) hbound
  rcases Int.eq_ofNat_of_zero_le (neg_nonneg.2 hplace) with ⟨k, hk⟩
  have hunit : (2 : ℚ) ^ lastPlace (n : ℚ) = (2 ^ k)⁻¹ := by
    rw [← zpow_natCast, ← zpow_neg, ← hk, neg_neg]
  -- So many last places make the integer.
  have hscaled : (n : ℚ) / (2 ^ k)⁻¹ = ((n * 2 ^ k : ℤ) : ℚ) := by
    rw [div_inv_eq_mul]
    push_cast
    rfl
  rw [toBinary64, hunit, hscaled, roundHalfEven_intCast]
  push_cast
  field_simp

/-- Six decimals of an amount below `10^8` survive. -/
theorem roundHalfAway_toBinary64 {x : ℚ} {k : ℤ} (hx : x * 10 ^ 6 = k) (h : |k| < 10 ^ 14) :
    roundHalfAway (toBinary64 x * 10 ^ 6) = k := by
  have hbound : |x| < 2 ^ 27 := by
    have hk : |(k : ℚ)| < 10 ^ 14 := by exact_mod_cast h
    rw [← hx, abs_mul, abs_of_pos (by norm_num : (0 : ℚ) < 10 ^ 6)] at hk
    linarith
  have hplace : (2 : ℚ) ^ lastPlace x ≤ 2 ^ (-26 : ℤ) :=
    zpow_le_zpow_right₀ (by norm_num) (by simpa using lastPlace_le (by norm_num) hbound)
  have herror : |toBinary64 x - x| ≤ 2 ^ (-26 : ℤ) / 2 :=
    (abs_toBinary64_sub_le x).trans (div_le_div_of_nonneg_right hplace (by norm_num))
  refine roundHalfAway_eq_of_abs_sub_lt ?_
  have hscaled : toBinary64 x * 10 ^ 6 - k = (toBinary64 x - x) * 10 ^ 6 := by
    rw [← hx]
    ring
  rw [hscaled, abs_mul, abs_of_pos (by norm_num : (0 : ℚ) < 10 ^ 6)]
  calc
    |toBinary64 x - x| * 10 ^ 6 ≤ 2 ^ (-26 : ℤ) / 2 * 10 ^ 6 :=
      mul_le_mul_of_nonneg_right herror (by norm_num)
    _ < 1 / 2 := by norm_num

/-! ## Overflow -/

/-- A double other than NaN and the negative infinity. -/
inductive Double
  | finite (x : ℚ)
  | infinity

namespace Double

/-- The nearest double. -/
def ofRat (x : ℚ) : Double :=
  if 2 ^ 1024 ≤ toBinary64 x then .infinity else .finite (toBinary64 x)

/-- An operation that keeps the infinity, with its result rounded. -/
def map (f : ℚ → ℚ) : Double → Double
  | finite x => ofRat (f x)
  | infinity => infinity

/-- The double is at least `t`. -/
def atLeast (d : Double) (t : ℚ) : Bool :=
  match d with
  | finite x => decide (t ≤ x)
  | infinity => true

theorem ofRat_intCast {n : ℤ} (h : |n| < 2 ^ 53) : ofRat (n : ℚ) = .finite n := by
  have hbound : (n : ℚ) < 2 ^ 53 := by exact_mod_cast lt_of_le_of_lt (le_abs_self n) h
  have hsmall : (n : ℚ) < 2 ^ 1024 :=
    hbound.trans (pow_lt_pow_right₀ one_lt_two (by norm_num))
  rw [ofRat, toBinary64_intCast h, if_neg (not_le.2 hsmall)]

end Double

end Base
end OpenRouter
