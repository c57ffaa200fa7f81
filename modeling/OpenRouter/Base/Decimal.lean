import OpenRouter.Base.Binary64

/-!
# Decimal — arithmetic to a number of digits

`roundDigits` is what a decimal context does with an exact result: the leading digits are kept,
ties to the even last one.  Decimals are their values here, and exponents are not bounded.
-/

namespace OpenRouter
namespace Base

/-- The exponent of the last of so many digits. -/
def lastDigit (digits : ℕ) (x : ℚ) : ℤ :=
  Int.log 10 |x| + 1 - digits

def roundDigits (digits : ℕ) (x : ℚ) : ℚ :=
  roundHalfEven (x / 10 ^ lastDigit digits x) * 10 ^ lastDigit digits x

/-- The error is at most half a unit in the last digit. -/
theorem abs_roundDigits_sub_le (digits : ℕ) (x : ℚ) :
    |roundDigits digits x - x| ≤ 10 ^ lastDigit digits x / 2 :=
  abs_roundHalfEven_mul_sub_le (zpow_pos (by norm_num) _) x

/-- The last digit of what is below `10^n`. -/
theorem lastDigit_le {x : ℚ} {n : ℕ} (hn : 0 < n) (h : |x| < 10 ^ n) (digits : ℕ) :
    lastDigit digits x ≤ n - digits := by
  have hlog : Int.log 10 |x| < n := by
    rcases (abs_nonneg x).eq_or_lt with hzero | hpos
    · rw [← hzero, Int.log_zero_right]
      exact_mod_cast hn
    · rw [← Int.lt_zpow_iff_log_lt (by norm_num) hpos]
      exact_mod_cast h
  unfold lastDigit
  omega

/-- An integer of so many digits is kept. -/
theorem roundDigits_intCast {digits : ℕ} (hdigits : 0 < digits) {k : ℤ} (h : |k| < 10 ^ digits) :
    roundDigits digits (k : ℚ) = k := by
  have hk : |(k : ℚ)| < 10 ^ digits := by exact_mod_cast h
  have hlast := lastDigit_le hdigits hk digits
  rcases Int.eq_ofNat_of_zero_le (show 0 ≤ -lastDigit digits (k : ℚ) by omega) with ⟨n, hn⟩
  have hneg : lastDigit digits (k : ℚ) = -n := by omega
  -- The last digit stands behind the point, so the scaled integer is one.
  have hwhole : (k : ℚ) / 10 ^ (-n : ℤ) = ((k * 10 ^ n : ℤ) : ℚ) := by
    rw [zpow_neg, zpow_natCast, div_inv_eq_mul]
    push_cast
    rfl
  have hpos : (0 : ℚ) < 10 ^ (-n : ℤ) := zpow_pos (by norm_num) _
  rw [roundDigits, hneg, hwhole, roundHalfEven_intCast, ← hwhole, div_mul_cancel₀ _ hpos.ne']

end Base
end OpenRouter
