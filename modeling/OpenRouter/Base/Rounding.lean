import Mathlib.Algebra.Order.Floor.Ring
import Mathlib.Data.Rat.Floor
import Mathlib.Tactic.Linarith
import Mathlib.Tactic.NormNum

/-!
# Rounding — half away from zero

`roundHalfAway` rounds to the nearest integer, ties away from zero, as fixed-point columns do
with a value that has too many decimals.

What the rounding keeps of `x` is at least `x` exactly when the fraction of `x` is zero or at least
one half (`le_roundHalfAway_iff`).
-/

namespace OpenRouter
namespace Base

variable {α : Type*} [Field α] [LinearOrder α] [IsStrictOrderedRing α] [FloorRing α]

/-- The nearest integer; ties go away from zero. -/
def roundHalfAway (x : α) : ℤ :=
  if 0 ≤ x then ⌊x + 1 / 2⌋ else -⌊-x + 1 / 2⌋

omit [IsStrictOrderedRing α] in
theorem roundHalfAway_of_nonneg {x : α} (h : 0 ≤ x) : roundHalfAway x = ⌊x + 1 / 2⌋ :=
  if_pos h

theorem floor_intCast_add_half (n : ℤ) : ⌊(n : α) + 1 / 2⌋ = n := by
  rw [Int.floor_eq_iff]
  constructor <;> linarith

/-- Integers are left alone. -/
@[simp] theorem roundHalfAway_intCast (n : ℤ) : roundHalfAway (n : α) = n := by
  unfold roundHalfAway
  split
  · exact floor_intCast_add_half n
  · have hneg : ⌊-(n : α) + 1 / 2⌋ = -n := by
      simpa using floor_intCast_add_half (α := α) (-n)
    rw [hneg, neg_neg]

theorem roundHalfAway_nonneg {x : α} (h : 0 ≤ x) : 0 ≤ roundHalfAway x := by
  rw [roundHalfAway_of_nonneg h]
  exact Int.floor_nonneg.2 (by linarith)

/-- Rounding a nonnegative value below an integer stays at or below it. -/
theorem roundHalfAway_le_of_le {x : α} {n : ℤ} (h0 : 0 ≤ x) (h : x ≤ n) : roundHalfAway x ≤ n := by
  rw [roundHalfAway_of_nonneg h0]
  calc
    ⌊x + 1 / 2⌋ ≤ ⌊(n : α) + 1 / 2⌋ := Int.floor_le_floor (by linarith)
    _ = n := floor_intCast_add_half n

/-- What is less than a half away from an integer is rounded to it. -/
theorem roundHalfAway_eq_of_abs_sub_lt {x : α} {n : ℤ} (h : |x - n| < 1 / 2) :
    roundHalfAway x = n := by
  rcases abs_lt.1 h with ⟨hlow, hhigh⟩
  unfold roundHalfAway
  split
  · rw [Int.floor_eq_iff]
    constructor <;> linarith
  · have hneg : ⌊-x + 1 / 2⌋ = -n := by
      rw [Int.floor_eq_iff]
      push_cast
      constructor <;> linarith
    rw [hneg, neg_neg]

/-- Rounding does not lose anything exactly when the fraction is zero or at least one half. -/
theorem le_roundHalfAway_iff {x : α} (hx : 0 ≤ x) :
    x ≤ (roundHalfAway x : ℤ) ↔ Int.fract x = 0 ∨ 1 / 2 ≤ Int.fract x := by
  have hsum : (⌊x⌋ : α) + Int.fract x = x := Int.floor_add_fract x
  have h0 : 0 ≤ Int.fract x := Int.fract_nonneg x
  have h1 : Int.fract x < 1 := Int.fract_lt_one x
  rw [roundHalfAway_of_nonneg hx]
  by_cases hhalf : 1 / 2 ≤ Int.fract x
  · have hfloor : ⌊x + 1 / 2⌋ = ⌊x⌋ + 1 := by
      rw [Int.floor_eq_iff]
      push_cast
      constructor <;> linarith
    rw [hfloor]
    push_cast
    exact ⟨fun _ => .inr hhalf, fun _ => by linarith⟩
  · have hfloor : ⌊x + 1 / 2⌋ = ⌊x⌋ := by
      rw [Int.floor_eq_iff]
      constructor <;> linarith
    rw [hfloor]
    constructor
    · intro hle
      exact .inl (by linarith)
    · rintro (hzero | habove)
      · linarith
      · exact absurd habove hhalf

end Base
end OpenRouter
