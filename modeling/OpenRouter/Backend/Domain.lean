import Mathlib.Data.Rat.Floor
import Mathlib.Tactic.Linarith
import Mathlib.Tactic.NormNum
import Mathlib.Tactic.Ring
import OpenRouter.Base.Rounding

/-!
# Domain — money, pricing and the rows they are stored in

Python's `Decimal` and Postgres' `numeric` are both `ℚ`.  That is exact for `numeric`, and for
`Decimal` as long as no result needs more than the 28 digits of the default context: amounts of
money with the columns' six decimals reach that only far beyond what a column holds.  A column
`NUMERIC(14, 6)` is `Numeric`: an integer number of micro-dollars below `10^14`, and `Numeric.store`
is the assignment to it, which rounds and may overflow.

The section on columns says once what storing does: it rounds to micro-dollars, keeps a whole number
of them as it is, and so keeps the difference of two stored values (`Numeric.store_sub`).
-/

namespace OpenRouter
namespace Backend

open Base

abbrev UUID : Type :=
  BitVec 128

/-! ## Columns -/

/-- What the database raises. -/
inductive DbError
  | numericOverflow
  | integerOverflow
  | stringTooLong
  | duplicateKey
  /-- Whatever else a statement can fail with: a foreign key, a lost connection. -/
  | other
  deriving DecidableEq, Repr

/-- A value of a `NUMERIC(14, 6)` column. -/
structure Numeric where
  micros : ℤ
  bounded : |micros| < 10 ^ 14

namespace Numeric

def toDecimal (n : Numeric) : ℚ :=
  n.micros / 10 ^ 6

def zero : Numeric :=
  { micros := 0, bounded := by norm_num }

/-- The column has room for `x`. -/
def Fits (x : ℚ) : Prop :=
  |roundHalfAway (x * 10 ^ 6)| < 10 ^ 14

instance (x : ℚ) : Decidable (Fits x) :=
  inferInstanceAs (Decidable (|roundHalfAway (x * 10 ^ 6)| < 10 ^ 14))

/-- Assign `x` to the column. -/
def store (x : ℚ) : Except DbError Numeric :=
  if h : Fits x then
    .ok { micros := roundHalfAway (x * 10 ^ 6), bounded := h }
  else
    .error .numericOverflow

@[ext] theorem ext {m n : Numeric} (h : m.micros = n.micros) : m = n := by
  cases m
  cases n
  cases h
  rfl

@[simp] theorem toDecimal_zero : zero.toDecimal = 0 := by
  simp [toDecimal, zero]

theorem toDecimal_le_iff {m n : Numeric} :
    m.toDecimal ≤ n.toDecimal ↔ m.micros ≤ n.micros := by
  rw [toDecimal, toDecimal, div_le_div_iff_of_pos_right (by norm_num), Int.cast_le]

theorem toDecimal_nonneg_iff {n : Numeric} : 0 ≤ n.toDecimal ↔ 0 ≤ n.micros := by
  rw [← toDecimal_zero, toDecimal_le_iff]
  rfl

theorem store_of_not_fits {x : ℚ} (h : ¬ Fits x) : store x = .error .numericOverflow :=
  dif_neg h

theorem exists_store_of_fits {x : ℚ} (h : Fits x) : ∃ n, store x = .ok n :=
  ⟨_, dif_pos h⟩

theorem toDecimal_mul (n : Numeric) : n.toDecimal * 10 ^ 6 = n.micros := by
  unfold toDecimal
  ring

theorem micros_of_store {x : ℚ} {n : Numeric} (h : store x = .ok n) :
    n.micros = roundHalfAway (x * 10 ^ 6) := by
  unfold store at h
  split at h
  · cases h
    rfl
  · cases h

/-- A whole number of micro-dollars is stored as it is. -/
theorem toDecimal_of_store_whole {x : ℚ} {k : ℤ} {n : Numeric} (hx : x * 10 ^ 6 = k)
    (h : store x = .ok n) : n.toDecimal = x := by
  have hmicros : n.micros = k := by
    rw [micros_of_store h, hx, roundHalfAway_intCast]
  have hscaled : n.toDecimal * 10 ^ 6 = x * 10 ^ 6 := by
    rw [toDecimal_mul, hmicros, hx]
  linarith

/-- A stored value is what was assigned exactly when that was a whole number of micro-dollars. -/
theorem toDecimal_eq_iff_of_store {x : ℚ} {n : Numeric} (h : store x = .ok n) :
    n.toDecimal = x ↔ ∃ k : ℤ, x * 10 ^ 6 = k := by
  constructor
  · intro heq
    exact ⟨n.micros, by rw [← heq, toDecimal_mul]⟩
  · rintro ⟨k, hk⟩
    exact toDecimal_of_store_whole hk h

/-- A value that rounds to something between zero and a stored one fits. -/
theorem exists_store_of_le {x : ℚ} {m : Numeric} (h0 : 0 ≤ x)
    (hle : roundHalfAway (x * 10 ^ 6) ≤ m.micros) : ∃ n, store x = .ok n := by
  have hnonneg : 0 ≤ roundHalfAway (x * 10 ^ 6) := roundHalfAway_nonneg (by positivity)
  have hfits : Fits x := by
    rw [Fits, abs_of_nonneg hnonneg]
    exact lt_of_le_of_lt (hle.trans (le_abs_self _)) m.bounded
  exact exists_store_of_fits hfits

/-- The difference of two stored values is stored as it is, when the first covers the second. -/
theorem store_sub {m n : Numeric} (h0 : 0 ≤ n.micros) (hle : n.micros ≤ m.micros) :
    ∃ v, store (m.toDecimal - n.toDecimal) = .ok v ∧ v.micros = m.micros - n.micros := by
  have hwhole : (m.toDecimal - n.toDecimal) * 10 ^ 6 = ((m.micros - n.micros : ℤ) : ℚ) := by
    rw [sub_mul, toDecimal_mul, toDecimal_mul]
    push_cast
    ring
  have hround : roundHalfAway ((m.toDecimal - n.toDecimal) * 10 ^ 6) = m.micros - n.micros := by
    rw [hwhole, roundHalfAway_intCast]
  have hsub : 0 ≤ m.toDecimal - n.toDecimal := sub_nonneg.2 (toDecimal_le_iff.2 hle)
  rcases exists_store_of_le (m := m) hsub (by omega) with ⟨v, hv⟩
  exact ⟨v, hv, by rw [micros_of_store hv, hround]⟩

end Numeric

/-! ## Value objects -/

/-- `Money`; a negative amount is a `ValueError`. -/
structure Money where
  amount : ℚ
  nonneg : 0 ≤ amount

namespace Money

def zero : Money :=
  { amount := 0, nonneg := le_rfl }

def ofAmount (amount : ℚ) : Except String Money :=
  if h : 0 ≤ amount then
    .ok { amount := amount, nonneg := h }
  else
    .error "Money cannot be negative"

theorem amount_of_ofAmount {x : ℚ} {m : Money} (h : ofAmount x = .ok m) : m.amount = x := by
  unfold ofAmount at h
  split at h
  · cases h
    rfl
  · cases h

end Money

structure TokenCounts where
  input : ℤ := 0
  output : ℤ := 0
  cachedInput : ℤ := 0
  reasoning : ℤ := 0

/-- Rates in dollars for a million tokens. -/
structure ModelPricing where
  inputPerMillion : ℚ
  outputPerMillion : ℚ
  cachedInputPerMillion : Option ℚ := none
  reasoningPerMillion : Option ℚ := none

namespace ModelPricing

/-- The term of a rate that may be `None`. -/
def optionalTerm (tokens : ℤ) (rate : Option ℚ) : ℚ :=
  match rate with
  | some r => if tokens ≠ 0 then tokens * r / 1000000 else 0
  | none => 0

def cost (p : ModelPricing) (t : TokenCounts) : Except String Money :=
  Money.ofAmount
    (t.input * p.inputPerMillion / 1000000 + t.output * p.outputPerMillion / 1000000
      + optionalTerm t.cachedInput p.cachedInputPerMillion
      + optionalTerm t.reasoning p.reasoningPerMillion)

/-- Tokens times rates: the cost in micro-dollars. -/
def microCost (p : ModelPricing) (t : TokenCounts) : ℚ :=
  t.input * p.inputPerMillion + t.output * p.outputPerMillion
    + t.cachedInput * p.cachedInputPerMillion.getD 0
    + t.reasoning * p.reasoningPerMillion.getD 0

theorem optionalTerm_mul (tokens : ℤ) (rate : Option ℚ) :
    optionalTerm tokens rate * 10 ^ 6 = tokens * rate.getD 0 := by
  cases rate with
  | none => simp [optionalTerm]
  | some r =>
      by_cases h : tokens = 0
      · simp [optionalTerm, h]
      · simp only [optionalTerm, ne_eq, h, not_false_eq_true, if_true, Option.getD_some]
        ring

theorem amount_of_cost {p : ModelPricing} {t : TokenCounts} {m : Money} (h : p.cost t = .ok m) :
    m.amount * 10 ^ 6 = p.microCost t := by
  rw [Money.amount_of_ofAmount h, microCost, ← optionalTerm_mul, ← optionalTerm_mul]
  ring

end ModelPricing

/-! ## Rows -/

/-- A row of `credit_balances`; the defaults are the table's. -/
structure CreditBalance where
  available : Numeric := Numeric.zero
  reserved : Numeric := Numeric.zero
  monthlyCap : Option Numeric := none
  dailyCap : Option Numeric := none
  hardStop : Bool := true

/-- `UsageRecord`, the entity. -/
structure UsageRecord where
  id : UUID
  orgId : UUID
  keyId : UUID
  model : String
  provider : String
  tokens : TokenCounts
  cost : Money
  latencyMs : ℤ
  cacheHit : Bool

/-- A row of `usage_records`. -/
structure UsageRow where
  id : UUID
  orgId : UUID
  keyId : UUID
  model : String
  provider : String
  inputTokens : ℤ
  outputTokens : ℤ
  cachedInputTokens : ℤ
  reasoningTokens : ℤ
  costUsd : Numeric
  latencyMs : ℤ
  cacheHit : Bool

end Backend
end OpenRouter
