import Mathlib.Data.Nat.Digits.Defs
import OpenRouter.Backend.AuthServicer
import OpenRouter.Backend.Stripe
import OpenRouter.Base.Decimal

/-!
# Purchase — from an amount in dollars to a credit

`createPaymentIntent` is the intent that `StripeClient.create_payment_intent` asks for, in cents;
`_credit_org` turns the cents of its success into dollars again.  `credits_exactly_iff` says for
which purchases the balance grows by what was requested, and `abs_credited_sub_lt` how far off it
is otherwise.
-/

namespace OpenRouter
namespace Backend
namespace Stripe

open Base AuthServicer Billing

/-! ## Requests -/

/-- `PurchaseBody`. -/
structure PurchaseBody where
  amountUsd : ℚ
  positive : 0 < amountUsd
  atMost : amountUsd ≤ 100000

/-- `int((amount_usd * _CENTS_PER_DOLLAR).to_integral_value())`; the product has the 28 digits of
the default context. -/
def amountCents (amountUsd : ℚ) : ℤ :=
  roundHalfEven (roundDigits 28 (amountUsd * 100))

/-- What `create_payment_intent` asks Stripe for, as far as `_credit_org` reads it. -/
def createPaymentIntent (body : PurchaseBody) (orgId : UUID) : PaymentIntent where
  metadata := some (some (uuidStr orgId))
  amount := some (amountCents body.amountUsd).toNat

/-- The event of an intent that succeeds. -/
def succeeded (intent : PaymentIntent) : Event where
  type := "payment_intent.succeeded"
  object := intent

/-! ## Ids -/

section Ids

-- `UUID(s)` of a text that has other characters than digits and dashes.
variable (other : String → Option UUID)

/-- `UUID(s)`; a text of digits and dashes needs 32 digits. -/
def uuidOf (s : String) : Option UUID :=
  match (s.toList.filter (· ≠ '-')).mapM hexValue with
  | some digits =>
      if digits.length = 32 then some (BitVec.ofNat 128 (Nat.ofDigits 16 digits.reverse)) else none
  | none => other s

theorem ofDigits_range (b a n : ℕ) :
    Nat.ofDigits b ((List.range n).map fun i => a / b ^ i % b) = a % b ^ n := by
  induction n with
  | zero => simp [Nat.mod_one]
  | succ n ih =>
      rw [List.range_succ, List.map_append, Nat.ofDigits_append, ih, List.map_singleton,
        Nat.ofDigits_singleton, List.length_map, List.length_range, pow_succ, Nat.mod_mul]

theorem mapM_hexValue_hex (u : UUID) :
    (hex u).mapM hexValue = some ((List.range 32).map fun i => nibble u (31 - i)) := by
  have hall : ∀ is : List ℕ, (is.map fun i => hexDigit (nibble u (31 - i))).mapM hexValue =
      some (is.map fun i => nibble u (31 - i)) := by
    intro is
    induction is with
    | nil => rfl
    | cons i is ih =>
        rw [List.map_cons, List.mapM_cons, hexValue_nibble, ih]
        rfl
  exact hall _

/-- `UUID(str(u))` is `u`. -/
theorem uuidOf_uuidStr (u : UUID) : uuidOf other (uuidStr u) = some u := by
  have hreverse : ((List.range 32).map fun i => nibble u (31 - i)).reverse =
      (List.range 32).map (nibble u) := by
    rfl
  have hvalue : Nat.ofDigits 16 ((List.range 32).map (nibble u)) = u.toNat := by
    have hdigits := ofDigits_range 16 u.toNat 32
    rw [Nat.mod_eq_of_lt (u.isLt.trans_le (by norm_num))] at hdigits
    exact hdigits
  rw [uuidOf, filter_uuidStr, mapM_hexValue_hex]
  simp only [List.length_map, List.length_range, if_true]
  rw [hreverse, hvalue, BitVec.ofNat_toNat, BitVec.setWidth_eq]

theorem uuidStr_ne_empty (u : UUID) : uuidStr u ≠ "" := by
  intro hempty
  have hlength := congrArg List.length (filter_uuidStr u)
  rw [hempty] at hlength
  simp [hex] at hlength

end Ids

/-! ## Cents -/

def WholeCents (x : ℚ) : Prop :=
  ∃ k : ℤ, x * 100 = k

namespace PurchaseBody

variable (body : PurchaseBody)

/-- At most half a cent is rounded off, and what is behind the 28 digits. -/
theorem abs_amountCents_sub_lt : |(amountCents body.amountUsd : ℚ) - body.amountUsd * 100| < 1 := by
  have hbound : |body.amountUsd * 100| < 10 ^ 8 := by
    rw [abs_of_pos (mul_pos body.positive (by norm_num))]
    linarith [body.atMost]
  -- The product is below `10^8`, so its 28 digits go twenty places behind the point.
  have hunit : (10 : ℚ) ^ lastDigit 28 (body.amountUsd * 100) ≤ 10 ^ (-20 : ℤ) :=
    zpow_le_zpow_right₀ (by norm_num) (by simpa using lastDigit_le (by norm_num) hbound 28)
  have hdigits := (abs_roundDigits_sub_le 28 (body.amountUsd * 100)).trans
    (div_le_div_of_nonneg_right hunit (by norm_num))
  have hinteger := abs_roundHalfEven_sub_le (roundDigits 28 (body.amountUsd * 100))
  calc
    |(amountCents body.amountUsd : ℚ) - body.amountUsd * 100|
        ≤ |(amountCents body.amountUsd : ℚ) - roundDigits 28 (body.amountUsd * 100)| +
            |roundDigits 28 (body.amountUsd * 100) - body.amountUsd * 100| := abs_sub_le _ _ _
    _ ≤ 1 / 2 + 10 ^ (-20 : ℤ) / 2 := add_le_add hinteger hdigits
    _ < 1 := by norm_num

theorem amountCents_nonneg : 0 ≤ amountCents body.amountUsd := by
  have hlow := (abs_lt.1 body.abs_amountCents_sub_lt).1
  have hpositive := body.positive
  have hcents : (-1 : ℚ) < amountCents body.amountUsd := by linarith
  have hcents' : (-1 : ℤ) < amountCents body.amountUsd := by exact_mod_cast hcents
  omega

/-- What the success of the intent is worth. -/
def credited : ℚ :=
  Billing.amountUsd (amountCents body.amountUsd).toNat

theorem credited_eq : body.credited = amountCents body.amountUsd / 100 := by
  have hcast : ((amountCents body.amountUsd).toNat : ℤ) = amountCents body.amountUsd :=
    Int.toNat_of_nonneg body.amountCents_nonneg
  have hcast' : ((amountCents body.amountUsd).toNat : ℚ) = amountCents body.amountUsd := by
    exact_mod_cast hcast
  rw [credited, Billing.amountUsd, hcast']

/-- No purchase is off by a cent. -/
theorem abs_credited_sub_lt : |body.credited - body.amountUsd| < 1 / 100 := by
  have hscaled : body.credited - body.amountUsd =
      ((amountCents body.amountUsd : ℚ) - body.amountUsd * 100) / 100 := by
    rw [credited_eq]
    ring
  rw [hscaled, abs_div, abs_of_pos (by norm_num : (0 : ℚ) < 100)]
  exact div_lt_div_of_pos_right body.abs_amountCents_sub_lt (by norm_num)

/-- Exactly the whole cents survive. -/
theorem credited_eq_iff : body.credited = body.amountUsd ↔ WholeCents body.amountUsd := by
  rw [credited_eq]
  constructor
  · intro h
    exact ⟨amountCents body.amountUsd, by linarith⟩
  · rintro ⟨k, hk⟩
    -- Whole cents up to `10^7` keep all their digits.
    have hbound : |k| < 10 ^ 28 := by
      have hk' : |(k : ℚ)| < 10 ^ 28 := by
        rw [← hk, abs_of_pos (mul_pos body.positive (by norm_num))]
        linarith [body.atMost]
      exact_mod_cast hk'
    have hcents : amountCents body.amountUsd = k := by
      rw [amountCents, hk, roundDigits_intCast (by norm_num) hbound, roundHalfEven_intCast]
    rw [hcents, ← hk]
    ring

end PurchaseBody

/-! ## Credits -/

variable (other : String → Option UUID)

theorem namedOrg_succeeded (body : PurchaseBody) (org : UUID) :
    namedOrg (uuidOf other) (succeeded (createPaymentIntent body org)) = some org := by
  have hid : (createPaymentIntent body org).orgIdStr = some (uuidStr org) := by
    rw [PaymentIntent.orgIdStr, createPaymentIntent]
    exact Option.filter_some_pos (decide_eq_true (uuidStr_ne_empty org))
  show (createPaymentIntent body org).orgIdStr.bind (uuidOf other) = some org
  rw [hid, Option.bind_some, uuidOf_uuidStr]

theorem worth_succeeded (body : PurchaseBody) (org : UUID) :
    worth (uuidOf other) (succeeded (createPaymentIntent body org)) org = body.credited := by
  rw [worth, if_pos (namedOrg_succeeded other body org)]
  rfl

/-- Nothing is credited to an organisation that is gone. -/
theorem available_of_not_organization {db db' : CreditDb} {body : PurchaseBody} {org : UUID}
    (h : Delivered (uuidOf other) db (succeeded (createPaymentIntent body org)) db')
    (horg : db.organizations org ≠ true) : db'.available org = db.available org := by
  cases h with
  | @credited org' row horg' hnamed _ =>
      rw [namedOrg_succeeded, Option.some.injEq] at hnamed
      exact absurd horg' (hnamed ▸ horg)
  | unchanged => rfl

/-- One delivery of the success of a purchase adds the requested amount exactly when the
organisation is still there, the amount is a whole number of cents and the column has room. -/
theorem credits_exactly_iff (db : CreditDb) (org : UUID) (body : PurchaseBody) :
    (deliver (uuidOf other) db (succeeded (createPaymentIntent body org))).available org =
        db.available org + body.amountUsd ↔
      db.organizations org = true ∧ WholeCents body.amountUsd ∧
        Numeric.Fits (db.available org + body.amountUsd) := by
  have hdelivered :=
    delivered_deliver (uuidOf other) db (succeeded (createPaymentIntent body org))
  have hne : body.amountUsd ≠ 0 := body.positive.ne'
  by_cases horg : db.organizations org = true
  · rw [hdelivered.available_eq _ horg, worth_succeeded, add_right_inj, and_iff_right horg,
      ← body.credited_eq_iff]
    by_cases hexact : body.credited = body.amountUsd
    · rw [hexact, and_iff_right rfl]
      by_cases hfits : Numeric.Fits (db.available org + body.amountUsd)
      · rw [if_pos hfits]
        exact iff_of_true rfl hfits
      · rw [if_neg hfits]
        exact iff_of_false hne.symm hfits
    · refine iff_of_false ?_ fun h => hexact h.1
      -- Another amount is credited, or none.
      split
      · exact hexact
      · exact hne.symm
  · rw [available_of_not_organization other hdelivered horg]
    refine iff_of_false ?_ fun h => horg h.1
    rwa [left_eq_add]

/-- $10.005, half a cent more than cents can say. -/
def tenAndHalfCent : PurchaseBody where
  amountUsd := 2001 / 200
  positive := by norm_num
  atMost := by norm_num

/-- The half cent is rounded off, and ten dollars arrive. -/
theorem half_cent_is_lost :
    (deliver (uuidOf fun _ => none) newOrg
        (succeeded (createPaymentIntent tenAndHalfCent 1))).available 1 = 10 ∧
      newOrg.available 1 + tenAndHalfCent.amountUsd ≠ 10 := by
  decide +kernel

end Stripe
end Backend
end OpenRouter
