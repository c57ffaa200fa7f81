import OpenRouter.Backend.AuthServicer
import OpenRouter.Backend.Billing
import OpenRouter.Base.Transition

/-!
# Spending — metering beside reservations

The rule on what may be spent stands in the entity, which leaves reserved credit alone, and in the
`WHERE` clause of `deduct_atomic`, which does not look at it.  `lawful_iff_spares` says for which
runs of `meter` the two agree.
-/

namespace OpenRouter
namespace Backend
namespace Spending

open Base Billing Routes
open AuthServicer (Covered getForUpdate toDomain validateKey)

/-! ## Runs of meter -/

structure MeterCall where
  cmd : MeterUsageCommand
  /-- The draw of `uuid4`. -/
  id : UUID
  fault : Option DbError := none

/-- A call that raises commits nothing. -/
def step (l : Ledger) (c : MeterCall) : Option Ledger :=
  match meter l c.cmd c.id c.fault with
  | .ok (_, l') => some l'
  | .error _ => some l

/-- The balance is covered, so that `ValidateKey` answers for every key of the organisation. -/
structure Sound (l : Ledger) : Prop where
  covered : ∀ b, l.balance = some b → Covered b
  answers : ∀ db now keyHash key, findByLookupHash db keyHash = some key →
    db.creditBalances key.orgId = l.balance → ∃ resp, validateKey db now keyHash = .ok resp

/-- The call deducts what the entity would let through, and leaves a sound balance. -/
structure Lawful (l : Ledger) (c : MeterCall) : Prop where
  agrees : ∀ b cost, l.balance = some b → c.cmd.charge = .ok cost →
    ((∃ row, deductAtomic l.balance cost = .ok (row, true)) ↔
      (toDomain c.cmd.orgId b).assertCanSpend cost = .ok ())
  sound : ∀ l', step l c = some l' → Sound l'

/-- The charge is no more than what is usable, unless its whole micro-dollars are more than what is
available. -/
def Spares (l : Ledger) (c : MeterCall) : Prop :=
  ∀ b cost, l.balance = some b → c.cmd.charge = .ok cost →
    roundHalfAway (cost.amount * 10 ^ 6) ≤ b.available.micros →
    cost.amount ≤ b.available.toDecimal - b.reserved.toDecimal

/-- What is usable is a whole number of micro-dollars, so a usable charge is usable as rounded. -/
theorem lost_le_of_usable {b : CreditBalance} {cost : Money}
    (hle : cost.amount ≤ b.available.toDecimal - b.reserved.toDecimal) :
    lost cost ≤ b.available.micros - b.reserved.micros := by
  have hnonneg : 0 ≤ cost.amount * 10 ^ 6 := mul_nonneg cost.nonneg (by norm_num)
  refine roundHalfAway_le_of_le hnonneg ?_
  push_cast
  rw [← Numeric.toDecimal_mul, ← Numeric.toDecimal_mul]
  linarith

/-! ## One call -/

theorem sound_of_covered {l : Ledger} (h : ∀ b, l.balance = some b → Covered b) : Sound l where
  covered := h
  answers := by
    intro db now keyHash key hfind hrow
    refine AuthServicer.exists_validateKey ?_
    intro key' hfind'
    rw [hfind, Option.some.injEq] at hfind'
    subst hfind'
    rw [getForUpdate, hrow]
    cases hbalance : l.balance with
    | none => exact { nonneg := by simp, le := by simp }
    | some b => exact h b hbalance

/-- A deduction of no more than what is usable leaves the reservations covered. -/
theorem covered_of_deductAtomic {b b' : CreditBalance} {amount : Money} (h : Covered b)
    (hle : amount.amount ≤ b.available.toDecimal - b.reserved.toDecimal)
    (hdeduct : deductAtomic (some b) amount = .ok (some b', true)) : Covered b' := by
  rcases deductAtomic_eq_true hdeduct with ⟨b₀, v, hb, -, hv, hb'⟩
  cases hb
  cases hb'
  refine { nonneg := h.nonneg, le := ?_ }
  have hlost := lost_le_of_usable hle
  rw [Numeric.toDecimal_le_iff, hv]
  change b.reserved.micros ≤ _
  omega

/-- What a call that spares the reservations leaves. -/
theorem covered_of_step {l l' : Ledger} {c : MeterCall} (h : ∀ b, l.balance = some b → Covered b)
    (hspares : Spares l c) (hstep : step l c = some l') : ∀ b, l'.balance = some b → Covered b := by
  intro b hb
  unfold step at hstep
  split at hstep
  · rename_i r l₁ hmeter
    cases hstep
    rcases meter_eq_ok hmeter with ⟨cost, balance, row, hcost, hdeduct, -, -, rfl⟩
    unfold deduct at hdeduct
    split at hdeduct
    · split at hdeduct
      · rename_i row' hrow
        cases hdeduct
        rcases deductAtomic_eq_true hrow with ⟨b₀, v, hb₀, hle, -, -⟩
        rw [hb₀] at hrow
        cases hb
        exact covered_of_deductAtomic (h b₀ hb₀) (hspares b₀ cost hb₀ hcost hle) hrow
      · cases hdeduct
      · cases hdeduct
    · cases hdeduct
      exact h b hb
  · cases hstep
    exact h b hb

theorem lawful_iff_spares_of_sound {l : Ledger} (hs : Sound l) (c : MeterCall) :
    Lawful l c ↔ Spares l c := by
  have hspend : ∀ (b : CreditBalance) (cost : Money),
      (toDomain c.cmd.orgId b).assertCanSpend cost = .ok () ↔
        cost.amount ≤ b.available.toDecimal - b.reserved.toDecimal :=
    fun b cost => Reservations.CreditBalance.assertCanSpend_eq_ok_iff
  constructor
  · intro hlawful b cost hb hcost hle
    have hagrees := hlawful.agrees b cost hb hcost
    rw [hb, exists_deductAtomic_iff, hspend] at hagrees
    exact hagrees.1 hle
  · intro hspares
    constructor
    · intro b cost hb hcost
      rw [hb, exists_deductAtomic_iff, hspend]
      refine ⟨hspares b cost hb hcost, ?_⟩
      intro hle
      have hlost := lost_le_of_usable hle
      have hreserved := Numeric.toDecimal_nonneg_iff.1 (hs.covered b hb).nonneg
      omega
    · intro l' hstep
      exact sound_of_covered (covered_of_step hs.covered hspares hstep)

/-! ## Runs -/

/-- Along a run of calls the two rules agree exactly when no charge eats into a reservation. -/
theorem lawful_iff_spares (l : Ledger) (calls : List MeterCall)
    (hcovered : ∀ b, l.balance = some b → Covered b) :
    Guarded step Lawful l calls ↔ Guarded step Spares l calls := by
  refine guarded_iff (fun l c hs => lawful_iff_spares_of_sound hs c) ?_ (sound_of_covered hcovered)
  intro l c l' hs hspares hstep
  exact sound_of_covered (covered_of_step hs.covered hspares hstep)

/-! ### Six of ten dollars reserved -/

def wholeDollars (n : ℕ) (h : n < 100) : Numeric where
  micros := n * 10 ^ 6
  bounded := by
    rw [abs_of_nonneg (by positivity)]
    omega

def sixReserved : Ledger where
  balance :=
    some
      { available := wholeDollars 10 (by norm_num)
        reserved := wholeDollars 6 (by norm_num) }
  usage := []

theorem covered_sixReserved : ∀ b, sixReserved.balance = some b → Covered b := by
  rintro b hb
  cases hb
  constructor <;> norm_num [Numeric.toDecimal, wholeDollars]

/-- A million tokens at this many dollars. -/
def callFor (dollars : ℕ) : MeterCall where
  cmd :=
    { orgId := 1
      keyId := 2
      model := "gpt-4o"
      provider := "openai"
      tokens := { input := 1000000 }
      pricing := { inputPerMillion := dollars, outputPerMillion := 0 }
      latencyMs := 900 }
  id := 3

theorem lawful_iff_spares_fourDollars :
    Guarded step Lawful sixReserved [callFor 4] ↔ Guarded step Spares sixReserved [callFor 4] :=
  lawful_iff_spares sixReserved [callFor 4] covered_sixReserved

/-- Five dollars are deducted, although the entity would let no more than four through. -/
theorem deduction_eats_reservation :
    ¬ ∀ (l : Ledger) (calls : List MeterCall), (∀ b, l.balance = some b → Covered b) →
      Guarded step Lawful l calls := by
  intro h
  have hlawful := (h sixReserved [callFor 5] covered_sixReserved).1
  have hspares := (lawful_iff_spares_of_sound (sound_of_covered covered_sixReserved) _).1 hlawful
  have hcost : (callFor 5).cmd.charge = .ok { amount := 5, nonneg := by norm_num } := by
    norm_num [callFor, MeterUsageCommand.charge, ModelPricing.cost, ModelPricing.optionalTerm,
      Money.ofAmount]
  have hround : roundHalfAway ((5 : ℚ) * 10 ^ 6) ≤ (wholeDollars 10 (by norm_num)).micros :=
    roundHalfAway_le_of_le (by norm_num) (by norm_num [wholeDollars])
  have hle := hspares _ _ rfl hcost hround
  norm_num [Numeric.toDecimal, wholeDollars] at hle

end Spending
end Backend
end OpenRouter
