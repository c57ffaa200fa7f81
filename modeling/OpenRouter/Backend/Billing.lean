import Mathlib.Algebra.BigOperators.Group.List.Basic
import Mathlib.Data.List.Forall2
import OpenRouter.Backend.Domain

/-!
# Billing — metering and top-ups on one organisation's ledger

`meter` is `BillingService.meter` and `creditOrg` the body of `StripeClient._credit_org`, each as
one transaction on the committed rows of one organisation: its `credit_balances` row and its
`usage_records`.

What a ledger has after a run of successful operations is stated twice.  `run_available` says it
with the rounding of the columns; `exact_iff_wholeMicros` says when the rounding does not show.
-/

namespace OpenRouter
namespace Backend
namespace Billing

open Base

/-! ## Repositories -/

/-- The rows of one organisation. -/
structure Ledger where
  balance : Option CreditBalance
  usage : List UsageRow

/-- The available credit that a row stands for. -/
def availableOf (row : Option CreditBalance) : ℚ :=
  match row with
  | some b => b.available.toDecimal
  | none => 0

def Ledger.available (l : Ledger) : ℚ :=
  availableOf l.balance

/-- `SqlCreditRepository.deduct_atomic`: the row the `UPDATE` leaves, and whether it met one.  The
statement casts its bound amount to the column's type before it compares and subtracts. -/
def deductAtomic (row : Option CreditBalance) (amount : Money) :
    Except DbError (Option CreditBalance × Bool) := do
  let bound ← Numeric.store amount.amount
  match row with
  | none => return (none, false)
  | some b =>
      if bound.toDecimal ≤ b.available.toDecimal then
        let available ← Numeric.store (b.available.toDecimal - bound.toDecimal)
        return (some { b with available := available }, true)
      else
        return (some b, false)

/-- A value of an `INTEGER` column. -/
def fitsInteger (n : ℤ) : Bool :=
  -2147483648 ≤ n && n ≤ 2147483647

/-- `SqlUsageRepository.add`, up to the flush; `fault` is what the database itself may raise. -/
def usageAdd (r : UsageRecord) (fault : Option DbError) : Except DbError UsageRow :=
  match fault with
  | some e => .error e
  | none =>
      if 200 < r.model.length ∨ 100 < r.provider.length then
        .error .stringTooLong
      else if [r.tokens.input, r.tokens.output, r.tokens.cachedInput, r.tokens.reasoning,
          r.latencyMs].all fitsInteger then do
        let costUsd ← Numeric.store r.cost.amount
        return {
          id := r.id
          orgId := r.orgId
          keyId := r.keyId
          model := r.model
          provider := r.provider
          inputTokens := r.tokens.input
          outputTokens := r.tokens.output
          cachedInputTokens := r.tokens.cachedInput
          reasoningTokens := r.tokens.reasoning
          costUsd := costUsd
          latencyMs := r.latencyMs
          cacheHit := r.cacheHit }
      else
        .error .integerOverflow

/-! ## Use cases -/

structure MeterUsageCommand where
  orgId : UUID
  keyId : UUID
  model : String
  provider : String
  tokens : TokenCounts
  pricing : ModelPricing
  latencyMs : ℤ
  cacheHit : Bool := false

inductive MeterError
  | valueError (msg : String)
  | insufficientCredits (cost : Money) (org : UUID)
  | db (e : DbError)

namespace MeterUsageCommand

/-- What `meter` charges. -/
def charge (cmd : MeterUsageCommand) : Except String Money :=
  if cmd.cacheHit then .ok Money.zero else cmd.pricing.cost cmd.tokens

/-- The record `meter` builds; `id` is the draw of `uuid4`. -/
def record (cmd : MeterUsageCommand) (id : UUID) (cost : Money) : UsageRecord :=
  { id := id
    orgId := cmd.orgId
    keyId := cmd.keyId
    model := cmd.model
    provider := cmd.provider
    tokens := cmd.tokens
    cost := cost
    latencyMs := cmd.latencyMs
    cacheHit := cmd.cacheHit }

/-- Tokens times rates, or nothing on a cache hit: the charge in micro-dollars. -/
def microCharge (cmd : MeterUsageCommand) : ℚ :=
  if cmd.cacheHit then 0 else cmd.pricing.microCost cmd.tokens

theorem amount_of_charge {cmd : MeterUsageCommand} {m : Money} (h : cmd.charge = .ok m) :
    m.amount * 10 ^ 6 = cmd.microCharge := by
  unfold charge at h
  unfold microCharge
  split at h
  · cases h
    simp_all [Money.zero]
  · rename_i hhit
    rw [if_neg hhit]
    exact ModelPricing.amount_of_cost h

end MeterUsageCommand

/-- The deduction of `meter`; nothing is deducted for a zero cost. -/
def deduct (row : Option CreditBalance) (cost : Money) (org : UUID) :
    Except MeterError (Option CreditBalance) :=
  if 0 < cost.amount then
    match deductAtomic row cost with
    | .ok (row', true) => .ok row'
    | .ok (_, false) => .error (.insufficientCredits cost org)
    | .error e => .error (.db e)
  else
    .ok row

/-- `BillingService.meter` on the committed rows: the record it returns and what it commits. -/
def meter (l : Ledger) (cmd : MeterUsageCommand) (id : UUID) (fault : Option DbError) :
    Except MeterError (UsageRecord × Ledger) :=
  match cmd.charge with
  | .error msg => .error (.valueError msg)
  | .ok cost =>
      match deduct l.balance cost cmd.orgId with
      | .error e => .error e
      | .ok balance =>
          match usageAdd (cmd.record id cost) fault with
          | .error e => .error (.db e)
          | .ok row => .ok (cmd.record id cost, { balance := balance, usage := l.usage ++ [row] })

/-- `Decimal(amount) / _CENTS_PER_DOLLAR`. -/
def amountUsd (cents : ℕ) : ℚ :=
  cents / 100

/-- What `_credit_org` leaves in the row: a new one, or the old one with more credit. -/
def creditOrg (row : Option CreditBalance) (cents : ℕ) : Except DbError CreditBalance :=
  match row with
  | none => do
      let available ← Numeric.store (amountUsd cents)
      return { available := available }
  | some b => do
      let available ← Numeric.store (b.available.toDecimal + amountUsd cents)
      return { b with available := available }

/-! ## What one operation does -/

theorem amountUsd_mul (cents : ℕ) : amountUsd cents * 10 ^ 6 = ((cents * 10000 : ℕ) : ℤ) := by
  unfold amountUsd
  push_cast
  ring

/-- Cents are whole micro-dollars, so a top-up is exact. -/
theorem available_of_creditOrg {row : Option CreditBalance} {cents : ℕ} {b : CreditBalance}
    (h : creditOrg row cents = .ok b) :
    b.available.toDecimal = availableOf row + amountUsd cents := by
  cases row with
  | none =>
      cases hstore : Numeric.store (amountUsd cents) with
      | error e => simp [creditOrg, hstore] at h
      | ok v =>
          simp only [creditOrg, hstore] at h
          cases h
          simpa [availableOf] using Numeric.toDecimal_of_store_whole (amountUsd_mul cents) hstore
  | some b₀ =>
      cases hstore : Numeric.store (b₀.available.toDecimal + amountUsd cents) with
      | error e => simp [creditOrg, hstore] at h
      | ok v =>
          simp only [creditOrg, hstore] at h
          cases h
          have hwhole : (b₀.available.toDecimal + amountUsd cents) * 10 ^ 6 =
              ((b₀.available.micros + (cents * 10000 : ℕ) : ℤ) : ℚ) := by
            rw [add_mul, amountUsd_mul, Numeric.toDecimal_mul]
            push_cast
            ring
          exact Numeric.toDecimal_of_store_whole hwhole hstore

/-- A top-up succeeds exactly when the column has room for the sum. -/
theorem exists_creditOrg_iff {row : Option CreditBalance} {cents : ℕ} :
    (∃ b, creditOrg row cents = .ok b) ↔ Numeric.Fits (availableOf row + amountUsd cents) := by
  have hstore : ∀ x : ℚ, (∃ n, Numeric.store x = .ok n) ↔ Numeric.Fits x := by
    intro x
    constructor
    · rintro ⟨n, hn⟩
      by_contra hfits
      rw [Numeric.store_of_not_fits hfits] at hn
      cases hn
    · exact Numeric.exists_store_of_fits
  rw [← hstore]
  cases row with
  | none =>
      simp only [creditOrg, availableOf, zero_add]
      cases Numeric.store (amountUsd cents) with
      | error e => simp
      | ok v => exact ⟨fun _ => ⟨v, rfl⟩, fun _ => ⟨_, rfl⟩⟩
  | some b =>
      simp only [creditOrg, availableOf]
      cases Numeric.store (b.available.toDecimal + amountUsd cents) with
      | error e => simp
      | ok v => exact ⟨fun _ => ⟨v, rfl⟩, fun _ => ⟨_, rfl⟩⟩

/-- What the balance loses when `cost` is deducted, in micro-dollars. -/
def lost (cost : Money) : ℤ :=
  roundHalfAway (cost.amount * 10 ^ 6)

theorem lost_nonneg (cost : Money) : 0 ≤ lost cost :=
  roundHalfAway_nonneg (mul_nonneg cost.nonneg (by norm_num))

/-- An `UPDATE` that meets the row found the rounded amount covered, and takes it off. -/
theorem deductAtomic_eq_true {row row' : Option CreditBalance} {amount : Money}
    (h : deductAtomic row amount = .ok (row', true)) :
    ∃ b v, row = some b ∧ lost amount ≤ b.available.micros ∧
      v.micros = b.available.micros - lost amount ∧ row' = some { b with available := v } := by
  cases hbound : Numeric.store amount.amount with
  | error e =>
      rw [deductAtomic, hbound] at h
      cases h
  | ok bound =>
      have hlost : bound.micros = lost amount := Numeric.micros_of_store hbound
      rw [deductAtomic, hbound] at h
      cases row with
      | none => cases h
      | some b =>
          by_cases hle : bound.toDecimal ≤ b.available.toDecimal
          · have hmicros := Numeric.toDecimal_le_iff.1 hle
            have hnonneg : 0 ≤ bound.micros := hlost ▸ lost_nonneg amount
            rcases Numeric.store_sub hnonneg hmicros with ⟨v, hstore, hv⟩
            simp only [bind, Except.bind, hle, if_true, hstore] at h
            cases h
            rw [hlost] at hmicros hv
            exact ⟨b, v, rfl, hmicros, hv, rfl⟩
          · simp only [bind, Except.bind, hle, if_false] at h
            cases h

/-- The `UPDATE` meets the row exactly when the whole of `available` covers the rounded amount. -/
theorem exists_deductAtomic_iff {b : CreditBalance} {amount : Money} :
    (∃ row, deductAtomic (some b) amount = .ok (row, true)) ↔
      lost amount ≤ b.available.micros := by
  constructor
  · rintro ⟨row, h⟩
    rcases deductAtomic_eq_true h with ⟨b', v, hb, hle, -, -⟩
    cases hb
    exact hle
  · intro hle
    rcases Numeric.exists_store_of_le amount.nonneg hle with ⟨bound, hbound⟩
    have hlost : bound.micros = lost amount := Numeric.micros_of_store hbound
    rw [← hlost] at hle
    rcases Numeric.store_sub (hlost ▸ lost_nonneg amount) hle with ⟨v, hstore, -⟩
    refine ⟨some { b with available := v }, ?_⟩
    rw [deductAtomic, hbound]
    simp only [bind, Except.bind, Numeric.toDecimal_le_iff.2 hle, if_true, hstore]
    rfl

/-- A deduction that succeeds takes `lost cost` off the balance. -/
theorem available_of_deduct {row row' : Option CreditBalance} {cost : Money} {org : UUID}
    (h : deduct row cost org = .ok row') :
    availableOf row' = availableOf row - lost cost / 10 ^ 6 := by
  unfold deduct at h
  split at h
  · split at h
    · rename_i row'' hrow
      cases h
      rcases deductAtomic_eq_true hrow with ⟨b, v, rfl, -, hv, rfl⟩
      simp only [availableOf, Numeric.toDecimal, hv]
      push_cast
      ring
    · cases h
    · cases h
  · rename_i hpos
    cases h
    -- Nothing is deducted, and nothing is lost.
    have hzero : cost.amount = 0 := le_antisymm (not_lt.1 hpos) cost.nonneg
    have hlost : lost cost = 0 := by
      rw [lost, hzero, zero_mul, ← Int.cast_zero, roundHalfAway_intCast]
    rw [hlost]
    simp

/-- A deduction leaves no less than nothing. -/
theorem nonneg_of_deduct {row row' : Option CreditBalance} {cost : Money} {org : UUID}
    (h : deduct row cost org = .ok row') (h0 : 0 ≤ availableOf row) : 0 ≤ availableOf row' := by
  unfold deduct at h
  split at h
  · split at h
    · rename_i row'' hrow
      cases h
      rcases deductAtomic_eq_true hrow with ⟨b, v, rfl, hle, hv, rfl⟩
      exact Numeric.toDecimal_nonneg_iff.2 (by rw [hv]; omega)
    · cases h
    · cases h
  · cases h
    exact h0

/-- The row is that of the record, with its cost as the column rounds it. -/
def Stored (row : UsageRow) (r : UsageRecord) : Prop :=
  row.id = r.id ∧ Numeric.store r.cost.amount = .ok row.costUsd

/-- The row that `add` stores carries the record's id and its cost as the column stores it. -/
theorem usageAdd_eq_ok {r : UsageRecord} {fault : Option DbError} {row : UsageRow}
    (h : usageAdd r fault = .ok row) :
    Stored row r := by
  unfold usageAdd at h
  split at h
  · cases h
  · split at h
    · cases h
    · split at h
      · cases hstore : Numeric.store r.cost.amount with
        | error e => simp [hstore] at h
        | ok v =>
            simp only [hstore] at h
            cases h
            exact ⟨rfl, hstore⟩
      · cases h

/-- What `add` stores does not depend on the fault it did not meet. -/
theorem usageAdd_none_of_ok {r : UsageRecord} {fault : Option DbError} {row : UsageRow}
    (h : usageAdd r fault = .ok row) : usageAdd r none = .ok row := by
  cases fault with
  | none => exact h
  | some e => cases h

theorem meter_of_ok {l : Ledger} {cmd : MeterUsageCommand} {id : UUID} {cost : Money}
    {balance : Option CreditBalance} {row : UsageRow} (hcost : cmd.charge = .ok cost)
    (hdeduct : deduct l.balance cost cmd.orgId = .ok balance)
    (hrow : usageAdd (cmd.record id cost) none = .ok row) :
    meter l cmd id none =
      .ok (cmd.record id cost, { balance := balance, usage := l.usage ++ [row] }) := by
  simp [meter, hcost, hdeduct, hrow]

/-- What a successful `meter` has done. -/
theorem meter_eq_ok {l l' : Ledger} {cmd : MeterUsageCommand} {id : UUID} {fault : Option DbError}
    {r : UsageRecord} (h : meter l cmd id fault = .ok (r, l')) :
    ∃ cost balance row, cmd.charge = .ok cost ∧ deduct l.balance cost cmd.orgId = .ok balance ∧
      usageAdd (cmd.record id cost) fault = .ok row ∧ r = cmd.record id cost ∧
      l' = { balance := balance, usage := l.usage ++ [row] } := by
  unfold meter at h
  split at h
  · cases h
  · rename_i cost hcost
    split at h
    · cases h
    · rename_i balance hdeduct
      split at h
      · cases h
      · rename_i row hrow
        cases h
        exact ⟨cost, balance, row, hcost, hdeduct, hrow, rfl, rfl⟩

/-! ## Runs of successful operations -/

inductive Op
  | meter (cmd : MeterUsageCommand) (id : UUID)
  | topUp (cents : ℕ)

/-- One operation that succeeds: the records it returns and the ledger it leaves. -/
def Op.apply (l : Ledger) : Op → Option (List UsageRecord × Ledger)
  | .meter cmd id =>
      match Billing.meter l cmd id none with
      | .ok (r, l') => some ([r], l')
      | .error _ => none
  | .topUp cents =>
      match creditOrg l.balance cents with
      | .ok b => some ([], { l with balance := some b })
      | .error _ => none

def run : Ledger → List Op → Option (List UsageRecord × Ledger)
  | l, [] => some ([], l)
  | l, op :: ops =>
      (op.apply l).bind fun p => (run p.2 ops).map fun q => (p.1 ++ q.1, q.2)

def Op.credited : Op → ℚ
  | .meter _ _ => 0
  | .topUp cents => amountUsd cents

/-- What the top-ups of a run credit. -/
def credited (ops : List Op) : ℚ :=
  (ops.map Op.credited).sum

/-- What the records of a run cost. -/
def charged (rs : List UsageRecord) : ℚ :=
  (rs.map fun r => r.cost.amount).sum

/-- The row stores the record's cost as it is. -/
def StoresCost (row : UsageRow) (r : UsageRecord) : Prop :=
  row.id = r.id ∧ row.costUsd.toDecimal = r.cost.amount

/-- The ledger is exact: the balance is off by what was credited and charged, and the rows that
were added are the returned records at their costs. -/
def Exact (l l' : Ledger) (ops : List Op) (rs : List UsageRecord) : Prop :=
  l'.available = l.available + credited ops - charged rs ∧
    List.Forall₂ StoresCost (l'.usage.drop l.usage.length) rs

/-- The charge is a whole number of micro-dollars. -/
def WholeMicros (cmd : MeterUsageCommand) : Prop :=
  ∃ k : ℤ, cmd.microCharge = k

theorem run_cons {l l' : Ledger} {op : Op} {ops : List Op} {rs : List UsageRecord}
    (h : run l (op :: ops) = some (rs, l')) :
    ∃ rs₁ l₁ rs₂, op.apply l = some (rs₁, l₁) ∧ run l₁ ops = some (rs₂, l') ∧ rs = rs₁ ++ rs₂ := by
  rcases Option.bind_eq_some_iff.1 h with ⟨⟨rs₁, l₁⟩, h₁, h⟩
  rcases Option.map_eq_some_iff.1 h with ⟨⟨rs₂, l₂⟩, h₂, heq⟩
  cases heq
  exact ⟨rs₁, l₁, rs₂, h₁, h₂, rfl⟩

theorem apply_meter {l l' : Ledger} {cmd : MeterUsageCommand} {id : UUID} {rs : List UsageRecord}
    (h : (Op.meter cmd id).apply l = some (rs, l')) :
    ∃ cost balance row, cmd.charge = .ok cost ∧ deduct l.balance cost cmd.orgId = .ok balance ∧
      usageAdd (cmd.record id cost) none = .ok row ∧ rs = [cmd.record id cost] ∧
      l' = { balance := balance, usage := l.usage ++ [row] } := by
  simp only [Op.apply] at h
  split at h
  · rename_i r l₁ hmeter
    cases h
    rcases meter_eq_ok hmeter with ⟨cost, balance, row, hcost, hdeduct, hrow, rfl, rfl⟩
    exact ⟨cost, balance, row, hcost, hdeduct, hrow, rfl, rfl⟩
  · cases h

theorem apply_topUp {l l' : Ledger} {cents : ℕ} {rs : List UsageRecord}
    (h : (Op.topUp cents).apply l = some (rs, l')) :
    ∃ b, creditOrg l.balance cents = .ok b ∧ rs = [] ∧ l' = { l with balance := some b } := by
  simp only [Op.apply] at h
  split at h
  · rename_i b hcredit
    cases h
    exact ⟨b, hcredit, rfl, rfl⟩
  · cases h

/-- What one operation adds: rows that store the returned records' costs as the column rounds
them. -/
theorem rows_of_apply {l l' : Ledger} {op : Op} {rs : List UsageRecord}
    (h : op.apply l = some (rs, l')) :
    ∃ rows, l'.usage = l.usage ++ rows ∧ List.Forall₂ Stored rows rs := by
  cases op with
  | meter cmd id =>
      rcases apply_meter h with ⟨cost, balance, row, -, -, hrow, rfl, rfl⟩
      exact ⟨[row], rfl, .cons (usageAdd_eq_ok hrow) .nil⟩
  | topUp cents =>
      rcases apply_topUp h with ⟨b, -, rfl, rfl⟩
      exact ⟨[], (List.append_nil _).symm, .nil⟩

/-- The rows that a run adds, one for each returned record. -/
theorem rows_of_run {l l' : Ledger} {ops : List Op} {rs : List UsageRecord}
    (h : run l ops = some (rs, l')) :
    ∃ rows, l'.usage = l.usage ++ rows ∧ List.Forall₂ Stored rows rs := by
  induction ops generalizing l rs with
  | nil =>
      cases h
      exact ⟨[], (List.append_nil _).symm, .nil⟩
  | cons op ops ih =>
      rcases run_cons h with ⟨rs₁, l₁, rs₂, h₁, h₂, rfl⟩
      rcases rows_of_apply h₁ with ⟨rows₁, husage₁, hrows₁⟩
      rcases ih h₂ with ⟨rows₂, husage₂, hrows₂⟩
      refine ⟨rows₁ ++ rows₂, ?_, List.rel_append hrows₁ hrows₂⟩
      rw [husage₂, husage₁, List.append_assoc]

/-- The returned records are those of the run's `meter` calls, at their charges. -/
theorem exists_record_of_mem {l l' : Ledger} {ops : List Op} {rs : List UsageRecord}
    (h : run l ops = some (rs, l')) {cmd : MeterUsageCommand} {id : UUID}
    (hmem : Op.meter cmd id ∈ ops) :
    ∃ r ∈ rs, cmd.charge = .ok r.cost := by
  induction ops generalizing l rs with
  | nil => simp at hmem
  | cons op ops ih =>
      rcases run_cons h with ⟨rs₁, l₁, rs₂, h₁, h₂, rfl⟩
      rcases List.mem_cons.1 hmem with rfl | hmem
      · rcases apply_meter h₁ with ⟨cost, balance, row, hcost, -, -, rfl, -⟩
        exact ⟨cmd.record id cost, by simp, hcost⟩
      · rcases ih h₂ hmem with ⟨r, hr, hcost⟩
        exact ⟨r, List.mem_append_right _ hr, hcost⟩

/-- One operation on the balance, with the rounding of the column. -/
theorem available_of_apply {l l' : Ledger} {op : Op} {rs : List UsageRecord}
    (h : op.apply l = some (rs, l')) :
    l'.available =
      l.available + op.credited - ((rs.map fun r => lost r.cost).sum : ℤ) / 10 ^ 6 := by
  cases op with
  | meter cmd id =>
      rcases apply_meter h with ⟨cost, balance, row, -, hdeduct, -, rfl, rfl⟩
      have havail := available_of_deduct hdeduct
      simpa [Ledger.available, Op.credited, MeterUsageCommand.record] using havail
  | topUp cents =>
      rcases apply_topUp h with ⟨b, hcredit, rfl, rfl⟩
      have havail := available_of_creditOrg hcredit
      simpa [Ledger.available, availableOf, Op.credited] using havail

/-- No operation takes the balance below zero. -/
theorem nonneg_of_apply {l l' : Ledger} {op : Op} {rs : List UsageRecord}
    (h : op.apply l = some (rs, l')) (h0 : 0 ≤ l.available) : 0 ≤ l'.available := by
  cases op with
  | meter cmd id =>
      rcases apply_meter h with ⟨cost, balance, row, -, hdeduct, -, rfl, rfl⟩
      exact nonneg_of_deduct hdeduct h0
  | topUp cents =>
      rcases apply_topUp h with ⟨b, hcredit, rfl, rfl⟩
      have hcents : (0 : ℚ) ≤ amountUsd cents := by
        unfold amountUsd
        positivity
      have havail := available_of_creditOrg hcredit
      simp only [Ledger.available, availableOf] at h0 havail ⊢
      linarith

/-- The balance after a run, with the rounding of the column. -/
theorem available_of_run {l l' : Ledger} {ops : List Op} {rs : List UsageRecord}
    (h : run l ops = some (rs, l')) :
    l'.available =
      l.available + credited ops - ((rs.map fun r => lost r.cost).sum : ℤ) / 10 ^ 6 := by
  induction ops generalizing l rs with
  | nil =>
      cases h
      simp [credited]
  | cons op ops ih =>
      rcases run_cons h with ⟨rs₁, l₁, rs₂, h₁, h₂, rfl⟩
      have hop := available_of_apply h₁
      have hops := ih h₂
      rw [hops, hop]
      simp only [credited, List.map_cons, List.sum_cons, List.map_append, List.sum_append]
      push_cast
      ring

/-! ## Exactness -/

/-- A whole number of micro-dollars loses exactly its amount. -/
theorem lost_of_whole {cost : Money} {k : ℤ} (h : cost.amount * 10 ^ 6 = k) :
    (lost cost : ℚ) = cost.amount * 10 ^ 6 := by
  rw [lost, h, roundHalfAway_intCast]

/-- Every record of a run is that of one of its `meter` calls. -/
theorem exists_meter_of_mem {l l' : Ledger} {ops : List Op} {rs : List UsageRecord}
    (h : run l ops = some (rs, l')) {r : UsageRecord} (hr : r ∈ rs) :
    ∃ cmd id, Op.meter cmd id ∈ ops ∧ cmd.charge = .ok r.cost := by
  induction ops generalizing l rs with
  | nil =>
      cases h
      simp at hr
  | cons op ops ih =>
      rcases run_cons h with ⟨rs₁, l₁, rs₂, h₁, h₂, rfl⟩
      rcases List.mem_append.1 hr with hr | hr
      · cases op with
        | meter cmd id =>
            rcases apply_meter h₁ with ⟨cost, balance, row, hcost, -, -, rfl, -⟩
            have hr' : r = cmd.record id cost := by simpa using hr
            exact ⟨cmd, id, by simp, by rw [hr']; exact hcost⟩
        | topUp cents =>
            rcases apply_topUp h₁ with ⟨b, -, rfl, -⟩
            simp at hr
      · rcases ih h₂ hr with ⟨cmd, id, hmem, hcost⟩
        exact ⟨cmd, id, List.mem_cons_of_mem _ hmem, hcost⟩

/-- The added rows show the costs exactly when all of these are whole micro-dollars. -/
theorem storesCost_iff {rows : List UsageRow} {rs : List UsageRecord}
    (h : List.Forall₂ Stored rows rs) :
    List.Forall₂ StoresCost rows rs ↔ ∀ r ∈ rs, ∃ k : ℤ, r.cost.amount * 10 ^ 6 = k := by
  induction h with
  | nil =>
      simp
  | @cons row r rows rs hrow _ ih =>
      have hhead : StoresCost row r ↔ ∃ k : ℤ, r.cost.amount * 10 ^ 6 = k :=
        (and_iff_right hrow.1).trans (Numeric.toDecimal_eq_iff_of_store hrow.2)
      rw [List.forall₂_cons, ih, hhead, List.forall_mem_cons]

/-- Whole micro-dollars leave the balance as they are charged. -/
theorem sum_lost_of_whole {rs : List UsageRecord}
    (h : ∀ r ∈ rs, ∃ k : ℤ, r.cost.amount * 10 ^ 6 = k) :
    (((rs.map fun r => lost r.cost).sum : ℤ) : ℚ) = charged rs * 10 ^ 6 := by
  induction rs with
  | nil =>
      simp [charged]
  | cons r rs ih =>
      rcases h r (by simp) with ⟨k, hk⟩
      have hrest := ih fun r' hr' => h r' (List.mem_cons_of_mem _ hr')
      have hlost : (lost r.cost : ℚ) = r.cost.amount * 10 ^ 6 := lost_of_whole hk
      simp only [charged, List.map_cons, List.sum_cons] at hrest ⊢
      rw [Int.cast_add, hrest, hlost]
      ring

/-- A run of successful operations is exact precisely when everything it meters costs a whole
number of micro-dollars. -/
theorem exact_iff_wholeMicros {l l' : Ledger} {ops : List Op} {rs : List UsageRecord}
    (h : run l ops = some (rs, l')) :
    Exact l l' ops rs ↔ ∀ cmd id, Op.meter cmd id ∈ ops → WholeMicros cmd := by
  rcases rows_of_run h with ⟨rows, husage, hrows⟩
  have hdrop : l'.usage.drop l.usage.length = rows := by
    rw [husage, List.drop_left]
  constructor
  · rintro ⟨-, hexact⟩ cmd id hmem
    rw [hdrop] at hexact
    rcases exists_record_of_mem h hmem with ⟨r, hr, hcost⟩
    rcases (storesCost_iff hrows).1 hexact r hr with ⟨k, hk⟩
    exact ⟨k, by rw [← MeterUsageCommand.amount_of_charge hcost, hk]⟩
  · intro hwhole
    have hrecords : ∀ r ∈ rs, ∃ k : ℤ, r.cost.amount * 10 ^ 6 = k := by
      intro r hr
      rcases exists_meter_of_mem h hr with ⟨cmd, id, hmem, hcost⟩
      rcases hwhole cmd id hmem with ⟨k, hk⟩
      exact ⟨k, by rw [MeterUsageCommand.amount_of_charge hcost, hk]⟩
    -- First the balance, then the rows.
    refine ⟨?_, ?_⟩
    · rw [available_of_run h, sum_lost_of_whole hrecords]
      ring
    · rw [hdrop]
      exact (storesCost_iff hrows).2 hrecords

/-! ### A call of one token -/

def oneDollar : Ledger :=
  { balance := some { available := { micros := 1000000, bounded := by norm_num } }
    usage := [] }

/-- A call of some input tokens at $0.15 for a million. -/
def miniCall (tokens : ℤ) : MeterUsageCommand :=
  { orgId := 1
    keyId := 2
    model := "gpt-4o-mini"
    provider := "openai"
    tokens := { input := tokens }
    pricing := { inputPerMillion := 3 / 20, outputPerMillion := 3 / 5 }
    latencyMs := 5 }

/-- Twenty tokens cost three micro-dollars. -/
theorem exact_iff_wholeMicros_miniCall :
    ∃ l' rs, run oneDollar [.topUp 500, .meter (miniCall 20) 7] = some (rs, l') ∧
      (Exact oneDollar l' [.topUp 500, .meter (miniCall 20) 7] rs ↔
        ∀ cmd id, Op.meter cmd id ∈ [.topUp 500, .meter (miniCall 20) 7] → WholeMicros cmd) := by
  have hsome : (run oneDollar [.topUp 500, .meter (miniCall 20) 7]).isSome = true := by
    decide +kernel
  rcases Option.isSome_iff_exists.1 hsome with ⟨⟨rs, l'⟩, hrun⟩
  exact ⟨l', rs, hrun, exact_iff_wholeMicros hrun⟩

/-- One token costs 0.15 micro-dollars, and the balance stays what it was. -/
theorem miniCall_not_exact :
    ¬ ∀ (l l' : Ledger) (ops : List Op) (rs : List UsageRecord),
      run l ops = some (rs, l') → Exact l l' ops rs := by
  intro h
  have hoff : ((run oneDollar [.meter (miniCall 1) 7]).map fun p =>
      decide (p.2.available = oneDollar.available + credited [.meter (miniCall 1) 7]
        - charged p.1)) = some false := by
    decide +kernel
  rcases Option.map_eq_some_iff.1 hoff with ⟨⟨rs, l'⟩, hrun, hne⟩
  exact of_decide_eq_false hne (h oneDollar l' [.meter (miniCall 1) 7] rs hrun).1

end Billing
end Backend
end OpenRouter
