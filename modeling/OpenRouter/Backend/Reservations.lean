import Mathlib.Algebra.BigOperators.Group.List.Lemmas
import Mathlib.Algebra.Order.BigOperators.Group.List
import OpenRouter.Backend.Domain
import OpenRouter.Base.Transition

/-!
# Reservations — the entity `CreditBalance`

`reserve` sets credit aside for a request and `settle` gives it back against the actual cost.  A
settlement is not checked: `lawful_iff_covered` says which ones keep the balance covered.
-/

namespace OpenRouter
namespace Backend
namespace Reservations

open Base

/-! ## The entity -/

/-- `CreditBalance` of `entities.py`; its amounts are any decimals. -/
structure CreditBalance where
  orgId : UUID
  available : ℚ := 0
  reserved : ℚ := 0
  monthlyCap : Option ℚ := none
  dailyCap : Option ℚ := none
  hardStop : Bool := true

inductive SpendError
  | valueError (msg : String)
  | insufficientCredits (need usable : ℚ)
  | budgetExceeded (msg : String)

namespace CreditBalance

variable (b : CreditBalance)

/-- A negative difference is the `ValueError` of `Money`. -/
def usable : Except SpendError Money :=
  match Money.ofAmount (b.available - b.reserved) with
  | .ok m => .ok m
  | .error msg => .error (.valueError msg)

def assertCanSpend (amount : Money) : Except SpendError Unit :=
  match b.usable with
  | .error err => .error err
  | .ok usable =>
      if usable.amount < amount.amount then
        if b.hardStop then .error (.insufficientCredits amount.amount usable.amount)
        else .error (.budgetExceeded "Soft cap reached")
      else
        .ok ()

/-- What `reserve` returns, and the balance that it leaves. -/
def reserve (amount : Money) : Except SpendError Unit × CreditBalance :=
  match b.assertCanSpend amount with
  | .error err => (.error err, b)
  | .ok () => (.ok (), { b with reserved := b.reserved + amount.amount })

def settle (reserved actual : Money) : CreditBalance :=
  { b with
    reserved := b.reserved - reserved.amount
    available := b.available - actual.amount }

variable {b}

theorem exists_usable_iff : (∃ m, b.usable = .ok m) ↔ b.reserved ≤ b.available := by
  by_cases h : 0 ≤ b.available - b.reserved
  · simp [usable, Money.ofAmount, h, sub_nonneg.1 h]
  · have hnot : ¬ b.reserved ≤ b.available := fun hle => h (sub_nonneg.2 hle)
    simp [usable, Money.ofAmount, h, not_le.1 hnot]

theorem amount_of_usable {m : Money} (h : b.usable = .ok m) :
    m.amount = b.available - b.reserved := by
  unfold usable at h
  split at h
  · rename_i m' hm
    cases h
    exact Money.amount_of_ofAmount hm
  · cases h

/-- Credit can be spent when what is not reserved covers it. -/
theorem assertCanSpend_eq_ok_iff {amount : Money} :
    b.assertCanSpend amount = .ok () ↔ amount.amount ≤ b.available - b.reserved := by
  cases husable : b.usable with
  | error err =>
      have hnot : ¬ b.reserved ≤ b.available := by
        rw [← exists_usable_iff, husable]
        simp
      have hneg : b.available - b.reserved < amount.amount := by linarith [amount.nonneg]
      simp only [assertCanSpend, husable, reduceCtorEq, false_iff]
      exact not_le.2 hneg
  | ok m =>
      rw [← amount_of_usable husable]
      by_cases hlt : m.amount < amount.amount
      · cases hstop : b.hardStop <;> simp [assertCanSpend, husable, hlt, hstop]
      · simp [assertCanSpend, husable, hlt, not_lt.1 hlt]

theorem reserve_of_ok {amount : Money} (h : b.assertCanSpend amount = .ok ()) :
    b.reserve amount = (.ok (), { b with reserved := b.reserved + amount.amount }) := by
  simp only [reserve, h]

theorem reserve_of_error {amount : Money} {err : SpendError}
    (h : b.assertCanSpend amount = .error err) : b.reserve amount = (.error err, b) := by
  simp only [reserve, h]

end CreditBalance

/-! ## Runs -/

/-- A balance and the reservations that are open on it. -/
structure Account where
  balance : CreditBalance
  outstanding : List Money

instance : DecidableEq Money := fun m n =>
  decidable_of_iff (m.amount = n.amount) (by cases m; cases n; simp)

inductive Label
  | reserve (amount : Money)
  | settle (reserved actual : Money)

/-- A settlement releases a reservation that is open. -/
def step (s : Account) : Label → Option Account
  | .reserve amount =>
      match s.balance.reserve amount with
      | (.ok (), b) => some { balance := b, outstanding := amount :: s.outstanding }
      | (.error _, b) => some { s with balance := b }
  | .settle reserved actual =>
      if reserved ∈ s.outstanding then
        some
          { balance := s.balance.settle reserved actual
            outstanding := s.outstanding.erase reserved }
      else
        none

theorem step_reserve_of_ok {s : Account} {amount : Money}
    (h : s.balance.assertCanSpend amount = .ok ()) :
    step s (.reserve amount) =
      some
        { balance := { s.balance with reserved := s.balance.reserved + amount.amount }
          outstanding := amount :: s.outstanding } := by
  simp only [step, CreditBalance.reserve_of_ok h]

theorem step_settle_of_mem {s : Account} {reserved actual : Money}
    (h : reserved ∈ s.outstanding) :
    step s (.settle reserved actual) =
      some
        { balance := s.balance.settle reserved actual
          outstanding := s.outstanding.erase reserved } :=
  if_pos h

/-- What is reserved is what is open, and it is covered. -/
structure Sound (s : Account) : Prop where
  reserved_eq : s.balance.reserved = (s.outstanding.map Money.amount).sum
  nonneg : 0 ≤ s.balance.reserved
  covered : s.balance.reserved ≤ s.balance.available
  usable : ∃ m, s.balance.usable = .ok m

structure Lawful (s : Account) (l : Label) : Prop where
  sound : ∀ s', step s l = some s' → Sound s'
  unchanged : ∀ amount err, l = .reserve amount → (s.balance.reserve amount).1 = .error err →
    (s.balance.reserve amount).2 = s.balance

/-- A settlement takes no more than its reservation and what is usable besides. -/
def Covered (s : Account) : Label → Prop
  | .reserve _ => True
  | .settle reserved actual => reserved ∈ s.outstanding →
      actual.amount ≤ reserved.amount + (s.balance.available - s.balance.reserved)

theorem sound_of_covered {s : Account}
    (hsum : s.balance.reserved = (s.outstanding.map Money.amount).sum)
    (hcovered : s.balance.reserved ≤ s.balance.available) : Sound s where
  reserved_eq := hsum
  nonneg := by
    rw [hsum]
    refine List.sum_nonneg ?_
    intro x hx
    rcases List.mem_map.1 hx with ⟨m, -, rfl⟩
    exact m.nonneg
  covered := hcovered
  usable := CreditBalance.exists_usable_iff.2 hcovered

/-- Reserving keeps a balance covered, whether or not it succeeds. -/
theorem lawful_reserve {s : Account} (hs : Sound s) (amount : Money) :
    Lawful s (.reserve amount) := by
  cases hspend : s.balance.assertCanSpend amount with
  | error err =>
      have hreserve := CreditBalance.reserve_of_error hspend
      constructor
      · intro s' h
        simp only [step, hreserve, Option.some.injEq] at h
        subst h
        exact hs
      · intro amount' err' hlabel _
        cases hlabel
        rw [hreserve]
  | ok u =>
      have hreserve := CreditBalance.reserve_of_ok hspend
      have hle := CreditBalance.assertCanSpend_eq_ok_iff.1 hspend
      constructor
      · intro s' h
        rw [step_reserve_of_ok hspend, Option.some.injEq] at h
        subst h
        refine sound_of_covered ?_ ?_
        · simp only [List.map_cons, List.sum_cons, hs.reserved_eq]
          ring
        · change s.balance.reserved + amount.amount ≤ s.balance.available
          linarith
      · intro amount' err' hlabel hraised
        cases hlabel
        rw [hreserve] at hraised
        cases hraised

/-- Settling keeps it covered when the cost is. -/
theorem lawful_settle_iff {s : Account} (hs : Sound s) (reserved actual : Money) :
    Lawful s (.settle reserved actual) ↔ Covered s (.settle reserved actual) := by
  constructor
  · intro hlawful hmem
    -- What is left covered tells what the settlement may cost at most.
    have hcovered := (hlawful.sound _ (step_settle_of_mem hmem)).covered
    simp only [CreditBalance.settle] at hcovered
    linarith
  · intro hcovered
    constructor
    · intro s' h
      by_cases hmem : reserved ∈ s.outstanding
      · rw [step_settle_of_mem hmem, Option.some.injEq] at h
        subst h
        have hcost := hcovered hmem
        refine sound_of_covered ?_ ?_
        · have hsum := List.sum_map_erase Money.amount hmem
          simp only [CreditBalance.settle]
          linarith [hs.reserved_eq]
        · simp only [CreditBalance.settle]
          linarith
      · simp [step, hmem] at h
    · intro amount err hlabel
      cases hlabel

/-- A run keeps its balance covered exactly when each of its settlements is. -/
theorem lawful_iff_covered (balance : CreditBalance) (outstanding : List Money)
    (labels : List Label) (hsum : balance.reserved = (outstanding.map Money.amount).sum)
    (hle : balance.reserved ≤ balance.available) :
    Guarded step Lawful { balance := balance, outstanding := outstanding } labels ↔
      Guarded step Covered { balance := balance, outstanding := outstanding } labels := by
  have hlaw : ∀ s l, Sound s → (Lawful s l ↔ Covered s l) := by
    intro s l hs
    cases l with
    | reserve amount => exact iff_of_true (lawful_reserve hs amount) trivial
    | settle reserved actual => exact lawful_settle_iff hs reserved actual
  refine guarded_iff hlaw ?_ (sound_of_covered hsum hle)
  intro s l s' hs hcovered h
  exact ((hlaw s l hs).2 hcovered).sound s' h

/-! ### Two requests on ten dollars -/

def dollars (n : ℕ) : Money where
  amount := n
  nonneg := Nat.cast_nonneg n

def tenDollars : CreditBalance where
  orgId := 1
  available := 10

/-- The first request costs what it has reserved. -/
theorem lawful_iff_covered_exactCost :
    Guarded step Lawful { balance := tenDollars, outstanding := [] }
        [.reserve (dollars 5), .reserve (dollars 5), .settle (dollars 5) (dollars 5)] ↔
      Guarded step Covered { balance := tenDollars, outstanding := [] }
        [.reserve (dollars 5), .reserve (dollars 5), .settle (dollars 5) (dollars 5)] :=
  lawful_iff_covered tenDollars [] _ rfl (by norm_num [tenDollars])

/-- The first request costs nine dollars, so that one is left for the five that the second has
reserved. -/
theorem settlement_uncovers_reservation :
    ¬ ∀ (balance : CreditBalance) (outstanding : List Money) (labels : List Label),
      balance.reserved = (outstanding.map Money.amount).sum → 0 ≤ balance.reserved →
      balance.reserved ≤ balance.available →
      Guarded step Lawful { balance := balance, outstanding := outstanding } labels := by
  intro h
  have hrun := h tenDollars []
    [.reserve (dollars 5), .reserve (dollars 5), .settle (dollars 5) (dollars 9)]
    rfl le_rfl (by norm_num [tenDollars])
  have hfirst := hrun.2 _
    (step_reserve_of_ok (CreditBalance.assertCanSpend_eq_ok_iff.2 (by
      norm_num [tenDollars, dollars])))
  have hsecond := hfirst.2 _
    (step_reserve_of_ok (CreditBalance.assertCanSpend_eq_ok_iff.2 (by
      norm_num [tenDollars, dollars])))
  have hmem : dollars 5 ∈ [dollars 5, dollars 5] := List.mem_cons_self
  have hsettled := (hsecond.1.sound _ (step_settle_of_mem hmem)).covered
  norm_num [CreditBalance.settle, tenDollars, dollars] at hsettled

end Reservations
end Backend
end OpenRouter
