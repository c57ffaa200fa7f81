import Mathlib.Algebra.BigOperators.Group.List.Basic
import OpenRouter.Backend.Billing
import OpenRouter.Base.Transition

/-!
# Metering — concurrent meter calls and top-ups on one balance row

`Billing.meter` and `Billing.creditOrg` are whole transactions.  Here each is cut at its
statements: the conditional `UPDATE` and the insert of a usage row on one side, the locked read
and the absolute write on the other.  `step` runs one statement of one call; the row lock and the
rollback of a session that is closed without a commit are those of Postgres.

`Inv.serial` connects the two levels: whatever the interleaving, the committed rows are those of
running the committed calls one after the other, in the order of their commits.
-/

namespace OpenRouter
namespace Backend
namespace Metering

open Base Billing

/-! ## Calls and the row lock -/

/-- Where a call stands between two statements, with the row versions it has not committed. -/
inductive Pc
  | start
  /-- `deduct_atomic` returned; `none` when there was nothing to deduct. -/
  | deducted (cost : Money) (row : Option CreditBalance)
  /-- The usage row is flushed too. -/
  | added (row : Option CreditBalance) (usage : UsageRow)
  /-- `session.get(..., with_for_update=True)` returned. -/
  | selected (row : Option CreditBalance)
  /-- The balance row is flushed. -/
  | written (row : CreditBalance)
  | committed
  | failed

structure Call where
  op : Op
  pc : Pc

/-- The committed rows, the call that holds the lock on the balance row, and all calls. -/
structure System where
  ledger : Ledger
  lock : Option ℕ
  calls : List Call

inductive Label
  | begin (op : Op)
  | deduct (i : ℕ)
  | addUsage (i : ℕ) (fault : Option DbError)
  | select (i : ℕ)
  | write (i : ℕ)
  | commit (i : ℕ)
  /-- The call fails at this point: an exception, a lost connection, a cancelled task. -/
  | abort (i : ℕ)

namespace System

def init (ledger : Ledger) : System :=
  { ledger := ledger, lock := none, calls := [] }

def onCall (s : System) (i : ℕ) (next : Call → Option System) : Option System :=
  s.calls[i]?.bind next

def move (s : System) (i : ℕ) (c : Call) (pc : Pc) : System :=
  { s with calls := s.calls.set i { c with pc := pc } }

/-- Run `next` with the row lock, when it is free. -/
def locked (s : System) (i : ℕ) (next : System) : Option System :=
  if s.lock = none then some { next with lock := some i } else none

/-- The end of a transaction gives the lock back. -/
def release (s : System) (i : ℕ) : Option ℕ :=
  if s.lock = some i then none else s.lock

/-- A session closed without a commit. -/
def rollback (s : System) (i : ℕ) (c : Call) : System :=
  { s.move i c .failed with lock := s.release i }

end System

/-- A statement waits for the lock only when it meets a committed row to change. -/
def step (s : System) : Label → Option System
  | .begin op => some { s with calls := s.calls ++ [{ op := op, pc := .start }] }
  | .deduct i => s.onCall i fun c =>
      match c.op, c.pc with
      | .meter cmd _, .start =>
          match cmd.charge with
          | .error _ => some (s.rollback i c)
          | .ok cost =>
              if 0 < cost.amount then
                match deductAtomic s.ledger.balance cost with
                | .ok (some row, true) => s.locked i (s.move i c (.deducted cost (some row)))
                | _ => some (s.rollback i c)
              else
                some (s.move i c (.deducted cost none))
      | _, _ => none
  | .addUsage i fault => s.onCall i fun c =>
      match c.op, c.pc with
      | .meter cmd id, .deducted cost row =>
          match usageAdd (cmd.record id cost) fault with
          | .ok usage => some (s.move i c (.added row usage))
          | .error _ => some (s.rollback i c)
      | _, _ => none
  | .select i => s.onCall i fun c =>
      match c.op, c.pc with
      | .topUp _, .start =>
          match s.ledger.balance with
          | some b => s.locked i (s.move i c (.selected (some b)))
          | none => some (s.move i c (.selected none))
      | _, _ => none
  | .write i => s.onCall i fun c =>
      match c.op, c.pc with
      | .topUp cents, .selected (some b) =>
          match creditOrg (some b) cents with
          | .ok row => some (s.move i c (.written row))
          | .error _ => some (s.rollback i c)
      | .topUp cents, .selected none =>
          -- The insert: another call may have inserted the row since, or be about to.
          match s.ledger.balance, creditOrg none cents with
          | none, .ok row => s.locked i (s.move i c (.written row))
          | _, _ => some (s.rollback i c)
      | _, _ => none
  | .commit i => s.onCall i fun c =>
      match c.pc with
      | .added row usage =>
          some
            { s.move i c .committed with
              ledger :=
                { balance := row.or s.ledger.balance
                  usage := s.ledger.usage ++ [usage] }
              lock := s.release i }
      | .written row =>
          some
            { s.move i c .committed with
              ledger := { s.ledger with balance := some row }
              lock := s.release i }
      | _ => none
  | .abort i => s.onCall i fun c =>
      match c.pc with
      | .committed | .failed => none
      | _ => some (s.rollback i c)

/-- The operation of a call that has committed. -/
def Call.committedOp (c : Call) : Option Op :=
  match c.pc with
  | .committed => some c.op
  | _ => none

def committedOps (calls : List Call) : List Op :=
  calls.filterMap Call.committedOp

/-! ## The invariant -/

/-- What a meter call has in hand after its deduction: nothing, or the lock and the row that the
deduction leaves. -/
def Deducted (ledger : Ledger) (lock : Option ℕ) (i : ℕ) (cost : Money) (org : UUID) :
    Option CreditBalance → Prop
  | none => ¬ 0 < cost.amount
  | some b => lock = some i ∧ deduct ledger.balance cost org = .ok (some b)

/-- The private state of a call fits the committed rows as long as it holds the lock. -/
def CallInv (ledger : Ledger) (lock : Option ℕ) (i : ℕ) (c : Call) : Prop :=
  match c.op, c.pc with
  | .meter cmd _, .deducted cost row =>
      cmd.charge = .ok cost ∧ Deducted ledger lock i cost cmd.orgId row
  | .meter cmd id, .added row usage =>
      ∃ cost, cmd.charge = .ok cost ∧ Deducted ledger lock i cost cmd.orgId row ∧
        usageAdd (cmd.record id cost) none = .ok usage
  | .topUp _, .selected (some b) => lock = some i ∧ ledger.balance = some b
  | .topUp cents, .written b => lock = some i ∧ creditOrg ledger.balance cents = .ok b
  | .meter _ _, .selected _ | .meter _ _, .written _ => False
  | .topUp _, .deducted _ _ | .topUp _, .added _ _ => False
  | _, _ => True

/-- The invariant of the runs from `start` in which every call that begins has the property `P`. -/
structure Inv (P : Op → Prop) (start : Ledger) (s : System) : Prop where
  calls : AllAt (CallInv s.ledger s.lock) s.calls
  ops : AllAt (fun _ c => P c.op) s.calls
  /-- The committed rows are those of the committed calls, run one after the other. -/
  serial : ∃ order rs, order.Perm (committedOps s.calls) ∧ run start order = some (rs, s.ledger)

/-! ## Moving one call -/

theorem Deducted.deduct_eq {ledger : Ledger} {lock : Option ℕ} {i : ℕ} {cost : Money} {org : UUID}
    {row : Option CreditBalance} (h : Deducted ledger lock i cost org row) :
    deduct ledger.balance cost org = .ok (row.or ledger.balance) := by
  cases row with
  | none => exact if_neg h
  | some b => exact h.2

/-- A call keeps its private state through a step of another call, which leaves the lock with it
and the row alone if it holds the lock. -/
theorem CallInv.frame {ledger ledger' : Ledger} {lock lock' : Option ℕ} {i : ℕ} {c : Call}
    (h : CallInv ledger lock i c)
    (hframe : lock = some i → lock' = some i ∧ ledger'.balance = ledger.balance) :
    CallInv ledger' lock' i c := by
  have hdeducted : ∀ {cost org row}, Deducted ledger lock i cost org row →
      Deducted ledger' lock' i cost org row := by
    intro cost org row hd
    cases row with
    | none => exact hd
    | some b =>
        rcases hframe hd.1 with ⟨hlock, hbalance⟩
        exact ⟨hlock, by rw [hbalance]; exact hd.2⟩
  unfold CallInv at h ⊢
  split at h
  · exact ⟨h.1, hdeducted h.2⟩
  · rcases h with ⟨cost, hcost, hd, husage⟩
    exact ⟨cost, hcost, hdeducted hd, husage⟩
  · rcases hframe h.1 with ⟨hlock, hbalance⟩
    exact ⟨hlock, by rw [hbalance]; exact h.2⟩
  · rcases hframe h.1 with ⟨hlock, hbalance⟩
    exact ⟨hlock, by rw [hbalance]; exact h.2⟩
  all_goals simp_all

theorem run_concat {l l₁ l₂ : Ledger} {ops : List Op} {op : Op} {rs rs₁ : List UsageRecord}
    (h : run l ops = some (rs, l₁)) (hop : op.apply l₁ = some (rs₁, l₂)) :
    run l (ops ++ [op]) = some (rs ++ rs₁, l₂) := by
  induction ops generalizing l rs with
  | nil =>
      cases h
      simp [run, hop]
  | cons o ops ih =>
      rcases run_cons h with ⟨rs₃, l₃, rs₄, h₃, h₄, rfl⟩
      simp [run, h₃, ih h₄]

namespace Inv

variable {P : Op → Prop} {start : Ledger} {s : System} {i : ℕ} {c : Call}

theorem init (P : Op → Prop) (start : Ledger) : Inv P start (System.init start) where
  calls := by
    intro i c hc
    simp [System.init] at hc
  ops := by
    intro i c hc
    simp [System.init] at hc
  serial := ⟨[], [], .nil, rfl⟩

/-- A call moves on without committing; the lock may pass to or from it. -/
theorem move (h : Inv P start s) (hi : s.calls[i]? = some c) {pc : Pc} {lock : Option ℕ}
    (hc : c.committedOp = none) (hpc : Call.committedOp { c with pc := pc } = none)
    (hlock : ∀ j, j ≠ i → s.lock = some j → lock = some j)
    (hinv : CallInv s.ledger lock i { c with pc := pc }) :
    Inv P start { s.move i c pc with lock := lock } where
  calls :=
    AllAt.set_of_ne
      (h.calls.mono fun j _ hd hj => hd.frame fun hs => ⟨hlock j hj hs, rfl⟩) hinv
  ops := h.ops.set (h.ops i c hi)
  serial := by
    rcases h.serial with ⟨order, rs, hperm, hrun⟩
    refine ⟨order, rs, ?_, hrun⟩
    simpa [committedOps, System.move, filterMap_set_of_eq hi (hpc.trans hc.symm)] using hperm

/-- A call commits: its operation is the next of the serial run. -/
theorem commit (h : Inv P start s) (hi : s.calls[i]? = some c) (hc : c.committedOp = none)
    {ledger : Ledger} {rs₁ : List UsageRecord} (happly : c.op.apply s.ledger = some (rs₁, ledger))
    (hbalance : s.lock = some i ∨ ledger.balance = s.ledger.balance) :
    Inv P start { s.move i c .committed with ledger := ledger, lock := s.release i } where
  calls := by
    refine AllAt.set_of_ne (h.calls.mono fun j _ hd hj => hd.frame fun hs => ?_) ?_
    · have hne : s.lock ≠ some i := by
        rw [hs]
        simpa using hj
      exact ⟨by simpa [System.release, hne] using hs, hbalance.resolve_left hne⟩
    · cases hop : c.op <;> simp [CallInv]
  ops := h.ops.set (h.ops i c hi)
  serial := by
    rcases h.serial with ⟨order, rs, hperm, hrun⟩
    refine ⟨order ++ [c.op], rs ++ rs₁, ?_, run_concat hrun happly⟩
    have hset : (committedOps (s.calls.set i { c with pc := .committed })).Perm
        (c.op :: committedOps s.calls) :=
      filterMap_set_perm hi hc rfl
    exact (List.perm_append_comm.trans (hperm.cons c.op)).trans hset.symm

/-- A call is rolled back. -/
theorem rollback (h : Inv P start s) (hi : s.calls[i]? = some c) (hc : c.committedOp = none) :
    Inv P start (s.rollback i c) := by
  refine h.move hi hc rfl ?_ ?_
  · intro j hj hs
    have hne : s.lock ≠ some i := by
      rw [hs]
      simpa using hj
    simpa [System.release, hne] using hs
  · cases hop : c.op <;> simp [CallInv]

/-- A call takes the free lock. -/
theorem locked (h : Inv P start s) (hi : s.calls[i]? = some c) (hc : c.committedOp = none) {pc : Pc}
    (hpc : Call.committedOp { c with pc := pc } = none) {t : System}
    (hinv : CallInv s.ledger (some i) i { c with pc := pc })
    (hstep : s.locked i (s.move i c pc) = some t) : Inv P start t := by
  unfold System.locked at hstep
  split at hstep
  · rename_i hfree
    cases hstep
    refine h.move hi hc hpc ?_ hinv
    intro j _ hs
    rw [hfree] at hs
    cases hs
  · cases hstep

/-- A call moves on with the lock where it is. -/
theorem move_same (h : Inv P start s) (hi : s.calls[i]? = some c) (hc : c.committedOp = none)
    {pc : Pc}
    (hpc : Call.committedOp { c with pc := pc } = none)
    (hinv : CallInv s.ledger s.lock i { c with pc := pc }) : Inv P start (s.move i c pc) :=
  h.move hi hc hpc (fun _ _ hs => hs) hinv

theorem of_begin (h : Inv P start s) {op : Op} {t : System} (hop : P op)
    (hstep : step s (.begin op) = some t) : Inv P start t := by
  cases hstep
  refine { calls := h.calls.concat ?_, ops := h.ops.concat hop, serial := ?_ }
  · cases op <;> simp [CallInv]
  · rcases h.serial with ⟨order, rs, hperm, hrun⟩
    refine ⟨order, rs, ?_, hrun⟩
    simpa [committedOps, Call.committedOp, List.filterMap_cons] using hperm

theorem of_deduct (h : Inv P start s) {t : System} (hstep : step s (.deduct i) = some t) :
    Inv P start t := by
  rcases Option.bind_eq_some_iff.1 hstep with ⟨c, hi, hstep⟩
  split at hstep
  · rename_i cmd id hop hpc
    have hc : c.committedOp = none := by simp [Call.committedOp, hpc]
    split at hstep
    · cases hstep
      exact h.rollback hi hc
    · rename_i cost hcost
      split at hstep
      · rename_i hpos
        split at hstep
        · rename_i row hrow
          refine h.locked hi hc rfl ?_ hstep
          have hdeduct : deduct s.ledger.balance cost cmd.orgId = .ok (some row) := by
            simp [deduct, hpos, hrow]
          simpa [CallInv, hop, Deducted, hcost] using hdeduct
        · cases hstep
          exact h.rollback hi hc
      · rename_i hzero
        cases hstep
        refine h.move_same hi hc rfl ?_
        simpa [CallInv, hop, Deducted, hcost] using hzero
  · cases hstep

theorem of_addUsage (h : Inv P start s) {fault : Option DbError} {t : System}
    (hstep : step s (.addUsage i fault) = some t) : Inv P start t := by
  rcases Option.bind_eq_some_iff.1 hstep with ⟨c, hi, hstep⟩
  split at hstep
  · rename_i cmd id cost row hop hpc
    have hc : c.committedOp = none := by simp [Call.committedOp, hpc]
    split at hstep
    · rename_i usage husage
      cases hstep
      -- The deduction of before is still what the lock protects.
      have hinv : cmd.charge = .ok cost ∧ Deducted s.ledger s.lock i cost cmd.orgId row := by
        simpa [CallInv, hop, hpc] using h.calls i c hi
      refine h.move_same hi hc rfl ?_
      simp only [CallInv, hop]
      exact ⟨cost, hinv.1, hinv.2, usageAdd_none_of_ok husage⟩
    · cases hstep
      exact h.rollback hi hc
  · cases hstep

theorem of_select (h : Inv P start s) {t : System} (hstep : step s (.select i) = some t) :
    Inv P start t := by
  rcases Option.bind_eq_some_iff.1 hstep with ⟨c, hi, hstep⟩
  split at hstep
  · rename_i cents hop hpc
    have hc : c.committedOp = none := by simp [Call.committedOp, hpc]
    split at hstep
    · rename_i b hb
      refine h.locked hi hc rfl ?_ hstep
      simp [CallInv, hop, hb]
    · cases hstep
      refine h.move_same hi hc rfl ?_
      simp [CallInv, hop]
  · cases hstep

theorem of_write (h : Inv P start s) {t : System} (hstep : step s (.write i) = some t) :
    Inv P start t := by
  rcases Option.bind_eq_some_iff.1 hstep with ⟨c, hi, hstep⟩
  split at hstep
  · rename_i cents b hop hpc
    have hc : c.committedOp = none := by simp [Call.committedOp, hpc]
    have hinv : s.lock = some i ∧ s.ledger.balance = some b := by
      simpa [CallInv, hop, hpc] using h.calls i c hi
    split at hstep
    · rename_i row hrow
      cases hstep
      refine h.move_same hi hc rfl ?_
      simp only [CallInv, hop]
      exact ⟨hinv.1, by rw [hinv.2]; exact hrow⟩
    · cases hstep
      exact h.rollback hi hc
  · rename_i cents hop hpc
    have hc : c.committedOp = none := by simp [Call.committedOp, hpc]
    split at hstep
    · rename_i row hnone hrow
      refine h.locked hi hc rfl ?_ hstep
      simp only [CallInv, hop]
      exact ⟨trivial, by rw [hnone]; exact hrow⟩
    · cases hstep
      exact h.rollback hi hc
  · cases hstep

theorem of_commit (h : Inv P start s) {t : System} (hstep : step s (.commit i) = some t) :
    Inv P start t := by
  rcases Option.bind_eq_some_iff.1 hstep with ⟨c, hi, hstep⟩
  have hinv := h.calls i c hi
  split at hstep
  · rename_i row usage hpc
    have hc : c.committedOp = none := by simp [Call.committedOp, hpc]
    cases hstep
    cases hop : c.op with
    | topUp cents => simp [CallInv, hop, hpc] at hinv
    | meter cmd id =>
        simp only [CallInv, hop, hpc] at hinv
        rcases hinv with ⟨cost, hcost, hd, husage⟩
        -- What the transaction holds is what the call does to the ledger it began on.
        have hmeter := meter_of_ok hcost hd.deduct_eq husage
        have happly : c.op.apply s.ledger = some ([cmd.record id cost],
            { balance := row.or s.ledger.balance, usage := s.ledger.usage ++ [usage] }) := by
          simp [hop, Op.apply, hmeter]
        refine h.commit hi hc happly ?_
        -- A free call holds no lock, and leaves the balance.
        cases row with
        | none => exact .inr rfl
        | some b => exact .inl hd.1
  · rename_i row hpc
    have hc : c.committedOp = none := by simp [Call.committedOp, hpc]
    cases hstep
    cases hop : c.op with
    | meter cmd id => simp [CallInv, hop, hpc] at hinv
    | topUp cents =>
        simp only [CallInv, hop, hpc] at hinv
        have happly : c.op.apply s.ledger = some ([], { s.ledger with balance := some row }) := by
          simp [hop, Op.apply, hinv.2]
        exact h.commit hi hc happly (.inl hinv.1)
  · cases hstep

theorem of_abort (h : Inv P start s) {t : System} (hstep : step s (.abort i) = some t) :
    Inv P start t := by
  rcases Option.bind_eq_some_iff.1 hstep with ⟨c, hi, hstep⟩
  cases hpc : c.pc with
  | committed => simp [hpc] at hstep
  | failed => simp [hpc] at hstep
  | _ =>
      simp only [hpc] at hstep
      cases hstep
      exact h.rollback hi (by simp [Call.committedOp, hpc])

/-- Every step keeps the invariant. -/
theorem of_step (h : Inv P start s) {t : System} {l : Label} (hop : ∀ op, l = .begin op → P op)
    (hstep : step s l = some t) : Inv P start t := by
  cases l with
  | begin op => exact h.of_begin (hop op rfl) hstep
  | deduct i => exact h.of_deduct hstep
  | addUsage i fault => exact h.of_addUsage hstep
  | select i => exact h.of_select hstep
  | write i => exact h.of_write hstep
  | commit i => exact h.of_commit hstep
  | abort i => exact h.of_abort hstep

end Inv

/-- Every reachable state has the invariant. -/
theorem inv_of_exec {P : Op → Prop} {start : Ledger} {s : System} {labels : List Label}
    (hP : ∀ op, Label.begin op ∈ labels → P op)
    (h : exec step (System.init start) labels = some s) : Inv P start s := by
  have hguard : Guarded step (fun _ l => ∀ op, l = .begin op → P op) (System.init start) labels :=
    guarded_of_forall fun l hl op hop => hP op (hop ▸ hl)
  exact exec_invariant_of_guarded (fun _ _ _ hs hop ht => hs.of_step hop ht) (Inv.init P start)
    hguard h

/-- Every committed call is one of the calls. -/
theorem Inv.of_mem_committedOps {P : Op → Prop} {start : Ledger} {s : System}
    (h : Inv P start s) {op : Op} (hop : op ∈ committedOps s.calls) : P op := by
  rcases List.mem_filterMap.1 hop with ⟨c, hc, hcommitted⟩
  have hP : P c.op := h.ops.forall_mem hc
  unfold Call.committedOp at hcommitted
  split at hcommitted
  · cases hcommitted
    exact hP
  · cases hcommitted

/-! ## Overspending -/

/-- What a call charges: its cost, and nothing for a top-up. -/
def chargeOf : Op → ℚ
  | .meter cmd _ =>
      match cmd.charge with
      | .ok cost => cost.amount
      | .error _ => 0
  | .topUp _ => 0

/-- The column loses at least what the call charges: the fraction of a micro-dollar in its cost is
zero or at least one half. -/
def Covered : Op → Prop
  | .meter cmd _ => Int.fract cmd.microCharge = 0 ∨ 1 / 2 ≤ Int.fract cmd.microCharge
  | .topUp _ => True

/-- What holds of every committed state. -/
structure Safe (start : Ledger) (s : System) : Prop where
  nonneg : 0 ≤ s.ledger.available
  notOverspent : ((committedOps s.calls).map chargeOf).sum ≤
    start.available + credited (committedOps s.calls)
  /-- A committed call has all its effect, one that is running or has failed has none. -/
  bothOrNeither : ∃ order rs, order.Perm (committedOps s.calls) ∧
    run start order = some (rs, s.ledger)

/-- The balance never falls below zero in a serial run. -/
theorem nonneg_of_run {l l' : Ledger} {ops : List Op} {rs : List UsageRecord}
    (h : run l ops = some (rs, l')) (h0 : 0 ≤ l.available) : 0 ≤ l'.available := by
  induction ops generalizing l rs with
  | nil =>
      cases h
      exact h0
  | cons op ops ih =>
      rcases run_cons h with ⟨rs₁, l₁, rs₂, h₁, h₂, -⟩
      exact ih h₂ (nonneg_of_apply h₁ h0)

theorem charged_of_run {l l' : Ledger} {ops : List Op} {rs : List UsageRecord}
    (h : run l ops = some (rs, l')) : charged rs = (ops.map chargeOf).sum := by
  induction ops generalizing l rs with
  | nil =>
      cases h
      rfl
  | cons op ops ih =>
      rcases run_cons h with ⟨rs₁, l₁, rs₂, h₁, h₂, rfl⟩
      have hop : charged rs₁ = chargeOf op := by
        cases op with
        | meter cmd id =>
            rcases apply_meter h₁ with ⟨cost, balance, row, hcost, -, -, rfl, -⟩
            simp [charged, chargeOf, hcost, MeterUsageCommand.record]
        | topUp cents =>
            rcases apply_topUp h₁ with ⟨b, -, rfl, -⟩
            rfl
      have hops := ih h₂
      simp only [charged, List.map_append, List.sum_append, List.map_cons, List.sum_cons]
        at hop hops ⊢
      rw [hop, hops]

/-- The column loses at least the charge of a covered call. -/
theorem le_sum_lost {rs : List UsageRecord}
    (h : ∀ r ∈ rs, r.cost.amount * 10 ^ 6 ≤ lost r.cost) :
    charged rs * 10 ^ 6 ≤ ((rs.map fun r => lost r.cost).sum : ℤ) := by
  induction rs with
  | nil =>
      simp [charged]
  | cons r rs ih =>
      have hrest := ih fun r' hr' => h r' (List.mem_cons_of_mem _ hr')
      have hr := h r (by simp)
      simp only [charged, List.map_cons, List.sum_cons] at hrest ⊢
      rw [Int.cast_add]
      linarith

/-- A serial run of covered calls charges no more than there was and was credited. -/
theorem charged_le_of_run {l l' : Ledger} {ops : List Op} {rs : List UsageRecord}
    (h : run l ops = some (rs, l')) (h0 : 0 ≤ l.available) (hcov : ∀ op ∈ ops, Covered op) :
    charged rs ≤ l.available + credited ops := by
  have hlost : ∀ r ∈ rs, r.cost.amount * 10 ^ 6 ≤ lost r.cost := by
    intro r hr
    rcases exists_meter_of_mem h hr with ⟨cmd, id, hmem, hcost⟩
    have hmicro := MeterUsageCommand.amount_of_charge hcost
    have hnonneg : 0 ≤ cmd.microCharge := by
      rw [← hmicro]
      exact mul_nonneg r.cost.nonneg (by norm_num)
    rw [lost, hmicro]
    exact (le_roundHalfAway_iff hnonneg).2 (hcov _ hmem)
  have hsum := le_sum_lost hlost
  have havail := available_of_run h
  have hnonneg := nonneg_of_run h h0
  have hbound : (((rs.map fun r => lost r.cost).sum : ℤ) : ℚ) ≤
      (l.available + credited ops) * 10 ^ 6 := by
    rw [havail] at hnonneg
    have := sub_nonneg.1 hnonneg
    rwa [div_le_iff₀ (by norm_num)] at this
  linarith

/-- Every reachable state is safe when every metered call is covered. -/
theorem safe_of_covered {start s : _} {labels : List Label} (h0 : 0 ≤ start.available)
    (hcov : ∀ op, Label.begin op ∈ labels → Covered op)
    (h : exec step (System.init start) labels = some s) : Safe start s := by
  have hinv := inv_of_exec hcov h
  rcases hinv.serial with ⟨order, rs, hperm, hrun⟩
  have horder : ∀ op ∈ order, Covered op := fun op hop =>
    hinv.of_mem_committedOps (hperm.mem_iff.1 hop)
  refine
    { nonneg := nonneg_of_run hrun h0
      notOverspent := ?_
      bothOrNeither := ⟨order, rs, hperm, hrun⟩ }
  calc
    ((committedOps s.calls).map chargeOf).sum = (order.map chargeOf).sum :=
      (hperm.map chargeOf).sum_eq.symm
    _ = charged rs := (charged_of_run hrun).symm
    _ ≤ start.available + credited order := charged_le_of_run hrun h0 horder
    _ = start.available + credited (committedOps s.calls) := by
      rw [credited, credited, (hperm.map Op.credited).sum_eq]

/-- Two calls of twenty tokens and a top-up, interleaved. -/
def interleaved : List Label :=
  [.begin (.meter (miniCall 20) 7), .begin (.topUp 500), .deduct 0, .addUsage 0 none,
    .begin (.meter (miniCall 20) 8), .commit 0, .select 1, .write 1, .commit 1, .deduct 2, .abort 2]

theorem safe_of_covered_interleaved :
    ∃ s, exec step (System.init oneDollar) interleaved = some s ∧ Safe oneDollar s := by
  have hsome : (exec step (System.init oneDollar) interleaved).isSome = true := by
    decide +kernel
  rcases Option.isSome_iff_exists.1 hsome with ⟨s, hs⟩
  refine ⟨s, hs, safe_of_covered (by decide +kernel) ?_ hs⟩
  have hcall : Int.fract (miniCall 20).microCharge = 0 := by
    decide +kernel
  intro op hop
  simp only [interleaved, List.mem_cons, Label.begin.injEq, reduceCtorEq, List.not_mem_nil,
    false_or, or_false] at hop
  rcases hop with rfl | rfl | rfl
  · exact .inl hcall
  · trivial
  · exact .inl hcall

/-- A ledger of one micro-dollar. -/
def oneMicro : Ledger :=
  { balance := some { available := { micros := 1, bounded := by norm_num } }
    usage := [] }

/-- Four calls of two tokens, one after the other; each costs 0.3 micro-dollars. -/
def fourTinyCalls : List Label :=
  (List.range 4).flatMap fun i =>
    [.begin (.meter (miniCall 2) (BitVec.ofNat 128 i)), .deduct i, .addUsage i none, .commit i]

/-- One micro-dollar pays for any number of calls that cost less than half of one. -/
theorem tiny_calls_overspend :
    ¬ ∀ (start : Ledger) (s : System) (labels : List Label), 0 ≤ start.available →
      exec step (System.init start) labels = some s → Safe start s := by
  intro h
  have hover : ((exec step (System.init oneMicro) fourTinyCalls).map fun s =>
      decide (((committedOps s.calls).map chargeOf).sum ≤
        oneMicro.available + credited (committedOps s.calls))) = some false := by
    decide +kernel
  rcases Option.map_eq_some_iff.1 hover with ⟨s, hs, hne⟩
  exact of_decide_eq_false hne (h oneMicro s fourTinyCalls (by decide +kernel) hs).notOverspent

end Metering
end Backend
end OpenRouter
