import Mathlib.Algebra.BigOperators.Group.Finset.Basic
import Mathlib.Data.List.Infix
import OpenRouter.Backend.Billing

/-!
# Stripe — webhook deliveries and the credit they apply

`handleWebhook` is `StripeClient.handle_webhook` on the credit rows of all organisations.  A
history is a list of event ids in the order of their deliveries; what an id stands for does not
change between deliveries.

`ledgered_iff_onceOrRefused` compares the rows with the ledger that counts each id once, after
every prefix of the history.
-/

namespace OpenRouter
namespace Backend
namespace Stripe

open Base Billing

/-! ## Events -/

/-- What `_credit_org` reads of `data.object`: `metadata`, and in it `org_id`. -/
structure PaymentIntent where
  metadata : Option (Option String) := none
  amount : Option ℕ := none

structure Event where
  type : String
  object : PaymentIntent

namespace PaymentIntent

/-- `meta.get("org_id")`; an empty string is falsy. -/
def orgIdStr (p : PaymentIntent) : Option String :=
  (p.metadata.getD none).filter fun s => s ≠ ""

def cents (p : PaymentIntent) : ℕ :=
  p.amount.getD 0

end PaymentIntent

/-! ## The webhook -/

/-- The organisations, and their rows of `credit_balances` under the foreign key. -/
structure CreditDb where
  organizations : UUID → Bool
  balances : UUID → Option CreditBalance
  foreignKey : ∀ org, (balances org).isSome → organizations org = true

namespace CreditDb

def available (db : CreditDb) (org : UUID) : ℚ :=
  availableOf (db.balances org)

/-- Write the row of an organisation that exists. -/
def setBalance (db : CreditDb) (org : UUID) (row : CreditBalance)
    (h : db.organizations org = true) : CreditDb :=
  { organizations := db.organizations
    balances := fun other => if other = org then some row else db.balances other
    foreignKey := by
      intro other hsome
      by_cases ho : other = org
      · rw [ho, h]
      · exact db.foreignKey other (by simpa [ho] using hsome) }

end CreditDb

inductive WebhookError
  | invalidUuid
  | db (e : DbError)

section Parse

-- `UUID(org_id_str)`, with `none` for its `ValueError`.
variable (parse : String → Option UUID)

/-- `_credit_org`. -/
def creditOrgOf (db : CreditDb) (p : PaymentIntent) : Except WebhookError CreditDb :=
  match p.orgIdStr with
  | none => .ok db
  | some s =>
      match parse s with
      | none => .error .invalidUuid
      | some org =>
          match creditOrg (db.balances org) p.cents with
          | .error e => .error (.db e)
          | .ok row =>
              if h : db.organizations org = true then .ok (db.setBalance org row h)
              else .error (.db .other)

/-- `handle_webhook`; the other event types are only logged. -/
def handleWebhook (db : CreditDb) (event : Event) : Except WebhookError CreditDb :=
  if event.type = "payment_intent.succeeded" then
    creditOrgOf parse db event.object
  else
    .ok db

/-- One delivery; an exception rolls the transaction back. -/
def deliver (db : CreditDb) (event : Event) : CreditDb :=
  match handleWebhook parse db event with
  | .ok db' => db'
  | .error _ => db

/-! ## One delivery -/

/-- The organisation that a `payment_intent.succeeded` names. -/
def namedOrg (event : Event) : Option UUID :=
  if event.type = "payment_intent.succeeded" then event.object.orgIdStr.bind parse else none

/-- What an event is worth to an organisation. -/
def worth (event : Event) (org : UUID) : ℚ :=
  if namedOrg parse event = some org then amountUsd event.object.cents else 0

/-- What a delivery leaves: the named organisation's row with its credit, or the rows as they
were. -/
inductive Delivered (db : CreditDb) (event : Event) : CreditDb → Prop
  | credited {org : UUID} {row : CreditBalance} (h : db.organizations org = true) :
      namedOrg parse event = some org →
      creditOrg (db.balances org) event.object.cents = .ok row →
      Delivered db event (db.setBalance org row h)
  | unchanged :
      (∀ org, db.organizations org = true → namedOrg parse event = some org →
        ∃ e, creditOrg (db.balances org) event.object.cents = .error e) →
      Delivered db event db

theorem delivered_deliver (db : CreditDb) (event : Event) :
    Delivered parse db event (deliver parse db event) := by
  by_cases htype : event.type = "payment_intent.succeeded"
  · cases hid : event.object.orgIdStr with
    | none =>
        have hnone : namedOrg parse event = none := by simp [namedOrg, hid]
        simp only [deliver, handleWebhook, htype, if_true, creditOrgOf, hid]
        exact .unchanged (by simp [hnone])
    | some s =>
        have hnamed : namedOrg parse event = parse s := by simp [namedOrg, htype, hid]
        -- An id that is no UUID is logged and dropped.
        cases hparse : parse s with
        | none =>
            simp only [deliver, handleWebhook, htype, if_true, creditOrgOf, hid, hparse]
            exact .unchanged (by simp [hnamed, hparse])
        | some org =>
            cases hcredit : creditOrg (db.balances org) event.object.cents with
            | error e =>
                simp only [deliver, handleWebhook, htype, if_true, creditOrgOf, hid, hparse,
                  hcredit]
                refine .unchanged fun org' _ horg' => ?_
                rw [hnamed, hparse] at horg'
                cases horg'
                exact ⟨e, hcredit⟩
            | ok row =>
                simp only [deliver, handleWebhook, htype, if_true, creditOrgOf, hid, hparse,
                  hcredit]
                -- The upsert of an unknown organisation breaks the foreign key.
                by_cases horg : db.organizations org = true
                · simp only [horg, dite_true]
                  exact .credited horg (by rw [hnamed, hparse]) hcredit
                · simp only [horg]
                  refine .unchanged fun org' horg₁ horg' => ?_
                  rw [hnamed, hparse] at horg'
                  cases horg'
                  exact absurd horg₁ horg
  · have hnone : namedOrg parse event = none := by simp [namedOrg, htype]
    simp only [deliver, handleWebhook, htype, if_false]
    exact .unchanged (by simp [hnone])

theorem Delivered.organizations_eq {db db' : CreditDb} {event : Event}
    (h : Delivered parse db event db') : db'.organizations = db.organizations := by
  cases h <;> rfl

/-- A delivery credits an organisation with what it is worth, if the column has room for it. -/
theorem Delivered.available_eq {db db' : CreditDb} {event : Event}
    (h : Delivered parse db event db')
    {org : UUID} (horg : db.organizations org = true) :
    db'.available org =
      db.available org +
        if Numeric.Fits (db.available org + worth parse event org) then worth parse event org
        else 0 := by
  cases h with
  | @credited org' row _ hnamed hcredit =>
      by_cases heq : org = org'
      · subst heq
        -- Its own credit went through, so the column had room for it.
        have hfits := exists_creditOrg_iff.1 ⟨row, hcredit⟩
        have havail := available_of_creditOrg hcredit
        have hworth : worth parse event org = amountUsd event.object.cents := by
          simp [worth, hnamed]
        have hfits' : Numeric.Fits (db.available org + amountUsd event.object.cents) := hfits
        rw [hworth, if_pos hfits']
        simpa [CreditDb.available, CreditDb.setBalance, availableOf] using havail
      · have hworth : worth parse event org = 0 := by
          simp [worth, hnamed, Ne.symm heq]
        simp [hworth, CreditDb.available, CreditDb.setBalance, heq]
  | unchanged hnone =>
      by_cases hnamed : namedOrg parse event = some org
      · have hworth : worth parse event org = amountUsd event.object.cents := by
          simp [worth, hnamed]
        -- The organisation is named, so it was the column that refused.
        have hfull : ¬ Numeric.Fits (db.available org + worth parse event org) := by
          intro hfits
          rw [hworth] at hfits
          rcases exists_creditOrg_iff.2 hfits with ⟨row, hrow⟩
          rcases hnone org horg hnamed with ⟨e, he⟩
          rw [he] at hrow
          cases hrow
        simp [hfull]
      · have hworth : worth parse event org = 0 := by
          simp [worth, hnamed]
        simp [hworth]

/-! ## Histories -/

variable {ι : Type} (events : ι → Event)

/-- The deliveries in order. -/
def deliverAll (db : CreditDb) (ids : List ι) : CreditDb :=
  ids.foldl (fun db id => deliver parse db (events id)) db

theorem deliverAll_concat (db : CreditDb) (ids : List ι) (id : ι) :
    deliverAll parse events db (ids ++ [id]) =
      deliver parse (deliverAll parse events db ids) (events id) := by
  simp [deliverAll]

theorem organizations_deliverAll (db : CreditDb) (ids : List ι) :
    (deliverAll parse events db ids).organizations = db.organizations := by
  induction ids using List.reverseRecOn with
  | nil => rfl
  | append_singleton ids id ih =>
      rw [deliverAll_concat, (delivered_deliver parse _ _).organizations_eq, ih]

/-! ## The ledger of distinct events -/

variable [DecidableEq ι]

/-- The balance that counts each delivered id once. -/
def expected (db : CreditDb) (ids : List ι) (org : UUID) : ℚ :=
  db.available org + ∑ id ∈ ids.toFinset, worth parse (events id) org

/-- After each delivery, every organisation has what the distinct ids so far are worth. -/
def Ledgered (db : CreditDb) (ids : List ι) : Prop :=
  ∀ pre, pre <+: ids → ∀ org, db.organizations org = true →
    (deliverAll parse events db pre).available org = expected parse events db pre org

/-- A delivery that is worth something to an organisation comes for the first time, and the column
has room for it; or it comes again, and the column has no room. -/
def OnceOrRefused (db : CreditDb) (pre : List ι) (id : ι) : Prop :=
  ∀ org, db.organizations org = true → worth parse (events id) org ≠ 0 →
    (Numeric.Fits (expected parse events db pre org + worth parse (events id) org) ↔ id ∉ pre)

theorem expected_concat (db : CreditDb) (ids : List ι) (id : ι) (org : UUID) :
    expected parse events db (ids ++ [id]) org =
      expected parse events db ids org + if id ∈ ids then 0 else worth parse (events id) org := by
  have hset : (ids ++ [id]).toFinset = insert id ids.toFinset := by
    ext x
    simp
  by_cases hmem : id ∈ ids
  · have hins : insert id ids.toFinset = ids.toFinset :=
      Finset.insert_eq_of_mem (List.mem_toFinset.2 hmem)
    simp [expected, hset, hins, hmem]
  · have hnot : id ∉ ids.toFinset := fun h => hmem (List.mem_toFinset.1 h)
    rw [expected, hset, Finset.sum_insert hnot, if_neg hmem, expected]
    ring

/-- One more delivery on a ledger that is right so far. -/
theorem available_concat_iff {db : CreditDb} {ids : List ι} {id : ι} {org : UUID}
    (horg : db.organizations org = true)
    (h : (deliverAll parse events db ids).available org = expected parse events db ids org) :
    (deliverAll parse events db (ids ++ [id])).available org =
        expected parse events db (ids ++ [id]) org ↔
      (worth parse (events id) org ≠ 0 →
        (Numeric.Fits (expected parse events db ids org + worth parse (events id) org) ↔
          id ∉ ids)) := by
  have horg' : (deliverAll parse events db ids).organizations org = true := by
    rw [organizations_deliverAll, horg]
  rw [deliverAll_concat, (delivered_deliver parse _ _).available_eq parse horg', expected_concat, h]
  -- The delivery adds its worth if it fits, the ledger if the id is new.
  by_cases hworth : worth parse (events id) org = 0
  · simp [hworth]
  · by_cases hfits :
        Numeric.Fits (expected parse events db ids org + worth parse (events id) org) <;>
      by_cases hmem : id ∈ ids <;> simp [hfits, hmem, hworth]

/-- The rows follow the ledger of distinct events exactly when every delivery that is worth
something is the first of its id and fits, or is a repetition that the column refuses. -/
theorem ledgered_iff_onceOrRefused (db : CreditDb) (ids : List ι) :
    Ledgered parse events db ids ↔
      ∀ pre id, pre ++ [id] <+: ids → OnceOrRefused parse events db pre id := by
  induction ids using List.reverseRecOn with
  | nil =>
      constructor
      · intro _ pre id hpre
        simp at hpre
      · intro _ pre hpre org _
        rw [List.prefix_nil.1 hpre]
        simp [deliverAll, expected]
  | append_singleton ids id ih =>
      constructor
      · intro h
        have hids : Ledgered parse events db ids :=
          fun pre hpre => h pre (hpre.trans (List.prefix_append _ _))
        intro pre id' hpre
        -- The new prefix is the whole list; the others are those of `ids`.
        rcases List.prefix_concat_iff.1 hpre with heq | hpre
        · rcases List.append_inj' heq rfl with ⟨rfl, hid⟩
          cases hid
          intro org horg
          exact (available_concat_iff parse events horg (hids pre List.prefix_rfl org horg)).1
            (h _ List.prefix_rfl org horg)
        · exact ih.1 hids pre id' hpre
      · intro h
        have hids : Ledgered parse events db ids :=
          ih.2 fun pre id' hpre => h pre id' (hpre.trans (List.prefix_append _ _))
        intro pre hpre org horg
        rcases List.prefix_concat_iff.1 hpre with rfl | hpre
        · exact (available_concat_iff parse events horg (hids ids List.prefix_rfl org horg)).2
            (h ids id List.prefix_rfl org horg)
        · exact hids pre hpre org horg

end Parse

/-! ### A redelivered event -/

/-- The canonical text of the organisation 1. -/
def parseOne (s : String) : Option UUID :=
  if s = "00000000-0000-0000-0000-000000000001" then some 1 else none

/-- The organisation 1 exists and has no row yet. -/
def newOrg : CreditDb :=
  { organizations := fun org => org = 1
    balances := fun _ => none
    foreignKey := by simp }

/-- A payment of $50 for the organisation 1. -/
def fiftyDollars : Event :=
  { type := "payment_intent.succeeded"
    object :=
      { metadata := some (some "00000000-0000-0000-0000-000000000001")
        amount := some 5000 } }

/-- The second delivery of one event credits it again. -/
theorem redelivery_credits_twice :
    ¬ ∀ (parse : String → Option UUID) (events : String → Event) (db : CreditDb)
      (ids : List String), Ledgered parse events db ids := by
  intro h
  have htwice := h parseOne (fun _ => fiftyDollars) newOrg ["evt_replay_me", "evt_replay_me"] _
    List.prefix_rfl 1 rfl
  revert htwice
  decide +kernel

end Stripe
end Backend
end OpenRouter
