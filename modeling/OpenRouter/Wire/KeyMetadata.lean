import OpenRouter.Backend.AuthServicer
import OpenRouter.Gateway.Access
import OpenRouter.Gateway.Loaders

/-!
# KeyMetadata — a stored key as the gateway sees it

The backend's `ValidateKey` and the gateway's `grpcAuthClient.Validate`, one behind the other.
The servicer never sets `expires_at`, so that the metadata of a key is the key's own exactly when
the key has no expiry: `faithful_iff_noExpiry`.
-/

namespace OpenRouter
namespace Wire

open Backend (APIKey UUID Numeric findByLookupHash)
open Backend.Routes (Db)
open Backend.Reservations (SpendError)
open Backend.AuthServicer (Covered getForUpdate toDomain uuidStr validateKey)
open Base (toBinary64)
open Gateway (Carries)
open Gateway.AuthCache (Loaded Metadata validate)

/-! ## The call -/

/-- What the client reads of the message. -/
def received (resp : Backend.AuthServicer.ValidateKeyResponse) :
    Gateway.AuthCache.ValidateKeyResponse where
  valid := resp.valid
  keyId := resp.keyId
  orgId := resp.orgId
  userId := resp.userId
  allowedModels := resp.allowedModels
  deniedModels := resp.deniedModels
  rateLimit := resp.rateLimit.map fun rl =>
    { requestsPerMinute := rl.requestsPerMinute
      tokensPerMinute := rl.tokensPerMinute
      concurrentRequests := rl.concurrentRequests
      requestsPerDay := rl.requestsPerDay }
  budget := resp.budget.map fun b =>
    { remainingCredits := b.remainingCredits, hardStop := b.hardStop }
  expiresAt := resp.expiresAt
  revocationReason := resp.revocationReason

-- The text of the status that the call ends with when the servicer raises.
variable (rpcError : SpendError → String)

/-- `Validate` with the backend on the database. -/
def fetch (db : Db) (now : ℤ) (keyHash : String) : Loaded :=
  validate
    (match validateKey db now keyHash with
    | .ok resp => .ok (received resp)
    | .error exc => .error (rpcError exc))

/-! ## What the metadata should be -/

/-- The metadata is that of the key and its balance: an id is the text of this UUID and of no
other, and the credit is, to the micro-dollar, what is usable. -/
structure Carried (m : Metadata) (key : APIKey) (row : Backend.CreditBalance) : Prop where
  valid : m.valid = true
  keyID : ∀ id, m.keyID = uuidStr id ↔ key.id = id
  orgID : ∀ id, m.orgID = uuidStr id ↔ key.orgId = id
  userID : ∀ id, m.userID = uuidStr id ↔ key.userId = id
  policy : Carries m key
  credits : ∃ n, Numeric.store m.budget.remainingCredits = .ok n ∧
    n.toDecimal = row.available.toDecimal - row.reserved.toDecimal
  hardStop : m.budget.hardStop = row.hardStop

/-- The three outcomes of a call, each on the keys that it is for. -/
structure Faithful (db : Db) (now : ℤ) (keyHash : String) : Prop where
  missed : fetch rpcError db now keyHash = .error .miss ↔ findByLookupHash db keyHash = none
  refused : ∀ key exc, findByLookupHash db keyHash = some key → key.assertUsable now = .error exc →
    ∃ m, fetch rpcError db now keyHash = .ok m ∧ m.valid = false
  carried : ∀ key, findByLookupHash db keyHash = some key → key.assertUsable now = .ok () →
    Covered (getForUpdate db key.orgId) →
    ∃ m, fetch rpcError db now keyHash = .ok m ∧ Carried m key (getForUpdate db key.orgId)

/-- A usable key that is found, with a covered balance, has no expiry. -/
def NoExpiry (db : Db) (now : ℤ) (keyHash : String) : Prop :=
  ∀ key, findByLookupHash db keyHash = some key → key.assertUsable now = .ok () →
    Covered (getForUpdate db key.orgId) → key.expiresAt = none

/-! ## What it is -/

variable {rpcError} {db : Db} {now : ℤ} {keyHash : String} {key : APIKey}

theorem fetch_of_none (h : findByLookupHash db keyHash = none) :
    fetch rpcError db now keyHash = .error .miss := by
  simp [fetch, validateKey, h, received, validate]

theorem message_ne_unknownKey {exc : Backend.DomainError} (h : key.assertUsable now = .error exc) :
    exc.message ≠ "unknown_key" := by
  unfold APIKey.assertUsable at h
  split at h
  · cases h
    decide
  · split at h
    · split at h
      · cases h
        decide
      · cases h
    · cases h

theorem fetch_of_unusable (hfind : findByLookupHash db keyHash = some key)
    {exc : Backend.DomainError} (hexc : key.assertUsable now = .error exc) :
    ∃ m, fetch rpcError db now keyHash = .ok m ∧ m.valid = false := by
  have hne := message_ne_unknownKey hexc
  refine ⟨{}, ?_, rfl⟩
  simp [fetch, Backend.AuthServicer.validateKey_of_unusable hfind hexc, received, validate, hne]

/-- What arrives of a usable key. -/
def arriving (key : APIKey) (row : Backend.CreditBalance) (usable : Backend.Money) : Metadata where
  valid := true
  keyID := uuidStr key.id
  orgID := uuidStr key.orgId
  userID := uuidStr key.userId
  allowedModels := key.allowedModels
  deniedModels := key.deniedModels
  budget := { remainingCredits := toBinary64 usable.amount, hardStop := row.hardStop }

theorem fetch_of_usable (hfind : findByLookupHash db keyHash = some key)
    (husable : key.assertUsable now = .ok ()) {usable : Backend.Money}
    (hbalance : (toDomain key.orgId (getForUpdate db key.orgId)).usable = .ok usable) :
    fetch rpcError db now keyHash = .ok (arriving key (getForUpdate db key.orgId) usable) := by
  simp only [fetch, Backend.AuthServicer.validateKey_of_usable hfind husable hbalance]
  rfl

/-- Everything arrives but the expiry. -/
theorem carried_arriving_iff {row : Backend.CreditBalance} (hcovered : Covered row)
    {usable : Backend.Money}
    (hamount : usable.amount = row.available.toDecimal - row.reserved.toDecimal) :
    Carried (arriving key row usable) key row ↔ key.expiresAt = none := by
  constructor
  · intro h
    exact h.policy.expiresAt.symm
  · intro hexpiry
    rcases Backend.AuthServicer.store_remainingCredits hcovered hamount with ⟨n, hn, hvalue⟩
    exact
      { valid := rfl
        keyID := fun _ => Backend.AuthServicer.uuidStr_injective.eq_iff
        orgID := fun _ => Backend.AuthServicer.uuidStr_injective.eq_iff
        userID := fun _ => Backend.AuthServicer.uuidStr_injective.eq_iff
        policy := { expiresAt := hexpiry.symm, deniedModels := rfl, allowedModels := rfl }
        credits := ⟨n, hn, hvalue.trans hamount⟩
        hardStop := rfl }

/-- A servicer that raises is no miss. -/
theorem fetch_eq_miss_iff :
    fetch rpcError db now keyHash = .error .miss ↔ findByLookupHash db keyHash = none := by
  cases hfind : findByLookupHash db keyHash with
  | none => simp [fetch_of_none hfind]
  | some key =>
      cases husable : key.assertUsable now with
      | error exc =>
          have hfetch : ∃ m, fetch rpcError db now keyHash = .ok m ∧ m.valid = false :=
            fetch_of_unusable hfind husable
          rcases hfetch with ⟨m, hm, -⟩
          simp [hm]
      | ok u =>
          cases hbalance : (toDomain key.orgId (getForUpdate db key.orgId)).usable with
          | error exc => simp [fetch, validateKey, hfind, husable, hbalance, validate]
          | ok usable => simp [fetch_of_usable hfind husable hbalance]

theorem noExpiry_of_faithful (h : Faithful rpcError db now keyHash) : NoExpiry db now keyHash := by
  intro key hfind husable hcovered
  rcases h.carried key hfind husable hcovered with ⟨m, hm, hcarried⟩
  rcases Backend.AuthServicer.exists_usable_of_covered hcovered key.orgId with ⟨u, hu, hamount⟩
  rw [fetch_of_usable hfind husable hu] at hm
  cases hm
  exact (carried_arriving_iff hcovered hamount).1 hcarried

/-- The gateway has the key's own metadata exactly when there is no expiry to carry. -/
theorem faithful_iff_noExpiry (rpcError : SpendError → String) (db : Db) (now : ℤ)
    (keyHash : String) : Faithful rpcError db now keyHash ↔ NoExpiry db now keyHash := by
  refine ⟨noExpiry_of_faithful, fun h => ?_⟩
  constructor
  · exact fetch_eq_miss_iff
  · intro key exc hfind hexc
    exact fetch_of_unusable hfind hexc
  · intro key hfind husable hcovered
    rcases Backend.AuthServicer.exists_usable_of_covered hcovered key.orgId with ⟨u, hu, hamount⟩
    exact ⟨_, fetch_of_usable hfind husable hu,
      (carried_arriving_iff hcovered hamount).2 (h key hfind husable hcovered)⟩

/-! ### A key for one day -/

def dayKey : APIKey where
  id := 2
  orgId := 1
  userId := 7
  name := "trial"
  keyHash := "argon2id"
  keyLookup := "h"
  expiresAt := some 86400
  createdAt := 0

def dayKeyDb : Db where
  organizations := fun id => id == 1
  users := fun id => if id = 7 then some { id := 7, orgId := 1, role := .owner } else none
  apiKeys := [dayKey]
  creditBalances := fun _ => none
  usageRecords := []
  auditLogs := []
  keyIds_nodup := List.nodup_singleton _
  keyLookups_nodup := List.nodup_singleton _
  auditIds_nodup := List.nodup_nil

/-- Before its day is over the key arrives as one that never expires. -/
theorem expiry_is_lost :
    ¬ ∀ (rpcError : SpendError → String) (db : Db) (now : ℤ) (keyHash : String),
      Faithful rpcError db now keyHash := by
  intro h
  have hnone := noExpiry_of_faithful (h (fun _ => "") dayKeyDb 0 "h") dayKey rfl rfl
    { nonneg := by simp [getForUpdate, dayKeyDb], le := by simp [getForUpdate, dayKeyDb] }
  cases hnone

end Wire
end OpenRouter
