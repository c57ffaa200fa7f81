import OpenRouter.Backend.Domain

/-!
# Keys — users, API keys and the checks on them

The entities of `service/domain/entities.py` that authorise a request, and the domain errors with
the status and the code that `api/errors.py` sends for them.
-/

namespace OpenRouter
namespace Backend

/-! ## Domain errors -/

structure DomainError where
  code : String
  httpStatus : ℕ
  message : String
  deriving DecidableEq, Repr

namespace DomainError

def notFound (message : String) : DomainError :=
  { code := "not_found", httpStatus := 404, message := message }

def forbidden (message : String) : DomainError :=
  { code := "forbidden", httpStatus := 403, message := message }

def invalidApiKey (message : String) : DomainError :=
  { code := "invalid_api_key", httpStatus := 401, message := message }

end DomainError

/-! ## Entities -/

inductive UserRole
  | owner
  | admin
  | member
  | billing
  deriving DecidableEq, Repr

def UserRole.value : UserRole → String
  | .owner => "owner"
  | .admin => "admin"
  | .member => "member"
  | .billing => "billing"

structure User where
  id : UUID
  orgId : UUID
  role : UserRole
  deriving DecidableEq

inductive KeyScope
  | personal
  | project
  | team
  | admin
  | byok
  deriving DecidableEq, Repr

/-- A row of `api_keys`; instants are integers on one clock. -/
structure APIKey where
  id : UUID
  orgId : UUID
  userId : UUID
  name : String
  scope : KeyScope := .personal
  keyHash : String
  keyLookup : String
  allowedModels : List String := []
  deniedModels : List String := []
  expiresAt : Option ℤ := none
  revokedAt : Option ℤ := none
  revocationReason : Option String := none
  createdAt : ℤ
  deriving DecidableEq

namespace APIKey

/-- `assert_usable` at the instant `now`. -/
def assertUsable (k : APIKey) (now : ℤ) : Except DomainError Unit :=
  if k.revokedAt.isSome then
    .error (.invalidApiKey "Key revoked")
  else
    match k.expiresAt with
    | some t => if t < now then .error (.invalidApiKey "Key expired") else .ok ()
    | none => .ok ()

/-- `assert_model_allowed`. -/
def assertModelAllowed (k : APIKey) (model : String) : Except DomainError Unit :=
  if k.deniedModels ≠ [] ∧ model ∈ k.deniedModels then
    .error (.forbidden ("Model " ++ model ++ " denied for this key"))
  else if k.allowedModels ≠ [] ∧ model ∉ k.allowedModels then
    .error (.forbidden ("Model " ++ model ++ " not in key allowlist"))
  else
    .ok ()

theorem assertUsable_eq_ok {k : APIKey} {now : ℤ} :
    k.assertUsable now = .ok () ↔ k.revokedAt = none ∧ ∀ t, k.expiresAt = some t → now ≤ t := by
  cases hrevoked : k.revokedAt with
  | some r => simp [assertUsable, hrevoked]
  | none =>
      cases hexp : k.expiresAt with
      | none => simp [assertUsable, hrevoked, hexp]
      | some t =>
          by_cases hlt : t < now
          · simp [assertUsable, hrevoked, hexp, hlt]
          · simp [assertUsable, hrevoked, hexp, hlt, not_lt.1 hlt]

theorem assertModelAllowed_eq_ok {k : APIKey} {model : String} :
    k.assertModelAllowed model = .ok () ↔
      model ∉ k.deniedModels ∧ (k.allowedModels = [] ∨ model ∈ k.allowedModels) := by
  by_cases hdenied : model ∈ k.deniedModels
  · have hne : k.deniedModels ≠ [] := List.ne_nil_of_mem hdenied
    simp [assertModelAllowed, hdenied, hne]
  · by_cases hnil : k.allowedModels = []
    · simp [assertModelAllowed, hdenied, hnil]
    · by_cases hallowed : model ∈ k.allowedModels
      · simp [assertModelAllowed, hdenied, hallowed]
      · simp [assertModelAllowed, hdenied, hallowed, hnil]

end APIKey

/-- `AuthService.validate_for_request` at the instant `now`; `find` is `find_by_lookup_hash` and
`verify` is `verify_api_key`. -/
def validateForRequest (sha256Lookup : String → String) (verify : String → String → Bool)
    (find : String → Option APIKey) (now : ℤ) (plaintext model : String) :
    Except DomainError APIKey :=
  match find (sha256Lookup plaintext) with
  | none => .error (.invalidApiKey "Unknown API key")
  | some key =>
      if verify plaintext key.keyHash = false then .error (.invalidApiKey "Invalid API key")
      else do
        key.assertUsable now
        key.assertModelAllowed model
        return key

/-- A stored key whose secret verifies is let through by its two checks. -/
theorem validateForRequest_eq_ok {sha256Lookup : String → String}
    {verify : String → String → Bool} {find : String → Option APIKey} {now : ℤ}
    {plaintext model : String} {key : APIKey} (hfind : find (sha256Lookup plaintext) = some key)
    (hverify : verify plaintext key.keyHash = true) :
    validateForRequest sha256Lookup verify find now plaintext model = .ok key ↔
      key.assertUsable now = .ok () ∧ key.assertModelAllowed model = .ok () := by
  simp only [validateForRequest, hfind, hverify, Bool.true_eq_false, if_false]
  cases husable : key.assertUsable now with
  | error err => simp [Bind.bind, Except.bind]
  | ok u =>
      cases hallowed : key.assertModelAllowed model with
      | error err => simp [Bind.bind, Except.bind]
      | ok u' => simp [Bind.bind, Except.bind, Pure.pure, Except.pure]

/-- What the routes read of `AuthContext`. -/
structure AuthContext where
  user : User

end Backend
end OpenRouter
