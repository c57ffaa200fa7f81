import Mathlib.Algebra.BigOperators.Group.List.Basic
import Mathlib.Data.List.Nodup
import OpenRouter.Backend.Domain
import OpenRouter.Backend.Keys

/-!
# Routes — the key, admin and billing routes on the database

One authenticated call is `respond`: the decorators `@audit_log` and `@require_permission` around
the handler, each handler one transaction on `Db`.  What a call draws (uuids, the new key) and the
clock come in as `Draws`.
-/

namespace OpenRouter
namespace Backend
namespace Routes

/-! ## The database -/

structure AuditLog where
  id : UUID
  orgId : UUID
  actorUserId : UUID
  action : String
  targetType : String
  targetId : UUID

/-- The tables, with their primary keys and unique columns. -/
structure Db where
  organizations : UUID → Bool
  users : UUID → Option User
  apiKeys : List APIKey
  creditBalances : UUID → Option CreditBalance
  /-- Each usage row with its `created_at`. -/
  usageRecords : List (UsageRow × ℤ)
  auditLogs : List AuditLog
  keyIds_nodup : (apiKeys.map APIKey.id).Nodup
  keyLookups_nodup : (apiKeys.map APIKey.keyLookup).Nodup
  auditIds_nodup : (auditLogs.map AuditLog.id).Nodup

namespace Db

def listForOrg (db : Db) (org : UUID) : List APIKey :=
  db.apiKeys.filter fun k => k.orgId = org

def getKey (db : Db) (id : UUID) : Option APIKey :=
  db.apiKeys.find? fun k => k.id = id

/-- `SqlAPIKeyRepository.add`; `none` when a key of the table or a reference is violated. -/
def addKey (db : Db) (k : APIKey) : Option Db :=
  if h : k.id ∉ db.apiKeys.map APIKey.id ∧ k.keyLookup ∉ db.apiKeys.map APIKey.keyLookup ∧
      db.organizations k.orgId = true ∧ (db.users k.userId).isSome then
    some
      { db with
        apiKeys := k :: db.apiKeys
        keyIds_nodup := List.nodup_cons.2 ⟨h.1, db.keyIds_nodup⟩
        keyLookups_nodup := List.nodup_cons.2 ⟨h.2.1, db.keyLookups_nodup⟩ }
  else
    none

/-- The row that the `UPDATE` of `revoke` leaves. -/
def revokeRow (id : UUID) (now : ℤ) (reason : String) (k : APIKey) : APIKey :=
  if k.id = id then { k with revokedAt := some now, revocationReason := some reason } else k

@[simp] theorem id_revokeRow (id : UUID) (now : ℤ) (reason : String) (k : APIKey) :
    (revokeRow id now reason k).id = k.id := by
  unfold revokeRow
  split <;> rfl

@[simp] theorem orgId_revokeRow (id : UUID) (now : ℤ) (reason : String) (k : APIKey) :
    (revokeRow id now reason k).orgId = k.orgId := by
  unfold revokeRow
  split <;> rfl

@[simp] theorem keyLookup_revokeRow (id : UUID) (now : ℤ) (reason : String) (k : APIKey) :
    (revokeRow id now reason k).keyLookup = k.keyLookup := by
  unfold revokeRow
  split <;> rfl

/-- `SqlAPIKeyRepository.revoke`. -/
def revoke (db : Db) (id : UUID) (now : ℤ) (reason : String) : Db :=
  { db with
    apiKeys := db.apiKeys.map (revokeRow id now reason)
    keyIds_nodup := by
      simpa [List.map_map, Function.comp_def] using db.keyIds_nodup
    keyLookups_nodup := by
      simpa [List.map_map, Function.comp_def] using db.keyLookups_nodup }

/-- The insert of `_write_audit`; its failure is only logged. -/
def addAudit (db : Db) (a : AuditLog) : Db :=
  if h : a.id ∈ db.auditLogs.map AuditLog.id then
    db
  else
    { db with
      auditLogs := a :: db.auditLogs
      auditIds_nodup := List.nodup_cons.2 ⟨h, db.auditIds_nodup⟩ }

end Db

/-! ## Calls and responses -/

structure CreateKeyBody where
  name : String
  scope : KeyScope := .personal
  allowedModels : List String := []
  expiresAt : Option ℤ := none

inductive RouteCall
  | createKey (body : CreateKeyBody)
  | listKeys
  | revokeKey (keyId : UUID)
  | suspendUser (userId : UUID)
  | getBalance
  | getUsage (start stop : Option ℤ)

structure KeyView where
  id : UUID
  name : String
  scope : KeyScope
  allowedModels : List String
  expiresAt : Option ℤ
  createdAt : ℤ
  deriving DecidableEq

structure UsageView where
  inputTokens : ℤ
  outputTokens : ℤ
  costUsd : ℚ
  requests : ℕ
  deriving DecidableEq

/-- What the client gets. -/
inductive Response
  | createdKey (view : KeyView) (plaintext : String)
  | keys (views : List KeyView)
  | noContent
  | balance (row : CreditBalance)
  | usage (view : UsageView)
  | domainError (e : DomainError)
  /-- 422, from the validation of the body. -/
  | validationError
  /-- 500, without detail. -/
  | internalError

/-- What the process draws during the call, and its clock. -/
structure Draws where
  now : ℤ
  keyId : UUID
  plaintext : String
  keyHash : String
  auditId : UUID
  auditTarget : UUID

/-- `hashlib.sha256` in hex, and what the driver makes of the two texts of a period: a filter on
`created_at`, or an error. -/
structure Platform where
  sha256Lookup : String → String
  inPeriod : ℤ → ℤ → Option (ℤ → Bool)

/-! ## Decorators -/

/-- An exception that leaves a handler. -/
inductive Failure
  | domain (e : DomainError)
  | other

abbrev Handler : Type :=
  Db → Except Failure (Response × Db)

/-- `_ROLE_PERMISSIONS`. -/
def rolePermissions : UserRole → List String
  | .owner => ["keys:write", "keys:read", "billing:write", "billing:read", "admin:write"]
  | .admin => ["keys:write", "keys:read", "billing:read", "admin:write"]
  | .billing => ["billing:write", "billing:read"]
  | .member => ["keys:read"]

def requirePermission (permission : String) (auth : AuthContext) (h : Handler) : Handler :=
  fun db =>
    if permission ∈ rolePermissions auth.user.role then
      h db
    else
      .error (.domain (.forbidden
        ("Permission " ++ permission ++ " denied for role " ++ auth.user.role.value)))

def auditLog (action targetType : String) (targetId : UUID) (auth : AuthContext) (d : Draws)
    (h : Handler) : Handler :=
  fun db =>
    match h db with
    | .error e => .error e
    | .ok (r, db') =>
        .ok (r, db'.addAudit
          { id := d.auditId
            orgId := auth.user.orgId
            actorUserId := auth.user.id
            action := action
            targetType := targetType
            targetId := targetId })

/-! ## Handlers -/

def viewOf (k : APIKey) : KeyView :=
  { id := k.id
    name := k.name
    scope := k.scope
    allowedModels := k.allowedModels
    expiresAt := k.expiresAt
    createdAt := k.createdAt }

def createKey (p : Platform) (d : Draws) (auth : AuthContext) (body : CreateKeyBody) : Handler :=
  fun db =>
    let key : APIKey :=
      { id := d.keyId
        orgId := auth.user.orgId
        userId := auth.user.id
        name := body.name
        scope := body.scope
        keyHash := d.keyHash
        keyLookup := p.sha256Lookup d.plaintext
        allowedModels := body.allowedModels
        expiresAt := body.expiresAt
        createdAt := d.now }
    match db.addKey key with
    | some db' => .ok (.createdKey (viewOf key) d.plaintext, db')
    | none => .error .other

def listKeys (auth : AuthContext) : Handler :=
  fun db => .ok (.keys ((db.listForOrg auth.user.orgId).map viewOf), db)

/-- `AuthService.revoke_key`. -/
def revokeKey (d : Draws) (keyId : UUID) (reason : String) : Handler :=
  fun db =>
    match db.getKey keyId with
    | none => .error (.domain (.notFound "API key not found"))
    | some _ => .ok (.noContent, db.revoke keyId d.now reason)

def suspendUser (d : Draws) (auth : AuthContext) (userId : UUID) : Handler :=
  fun db =>
    match db.users userId with
    | none => .error (.domain (.notFound "User not found"))
    | some user =>
        if user.orgId ≠ auth.user.orgId then
          .error (.domain (.notFound "User not in your organization"))
        else
          let keys := db.listForOrg user.orgId
          .ok (.noContent, keys.foldl (fun db k =>
            if k.userId = userId ∧ k.revokedAt = none then
              db.revoke k.id d.now "user_suspended"
            else db) db)

/-- `get_for_update` inserts a row when there is none, and the session closes without a commit. -/
def getBalance (auth : AuthContext) : Handler :=
  fun db =>
    match db.creditBalances auth.user.orgId with
    | some b => .ok (.balance b, db)
    | none =>
        if db.organizations auth.user.orgId then .ok (.balance {}, db) else .error .other

/-- Thirty days on the clock of the rows, in microseconds. -/
def thirtyDays : ℤ :=
  30 * 24 * 3600 * 1000000

def getUsage (p : Platform) (d : Draws) (auth : AuthContext) (start stop : Option ℤ) : Handler :=
  fun db =>
    let stop := stop.getD d.now
    let start := start.getD (stop - thirtyDays)
    match p.inPeriod start stop with
    | none => .error .other
    | some within =>
        let rows := db.usageRecords.filter fun r => r.1.orgId = auth.user.orgId && within r.2
        .ok (.usage
          { inputTokens := (rows.map fun r => r.1.inputTokens).sum
            outputTokens := (rows.map fun r => r.1.outputTokens).sum
            costUsd := (rows.map fun r => r.1.costUsd.toDecimal).sum
            requests := rows.length }, db)

/-- The route of a call, with its decorators. -/
def handler (p : Platform) (d : Draws) (auth : AuthContext) : RouteCall → Handler
  | .createKey body =>
      auditLog "api_key.create" "api_key" d.auditTarget auth d
        (requirePermission "keys:write" auth (createKey p d auth body))
  | .listKeys => requirePermission "keys:read" auth (listKeys auth)
  | .revokeKey keyId =>
      auditLog "api_key.revoke" "api_key" keyId auth d
        (requirePermission "keys:write" auth (revokeKey d keyId "user_requested"))
  | .suspendUser userId =>
      auditLog "user.suspend" "user" userId auth d
        (requirePermission "admin:write" auth (suspendUser d auth userId))
  | .getBalance => requirePermission "billing:read" auth (getBalance auth)
  | .getUsage start stop => requirePermission "billing:read" auth (getUsage p d auth start stop)

/-- The bounds that `CreateKeyBody` puts on its name. -/
def RouteCall.valid : RouteCall → Bool
  | .createKey body => 1 ≤ body.name.length && body.name.length ≤ 200
  | _ => true

/-- One call: its response and the committed rows it leaves. -/
def respond (p : Platform) (d : Draws) (auth : AuthContext) (call : RouteCall) (db : Db) :
    Response × Db :=
  if call.valid then
    match handler p d auth call db with
    | .ok (r, db') => (r, db')
    | .error (.domain e) => (.domainError e, db)
    | .error .other => (.internalError, db)
  else
    (.validationError, db)

end Routes
end Backend
end OpenRouter
