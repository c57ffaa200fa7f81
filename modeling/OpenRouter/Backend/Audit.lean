import OpenRouter.Backend.Routes
import OpenRouter.Base.Transition

/-!
# Audit — who is answerable for a key

`@audit_log` writes its row in a transaction of its own, when that of the handler is over, and a
write that fails is only logged.  In between, other calls go on.  The trail is what is written, to
be written and lost: `accounted_of_run` says that it explains every change of a key by the HTTP
routes, and names only calls whose callers were permitted to make them.  The gRPC `RevokeKey` is no
such route: it revokes without a row.
-/

namespace OpenRouter
namespace Backend
namespace Audit

open Base Routes

/-! ## The decorator, apart from its handler -/

/-- What `@require_permission` asks for. -/
def permission : RouteCall → String
  | .createKey _ | .revokeKey _ => "keys:write"
  | .listKeys => "keys:read"
  | .suspendUser _ => "admin:write"
  | .getBalance | .getUsage _ _ => "billing:read"

/-- The handler of a call, without its decorators. -/
def body (p : Platform) (d : Draws) (auth : AuthContext) : RouteCall → Handler
  | .createKey body => createKey p d auth body
  | .listKeys => listKeys auth
  | .revokeKey keyId => revokeKey d keyId "user_requested"
  | .suspendUser userId => suspendUser d auth userId
  | .getBalance => getBalance auth
  | .getUsage start stop => getUsage p d auth start stop

/-- `action`, `target_type` and `target_id` of a call that is audited.  The creation of a key has
no `target_id_arg`, so its target is a uuid of nothing. -/
def auditTarget (d : Draws) : RouteCall → Option (String × String × UUID)
  | .createKey _ => some ("api_key.create", "api_key", d.auditTarget)
  | .revokeKey keyId => some ("api_key.revoke", "api_key", keyId)
  | .suspendUser userId => some ("user.suspend", "user", userId)
  | .listKeys | .getBalance | .getUsage _ _ => none

/-- The row of `_write_audit`. -/
def auditRow (d : Draws) (auth : AuthContext) (call : RouteCall) : Option AuditLog :=
  (auditTarget d call).map fun target =>
    { id := d.auditId
      orgId := auth.user.orgId
      actorUserId := auth.user.id
      action := target.1
      targetType := target.2.1
      targetId := target.2.2 }

/-- A decorated route is its handler behind the permission, and its row behind that. -/
theorem handler_eq (p : Platform) (d : Draws) (auth : AuthContext) (call : RouteCall) (db : Db) :
    handler p d auth call db =
      match requirePermission (permission call) auth (body p d auth call) db with
      | .error e => .error e
      | .ok (r, db') => .ok (r, (auditRow d auth call).elim db' db'.addAudit) := by
  cases call <;> simp only [handler, auditLog, permission, body, auditRow, auditTarget] <;>
    cases requirePermission _ auth _ db <;> rfl

/-! ## The server -/

/-- The database, and the rows whose calls are over: those still to be written, and those whose
write has failed. -/
structure Server where
  db : Db
  pending : List AuditLog := []
  lost : List AuditLog := []

structure Call where
  draws : Draws
  auth : AuthContext
  call : RouteCall

inductive Label
  /-- A call, up to the end of its handler's transaction. -/
  | call (c : Call)
  /-- The transaction of a row commits. -/
  | writeAudit (i : ℕ)
  /-- `audit_log_write_failed`. -/
  | failAudit (i : ℕ)

variable (p : Platform)

/-- The handler lets a call through, and leaves this database. -/
def outcome (c : Call) (db : Db) : Option Db :=
  if c.call.valid then
    match requirePermission (permission c.call) c.auth (body p c.draws c.auth c.call) db with
    | .ok (_, db') => some db'
    | .error _ => none
  else none

def step (s : Server) : Label → Option Server
  | .call c =>
      match outcome p c s.db with
      | none => some s
      | some db' =>
          some
            { s with
              db := db'
              pending := s.pending ++ (auditRow c.draws c.auth c.call).toList }
  | .writeAudit i => do
      let a ← s.pending[i]?
      if (s.db.auditLogs.map AuditLog.id).contains a.id then none
      else some { s with db := s.db.addAudit a, pending := s.pending.eraseIdx i }
  | .failAudit i => do
      let a ← s.pending[i]?
      some { s with pending := s.pending.eraseIdx i, lost := a :: s.lost }

/-- A call that nothing interrupts is the route of the call. -/
theorem respond_eq (c : Call) (db : Db) :
    (respond p c.draws c.auth c.call db).2 =
      ((outcome p c db).map fun db' =>
        (auditRow c.draws c.auth c.call).elim db' db'.addAudit).getD db := by
  unfold respond outcome
  split
  · rw [handler_eq]
    cases requirePermission (permission c.call) c.auth (body p c.draws c.auth c.call) db with
    | error e => cases e <;> rfl
    | ok out => rfl
  · rfl

/-! ## Explanations -/

/-- The row says that its actor has made the key. -/
structure Created (a : AuditLog) (k : APIKey) : Prop where
  action : a.action = "api_key.create"
  actor : a.actorUserId = k.userId
  org : a.orgId = k.orgId

/-- The row says that the key has been revoked, by itself or with its user. -/
inductive Revoked (a : AuditLog) (k : APIKey) : Prop
  | key (haction : a.action = "api_key.revoke") (htarget : a.targetId = k.id)
  | user (haction : a.action = "user.suspend") (htarget : a.targetId = k.userId)
      (horg : a.orgId = k.orgId)

/-- A key is as it was, or the rows of a trail say where it comes from, change by change. -/
inductive Explained (start : Db) (trail : AuditLog → Prop) : APIKey → Prop
  | stored {k : APIKey} (hk : k ∈ start.apiKeys) : Explained start trail k
  | created {k : APIKey} (a : AuditLog) (ha : trail a) (h : Created a k)
      (hrevoked : k.revokedAt = none) : Explained start trail k
  | revoked {k : APIKey} (hk : Explained start trail k) (a : AuditLog) (ha : trail a)
      (h : Revoked a k) (now : ℤ) (reason : String) :
      Explained start trail { k with revokedAt := some now, revocationReason := some reason }

theorem Explained.mono {start : Db} {trail trail' : AuditLog → Prop} {k : APIKey}
    (h : Explained start trail k) (hsub : ∀ a, trail a → trail' a) : Explained start trail' k := by
  induction h with
  | stored hk => exact .stored hk
  | created a ha h hrevoked => exact .created a (hsub a ha) h hrevoked
  | revoked hk a ha h now reason ih => exact .revoked ih a (hsub a ha) h now reason

/-! ## What a handler does to the keys -/

/-- What a call makes of a key, and its row says of that. -/
inductive Origin (row : Option AuditLog) (db : Db) : APIKey → Prop
  | same {k : APIKey} (hk : k ∈ db.apiKeys) : Origin row db k
  | created {a : AuditLog} {k : APIKey} (hrow : row = some a) (h : Created a k)
      (hrevoked : k.revokedAt = none) : Origin row db k
  | revoked {a : AuditLog} {k : APIKey} (hrow : row = some a) (hk : k ∈ db.apiKeys)
      (h : Revoked a k) (now : ℤ) (reason : String) :
      Origin row db { k with revokedAt := some now, revocationReason := some reason }

structure KeysAfter (row : Option AuditLog) (db db' : Db) : Prop where
  auditLogs : db'.auditLogs = db.auditLogs
  origin : ∀ k ∈ db'.apiKeys, Origin row db k
  /-- No key is deleted, and none is given back. -/
  survives : ∀ k ∈ db.apiKeys, ∃ k' ∈ db'.apiKeys, k'.id = k.id ∧
    (k.revokedAt.isSome → k'.revokedAt.isSome)

theorem keysAfter_refl (row : Option AuditLog) (db : Db) : KeysAfter row db db where
  auditLogs := rfl
  origin := fun _ hk => .same hk
  survives := fun k hk => ⟨k, hk, rfl, id⟩

theorem keysAfter_addKey {a : AuditLog} {k : APIKey} {db db' : Db} (h : Created a k)
    (hrevoked : k.revokedAt = none) (hadd : db.addKey k = some db') :
    KeysAfter (some a) db db' := by
  unfold Db.addKey at hadd
  split at hadd
  · cases hadd
    refine { auditLogs := rfl, origin := ?_, survives := ?_ }
    · intro k' hk'
      rcases List.mem_cons.1 hk' with rfl | hk'
      · exact .created rfl h hrevoked
      · exact .same hk'
    · intro k' hk'
      exact ⟨k', List.mem_cons_of_mem k hk', rfl, id⟩
  · cases hadd

/-- Every key is an old one, perhaps revoked under the row. -/
structure OnlyRevokes (a : AuditLog) (db db' : Db) : Prop where
  auditLogs : db'.auditLogs = db.auditLogs
  origin : ∀ k' ∈ db'.apiKeys, ∃ k ∈ db.apiKeys, k' = k ∨ Revoked a k ∧ ∃ now reason,
    k' = { k with revokedAt := some now, revocationReason := some reason }
  survives : ∀ k ∈ db.apiKeys, ∃ k' ∈ db'.apiKeys, k'.id = k.id ∧
    (k.revokedAt.isSome → k'.revokedAt.isSome)

namespace OnlyRevokes

variable {a : AuditLog} {db db' : Db}

theorem refl (a : AuditLog) (db : Db) : OnlyRevokes a db db where
  auditLogs := rfl
  origin := fun k hk => ⟨k, hk, .inl rfl⟩
  survives := fun k hk => ⟨k, hk, rfl, id⟩

theorem keysAfter (h : OnlyRevokes a db db') : KeysAfter (some a) db db' where
  auditLogs := h.auditLogs
  survives := h.survives
  origin := by
    intro k' hk'
    rcases h.origin k' hk' with ⟨k, hk, rfl | ⟨hrevoked, now, reason, rfl⟩⟩
    · exact .same hk
    · exact .revoked rfl hk hrevoked now reason

/-- Revoking one more key, when the row says so of the keys with its id. -/
theorem revoke (h : OnlyRevokes a db db') {id : UUID}
    (hrow : ∀ k ∈ db.apiKeys, k.id = id → Revoked a k) (now : ℤ) (reason : String) :
    OnlyRevokes a db (db'.revoke id now reason) where
  auditLogs := h.auditLogs
  origin := by
    intro k' hk'
    rcases List.mem_map.1 hk' with ⟨k, hk, rfl⟩
    rcases h.origin k hk with ⟨k₀, hk₀, hsame⟩
    have hid : k.id = k₀.id := by
      rcases hsame with rfl | ⟨-, t, why, rfl⟩
      · rfl
      · rfl
    refine ⟨k₀, hk₀, ?_⟩
    unfold Db.revokeRow
    split
    · rename_i hrevoked
      refine .inr ⟨hrow k₀ hk₀ (hid.symm.trans hrevoked), now, reason, ?_⟩
      rcases hsame with rfl | ⟨-, t, why, rfl⟩
      · rfl
      · rfl
    · exact hsame
  survives := by
    intro k hk
    rcases h.survives k hk with ⟨k', hk', hid, hrevoked⟩
    refine ⟨Db.revokeRow id now reason k', List.mem_map_of_mem hk', ?_, ?_⟩
    · rw [Db.id_revokeRow, hid]
    · intro hsome
      unfold Db.revokeRow
      split
      · rfl
      · exact hrevoked hsome

/-- The loop of `suspend_user`. -/
theorem foldl {userId : UUID} (now : ℤ) {ks : List APIKey}
    (hrow : ∀ k ∈ ks, k.userId = userId → ∀ k' ∈ db.apiKeys, k'.id = k.id → Revoked a k')
    (h : OnlyRevokes a db db') :
    OnlyRevokes a db (ks.foldl (fun db k =>
      if k.userId = userId ∧ k.revokedAt = none then db.revoke k.id now "user_suspended"
      else db) db') := by
  induction ks generalizing db' with
  | nil => exact h
  | cons k ks ih =>
      rw [List.foldl_cons]
      refine ih (fun k' hk' => hrow k' (List.mem_cons_of_mem k hk')) ?_
      split
      · rename_i huser
        exact h.revoke (hrow k List.mem_cons_self huser.1) now "user_suspended"
      · exact h

end OnlyRevokes

variable {p : Platform} {c : Call} {db db' : Db}

theorem keysAfter_createKey {b : CreateKeyBody} {r : Response}
    (h : createKey p c.draws c.auth b db = .ok (r, db')) :
    KeysAfter (auditRow c.draws c.auth (.createKey b)) db db' := by
  simp only [createKey] at h
  split at h
  · rename_i db₁ hadd
    cases h
    exact keysAfter_addKey ⟨rfl, rfl, rfl⟩ rfl hadd
  · cases h

theorem keysAfter_revokeKey {keyId : UUID} {r : Response}
    (h : revokeKey c.draws keyId "user_requested" db = .ok (r, db')) :
    KeysAfter (auditRow c.draws c.auth (.revokeKey keyId)) db db' := by
  unfold revokeKey at h
  split at h
  · cases h
  · cases h
    exact ((OnlyRevokes.refl _ db).revoke (fun k _ hid => .key rfl hid.symm) _ _).keysAfter

theorem keysAfter_suspendUser {userId : UUID} {r : Response}
    (h : suspendUser c.draws c.auth userId db = .ok (r, db')) :
    KeysAfter (auditRow c.draws c.auth (.suspendUser userId)) db db' := by
  unfold suspendUser at h
  split at h
  · cases h
  · rename_i user _
    split_ifs at h with horg
    · cases h
      have horg' : user.orgId = c.auth.user.orgId := by
        by_contra hne
        exact horg hne
      refine ((OnlyRevokes.refl _ db).foldl c.draws.now ?_).keysAfter
      -- The keys of the loop are rows, and no other row has their ids.
      intro k hk huser k' hk' hid
      rcases List.mem_filter.1 hk with ⟨hmem, horgKey⟩
      have heq : k' = k := List.inj_on_of_nodup_map db.keyIds_nodup hk' hmem hid
      subst heq
      refine .user rfl huser.symm ?_
      rw [of_decide_eq_true horgKey, horg']

theorem keysAfter_body {call : RouteCall} {r : Response}
    (h : body p c.draws c.auth call db = .ok (r, db')) :
    KeysAfter (auditRow c.draws c.auth call) db db' := by
  cases call with
  | createKey b => exact keysAfter_createKey h
  | revokeKey keyId => exact keysAfter_revokeKey h
  | suspendUser userId => exact keysAfter_suspendUser h
  | listKeys =>
      cases h
      exact keysAfter_refl _ db
  | getBalance =>
      have hsame : db' = db := by
        simp only [body, getBalance] at h
        split at h
        · cases h
          rfl
        · split_ifs at h
          cases h
          rfl
      rw [hsame]
      exact keysAfter_refl _ db
  | getUsage start stop =>
      have hsame : db' = db := by
        simp only [body, getUsage] at h
        split at h
        · cases h
        · cases h
          rfl
      rw [hsame]
      exact keysAfter_refl _ db

/-- A call that gets through was permitted, and its row explains what it does to the keys. -/
theorem outcome_cases (h : outcome p c db = some db') :
    permission c.call ∈ rolePermissions c.auth.user.role ∧
      KeysAfter (auditRow c.draws c.auth c.call) db db' := by
  unfold outcome at h
  split_ifs at h
  split at h
  · rename_i r db₁ hrequire
    cases h
    unfold requirePermission at hrequire
    split_ifs at hrequire with hpermission
    exact ⟨hpermission, keysAfter_body hrequire⟩
  · cases h

/-! ## The trail -/

/-- The rows that a run has brought about: to be written, lost, or written over those that were
there. -/
def Trail (start : Db) (s : Server) (a : AuditLog) : Prop :=
  a ∈ s.pending ∨ a ∈ s.lost ∨ a ∈ s.db.auditLogs ∧ a ∉ start.auditLogs

/-- What a step does to the table of the keys, and to the trail. -/
inductive Effect (p : Platform) (start : Db) (s s' : Server) : Label → Prop
  | call (c : Call) (hpermission : permission c.call ∈ rolePermissions c.auth.user.role)
      (hkeys : KeysAfter (auditRow c.draws c.auth c.call) s.db s'.db)
      (htrail : ∀ a, Trail start s' a ↔
        Trail start s a ∨ auditRow c.draws c.auth c.call = some a) : Effect p start s s' (.call c)
  | same (l : Label) (hnone : ∀ c, l = .call c → outcome p c s.db = none)
      (hkeys : s'.db.apiKeys = s.db.apiKeys)
      (htrail : ∀ a, Trail start s' a ↔ Trail start s a) : Effect p start s s' l

theorem mem_iff_of_eraseIdx {α : Type} {l : List α} {i : ℕ} {a : α} (hi : l[i]? = some a) (b : α) :
    b ∈ l ↔ b = a ∨ b ∈ l.eraseIdx i := by
  rcases List.getElem?_eq_some_iff.1 hi with ⟨hlt, rfl⟩
  rw [← (List.getElem_cons_eraseIdx_perm hlt).mem_iff, List.mem_cons]

section Step

variable {start : Db} {s s' : Server}

/-- What is written stays written. -/
theorem auditLogs_of_step {l : Label} (h : step p s l = some s') :
    s.db.auditLogs ⊆ s'.db.auditLogs := by
  cases l with
  | call c =>
      simp only [step] at h
      cases houtcome : outcome p c s.db with
      | none =>
          rw [houtcome] at h
          cases h
          exact List.Subset.refl _
      | some db' =>
          rw [houtcome] at h
          cases h
          exact (outcome_cases houtcome).2.auditLogs ▸ List.Subset.refl _
  | writeAudit i =>
      rcases Option.bind_eq_some_iff.1 h with ⟨a, -, ha⟩
      split_ifs at ha with hcontains
      cases ha
      have hid : a.id ∉ s.db.auditLogs.map AuditLog.id := fun hmem =>
        hcontains (List.contains_iff_mem.2 hmem)
      simp only [Db.addAudit, dif_neg hid]
      exact List.subset_cons_self a _
  | failAudit i =>
      rcases Option.bind_eq_some_iff.1 h with ⟨a, -, ha⟩
      cases ha
      exact List.Subset.refl _

theorem effect_of_step {l : Label} (hkept : start.auditLogs ⊆ s.db.auditLogs)
    (h : step p s l = some s') : Effect p start s s' l := by
  cases l with
  | call c =>
      simp only [step] at h
      cases houtcome : outcome p c s.db with
      | none =>
          rw [houtcome] at h
          cases h
          exact .same _ (fun c' hc => by cases hc; exact houtcome) rfl fun _ => Iff.rfl
      | some db' =>
          rw [houtcome] at h
          cases h
          rcases outcome_cases houtcome with ⟨hpermission, hkeys⟩
          refine .call c hpermission hkeys fun a => ?_
          simp only [Trail, hkeys.auditLogs, List.mem_append, Option.mem_toList]
          tauto
  | writeAudit i =>
      rcases Option.bind_eq_some_iff.1 h with ⟨a, hi, ha⟩
      split_ifs at ha with hcontains
      cases ha
      have hid : a.id ∉ s.db.auditLogs.map AuditLog.id := fun hmem =>
        hcontains (List.contains_iff_mem.2 hmem)
      -- The row is new, so it is in the trail from the table as it was from the queue.
      have hnew : a ∉ start.auditLogs := fun hmem =>
        hid (List.mem_map_of_mem (hkept hmem))
      refine .same _ (by simp) (by simp only [Db.addAudit, dif_neg hid]) fun b => ?_
      simp only [Trail, Db.addAudit, dif_neg hid, List.mem_cons, mem_iff_of_eraseIdx hi b]
      by_cases hb : b = a
      · subst hb
        simp [hnew]
      · simp [hb]
  | failAudit i =>
      rcases Option.bind_eq_some_iff.1 h with ⟨a, hi, ha⟩
      cases ha
      refine .same _ (by simp) rfl fun b => ?_
      simp only [Trail, List.mem_cons, mem_iff_of_eraseIdx hi b]
      tauto

end Step

/-! ## Runs -/

structure Accounted (p : Platform) (start : Db) (ls : List Label) (s : Server) : Prop where
  /-- Rows are only added. -/
  kept : start.auditLogs ⊆ s.db.auditLogs
  keys : ∀ k ∈ s.db.apiKeys, Explained start (Trail start s) k
  /-- No key is deleted, and none is given back. -/
  survives : ∀ k ∈ start.apiKeys, ∃ k' ∈ s.db.apiKeys, k'.id = k.id ∧
    (k.revokedAt.isSome → k'.revokedAt.isSome)
  /-- A row is that of a call, and its actor was permitted to make it. -/
  permitted : ∀ a, Trail start s a → ∃ c, .call c ∈ ls ∧
    auditRow c.draws c.auth c.call = some a ∧
    permission c.call ∈ rolePermissions c.auth.user.role
  /-- A call that got through has its row. -/
  complete : ∀ before c after s₀ a, ls = before ++ .call c :: after →
    exec (step p) { db := start } before = some s₀ → (outcome p c s₀.db).isSome →
    auditRow c.draws c.auth c.call = some a → Trail start s a

theorem accounted_start (start : Db) : Accounted p start [] { db := start } where
  kept := List.Subset.refl _
  keys := fun _ hk => .stored hk
  survives := fun k hk => ⟨k, hk, rfl, id⟩
  permitted := by
    rintro a (h | h | ⟨h, hnot⟩)
    · cases h
    · cases h
    · exact (hnot h).elim
  complete := by simp

namespace Effect

variable {start : Db} {s s' : Server} {l : Label}

/-- No row leaves the trail. -/
theorem mono (h : Effect p start s s' l) {a : AuditLog} (ha : Trail start s a) :
    Trail start s' a := by
  cases h with
  | call c _ _ htrail => exact (htrail a).2 (.inl ha)
  | same l _ _ htrail => exact (htrail a).2 ha

/-- What a call does to a key is explained by its row. -/
theorem explained (h : Effect p start s s' l)
    (hkeys : ∀ k ∈ s.db.apiKeys, Explained start (Trail start s) k) :
    ∀ k ∈ s'.db.apiKeys, Explained start (Trail start s') k := by
  intro k hk
  have hmono : ∀ a, Trail start s a → Trail start s' a := fun _ => h.mono
  cases h with
  | same l _ hsame _ => exact (hkeys k (hsame ▸ hk)).mono hmono
  | call c _ hafter htrail =>
      have hrow : ∀ a, auditRow c.draws c.auth c.call = some a → Trail start s' a :=
        fun a ha => (htrail a).2 (.inr ha)
      cases hafter.origin k hk with
      | same hk₀ => exact (hkeys k hk₀).mono hmono
      | created ha hcreated hnone => exact .created _ (hrow _ ha) hcreated hnone
      | revoked ha hk₀ hrevoked now reason =>
          exact .revoked ((hkeys _ hk₀).mono hmono) _ (hrow _ ha) hrevoked now reason

theorem survives (h : Effect p start s s' l) {k : APIKey} (hk : k ∈ s.db.apiKeys) :
    ∃ k' ∈ s'.db.apiKeys, k'.id = k.id ∧ (k.revokedAt.isSome → k'.revokedAt.isSome) := by
  cases h with
  | same l _ hsame _ => exact ⟨k, hsame ▸ hk, rfl, id⟩
  | call c _ hafter _ => exact hafter.survives k hk

/-- A row of the trail was there before, or is that of a call that is permitted. -/
theorem permitted (h : Effect p start s s' l) {a : AuditLog} (ha : Trail start s' a) :
    Trail start s a ∨ ∃ c, l = .call c ∧ auditRow c.draws c.auth c.call = some a ∧
      permission c.call ∈ rolePermissions c.auth.user.role := by
  cases h with
  | same l _ _ htrail => exact .inl ((htrail a).1 ha)
  | call c hpermission _ htrail =>
      exact ((htrail a).1 ha).imp_right fun ha => ⟨c, rfl, ha, hpermission⟩

/-- A call that gets through has its row. -/
theorem complete {c : Call} (h : Effect p start s s' (.call c))
    (houtcome : (outcome p c s.db).isSome) {a : AuditLog}
    (ha : auditRow c.draws c.auth c.call = some a) : Trail start s' a := by
  cases h with
  | call c _ _ htrail => exact (htrail a).2 (.inr ha)
  | same l hnone _ _ =>
      rw [hnone c rfl] at houtcome
      cases houtcome

end Effect

/-- The step lemma. -/
theorem Accounted.step {start : Db} {past : List Label} {s s' : Server} {l : Label}
    (hs : exec (step p) { db := start } past = some s) (h : Accounted p start past s)
    (hstep : step p s l = some s') : Accounted p start (past ++ [l]) s' := by
  have heffect := effect_of_step h.kept hstep
  refine
    { kept := fun a ha => auditLogs_of_step hstep (h.kept ha)
      keys := heffect.explained h.keys
      survives := ?_
      permitted := ?_
      complete := ?_ }
  · intro k hk
    rcases h.survives k hk with ⟨k₁, hk₁, hid, hrevoked⟩
    rcases heffect.survives hk₁ with ⟨k₂, hk₂, hid', hrevoked'⟩
    exact ⟨k₂, hk₂, hid'.trans hid, fun hsome => hrevoked' (hrevoked hsome)⟩
  · intro a ha
    rcases heffect.permitted ha with ha | ⟨c, rfl, hrow, hpermission⟩
    · rcases h.permitted a ha with ⟨c, hc, hrest⟩
      exact ⟨c, List.mem_append_left _ hc, hrest⟩
    · exact ⟨c, List.mem_append_right _ (List.mem_singleton.2 rfl), hrow, hpermission⟩
  · intro before c after s₀ a hls hbefore houtcome ha
    rcases List.eq_nil_or_concat after with rfl | ⟨after, l', rfl⟩
    -- The last label is the call itself.
    · rcases List.append_inj' hls rfl with ⟨rfl, hl⟩
      cases hl
      rw [hs] at hbefore
      cases hbefore
      exact heffect.complete houtcome ha
    · rw [List.concat_eq_append, ← List.cons_append, ← List.append_assoc] at hls
      rcases List.append_inj' hls rfl with ⟨rfl, -⟩
      exact heffect.mono (h.complete before c after s₀ a rfl hbefore houtcome ha)

/-- Whatever calls are made, and however their rows are written in between, every change of a key
is explained by the trail, and every row of the trail is that of a call that was permitted. -/
theorem accounted_of_run (p : Platform) (start : Db) (ls : List Label) {s : Server}
    (h : exec (step p) { db := start } ls = some s) : Accounted p start ls s :=
  (exec_history (P := fun past s =>
      exec (step p) { db := start } past = some s ∧ Accounted p start past s)
    ⟨rfl, accounted_start start⟩
    (fun _ s _ s' hpast hstep =>
      ⟨exec_append.2 ⟨s, hpast.1, exec_cons.2 ⟨s', hstep, rfl⟩⟩, hpast.2.step hpast.1 hstep⟩)
    h).2

/-! ### A key that is made and revoked -/

def oneAdminDb : Db where
  organizations := fun id => id == 1
  users := fun id => if id = 7 then some { id := 7, orgId := 1, role := .admin } else none
  apiKeys := []
  creditBalances := fun _ => none
  usageRecords := []
  auditLogs := []
  keyIds_nodup := List.nodup_nil
  keyLookups_nodup := List.nodup_nil
  auditIds_nodup := List.nodup_nil

def digestless : Platform where
  sha256Lookup := fun plaintext => plaintext
  inPeriod := fun _ _ => none

/-- A call of the admin, whose row has this id. -/
def byAdmin (auditId : UUID) (call : RouteCall) : Call where
  draws :=
    { now := 10, keyId := 3, plaintext := "sk-or-v1-3", keyHash := "h", auditId := auditId
      auditTarget := 99 }
  auth := { user := { id := 7, orgId := 1, role := .admin } }
  call := call

/-- The row of the creation is lost, and the other one is written. -/
theorem accounted_of_run_lost :
    ∃ s, exec (step digestless) { db := oneAdminDb }
        [.call (byAdmin 1 (.createKey { name := "ci" })), .call (byAdmin 2 (.suspendUser 7)),
          .writeAudit 1, .failAudit 0] = some s ∧
      s.db.apiKeys.map APIKey.revocationReason = [some "user_suspended"] ∧
      s.db.auditLogs.map AuditLog.action = ["user.suspend"] ∧
      Accounted digestless oneAdminDb
        [.call (byAdmin 1 (.createKey { name := "ci" })), .call (byAdmin 2 (.suspendUser 7)),
          .writeAudit 1, .failAudit 0] s := by
  have hrun : exec (step digestless) { db := oneAdminDb }
      [.call (byAdmin 1 (.createKey { name := "ci" })), .call (byAdmin 2 (.suspendUser 7)),
        .writeAudit 1, .failAudit 0] = some _ := rfl
  exact ⟨_, hrun, rfl, rfl, accounted_of_run digestless oneAdminDb _ hrun⟩

end Audit
end Backend
end OpenRouter
