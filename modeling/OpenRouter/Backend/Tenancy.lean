import Mathlib.Data.Fintype.EquivFin
import OpenRouter.Backend.Routes

/-!
# Tenancy — what a call may do to, and learn about, other organisations

`SameRows org` says that two databases agree on everything that belongs to one organisation.  A
call is `Isolated` when it leaves the rows of every other organisation alone, and its response
does not change with what another organisation's rows contain.

Every route but two names its organisation itself.  `revoke_key` and `suspend_user` take an id,
and `isolated_iff_ownTarget` says that all depends on whose id it is.
-/

namespace OpenRouter
namespace Backend
namespace Tenancy

open Routes

/-! ## The rows of one organisation -/

/-- The databases have the same rows of the organisation. -/
structure SameRows (org : UUID) (db db' : Db) : Prop where
  organization : db.organizations org = db'.organizations org
  users : ∀ id, (db.users id).filter (fun u => u.orgId = org) =
    (db'.users id).filter fun u => u.orgId = org
  apiKeys : db.listForOrg org = db'.listForOrg org
  creditBalance : db.creditBalances org = db'.creditBalances org
  usageRecords : (db.usageRecords.filter fun r => r.1.orgId = org) =
    db'.usageRecords.filter fun r => r.1.orgId = org
  auditLogs : (db.auditLogs.filter fun a => a.orgId = org) =
    db'.auditLogs.filter fun a => a.orgId = org

namespace SameRows

variable {org : UUID} {db db' db'' : Db}

theorem refl (org : UUID) (db : Db) : SameRows org db db where
  organization := rfl
  users := fun _ => rfl
  apiKeys := rfl
  creditBalance := rfl
  usageRecords := rfl
  auditLogs := rfl

theorem trans (h : SameRows org db db') (h' : SameRows org db' db'') : SameRows org db db'' where
  organization := h.organization.trans h'.organization
  users := fun id => (h.users id).trans (h'.users id)
  apiKeys := h.apiKeys.trans h'.apiKeys
  creditBalance := h.creditBalance.trans h'.creditBalance
  usageRecords := h.usageRecords.trans h'.usageRecords
  auditLogs := h.auditLogs.trans h'.auditLogs

/-- A user of the organisation is in both or in neither. -/
theorem user_eq (h : SameRows org db db') {id : UUID} {u : User} (hu : db.users id = some u)
    (horg : u.orgId = org) : db'.users id = some u := by
  have hfilter := h.users id
  rw [hu, Option.filter_some_pos (by simpa using horg)] at hfilter
  rcases Option.filter_eq_some_iff.1 hfilter.symm with ⟨hu', -⟩
  exact hu'

/-- A key of the organisation is in both or in neither. -/
theorem mem_apiKeys (h : SameRows org db db') {k : APIKey} (hk : k ∈ db.apiKeys)
    (horg : k.orgId = org) : k ∈ db'.apiKeys := by
  have hmem : k ∈ db.listForOrg org := List.mem_filter.2 ⟨hk, by simpa using horg⟩
  rw [h.apiKeys] at hmem
  exact (List.mem_filter.1 hmem).1

end SameRows

/-! ## What the statements leave alone -/

theorem sameRows_addAudit {org : UUID} (db : Db) {a : AuditLog} (h : a.orgId ≠ org) :
    SameRows org db (db.addAudit a) := by
  unfold Db.addAudit
  split
  · exact .refl org db
  · exact { SameRows.refl org db with auditLogs := by simp [h] }

theorem sameRows_addKey {org : UUID} {db db' : Db} {k : APIKey} (h : k.orgId ≠ org)
    (hadd : db.addKey k = some db') : SameRows org db db' := by
  unfold Db.addKey at hadd
  split at hadd
  · cases hadd
    exact { SameRows.refl org db with apiKeys := by simp [Db.listForOrg, h] }
  · cases hadd

/-- Revoking a key touches the organisation of that key only. -/
theorem sameRows_revoke {org : UUID} {db : Db} {id : UUID} (now : ℤ) (reason : String)
    (h : ∀ k ∈ db.apiKeys, k.id = id → k.orgId ≠ org) :
    SameRows org db (db.revoke id now reason) := by
  have hkeys : db.listForOrg org = (db.revoke id now reason).listForOrg org := by
    unfold Db.listForOrg Db.revoke
    rw [List.filter_map]
    have hfilter : (db.apiKeys.filter ((fun k => decide (k.orgId = org)) ∘
        Db.revokeRow id now reason)) = db.apiKeys.filter fun k => k.orgId = org := by
      refine List.filter_congr ?_
      intro k _
      simp
    have hrow : ∀ k ∈ db.apiKeys.filter (fun k => k.orgId = org),
        Db.revokeRow id now reason k = k := by
      intro k hk
      rcases List.mem_filter.1 hk with ⟨hmem, horg⟩
      have hne : k.id ≠ id := fun hid => h k hmem hid (by simpa using horg)
      simp [Db.revokeRow, hne]
    rw [hfilter, List.map_congr_left hrow, List.map_id']
  exact { SameRows.refl org db with apiKeys := hkeys }

/-- The loop of `suspend_user` over keys of one organisation leaves the others alone. -/
theorem sameRows_foldl_revoke {org owner : UUID} (hne : owner ≠ org) (userId : UUID) (now : ℤ)
    {ks : List APIKey} {db : Db}
    (h : ∀ k ∈ ks, ∀ k' ∈ db.apiKeys, k'.id = k.id → k'.orgId = owner) :
    SameRows org db (ks.foldl (fun db k =>
      if k.userId = userId ∧ k.revokedAt = none then db.revoke k.id now "user_suspended"
      else db) db) := by
  induction ks generalizing db with
  | nil => exact .refl org db
  | cons k ks ih =>
      rw [List.foldl_cons]
      split
      · refine (sameRows_revoke now _ ?_).trans (ih ?_)
        · intro k' hk' hid
          rw [h k (by simp) k' hk' hid]
          exact hne
        · intro k₁ hk₁ k' hk' hid
          rcases List.mem_map.1 hk' with ⟨k₀, hk₀, rfl⟩
          rw [Db.orgId_revokeRow]
          exact h k₁ (List.mem_cons_of_mem _ hk₁) k₀ hk₀ (by simpa using hid)
      · exact ih fun k₁ hk₁ => h k₁ (List.mem_cons_of_mem _ hk₁)

/-! ## Isolation -/

/-- The draws of a new key are new. -/
def FreshDraws (p : Platform) (d : Draws) (db : Db) : RouteCall → Prop
  | .createKey _ => d.keyId ∉ db.apiKeys.map APIKey.id ∧
      p.sha256Lookup d.plaintext ∉ db.apiKeys.map APIKey.keyLookup
  | _ => True

/-- The call leaves every other organisation alone, and does not depend on any. -/
structure Isolated (p : Platform) (d : Draws) (auth : AuthContext) (call : RouteCall) (db : Db) :
    Prop where
  frame : ∀ other, other ≠ auth.user.orgId → SameRows other db (respond p d auth call db).2
  blind : ∀ other, other ≠ auth.user.orgId → ∀ db',
    (∀ org, org ≠ other → SameRows org db db') → FreshDraws p d db' call →
    (respond p d auth call db).1 = (respond p d auth call db').1

/-- An id that the call may act on is the id of a key or a user of the caller's organisation. -/
def OwnTarget (auth : AuthContext) (db : Db) : RouteCall → Prop
  | .revokeKey keyId => "keys:write" ∈ rolePermissions auth.user.role →
      ∃ k ∈ db.apiKeys, k.id = keyId ∧ k.orgId = auth.user.orgId
  | .suspendUser userId => "admin:write" ∈ rolePermissions auth.user.role →
      ∃ u, db.users userId = some u ∧ u.orgId = auth.user.orgId
  | _ => True

/-! ## Handlers, one by one -/

/-- Two handlers agree: the same exception, or the same response. -/
def SameOutcome (x y : Except Failure (Response × Db)) : Prop :=
  x.map Prod.fst = y.map Prod.fst

/-- `h` is safe for the caller's organisation: it touches no other, and on two databases that share
the caller's rows it has the same outcome. -/
structure Confined (auth : AuthContext) (h : Handler) (db : Db) (ok : Db → Prop) : Prop where
  frame : ∀ {r db'}, h db = .ok (r, db') → ∀ other, other ≠ auth.user.orgId → SameRows other db db'
  blind : ∀ db', SameRows auth.user.orgId db db' → ok db' → SameOutcome (h db) (h db')

namespace Confined

variable {auth : AuthContext} {h : Handler} {db : Db} {ok : Db → Prop}

theorem requirePermission {permission : String}
    (hc : permission ∈ rolePermissions auth.user.role → Confined auth h db ok) :
    Confined auth (requirePermission permission auth h) db ok := by
  unfold Routes.requirePermission
  by_cases hperm : permission ∈ rolePermissions auth.user.role
  · exact
      { frame := fun hok => (hc hperm).frame (by simpa [hperm] using hok)
        blind := fun db' hsame hdb' => by simpa [hperm] using (hc hperm).blind db' hsame hdb' }
  · exact
      { frame := fun hok => by simp [hperm] at hok
        blind := fun db' _ _ => by simp [hperm, SameOutcome] }

theorem auditLog {action targetType : String} {targetId : UUID} {d : Draws}
    (hc : Confined auth h db ok) :
    Confined auth (auditLog action targetType targetId auth d h) db ok := by
  constructor
  · intro r db' hok other hne
    unfold Routes.auditLog at hok
    split at hok
    · cases hok
    · rename_i r₀ db₀ hdb₀
      cases hok
      exact (hc.frame hdb₀ other hne).trans (sameRows_addAudit db₀ (Ne.symm hne))
  · intro db' hsame hdb'
    have hout := hc.blind db' hsame hdb'
    unfold Routes.auditLog
    cases hx : h db with
    | error e =>
        cases hy : h db' with
        | error e' => simpa [SameOutcome, hx, hy, Except.map] using hout
        | ok q => simp [SameOutcome, hx, hy, Except.map] at hout
    | ok q =>
        cases hy : h db' with
        | error e' => simp [SameOutcome, hx, hy, Except.map] at hout
        | ok q' => simpa [SameOutcome, hx, hy, Except.map] using hout

end Confined

section Handlers

variable {p : Platform} {d : Draws} {auth : AuthContext} {db : Db}

theorem confined_createKey {body : CreateKeyBody} (hauth : db.users auth.user.id = some auth.user)
    (hfresh : FreshDraws p d db (.createKey body)) :
    Confined auth (createKey p d auth body) db fun db' => FreshDraws p d db' (.createKey body) := by
  constructor
  · intro r db' hok other hne
    simp only [createKey] at hok
    split at hok
    · rename_i db₁ hadd
      cases hok
      exact sameRows_addKey (Ne.symm hne) hadd
    · cases hok
  · intro db' hsame hfresh'
    have hauth' : db'.users auth.user.id = some auth.user := hsame.user_eq hauth rfl
    by_cases horg : db.organizations auth.user.orgId = true
    · have horg' : db'.organizations auth.user.orgId = true := hsame.organization ▸ horg
      simp [SameOutcome, createKey, Db.addKey, hfresh.1, hfresh.2, hfresh'.1, hfresh'.2, hauth,
        hauth', horg, horg', Except.map]
    · have horg' : ¬ db'.organizations auth.user.orgId = true := hsame.organization ▸ horg
      simp [SameOutcome, createKey, Db.addKey, horg, horg', Except.map]

theorem confined_listKeys : Confined auth (listKeys auth) db fun _ => True where
  frame := by
    intro r db' hok other _
    cases hok
    exact .refl other db
  blind := by
    intro db' hsame _
    simp [SameOutcome, listKeys, hsame.apiKeys, Except.map]

theorem confined_getBalance : Confined auth (getBalance auth) db fun _ => True where
  frame := by
    intro r db' hok other _
    unfold getBalance at hok
    split at hok
    · cases hok
      exact .refl other db
    · split at hok
      · cases hok
        exact .refl other db
      · cases hok
  blind := by
    intro db' hsame _
    unfold getBalance SameOutcome
    rw [← hsame.creditBalance, ← hsame.organization]
    cases db.creditBalances auth.user.orgId with
    | some b => rfl
    | none => cases db.organizations auth.user.orgId <;> rfl

theorem confined_getUsage {start stop : Option ℤ} :
    Confined auth (getUsage p d auth start stop) db fun _ => True where
  frame := by
    intro r db' hok other _
    simp only [getUsage] at hok
    split at hok
    · cases hok
    · cases hok
      exact .refl other db
  blind := by
    intro db' hsame _
    -- Filtering by the period after the organisation is the same on both sides.
    have hrows : ∀ within : ℤ → Bool,
        (db.usageRecords.filter fun r => r.1.orgId = auth.user.orgId && within r.2) =
          db'.usageRecords.filter fun r => r.1.orgId = auth.user.orgId && within r.2 := by
      intro within
      have hfilter := congrArg (List.filter fun r : UsageRow × ℤ => within r.2) hsame.usageRecords
      simpa [List.filter_filter, Bool.and_comm] using hfilter
    simp only [getUsage, SameOutcome]
    cases p.inPeriod (start.getD (stop.getD d.now - thirtyDays)) (stop.getD d.now) with
    | none => rfl
    | some within => simp [hrows within, Except.map]

/-- Two keys with one id are one key. -/
theorem eq_of_mem_apiKeys {k k' : APIKey} (hk : k ∈ db.apiKeys) (hk' : k' ∈ db.apiKeys)
    (hid : k'.id = k.id) : k' = k :=
  List.inj_on_of_nodup_map db.keyIds_nodup hk' hk hid

theorem getKey_isSome {k : APIKey} (hk : k ∈ db.apiKeys) : (db.getKey k.id).isSome = true := by
  rw [Db.getKey, List.find?_isSome]
  exact ⟨k, hk, by simp⟩

theorem confined_revokeKey {keyId : UUID} {reason : String}
    (hown : ∃ k ∈ db.apiKeys, k.id = keyId ∧ k.orgId = auth.user.orgId) :
    Confined auth (revokeKey d keyId reason) db fun _ => True := by
  rcases hown with ⟨k, hk, rfl, horg⟩
  constructor
  · intro r db' hok other hne
    simp only [revokeKey] at hok
    split at hok
    · cases hok
    · cases hok
      -- The row that is revoked is the caller's, so no row of another organisation changes.
      refine sameRows_revoke _ _ ?_
      intro k' hk' hid
      rw [eq_of_mem_apiKeys hk hk' hid, horg]
      exact Ne.symm hne
  · intro db' hsame _
    rcases Option.isSome_iff_exists.1 (getKey_isSome hk) with ⟨k₁, hk₁⟩
    rcases Option.isSome_iff_exists.1 (getKey_isSome (hsame.mem_apiKeys hk horg)) with ⟨k₂, hk₂⟩
    simp [SameOutcome, revokeKey, hk₁, hk₂, Except.map]

theorem confined_suspendUser {userId : UUID}
    (hown : ∃ u, db.users userId = some u ∧ u.orgId = auth.user.orgId) :
    Confined auth (suspendUser d auth userId) db fun _ => True := by
  rcases hown with ⟨u, hu, horg⟩
  constructor
  · intro r db' hok other hne
    simp only [suspendUser, hu, horg, ne_eq, not_true_eq_false, if_false] at hok
    cases hok
    -- The loop goes over the keys of the user's organisation, which is the caller's.
    refine sameRows_foldl_revoke (Ne.symm hne) userId d.now ?_
    intro k hk k' hk' hid
    rcases List.mem_filter.1 hk with ⟨hmem, hkorg⟩
    rw [eq_of_mem_apiKeys hmem hk' hid]
    simpa using hkorg
  · intro db' hsame _
    have hu' : db'.users userId = some u := hsame.user_eq hu horg
    simp [SameOutcome, suspendUser, hu, hu', horg, Except.map]

/-- Every route is confined when its target is the caller's own. -/
theorem confined_handler {call : RouteCall} (hauth : db.users auth.user.id = some auth.user)
    (hfresh : FreshDraws p d db call) (hown : OwnTarget auth db call) :
    Confined auth (handler p d auth call) db fun db' => FreshDraws p d db' call := by
  cases call with
  | createKey body =>
      exact .auditLog (.requirePermission fun _ => confined_createKey hauth hfresh)
  | listKeys => exact .requirePermission fun _ => confined_listKeys
  | revokeKey keyId =>
      exact .auditLog (.requirePermission fun hperm => confined_revokeKey (hown hperm))
  | suspendUser userId =>
      exact .auditLog (.requirePermission fun hperm => confined_suspendUser (hown hperm))
  | getBalance => exact .requirePermission fun _ => confined_getBalance
  | getUsage start stop => exact .requirePermission fun _ => confined_getUsage

/-! ## Own targets are isolated -/

theorem isolated_of_ownTarget {call : RouteCall} (hauth : db.users auth.user.id = some auth.user)
    (hfresh : FreshDraws p d db call) (hown : OwnTarget auth db call) :
    Isolated p d auth call db := by
  have hc := confined_handler hauth hfresh hown
  constructor
  · intro other hne
    unfold respond
    split
    · cases hx : handler p d auth call db with
      | ok q => exact hc.frame hx other hne
      | error e => cases e <;> exact .refl other db
    · exact .refl other db
  · intro other hne db' hsame hfresh'
    have hout := hc.blind db' (hsame _ (Ne.symm hne)) hfresh'
    unfold respond
    split
    · cases hx : handler p d auth call db with
      | ok q =>
          cases hy : handler p d auth call db' with
          | ok q' => simpa [SameOutcome, hx, hy, Except.map] using hout
          | error e' => simp [SameOutcome, hx, hy, Except.map] at hout
      | error e =>
          cases hy : handler p d auth call db' with
          | ok q' => simp [SameOutcome, hx, hy, Except.map] at hout
          | error e' =>
              -- Both fail with one error, and an error leaves the rows.
              have heq : e = e' := by simpa [SameOutcome, hx, hy, Except.map] using hout
              subst heq
              cases e <;> rfl
    · rfl

end Handlers

/-! ## Foreign targets are not -/

section Foreign

variable {p : Platform} {d : Draws} {auth : AuthContext} {db : Db}

theorem respond_revokeKey {keyId : UUID} (hperm : "keys:write" ∈ rolePermissions auth.user.role) :
    (respond p d auth (.revokeKey keyId) db).1 =
      match db.getKey keyId with
      | some _ => .noContent
      | none => .domainError (.notFound "API key not found") := by
  cases hkey : db.getKey keyId <;>
    simp [respond, RouteCall.valid, handler, Routes.auditLog, Routes.requirePermission, hperm,
      revokeKey, hkey]

theorem respond_suspendUser {userId : UUID}
    (hperm : "admin:write" ∈ rolePermissions auth.user.role) :
    (respond p d auth (.suspendUser userId) db).1 =
      match db.users userId with
      | some u =>
          if u.orgId ≠ auth.user.orgId then
            .domainError (.notFound "User not in your organization")
          else .noContent
      | none => .domainError (.notFound "User not found") := by
  cases hu : db.users userId with
  | none =>
      simp [respond, RouteCall.valid, handler, Routes.auditLog, Routes.requirePermission, hperm,
        suspendUser, hu]
  | some u =>
      by_cases horg : u.orgId = auth.user.orgId <;>
        simp [respond, RouteCall.valid, handler, Routes.auditLog, Routes.requirePermission, hperm,
          suspendUser, hu, horg]

theorem exists_other_org (org : UUID) : ∃ other : UUID, other ≠ org :=
  ⟨org + 1, by simp⟩

/-- A lookup hash that no key of the table has. -/
theorem exists_fresh_lookup (db : Db) : ∃ s : String, s ∉ db.apiKeys.map APIKey.keyLookup := by
  have hinf : Infinite String :=
    Infinite.of_injective (fun n : ℕ => String.ofList (List.replicate n 'a')) (by
      intro m n h
      simpa using congrArg String.length h)
  rcases Infinite.exists_notMem_finset (db.apiKeys.map APIKey.keyLookup).toFinset with ⟨s, hs⟩
  exact ⟨s, by simpa using hs⟩

/-- The database with one more organisation and a key of it. -/
def withKey (db : Db) (k : APIKey) (hid : k.id ∉ db.apiKeys.map APIKey.id)
    (hlookup : k.keyLookup ∉ db.apiKeys.map APIKey.keyLookup) : Db :=
  { db with
    organizations := fun org => org = k.orgId || db.organizations org
    apiKeys := k :: db.apiKeys
    keyIds_nodup := List.nodup_cons.2 ⟨hid, db.keyIds_nodup⟩
    keyLookups_nodup := List.nodup_cons.2 ⟨hlookup, db.keyLookups_nodup⟩ }

/-- The database without one key. -/
def withoutKey (db : Db) (id : UUID) : Db :=
  { db with
    apiKeys := db.apiKeys.filter fun k => k.id ≠ id
    keyIds_nodup := db.keyIds_nodup.sublist (List.filter_sublist.map _)
    keyLookups_nodup := db.keyLookups_nodup.sublist (List.filter_sublist.map _) }

/-- The database with another answer for one user, of one organisation. -/
def withUser (db : Db) (id org : UUID) (u : Option User) : Db :=
  { db with
    organizations := fun o => o = org || db.organizations o
    users := fun other => if other = id then u else db.users other }

theorem sameRows_withKey {org : UUID} {k : APIKey} {hid : k.id ∉ db.apiKeys.map APIKey.id}
    {hlookup : k.keyLookup ∉ db.apiKeys.map APIKey.keyLookup} (hne : org ≠ k.orgId) :
    SameRows org db (withKey db k hid hlookup) :=
  { SameRows.refl org db with
    organization := by simp [withKey, hne]
    apiKeys := by simp [Db.listForOrg, withKey, Ne.symm hne] }

theorem sameRows_withoutKey {org : UUID} {k : APIKey} (hk : k ∈ db.apiKeys) (hne : org ≠ k.orgId) :
    SameRows org db (withoutKey db k.id) := by
  have hkeys : db.listForOrg org = (withoutKey db k.id).listForOrg org := by
    unfold Db.listForOrg withoutKey
    rw [List.filter_filter]
    refine List.filter_congr ?_
    intro k' hk'
    -- The key that is taken out was not of this organisation.
    by_cases hid : k'.id = k.id
    · have horg : k'.orgId ≠ org := by
        rw [eq_of_mem_apiKeys hk hk' hid]
        exact Ne.symm hne
      simp [hid, horg]
    · simp [hid]
  exact { SameRows.refl org db with apiKeys := hkeys }

theorem sameRows_withUser {org org' id : UUID} {u : Option User} (hne : org ≠ org')
    (hold : ∀ v, db.users id = some v → v.orgId ≠ org) (hnew : ∀ v, u = some v → v.orgId ≠ org) :
    SameRows org db (withUser db id org' u) := by
  refine { SameRows.refl org db with organization := by simp [withUser, hne], users := ?_ }
  intro other
  by_cases hother : other = id
  · subst hother
    have hleft : (db.users other).filter (fun v => v.orgId = org) = none := by
      rw [Option.filter_eq_none_iff]
      intro v hv
      simpa using hold v hv
    have hright : u.filter (fun v => v.orgId = org) = none := by
      rw [Option.filter_eq_none_iff]
      intro v hv
      simpa using hnew v hv
    simp [withUser, hleft, hright]
  · simp [withUser, hother]

theorem ownTarget_revokeKey {keyId : UUID} (h : Isolated p d auth (.revokeKey keyId) db) :
    OwnTarget auth db (.revokeKey keyId) := by
  intro hperm
  by_contra hforeign
  cases hkey : db.getKey keyId with
  | none =>
      -- Another organisation may have a key of that id.
      rcases exists_other_org auth.user.orgId with ⟨other, hother⟩
      rcases exists_fresh_lookup db with ⟨lookup, hlookup⟩
      have hid : keyId ∉ db.apiKeys.map APIKey.id := by
        intro hmem
        rcases List.mem_map.1 hmem with ⟨k, hk, rfl⟩
        simpa [hkey] using getKey_isSome hk
      let k : APIKey :=
        { id := keyId
          orgId := other
          userId := auth.user.id
          name := "k"
          keyHash := ""
          keyLookup := lookup
          createdAt := 0 }
      have hblind := h.blind other hother (withKey db k hid hlookup)
        (fun org horg => sameRows_withKey horg) trivial
      have hkey' : (withKey db k hid hlookup).getKey keyId = some k := by
        simp [Db.getKey, withKey, k]
      rw [respond_revokeKey hperm, respond_revokeKey hperm, hkey, hkey'] at hblind
      cases hblind
  | some k =>
      -- The organisation of that key may as well not have it.
      have hk : k ∈ db.apiKeys := List.mem_of_find?_eq_some hkey
      have hid : k.id = keyId := by simpa using List.find?_some hkey
      have horg : k.orgId ≠ auth.user.orgId := fun horg => hforeign ⟨k, hk, hid, horg⟩
      have hblind := h.blind k.orgId horg (withoutKey db k.id)
        (fun org hne => sameRows_withoutKey hk hne) trivial
      have hkey' : (withoutKey db k.id).getKey keyId = none := by
        simp [Db.getKey, withoutKey, hid]
      rw [respond_revokeKey hperm, respond_revokeKey hperm, hkey, hkey'] at hblind
      cases hblind

theorem ownTarget_suspendUser {userId : UUID} (h : Isolated p d auth (.suspendUser userId) db) :
    OwnTarget auth db (.suspendUser userId) := by
  intro hperm
  by_contra hforeign
  cases hu : db.users userId with
  | none =>
      -- Another organisation may have a user of that id.
      rcases exists_other_org auth.user.orgId with ⟨other, hother⟩
      let u : User := { id := userId, orgId := other, role := .member }
      have hblind := h.blind other hother (withUser db userId other (some u))
        (fun org hne => sameRows_withUser hne (by simp [hu]) (by simpa [u] using Ne.symm hne))
        trivial
      have hu' : (withUser db userId other (some u)).users userId = some u := by
        simp [withUser]
      rw [respond_suspendUser hperm, respond_suspendUser hperm, hu, hu'] at hblind
      simp [u, hother, DomainError.notFound] at hblind
  | some u =>
      -- The organisation of that user may as well not have it.
      have horg : u.orgId ≠ auth.user.orgId := fun horg => hforeign ⟨u, hu, horg⟩
      have hblind := h.blind u.orgId horg (withUser db userId u.orgId none)
        (fun org hne => sameRows_withUser hne (by simpa [hu] using Ne.symm hne) (by simp)) trivial
      have hu' : (withUser db userId u.orgId none).users userId = none := by
        simp [withUser]
      rw [respond_suspendUser hperm, respond_suspendUser hperm, hu, hu'] at hblind
      simp [horg, DomainError.notFound] at hblind

/-- A call of an authenticated user is isolated exactly when the id it acts on is the caller's. -/
theorem isolated_iff_ownTarget {call : RouteCall} (hauth : db.users auth.user.id = some auth.user)
    (hfresh : FreshDraws p d db call) :
    Isolated p d auth call db ↔ OwnTarget auth db call := by
  constructor
  · intro h
    cases call with
    | revokeKey keyId => exact ownTarget_revokeKey h
    | suspendUser userId => exact ownTarget_suspendUser h
    | _ => trivial
  · exact isolated_of_ownTarget hauth hfresh

end Foreign

/-! ### Two organisations -/

/-- The owner of the organisation 1. -/
def ownerOfOne : AuthContext :=
  { user := { id := 11, orgId := 1, role := .owner } }

/-- Organisations 1 and 2, each with a user and a key. -/
def twoOrgs : Db :=
  { organizations := fun org => org = 1 || org = 2
    users := fun id =>
      if id = 11 then some { id := 11, orgId := 1, role := .owner }
      else if id = 22 then some { id := 22, orgId := 2, role := .member }
      else none
    apiKeys :=
      [{ id := 111, orgId := 1, userId := 11, name := "a", keyHash := "h", keyLookup := "a"
         createdAt := 0 },
        { id := 222, orgId := 2, userId := 22, name := "b", keyHash := "h", keyLookup := "b"
          createdAt := 0 }]
    creditBalances := fun _ => none
    usageRecords := []
    auditLogs := []
    keyIds_nodup := by decide
    keyLookups_nodup := by decide
    auditIds_nodup := by decide }

def platform : Platform :=
  { sha256Lookup := id, inPeriod := fun _ _ => none }

def draws : Draws :=
  { now := 5
    keyId := 333
    plaintext := "sk-or-v1-c"
    keyHash := "h"
    auditId := 9
    auditTarget := 8 }

theorem isolated_iff_ownTarget_createKey :
    Isolated platform draws ownerOfOne (.createKey { name := "c" }) twoOrgs ↔
      OwnTarget ownerOfOne twoOrgs (.createKey { name := "c" }) :=
  isolated_iff_ownTarget (by decide) ⟨by decide, by decide⟩

/-- The owner of one organisation revokes the key of another. -/
theorem foreign_key_is_revoked :
    ¬ ∀ (p : Platform) (d : Draws) (auth : AuthContext) (call : RouteCall) (db : Db),
      db.users auth.user.id = some auth.user → FreshDraws p d db call →
      Isolated p d auth call db := by
  intro h
  have hframe := (h platform draws ownerOfOne (.revokeKey 222) twoOrgs (by decide) trivial).frame 2
    (by decide)
  have hkeys := hframe.apiKeys
  -- The other organisation's key has been revoked by the call.
  revert hkeys
  decide

end Tenancy
end Backend
end OpenRouter
