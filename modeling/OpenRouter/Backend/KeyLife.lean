import OpenRouter.Base.Journal
import OpenRouter.Backend.CurrentAuth

/-!
# KeyLife — API keys from their creation on

Runs of `create_key`, `revoke_key` and `suspend_user` with the clock going on.  Which calls of a run
commit is read off its labels (`committed`), and `rows_eq_replay` says that the rows of `api_keys`
are what these calls leave.  `validate_characterised` says from the labels alone which keys
`validate_for_request` returns.
-/

namespace OpenRouter
namespace Backend
namespace KeyLife

open Base Routes

/-! ## The operations -/

structure CreateKeyCommand where
  orgId : UUID
  userId : UUID
  name : String
  scope : KeyScope := .personal
  allowedModels : List String := []
  expiresAt : Option ℤ := none

/-- The row that `AuthService.create_key` inserts. -/
def newKey (p : Platform) (d : Draws) (cmd : CreateKeyCommand) : APIKey where
  id := d.keyId
  orgId := cmd.orgId
  userId := cmd.userId
  name := cmd.name
  scope := cmd.scope
  keyHash := d.keyHash
  keyLookup := p.sha256Lookup d.plaintext
  allowedModels := cmd.allowedModels
  expiresAt := cmd.expiresAt
  createdAt := d.now

/-- The route creates its key for the user that calls it. -/
theorem createKey_eq (p : Platform) (d : Draws) (auth : AuthContext) (body : CreateKeyBody)
    (db : Db) :
    createKey p d auth body db =
      let key := newKey p d
        { orgId := auth.user.orgId
          userId := auth.user.id
          name := body.name
          scope := body.scope
          allowedModels := body.allowedModels
          expiresAt := body.expiresAt }
      match db.addKey key with
      | some db' => .ok (.createdKey (viewOf key) d.plaintext, db')
      | none => .error .other := rfl

structure World where
  now : ℤ
  db : Db

inductive Label
  | tick (d : ℕ)
  /-- `create_key`, with the salt of the hash; the row may have a deny list, which `create_key`
  leaves empty. -/
  | createKey (d : Draws) (salt : String) (cmd : CreateKeyCommand) (denied : List String)
  | revokeKey (d : Draws) (keyId : UUID) (reason : String)
  | suspendUser (d : Draws) (auth : AuthContext) (userId : UUID)
  /-- A call whose transaction the database rolls back. -/
  | abort

variable (p : Platform) (hashApiKey : String → String → String)
  (verifyApiKey : String → String → Bool)

/-- The row of a creation. -/
def issuedKey (now : ℤ) (d : Draws) (salt : String) (cmd : CreateKeyCommand)
    (denied : List String) : APIKey :=
  { newKey p { d with now := now, keyHash := hashApiKey salt d.plaintext } cmd with
    deniedModels := denied }

namespace World

def tick (w : World) (d : ℕ) : World :=
  { w with now := w.now + d }

/-- One call, each a transaction of its own; a call that raises leaves the rows as they are. -/
def step (w : World) : Label → World
  | .tick d => w.tick d
  | .createKey d salt cmd denied =>
      match w.db.addKey (issuedKey p hashApiKey w.now d salt cmd denied) with
      | some db => { w with db := db }
      | none => w
  | .revokeKey d keyId reason =>
      match revokeKey { d with now := w.now } keyId reason w.db with
      | .ok (_, db) => { w with db := db }
      | .error _ => w
  | .suspendUser d auth userId =>
      match handler p { d with now := w.now } auth (.suspendUser userId) w.db with
      | .ok (_, db) => { w with db := db }
      | .error _ => w
  | .abort => w

def run (w : World) (ls : List Label) : World :=
  ls.foldl (step p hashApiKey) w

/-- `validate_for_request`, and the rows behind it. -/
def validate (w : World) (plaintext model : String) : Except DomainError APIKey × Db :=
  (validateForRequest p.sha256Lookup verifyApiKey (findByLookupHash w.db) w.now plaintext model,
    w.db)

end World

/-! ## The committed calls of a run -/

/-- A call that has committed. -/
inductive Entry
  | created (k : APIKey) (plaintext : String)
  | revoked (keyId : UUID) (now : ℤ) (reason : String)
  | suspended (userId orgId : UUID) (now : ℤ)

/-- What a label commits: a creation when its id and its lookup are new and its references there, a
revocation when the key is there, a suspension when the caller administers the user's
organisation. -/
def World.entry (w : World) : Label → Option Entry
  | .createKey d salt cmd denied =>
      let key := issuedKey p hashApiKey w.now d salt cmd denied
      if (w.db.apiKeys.map APIKey.id).contains key.id = false ∧
          (w.db.apiKeys.map APIKey.keyLookup).contains key.keyLookup = false ∧
          w.db.organizations key.orgId = true ∧ (w.db.users key.userId).isSome then
        some (.created key d.plaintext)
      else
        none
  | .revokeKey _ keyId reason =>
      if (w.db.apiKeys.map APIKey.id).contains keyId then some (.revoked keyId w.now reason)
      else none
  | .suspendUser _ auth userId =>
      (w.db.users userId).bind fun user =>
        if "admin:write" ∈ rolePermissions auth.user.role ∧ user.orgId = auth.user.orgId then
          some (.suspended userId user.orgId w.now)
        else
          none
  | .tick _ => none
  | .abort => none

/-- The committed calls of a run, the latest first. -/
def committed (w : World) : List Label → List Entry
  | [] => []
  | l :: ls => committed (w.step p hashApiKey l) ls ++ (w.entry p hashApiKey l).toList

/-- The time that passes in a run. -/
def elapsed : List Label → ℕ
  | [] => 0
  | .tick d :: ls => d + elapsed ls
  | _ :: ls => elapsed ls

namespace Entry

/-- The row of a creation. -/
def row : Entry → Option APIKey
  | created k _ => some k
  | _ => none

def suspendRow (userId orgId : UUID) (now : ℤ) (k : APIKey) : APIKey :=
  if k.userId = userId ∧ k.orgId = orgId ∧ k.revokedAt = none then
    { k with revokedAt := some now, revocationReason := some "user_suspended" }
  else k

/-- What an entry does to the rows that there are. -/
def act : Entry → APIKey → APIKey
  | created _ _, k => k
  | revoked keyId now reason, k => Db.revokeRow keyId now reason k
  | suspended userId orgId now, k => suspendRow userId orgId now k

/-- The keys that a revocation or a suspension is about. -/
def Covers (k : APIKey) : Entry → Prop
  | created _ _ => False
  | revoked keyId _ _ => k.id = keyId
  | suspended userId orgId _ => k.userId = userId ∧ k.orgId = orgId

end Entry

/-- A call of the run created the key with the plaintext, no later one has covered it, and it is
good for the model now. -/
def Grants (w₀ : World) (ls : List Label) (plaintext model : String) (k : APIKey) : Prop :=
  (∃ later earlier,
      committed p hashApiKey w₀ ls = later ++ .created k plaintext :: earlier ∧
        ∀ e ∈ later, ¬e.Covers k) ∧
    (∀ t, k.expiresAt = some t → w₀.now + elapsed ls ≤ t) ∧
    model ∉ k.deniedModels ∧ (k.allowedModels = [] ∨ model ∈ k.allowedModels)

namespace Entry

/-- An entry revokes a row or leaves it as it is. -/
theorem act_eq (e : Entry) (k : APIKey) :
    e.act k = k ∨ ∃ now reason,
      e.act k = { k with revokedAt := some now, revocationReason := some reason } := by
  cases e with
  | created k' plaintext => exact .inl rfl
  | revoked keyId now reason =>
      by_cases hid : k.id = keyId
      · exact .inr ⟨now, reason, by simp [act, Db.revokeRow, hid]⟩
      · exact .inl (by simp [act, Db.revokeRow, hid])
  | suspended userId orgId now =>
      by_cases hcovered : k.userId = userId ∧ k.orgId = orgId ∧ k.revokedAt = none
      · exact .inr ⟨now, "user_suspended", by simp [act, suspendRow, hcovered]⟩
      · exact .inl (by simp [act, suspendRow, hcovered])

@[simp] theorem keyLookup_act (e : Entry) (k : APIKey) : (e.act k).keyLookup = k.keyLookup := by
  rcases act_eq e k with hsame | ⟨now, reason, hrevoked⟩
  · rw [hsame]
  · rw [hrevoked]

@[simp] theorem keyHash_act (e : Entry) (k : APIKey) : (e.act k).keyHash = k.keyHash := by
  rcases act_eq e k with hsame | ⟨now, reason, hrevoked⟩
  · rw [hsame]
  · rw [hrevoked]

theorem covers_act (e e' : Entry) (k : APIKey) : e'.Covers (e.act k) ↔ e'.Covers k := by
  rcases act_eq e k with hsame | ⟨now, reason, hrevoked⟩
  · rw [hsame]
  · rw [hrevoked]
    cases e' <;> exact Iff.rfl

theorem act_of_not_covers {e : Entry} {k : APIKey} (h : ¬e.Covers k) : e.act k = k := by
  cases e with
  | created k' plaintext => rfl
  | revoked keyId now reason =>
      have hid : k.id ≠ keyId := h
      simp [act, Db.revokeRow, hid]
  | suspended userId orgId now =>
      have hnot : ¬(k.userId = userId ∧ k.orgId = orgId ∧ k.revokedAt = none) :=
        fun hall => h ⟨hall.1, hall.2.1⟩
      simp [act, suspendRow, hnot]

theorem revokedAt_act (e : Entry) (k : APIKey) :
    (e.act k).revokedAt = none ↔ k.revokedAt = none ∧ ¬e.Covers k := by
  by_cases hcovers : e.Covers k
  · cases e with
    | created k' plaintext => exact hcovers.elim
    | revoked keyId now reason =>
        have hid : k.id = keyId := hcovers
        simp [act, Db.revokeRow, hid, Covers]
    | suspended userId orgId now =>
        have hboth : k.userId = userId ∧ k.orgId = orgId := hcovers
        by_cases hrevoked : k.revokedAt = none
        · simp [act, suspendRow, hboth, hrevoked, Covers]
        · simp [act, suspendRow, hrevoked]
  · simp [act_of_not_covers hcovers, hcovers]

/-- A row is still unrevoked when nothing has covered it. -/
theorem revokedAt_foldr (later : List Entry) (k : APIKey) :
    (later.foldr act k).revokedAt = none ↔ k.revokedAt = none ∧ ∀ e ∈ later, ¬e.Covers k := by
  induction later with
  | nil => simp
  | cons e later ih =>
      have hcovers : e.Covers (later.foldr act k) = e.Covers k :=
        foldr_act (f := fun r => e.Covers r) (fun e' r => propext (covers_act e' e r)) later k
      rw [List.foldr_cons, revokedAt_act, ih, hcovers, List.forall_mem_cons]
      tauto

theorem foldr_of_not_covers {later : List Entry} {k : APIKey} (h : ∀ e ∈ later, ¬e.Covers k) :
    later.foldr act k = k := by
  induction later with
  | nil => rfl
  | cons e later ih =>
      rw [List.forall_mem_cons] at h
      rw [List.foldr_cons, ih h.2, act_of_not_covers h.1]

end Entry

/-! ## What the calls do to the rows -/

theorem apiKeys_addKey {db db' : Db} {k : APIKey} (h : db.addKey k = some db') :
    db'.apiKeys = k :: db.apiKeys := by
  unfold Db.addKey at h
  split_ifs at h with hnew
  cases h
  rfl

theorem apiKeys_addAudit (db : Db) (a : AuditLog) : (db.addAudit a).apiKeys = db.apiKeys := by
  unfold Db.addAudit
  split <;> rfl

/-- The loop of `suspend_user` over some keys. -/
theorem apiKeys_foldl_revoke (userId : UUID) (now : ℤ) (ks : List APIKey) (db : Db) :
    (ks.foldl (fun db k =>
      if k.userId = userId ∧ k.revokedAt = none then db.revoke k.id now "user_suspended"
      else db) db).apiKeys =
      db.apiKeys.map fun r =>
        if ∃ k ∈ ks, (k.userId = userId ∧ k.revokedAt = none) ∧ k.id = r.id then
          { r with revokedAt := some now, revocationReason := some "user_suspended" }
        else r := by
  induction ks generalizing db with
  | nil => simp
  | cons k ks ih =>
      rw [List.foldl_cons]
      -- The first key of the loop is revoked here, and the others by the rest of it.
      by_cases hmine : k.userId = userId ∧ k.revokedAt = none
      · rw [if_pos hmine, ih]
        simp only [Db.revoke, List.map_map]
        apply List.map_congr_left
        intro r _
        by_cases hid : r.id = k.id
        · have hhere : ∃ k' ∈ k :: ks, (k'.userId = userId ∧ k'.revokedAt = none) ∧
              k'.id = r.id := ⟨k, List.mem_cons_self, hmine, hid.symm⟩
          rw [if_pos hhere]
          simp [Db.revokeRow, hid]
        · have hrow : Db.revokeRow k.id now "user_suspended" r = r := by
            simp [Db.revokeRow, hid]
          have hne : k.id ≠ r.id := fun h => hid h.symm
          simp [hrow, hne]
      · rw [if_neg hmine, ih]
        simp [hmine]

theorem apiKeys_revokeUser (db : Db) (userId orgId : UUID) (now : ℤ) :
    ((db.listForOrg orgId).foldl (fun db k =>
      if k.userId = userId ∧ k.revokedAt = none then db.revoke k.id now "user_suspended"
      else db) db).apiKeys = db.apiKeys.map (Entry.suspendRow userId orgId now) := by
  rw [apiKeys_foldl_revoke]
  apply List.map_congr_left
  intro k hk
  have hlisted : (∃ k' ∈ db.listForOrg orgId,
      (k'.userId = userId ∧ k'.revokedAt = none) ∧ k'.id = k.id) ↔
        k.userId = userId ∧ k.orgId = orgId ∧ k.revokedAt = none := by
    constructor
    · rintro ⟨k', hk', hmine, hid⟩
      rcases List.mem_filter.1 hk' with ⟨hmem, horg'⟩
      have hsame : k' = k := List.inj_on_of_nodup_map db.keyIds_nodup hmem hk hid
      subst hsame
      exact ⟨hmine.1, by simpa using horg', hmine.2⟩
    · rintro ⟨huserId, horg', hrevoked⟩
      exact ⟨k, List.mem_filter.2 ⟨hk, by simpa using horg'⟩, ⟨huserId, hrevoked⟩, rfl⟩
  by_cases hmine : k.userId = userId ∧ k.orgId = orgId ∧ k.revokedAt = none
  · rw [if_pos (hlisted.2 hmine), Entry.suspendRow, if_pos hmine]
  · rw [if_neg (fun h => hmine (hlisted.1 h)), Entry.suspendRow, if_neg hmine]

theorem getKey_eq_none_iff {db : Db} {id : UUID} :
    db.getKey id = none ↔ id ∉ db.apiKeys.map APIKey.id := by
  simp [Db.getKey, List.find?_eq_none]

variable {p hashApiKey}

/-- The rows after a step are those that its committed call makes of the rows before it. -/
theorem apiKeys_step (w : World) (l : Label) :
    (w.step p hashApiKey l).db.apiKeys =
      (w.entry p hashApiKey l).elim w.db.apiKeys fun e =>
        e.row.toList ++ w.db.apiKeys.map e.act := by
  cases l with
  | tick d => rfl
  | abort => rfl
  | createKey d salt cmd denied =>
      simp only [World.step, World.entry, Db.addKey, ← Bool.not_eq_true, List.contains_iff_mem]
      split_ifs with hnew
      · exact congrArg (List.cons _) (List.map_id _).symm
      · rfl
  | revokeKey d keyId reason =>
      simp only [World.step, World.entry, revokeKey]
      cases hget : w.db.getKey keyId with
      | none =>
          rw [if_neg fun hmem => getKey_eq_none_iff.1 hget (List.contains_iff_mem.1 hmem)]
          rfl
      | some k =>
          have hmem : keyId ∈ w.db.apiKeys.map APIKey.id := by
            by_contra habsent
            rw [getKey_eq_none_iff.2 habsent] at hget
            cases hget
          rw [if_pos (List.contains_iff_mem.2 hmem)]
          rfl
  | suspendUser d auth userId =>
      simp only [World.step, World.entry, handler, auditLog, requirePermission, suspendUser]
      by_cases hperm : "admin:write" ∈ rolePermissions auth.user.role
      · cases huser : w.db.users userId with
        | none => simp [hperm]
        | some user =>
            by_cases horg : user.orgId = auth.user.orgId
            · simp only [hperm, horg, ne_eq, not_true_eq_false, if_false, if_true, and_self,
                Option.bind_some, Option.elim_some]
              rw [apiKeys_addAudit, apiKeys_revokeUser]
              rfl
            · simp [hperm, horg]
      · cases w.db.users userId <;> simp [hperm]

/-- A creation that commits is that of its label. -/
theorem created_of_entry {w : World} {l : Label} {k : APIKey} {plaintext : String}
    (h : w.entry p hashApiKey l = some (.created k plaintext)) :
    ∃ d salt cmd denied, l = .createKey d salt cmd denied ∧
      k = issuedKey p hashApiKey w.now d salt cmd denied ∧ plaintext = d.plaintext := by
  cases l with
  | tick d => cases h
  | abort => cases h
  | createKey d salt cmd denied =>
      simp only [World.entry] at h
      split_ifs at h
      cases h
      exact ⟨d, salt, cmd, denied, rfl, rfl, rfl⟩
  | revokeKey d keyId reason =>
      simp only [World.entry] at h
      split_ifs at h
      cases h
  | suspendUser d auth userId =>
      rcases Option.bind_eq_some_iff.1 h with ⟨user, -, hsuspended⟩
      split_ifs at hsuspended
      cases hsuspended

theorem now_step (w : World) (l : Label) :
    (w.step p hashApiKey l).now = w.now + elapsed [l] := by
  cases l with
  | tick d => rfl
  | abort => simp [World.step, elapsed]
  | createKey | revokeKey | suspendUser =>
      simp only [World.step]
      split <;> simp [elapsed]

theorem now_run (w : World) (ls : List Label) :
    (w.run p hashApiKey ls).now = w.now + elapsed ls := by
  induction ls generalizing w with
  | nil => simp [World.run, elapsed]
  | cons l ls ih =>
      have hcons : elapsed (l :: ls) = elapsed [l] + elapsed ls := by
        cases l <;> simp [elapsed]
      have hrest := ih (w.step p hashApiKey l)
      rw [now_step] at hrest
      rw [hcons, show w.run p hashApiKey (l :: ls) = (w.step p hashApiKey l).run p hashApiKey ls
        from rfl, hrest]
      push_cast
      ring

/-! ## The invariant -/

variable (p hashApiKey) in
/-- The rows are those of the committed calls, and a creation stores the two hashes of its
plaintext. -/
structure Inv (w : World) (es : List Entry) : Prop where
  rows_eq_replay : w.db.apiKeys = replay Entry.row Entry.act es
  hashes : ∀ k plaintext, .created k plaintext ∈ es →
    k.keyLookup = p.sha256Lookup plaintext ∧ (∃ salt, k.keyHash = hashApiKey salt plaintext) ∧
      k.revokedAt = none

theorem Inv.step {w : World} {es : List Entry} (h : Inv p hashApiKey w es) (l : Label) :
    Inv p hashApiKey (w.step p hashApiKey l) ((w.entry p hashApiKey l).toList ++ es) := by
  have hrows : (w.step p hashApiKey l).db.apiKeys = _ := apiKeys_step w l
  cases hentry : w.entry p hashApiKey l with
  | none =>
      rw [hentry] at hrows
      exact ⟨hrows.trans h.rows_eq_replay, h.hashes⟩
  | some e =>
      rw [hentry] at hrows
      constructor
      · rw [hrows, h.rows_eq_replay]
        rfl
      · intro k plaintext hmem
        rcases List.mem_cons.1 hmem with rfl | hmem
        · rcases created_of_entry hentry with ⟨d, salt, cmd, denied, -, rfl, rfl⟩
          exact ⟨rfl, ⟨salt, rfl⟩, rfl⟩
        · exact h.hashes k plaintext hmem

theorem Inv.run {w : World} {es : List Entry} (h : Inv p hashApiKey w es) (ls : List Label) :
    Inv p hashApiKey (w.run p hashApiKey ls) (committed p hashApiKey w ls ++ es) := by
  induction ls generalizing w es with
  | nil => exact h
  | cons l ls ih =>
      have hrest := ih (h.step l)
      rwa [← List.append_assoc] at hrest

theorem inv_run {w₀ : World} (hkeys : w₀.db.apiKeys = []) (ls : List Label) :
    Inv p hashApiKey (w₀.run p hashApiKey ls) (committed p hashApiKey w₀ ls) := by
  have hstart : Inv p hashApiKey w₀ [] := ⟨hkeys, by simp⟩
  simpa using hstart.run ls

/-- An unrevoked row is as a creation has stored it, and no later entry covers it. -/
theorem Inv.created {w : World} {es : List Entry} (h : Inv p hashApiKey w es) {k : APIKey}
    (hmem : k ∈ w.db.apiKeys) (hunrevoked : k.revokedAt = none) :
    ∃ plaintext later earlier, es = later ++ .created k plaintext :: earlier ∧
      ∀ e ∈ later, ¬e.Covers k := by
  rw [h.rows_eq_replay, mem_replay] at hmem
  rcases hmem with ⟨later, e, earlier, k₀, hsplit, hrow, rfl⟩
  cases e with
  | revoked keyId now reason => cases hrow
  | suspended userId orgId now => cases hrow
  | created k₁ plaintext =>
      cases hrow
      have huncovered := ((Entry.revokedAt_foldr later k₀).1 hunrevoked).2
      rw [Entry.foldr_of_not_covers huncovered]
      exact ⟨plaintext, later, earlier, hsplit, huncovered⟩

/-! ## Validation -/

variable {verifyApiKey}

/-- A validation succeeds on a stored key whose secret verifies and whose two checks pass. -/
theorem validateForRequest_eq_ok_iff {sha256Lookup : String → String}
    {find : String → Option APIKey} {now : ℤ} {plaintext model : String} {k : APIKey} :
    validateForRequest sha256Lookup verifyApiKey find now plaintext model = .ok k ↔
      find (sha256Lookup plaintext) = some k ∧ verifyApiKey plaintext k.keyHash = true ∧
        k.assertUsable now = .ok () ∧ k.assertModelAllowed model = .ok () := by
  constructor
  · intro h
    cases hfind : find (sha256Lookup plaintext) with
    | none => simp [validateForRequest, hfind] at h
    | some k' =>
        cases hverify : verifyApiKey plaintext k'.keyHash with
        | false => simp [validateForRequest, hfind, hverify] at h
        | true =>
            have hsame : k' = k := by
              simp only [validateForRequest, hfind, hverify, Bool.true_eq_false, if_false] at h
              cases husable : k'.assertUsable now with
              | error err => simp [husable, Bind.bind, Except.bind] at h
              | ok u =>
                  cases hallowed : k'.assertModelAllowed model with
                  | error err => simp [husable, hallowed, Bind.bind, Except.bind] at h
                  | ok u' =>
                      simpa [husable, hallowed, Bind.bind, Except.bind, Pure.pure, Except.pure]
                        using h
            subst hsame
            exact ⟨rfl, hverify, (validateForRequest_eq_ok hfind hverify).1 h⟩
  · rintro ⟨hfind, hverify, hchecks⟩
    exact (validateForRequest_eq_ok hfind hverify).2 hchecks

theorem validate_eq_ok_iff
    (hverify : ∀ salt p q, verifyApiKey p (hashApiKey salt q) = true ↔ p = q) {w₀ : World}
    (hkeys : w₀.db.apiKeys = []) {ls : List Label} {plaintext model : String} {k : APIKey} :
    ((w₀.run p hashApiKey ls).validate p verifyApiKey plaintext model).1 = .ok k ↔
      Grants p hashApiKey w₀ ls plaintext model k := by
  have hinv : Inv p hashApiKey (w₀.run p hashApiKey ls) (committed p hashApiKey w₀ ls) :=
    inv_run hkeys ls
  rw [World.validate, validateForRequest_eq_ok_iff, findByLookupHash_eq_some,
    APIKey.assertUsable_eq_ok, APIKey.assertModelAllowed_eq_ok, now_run]
  constructor
  · rintro ⟨⟨hmem, -⟩, hsecret, ⟨hrevoked, hexpires⟩, hdenied, hallowed⟩
    rcases hinv.created hmem hrevoked with
      ⟨plaintext', later, earlier, hcommitted, huncovered⟩
    rcases hinv.hashes k plaintext' (by rw [hcommitted]; simp) with ⟨-, ⟨salt, hhash⟩, -⟩
    have hplaintext : plaintext = plaintext' := by
      rw [hhash] at hsecret
      exact (hverify salt plaintext plaintext').1 hsecret
    subst hplaintext
    exact ⟨⟨later, earlier, hcommitted, huncovered⟩, hexpires, hdenied, hallowed⟩
  · rintro ⟨⟨later, earlier, hcommitted, huncovered⟩, hexpires, hdenied, hallowed⟩
    rcases hinv.hashes k plaintext (by rw [hcommitted]; simp) with
      ⟨hlookup, ⟨salt, hhash⟩, hfresh⟩
    have hmem : k ∈ (w₀.run p hashApiKey ls).db.apiKeys := by
      rw [hinv.rows_eq_replay, mem_replay]
      exact ⟨later, _, earlier, k, hcommitted, rfl, Entry.foldr_of_not_covers huncovered⟩
    refine ⟨⟨hmem, hlookup⟩, ?_, ⟨hfresh, hexpires⟩, hdenied, hallowed⟩
    rw [hhash]
    exact (hverify salt plaintext plaintext).2 rfl

/-- A key that a committed call covers is granted to nobody. -/
theorem not_grants_of_covers {w₀ : World} (hkeys : w₀.db.apiKeys = []) {ls : List Label}
    {later earlier : List Entry} {e : Entry} {k k' : APIKey} {plaintext model : String}
    (hcommitted : committed p hashApiKey w₀ ls = later ++ e :: earlier)
    (hcreated : .created k plaintext ∈ earlier) (hcovers : e.Covers k) :
    ¬Grants p hashApiKey w₀ ls plaintext model k' := by
  rintro ⟨⟨later', earlier', hcommitted', huncovered⟩, -⟩
  have hinv : Inv p hashApiKey (w₀.run p hashApiKey ls) (committed p hashApiKey w₀ ls) :=
    inv_run hkeys ls
  -- Of one plaintext there is one creation, since the lookups of rows are distinct.
  have hnodup : ((committed p hashApiKey w₀ ls).filterMap fun e =>
      e.row.map APIKey.keyLookup).Nodup := by
    rw [← @map_replay _ _ _ Entry.row Entry.act _ Entry.keyLookup_act, ← hinv.rows_eq_replay]
    exact (w₀.run p hashApiKey ls).db.keyLookups_nodup
  rcases List.append_of_mem hcreated with ⟨between, rest, rfl⟩
  have hsplit : committed p hashApiKey w₀ ls =
      (later ++ e :: between) ++ .created k plaintext :: rest := by
    rw [hcommitted]
    simp
  have hlookup := (hinv.hashes k plaintext (by rw [hsplit]; simp)).1
  have hlookup' := (hinv.hashes k' plaintext (by rw [hcommitted']; simp)).1
  rcases split_unique hnodup hsplit hcommitted' (c := p.sha256Lookup plaintext)
    (by simp [Entry.row, hlookup]) (by simp [Entry.row, hlookup']) with ⟨hlater, hsame, -⟩
  cases hsame
  refine huncovered e ?_ hcovers
  rw [← hlater]
  simp

/-- In every run, `validate_for_request` returns a key exactly when the calls of the run grant it;
otherwise it raises, and it changes nothing.  A key that has been revoked, by its id or with its
user, is rejected from then on. -/
theorem validate_characterised
    (hverify : ∀ salt p q, verifyApiKey p (hashApiKey salt q) = true ↔ p = q) {w₀ : World}
    (hkeys : w₀.db.apiKeys = []) (ls : List Label) (plaintext model : String) :
    (∀ k, ((w₀.run p hashApiKey ls).validate p verifyApiKey plaintext model).1 = .ok k ↔
        Grants p hashApiKey w₀ ls plaintext model k) ∧
      ((¬∃ k, Grants p hashApiKey w₀ ls plaintext model k) →
        ∃ err, ((w₀.run p hashApiKey ls).validate p verifyApiKey plaintext model).1 = .error err) ∧
      ((w₀.run p hashApiKey ls).validate p verifyApiKey plaintext model).2 =
        (w₀.run p hashApiKey ls).db ∧
      ∀ later e earlier k, committed p hashApiKey w₀ ls = later ++ e :: earlier →
        .created k plaintext ∈ earlier → e.Covers k →
        ∃ err, ((w₀.run p hashApiKey ls).validate p verifyApiKey plaintext model).1 =
          .error err := by
  -- Validation either returns a key or raises.
  have hraises : (¬∃ k, Grants p hashApiKey w₀ ls plaintext model k) →
      ∃ err, ((w₀.run p hashApiKey ls).validate p verifyApiKey plaintext model).1 =
        .error err := by
    intro hnone
    cases hresult : ((w₀.run p hashApiKey ls).validate p verifyApiKey plaintext model).1 with
    | error err => exact ⟨err, rfl⟩
    | ok k => exact (hnone ⟨k, (validate_eq_ok_iff hverify hkeys).1 hresult⟩).elim
  refine ⟨fun k => validate_eq_ok_iff hverify hkeys, hraises, rfl, ?_⟩
  intro later e earlier k hsplit hcreated hcovers
  -- Rows of one plaintext share their lookup, so no other creation grants the revoked key.
  exact hraises fun ⟨k', hgrants⟩ =>
    not_grants_of_covers hkeys hsplit hcreated hcovers hgrants

/-! ## A key that is used and revoked -/

/-- One organisation with one user, and no keys. -/
def oneUserDb : Db where
  organizations := fun id => id == 1
  users := fun id => if id = 7 then some { id := 7, orgId := 1, role := .owner } else none
  apiKeys := []
  creditBalances := fun _ => none
  usageRecords := []
  auditLogs := []
  keyIds_nodup := List.nodup_nil
  keyLookups_nodup := List.nodup_nil
  auditIds_nodup := List.nodup_nil

/-- The digest of a text is the text itself. -/
def clearPlatform : Platform where
  sha256Lookup := fun plaintext => plaintext
  inPeriod := fun _ _ => none

def drawsOf (keyId : UUID) (plaintext : String) : Draws where
  now := 0
  keyId := keyId
  plaintext := plaintext
  keyHash := ""
  auditId := 0
  auditTarget := 0

def limitedKey : CreateKeyCommand where
  orgId := 1
  userId := 7
  name := "a"
  allowedModels := ["m"]
  expiresAt := some 10

/-- A key with an allow list and a deny list, and one that is revoked. -/
def usedAndRevoked : List Label :=
  [.createKey (drawsOf 1 "a") "salt" limitedKey ["n"],
    .tick 3,
    .createKey (drawsOf 2 "b") "salt" { orgId := 1, userId := 7, name := "b" } [],
    .revokeKey (drawsOf 0 "") 2 "leaked"]

theorem validate_characterised_usedAndRevoked :
    let w₀ : World := { now := 0, db := oneUserDb }
    let w := w₀.run clearPlatform (fun _ q => q) usedAndRevoked
    (∀ k, (w.validate clearPlatform (fun p q => p == q) "a" "m").1 = .ok k ↔
        Grants clearPlatform (fun _ q => q) w₀ usedAndRevoked "a" "m" k) ∧
      ((¬∃ k, Grants clearPlatform (fun _ q => q) w₀ usedAndRevoked "a" "m" k) →
        ∃ err, (w.validate clearPlatform (fun p q => p == q) "a" "m").1 = .error err) ∧
      (w.validate clearPlatform (fun p q => p == q) "a" "m").2 = w.db ∧
      ∀ later e earlier k, committed clearPlatform (fun _ q => q) w₀ usedAndRevoked =
          later ++ e :: earlier →
        .created k "a" ∈ earlier → e.Covers k →
        ∃ err, (w.validate clearPlatform (fun p q => p == q) "a" "m").1 = .error err :=
  validate_characterised (fun _ _ _ => beq_iff_eq) rfl usedAndRevoked "a" "m"

example : (World.validate clearPlatform (fun p q => p == q)
    (World.run clearPlatform (fun _ q => q) { now := 0, db := oneUserDb } usedAndRevoked)
    "b" "m").1 = .error (.invalidApiKey "Key revoked") := rfl

end KeyLife
end Backend
end OpenRouter
