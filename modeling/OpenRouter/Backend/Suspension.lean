import OpenRouter.Base.Transition
import OpenRouter.Backend.CurrentAuth
import OpenRouter.Backend.KeyLife

/-!
# Suspension — `suspend_user` beside requests that create keys

A `create_key` request authenticates, inserts its row and commits it in steps of their own, and so
does `suspend_user` list the keys, revoke them one by one and commit.  What is not committed is
seen by nobody else.  `barred_of_timely` says which commits must not fall behind the listing.
-/

namespace OpenRouter
namespace Backend
namespace Suspension

open Base Routes KeyLife

/-! ## The steps -/

/-- How far a `create_key` request is. -/
inductive CreateStage
  | authenticated (auth : AuthContext)
  /-- The row is flushed, and no other transaction sees it. -/
  | inserted (key : APIKey)
  | finished

/-- How far `suspend_user` is: the keys that the loop has before it, and the revocations that it
has not committed. -/
inductive SuspendStage
  | arrived
  | revoking (todo : List APIKey) (pending : List (UUID × ℤ))
  | committed

structure Server where
  now : ℤ
  db : Db
  creates : List CreateStage := []
  suspension : SuspendStage := .arrived

inductive Label
  | tick (d : ℕ)
  | authenticate (authorization : Option String)
  | insert (i : ℕ) (d : Draws) (body : CreateKeyBody)
  | commitKey (i : ℕ)
  /-- A request that ends in an error and is rolled back. -/
  | abort (i : ℕ)
  | list
  | revokeNext
  | commitSuspension

/-- The loop body of `suspend_user`. -/
def revokeOne (userId : UUID) (now : ℤ) (k : APIKey) (pending : List (UUID × ℤ)) :
    List (UUID × ℤ) :=
  if k.userId = userId ∧ k.revokedAt = none then pending ++ [(k.id, now)] else pending

/-- The commit of the revocations. -/
def revokeAll (db : Db) (pending : List (UUID × ℤ)) : Db :=
  pending.foldl (fun db r => db.revoke r.1 r.2 "user_suspended") db

variable (p : Platform) (verifyApiKey : String → String → Bool) (admin : AuthContext)
  (userId : UUID)

def step (s : Server) : Label → Option Server
  | .tick d => some { s with now := s.now + d }
  | .authenticate authorization =>
      match getCurrentAuth p.sha256Lookup verifyApiKey s.db s.now authorization with
      | .ok auth => some { s with creates := s.creates ++ [.authenticated auth] }
      | .error _ => some s
  | .insert i d body =>
      match s.creates[i]? with
      | some (.authenticated auth) =>
          if "keys:write" ∈ rolePermissions auth.user.role ∧ (RouteCall.createKey body).valid then
            let key := newKey p { d with now := s.now }
              { orgId := auth.user.orgId
                userId := auth.user.id
                name := body.name
                scope := body.scope
                allowedModels := body.allowedModels
                expiresAt := body.expiresAt }
            some { s with creates := s.creates.set i (.inserted key) }
          else some { s with creates := s.creates.set i .finished }
      | _ => none
  | .commitKey i =>
      match s.creates[i]? with
      | some (.inserted key) =>
          some { s with db := (s.db.addKey key).getD s.db, creates := s.creates.set i .finished }
      | _ => none
  | .abort i =>
      match s.creates[i]? with
      | some _ => some { s with creates := s.creates.set i .finished }
      | none => none
  | .list =>
      match s.suspension, s.db.users userId with
      | .arrived, some user =>
          if "admin:write" ∈ rolePermissions admin.user.role ∧ user.orgId = admin.user.orgId then
            some { s with suspension := .revoking (s.db.listForOrg user.orgId) [] }
          else none
      | _, _ => none
  | .revokeNext =>
      match s.suspension with
      | .revoking (k :: todo) pending =>
          some { s with suspension := .revoking todo (revokeOne userId s.now k pending) }
      | _ => none
  | .commitSuspension =>
      match s.suspension with
      | .revoking [] pending =>
          some { s with db := revokeAll s.db pending, suspension := .committed }
      | _ => none

/-! ## What is promised -/

/-- No key of the user is usable. -/
def Barred (s : Server) : Prop :=
  ∀ k ∈ s.db.apiKeys, k.userId = userId → k.assertUsable s.now ≠ .ok ()

/-- A key that is committed for the user once the keys have been listed has expired by then. -/
def Timely (s : Server) : Label → Prop
  | .commitKey i =>
      ∀ key, s.creates[i]? = some (.inserted key) → key.userId = userId →
        s.suspension ≠ .arrived → ∃ t, key.expiresAt = some t ∧ t < s.now
  | _ => True

/-- Before the first request: users are filed under their ids, and a user's keys are in the user's
organisation, where `create_key` puts them. -/
structure Initial (s : Server) : Prop where
  creates : s.creates = []
  suspension : s.suspension = .arrived
  named : ∀ id user, s.db.users id = some user → user.id = id
  owned : ∀ k ∈ s.db.apiKeys, k.userId = userId →
    ∀ user, s.db.users userId = some user → k.orgId = user.orgId

/-! ## The invariant -/

/-- What a request will insert is in the organisation of its user. -/
def CreateStage.Owned (users : UUID → Option User) (userId : UUID) : CreateStage → Prop
  | authenticated auth => auth.user.id = userId → users userId = some auth.user
  | inserted key => key.userId = userId → ∀ user, users userId = some user → key.orgId = user.orgId
  | finished => True

/-- The loop will have revoked the key. -/
def InReach (k : APIKey) (todo : List APIKey) (pending : List (UUID × ℤ)) : Prop :=
  k.id ∈ pending.map Prod.fst ∨
    ∃ k' ∈ todo, k'.id = k.id ∧ k'.userId = userId ∧ k'.revokedAt = none

structure Inv (users : UUID → Option User) (s : Server) : Prop where
  users_eq : s.db.users = users
  owned : ∀ k ∈ s.db.apiKeys, k.userId = userId →
    ∀ user, users userId = some user → k.orgId = user.orgId
  creates : ∀ c ∈ s.creates, c.Owned users userId
  reached : ∀ todo pending, s.suspension = .revoking todo pending →
    ∀ k ∈ s.db.apiKeys, k.userId = userId → k.assertUsable s.now = .ok () →
      InReach userId k todo pending
  barred : s.suspension = .committed → Barred userId s

variable {p verifyApiKey admin userId}

theorem assertUsable_anti {k : APIKey} {now now' : ℤ} (hle : now ≤ now')
    (h : k.assertUsable now' = .ok ()) : k.assertUsable now = .ok () := by
  rw [APIKey.assertUsable_eq_ok] at h ⊢
  exact ⟨h.1, fun t ht => hle.trans (h.2 t ht)⟩

theorem users_addKey {db db' : Db} {k : APIKey} (h : db.addKey k = some db') :
    db'.users = db.users := by
  unfold Db.addKey at h
  split_ifs at h with hnew
  cases h
  rfl

theorem users_revokeAll (db : Db) (pending : List (UUID × ℤ)) :
    (revokeAll db pending).users = db.users := by
  unfold revokeAll
  induction pending generalizing db with
  | nil => rfl
  | cons r pending ih =>
      rw [List.foldl_cons, ih]
      rfl

/-- A row behind the commit is one from before, and it is usable only if it was and no revocation
is for it. -/
theorem mem_revokeAll {db : Db} {pending : List (UUID × ℤ)} {k : APIKey}
    (h : k ∈ (revokeAll db pending).apiKeys) :
    ∃ k₀ ∈ db.apiKeys, k.userId = k₀.userId ∧ k.orgId = k₀.orgId ∧
      ∀ now, k.assertUsable now = .ok () →
        k₀.assertUsable now = .ok () ∧ k₀.id ∉ pending.map Prod.fst := by
  unfold revokeAll at h
  induction pending generalizing db with
  | nil => exact ⟨k, h, rfl, rfl, fun now husable => ⟨husable, List.not_mem_nil⟩⟩
  | cons r pending ih =>
      rw [List.foldl_cons] at h
      rcases ih h with ⟨k₁, hk₁, huser, horg, husable⟩
      rcases List.mem_map.1 hk₁ with ⟨k₀, hk₀, rfl⟩
      by_cases hid : k₀.id = r.1
      · have hrow : Db.revokeRow r.1 r.2 "user_suspended" k₀ =
            { k₀ with revokedAt := some r.2, revocationReason := some "user_suspended" } := by
          simp [Db.revokeRow, hid]
        rw [hrow] at huser horg husable
        refine ⟨k₀, hk₀, huser, horg, fun now hnow => ?_⟩
        have hrevoked := (APIKey.assertUsable_eq_ok.1 (husable now hnow).1).1
        cases hrevoked
      · have hrow : Db.revokeRow r.1 r.2 "user_suspended" k₀ = k₀ := by
          simp [Db.revokeRow, hid]
        rw [hrow] at huser horg husable
        refine ⟨k₀, hk₀, huser, horg, fun now hnow => ?_⟩
        rcases husable now hnow with ⟨hk₀usable, hnot⟩
        refine ⟨hk₀usable, ?_⟩
        rw [List.map_cons, List.mem_cons, not_or]
        exact ⟨hid, hnot⟩

namespace Inv

variable {users : UUID → Option User} {s : Server}

/-- Time only takes usable keys away. -/
theorem tick (h : Inv userId users s) (d : ℕ) : Inv userId users { s with now := s.now + d } := by
  have hle : s.now ≤ s.now + d := by simp
  constructor
  · exact h.users_eq
  · exact h.owned
  · exact h.creates
  · intro todo pending hstage k hk huser husable
    exact h.reached todo pending hstage k hk huser (assertUsable_anti hle husable)
  · intro hstage k hk huser husable
    exact h.barred hstage k hk huser (assertUsable_anti hle husable)

/-- A request moves on without a commit. -/
theorem setCreates (h : Inv userId users s) {creates : List CreateStage}
    (hcreates : ∀ c ∈ creates, c ∈ s.creates ∨ c.Owned users userId) :
    Inv userId users { s with creates := creates } where
  users_eq := h.users_eq
  owned := h.owned
  creates := fun c hc => (hcreates c hc).elim (h.creates c) id
  reached := h.reached
  barred := h.barred

theorem setAt (h : Inv userId users s) (i : ℕ) {c : CreateStage} (hc : c.Owned users userId) :
    Inv userId users { s with creates := s.creates.set i c } := by
  apply h.setCreates
  intro c' hmem
  rcases List.mem_or_eq_of_mem_set hmem with hold | rfl
  · exact .inl hold
  · exact .inr hc

theorem authenticate (h : Inv userId users s)
    (hnamed : ∀ id user, users id = some user → user.id = id) {authorization : Option String}
    {auth : AuthContext}
    (hauth : getCurrentAuth p.sha256Lookup verifyApiKey s.db s.now authorization = .ok auth) :
    Inv userId users { s with creates := s.creates ++ [.authenticated auth] } := by
  rcases getCurrentAuth_eq_ok_iff.1 hauth with ⟨_, key, -, -, -, -, -, hfound⟩
  apply h.setCreates
  intro c hc
  rcases List.mem_append.1 hc with hc | hc
  · exact .inl hc
  · rw [List.mem_singleton.1 hc]
    refine .inr fun hid => ?_
    rw [h.users_eq] at hfound
    have hkey : auth.user.id = key.userId := hnamed key.userId auth.user hfound
    rw [← hid, hkey]
    exact hfound

theorem insert (h : Inv userId users s) {i : ℕ} {auth : AuthContext}
    (hstage : s.creates[i]? = some (.authenticated auth)) (d : Draws) (body : CreateKeyBody) :
    Inv userId users
      { s with
        creates := s.creates.set i
          (.inserted (newKey p { d with now := s.now }
            { orgId := auth.user.orgId
              userId := auth.user.id
              name := body.name
              scope := body.scope
              allowedModels := body.allowedModels
              expiresAt := body.expiresAt })) } := by
  have howned : (CreateStage.authenticated auth).Owned users userId :=
    h.creates _ (List.mem_of_getElem? hstage)
  apply h.setAt i
  intro hid user huser
  have hsame : users userId = some auth.user := howned hid
  rw [huser] at hsame
  cases hsame
  rfl

/-- The commit of a key of the user that comes behind the listing adds no usable key. -/
theorem commitKey (h : Inv userId users s) {i : ℕ} {key : APIKey}
    (hstage : s.creates[i]? = some (.inserted key))
    (htimely : key.userId = userId → s.suspension ≠ .arrived →
      ∃ t, key.expiresAt = some t ∧ t < s.now) :
    Inv userId users
      { s with db := (s.db.addKey key).getD s.db, creates := s.creates.set i .finished } := by
  have hset : Inv userId users { s with creates := s.creates.set i .finished } := h.setAt i trivial
  cases hadd : s.db.addKey key with
  | none => exact hset
  | some db =>
      have hkeys : db.apiKeys = key :: s.db.apiKeys := apiKeys_addKey hadd
      -- Behind the listing, the key has expired by the time it is committed.
      have hexpired : key.userId = userId → s.suspension ≠ .arrived →
          key.assertUsable s.now ≠ .ok () := by
        intro huser hlisted husable
        rcases htimely huser hlisted with ⟨t, ht, hlt⟩
        exact absurd ((APIKey.assertUsable_eq_ok.1 husable).2 t ht) (not_le.2 hlt)
      have howned : (CreateStage.inserted key).Owned users userId :=
        h.creates _ (List.mem_of_getElem? hstage)
      constructor
      -- In the order of the fields of the invariant.
      · exact (users_addKey hadd).trans h.users_eq
      · intro k hk
        rw [Option.getD_some, hkeys] at hk
        rcases List.mem_cons.1 hk with rfl | hk
        · exact howned
        · exact h.owned k hk
      · exact hset.creates
      · intro todo pending hrevoking k hk huser husable
        rw [Option.getD_some, hkeys] at hk
        rcases List.mem_cons.1 hk with rfl | hk
        · have hlisted : s.suspension ≠ .arrived := fun harrived => by
            have hstage' : s.suspension = .revoking todo pending := hrevoking
            rw [harrived] at hstage'
            cases hstage'
          exact (hexpired huser hlisted husable).elim
        · exact h.reached todo pending hrevoking k hk huser husable
      · intro hcommitted k hk huser
        rw [Option.getD_some, hkeys] at hk
        rcases List.mem_cons.1 hk with rfl | hk
        · have hlisted : s.suspension ≠ .arrived := fun harrived => by
            have hstage' : s.suspension = .committed := hcommitted
            rw [harrived] at hstage'
            cases hstage'
          exact hexpired huser hlisted
        · exact h.barred hcommitted k hk huser

/-- All keys of the user are in the list. -/
theorem list (h : Inv userId users s) {user : User} (huser : s.db.users userId = some user) :
    Inv userId users { s with suspension := .revoking (s.db.listForOrg user.orgId) [] } where
  users_eq := h.users_eq
  owned := h.owned
  creates := h.creates
  reached := by
    intro todo pending hrevoking k hk hmine husable
    cases hrevoking
    rw [h.users_eq] at huser
    -- The listing is by organization, and a key of the user is one of theirs.
    have horg : k.orgId = user.orgId := h.owned k hk hmine user huser
    refine .inr ⟨k, List.mem_filter.2 ⟨hk, by simpa using horg⟩, rfl, hmine, ?_⟩
    exact (APIKey.assertUsable_eq_ok.1 husable).1
  barred := fun hcommitted => nomatch hcommitted

theorem revokeNext (h : Inv userId users s) {k : APIKey} {todo : List APIKey}
    {pending : List (UUID × ℤ)} (hstage : s.suspension = .revoking (k :: todo) pending) :
    Inv userId users
      { s with suspension := .revoking todo (revokeOne userId s.now k pending) } where
  users_eq := h.users_eq
  owned := h.owned
  creates := h.creates
  reached := by
    intro todo' pending' hrevoking r hr hmine husable
    cases hrevoking
    -- A key that was to be revoked already still is; the head of the list is now.
    rcases h.reached _ _ hstage r hr hmine husable with hpending | ⟨k', hk', hid, huser, hrevoked⟩
    · refine .inl ?_
      unfold revokeOne
      split_ifs
      · rw [List.map_append]
        exact List.mem_append_left _ hpending
      · exact hpending
    · rcases List.mem_cons.1 hk' with rfl | hk'
      · refine .inl ?_
        rw [revokeOne, if_pos ⟨huser, hrevoked⟩, List.map_append]
        exact List.mem_append_right _ (by simp [hid])
      · exact .inr ⟨k', hk', hid, huser, hrevoked⟩
  barred := fun hcommitted => nomatch hcommitted

theorem commitSuspension (h : Inv userId users s) {pending : List (UUID × ℤ)}
    (hstage : s.suspension = .revoking [] pending) :
    Inv userId users { s with db := revokeAll s.db pending, suspension := .committed } where
  users_eq := (users_revokeAll s.db pending).trans h.users_eq
  owned := by
    intro k hk hmine user huser
    rcases mem_revokeAll hk with ⟨k₀, hk₀, huser₀, horg₀, -⟩
    rw [horg₀]
    exact h.owned k₀ hk₀ (huser₀ ▸ hmine) user huser
  creates := h.creates
  reached := fun _ _ hrevoking => nomatch hrevoking
  barred := by
    intro _ k hk hmine husable
    rcases mem_revokeAll hk with ⟨k₀, hk₀, huser₀, -, hall⟩
    rcases hall s.now husable with ⟨husable₀, hnot⟩
    -- Nothing is left to look at, so a usable key would be one that is being revoked.
    rcases h.reached _ _ hstage k₀ hk₀ (huser₀ ▸ hmine) husable₀ with hpending | ⟨k', hk', -⟩
    · exact hnot hpending
    · cases hk'

end Inv

theorem inv_step {users : UUID → Option User}
    (hnamed : ∀ id user, users id = some user → user.id = id) {s s' : Server} {l : Label}
    (h : Inv userId users s) (htimely : Timely userId s l)
    (hstep : step p verifyApiKey admin userId s l = some s') : Inv userId users s' := by
  cases l with
  | tick d =>
      cases hstep
      exact h.tick d
  | authenticate authorization =>
      simp only [step] at hstep
      cases hauth : getCurrentAuth p.sha256Lookup verifyApiKey s.db s.now authorization with
      | error err =>
          simp only [hauth] at hstep
          cases hstep
          exact h
      | ok auth =>
          simp only [hauth] at hstep
          cases hstep
          exact h.authenticate hnamed hauth
  | insert i d body =>
      simp only [step] at hstep
      split at hstep
      · rename_i auth hstage
        split_ifs at hstep with hallowed
        · cases hstep
          exact h.insert hstage d body
        · cases hstep
          exact h.setAt i trivial
      · cases hstep
  | commitKey i =>
      simp only [step] at hstep
      split at hstep
      · rename_i key hstage
        cases hstep
        exact h.commitKey hstage (htimely key hstage)
      · cases hstep
  | abort i =>
      simp only [step] at hstep
      split at hstep
      · cases hstep
        exact h.setAt i trivial
      · cases hstep
  | list =>
      simp only [step] at hstep
      split at hstep
      · rename_i user _ huser
        split_ifs at hstep with hallowed
        cases hstep
        exact h.list huser
      · cases hstep
  | revokeNext =>
      simp only [step] at hstep
      split at hstep
      · rename_i k todo pending hstage
        cases hstep
        exact h.revokeNext hstage
      · cases hstep
  | commitSuspension =>
      simp only [step] at hstep
      split at hstep
      · rename_i pending hstage
        cases hstep
        exact h.commitSuspension hstage
      · cases hstep

/-- If no key of the user that is still good is committed behind the listing, no key of the user is
usable from the commit of the suspension on. -/
theorem barred_of_timely {s t : Server} {ls : List Label} (hinitial : Initial userId s)
    (htimely : Guarded (step p verifyApiKey admin userId) (Timely userId) s ls)
    (hrun : exec (step p verifyApiKey admin userId) s ls = some t)
    (hcommitted : t.suspension = .committed) : Barred userId t := by
  have hinv : Inv userId s.db.users s := by
    constructor
    · rfl
    · exact hinitial.owned
    · intro c hc
      rw [hinitial.creates] at hc
      cases hc
    · intro todo pending hrevoking
      rw [hinitial.suspension] at hrevoking
      cases hrevoking
    · intro hend
      rw [hinitial.suspension] at hend
      cases hend
  refine (exec_invariant_of_guarded ?_ hinv htimely hrun).barred hcommitted
  intro s₁ l s₂ hs hguard hstep
  exact inv_step hinitial.named hs hguard hstep

/-! ## A creation in flight -/

/-- A member of the organisation with a key, and the one who suspends. -/
def memberDb : Db where
  organizations := fun id => id == 1
  users := fun id =>
    if id = 7 then some { id := 7, orgId := 1, role := .admin }
    else if id = 8 then some { id := 8, orgId := 1, role := .owner }
    else none
  apiKeys :=
    [{ id := 1
       orgId := 1
       userId := 7
       name := "a"
       keyHash := "a"
       keyLookup := "a"
       createdAt := 0 }]
  creditBalances := fun _ => none
  usageRecords := []
  auditLogs := []
  keyIds_nodup := List.nodup_singleton _
  keyLookups_nodup := List.nodup_singleton _
  auditIds_nodup := List.nodup_nil

def owner : AuthContext where
  user := { id := 8, orgId := 1, role := .owner }

/-- The key that is being created, its hash the plaintext. -/
def newDraws : Draws :=
  { drawsOf 2 "b" with keyHash := "b" }

theorem initial_memberDb : Initial 7 { now := 0, db := memberDb } where
  creates := rfl
  suspension := rfl
  named := by
    intro id user huser
    simp only [memberDb] at huser
    split_ifs at huser with hseven height
    · cases huser
      exact hseven.symm
    · cases huser
      exact height.symm
  owned := by
    intro k hk _ user huser
    rw [List.mem_singleton.1 hk]
    cases huser
    rfl

/-- The creation commits before the keys are listed. -/
def timelyRun : List Label :=
  [.authenticate (some "Bearer a"), .insert 0 newDraws { name := "b" }, .commitKey 0, .list,
    .revokeNext, .revokeNext, .commitSuspension]

theorem barred_of_timely_timelyRun :
    ∃ t, exec (step clearPlatform (fun p q => p == q) owner 7) { now := 0, db := memberDb }
        timelyRun = some t ∧ t.suspension = .committed ∧ Barred 7 t := by
  refine ⟨_, rfl, rfl, @barred_of_timely clearPlatform (fun p q => p == q) owner 7 _ _ timelyRun
    initial_memberDb ?_ rfl rfl⟩
  refine ⟨trivial, fun s₁ h₁ => ⟨trivial, fun s₂ h₂ => ⟨?_, fun _ _ => ⟨trivial, fun _ _ =>
    ⟨trivial, fun _ _ => ⟨trivial, fun _ _ => ⟨trivial, fun _ _ => trivial⟩⟩⟩⟩⟩⟩⟩
  have hs₁ : some _ = some s₁ := h₁
  cases hs₁
  have hs₂ : some _ = some s₂ := h₂
  cases hs₂
  exact fun _ _ _ hlisted => absurd rfl hlisted

/-- The creation commits behind the suspension. -/
def lateRun : List Label :=
  [.authenticate (some "Bearer a"), .insert 0 newDraws { name := "b" }, .list, .revokeNext,
    .commitSuspension, .commitKey 0]

theorem creation_in_flight_survives :
    ∃ t, exec (step clearPlatform (fun p q => p == q) owner 7) { now := 0, db := memberDb }
        lateRun = some t ∧ t.suspension = .committed ∧ (∀ c ∈ t.creates, c = .finished) ∧
      ¬Barred 7 t ∧
      getCurrentAuth clearPlatform.sha256Lookup (fun p q => p == q) t.db t.now (some "Bearer b") =
        .ok { user := { id := 7, orgId := 1, role := .admin } } := by
  refine ⟨_, rfl, rfl, fun c hc => List.mem_singleton.1 hc, ?_, rfl⟩
  intro hbarred
  exact hbarred _ List.mem_cons_self rfl rfl

end Suspension
end Backend
end OpenRouter
