import OpenRouter.Backend.OAuth
import OpenRouter.Base.Transition

/-!
# Provisioning — concurrent first sign-ins

Many calls of `OAuthService.exchange` at once, each one transaction: the lookup, the two inserts
and the commit are steps of their own.  A transaction reads what is committed; an insert that meets
a row of its key fails when that row is committed, and waits while it belongs to a transaction that
is still open.

`sound_of_run` is what holds of the committed rows and of the answers in every interleaving;
`exec_solo` says that a call by itself is `exchange`.
-/

namespace OpenRouter
namespace Backend
namespace Provisioning

open Base OAuth

/-! ## Calls -/

/-- Where a call stands between two of its steps. -/
inductive Pc
  /-- Before `find_by_email`. -/
  | looking
  /-- No user was found; the insert of an organisation is next. -/
  | addingOrg
  | addingUser
  /-- Before `commit`, with the user that was found or `created`. -/
  | committing (user : Account) (created : Bool)
  | returned (jwt : IssuedBackendJwt)
  | failed (f : Routes.Failure)

structure Call where
  draws : Draws
  email : String
  pc : Pc

namespace Call

variable (c : Call)

def organization : Organization :=
  newOrganization c.draws c.email

def account : Account :=
  newAccount c.draws c.email

/-- The rows that the call has inserted and not committed. -/
def pendingOrg : Option Organization :=
  match c.pc with
  | .addingUser | .committing _ true => some c.organization
  | _ => none

def pendingUser : Option Account :=
  match c.pc with
  | .committing _ true => some c.account
  | _ => none

end Call

/-- The committed rows and the calls. -/
structure System where
  organizations : List Organization
  users : List Account
  calls : List Call

inductive Label
  | begin (provider : String) (reply : Reply) (d : Draws)
  | lookup (i : ℕ)
  | insertOrg (i : ℕ)
  | insertUser (i : ℕ)
  | commit (i : ℕ)
  /-- The transaction breaks off: a lost connection, a deadlock. -/
  | abort (i : ℕ)

/-- The rows differ in every unique column. -/
def Apart (o o' : Organization) : Prop :=
  o.id ≠ o'.id ∧ o.slug ≠ o'.slug

def ApartUser (u u' : Account) : Prop :=
  u.id ≠ u'.id ∧ u.email ≠ u'.email

instance (o o' : Organization) : Decidable (Apart o o') :=
  inferInstanceAs (Decidable (_ ∧ _))

instance (u u' : Account) : Decidable (ApartUser u u') :=
  inferInstanceAs (Decidable (_ ∧ _))

namespace System

def ofAccounts (a : Accounts) : System where
  organizations := a.organizations
  users := a.users
  calls := []

variable (s : System)

def findByEmail (email : String) : Option Account :=
  s.users.find? fun u => u.email = email

def pendingOrgs : List Organization :=
  s.calls.filterMap Call.pendingOrg

def pendingUsers : List Account :=
  s.calls.filterMap Call.pendingUser

/-- The piece of the call at index `i` that is next, as `next` gives it. -/
def onCall (i : ℕ) (next : Call → Option System) : Option System :=
  s.calls[i]?.bind next

def move (i : ℕ) (c : Call) (pc : Pc) : System :=
  { s with calls := s.calls.set i { c with pc := pc } }

end System

variable (rt : Runtime Claims)

/-- The address that `exchange` looks up. -/
def identify (provider : String) (reply : Reply) : Except Routes.Failure String :=
  match resolveEmail rt provider reply with
  | .error f => .error f
  | .ok email =>
      if truthy rt.isZero email = false then
        .error (.domain (.invalidApiKey "OAuth token has no associated email"))
      else
        match email with
        | .str e => .ok e
        | _ => .error .other

def begin (provider : String) (reply : Reply) (d : Draws) : Call :=
  match identify rt provider reply with
  | .error f => { draws := d, email := "", pc := .failed f }
  | .ok e => { draws := d, email := e, pc := .looking }

def step (s : System) : Label → Option System
  | .begin provider reply d => some { s with calls := s.calls ++ [begin rt provider reply d] }
  | .lookup i => s.onCall i fun c =>
      match c.pc with
      | .looking =>
          match s.findByEmail c.email with
          | some user => some (s.move i c (.committing user false))
          | none => some (s.move i c .addingOrg)
      | _ => none
  | .insertOrg i => s.onCall i fun c =>
      match c.pc with
      | .addingOrg =>
          if (c.organization.name.length ≤ 200 ∧ c.organization.slug.length ≤ 100) ∧
              ∀ o ∈ s.organizations, Apart o c.organization then
            if ∀ o ∈ s.pendingOrgs, Apart o c.organization then some (s.move i c .addingUser)
            else none
          else
            some (s.move i c (.failed .other))
      | _ => none
  | .insertUser i => s.onCall i fun c =>
      match c.pc with
      | .addingUser =>
          if c.email.length ≤ 320 ∧ ∀ u ∈ s.users, ApartUser u c.account then
            if ∀ u ∈ s.pendingUsers, ApartUser u c.account then
              some (s.move i c (.committing c.account true))
            else none
          else
            some (s.move i c (.failed .other))
      | _ => none
  | .commit i => s.onCall i fun c =>
      match c.pc with
      | .committing user false => some (s.move i c (.returned (issue rt c.draws user)))
      | .committing user true =>
          some
            { s.move i c (.returned (issue rt c.draws user)) with
              organizations := c.organization :: s.organizations
              users := c.account :: s.users }
      | _ => none
  | .abort i => s.onCall i fun c =>
      match c.pc with
      | .returned _ | .failed _ => none
      | _ => some (s.move i c (.failed .other))

/-! ## What a step can do -/

variable {rt}

/-- The moves of one call, with the committed rows that they leave. -/
inductive Moves (rt : Runtime Claims) (s : System) (c : Call) :
    Pc → List Organization → List Account → Prop
  | found {user : Account} : c.pc = .looking → s.findByEmail c.email = some user →
      Moves rt s c (.committing user false) s.organizations s.users
  | missed : c.pc = .looking → s.findByEmail c.email = none →
      Moves rt s c .addingOrg s.organizations s.users
  | addedOrg : c.pc = .addingOrg → (∀ o ∈ s.organizations, Apart o c.organization) →
      (∀ o ∈ s.pendingOrgs, Apart o c.organization) →
      Moves rt s c .addingUser s.organizations s.users
  | addedUser : c.pc = .addingUser → (∀ u ∈ s.users, ApartUser u c.account) →
      (∀ u ∈ s.pendingUsers, ApartUser u c.account) →
      Moves rt s c (.committing c.account true) s.organizations s.users
  | read {user : Account} : c.pc = .committing user false →
      Moves rt s c (.returned (issue rt c.draws user)) s.organizations s.users
  | committed {user : Account} : c.pc = .committing user true →
      Moves rt s c (.returned (issue rt c.draws user)) (c.organization :: s.organizations)
        (c.account :: s.users)
  | failed {f : Routes.Failure} : (∀ jwt, c.pc ≠ .returned jwt) →
      Moves rt s c (.failed f) s.organizations s.users

/-- What the step of a label leaves. -/
inductive Effect (rt : Runtime Claims) (s : System) : System → Prop
  | begin (provider : String) (reply : Reply) (d : Draws) :
      Effect rt s { s with calls := s.calls ++ [begin rt provider reply d] }
  | move {i : ℕ} {c : Call} {pc : Pc} {organizations : List Organization}
      {users : List Account} : s.calls[i]? = some c → Moves rt s c pc organizations users →
      Effect rt s
        { organizations := organizations
          users := users
          calls := s.calls.set i { c with pc := pc } }

theorem effect_of_step {s s' : System} {l : Label} (h : step rt s l = some s') :
    Effect rt s s' := by
  cases l with
  | begin provider reply d =>
      cases h
      exact .begin provider reply d
  | lookup i =>
      rcases Option.bind_eq_some_iff.1 h with ⟨c, hc, h⟩
      cases hpc : c.pc with
      | looking =>
          cases hfind : s.findByEmail c.email with
          | some user =>
              simp only [hpc, hfind] at h
              cases h
              exact .move hc (.found hpc hfind)
          | none =>
              simp only [hpc, hfind] at h
              cases h
              exact .move hc (.missed hpc hfind)
      | _ => simp [hpc] at h
  | insertOrg i =>
      rcases Option.bind_eq_some_iff.1 h with ⟨c, hc, h⟩
      cases hpc : c.pc with
      | addingOrg =>
          simp only [hpc] at h
          split at h
          · rename_i hfree
            split at h
            · rename_i hpending
              cases h
              exact .move hc (.addedOrg hpc hfree.2 hpending)
            · cases h
          · cases h
            exact .move hc (.failed (by simp [hpc]))
      | _ => simp [hpc] at h
  | insertUser i =>
      rcases Option.bind_eq_some_iff.1 h with ⟨c, hc, h⟩
      cases hpc : c.pc with
      | addingUser =>
          simp only [hpc] at h
          split at h
          · rename_i hfree
            split at h
            · rename_i hpending
              cases h
              exact .move hc (.addedUser hpc hfree.2 hpending)
            · cases h
          · cases h
            exact .move hc (.failed (by simp [hpc]))
      | _ => simp [hpc] at h
  | commit i =>
      rcases Option.bind_eq_some_iff.1 h with ⟨c, hc, h⟩
      cases hpc : c.pc with
      | committing user created =>
          cases created with
          | false =>
              simp only [hpc] at h
              cases h
              exact .move hc (.read hpc)
          | true =>
              simp only [hpc] at h
              cases h
              exact .move hc (.committed hpc)
      | _ => simp [hpc] at h
  | abort i =>
      rcases Option.bind_eq_some_iff.1 h with ⟨c, hc, h⟩
      cases hpc : c.pc with
      | returned jwt => simp [hpc] at h
      | failed f => simp [hpc] at h
      | _ =>
          simp only [hpc] at h
          cases h
          exact .move hc (.failed (by simp [hpc]))

/-! ## The invariant -/

instance : Std.Symm Apart :=
  ⟨fun _ _ h => ⟨h.1.symm, h.2.symm⟩⟩

instance : Std.Symm ApartUser :=
  ⟨fun _ _ h => ⟨h.1.symm, h.2.symm⟩⟩

/-- What a call has in its hands is what is, or may be, committed. -/
def Call.Holds (rt : Runtime Claims) (users : List Account) (c : Call) : Prop :=
  match c.pc with
  | .committing user false => user ∈ users ∧ user.email = c.email
  | .committing user true => user = c.account
  | .returned jwt => ∃ user ∈ users, user.email = c.email ∧ jwt = issue rt c.draws user
  | _ => True

/-- The call at some index has returned, and satisfies `P`. -/
def Returned (calls : List Call) (P : Call → Prop) : Prop :=
  ∃ (i : ℕ) (c : Call) (jwt : IssuedBackendJwt),
    calls[i]? = some c ∧ c.pc = .returned jwt ∧ P c

structure Inv (rt : Runtime Claims) (start : Accounts) (s : System) : Prop where
  orgsApart : PairwiseHeld Apart Call.pendingOrg s.organizations s.calls
  usersApart : PairwiseHeld ApartUser Call.pendingUser s.users s.calls
  populated : ∀ o ∈ s.organizations, o ∈ start.organizations ∨ ∃ u ∈ s.users, u.orgId = o.id
  calls : AllAt (fun _ c => c.Holds rt s.users) s.calls
  newOrgs : ∀ o ∈ s.organizations,
    o ∈ start.organizations ∨ Returned s.calls fun c => o = c.organization
  newUsers : ∀ u ∈ s.users, u ∈ start.users ∨ Returned s.calls fun c => u = c.account

theorem inv_start (start : Accounts) : Inv rt start (System.ofAccounts start) where
  orgsApart := by
    have hids := List.pairwise_map.1 start.orgIds_nodup
    rw [PairwiseHeld, System.ofAccounts, List.filterMap_nil, List.append_nil]
    exact hids.and (List.pairwise_map.1 start.slugs_nodup)
  usersApart := by
    have hids := List.pairwise_map.1 start.userIds_nodup
    rw [PairwiseHeld, System.ofAccounts, List.filterMap_nil, List.append_nil]
    exact hids.and (List.pairwise_map.1 start.emails_nodup)
  populated := fun o ho => .inl ho
  calls := by simp [AllAt, System.ofAccounts]
  newOrgs := fun o ho => .inl ho
  newUsers := fun u hu => .inl hu

theorem Call.Holds.mono {users users' : List Account} {c : Call} (h : c.Holds rt users)
    (hsub : users ⊆ users') : c.Holds rt users' := by
  unfold Call.Holds at h ⊢
  split at h
  · exact ⟨hsub h.1, h.2⟩
  · exact h
  · rcases h with ⟨user, huser, h⟩
    exact ⟨user, hsub huser, h⟩
  · trivial

section Moves

variable {s : System} {i : ℕ} {c : Call} {pc : Pc} {organizations : List Organization}
  {users : List Account}

/-- A call that has returned stays as it is. -/
theorem Returned.move {P : Call → Prop} (h : Returned s.calls P) (hc : s.calls[i]? = some c)
    (hm : Moves rt s c pc organizations users) :
    Returned (s.calls.set i { c with pc := pc }) P := by
  rcases h with ⟨j, c', jwt, hj, hpc, hP⟩
  have hij : i ≠ j := by
    rintro rfl
    rw [hc, Option.some.injEq] at hj
    subst hj
    cases hm <;> simp_all
  exact ⟨j, c', jwt, by rw [List.getElem?_set_ne hij, hj], hpc, hP⟩

theorem Moves.users_subset (hm : Moves rt s c pc organizations users) : s.users ⊆ users := by
  cases hm with
  | committed _ => exact List.subset_cons_self _ _
  | _ => exact List.Subset.refl _

/-- Only a commit of new rows changes the tables. -/
theorem Moves.rows (hm : Moves rt s c pc organizations users) :
    (organizations = s.organizations ∧ users = s.users) ∨
      organizations = c.organization :: s.organizations ∧ users = c.account :: s.users ∧
        ∃ jwt, pc = .returned jwt := by
  cases hm with
  | committed _ => exact .inr ⟨rfl, rfl, _, rfl⟩
  | _ => exact .inl ⟨rfl, rfl⟩

theorem Moves.orgsApart (hm : Moves rt s c pc organizations users)
    (hs : PairwiseHeld Apart Call.pendingOrg s.organizations s.calls)
    (hc : s.calls[i]? = some c) :
    PairwiseHeld Apart Call.pendingOrg organizations (s.calls.set i { c with pc := pc }) := by
  cases hm with
  | addedOrg hpc hfree hpending =>
      exact hs.hold hc (by simp [Call.pendingOrg, hpc]) rfl hfree hpending
  | addedUser hpc _ _ => exact hs.of_eq hc (by simp [Call.pendingOrg, hpc]; rfl)
  | committed hpc => exact hs.release hc (by simp [Call.pendingOrg, hpc]) rfl
  | _ => exact hs.drop hc rfl

theorem Moves.usersApart (hm : Moves rt s c pc organizations users)
    (hs : PairwiseHeld ApartUser Call.pendingUser s.users s.calls)
    (hc : s.calls[i]? = some c) :
    PairwiseHeld ApartUser Call.pendingUser users (s.calls.set i { c with pc := pc }) := by
  cases hm with
  | addedUser hpc hfree hpending =>
      exact hs.hold hc (by simp [Call.pendingUser, hpc]) rfl hfree hpending
  | committed hpc => exact hs.release hc (by simp [Call.pendingUser, hpc]) rfl
  | _ => exact hs.drop hc rfl

/-- What the call has in its hands afterwards. -/
theorem Moves.holds (hm : Moves rt s c pc organizations users) (hc : c.Holds rt s.users) :
    Call.Holds rt users { c with pc := pc } := by
  cases hm with
  | found hpc hfind => exact ⟨List.mem_of_find?_eq_some hfind, by simpa using List.find?_some hfind⟩
  | addedUser _ _ _ => rfl
  | @read user hpc =>
      simp only [Call.Holds, hpc] at hc
      exact ⟨user, hc.1, hc.2, rfl⟩
  | @committed user hpc =>
      simp only [Call.Holds, hpc] at hc
      subst hc
      exact ⟨c.account, List.mem_cons_self, rfl, rfl⟩
  | _ => trivial

end Moves

theorem Returned.concat {calls : List Call} {P : Call → Prop} (h : Returned calls P) (c : Call) :
    Returned (calls ++ [c]) P := by
  rcases h with ⟨i, c', jwt, hi, hpc, hP⟩
  have hlt : i < calls.length := (List.getElem?_eq_some_iff.1 hi).1
  exact ⟨i, c', jwt, by rw [List.getElem?_append_left hlt, hi], hpc, hP⟩

/-- A call that begins has touched nothing. -/
theorem pc_begin (rt : Runtime Claims) (provider : String) (reply : Reply) (d : Draws) :
    (begin rt provider reply d).pc = .looking ∨
      ∃ f, (begin rt provider reply d).pc = .failed f := by
  unfold begin
  split
  · exact .inr ⟨_, rfl⟩
  · exact .inl rfl

theorem inv_of_step {start : Accounts} {s s' : System} {l : Label} (hs : Inv rt start s)
    (h : step rt s l = some s') : Inv rt start s' := by
  cases effect_of_step h with
  | begin provider reply d =>
      have hidle : (begin rt provider reply d).pendingOrg = none ∧
          (begin rt provider reply d).pendingUser = none ∧
          (begin rt provider reply d).Holds rt s.users := by
        rcases pc_begin rt provider reply d with hpc | ⟨f, hpc⟩ <;>
          simp [Call.pendingOrg, Call.pendingUser, Call.Holds, hpc]
      exact
        { orgsApart := by simpa [PairwiseHeld, hidle.1] using hs.orgsApart
          usersApart := by simpa [PairwiseHeld, hidle.2.1] using hs.usersApart
          populated := hs.populated
          calls := hs.calls.concat hidle.2.2
          newOrgs := fun o ho => (hs.newOrgs o ho).imp_right fun h => h.concat _
          newUsers := fun u hu => (hs.newUsers u hu).imp_right fun h => h.concat _ }
  | @move i c pc organizations users hc hm =>
      -- Users only come to the table, so what the other calls hold is still there.
      have hothers : AllAt (fun _ c' => c'.Holds rt users) s.calls :=
        hs.calls.mono fun _ _ h => h.mono hm.users_subset
      have hhere := hm.holds (hs.calls i c hc)
      have hlt : i < s.calls.length := (List.getElem?_eq_some_iff.1 hc).1
      have hnewOrgs : ∀ o ∈ s.organizations, o ∈ start.organizations ∨
          Returned (s.calls.set i { c with pc := pc }) fun c => o = c.organization :=
        fun o ho => (hs.newOrgs o ho).imp_right fun h => h.move hc hm
      have hnewUsers : ∀ u ∈ s.users, u ∈ start.users ∨
          Returned (s.calls.set i { c with pc := pc }) fun c => u = c.account :=
        fun u hu => (hs.newUsers u hu).imp_right fun h => h.move hc hm
      refine
        { orgsApart := hm.orgsApart hs.orgsApart hc
          usersApart := hm.usersApart hs.usersApart hc
          populated := ?_
          calls := hothers.set hhere
          newOrgs := ?_
          newUsers := ?_ }
      -- A move commits nothing, or both rows of the call at once.
      all_goals rcases hm.rows with ⟨rfl, rfl⟩ | ⟨rfl, rfl, jwt, rfl⟩
      · exact hs.populated
      · intro o ho
        rcases List.mem_cons.1 ho with rfl | ho
        · exact .inr ⟨c.account, List.mem_cons_self, rfl⟩
        · refine (hs.populated o ho).imp_right ?_
          rintro ⟨u, hu, horg⟩
          exact ⟨u, List.mem_cons_of_mem _ hu, horg⟩
      · exact hnewOrgs
      · intro o ho
        rcases List.mem_cons.1 ho with rfl | ho
        · exact .inr ⟨i, _, jwt, List.getElem?_set_self hlt, rfl, rfl⟩
        · exact hnewOrgs o ho
      · exact hnewUsers
      · intro u hu
        rcases List.mem_cons.1 hu with rfl | hu
        · exact .inr ⟨i, _, jwt, List.getElem?_set_self hlt, rfl, rfl⟩
        · exact hnewUsers u hu

/-! ## Every interleaving -/

/-- What is promised of the committed rows and of the answers. -/
structure Sound (start : Accounts) (s : System) : Prop where
  emails : (s.users.map Account.email).Nodup
  populated : ∀ o ∈ s.organizations, o ∈ start.organizations ∨ ∃ u ∈ s.users, u.orgId = o.id
  /-- Two calls for one address that succeed return one user. -/
  agree : ∀ (i j : ℕ) (c c' : Call) (jwt jwt' : IssuedBackendJwt), s.calls[i]? = some c →
    s.calls[j]? = some c' → c.email = c'.email → c.pc = .returned jwt → c'.pc = .returned jwt' →
    jwt.userId = jwt'.userId ∧ jwt.orgId = jwt'.orgId
  /-- A call that succeeds names the committed row of its address. -/
  named : ∀ (i : ℕ) (c : Call) (jwt : IssuedBackendJwt), s.calls[i]? = some c →
    c.pc = .returned jwt → ∃ user ∈ s.users, user.email = c.email ∧
      jwt.userId = user.id ∧ jwt.orgId = user.orgId ∧ jwt.role = user.role.value
  /-- A row that was not there is that of a call that has succeeded. -/
  newOrgs : ∀ o ∈ s.organizations,
    o ∈ start.organizations ∨ Returned s.calls fun c => o = c.organization
  newUsers : ∀ u ∈ s.users, u ∈ start.users ∨ Returned s.calls fun c => u = c.account

theorem sound_of_run (rt : Runtime Claims) (start : Accounts) (labels : List Label) (s : System)
    (h : exec (step rt) (System.ofAccounts start) labels = some s) : Sound start s := by
  have hinv : Inv rt start s :=
    exec_invariant (fun _ _ _ hs hstep => inv_of_step hs hstep) (inv_start start) h
  have hcommitted : s.users.Pairwise ApartUser :=
    hinv.usersApart.sublist (List.sublist_append_left _ _)
  have hemails : (s.users.map Account.email).Nodup :=
    List.pairwise_map.2 (hcommitted.imp fun h => h.2)
  have hnamed : ∀ (i : ℕ) (c : Call) (jwt : IssuedBackendJwt), s.calls[i]? = some c →
      c.pc = .returned jwt → ∃ user ∈ s.users, user.email = c.email ∧
        jwt.userId = user.id ∧ jwt.orgId = user.orgId ∧ jwt.role = user.role.value := by
    intro i c jwt hc hpc
    have hholds := hinv.calls i c hc
    simp only [Call.Holds, hpc] at hholds
    rcases hholds with ⟨user, huser, hemail, rfl⟩
    exact ⟨user, huser, hemail, rfl, rfl, rfl⟩
  refine
    { emails := hemails
      populated := hinv.populated
      agree := ?_
      named := hnamed
      newOrgs := hinv.newOrgs
      newUsers := hinv.newUsers }
  intro i j c c' jwt jwt' hc hc' hemail hpc hpc'
  rcases hnamed i c jwt hc hpc with ⟨u, hu, hue, hid, horg, -⟩
  rcases hnamed j c' jwt' hc' hpc' with ⟨u', hu', hue', hid', horg', -⟩
  -- The address has one committed row.
  have hsame : u = u' :=
    List.inj_on_of_nodup_map hemails hu hu' (hue.trans (hemail.trans hue'.symm))
  subst hsame
  exact ⟨hid.trans hid'.symm, horg.trans horg'.symm⟩

/-- Two first sign-ins for one address: the slower call meets the committed row. -/
theorem sound_of_race :
    ∃ (rt : Runtime Claims) (start : Accounts) (reply : Reply) (d d' : Draws) (s : System),
      exec (step rt) (System.ofAccounts start)
        [.begin "google" reply d, .begin "google" reply d', .lookup 0, .lookup 1, .insertOrg 0,
          .insertOrg 1, .insertUser 0, .commit 0, .insertUser 1] = some s ∧
        s.users.map Account.email = ["ada@example.com"] ∧ s.organizations.length = 1 ∧
        s.calls.map (fun c => c.pc matches .failed .other) = [false, true] ∧ Sound start s := by
  let rt : Runtime Claims :=
    { isZero := fun _ => false
      encodeJwt := fun c => c.role }
  let start : Accounts :=
    { organizations := []
      users := []
      orgIds_nodup := List.nodup_nil
      slugs_nodup := List.nodup_nil
      userIds_nodup := List.nodup_nil
      emails_nodup := List.nodup_nil }
  let reply : Reply :=
    { status := 200
      json := some (.obj [("email", .str "ada@example.com"), ("verified_email", .bool true)]) }
  let d : Draws := { now := 0, orgId := 0, slug := "org-1", userId := 0 }
  let d' : Draws := { now := 0, orgId := 1, slug := "org-2", userId := 1 }
  let labels : List Label :=
    [.begin "google" reply d, .begin "google" reply d', .lookup 0, .lookup 1, .insertOrg 0,
      .insertOrg 1, .insertUser 0, .commit 0, .insertUser 1]
  have hends : (exec (step rt) (System.ofAccounts start) labels).map (fun s =>
      (s.users.map Account.email, s.organizations.length,
        s.calls.map (fun c => c.pc matches .failed .other))) =
      some (["ada@example.com"], 1, [false, true]) := by
    decide +kernel
  rcases Option.map_eq_some_iff.1 hends with ⟨s, hs, heq⟩
  simp only [Prod.mk.injEq] at heq
  exact ⟨rt, start, reply, d, d', s, hs, heq.1, heq.2.1, heq.2.2, sound_of_run rt start labels s hs⟩

/-! ## A call by itself -/

/-- What is identified is what `exchange` looks up; everything else breaks off. -/
theorem exchange_of_identify_error {provider : String} {reply : Reply} {d : Draws} {a : Accounts}
    {f : Routes.Failure} (h : identify rt provider reply = .error f) :
    exchange rt provider reply d a = { outcome := .error f, accounts := a, consulted := [] } := by
  cases hresolve : resolveEmail rt provider reply with
  | error g =>
      simp only [identify, hresolve] at h
      cases h
      exact exchange_of_error hresolve
  | ok v =>
      cases hv : truthy rt.isZero v with
      | false =>
          simp only [identify, hresolve, hv, if_true] at h
          cases h
          exact exchange_of_falsy hresolve hv
      | true =>
          by_cases hodd : ∃ e, v = .str e
          · rcases hodd with ⟨e, rfl⟩
            simp [identify, hresolve, hv] at h
          · have hnot : ∀ e, v ≠ .str e := fun e heq => hodd ⟨e, heq⟩
            rw [exchange_of_odd hresolve hv hnot]
            cases v with
            | str e => exact absurd rfl (hnot e)
            | _ =>
                simp only [identify, hresolve, hv, Bool.true_eq_false, if_false] at h
                cases h
                rfl

theorem exchange_of_identify {provider : String} {reply : Reply} {d : Draws} {a : Accounts}
    {e : String} (h : identify rt provider reply = .ok e) :
    exchange rt provider reply d a =
      match a.findByEmail e with
      | some user => { outcome := .ok (issue rt d user), accounts := a, consulted := [e] }
      | none =>
          match a.provision d e with
          | some a' =>
              { outcome := .ok (issue rt d (newAccount d e)), accounts := a', consulted := [e] }
          | none => { outcome := .error .other, accounts := a, consulted := [e] } := by
  cases hresolve : resolveEmail rt provider reply with
  | error g => simp [identify, hresolve] at h
  | ok v =>
      cases hv : truthy rt.isZero v with
      | false => simp [identify, hresolve, hv] at h
      | true =>
          cases v with
          | str e' =>
              simp only [identify, hresolve, hv, Bool.true_eq_false, if_false] at h
              cases h
              cases hfind : a.findByEmail e with
              | some user =>
                  simp only [exchange, hresolve, hv, hfind, Bool.true_eq_false, if_false]
              | none =>
                  cases hprovision : a.provision d e <;>
                    simp only [exchange, hresolve, hv, hfind, hprovision, Bool.true_eq_false,
                      if_false]
          | _ => simp [identify, hresolve, hv] at h

/-- How a call has ended. -/
def Call.outcome (c : Call) : Option (Except Routes.Failure IssuedBackendJwt) :=
  match c.pc with
  | .returned jwt => some (.ok jwt)
  | .failed f => some (.error f)
  | _ => none

/-- The system with one call. -/
def alone (a : Accounts) (d : Draws) (e : String) (pc : Pc) : System :=
  { System.ofAccounts a with calls := [{ draws := d, email := e, pc := pc }] }

section Alone

variable {a : Accounts} {d : Draws} {e : String}

/-- The organisation of `_provision_user` can be inserted. -/
def OrgFits (a : Accounts) (d : Draws) (e : String) : Prop :=
  ((newOrganization d e).name.length ≤ 200 ∧ (newOrganization d e).slug.length ≤ 100) ∧
    ∀ o ∈ a.organizations, Apart o (newOrganization d e)

def UserFits (a : Accounts) (d : Draws) (e : String) : Prop :=
  e.length ≤ 320 ∧ ∀ u ∈ a.users, ApartUser u (newAccount d e)

theorem provision_of_fits (horg : OrgFits a d e) (huser : UserFits a d e) :
    ∃ a', a.provision d e = some a' ∧ a'.organizations = newOrganization d e :: a.organizations ∧
      a'.users = newAccount d e :: a.users := by
  have h : ((newOrganization d e).name.length ≤ 200 ∧ (newOrganization d e).slug.length ≤ 100 ∧
      e.length ≤ 320) ∧ (∀ o ∈ a.organizations, o.id ≠ (newOrganization d e).id) ∧
      (∀ o ∈ a.organizations, o.slug ≠ (newOrganization d e).slug) ∧
      (∀ u ∈ a.users, u.id ≠ (newAccount d e).id) ∧
      ∀ u ∈ a.users, u.email ≠ (newAccount d e).email :=
    ⟨⟨horg.1.1, horg.1.2, huser.1⟩, fun o ho => (horg.2 o ho).1, fun o ho => (horg.2 o ho).2,
      fun u hu => (huser.2 u hu).1, fun u hu => (huser.2 u hu).2⟩
  exact ⟨_, dif_pos h, rfl, rfl⟩

theorem provision_of_not_fits (h : ¬ (OrgFits a d e ∧ UserFits a d e)) :
    a.provision d e = none := by
  refine dif_neg ?_
  rintro ⟨⟨hname, hslug, hemail⟩, hids, hslugs, huserIds, hemails⟩
  exact h ⟨⟨⟨hname, hslug⟩, fun o ho => ⟨hids o ho, hslugs o ho⟩⟩, hemail,
    fun u hu => ⟨huserIds u hu, hemails u hu⟩⟩

theorem lookup_alone :
    step rt (alone a d e .looking) (.lookup 0) =
      match a.findByEmail e with
      | some user => some (alone a d e (.committing user false))
      | none => some (alone a d e .addingOrg) := rfl

theorem insertOrg_alone :
    step rt (alone a d e .addingOrg) (.insertOrg 0) =
      if ((newOrganization d e).name.length ≤ 200 ∧ (newOrganization d e).slug.length ≤ 100) ∧
          ∀ o ∈ a.organizations, Apart o (newOrganization d e) then
        some (alone a d e .addingUser)
      else some (alone a d e (.failed .other)) := by
  have hc : (alone a d e .addingOrg).calls[0]? =
      some { draws := d, email := e, pc := .addingOrg } := rfl
  have hpending : ∀ o ∈ (alone a d e .addingOrg).pendingOrgs,
      Apart o (Call.organization { draws := d, email := e, pc := .addingOrg }) := by
    simp [System.pendingOrgs, alone, Call.pendingOrg]
  simp only [step, System.onCall, hc, Option.bind_some]
  rw [if_pos hpending]
  rfl

theorem insertUser_alone :
    step rt (alone a d e .addingUser) (.insertUser 0) =
      if e.length ≤ 320 ∧ ∀ u ∈ a.users, ApartUser u (newAccount d e) then
        some (alone a d e (.committing (newAccount d e) true))
      else some (alone a d e (.failed .other)) := by
  have hc : (alone a d e .addingUser).calls[0]? =
      some { draws := d, email := e, pc := .addingUser } := rfl
  have hpending : ∀ u ∈ (alone a d e .addingUser).pendingUsers,
      ApartUser u (Call.account { draws := d, email := e, pc := .addingUser }) := by
    simp [System.pendingUsers, alone, Call.pendingUser]
  simp only [step, System.onCall, hc, Option.bind_some]
  rw [if_pos hpending]
  rfl

end Alone

/-- Without others, a call takes the steps of `exchange`. -/
theorem exec_solo (rt : Runtime Claims) (provider : String) (reply : Reply) (d : Draws)
    (a : Accounts) :
    ∃ labels s c, exec (step rt) (System.ofAccounts a) labels = some s ∧ s.calls = [c] ∧
      c.outcome = some (exchange rt provider reply d a).outcome ∧
      s.organizations = (exchange rt provider reply d a).accounts.organizations ∧
      s.users = (exchange rt provider reply d a).accounts.users := by
  cases hidentify : identify rt provider reply with
  | error f =>
      have hbegin : begin rt provider reply d = { draws := d, email := "", pc := .failed f } := by
        simp [begin, hidentify]
      rw [exchange_of_identify_error hidentify]
      exact ⟨[.begin provider reply d], _, _, rfl, rfl, by simp [hbegin, Call.outcome], rfl, rfl⟩
  | ok e =>
      have hbegin : step rt (System.ofAccounts a) (.begin provider reply d) =
          some (alone a d e .looking) := by
        simp [step, begin, hidentify, alone, System.ofAccounts]
      rw [exchange_of_identify hidentify]
      cases hfind : a.findByEmail e with
      | some user =>
          have hlookup : step rt (alone a d e .looking) (.lookup 0) =
              some (alone a d e (.committing user false)) := by
            rw [lookup_alone, hfind]
          refine ⟨[.begin provider reply d, .lookup 0, .commit 0],
            alone a d e (.returned (issue rt d user)), _, ?_, rfl, rfl, rfl, rfl⟩
          simp only [exec, hbegin, hlookup, Option.bind_some]
          rfl
      | none =>
          have hlookup : step rt (alone a d e .looking) (.lookup 0) =
              some (alone a d e .addingOrg) := by
            rw [lookup_alone, hfind]
          -- Both inserts, the first alone, or neither: the call fails at the one that does not fit.
          by_cases horg : OrgFits a d e
          · have hinsertOrg : step rt (alone a d e .addingOrg) (.insertOrg 0) =
                some (alone a d e .addingUser) := insertOrg_alone.trans (if_pos horg)
            by_cases huser : UserFits a d e
            · have hinsertUser : step rt (alone a d e .addingUser) (.insertUser 0) =
                  some (alone a d e (.committing (newAccount d e) true)) :=
                insertUser_alone.trans (if_pos huser)
              rcases provision_of_fits horg huser with ⟨a', ha', horgs, husers⟩
              refine ⟨[.begin provider reply d, .lookup 0, .insertOrg 0, .insertUser 0, .commit 0],
                { alone a d e (.returned (issue rt d (newAccount d e))) with
                  organizations := a'.organizations
                  users := a'.users }, _, ?_, rfl, ?_, ?_, ?_⟩
              · simp only [exec, hbegin, hlookup, hinsertOrg, hinsertUser, Option.bind_some,
                  horgs, husers]
                rfl
              all_goals rw [ha']
              rfl
            · have hinsertUser : step rt (alone a d e .addingUser) (.insertUser 0) =
                  some (alone a d e (.failed .other)) := insertUser_alone.trans (if_neg huser)
              rw [provision_of_not_fits fun h => huser h.2]
              refine ⟨[.begin provider reply d, .lookup 0, .insertOrg 0, .insertUser 0],
                alone a d e (.failed .other), _, ?_, rfl, rfl, rfl, rfl⟩
              simp only [exec, hbegin, hlookup, hinsertOrg, hinsertUser, Option.bind_some]
          · have hinsertOrg : step rt (alone a d e .addingOrg) (.insertOrg 0) =
                some (alone a d e (.failed .other)) := insertOrg_alone.trans (if_neg horg)
            rw [provision_of_not_fits fun h => horg h.1]
            refine ⟨[.begin provider reply d, .lookup 0, .insertOrg 0],
              alone a d e (.failed .other), _, ?_, rfl, rfl, rfl, rfl⟩
            simp only [exec, hbegin, hlookup, hinsertOrg, Option.bind_some]

end Provisioning
end Backend
end OpenRouter
