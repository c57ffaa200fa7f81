import OpenRouter.Base.Json
import OpenRouter.Backend.Routes

/-!
# OAuth — `OAuthService.exchange`

A provider's access token against a backend JWT: the reply of the provider's userinfo endpoint
names an email address, and the user with that address is found or provisioned.  `lawful_iff` says
for which replies the exchange trusts only what the provider has verified.
-/

namespace OpenRouter
namespace Backend
namespace OAuth

open Base

/-! ## Replies -/

/-- An answer of the userinfo endpoint; `json` is what `resp.json()` makes of the body, `none` its
error. -/
structure Reply where
  status : ℕ
  json : Option Json

/-- What the process has besides the reply: whether Python reads a number as zero, and the JWT of
some claims. -/
structure Runtime (Claims : Type) where
  isZero : Number → Bool
  encodeJwt : Claims → String

/-- `dict.get`; the last member of a name counts, and a missing one is `None`, as `null` is. -/
def pyGet (key : String) (ms : List (String × Json)) : Json :=
  ((ms.reverse.find? fun m => m.1 == key).map Prod.snd).getD .null

/-- `bool(v)`. -/
def truthy (isZero : Number → Bool) : Json → Bool
  | .null => false
  | .bool b => b
  | .num n => !isZero n
  | .str s => s != ""
  | .arr xs => !xs.isEmpty
  | .obj ms => !ms.isEmpty

/-! ## Users and organisations -/

structure Organization where
  id : UUID
  name : String
  slug : String

structure Account extends User where
  email : String

structure Accounts where
  organizations : List Organization
  users : List Account
  orgIds_nodup : (organizations.map Organization.id).Nodup
  slugs_nodup : (organizations.map Organization.slug).Nodup
  userIds_nodup : (users.map fun u => u.id).Nodup
  emails_nodup : (users.map Account.email).Nodup

/-- `find_by_email`; the column is unique. -/
def Accounts.findByEmail (a : Accounts) (email : String) : Option Account :=
  a.users.find? fun u => u.email = email

/-- What is drawn for a new user, and the clock. -/
structure Draws where
  now : ℤ
  orgId : UUID
  slug : String
  userId : UUID

/-- The rows of `_provision_user`. -/
def newOrganization (d : Draws) (email : String) : Organization where
  id := d.orgId
  name := String.ofList (email.toList.takeWhile (· ≠ '@')) ++ "'s workspace"
  slug := d.slug

def newAccount (d : Draws) (email : String) : Account where
  id := d.userId
  orgId := d.orgId
  role := .owner
  email := email

theorem nodup_map_cons {α β : Type} {f : α → β} {x : α} {l : List α} (h : ∀ y ∈ l, f y ≠ f x)
    (hl : (l.map f).Nodup) : ((x :: l).map f).Nodup := by
  rw [List.map_cons, List.nodup_cons]
  refine ⟨fun hmem => ?_, hl⟩
  rcases List.mem_map.1 hmem with ⟨y, hy, heq⟩
  exact h y hy heq

/-- `_provision_user`; `none` when a column of a row is too short or a unique one is violated. -/
def Accounts.provision (a : Accounts) (d : Draws) (email : String) : Option Accounts :=
  let org := newOrganization d email
  let user := newAccount d email
  if h : (org.name.length ≤ 200 ∧ org.slug.length ≤ 100 ∧ email.length ≤ 320) ∧
      (∀ o ∈ a.organizations, o.id ≠ org.id) ∧ (∀ o ∈ a.organizations, o.slug ≠ org.slug) ∧
      (∀ u ∈ a.users, u.id ≠ user.id) ∧ ∀ u ∈ a.users, u.email ≠ user.email then
    some
      { organizations := org :: a.organizations
        users := user :: a.users
        orgIds_nodup := nodup_map_cons h.2.1 a.orgIds_nodup
        slugs_nodup := nodup_map_cons h.2.2.1 a.slugs_nodup
        userIds_nodup := nodup_map_cons h.2.2.2.1 a.userIds_nodup
        emails_nodup := nodup_map_cons h.2.2.2.2 a.emails_nodup }
  else
    none

/-! ## The exchange -/

/-- The claims of the JWT, with `iat` and `exp`. -/
structure Claims where
  sub : UUID
  orgId : UUID
  role : String
  iat : ℤ
  exp : ℤ

structure IssuedBackendJwt where
  accessToken : String
  expiresInSeconds : ℕ
  userId : UUID
  orgId : UUID
  role : String

/-- An hour on the clock of the rows, in microseconds. -/
def defaultTtl : ℤ :=
  3600 * 1000000

/-- What an exchange comes to: its result, the rows it leaves, and the addresses it has looked
up. -/
structure Exchange where
  outcome : Except Routes.Failure IssuedBackendJwt
  accounts : Accounts
  consulted : List String

variable (rt : Runtime Claims)

def googleEmail (reply : Reply) : Except Routes.Failure Json :=
  if reply.status ≠ 200 then
    .error (.domain (.invalidApiKey ("Google userinfo failed: " ++ toString reply.status)))
  else
    match reply.json with
    | some (.obj ms) => .ok (pyGet "email" ms)
    | _ => .error .other

/-- The loop over the entries. -/
def scanEntries : List Json → Except Routes.Failure Json
  | [] => .ok .null
  | .obj ms :: rest =>
      if truthy rt.isZero (pyGet "primary" ms) && truthy rt.isZero (pyGet "verified" ms) then
        .ok (pyGet "email" ms)
      else scanEntries rest
  | _ :: _ => .error .other

def githubEmail (reply : Reply) : Except Routes.Failure Json :=
  if reply.status ≠ 200 then
    .error (.domain (.invalidApiKey ("GitHub emails failed: " ++ toString reply.status)))
  else
    match reply.json with
    | some (.arr entries) => scanEntries rt entries
    -- Python iterates over the characters of a text and the keys of a dict, which have no `get`.
    | some (.str s) => if s = "" then .ok .null else .error .other
    | some (.obj ms) => if ms = [] then .ok .null else .error .other
    | _ => .error .other

def resolveEmail (provider : String) (reply : Reply) : Except Routes.Failure Json :=
  if provider = "google" then googleEmail reply
  else if provider = "github" then githubEmail rt reply
  else .error (.domain (.invalidApiKey ("Unsupported provider: " ++ provider)))

def issue (d : Draws) (user : Account) : IssuedBackendJwt where
  accessToken := rt.encodeJwt
    { sub := user.id
      orgId := user.orgId
      role := user.role.value
      iat := d.now
      exp := d.now + defaultTtl }
  expiresInSeconds := 3600
  userId := user.id
  orgId := user.orgId
  role := user.role.value

/-- `exchange`, given what the provider answers. -/
def exchange (provider : String) (reply : Reply) (d : Draws) (a : Accounts) : Exchange :=
  match resolveEmail rt provider reply with
  | .error f => { outcome := .error f, accounts := a, consulted := [] }
  | .ok email =>
      if truthy rt.isZero email = false then
        { outcome := .error (.domain (.invalidApiKey "OAuth token has no associated email"))
          accounts := a
          consulted := [] }
      else
        match email with
        | .str e =>
            match a.findByEmail e with
            | some user => { outcome := .ok (issue rt d user), accounts := a, consulted := [e] }
            | none =>
                match a.provision d e with
                | some a' =>
                    { outcome := .ok (issue rt d (newAccount d e)), accounts := a',
                      consulted := [e] }
                | none => { outcome := .error .other, accounts := a, consulted := [e] }
        -- The driver takes nothing but a text for the column.
        | _ => { outcome := .error .other, accounts := a, consulted := [] }

/-! ## What is promised -/

/-- The provider marks the address as verified, and GitHub as the primary one; a flag is set when
Python takes it for true. -/
def Marks (provider : String) (reply : Reply) (e : String) : Prop :=
  reply.status = 200 ∧
    ((provider = "google" ∧ ∃ ms, reply.json = some (.obj ms) ∧ pyGet "email" ms = .str e ∧
        truthy rt.isZero (pyGet "verified_email" ms) = true) ∨
      (provider = "github" ∧ ∃ entries ms, reply.json = some (.arr entries) ∧ .obj ms ∈ entries ∧
        pyGet "email" ms = .str e ∧ truthy rt.isZero (pyGet "primary" ms) = true ∧
        truthy rt.isZero (pyGet "verified" ms) = true))

/-- A user with the address is looked up, provisioned or given a JWT. -/
def Exchange.Concerns (x : Exchange) (before : Accounts) (e : String) : Prop :=
  e ∈ x.consulted ∨ (∃ u ∈ x.accounts.users, u ∉ before.users ∧ u.email = e) ∨
    ∃ jwt, x.outcome = .ok jwt ∧ ∃ u ∈ x.accounts.users, u.id = jwt.userId ∧ u.email = e

/-- Only marked addresses are trusted; without one, a domain error is raised and nothing is
changed. -/
structure Lawful (provider : String) (reply : Reply) (before : Accounts) (x : Exchange) : Prop where
  marked : ∀ e, x.Concerns before e → Marks rt provider reply e
  refused : (∀ e, ¬Marks rt provider reply e) →
    (∃ err, x.outcome = .error (.domain err)) ∧ x.accounts = before

variable {rt : Runtime Claims} {provider : String} {reply : Reply} {d : Draws} {a : Accounts}

/-! ## What an exchange concerns -/

theorem exchange_of_error {f : Routes.Failure} (h : resolveEmail rt provider reply = .error f) :
    exchange rt provider reply d a = { outcome := .error f, accounts := a, consulted := [] } := by
  simp [exchange, h]

theorem exchange_of_falsy {v : Json} (h : resolveEmail rt provider reply = .ok v)
    (hv : truthy rt.isZero v = false) :
    exchange rt provider reply d a =
      { outcome := .error (.domain (.invalidApiKey "OAuth token has no associated email"))
        accounts := a
        consulted := [] } := by
  simp [exchange, h, hv]

/-- A truthy value that is no text breaks off in the driver. -/
theorem exchange_of_odd {v : Json} (h : resolveEmail rt provider reply = .ok v)
    (hv : truthy rt.isZero v = true) (hodd : ∀ e, v ≠ .str e) :
    exchange rt provider reply d a =
      { outcome := .error .other, accounts := a, consulted := [] } := by
  cases v with
  | str e => exact absurd rfl (hodd e)
  | null => simp [truthy] at hv
  | bool b => simp [exchange, h, hv]
  | num n => simp [exchange, h, hv]
  | arr xs => simp [exchange, h, hv]
  | obj ms => simp [exchange, h, hv]

/-- An exchange that breaks off before the lookup concerns nobody. -/
theorem not_concerns_of_untouched {err : Routes.Failure} {e : String} :
    ¬ Exchange.Concerns { outcome := .error err, accounts := a, consulted := [] } a e := by
  rintro (hconsulted | ⟨u, hu, hnew, -⟩ | ⟨jwt, hjwt, -⟩)
  · exact absurd hconsulted List.not_mem_nil
  · exact hnew hu
  · cases hjwt

theorem provision_users {e : String} {a' : Accounts} (h : a.provision d e = some a') :
    a'.users = newAccount d e :: a.users := by
  unfold Accounts.provision at h
  dsimp only at h
  split at h
  · cases h
    rfl
  · cases h

/-- A text is looked up, and the user found or added is the one with that address. -/
theorem concerns_iff_of_str {e : String} (h : resolveEmail rt provider reply = .ok (.str e))
    (he : e ≠ "") {e' : String} :
    (exchange rt provider reply d a).Concerns a e' ↔ e' = e := by
  have htruthy : truthy rt.isZero (.str e) = true := by simpa [truthy] using he
  -- The row of a user id is unique, so the JWT's user has the address that was looked up.
  cases hfind : a.findByEmail e with
  | some user =>
      have hx : exchange rt provider reply d a =
          { outcome := .ok (issue rt d user), accounts := a, consulted := [e] } := by
        simp [exchange, h, htruthy, hfind]
      have huser : user ∈ a.users := List.mem_of_find?_eq_some hfind
      have hemail : user.email = e := by simpa using List.find?_some hfind
      rw [hx]
      constructor
      · rintro (hconsulted | ⟨u, hu, hnew, -⟩ | ⟨jwt, hjwt, u, hu, hid, rfl⟩)
        · exact List.mem_singleton.1 hconsulted
        · exact absurd hu hnew
        · cases hjwt
          have hsame : u = user := List.inj_on_of_nodup_map a.userIds_nodup hu huser hid
          rw [hsame, hemail]
      · intro heq
        exact .inl (List.mem_singleton.2 heq)
  | none =>
      cases hprov : a.provision d e with
      | some a' =>
          have hx : exchange rt provider reply d a =
              { outcome := .ok (issue rt d (newAccount d e)), accounts := a',
                consulted := [e] } := by
            simp [exchange, h, htruthy, hfind, hprov]
          have husers : a'.users = newAccount d e :: a.users := provision_users hprov
          have hmem : newAccount d e ∈ a'.users := by simp [husers]
          rw [hx]
          constructor
          · rintro (hconsulted | ⟨u, hu, hnew, rfl⟩ | ⟨jwt, hjwt, u, hu, hid, rfl⟩)
            · exact List.mem_singleton.1 hconsulted
            · have hcase : u = newAccount d e ∨ u ∈ a.users := by simpa [husers] using hu
              rcases hcase with rfl | hold
              · rfl
              · exact absurd hold hnew
            · cases hjwt
              have hsame : u = newAccount d e :=
                List.inj_on_of_nodup_map a'.userIds_nodup hu hmem hid
              rw [hsame]
              rfl
          · intro heq
            exact .inl (List.mem_singleton.2 heq)
      | none =>
          have hx : exchange rt provider reply d a =
              { outcome := .error .other, accounts := a, consulted := [e] } := by
            simp [exchange, h, htruthy, hfind, hprov]
          rw [hx]
          constructor
          · rintro (hconsulted | ⟨u, hu, hnew, -⟩ | ⟨jwt, hjwt, -⟩)
            · exact List.mem_singleton.1 hconsulted
            · exact absurd hu hnew
            · cases hjwt
          · intro heq
            exact .inl (List.mem_singleton.2 heq)

/-- A JWT is issued for some user. -/
theorem exists_issue_of_exchange {jwt : IssuedBackendJwt}
    (h : (exchange rt provider reply d a).outcome = .ok jwt) : ∃ user, jwt = issue rt d user := by
  unfold exchange at h
  cases hresolve : resolveEmail rt provider reply with
  | error f =>
      rw [hresolve] at h
      cases h
  | ok v =>
      rw [hresolve] at h
      dsimp only at h
      split at h
      · cases h
      · split at h
        · split at h
          · rename_i user _
            cases h
            exact ⟨user, rfl⟩
          · split at h
            · cases h
              exact ⟨_, rfl⟩
            · cases h
        · cases h

/-! ## What becomes of a reply -/

/-- The reply ends in a domain error before anything is looked up. -/
def Declined (rt : Runtime Claims) (provider : String) (reply : Reply) : Prop :=
  (∃ err, resolveEmail rt provider reply = .error (.domain err)) ∨
    ∃ v, resolveEmail rt provider reply = .ok v ∧ truthy rt.isZero v = false

theorem outcome_eq_domain_of_declined (h : Declined rt provider reply) :
    (∃ err, (exchange rt provider reply d a).outcome = .error (.domain err)) ∧
      (exchange rt provider reply d a).accounts = a := by
  rcases h with ⟨err, herr⟩ | ⟨v, hv, hfalsy⟩
  · rw [exchange_of_error herr]
    exact ⟨⟨err, rfl⟩, rfl⟩
  · rw [exchange_of_falsy hv hfalsy]
    exact ⟨⟨_, rfl⟩, rfl⟩

/-- An address that is looked up must be marked, and a reply without a marked address declined. -/
theorem lawful_iff_resolve :
    Lawful rt provider reply a (exchange rt provider reply d a) ↔
      (∀ e, resolveEmail rt provider reply = .ok (.str e) → e ≠ "" → Marks rt provider reply e) ∧
        ((∀ e, ¬Marks rt provider reply e) → Declined rt provider reply) := by
  constructor
  · intro h
    have hmarked : ∀ e, resolveEmail rt provider reply = .ok (.str e) → e ≠ "" →
        Marks rt provider reply e := fun e hresolve he =>
      h.marked e ((concerns_iff_of_str hresolve he).2 rfl)
    refine ⟨hmarked, fun hnone => ?_⟩
    rcases h.refused hnone with ⟨⟨err, hout⟩, -⟩
    -- Without a marked address the outcome is a domain error, which only two ends give.
    cases hresolve : resolveEmail rt provider reply with
    | error f =>
        rw [exchange_of_error hresolve] at hout
        cases hout
        exact .inl ⟨err, hresolve⟩
    | ok v =>
        cases hv : truthy rt.isZero v with
        | false => exact .inr ⟨v, hresolve, hv⟩
        | true =>
            by_cases hodd : ∃ e, v = .str e
            · rcases hodd with ⟨e, rfl⟩
              have he : e ≠ "" := by simpa [truthy] using hv
              exact absurd (hmarked e hresolve he) (hnone e)
            · rw [exchange_of_odd hresolve hv fun e heq => hodd ⟨e, heq⟩] at hout
              cases hout
  · rintro ⟨hmarked, hdeclined⟩
    refine ⟨fun e hconcerns => ?_, fun hnone => outcome_eq_domain_of_declined (hdeclined hnone)⟩
    cases hresolve : resolveEmail rt provider reply with
    | error f =>
        rw [exchange_of_error hresolve] at hconcerns
        exact absurd hconcerns not_concerns_of_untouched
    | ok v =>
        cases hv : truthy rt.isZero v with
        | false =>
            rw [exchange_of_falsy hresolve hv] at hconcerns
            exact absurd hconcerns not_concerns_of_untouched
        | true =>
            by_cases hodd : ∃ e', v = .str e'
            · rcases hodd with ⟨e', rfl⟩
              have he : e' ≠ "" := by simpa [truthy] using hv
              rw [(concerns_iff_of_str hresolve he).1 hconcerns]
              exact hmarked e' hresolve he
            · rw [exchange_of_odd hresolve hv fun e' heq => hodd ⟨e', heq⟩] at hconcerns
              exact absurd hconcerns not_concerns_of_untouched

/-! ## The entries of GitHub -/

/-- The entries are objects up to the first one that is primary and verified, which has no address;
or all of them are, and none is primary and verified. -/
def NoneNamed (rt : Runtime Claims) (entries : List Json) : Prop :=
  ∃ seen rest, entries = seen ++ rest ∧
    (∀ v ∈ seen, ∃ ms, v = .obj ms ∧
      (truthy rt.isZero (pyGet "primary" ms) && truthy rt.isZero (pyGet "verified" ms)) = false) ∧
    (rest = [] ∨ ∃ ms later, rest = .obj ms :: later ∧
      (truthy rt.isZero (pyGet "primary" ms) && truthy rt.isZero (pyGet "verified" ms)) = true ∧
      truthy rt.isZero (pyGet "email" ms) = false)

theorem scanEntries_ne_domain {entries : List Json} {err : DomainError} :
    scanEntries rt entries ≠ .error (.domain err) := by
  induction entries with
  | nil => simp [scanEntries]
  | cons v rest ih =>
      cases v with
      | obj ms =>
          unfold scanEntries
          split
          · simp
          · exact ih
      | _ => simp [scanEntries]

/-- What the loop returns comes from an entry that is primary and verified. -/
theorem scanEntries_eq_str {entries : List Json} {e : String}
    (h : scanEntries rt entries = .ok (.str e)) :
    ∃ ms, .obj ms ∈ entries ∧ pyGet "email" ms = .str e ∧
      truthy rt.isZero (pyGet "primary" ms) = true ∧
      truthy rt.isZero (pyGet "verified" ms) = true := by
  induction entries with
  | nil => cases h
  | cons v rest ih =>
      cases v with
      | obj ms =>
          unfold scanEntries at h
          split at h
          · rename_i hselected
            rcases Bool.and_eq_true_iff.1 hselected with ⟨hprimary, hverified⟩
            exact ⟨ms, List.mem_cons_self, by simpa using h, hprimary, hverified⟩
          · rcases ih h with ⟨ms', hmem, hrest⟩
            exact ⟨ms', List.mem_cons_of_mem _ hmem, hrest⟩
      | _ => cases h

theorem scanEntries_falsy_iff {entries : List Json} :
    (∃ v, scanEntries rt entries = .ok v ∧ truthy rt.isZero v = false) ↔ NoneNamed rt entries := by
  constructor
  · rintro ⟨v, hscan, hv⟩
    induction entries with
    | nil => exact ⟨[], [], rfl, by simp, .inl rfl⟩
    | cons w rest ih =>
        cases w with
        | obj ms =>
            unfold scanEntries at hscan
            split at hscan
            · rename_i hselected
              have hemail : pyGet "email" ms = v := by simpa using hscan
              exact ⟨[], _, rfl, by simp, .inr ⟨ms, rest, rfl, hselected, hemail ▸ hv⟩⟩
            · rename_i hskipped
              rcases ih hscan with ⟨seen, rest', hsplit, hseen, hstop⟩
              have hskipped' : (truthy rt.isZero (pyGet "primary" ms) &&
                  truthy rt.isZero (pyGet "verified" ms)) = false := by simpa using hskipped
              refine ⟨.obj ms :: seen, rest', by rw [hsplit, List.cons_append], ?_, hstop⟩
              intro w hw
              rcases List.mem_cons.1 hw with rfl | hw
              · exact ⟨ms, rfl, hskipped'⟩
              · exact hseen w hw
        | _ => cases hscan
  · rintro ⟨seen, rest, rfl, hseen, hstop⟩
    -- The skipped entries fall away one by one.
    induction seen with
    | nil =>
        rcases hstop with rfl | ⟨ms, later, rfl, hselected, hemail⟩
        · exact ⟨.null, rfl, rfl⟩
        · refine ⟨pyGet "email" ms, ?_, hemail⟩
          rw [List.nil_append, scanEntries, if_pos hselected]
    | cons w seen ih =>
        rcases hseen w List.mem_cons_self with ⟨ms, rfl, hskipped⟩
        rcases ih fun v hv => hseen v (List.mem_cons_of_mem _ hv) with ⟨v, hscan, hv⟩
        refine ⟨v, ?_, hv⟩
        rw [List.cons_append, scanEntries, hskipped]
        exact hscan

/-! ## The replies that are handled as promised -/

/-- A 200 of Google is an object without an address, or with a text for one that it marks as
verified. -/
def GoogleAcceptable (rt : Runtime Claims) (reply : Reply) : Prop :=
  ∃ ms, reply.json = some (.obj ms) ∧
    (truthy rt.isZero (pyGet "email" ms) = false ∨
      (∃ e, pyGet "email" ms = .str e) ∧ truthy rt.isZero (pyGet "verified_email" ms) = true)

/-- A 200 of GitHub marks some address, or has nothing to iterate over, or names nobody in its
entries. -/
def GithubAcceptable (rt : Runtime Claims) (reply : Reply) : Prop :=
  (∃ e, Marks rt "github" reply e) ∨ reply.json = some (.str "") ∨ reply.json = some (.obj []) ∨
    ∃ entries, reply.json = some (.arr entries) ∧ NoneNamed rt entries

def Acceptable (rt : Runtime Claims) (provider : String) (reply : Reply) : Prop :=
  reply.status = 200 →
    (provider = "google" → GoogleAcceptable rt reply) ∧
      (provider = "github" → GithubAcceptable rt reply)

theorem google_iff (hstatus : reply.status = 200) :
    ((∀ e, resolveEmail rt "google" reply = .ok (.str e) → e ≠ "" → Marks rt "google" reply e) ∧
        ((∀ e, ¬Marks rt "google" reply e) → Declined rt "google" reply)) ↔
      GoogleAcceptable rt reply := by
  by_cases hobj : ∃ ms, reply.json = some (.obj ms)
  · rcases hobj with ⟨ms, hjson⟩
    have hresolve : resolveEmail rt "google" reply = .ok (pyGet "email" ms) := by
      simp [resolveEmail, googleEmail, hstatus, hjson]
    have hmarks : ∀ e, Marks rt "google" reply e ↔
        pyGet "email" ms = .str e ∧ truthy rt.isZero (pyGet "verified_email" ms) = true := by
      intro e
      simp [Marks, hstatus, hjson]
    have hdeclined : Declined rt "google" reply ↔ truthy rt.isZero (pyGet "email" ms) = false := by
      simp [Declined, hresolve]
    simp only [hmarks, hdeclined, hresolve, GoogleAcceptable, hjson, Option.some.injEq,
      Json.obj.injEq, exists_eq_left', Except.ok.injEq]
    constructor
    · rintro ⟨-, hrefused⟩
      -- Either the address is marked, or there must be none.
      by_cases hsome : ∃ e, pyGet "email" ms = .str e ∧
          truthy rt.isZero (pyGet "verified_email" ms) = true
      · rcases hsome with ⟨e, he, hverified⟩
        exact .inr ⟨⟨e, he⟩, hverified⟩
      · exact .inl (hrefused (not_exists.1 hsome))
    · rintro (hfalsy | ⟨⟨e, he⟩, hverified⟩)
      · refine ⟨fun e he hne => ?_, fun _ => hfalsy⟩
        rw [he] at hfalsy
        exact absurd (by simpa [truthy] using hfalsy) hne
      · exact ⟨fun e' he' _ => ⟨he', hverified⟩, fun hnone => absurd ⟨he, hverified⟩ (hnone e)⟩
  · -- `resp.json()` fails, or what it returns has no `get`.
    have hresolve : resolveEmail rt "google" reply = .error .other := by
      cases hjson : reply.json with
      | none => simp [resolveEmail, googleEmail, hstatus, hjson]
      | some v =>
          cases v with
          | obj ms => exact absurd ⟨ms, hjson⟩ hobj
          | _ => simp [resolveEmail, googleEmail, hstatus, hjson]
    constructor
    · rintro ⟨-, hrefused⟩
      have hnone : ∀ e, ¬Marks rt "google" reply e := by
        rintro e ⟨-, ⟨-, ms, hjson, -⟩ | ⟨hprovider, -⟩⟩
        · exact hobj ⟨ms, hjson⟩
        · exact absurd hprovider (by decide)
      rcases hrefused hnone with ⟨err, herr⟩ | ⟨v, hv, -⟩
      · rw [hresolve] at herr
        cases herr
      · rw [hresolve] at hv
        cases hv
    · rintro ⟨ms, hjson, -⟩
      exact absurd ⟨ms, hjson⟩ hobj

theorem resolveEmail_github : resolveEmail rt "github" reply = githubEmail rt reply := by
  simp [resolveEmail]

/-- GitHub's loop returns marked addresses only. -/
theorem marks_of_githubEmail {e : String} (hstatus : reply.status = 200)
    (h : githubEmail rt reply = .ok (.str e)) : Marks rt "github" reply e := by
  unfold githubEmail at h
  split at h
  · cases h
  · split at h
    · rename_i entries hjson
      rcases scanEntries_eq_str h with ⟨ms, hmem, hemail, hprimary, hverified⟩
      exact ⟨hstatus, .inr ⟨rfl, entries, ms, hjson, hmem, hemail, hprimary, hverified⟩⟩
    · split at h <;> cases h
    · split at h <;> cases h
    · cases h

/-- Where no entry names anybody, the loop returns nothing, and that is a domain error. -/
theorem declined_github_iff (hstatus : reply.status = 200) :
    Declined rt "github" reply ↔ reply.json = some (.str "") ∨ reply.json = some (.obj []) ∨
      ∃ entries, reply.json = some (.arr entries) ∧ NoneNamed rt entries := by
  cases hjson : reply.json with
  | none => simp [Declined, resolveEmail_github, githubEmail, hstatus, hjson]
  | some v =>
      cases v with
      | arr entries =>
          simp [Declined, resolveEmail_github, githubEmail, hstatus, hjson, scanEntries_ne_domain,
            ← scanEntries_falsy_iff]
      | str s =>
          by_cases hs : s = ""
          · simp [Declined, resolveEmail_github, githubEmail, hstatus, hjson, hs, truthy]
          · simp [Declined, resolveEmail_github, githubEmail, hstatus, hjson, hs]
      | obj ms =>
          by_cases hms : ms = []
          · simp [Declined, resolveEmail_github, githubEmail, hstatus, hjson, hms, truthy]
          · simp [Declined, resolveEmail_github, githubEmail, hstatus, hjson, hms]
      | _ => simp [Declined, resolveEmail_github, githubEmail, hstatus, hjson]

/-- All that is left for GitHub is how its loop ends without a marked address. -/
theorem github_iff (hstatus : reply.status = 200) :
    ((∀ e, resolveEmail rt "github" reply = .ok (.str e) → e ≠ "" → Marks rt "github" reply e) ∧
        ((∀ e, ¬Marks rt "github" reply e) → Declined rt "github" reply)) ↔
      GithubAcceptable rt reply := by
  have hmarked : ∀ e, resolveEmail rt "github" reply = .ok (.str e) → e ≠ "" →
      Marks rt "github" reply e := by
    intro e he _
    rw [resolveEmail_github] at he
    exact marks_of_githubEmail hstatus he
  rw [and_iff_right hmarked, declined_github_iff hstatus, GithubAcceptable]
  constructor
  · intro hrefused
    by_cases hsome : ∃ e, Marks rt "github" reply e
    · exact .inl hsome
    · exact .inr (hrefused (not_exists.1 hsome))
  · rintro (⟨e, he⟩ | hquiet)
    · exact fun hnone => absurd he (hnone e)
    · exact fun _ => hquiet

/-- Any other status and any other provider is a domain error. -/
theorem declined_of_refused
    (h : reply.status ≠ 200 ∨ (provider ≠ "google" ∧ provider ≠ "github")) :
    Declined rt provider reply ∧ ∀ e, resolveEmail rt provider reply ≠ .ok (.str e) := by
  have herr : ∃ err, resolveEmail rt provider reply = .error (.domain err) := by
    unfold resolveEmail
    rcases h with hstatus | ⟨hgoogle, hgithub⟩
    · split
      · exact ⟨_, by rw [googleEmail, if_pos hstatus]⟩
      · split
        · exact ⟨_, by rw [githubEmail, if_pos hstatus]⟩
        · exact ⟨_, rfl⟩
    · rw [if_neg hgoogle, if_neg hgithub]
      exact ⟨_, rfl⟩
  refine ⟨.inl herr, fun e he => ?_⟩
  rcases herr with ⟨err, herr⟩
  rw [herr] at he
  cases he

/-- Exactly these replies are handled as promised, whatever rows there are. -/
theorem lawful_iff :
    Lawful rt provider reply a (exchange rt provider reply d a) ↔
      Acceptable rt provider reply := by
  rw [lawful_iff_resolve]
  by_cases hpassed : reply.status ≠ 200 ∨ (provider ≠ "google" ∧ provider ≠ "github")
  · have hrefused : Declined rt provider reply ∧
        ∀ e, resolveEmail rt provider reply ≠ .ok (.str e) := declined_of_refused hpassed
    have hacceptable : Acceptable rt provider reply := by
      intro hstatus
      rcases hpassed with hne | ⟨hgoogle, hgithub⟩
      · exact absurd hstatus hne
      · exact ⟨fun h => absurd h hgoogle, fun h => absurd h hgithub⟩
    exact ⟨fun _ => hacceptable,
      fun _ => ⟨fun e he _ => absurd he (hrefused.2 e), fun _ => hrefused.1⟩⟩
  · rcases not_or.1 hpassed with ⟨hok, hknown⟩
    have hstatus : reply.status = 200 := not_not.1 hok
    by_cases hgoogle : provider = "google"
    · subst hgoogle
      rw [google_iff hstatus]
      simp [Acceptable, hstatus]
    · have hgithub : provider = "github" := by
        by_contra hne
        exact hknown ⟨hgoogle, hne⟩
      subst hgithub
      rw [github_iff hstatus]
      simp [Acceptable, hstatus]

/-- An unverified address of a 200 from Google is provisioned. -/
theorem unverified_address_is_provisioned :
    ∃ (rt : Runtime Claims) (reply : Reply) (d : Draws) (a : Accounts),
      reply = { status := 200
                json := some (.obj
                  [("email", .str "victim@example.com"), ("verified_email", .bool false)]) } ∧
        ((exchange rt "google" reply d a).accounts.users.map Account.email =
          ["victim@example.com"]) ∧
        ¬ Lawful rt "google" reply a (exchange rt "google" reply d a) := by
  let rt : Runtime Claims :=
    { isZero := fun _ => false
      encodeJwt := fun c => c.role }
  let reply : Reply :=
    { status := 200
      json := some (.obj
        [("email", .str "victim@example.com"), ("verified_email", .bool false)]) }
  let d : Draws := { now := 0, orgId := 0, slug := "org-1", userId := 0 }
  let a : Accounts :=
    { organizations := []
      users := []
      orgIds_nodup := List.nodup_nil
      slugs_nodup := List.nodup_nil
      userIds_nodup := List.nodup_nil
      emails_nodup := List.nodup_nil }
  refine ⟨rt, reply, d, a, rfl, by decide +kernel, fun h => ?_⟩
  have hconcerns : (exchange rt "google" reply d a).Concerns a "victim@example.com" :=
    .inl (by decide +kernel)
  -- The address is looked up, and Google does not mark it.
  rcases h.marked _ hconcerns with ⟨-, ⟨-, ms, hjson, -, hverified⟩ | ⟨hprovider, -⟩⟩
  · cases hjson
    exact absurd hverified (by decide +kernel)
  · exact absurd hprovider (by decide)

end OAuth
end Backend
end OpenRouter
