import OpenRouter.Backend.KeyLife
import OpenRouter.Backend.OAuth
import OpenRouter.Frontend.Bff

/-!
# SignIn — sign-ins to the dashboard and the calls after them

One browser signs in and out and makes calls through the proxy and the server actions, while the
backend goes on with its keys.  The invariant `Inv` says what the cookie holds in each state of the
sign-in; from it, `calls_lawful_iff` says which runs keep the promise about credentials.
-/

namespace OpenRouter
namespace Frontend

open Base Backend

/-! ## Secrets -/

/-- What `secrets.token_hex(32)` draws. -/
abbrev Secret : Type :=
  Fin 64 → Fin 16

/-- `generate_api_key`, with the default prefix. -/
def generateApiKey (secret : Secret) : String :=
  "sk-or-v1-" ++ String.ofList (List.ofFn fun i => Nat.digitChar (secret i))

/-- A creation of a key draws its plaintext. -/
def drawn (secret : Secret) : KeyLife.Label → KeyLife.Label
  | .createKey d salt cmd denied =>
      .createKey { d with plaintext := generateApiKey secret } salt cmd denied
  | l => l

/-! ## The world -/

/-- Whom a successful exchange has signed in, and when the JWT expires. -/
structure SignedIn where
  userId : UUID
  orgId : UUID
  expiresAt : ℤ

inductive LastSignIn
  | exchanged (s : SignedIn)
  | refused
  /-- There was nothing to exchange. -/
  | bare

/-- `lastSignIn` and `idpTokens`, the OAuth tokens that this browser has signed in with, are history
that no callback reads. -/
structure World where
  keys : KeyLife.World
  accounts : OAuth.Accounts
  cookie : Option Token := none
  lastSignIn : Option LastSignIn := none
  idpTokens : List String := []

/-- How the call of the exchange route goes. -/
inductive Delivery
  | answered
  /-- The answer is lost. -/
  | unanswered
  /-- The request is lost. -/
  | undelivered

inductive Call
  | proxy (req : Request)
  | action (a : ServerAction)

inductive Label
  /-- The backend moves on, with what is drawn if it creates a key. -/
  | keys (l : KeyLife.Label) (secret : Secret)
  /-- A sign-in; the identity provider answers the backend with `reply`. -/
  | signIn (account : Account) (reply : OAuth.Reply) (d : OAuth.Draws) (delivery : Delivery)
  | signOut
  | call (c : Call)

variable (rt : OAuth.Runtime OAuth.Claims) (p : Routes.Platform)
  (hashApiKey : String → String → String) (verifyApiKey : String → String → Bool) (site : Site)

/-- `POST /v1/oauth/exchange`; `none` is any answer but a 200. -/
def exchangeRoute (reply : OAuth.Reply) (d : OAuth.Draws) (provider accessToken : String)
    (a : OAuth.Accounts) : Option OAuth.IssuedBackendJwt × OAuth.Accounts :=
  if (provider = "google" ∨ provider = "github") ∧ 10 ≤ accessToken.length ∧
      accessToken.length ≤ 4096 then
    let x := OAuth.exchange rt provider reply d a
    (x.outcome.toOption, x.accounts)
  else (none, a)

/-- `exchangeOAuthForBackendJwt`. -/
def exchangeOAuthForBackendJwt (reply : OAuth.Reply) (d : OAuth.Draws) (delivery : Delivery) :
    ExchangeCall OAuth.Accounts := fun provider accessToken a =>
  match delivery with
  | .undelivered => (none, a)
  | .unanswered => (none, (exchangeRoute rt reply d provider accessToken a).2)
  | .answered =>
      let r := exchangeRoute rt reply d provider accessToken a
      (r.1.map fun issued =>
        { accessToken := issued.accessToken
          expiresIn := issued.expiresInSeconds
          userId := issued.userId
          orgId := issued.orgId
          role := issued.role }, r.2)

/-- The rows of the exchange, among those of the backend. -/
def enroll (a : OAuth.Accounts) (db : Routes.Db) : Routes.Db :=
  { db with
    organizations := fun id => a.organizations.any fun o => o.id = id
    users := fun id => (a.users.find? fun u => u.id = id).map OAuth.Account.toUser }

/-- What a sign-in comes to. -/
def signInResult (now : ℤ) (account : Account) (call : ExchangeCall OAuth.Accounts)
    (a : OAuth.Accounts) : LastSignIn :=
  match given account.accessToken with
  | none => .bare
  | some accessToken =>
      if account.provider = "google" ∨ account.provider = "github" then
        match (call account.provider accessToken a).1 with
        | some r =>
            .exchanged
              { userId := r.userId
                orgId := r.orgId
                expiresAt := now + OAuth.defaultTtl }
        | none => .refused
      else .bare

namespace World

/-- Auth.js starts a sign-in from a token that has the profile only. -/
def signIn (w : World) (account : Account) (reply : OAuth.Reply) (d : OAuth.Draws)
    (delivery : Delivery) : World :=
  let call := exchangeOAuthForBackendJwt rt reply { d with now := w.keys.now } delivery
  let r := jwt call w.keys.now {} (some account) w.accounts
  { keys := { w.keys with db := enroll r.2 w.keys.db }
    accounts := r.2
    cookie := some r.1
    lastSignIn := some (signInResult w.keys.now account call w.accounts)
    idpTokens := account.accessToken.toList ++ w.idpTokens }

/-- What a call does to the keys is a step of its own. -/
def step (w : World) : Label → World
  | .keys l secret => { w with keys := w.keys.step p hashApiKey (drawn secret l) }
  | .signIn account reply d delivery => w.signIn rt account reply d delivery
  | .signOut => { w with cookie := none, lastSignIn := none }
  | .call _ => w

def run (w : World) (ls : List Label) : World :=
  ls.foldl (step rt p hashApiKey) w

/-- The request that a call makes the dashboard's server send. -/
def send (w : World) : Call → Option Outgoing
  | .proxy req => (proxy site (auth w.cookie) req).toOption
  | .action a => (a.perform site (auth w.cookie)).toOption

/-- `get_current_auth` of a request that reaches the backend now. -/
def resolve (w : World) (out : Outgoing) : Except DomainError AuthContext :=
  getCurrentAuth p.sha256Lookup verifyApiKey w.keys.db w.keys.now out.authorization

end World

/-! ## What is promised -/

/-- Until the JWT expires, a call carries a credential that the backend resolves to whom the
exchange has signed in; and the proxy forwards no OAuth token of an identity provider. -/
structure Lawful (w : World) (c : Call) : Prop where
  resolved : ∀ s, w.lastSignIn = some (.exchanged s) → w.keys.now < s.expiresAt →
    ∃ out auth, w.send site c = some out ∧ w.resolve p verifyApiKey out = .ok auth ∧
      auth.user.id = s.userId ∧ auth.user.orgId = s.orgId
  kept : ∀ req out t, c = .proxy req → w.send site c = some out → t ∈ w.idpTokens →
    out.authorization ≠ some ("Bearer " ++ t)

/-- No JWT is alive, and the proxy is not called behind a refused exchange. -/
structure Quiet (w : World) (c : Call) : Prop where
  expired : ∀ s, w.lastSignIn = some (.exchanged s) → s.expiresAt ≤ w.keys.now
  unrefused : ∀ req, c = .proxy req → w.lastSignIn ≠ some .refused

/-! ## The invariant -/

/-- Every key row has the hash of a generated plaintext. -/
def Generated (ks : List APIKey) : Prop :=
  ∀ k ∈ ks, ∃ salt secret, k.keyHash = hashApiKey salt (generateApiKey secret)

/-- What the cookie holds in each state of the sign-in. -/
def Holds (w : World) : Prop :=
  match w.lastSignIn with
  | none => w.cookie = none
  | some (.exchanged _) => ∃ token claims, w.cookie = some token ∧
      token.backendJwt = some (rt.encodeJwt claims) ∧ token.accessToken = none
  | some .refused => ∃ token t, w.cookie = some token ∧ token.backendJwt = none ∧
      token.accessToken = some t ∧ t ≠ "" ∧ t ∈ w.idpTokens
  | some .bare => ∃ token, w.cookie = some token ∧ token.backendJwt = none ∧
      token.accessToken = none

structure Inv (w : World) : Prop where
  generated : Generated hashApiKey w.keys.db.apiKeys
  holds : Holds rt w

/-- A browser without a session. -/
structure Fresh (w : World) : Prop where
  generated : Generated hashApiKey w.keys.db.apiKeys
  cookie : w.cookie = none
  lastSignIn : w.lastSignIn = none

variable {rt p hashApiKey verifyApiKey site}

/-! ## Keys -/

theorem Generated.map_act {ks : List APIKey} (h : Generated hashApiKey ks) (e : KeyLife.Entry) :
    Generated hashApiKey (ks.map e.act) := by
  intro k hk
  rcases List.mem_map.1 hk with ⟨k₀, hmem, rfl⟩
  rcases h k₀ hmem with ⟨salt, secret, hhash⟩
  exact ⟨salt, secret, (KeyLife.Entry.keyHash_act e k₀).trans hhash⟩

/-- A step of the backend adds a row with a generated plaintext or acts on the rows there are. -/
theorem Generated.step {w : KeyLife.World} (h : Generated hashApiKey w.db.apiKeys)
    (l : KeyLife.Label) (secret : Secret) :
    Generated hashApiKey (w.step p hashApiKey (drawn secret l)).db.apiKeys := by
  rw [KeyLife.apiKeys_step]
  cases hentry : w.entry p hashApiKey (drawn secret l) with
  | none => exact h
  | some e =>
      intro k hk
      rcases List.mem_append.1 hk with hnew | hold
      · cases e with
        | revoked keyId now reason => cases hnew
        | suspended userId orgId now => cases hnew
        | created k' plaintext =>
            have hk' : k = k' := List.mem_singleton.1 hnew
            rcases KeyLife.created_of_entry hentry with ⟨d, salt, cmd, denied, hlabel, rfl, -⟩
            cases l with
            | createKey d' salt' cmd' denied' =>
                cases hlabel
                exact ⟨salt, secret, by rw [hk']; rfl⟩
            | tick | abort | revokeKey | suspendUser => cases hlabel
      · exact h.map_act e k hold

theorem dot_not_mem_generateApiKey (secret : Secret) : '.' ∉ (generateApiKey secret).toList := by
  have hdigit : ∀ d : Fin 16, Nat.digitChar d ≠ '.' := by decide
  intro hmem
  rw [generateApiKey, String.toList_append, List.mem_append] at hmem
  rcases hmem with hlead | hhex
  · have hprefix : '.' ∉ "sk-or-v1-".toList := by decide
    exact hprefix hlead
  · rw [String.toList_ofList] at hhex
    rcases List.mem_ofFn.1 hhex with ⟨i, hi⟩
    exact hdigit (secret i) hi

/-- A text with a dot is nobody's API key, so the backend resolves no JWT. -/
theorem resolve_ne_ok_of_dot {w : World} {out : Outgoing} {t : String} {auth : AuthContext}
    (hverify : ∀ salt p q, verifyApiKey p (hashApiKey salt q) = true ↔ p = q)
    (hkeys : Generated hashApiKey w.keys.db.apiKeys) (hdot : '.' ∈ t.toList)
    (hout : out.authorization = some ("Bearer " ++ t)) :
    w.resolve p verifyApiKey out ≠ .ok auth := by
  intro hresolve
  rw [World.resolve, hout] at hresolve
  rcases getCurrentAuth_eq_ok_iff.1 hresolve with ⟨plaintext, key, hbearer, hmem, -, hsecret, -, -⟩
  rcases hkeys key hmem with ⟨salt, secret, hhash⟩
  -- The key that is found is one whose secret verifies, so it is a generated text.
  have hplain : plaintext = generateApiKey secret := (hverify salt plaintext _).1 (hhash ▸ hsecret)
  have hstrip : String.ofList (strip t.toList) = plaintext := by
    rw [extractBearer_bearer] at hbearer
    cases hbearer
    rfl
  have hmemStrip : '.' ∈ (generateApiKey secret).toList := by
    rw [← hplain, ← hstrip, String.toList_ofList]
    exact mem_strip hdot rfl
  exact dot_not_mem_generateApiKey secret hmemStrip

/-! ## Sign-ins -/

/-- What an answered exchange returns has a JWT of the backend. -/
theorem accessToken_of_exchangeOAuthForBackendJwt {reply : OAuth.Reply} {d : OAuth.Draws}
    {delivery : Delivery} {provider accessToken : String} {a : OAuth.Accounts}
    {r : ExchangeResponse}
    (h : (exchangeOAuthForBackendJwt rt reply d delivery provider accessToken a).1 = some r) :
    ∃ claims, r.accessToken = rt.encodeJwt claims := by
  cases delivery with
  | undelivered => cases h
  | unanswered => cases h
  | answered =>
      simp only [exchangeOAuthForBackendJwt, exchangeRoute] at h
      split at h
      · rcases Option.map_eq_some_iff.1 h with ⟨issued, houtcome, rfl⟩
        have hok : (OAuth.exchange rt provider reply d a).outcome = .ok issued := by
          cases hresult : (OAuth.exchange rt provider reply d a).outcome with
          | error f =>
              rw [hresult] at houtcome
              cases houtcome
          | ok issued' =>
              rw [hresult] at houtcome
              cases houtcome
              rfl
        rcases OAuth.exists_issue_of_exchange hok with ⟨user, rfl⟩
        exact ⟨_, rfl⟩
      · cases h

/-- Each way a sign-in goes leaves what it says in the cookie. -/
theorem holds_signIn (w : World) (account : Account) (reply : OAuth.Reply) (d : OAuth.Draws)
    (delivery : Delivery) : Holds rt (w.signIn rt account reply d delivery) := by
  unfold Holds World.signIn signInResult jwt
  dsimp only
  cases hgiven : given account.accessToken with
  -- Nothing is exchanged, and the token stays the profile's.
  | none => exact ⟨_, rfl, rfl, rfl⟩
  | some t =>
      rcases given_eq_some.1 hgiven with ⟨haccount, hne⟩
      by_cases hprovider : account.provider = "google" ∨ account.provider = "github"
      · dsimp only
        rw [if_pos hprovider, if_pos hprovider]
        rcases hcall : exchangeOAuthForBackendJwt rt reply { d with now := w.keys.now } delivery
          account.provider t w.accounts with ⟨answer, a'⟩
        cases answer with
        | none =>
            -- The cookie falls back to the token of the identity provider.
            have hmem : t ∈ account.accessToken.toList ++ w.idpTokens := by simp [haccount]
            exact ⟨_, t, rfl, rfl, rfl, hne, hmem⟩
        | some r =>
            -- The cookie gets the backend's JWT.
            have hfirst : (exchangeOAuthForBackendJwt rt reply { d with now := w.keys.now } delivery
                account.provider t w.accounts).1 = some r := by rw [hcall]
            rcases accessToken_of_exchangeOAuthForBackendJwt hfirst with ⟨claims, hjwt⟩
            exact ⟨_, claims, rfl, congrArg some hjwt, rfl⟩
      · dsimp only
        rw [if_neg hprovider, if_neg hprovider]
        exact ⟨_, rfl, rfl, rfl⟩

theorem Inv.step {w : World} (h : Inv rt hashApiKey w) (l : Label) :
    Inv rt hashApiKey (w.step rt p hashApiKey l) := by
  cases l with
  | keys l secret => exact ⟨h.generated.step l secret, h.holds⟩
  | signIn account reply d delivery =>
      exact ⟨h.generated, holds_signIn w account reply d delivery⟩
  | signOut => exact ⟨h.generated, rfl⟩
  | call c => exact h

theorem Inv.run {w : World} (h : Inv rt hashApiKey w) (ls : List Label) :
    Inv rt hashApiKey (w.run rt p hashApiKey ls) := by
  induction ls generalizing w with
  | nil => exact h
  | cons l ls ih => exact ih (h.step l)

theorem Fresh.inv {w : World} (h : Fresh hashApiKey w) : Inv rt hashApiKey w where
  generated := h.generated
  holds := by
    rw [Holds, h.lastSignIn]
    exact h.cookie

/-! ## Calls -/

/-- The proxy sends a request only when the cookie has an OAuth token and no JWT. -/
theorem send_proxy {w : World} {req : Request} {out : Outgoing}
    (h : w.send site (.proxy req) = some out) :
    ∃ token t, w.cookie = some token ∧ given token.backendJwt = none ∧
      token.accessToken = some t ∧ out.authorization = some ("Bearer " ++ t) := by
  have hsend : (proxy site (auth w.cookie) req).toOption = some out := h
  have hauth := authorization_proxy site (auth w.cookie) req
  rw [hsend] at hauth
  rcases Option.map_eq_some_iff.1 hauth.symm with ⟨t, hgiven, hout⟩
  rcases Option.bind_eq_some_iff.1 (given_eq_some.1 hgiven).1 with ⟨s, hs, ht⟩
  rcases Option.map_eq_some_iff.1 hs with ⟨token, hcookie, rfl⟩
  rcases accessToken_session_eq_some.1 ht with ⟨hjwt, htoken, -⟩
  exact ⟨token, t, hcookie, hjwt, htoken, hout.symm⟩

theorem exists_send_proxy {w : World} {req : Request} {token : Token} {t : String}
    (hcookie : w.cookie = some token) (hjwt : given token.backendJwt = none)
    (htoken : token.accessToken = some t) (hne : t ≠ "") :
    ∃ out, w.send site (.proxy req) = some out ∧ out.authorization = some ("Bearer " ++ t) := by
  have hsession : (auth w.cookie).bind Session.accessToken = some t := by
    rw [hcookie]
    exact accessToken_session_eq_some.2 ⟨hjwt, htoken, hne⟩
  have hauth := authorization_proxy site (auth w.cookie) req
  rw [hsession, given_some hne] at hauth
  exact Option.map_eq_some_iff.1 hauth

/-- A server action sends the JWT of the cookie. -/
theorem send_action {w : World} {a : ServerAction} {out : Outgoing}
    (h : w.send site (.action a) = some out) :
    ∃ token, w.cookie = some token ∧
      out.authorization = (given token.backendJwt).map fun t => "Bearer " ++ t := by
  have hauth := authorization_perform site (auth w.cookie) a
  have hsend : (a.perform site (auth w.cookie)).toOption = some out := h
  rw [hsend] at hauth
  cases hcookie : w.cookie with
  | none =>
      rw [hcookie] at hauth
      cases hauth
  | some token =>
      rw [hcookie] at hauth
      refine ⟨token, rfl, ?_⟩
      simpa [auth, session] using hauth

/-! ## Which calls are lawful -/

/-- With a JWT in the cookie, no call carries a credential that the backend resolves. -/
theorem resolve_ne_ok_of_exchanged {w : World} {s : SignedIn} {c : Call} {out : Outgoing}
    {auth : AuthContext} (hdot : ∀ claims, '.' ∈ (rt.encodeJwt claims).toList)
    (hverify : ∀ salt p q, verifyApiKey p (hashApiKey salt q) = true ↔ p = q)
    (h : Inv rt hashApiKey w) (hlast : w.lastSignIn = some (.exchanged s))
    (hsend : w.send site c = some out) : w.resolve p verifyApiKey out ≠ .ok auth := by
  have hholds : ∃ token claims, w.cookie = some token ∧
      token.backendJwt = some (rt.encodeJwt claims) ∧ token.accessToken = none := by
    have := h.holds
    rwa [Holds, hlast] at this
  rcases hholds with ⟨token, claims, hcookie, hjwt, htoken⟩
  have hne : rt.encodeJwt claims ≠ "" := by
    intro hempty
    have hmem := hdot claims
    rw [hempty] at hmem
    exact absurd hmem (by decide)
  cases c with
  | proxy req =>
      -- The proxy has nothing to send.
      rcases send_proxy hsend with ⟨token', t, hcookie', -, ht, -⟩
      have hsame : token = token' := Option.some.inj (hcookie.symm.trans hcookie')
      rw [← hsame, htoken] at ht
      cases ht
  | action a =>
      -- The action sends the JWT, which is no API key.
      rcases send_action hsend with ⟨token', hcookie', hout⟩
      have hsame : token = token' := Option.some.inj (hcookie.symm.trans hcookie')
      rw [← hsame, hjwt, given_some hne] at hout
      exact resolve_ne_ok_of_dot hverify h.generated (hdot claims) hout

/-- In a state of a run, exactly the quiet calls are lawful. -/
theorem lawful_iff_quiet {w : World} {c : Call}
    (hdot : ∀ claims, '.' ∈ (rt.encodeJwt claims).toList)
    (hverify : ∀ salt p q, verifyApiKey p (hashApiKey salt q) = true ↔ p = q)
    (h : Inv rt hashApiKey w) : Lawful p verifyApiKey site w c ↔ Quiet w c := by
  constructor
  · intro hlawful
    constructor
    · intro s hlast
      -- No credential of an exchanged session is resolved, so the JWT must have expired.
      by_contra hlive
      rcases hlawful.resolved s hlast (not_le.1 hlive) with ⟨out, auth, hsend, hresolve, -, -⟩
      exact resolve_ne_ok_of_exchanged hdot hverify h hlast hsend hresolve
    · rintro req rfl hlast
      have hholds : ∃ token t, w.cookie = some token ∧ token.backendJwt = none ∧
          token.accessToken = some t ∧ t ≠ "" ∧ t ∈ w.idpTokens := by
        have := h.holds
        rwa [Holds, hlast] at this
      rcases hholds with ⟨token, t, hcookie, hjwt, htoken, hne, hmem⟩
      -- The token of the identity provider is all that the session has for the proxy.
      rcases exists_send_proxy hcookie (by rw [hjwt, given_none]) htoken hne with ⟨out, hsend, hout⟩
      exact hlawful.kept req out t rfl hsend hmem hout
  · intro hquiet
    constructor
    · intro s hlast hlive
      exact absurd hlive (not_lt.2 (hquiet.expired s hlast))
    · rintro req out t rfl hsend _ _
      rcases send_proxy hsend with ⟨token, t', hcookie, hjwt, htoken, -⟩
      have hholds := h.holds
      rw [Holds] at hholds
      -- Only a refused exchange leaves an OAuth token in the cookie.
      cases hlast : w.lastSignIn with
      | none =>
          rw [hlast, hcookie] at hholds
          cases hholds
      | some last =>
          rw [hlast] at hholds
          cases last with
          | exchanged s =>
              rcases hholds with ⟨token', claims, hcookie', -, hnone⟩
              have hsame : token' = token := Option.some.inj (hcookie'.symm.trans hcookie)
              rw [hsame, htoken] at hnone
              cases hnone
          | refused => exact hquiet.unrefused req rfl hlast
          | bare =>
              rcases hholds with ⟨token', hcookie', -, hnone⟩
              have hsame : token' = token := Option.some.inj (hcookie'.symm.trans hcookie)
              rw [hsame, htoken] at hnone
              cases hnone

/-- The calls of a run are all lawful exactly when they are all quiet. -/
theorem calls_lawful_iff (hdot : ∀ claims, '.' ∈ (rt.encodeJwt claims).toList)
    (hverify : ∀ salt p q, verifyApiKey p (hashApiKey salt q) = true ↔ p = q) {w₀ : World}
    (hfresh : Fresh hashApiKey w₀) (ls : List Label) :
    (∀ past c later, ls = past ++ .call c :: later →
        Lawful p verifyApiKey site (w₀.run rt p hashApiKey past) c) ↔
      ∀ past c later, ls = past ++ .call c :: later →
        Quiet (w₀.run rt p hashApiKey past) c := by
  have hcall : ∀ past c, Lawful p verifyApiKey site (w₀.run rt p hashApiKey past) c ↔
      Quiet (w₀.run rt p hashApiKey past) c :=
    fun past c => lawful_iff_quiet hdot hverify (hfresh.inv.run past)
  constructor
  · intro hlawful past c later hsplit
    exact (hcall past c).1 (hlawful past c later hsplit)
  · intro hquiet past c later hsplit
    exact (hcall past c).2 (hquiet past c later hsplit)

/-! ## A sign-in with Google -/

/-- JWTs with dots in them. -/
def dottedRuntime : OAuth.Runtime OAuth.Claims where
  isZero := fun _ => false
  encodeJwt := fun claims => "h." ++ claims.role ++ ".s"

def demoSite : Site where
  apiBaseUrl := "https://gateway"
  backendUrl := "https://backend"
  encodeURIComponent := id
  parseQuery := fun _ => []

def newBrowser : World where
  keys := { now := 0, db := KeyLife.oneUserDb }
  accounts :=
    { organizations := []
      users := []
      orgIds_nodup := List.nodup_nil
      slugs_nodup := List.nodup_nil
      userIds_nodup := List.nodup_nil
      emails_nodup := List.nodup_nil }

def googleSignIn (delivery : Delivery) : Label :=
  .signIn { provider := "google", accessToken := some "ya29.a0AfH" }
    { status := 200
      json := some (.obj
        [("email", .str "ok@example.com"), ("verified_email", .bool true)]) }
    { now := 0, orgId := 1, slug := "org-1", userId := 7 } delivery

def completions : Request where
  method := "POST"
  path := ["chat", "completions"]
  searchParams := []
  headers := [("content-type", "application/json"), ("cookie", "s")]
  body := "\x7b\x7d"

theorem fresh_newBrowser : Fresh (fun _ q => q) newBrowser where
  generated := fun _ hk => absurd hk List.not_mem_nil
  cookie := rfl
  lastSignIn := rfl

theorem dot_mem_dottedRuntime (claims : OAuth.Claims) :
    '.' ∈ (dottedRuntime.encodeJwt claims).toList := by
  simp [dottedRuntime, String.toList_append]

/-- A server action behind a refused exchange is quiet. -/
theorem calls_lawful_iff_refused :
    let run := World.run dottedRuntime KeyLife.clearPlatform (fun _ q => q) newBrowser
    let ls := [googleSignIn .unanswered, .call (.action (.revokeKey "1"))]
    (∀ past c later, ls = past ++ .call c :: later →
        Lawful KeyLife.clearPlatform (fun p q => p == q) demoSite (run past) c) ↔
      ∀ past c later, ls = past ++ .call c :: later → Quiet (run past) c :=
  calls_lawful_iff dot_mem_dottedRuntime (fun _ _ _ => beq_iff_eq) fresh_newBrowser _

/-- Whoever has just been signed in is refused by the proxy; whoever has not sends Google's token
to the gateway. -/
theorem proxy_sends_the_wrong_token :
    let run := World.run dottedRuntime KeyLife.clearPlatform (fun _ q => q) newBrowser
    let signedIn := run [googleSignIn .answered]
    let refused := run [googleSignIn .undelivered]
    signedIn.cookie.bind Token.backendJwt = some "h.owner.s" ∧
      signedIn.send demoSite (.proxy completions) = none ∧
      ¬Lawful KeyLife.clearPlatform (fun p q => p == q) demoSite signedIn (.proxy completions) ∧
      (refused.send demoSite (.proxy completions)).bind Outgoing.authorization =
        some "Bearer ya29.a0AfH" ∧
      ¬Lawful KeyLife.clearPlatform (fun p q => p == q) demoSite refused (.proxy completions) := by
  intro run signedIn refused
  have hnone : signedIn.send demoSite (.proxy completions) = none := rfl
  have hforwarded : (refused.send demoSite (.proxy completions)).bind Outgoing.authorization =
      some "Bearer ya29.a0AfH" := by decide +kernel
  refine ⟨by decide +kernel, hnone, fun hlawful => ?_, hforwarded, fun hlawful => ?_⟩
  · have hlast : signedIn.lastSignIn = some (.exchanged
        { userId := 7
          orgId := 1
          expiresAt := OAuth.defaultTtl }) := rfl
    -- The signed-in session has a JWT that is alive, and no request leaves.
    rcases hlawful.resolved _ hlast (by decide) with ⟨out, auth, hsend, -⟩
    rw [hnone] at hsend
    cases hsend
  · rcases Option.bind_eq_some_iff.1 hforwarded with ⟨out, hsend, hout⟩
    exact hlawful.kept completions out "ya29.a0AfH" rfl hsend List.mem_cons_self hout

end Frontend
end OpenRouter
