import OpenRouter.Backend.Domain
import OpenRouter.Base.Multimap

/-!
# Bff — the dashboard's session and the requests it sends

The callbacks of Auth.js (`api/auth/[...nextauth]/route.ts`), the proxy to the gateway
(`api/proxy/[...path]/route.ts`) and the server actions of the key page (`dashboard/keys/actions.ts`
over `ApiClient`).  What matters of each is the credential: `authorization_proxy` and
`authorization_perform` say which field of the session it comes from.
-/

namespace OpenRouter
namespace Frontend

open Backend

/-! ## Headers -/

/-- `Headers`: each name once, in lower case. -/
abbrev Headers : Type :=
  List (String × String)

/-- `Headers.set`. -/
def Headers.set (hs : Headers) (name value : String) : Headers :=
  hs.filter (fun h => h.1 ≠ name) ++ [(name, value)]

def Headers.get (hs : Headers) (name : String) : Option String :=
  (hs.find? fun h => h.1 = name).map Prod.snd

@[simp] theorem Headers.get_set_self (hs : Headers) (name value : String) :
    (hs.set name value).get name = some value := by
  have hnone : (hs.filter fun h => h.1 ≠ name).find? (fun h => h.1 = name) = none := by
    rw [List.find?_eq_none]
    intro h hmem
    have hne : h.1 ≠ name := by simpa using (List.mem_filter.1 hmem).2
    simpa using hne
  rw [Headers.get, Headers.set, List.find?_append, hnone]
  simp

/-! ## Tokens and sessions -/

/-- An empty text is falsy. -/
def given (text : Option String) : Option String :=
  text.filter (· ≠ "")

@[simp] theorem given_none : given none = none := rfl

theorem given_some {t : String} (h : t ≠ "") : given (some t) = some t := by
  simp [given, h]

theorem given_eq_some {text : Option String} {t : String} :
    given text = some t ↔ text = some t ∧ t ≠ "" := by
  simp [given, Option.filter_eq_some_iff]

@[simp] theorem given_given (text : Option String) : given (given text) = given text := by
  simp [given, Option.filter_filter]

/-- What the callbacks keep in the cookie, besides the profile. -/
structure Token where
  backendJwt : Option String := none
  backendJwtExp : Option ℤ := none
  userId : Option UUID := none
  orgId : Option UUID := none
  role : Option String := none
  accessToken : Option String := none

/-- The fields of `next-auth.d.ts`; a session always has a user. -/
structure Session where
  backendJwt : Option String
  userId : Option UUID
  orgId : Option UUID
  role : Option String
  accessToken : Option String

/-- The account of a sign-in. -/
structure Account where
  provider : String
  accessToken : Option String

structure ExchangeResponse where
  accessToken : String
  expiresIn : ℕ
  userId : UUID
  orgId : UUID
  role : String

/-! ## Callbacks -/

/-- What `exchangeOAuthForBackendJwt` returns, and what it changes on the other side. -/
abbrev ExchangeCall (σ : Type) : Type :=
  String → String → σ → Option ExchangeResponse × σ

/-- The `jwt` callback; the clock is in microseconds. -/
def jwt {σ : Type} (exchangeOAuthForBackendJwt : ExchangeCall σ) (now : ℤ) (token : Token)
    (account : Option Account) (s : σ) : Token × σ :=
  match account with
  | none => (token, s)
  | some account =>
      match given account.accessToken with
      | none => (token, s)
      | some accessToken =>
          if account.provider = "google" ∨ account.provider = "github" then
            match exchangeOAuthForBackendJwt account.provider accessToken s with
            | (some exchanged, s') =>
                ({ token with
                    backendJwt := some exchanged.accessToken
                    backendJwtExp := some (now / 1000000 + exchanged.expiresIn)
                    userId := some exchanged.userId
                    orgId := some exchanged.orgId
                    role := some exchanged.role }, s')
            -- The exchange has failed: the token of the provider is kept instead.
            | (none, s') => ({ token with accessToken := some accessToken }, s')
          else (token, s)

/-- The `session` callback. -/
def session (token : Token) : Session where
  backendJwt := given token.backendJwt
  userId := token.userId
  orgId := token.orgId
  role := given token.role
  accessToken := if (given token.backendJwt).isNone then given token.accessToken else none

/-- `auth()`: without an account the `jwt` callback returns the token of the cookie. -/
def auth (cookie : Option Token) : Option Session :=
  cookie.map session

/-! ## Requests -/

/-- A request of the browser to the proxy. -/
structure Request where
  method : String
  path : List String
  searchParams : List (String × String)
  headers : Headers
  body : String

/-- A request that the dashboard's server hands to `fetch`. -/
structure Outgoing where
  method : String
  url : String
  searchParams : List (String × String) := []
  headers : Headers
  body : Option String

def Outgoing.authorization (o : Outgoing) : Option String :=
  o.headers.get "authorization"

/-- An answer without an upstream request. -/
structure Refusal where
  status : ℕ
  message : String
  type : String
  deriving DecidableEq

/-- The addresses of `clientEnv`, and what the runtime does with texts of URLs. -/
structure Site where
  apiBaseUrl : String
  backendUrl : String
  encodeURIComponent : String → String
  /-- The parameters of a query, as `new URL` reads them. -/
  parseQuery : String → List (String × String)

/-- The query in the text of a URL: behind the first `?`, up to the fragment. -/
def queryOf (url : String) : String :=
  String.ofList (((url.toList.takeWhile (· ≠ '#')).dropWhile (· ≠ '?')).drop 1)

/-- The text of `target`; the segments of a catch-all route are decoded, so that one of them may
have a query or a fragment in it. -/
def targetUrl (site : Site) (path : List String) : String :=
  site.apiBaseUrl ++ "/api/v1/" ++ "/".intercalate path

def filterHeaders (incoming : Headers) (token : String) : Headers :=
  let kept := incoming.filter fun h =>
    h.1.toLower ∉ ["host", "cookie", "authorization", "connection"]
  Headers.set (kept.foldl (fun out h => out.set h.1.toLower h.2) []) "authorization"
    ("Bearer " ++ token)

/-- The proxy route. -/
def proxy (site : Site) (session : Option Session) (req : Request) : Except Refusal Outgoing :=
  match given (session.bind Session.accessToken) with
  | none =>
      .error
        { status := 401
          message := "Not authenticated"
          type := "authentication_error" }
  | some accessToken =>
      .ok
        { method := req.method
          url := targetUrl site req.path
          searchParams := req.searchParams.foldl (fun out q => Base.setPair out q.1 q.2)
            (site.parseQuery (queryOf (targetUrl site req.path)))
          headers := filterHeaders req.headers accessToken
          body := if req.method = "GET" ∨ req.method = "HEAD" then none else some req.body }

/-! ## Server actions -/

/-- A server action whose form has been accepted. -/
inductive ServerAction
  | createKey (body : String)
  | revokeKey (keyId : String)

/-- `new URL(path, baseUrl)` of `ApiClient`: the base ends in one slash, and the path starts with
none. -/
def joinUrl (baseUrl path : String) : String :=
  let base := if baseUrl.endsWith "/" then baseUrl else baseUrl ++ "/"
  base ++ (if path.startsWith "/" then (path.drop 1).toString else path)

/-- `ApiClient.request`; the verbs of the server actions are not retried. -/
def apiRequest (baseUrl method path : String) (body bearerToken : Option String) : Outgoing where
  method := method
  url := joinUrl baseUrl path
  headers :=
    [("accept", "application/json"), ("content-type", "application/json")] ++
      (given bearerToken).toList.map fun t => ("authorization", "Bearer " ++ t)
  body := body

/-- `createKeyAction` and `revokeKeyAction`. -/
def ServerAction.perform (site : Site) (session : Option Session) (a : ServerAction) :
    Except String Outgoing :=
  match session with
  | none => .error "Not authenticated"
  | some session =>
      match a with
      | createKey body =>
          .ok (apiRequest site.backendUrl "POST" "/v1/keys" (some body) session.backendJwt)
      | revokeKey keyId =>
          .ok (apiRequest site.backendUrl "DELETE" ("/v1/keys/" ++ site.encodeURIComponent keyId)
            none session.backendJwt)

/-! ## The credential of a request -/

/-- The proxy sends the session's OAuth token, and nothing without one. -/
theorem authorization_proxy (site : Site) (session : Option Session) (req : Request) :
    (proxy site session req).toOption.map Outgoing.authorization =
      (given (session.bind Session.accessToken)).map fun t => some ("Bearer " ++ t) := by
  unfold proxy
  cases given (session.bind Session.accessToken) with
  | none => rfl
  | some accessToken =>
      simp [Except.toOption, Outgoing.authorization, filterHeaders]

theorem authorization_apiRequest (baseUrl method path : String) (body bearerToken : Option String) :
    (apiRequest baseUrl method path body bearerToken).authorization =
      (given bearerToken).map fun t => "Bearer " ++ t := by
  cases hgiven : given bearerToken <;>
    simp [apiRequest, Outgoing.authorization, Headers.get, hgiven]

/-- A server action sends the backend's JWT, if the session has one. -/
theorem authorization_perform (site : Site) (session : Option Session) (a : ServerAction) :
    (a.perform site session).toOption.map Outgoing.authorization =
      session.map fun s => (given s.backendJwt).map fun t => "Bearer " ++ t := by
  cases session with
  | none => rfl
  | some s =>
      cases a with
      | createKey body => simp [ServerAction.perform, Except.toOption, authorization_apiRequest]
      | revokeKey keyId => simp [ServerAction.perform, Except.toOption, authorization_apiRequest]

/-- A session has the OAuth token of the cookie only beside no JWT. -/
theorem accessToken_session_eq_some {token : Token} {t : String} :
    (session token).accessToken = some t ↔
      given token.backendJwt = none ∧ token.accessToken = some t ∧ t ≠ "" := by
  cases hjwt : given token.backendJwt with
  | some jwt => simp [session, hjwt]
  | none => simp [session, hjwt, given_eq_some]

end Frontend
end OpenRouter
