import OpenRouter.Gateway.AuthCache
import OpenRouter.Gateway.Handlers
import OpenRouter.Gateway.RateLimit
import OpenRouter.Gateway.Relay

/-!
# Middleware — the `/api/v1` chain

`serve` is what `buildHTTPServer` mounts under `/api/v1`: `Auth`, then `RateLimit`, then the
handler of the route.  `contacted_serve_iff` says for which requests an upstream is contacted at
all.
-/

namespace OpenRouter
namespace Gateway

open Base AuthCache

/-! ## Requests and their surroundings -/

inductive Route
  | chatCompletions
  | embeddings
  | imagesGenerations
  | audioTranscriptions
  | rerank
  | videos
  | videoStatus
  | videoContent
  | models

structure ApiRequest extends Request where
  route : Route
  /-- The `Authorization` header. -/
  authorization : String

structure ApiSurroundings extends Surroundings where
  now : ℤ
  authCache : Cache
  /-- What the loaders of the auth cache come to when the L0 layer misses. -/
  load : String → Except String Metadata
  /-- `Check`; `none` is an error. -/
  check : RateLimit.Key → Option RateLimit.Result

/-- `cache.Get`. -/
def ApiSurroundings.authGet (s : ApiSurroundings) (keyHash : String) : Except String Metadata :=
  match s.authCache.read s.now keyHash with
  | some m => .ok m
  | none => s.load keyHash

/-! ## Auth -/

/-- `middleware.Identity`. -/
structure Identity where
  keyID : String
  orgID : String
  userID : String
  allowedModels : List String
  deniedModels : List String
  rateLimit : RateLimitPolicy
  budget : BudgetPolicy

/-- `unicode.IsSpace`. -/
def isUnicodeSpace (c : Char) : Bool :=
  (9 ≤ c.toNat && c.toNat ≤ 13) ||
    c.toNat ∈ [0x20, 0x85, 0xA0, 0x1680, 0x2028, 0x2029, 0x202F, 0x205F, 0x3000] ||
    (0x2000 ≤ c.toNat && c.toNat ≤ 0x200A)

/-- `strings.TrimSpace`. -/
def trimSpace (cs : List Char) : List Char :=
  ((cs.dropWhile isUnicodeSpace).reverse.dropWhile isUnicodeSpace).reverse

def bearerToken (authorization : String) : Option String :=
  if "Bearer ".toList <+: authorization.toList then
    some (String.ofList (trimSpace (authorization.toList.drop 7)))
  else none

def sha256Hex (rt : Runtime) (tok : String) : String :=
  rt.sha256Hex (bytesOf tok)

/-- `writeAuthError`. -/
def writeAuthError (x : Exchange) (code msg : String) : Exchange :=
  let x := (x.record (.setHeader "Content-Type" "application/json")).record
    (.writeHeader .handler 401)
  (x.write .handler
    (bytesOf ("\x7b\"error\":\x7b\"message\":\"" ++ msg ++
      "\",\"type\":\"authentication_error\",\"code\":\"" ++ code ++ "\"\x7d\x7d"))).2

def identityOf (m : Metadata) : Identity where
  keyID := m.keyID
  orgID := m.orgID
  userID := m.userID
  allowedModels := m.allowedModels
  deniedModels := m.deniedModels
  rateLimit := m.rateLimit
  budget := m.budget

/-- `Auth`. -/
def auth (rt : Runtime) (s : ApiSurroundings) (r : ApiRequest)
    (next : Identity → Exchange → Exchange) (x : Exchange) : Exchange :=
  match bearerToken r.authorization with
  | none => writeAuthError x "missing_api_key" "Missing Authorization: Bearer header"
  | some tok =>
      match s.authGet (sha256Hex rt tok) with
      | .error _ => writeAuthError x "auth_unavailable" "Authentication service unavailable"
      | .ok m =>
          if m.valid = false then
            writeAuthError x "invalid_api_key" "Invalid or revoked API key"
          else next (identityOf m) x

/-! ## Rate limit -/

/-- The headers of `DRD RL-003`. -/
def rateLimitHeaders (x : Exchange) (result : RateLimit.Result) : Exchange :=
  ((x.record (.setHeader "X-RateLimit-Limit" (toString result.limit.toNat))).record
    (.setHeader "X-RateLimit-Remaining" (toString result.remaining.toNat))).record
    (.setHeader "X-RateLimit-Reset" (toString (result.resetAt / 1000)))

/-- `int(time.Until(result.ResetAt).Seconds())`, at least one. -/
def retryAfter (now : ℤ) (result : RateLimit.Result) : ℤ :=
  max 1 ((result.resetAt * 1000000 - now).tdiv 1000000000)

/-- The answer to a request over the limit. -/
def writeRateLimited (x : Exchange) (now : ℤ) (result : RateLimit.Result) : Exchange :=
  let x := ((x.record (.setHeader "Retry-After" (toString (retryAfter now result)))).record
    (.setHeader "Content-Type" "application/json")).record (.writeHeader .handler 429)
  (x.write .handler
    (bytesOf ("\x7b\"error\":\x7b\"message\":\"Rate limit exceeded\"," ++
      "\"type\":\"rate_limit_error\",\"code\":\"rate_limit_exceeded\"\x7d\x7d"))).2

/-- The limiter's verdict on an identity; `none` lets the request pass without headers. -/
def rateLimitResult (s : ApiSurroundings) (ident : Identity) : Option RateLimit.Result :=
  if ident.keyID = "" then none
  else s.check { keyID := ident.keyID, requestsPerMinute := ident.rateLimit.requestsPerMinute }

/-- `RateLimit`. -/
def rateLimit (s : ApiSurroundings) (next : Exchange → Exchange) (ident : Identity)
    (x : Exchange) : Exchange :=
  match rateLimitResult s ident with
  -- Fail open on limiter errors.
  | none => next x
  | some result =>
      if result.allowed = false then writeRateLimited (rateLimitHeaders x result) s.now result
      else next (rateLimitHeaders x result)

/-! ## The chain -/

namespace Proxy

variable (p : Proxy)

/-- The handler that is mounted on a route. -/
def handle (s : ApiSurroundings) (r : ApiRequest) (x : Exchange) : Exchange :=
  match r.route with
  | .chatCompletions => p.create s.toSurroundings r.toRequest x
  | .embeddings | .imagesGenerations | .audioTranscriptions | .rerank =>
      p.proxyTo s.toSurroundings r.toRequest x
  | .videos | .videoStatus | .videoContent | .models => backendDelegate x

def serve (s : ApiSurroundings) (r : ApiRequest) (x : Exchange) : Exchange :=
  auth p.runtime s r (rateLimit s (p.handle s r)) x

end Proxy

/-! ## Who is contacted -/

/-- Some upstream has been contacted. -/
def Contacted (x : Exchange) : Prop :=
  ∃ i t o, Event.contact i t o ∈ x.events

/-- The gateway's own answers contact nobody. -/
theorem contacted_of_answers {x y : Exchange} (h : Answers x y) : Contacted y ↔ Contacted x := by
  rcases h with ⟨es, hes, hown⟩
  constructor
  · rintro ⟨i, t, o, hmem⟩
    rw [hes] at hmem
    rcases List.mem_append.1 hmem with hmem | hmem
    · exact ⟨i, t, o, hmem⟩
    · exact (hown _ hmem).elim
  · rintro ⟨i, t, o, hmem⟩
    exact ⟨i, t, o, by rw [hes]; exact List.mem_append_left _ hmem⟩

theorem answers_writeAuthError (x : Exchange) (code msg : String) :
    Answers x (writeAuthError x code msg) :=
  ((answers_record (e := .setHeader _ _) trivial).trans
    (answers_record (e := .writeHeader .handler _) rfl)).trans (answers_write _ _)

theorem answers_rateLimitHeaders (x : Exchange) (result : RateLimit.Result) :
    Answers x (rateLimitHeaders x result) :=
  ((answers_record (e := .setHeader _ _) trivial).trans
    (answers_record (e := .setHeader _ _) trivial)).trans
    (answers_record (e := .setHeader _ _) trivial)

theorem answers_writeRateLimited (x : Exchange) (now : ℤ) (result : RateLimit.Result) :
    Answers x (writeRateLimited x now result) :=
  (((answers_record (e := .setHeader _ _) trivial).trans
    (answers_record (e := .setHeader _ _) trivial)).trans
    (answers_record (e := .writeHeader .handler _) rfl)).trans (answers_write _ _)

namespace Proxy

/-- Some target of the chain is ready: it has an adapter, its breaker lets the call through, its
provider is configured, and a request can be made of the body. -/
def Ready (p : Proxy) (env : ℕ → Attempt) (body : Bytes) (i : ℕ) (ts : List Target) : Prop :=
  ∃ j t c, ts[j]? = some t ∧ p.prepare (env (i + j)) body t = .ok c

variable {p : Proxy} {env : ℕ → Attempt} {body : Bytes} {stream : Bool} {i : ℕ}
  {lastErr : GoError} {ts : List Target} {x : Exchange}

theorem ready_cons_iff {t : Target} :
    p.Ready env body i (t :: ts) ↔
      (∃ c, p.prepare (env i) body t = .ok c) ∨ p.Ready env body (i + 1) ts := by
  constructor
  · rintro ⟨j, t', c, hj, hprep⟩
    cases j with
    | zero =>
        cases hj
        exact .inl ⟨c, hprep⟩
    | succ j => exact .inr ⟨j, t', c, hj, by simpa [Nat.add_assoc, Nat.add_comm 1] using hprep⟩
  · rintro (⟨c, hprep⟩ | ⟨j, t', c, hj, hprep⟩)
    · exact ⟨0, t, c, rfl, hprep⟩
    · exact ⟨j + 1, t', c, hj, by simpa [Nat.add_assoc, Nat.add_comm 1] using hprep⟩

theorem contacted_tryTargets_iff (hx : ¬ Contacted x) :
    Contacted (p.tryTargets env body stream i lastErr ts x).2 ↔ p.Ready env body i ts := by
  induction ts generalizing i lastErr with
  | nil =>
      refine ⟨fun h => absurd h hx, ?_⟩
      rintro ⟨j, t, c, hj, -⟩
      simp at hj
  | cons t ts ih =>
      rw [ready_cons_iff]
      cases hprep : p.prepare (env i) body t with
      | error err =>
          rw [tryTargets_of_skip hprep, ih]
          simp
      | ok c =>
          -- The contact is recorded, and nothing is taken back.
          have hgrows : (x.record (.contact i t c.2)).events <+:
              (p.tryTargets env body stream i lastErr (t :: ts) x).2.events :=
            grows_of_prepare hprep grows_tryTargets
          refine ⟨fun _ => .inl ⟨c, rfl⟩, fun _ => ⟨i, t, c.2, hgrows.subset ?_⟩⟩
          simp [Exchange.record]

/-- A model resolves to a chain with a ready target. -/
def Reaches (p : Proxy) (env : ℕ → Attempt) (model : String) (body : Bytes) : Prop :=
  ∃ primary fallback, p.router.resolve model = some (primary, fallback) ∧
    p.Ready env body 0 (primary :: fallback)

theorem contacted_chatCompletion_iff {model : String} (hx : ¬ Contacted x) :
    Contacted (p.chatCompletion env model body stream x).2 ↔ p.Reaches env model body := by
  unfold chatCompletion Reaches
  cases hresolve : p.router.resolve model with
  | none => simpa using hx
  | some c =>
      rcases c with ⟨primary, fallback⟩
      simp only [contacted_tryTargets_iff hx]
      constructor
      · intro h
        exact ⟨primary, fallback, rfl, h⟩
      · rintro ⟨primary', fallback', ⟨⟩, h⟩
        exact h

theorem not_contacted_of_answers {y : Exchange} (h : Answers x y) (hx : ¬ Contacted x) :
    ¬ Contacted y := by
  rwa [contacted_of_answers h]

theorem contacted_create_iff {s : Surroundings} {r : Request} (hx : ¬ Contacted x) :
    Contacted (p.create s r x) ↔
      ∃ req body, p.forwarded s r = some (req, body) ∧ p.Reaches s.attempts req.model body := by
  cases hforwarded : p.forwarded s r with
  | none =>
      rw [contacted_of_answers (answers_create hforwarded)]
      simpa using hx
  | some c =>
      rcases c with ⟨req, body⟩
      -- The headers of a stream are no contact.
      have hy : ¬ Contacted (if req.stream then streamHeaders x else x) := by
        split
        · exact not_contacted_of_answers (answers_streamHeaders x) hx
        · exact hx
      rw [create_of_forwarded hforwarded, createMiss, contacted_of_answers (answers_conclude _),
        contacted_chatCompletion_iff hy]
      constructor
      · intro h
        exact ⟨req, body, rfl, h⟩
      · rintro ⟨req', body', ⟨⟩, h⟩
        exact h

theorem contacted_proxyTo_iff {s : Surroundings} {r : Request} (hx : ¬ Contacted x) :
    Contacted (p.proxyTo s r x) ↔
      ∃ model body, passed r = some (model, body) ∧ p.Reaches s.attempts model body := by
  cases hpassed : passed r with
  | none =>
      rw [contacted_of_answers (answers_proxyTo hpassed)]
      simpa using hx
  | some c =>
      rcases c with ⟨model, body⟩
      rw [proxyTo_of_passed hpassed, contacted_of_answers (answers_concludePassed _),
        contacted_chatCompletion_iff hx]
      constructor
      · intro h
        exact ⟨model, body, rfl, h⟩
      · rintro ⟨model', body', ⟨⟩, h⟩
        exact h

/-- The model and the body that a request's handler hands to `ChatCompletion`. -/
def handed (p : Proxy) (s : ApiSurroundings) (r : ApiRequest) : Option (String × Bytes) :=
  match r.route with
  | .chatCompletions =>
      (p.forwarded s.toSurroundings r.toRequest).map fun c => (c.1.model, c.2)
  | .embeddings | .imagesGenerations | .audioTranscriptions | .rerank => passed r.toRequest
  | .videos | .videoStatus | .videoContent | .models => none

theorem contacted_handle_iff {s : ApiSurroundings} {r : ApiRequest} (hx : ¬ Contacted x) :
    Contacted (p.handle s r x) ↔
      ∃ model body, p.handed s r = some (model, body) ∧ p.Reaches s.attempts model body := by
  cases hroute : r.route with
  | chatCompletions =>
      simp only [handle, handed, hroute]
      rw [contacted_create_iff hx]
      constructor
      · rintro ⟨req, body, hforwarded, hreaches⟩
        exact ⟨req.model, body, by simp [hforwarded], hreaches⟩
      · rintro ⟨model, body, hhanded, hreaches⟩
        rcases Option.map_eq_some_iff.1 hhanded with ⟨⟨req, body'⟩, hforwarded, hpair⟩
        cases hpair
        exact ⟨req, body', hforwarded, hreaches⟩
  | embeddings | imagesGenerations | audioTranscriptions | rerank =>
      simpa only [handle, handed, hroute] using contacted_proxyTo_iff hx
  | videos | videoStatus | videoContent | models =>
      simp only [handle, handed, hroute]
      rw [backendDelegate, contacted_of_answers (answers_writeError _ _ _ _)]
      simpa using hx

/-- The limiter lets an identity pass. -/
def Passes (s : ApiSurroundings) (ident : Identity) : Prop :=
  ∀ result, rateLimitResult s ident = some result → result.allowed = true

theorem contacted_rateLimit_iff {s : ApiSurroundings} {r : ApiRequest} {ident : Identity}
    (hx : ¬ Contacted x) :
    Contacted (rateLimit s (p.handle s r) ident x) ↔
      Passes s ident ∧
        ∃ model body, p.handed s r = some (model, body) ∧ p.Reaches s.attempts model body := by
  unfold rateLimit Passes
  cases hresult : rateLimitResult s ident with
  | none => simpa using contacted_handle_iff hx
  | some result =>
      -- The limiter's headers are no contact, and neither is its refusal.
      have hy : ¬ Contacted (rateLimitHeaders x result) :=
        not_contacted_of_answers (answers_rateLimitHeaders x result) hx
      cases hallowed : result.allowed with
      | false =>
          have hz := not_contacted_of_answers (answers_writeRateLimited _ s.now result) hy
          simpa [hallowed] using hz
      | true => simpa [hallowed] using contacted_handle_iff hy

/-- An upstream is contacted exactly for a valid key that the limiter lets pass, with a body that
the handler hands on and a model that reaches a target. -/
theorem contacted_serve_iff {s : ApiSurroundings} {r : ApiRequest} (hx : ¬ Contacted x) :
    Contacted (p.serve s r x) ↔
      ∃ tok m model body, bearerToken r.authorization = some tok ∧
        s.authGet (sha256Hex p.runtime tok) = .ok m ∧ m.valid = true ∧ Passes s (identityOf m) ∧
        p.handed s r = some (model, body) ∧ p.Reaches s.attempts model body := by
  unfold serve auth
  -- The checks in the order of the chain; each failing one answers by itself.
  cases htok : bearerToken r.authorization with
  | none =>
      simp only [contacted_of_answers (answers_writeAuthError _ _ _)]
      simpa using hx
  | some tok =>
      cases hget : s.authGet (sha256Hex p.runtime tok) with
      | error err =>
          simp only [hget, contacted_of_answers (answers_writeAuthError _ _ _)]
          refine ⟨fun h => absurd h hx, ?_⟩
          rintro ⟨tok', m, model, body, ⟨⟩, hm, -⟩
          rw [hget] at hm
          cases hm
      | ok m =>
          cases hvalid : m.valid with
          | false =>
              simp only [hget, hvalid, if_true, contacted_of_answers (answers_writeAuthError _ _ _)]
              refine ⟨fun h => absurd h hx, ?_⟩
              rintro ⟨tok', m', model, body, ⟨⟩, hm, hv, -⟩
              rw [hget] at hm
              cases hm
              rw [hvalid] at hv
              cases hv
          | true =>
              simp only [hget, hvalid, Bool.true_eq_false, if_false, contacted_rateLimit_iff hx]
              constructor
              · rintro ⟨hpass, model, body, hhanded, hreaches⟩
                exact ⟨tok, m, model, body, rfl, hget, hvalid, hpass, hhanded, hreaches⟩
              · rintro ⟨tok', m', model, body, ⟨⟩, hm, -, hpass, hhanded, hreaches⟩
                rw [hget] at hm
                cases hm
                exact ⟨hpass, model, body, hhanded, hreaches⟩

end Proxy

end Gateway
end OpenRouter
