import OpenRouter.Backend.Keys
import OpenRouter.Gateway.Anthropic
import OpenRouter.Gateway.Middleware

/-!
# Access — the key's policy at the gateway

`PolicyAdmits` is what the cached metadata of a key says about a model at an instant; on the model
lists and the expiry it is the decision of the backend (`listsAdmit_iff_validateForRequest`).
`policyObeyed_iff` says for which requests the `/api/v1` chain contacts an upstream against it.
-/

namespace OpenRouter
namespace Gateway

open Base AuthCache
open Backend (APIKey validateForRequest)

/-! ## The policy -/

/-- The part of a policy that the backend checks as well: the expiry and the model lists. -/
structure ListsAdmit (m : Metadata) (now : ℤ) (model : String) : Prop where
  expiry : ∀ t, m.expiresAt = some t → now ≤ t
  denied : model ∉ m.deniedModels
  allowed : m.allowedModels = [] ∨ model ∈ m.allowedModels

structure PolicyAdmits (m : Metadata) (now : ℤ) (model : String) : Prop where
  valid : m.valid = true
  lists : ListsAdmit m now model
  budget : m.budget.hardStop = true → 0 < m.budget.remainingCredits

/-- The metadata carries the key's own lists and expiry. -/
structure Carries (m : Metadata) (key : APIKey) : Prop where
  expiresAt : m.expiresAt = key.expiresAt
  deniedModels : m.deniedModels = key.deniedModels
  allowedModels : m.allowedModels = key.allowedModels

/-- For a stored key that is not revoked, the two sides decide alike. -/
theorem listsAdmit_iff_validateForRequest {sha256Lookup : String → String}
    {verify : String → String → Bool} {find : String → Option APIKey} {now : ℤ}
    {plaintext model : String} {key : APIKey} {m : Metadata}
    (hfind : find (sha256Lookup plaintext) = some key)
    (hverify : verify plaintext key.keyHash = true) (hrevoked : key.revokedAt = none)
    (hcarries : Carries m key) :
    ListsAdmit m now model ↔
      validateForRequest sha256Lookup verify find now plaintext model = .ok key := by
  rw [Backend.validateForRequest_eq_ok hfind hverify, APIKey.assertUsable_eq_ok,
    APIKey.assertModelAllowed_eq_ok, ← hcarries.expiresAt, ← hcarries.deniedModels,
    ← hcarries.allowedModels]
  constructor
  · intro h
    exact ⟨⟨hrevoked, h.expiry⟩, h.denied, h.allowed⟩
  · rintro ⟨⟨-, hexpiry⟩, hdenied, hallowed⟩
    exact { expiry := hexpiry, denied := hdenied, allowed := hallowed }

/-! ## The chain -/

/-- An upstream is contacted only for a model that the policy of the presented key admits. -/
def PolicyObeyed (p : Proxy) (s : ApiSurroundings) (r : ApiRequest) (x : Exchange) : Prop :=
  ∀ i t o, .contact i t o ∈ (p.serve s r x).events →
    ∃ tok m model body, bearerToken r.authorization = some tok ∧
      s.authGet (sha256Hex p.runtime tok) = .ok m ∧ p.handed s r = some (model, body) ∧
      PolicyAdmits m s.now model

/-- The metadata, the model and the body of a request that nothing stops before its upstream. -/
structure Unstopped (p : Proxy) (s : ApiSurroundings) (r : ApiRequest) (m : Metadata)
    (model : String) (body : Bytes) : Prop where
  authenticated : ∃ tok, bearerToken r.authorization = some tok ∧
    s.authGet (sha256Hex p.runtime tok) = .ok m
  valid : m.valid = true
  passes : Proxy.Passes s (identityOf m)
  handed : p.handed s r = some (model, body)
  reaches : p.Reaches s.attempts model body

theorem contacted_iff_unstopped {p : Proxy} {s : ApiSurroundings} {r : ApiRequest} {x : Exchange}
    (hx : ¬ Contacted x) :
    Contacted (p.serve s r x) ↔ ∃ m model body, Unstopped p s r m model body := by
  rw [Proxy.contacted_serve_iff hx]
  constructor
  · rintro ⟨tok, m, model, body, htok, hget, hvalid, hpasses, hhanded, hreaches⟩
    exact ⟨m, model, body,
      { authenticated := ⟨tok, htok, hget⟩
        valid := hvalid
        passes := hpasses
        handed := hhanded
        reaches := hreaches }⟩
  · rintro ⟨m, model, body, h⟩
    rcases h.authenticated with ⟨tok, htok, hget⟩
    exact ⟨tok, m, model, body, htok, hget, h.valid, h.passes, h.handed, h.reaches⟩

/-- Nothing in the chain looks at the policy but the `Valid` flag: it is obeyed exactly when it
admits the model of the request, or something else stops the request.  On the lists and the expiry
the policy is the backend's decision. -/
theorem policyObeyed_iff (p : Proxy) (s : ApiSurroundings) (r : ApiRequest)
    (fault : ℕ → Option (ℕ × GoError)) (flusher : Bool) :
    (PolicyObeyed p s r { fault := fault, flusher := flusher } ↔
        ∀ m model body, Unstopped p s r m model body →
          ListsAdmit m s.now model ∧
            (m.budget.hardStop = true → 0 < m.budget.remainingCredits)) ∧
      ∀ (sha256Lookup : String → String) (verify : String → String → Bool)
        (find : String → Option APIKey) (plaintext model : String) (key : APIKey) (m : Metadata),
        find (sha256Lookup plaintext) = some key → verify plaintext key.keyHash = true →
        key.revokedAt = none → Carries m key →
        (ListsAdmit m s.now model ↔
          validateForRequest sha256Lookup verify find s.now plaintext model = .ok key) := by
  let x : Exchange := { fault := fault, flusher := flusher }
  have hx : ¬ Contacted x := by
    rintro ⟨i, t, o, hmem⟩
    simp [x] at hmem
  refine ⟨⟨fun h m model body hun => ?_, fun h i t o hmem => ?_⟩, ?_⟩
  -- Nothing stops the request, so an upstream is contacted, and the policy must admit it.
  · rcases (contacted_iff_unstopped hx).2 ⟨m, model, body, hun⟩ with ⟨i, t, o, hmem⟩
    rcases h i t o hmem with ⟨tok, m', model', body', htok, hget, hhanded, hadmits⟩
    rcases hun.authenticated with ⟨tok', htok', hget'⟩
    rw [htok] at htok'
    cases htok'
    rw [hget] at hget'
    cases hget'
    rw [hun.handed] at hhanded
    cases hhanded
    exact ⟨hadmits.lists, hadmits.budget⟩
  -- A contact is one of an unstopped request, which the policy admits.
  · rcases (contacted_iff_unstopped hx).1 ⟨i, t, o, hmem⟩ with ⟨m, model, body, hun⟩
    rcases hun.authenticated with ⟨tok, htok, hget⟩
    rcases h m model body hun with ⟨hlists, hbudget⟩
    exact ⟨tok, m, model, body, htok, hget, hun.handed,
      { valid := hun.valid, lists := hlists, budget := hbudget }⟩
  · intro sha256Lookup verify find plaintext model key m hfind hverify hrevoked hcarries
    exact listsAdmit_iff_validateForRequest hfind hverify hrevoked hcarries

/-! ## A denied model -/

/-- A key that must not use `gpt-4o`, presented with a request for it. -/
def deniedKey : Metadata where
  valid := true
  keyID := "key_1"
  deniedModels := ["gpt-4o"]

def deniedSurroundings : ApiSurroundings where
  attempts := fun _ => { reply := .error (.text "connection refused") }
  cacheGet := fun _ => .ok none
  now := 0
  authCache :=
    { ttl := 60000000000, loaders := 2, data := ∅, cap := 10000
      loaders_pos := Nat.two_pos, cap_pos := by decide }
  load := fun _ => .ok deniedKey
  check := fun _ => some { allowed := true, limit := 0, remaining := 0, resetAt := 60000 }

def deniedRequest : ApiRequest where
  body := { bytes := marshal (.obj [("model", .str "gpt-4o")]) }
  route := .chatCompletions
  authorization := "Bearer sk-or-v1-1"

/-- The gateway asks for a model that the key's policy denies. -/
theorem denied_model_is_requested :
    ¬ ∀ (rt : Runtime) (router : Router) (s : ApiSurroundings) (r : ApiRequest)
        (fault : ℕ → Option (ℕ × GoError)) (flusher : Bool),
      PolicyObeyed (newProxy rt router) s r { fault := fault, flusher := flusher } := by
  intro h
  have hcontacts :
      ((newProxy plainRuntime twoProviders).serve deniedSurroundings deniedRequest
        { fault := fun _ => none, flusher := false }).events.any
          (fun e => match e with
            | .contact _ _ _ => true
            | _ => false) = true := by
    decide +kernel
  rcases List.any_eq_true.1 hcontacts with ⟨e, hmem, he⟩
  cases e with
  | contact i t o =>
      rcases h plainRuntime twoProviders deniedSurroundings deniedRequest (fun _ => none) false
        i t o hmem with ⟨tok, m, model, body, -, hget, hhanded, hadmits⟩
      have hm : m = deniedKey := by
        cases hget
        rfl
      -- What is handed on is the model that the key's deny list names.
      have hmodel : (model, body) = ("gpt-4o", marshal (.obj [("model", .str "gpt-4o")])) := by
        have hvalue : (newProxy plainRuntime twoProviders).handed deniedSurroundings
            deniedRequest = some ("gpt-4o", marshal (.obj [("model", .str "gpt-4o")])) := by
          decide +kernel
        rw [hvalue] at hhanded
        cases hhanded
        rfl
      cases hmodel
      subst hm
      exact hadmits.lists.denied List.mem_cons_self
  | _ => cases he

end Gateway
end OpenRouter
