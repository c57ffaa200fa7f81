import OpenRouter.Base.JsonLines
import OpenRouter.Base.Separators
import OpenRouter.Gateway.Handlers

/-!
# CacheKeys — what `HashRequest` hashes

The key of the L1 cache is the hash of the model, a zero byte and the body.  A model can have a zero
byte of its own, so it is the body that tells the two apart: a body that `json.Unmarshal` accepts
has none (`nul_not_mem_of_unmarshal`).
-/

namespace OpenRouter
namespace Gateway

open Base

/-! ## Requests with a key -/

/-- What `HashRequest` feeds to SHA-256. -/
def hashInput (model : String) (body : Bytes) : Bytes :=
  bytesOf model ++ 0 :: body

theorem hashRequest_eq (rt : Runtime) (model : String) (body : Bytes) :
    hashRequest rt model body = rt.sha256Hex (hashInput model body) := rfl

/-- The model and the body with which `Create` reaches the lookup. -/
def lookedUp (r : Request) : Option (String × Bytes) :=
  match r.body.readAll chatBodyLimit with
  | .error _ => none
  | .ok body =>
      match unmarshal {} decodeChatRequest body with
      | none => none
      | some req =>
          if req.model ≠ "" ∧ req.stream = false ∧ r.noCache ≠ "true" then
            some (req.model, body)
          else none

theorem lookedUp_eq_some {r : Request} {model : String} {body : Bytes}
    (h : lookedUp r = some (model, body)) :
    ∃ req, r.body.readAll chatBodyLimit = .ok body ∧
      unmarshal {} decodeChatRequest body = some req ∧ req.model = model ∧ model ≠ "" ∧
      req.stream = false ∧ r.noCache ≠ "true" := by
  unfold lookedUp at h
  cases hread : r.body.readAll chatBodyLimit with
  | error err => simp [hread] at h
  | ok body' =>
      cases hdecode : unmarshal {} decodeChatRequest body' with
      | none => simp [hread, hdecode] at h
      | some req =>
          simp only [hread, hdecode] at h
          split at h
          · rename_i hreq
            cases h
            exact ⟨req, rfl, hdecode, rfl, hreq.1, hreq.2.1, hreq.2.2⟩
          · cases h

/-- Such a request is answered from the cache, under its key, or goes on to the proxy. -/
theorem create_of_lookedUp {p : Proxy} {s : Surroundings} {r : Request} {x : Exchange}
    {model : String} {body : Bytes} (h : lookedUp r = some (model, body)) :
    p.create s r x =
      match s.cacheHit (hashRequest p.runtime model body) with
      | some e => writeEntry x e
      | none => p.createMiss s { model := model, stream := false } body x := by
  rcases lookedUp_eq_some h with ⟨req, hread, hdecode, hsame, hmodel, hstream, hcache⟩
  obtain rfl : req = { model := model, stream := false } := by
    cases req
    simp_all
  cases hhit : s.cacheHit (hashRequest p.runtime model body) with
  | some e => simp [Proxy.create, hread, hdecode, hmodel, hcache, hhit]
  | none => simp [Proxy.create, hread, hdecode, hmodel, hcache, hhit]

/-! ## Bodies without a zero byte -/

theorem nul_not_mem_of_unmarshal {α : Type} {zero v : α} {decoder : Decoder α} {body : Bytes}
    (h : unmarshal zero decoder body = some v) : 0 ∉ body := by
  rcases Option.bind_eq_some_iff.1 h with ⟨j, hparse, -⟩
  intro hmem
  -- Decoded, the zero byte is a control character, which no JSON text holds.
  rcases noControl_of_parse hparse '\x00' (nul_mem_decode hmem) with hspace | hprintable
  · exact absurd hspace (by decide)
  · exact absurd hprintable (by decide)

theorem bytesOf_inj {s t : String} (h : bytesOf s = bytesOf t) : s = t := by
  have hchars : s.toList = t.toList := by
    rw [← decode_encode s.toList, ← decode_encode t.toList]
    exact congrArg decode h
  exact String.toList_inj.1 hchars

theorem hashInput_inj {model model' : String} {body body' : Bytes} (hbody : 0 ∉ body)
    (hbody' : 0 ∉ body') (h : hashInput model body = hashInput model' body') :
    model = model' ∧ body = body' := by
  rcases append_separator_inj_right hbody hbody' h with ⟨hmodel, hsame⟩
  exact ⟨bytesOf_inj hmodel, hsame⟩

/-! ## Cached answers -/

/-- A cache with the answers of earlier requests, each under the key of its own request. -/
def cached (rt : Runtime) (answers : List (Request × Entry)) (key : String) : Option Entry :=
  answers.findSome? fun a =>
    match lookedUp a.1 with
    | some (model, body) => if hashRequest rt model body = key then some a.2 else none
    | none => none

/-- What comes out of such a cache is the answer to a request with the same input to the hash. -/
theorem exists_of_cached {rt : Runtime} {answers : List (Request × Entry)} {key : String}
    {e : Entry} (h : cached rt answers key = some e) :
    ∃ a ∈ answers, ∃ model body, a.2 = e ∧ lookedUp a.1 = some (model, body) ∧
      rt.sha256Hex (hashInput model body) = key := by
  rcases List.exists_of_findSome?_eq_some h with ⟨a, hmem, ha⟩
  cases hlook : lookedUp a.1 with
  | none => simp [hlook] at ha
  | some q =>
      simp only [hlook] at ha
      split at ha
      · rename_i hkey
        exact ⟨a, hmem, q.1, q.2, Option.some.inj ha, hlook, hkey⟩
      · cases ha

/-- Two requests that reach the lookup are hashed alike only if they have the same model and the
same body.  So, without a collision of the hash, a request that is answered from the cache gets the
answer to such a request. -/
theorem lookedUp_keyed_apart {r r' : Request} {model model' : String} {body body' : Bytes}
    (h : lookedUp r = some (model, body)) (h' : lookedUp r' = some (model', body')) :
    (hashInput model body = hashInput model' body' → model = model' ∧ body = body') ∧
      ∀ (p : Proxy) (s : Surroundings) (x : Exchange) (answers : List (Request × Entry)),
        (∀ key, s.cacheHit key = cached p.runtime answers key) →
        (∀ a ∈ answers, ∀ m b, lookedUp a.1 = some (m, b) →
          p.runtime.sha256Hex (hashInput m b) = p.runtime.sha256Hex (hashInput model body) →
            hashInput m b = hashInput model body) →
        p.create s r x = p.createMiss s { model := model, stream := false } body x ∨
          ∃ a ∈ answers, lookedUp a.1 = some (model, body) ∧ p.create s r x = writeEntry x a.2 := by
  have hnul : ∀ {q : Request} {m : String} {b : Bytes}, lookedUp q = some (m, b) → 0 ∉ b := by
    intro q m b hq
    rcases lookedUp_eq_some hq with ⟨req, -, hdecode, -⟩
    exact nul_not_mem_of_unmarshal hdecode
  refine ⟨hashInput_inj (hnul h) (hnul h'), ?_⟩
  intro p s x answers hcache hfree
  rw [create_of_lookedUp h, hcache]
  cases hhit : cached p.runtime answers (hashRequest p.runtime model body) with
  | none => exact Or.inl rfl
  | some e =>
      right
      rcases exists_of_cached hhit with ⟨a, hmem, m, b, rfl, hlook, hkey⟩
      rcases hashInput_inj (hnul hlook) (hnul h) (hfree a hmem m b hlook hkey) with ⟨rfl, rfl⟩
      exact ⟨a, hmem, hlook, rfl⟩

/-- A model with a zero byte, and a model and a body that the zero byte could have come from. -/
def nulInModel : Request where
  body := { bytes := bytesOf "\x7b\"model\":\"a\\u0000\"\x7d" }

def nulBehindModel : Request where
  body := { bytes := bytesOf "\x7b\"model\":\"a\"\x7d" }

theorem lookedUp_keyed_apart_nul :
    lookedUp nulInModel = some ("a\x00", nulInModel.body.bytes) ∧
      lookedUp nulBehindModel = some ("a", nulBehindModel.body.bytes) ∧
      hashInput "a\x00" nulInModel.body.bytes ≠ hashInput "a" nulBehindModel.body.bytes := by
  have hin : lookedUp nulInModel = some ("a\x00", nulInModel.body.bytes) := by decide +kernel
  have hbehind : lookedUp nulBehindModel = some ("a", nulBehindModel.body.bytes) := by
    decide +kernel
  refine ⟨hin, hbehind, fun hsame => ?_⟩
  have hmodel := ((lookedUp_keyed_apart hin hbehind).1 hsame).1
  exact absurd hmodel (by decide)

end Gateway
end OpenRouter
