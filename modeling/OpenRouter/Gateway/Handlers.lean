import OpenRouter.Gateway.Proxy
import OpenRouter.Gateway.Unmarshal

/-!
# Handlers — the chat handler and the pass-through handlers

Everything that `api/handlers` does with a response writer on the way to `ChatCompletion` and
after it.
-/

namespace OpenRouter
namespace Gateway

open Base

/-! ## Requests -/

/-- A request body as the server reads it: its bytes, and the error that ends it early. -/
structure RequestBody where
  bytes : Bytes
  readError : Option GoError := none

/-- `io.ReadAll` behind `http.MaxBytesReader`. -/
def RequestBody.readAll (b : RequestBody) (limit : ℕ) : Except GoError Bytes :=
  if b.bytes.length > limit then .error (.text "http: request body too large")
  else
    match b.readError with
    | some err => .error err
    | none => .ok b.bytes

/-- `10<<20`. -/
def chatBodyLimit : ℕ := 10 * 2 ^ 20

/-- `50<<20`. -/
def proxyBodyLimit : ℕ := 50 * 2 ^ 20

structure Request where
  body : RequestBody
  /-- The `X-No-Cache` header. -/
  noCache : String := ""

/-- `cache.Entry`. -/
structure Entry where
  body : Bytes
  contentType : String
  status : ℕ

/-- What answers the calls that one request makes to other components. -/
structure Surroundings where
  attempts : ℕ → Attempt
  cacheGet : String → Except GoError (Option Entry)

/-- The hit of an L1 lookup; an error of the lookup counts as a miss. -/
def Surroundings.cacheHit (s : Surroundings) (key : String) : Option Entry :=
  match s.cacheGet key with
  | .ok hit => hit
  | .error _ => none

/-- `cache.HashRequest`. -/
def hashRequest (rt : Runtime) (model : String) (body : Bytes) : String :=
  rt.sha256Hex (bytesOf model ++ 0 :: body)

structure ChatRequest where
  model : String := ""
  stream : Bool := false

def decodeChatRequest : Decoder ChatRequest :=
  decodeStruct fun key req v =>
    if isField "model" key then
      (decodeString req.model v).map fun model => { req with model := model }
    else if isField "stream" key then
      (decodeBool req.stream v).map fun stream => { req with stream := stream }
    else some req

/-- The anonymous struct of `proxyTo`. -/
def decodeModelField : Decoder String :=
  decodeStruct fun key model v => if isField "model" key then decodeString model v else some model

/-! ## Handlers -/

/-- What `writeError` encodes; the keys of a map come sorted. -/
def errorBody (code msg : String) : Bytes :=
  marshal (.obj [("error", .obj [("code", .str code), ("message", .str msg), ("type", .str code)])])
    ++ bytesOf "\n"

def writeError (x : Exchange) (status : ℕ) (code msg : String) : Exchange :=
  let x := (x.record (.setHeader "Content-Type" "application/json")).record
    (.writeHeader .handler status)
  (x.write .handler (errorBody code msg)).2

/-- The answer to an L1 hit. -/
def writeEntry (x : Exchange) (e : Entry) : Exchange :=
  let x := ((x.record (.setHeader "X-Cache" "HIT")).record
    (.setHeader "Content-Type" e.contentType)).record (.writeHeader .handler e.status)
  (x.write .handler e.body).2

/-- The headers of an event stream. -/
def streamHeaders (x : Exchange) : Exchange :=
  ((x.record (.setHeader "Content-Type" "text/event-stream")).record
    (.setHeader "Cache-Control" "no-cache")).record (.setHeader "Connection" "keep-alive")

/-- What `Create` makes of the outcome of `ChatCompletion`. -/
def conclude : Option GoError × Exchange → Exchange
  | (none, x) => x
  | (some err, x) =>
      -- The client has disconnected.
      if err.isCanceled then x
      else writeError x 503 "providers_unavailable" err.error

/-- What `proxyTo` makes of it. -/
def concludePassed : Option GoError × Exchange → Exchange
  | (none, x) => x
  | (some err, x) => writeError x 503 "providers_unavailable" err.error

namespace Proxy

variable (p : Proxy)

/-- The end of `Create`, from `ChatCompletion` on. -/
def createMiss (s : Surroundings) (req : ChatRequest) (body : Bytes) (x : Exchange) : Exchange :=
  conclude (p.chatCompletion s.attempts req.model body req.stream
    (if req.stream then streamHeaders x else x))

/-- `ChatHandler.Create`. -/
def create (s : Surroundings) (r : Request) (x : Exchange) : Exchange :=
  match r.body.readAll chatBodyLimit with
  | .error err => writeError x 400 "invalid_request" err.error
  | .ok body =>
      match unmarshal {} decodeChatRequest body with
      | none =>
          writeError x 400 "invalid_request"
            ("malformed JSON: " ++ p.runtime.unmarshalError "chatRequest" body)
      | some req =>
          if req.model = "" then writeError x 400 "invalid_request" "model is required"
          else if req.stream = false ∧ r.noCache ≠ "true" then
            match s.cacheHit (hashRequest p.runtime req.model body) with
            | some e => writeEntry x e
            | none => p.createMiss s req body x
          else p.createMiss s req body x

/-- `proxyTo`. -/
def proxyTo (s : Surroundings) (r : Request) (x : Exchange) : Exchange :=
  match r.body.readAll proxyBodyLimit with
  | .error err => writeError x 400 "invalid_request" err.error
  | .ok body =>
      match unmarshal "" decodeModelField body with
      | none => writeError x 400 "invalid_request" (p.runtime.unmarshalError "" body)
      | some model => concludePassed (p.chatCompletion s.attempts model body false x)

end Proxy

/-- `backendDelegate`. -/
def backendDelegate (x : Exchange) : Exchange :=
  writeError x 501 "not_implemented" "backend delegation pending"

/-! ## Which requests reach the proxy -/

/-- The events of an answer that the gateway gives by itself. -/
def Event.OwnAnswer : Event → Prop
  | .contact _ _ _ => False
  | .writeHeader src _ => src = .handler
  | .write src _ => src = .handler
  | .setHeader _ _ => True
  | .flush => True

/-- Only events of the gateway's own answer are added. -/
def Answers (x x' : Exchange) : Prop :=
  ∃ es, x'.events = x.events ++ es ∧ ∀ e ∈ es, e.OwnAnswer

theorem Answers.refl (x : Exchange) : Answers x x :=
  ⟨[], by simp, by simp⟩

theorem Answers.trans {x y z : Exchange} (h : Answers x y) (h' : Answers y z) : Answers x z := by
  rcases h with ⟨es, hes, hown⟩
  rcases h' with ⟨es', hes', hown'⟩
  refine ⟨es ++ es', by rw [hes', hes, List.append_assoc], ?_⟩
  exact List.forall_mem_append.2 ⟨hown, hown'⟩

theorem answers_record {x : Exchange} {e : Event} (h : e.OwnAnswer) : Answers x (x.record e) :=
  ⟨[e], rfl, by simpa using h⟩

theorem answers_write (x : Exchange) (bs : Bytes) : Answers x (x.write .handler bs).2 := by
  unfold Exchange.write
  split
  · exact ⟨[.write .handler bs], rfl, by simp [Event.OwnAnswer]⟩
  · rename_i n err hfault
    exact ⟨[.write .handler (bs.take n)], rfl, by simp [Event.OwnAnswer]⟩

theorem answers_writeError (x : Exchange) (status : ℕ) (code msg : String) :
    Answers x (writeError x status code msg) :=
  ((answers_record (e := .setHeader "Content-Type" "application/json") trivial).trans
    (answers_record (e := .writeHeader .handler status) rfl)).trans (answers_write _ _)

theorem answers_writeEntry (x : Exchange) (e : Entry) : Answers x (writeEntry x e) :=
  (((answers_record (e := .setHeader "X-Cache" "HIT") trivial).trans
    (answers_record (e := .setHeader "Content-Type" _) trivial)).trans
    (answers_record (e := .writeHeader .handler _) rfl)).trans (answers_write _ _)

theorem answers_streamHeaders (x : Exchange) : Answers x (streamHeaders x) :=
  ((answers_record (e := .setHeader "Content-Type" _) trivial).trans
    (answers_record (e := .setHeader "Cache-Control" _) trivial)).trans
    (answers_record (e := .setHeader "Connection" _) trivial)

theorem conclude_of_isCanceled {err : GoError} (herr : err.isCanceled = true) (x : Exchange) :
    conclude (some err, x) = x := by
  simp [conclude, herr]

theorem answers_conclude (out : Option GoError × Exchange) : Answers out.2 (conclude out) := by
  rcases out with ⟨r, x⟩
  cases r with
  | none => exact Answers.refl x
  | some err =>
      cases herr : err.isCanceled with
      | true => simpa [conclude, herr] using Answers.refl x
      | false =>
          simpa [conclude, herr] using answers_writeError x 503 "providers_unavailable" err.error

theorem answers_concludePassed (out : Option GoError × Exchange) :
    Answers out.2 (concludePassed out) := by
  rcases out with ⟨r, x⟩
  cases r with
  | none => exact Answers.refl x
  | some err => exact answers_writeError x 503 "providers_unavailable" err.error

namespace Proxy

variable (p : Proxy)

/-- The request that `Create` hands to `ChatCompletion`. -/
def forwarded (s : Surroundings) (r : Request) : Option (ChatRequest × Bytes) :=
  match r.body.readAll chatBodyLimit with
  | .error _ => none
  | .ok body =>
      match unmarshal {} decodeChatRequest body with
      | none => none
      | some req =>
          if req.model = "" then none
          else if req.stream = false ∧ r.noCache ≠ "true" then
            match s.cacheHit (hashRequest p.runtime req.model body) with
            | some _ => none
            | none => some (req, body)
          else some (req, body)

variable {p} {s : Surroundings} {r : Request} {x : Exchange}

theorem create_of_forwarded {req : ChatRequest} {body : Bytes}
    (h : p.forwarded s r = some (req, body)) : p.create s r x = p.createMiss s req body x := by
  unfold forwarded at h
  cases hread : r.body.readAll chatBodyLimit with
  | error err => simp [hread] at h
  | ok body' =>
      cases hdecode : unmarshal {} decodeChatRequest body' with
      | none => simp [hread, hdecode] at h
      | some req' =>
          simp only [hread, hdecode] at h
          split_ifs at h with hmodel hcache
          · cases hhit : s.cacheHit (hashRequest p.runtime req'.model body') with
            | some e => simp [hhit] at h
            | none =>
                simp only [hhit] at h
                cases h
                simp [create, hread, hdecode, hmodel, hcache, hhit]
          · cases h
            simp [create, hread, hdecode, hmodel, hcache]

/-- The other requests are answered by the handler alone. -/
theorem answers_create (h : p.forwarded s r = none) : Answers x (p.create s r x) := by
  unfold forwarded at h
  unfold create
  cases hread : r.body.readAll chatBodyLimit with
  | error err => exact answers_writeError _ _ _ _
  | ok body =>
      cases hdecode : unmarshal {} decodeChatRequest body with
      | none => simpa [hdecode] using answers_writeError _ _ _ _
      | some req =>
          simp only [hread, hdecode] at h ⊢
          split_ifs at h ⊢ with hmodel hcache
          · exact answers_writeError _ _ _ _
          · cases hhit : s.cacheHit (hashRequest p.runtime req.model body) with
            | some e => exact answers_writeEntry _ _
            | none => simp [hhit] at h

/-- The model and the body that `proxyTo` hands to `ChatCompletion`. -/
def passed (r : Request) : Option (String × Bytes) :=
  match r.body.readAll proxyBodyLimit with
  | .error _ => none
  | .ok body => (unmarshal "" decodeModelField body).map fun model => (model, body)

theorem proxyTo_of_passed {model : String} {body : Bytes} (h : passed r = some (model, body)) :
    p.proxyTo s r x = concludePassed (p.chatCompletion s.attempts model body false x) := by
  unfold passed at h
  cases hread : r.body.readAll proxyBodyLimit with
  | error err => simp [hread] at h
  | ok body' =>
      cases hdecode : unmarshal "" decodeModelField body' with
      | none => simp [hread, hdecode] at h
      | some model' =>
          simp only [hread, hdecode] at h
          cases h
          simp only [proxyTo, hread, hdecode]

theorem answers_proxyTo (h : passed r = none) : Answers x (p.proxyTo s r x) := by
  unfold passed at h
  unfold proxyTo
  cases hread : r.body.readAll proxyBodyLimit with
  | error err => exact answers_writeError _ _ _ _
  | ok body =>
      cases hdecode : unmarshal "" decodeModelField body with
      | none => simpa [hdecode] using answers_writeError _ _ _ _
      | some model => simp [hread, hdecode] at h

end Proxy

end Gateway
end OpenRouter
