import OpenRouter.Gateway.Adapter

/-!
# Proxy — the fallback chain of one chat completion

`chatCompletion` walks the chain that the router resolves and runs `send` on one target after
another.  An `Exchange` collects, in order, what that does to the outside: the requests sent
upstream and the calls on the `http.ResponseWriter`.  What the surroundings answer at the `i`-th
position (the breaker, the HTTP client, the upstream) is the `i`-th `Attempt`.

`tryTargets_of_skip`, `tryTargets_of_decline` and `tryTargets_of_relay` say all that can become of
one target.
-/

namespace OpenRouter
namespace Gateway

open Base

/-! ## The router -/

/-- `router.state`; the loader files every entry under its own id. -/
structure Router where
  providers : AList fun _ : String => ProviderConfig
  models : AList fun _ : String => ModelEntry
  named : ∀ name m, models.lookup name = some m → m.id = name

/-- What `providers.yaml` holds. -/
structure ConfigFile where
  providers : AList fun _ : String => ProviderConfig
  models : List ModelEntry

/-- The models map of `LoadFromFile`; a later entry replaces an earlier one of the same id. -/
def modelsMap (entries : List ModelEntry) : AList fun _ : String => ModelEntry :=
  entries.foldl (fun models m => models.insert m.id m) ∅

theorem named_modelsMap (entries : List ModelEntry) :
    ∀ name m, (modelsMap entries).lookup name = some m → m.id = name := by
  suffices h : ∀ models : AList fun _ : String => ModelEntry,
      (∀ name m, models.lookup name = some m → m.id = name) →
      ∀ name m, (entries.foldl (fun models m => models.insert m.id m) models).lookup name = some m →
        m.id = name from h ∅ (by simp)
  induction entries with
  | nil =>
      intro models hmodels
      exact hmodels
  | cons entry entries ih =>
      intro models hmodels
      refine ih (models.insert entry.id entry) fun name m hm => ?_
      by_cases hname : name = entry.id
      · subst hname
        rw [AList.lookup_insert] at hm
        cases hm
        rfl
      · rw [AList.lookup_insert_ne hname] at hm
        exact hmodels name m hm

namespace Router

/-- `LoadFromFile`, behind the reading and the YAML. -/
def load (f : ConfigFile) : Router where
  providers := f.providers
  models := modelsMap f.models
  named := named_modelsMap f.models

/-- `Resolve`: the primary target and the fallback chain. -/
def resolve (r : Router) (name : String) : Option (Target × List Target) :=
  (r.models.lookup name).map fun m => ({ provider := m.provider, model := m.id }, m.fallback)

/-- `Provider`. -/
def provider (r : Router) (name : String) : Option ProviderConfig :=
  r.providers.lookup name

end Router

/-! ## The outside -/

/-- Who makes a call on the response writer. -/
inductive Source
  | target (i : ℕ)
  | handler
  deriving DecidableEq

structure Outbound where
  url : String
  headers : AList fun _ : String => String
  body : Bytes

inductive Event
  /-- The HTTP client is given the request of the `i`-th position. -/
  | contact (i : ℕ) (t : Target) (o : Outbound)
  | setHeader (key value : String)
  | writeHeader (src : Source) (status : ℕ)
  /-- The bytes that a `Write` took. -/
  | write (src : Source) (bs : Bytes)
  | flush

/-- One request's dealings with the outside.  The `n`-th `Write` takes all its bytes or, at a
`fault`, some of them and fails. -/
structure Exchange where
  fault : ℕ → Option (ℕ × GoError)
  flusher : Bool
  writes : ℕ := 0
  events : List Event := []

namespace Exchange

def record (x : Exchange) (e : Event) : Exchange :=
  { x with events := x.events ++ [e] }

def flush (x : Exchange) : Exchange :=
  if x.flusher then x.record .flush else x

/-- `w.Write`. -/
def write (x : Exchange) (src : Source) (bs : Bytes) : Option GoError × Exchange :=
  match x.fault x.writes with
  | none => (none, { x.record (.write src bs) with writes := x.writes + 1 })
  | some (n, err) => (some err, { x.record (.write src (bs.take n)) with writes := x.writes + 1 })

/-- Writes in order, up to the first that fails. -/
def writeAll (x : Exchange) (src : Source) : List Bytes → Option GoError × Exchange
  | [] => (none, x)
  | bs :: rest =>
      match x.write src bs with
      | (some err, x') => (some err, x')
      | (none, x') => x'.writeAll src rest

end Exchange

/-! ## One target -/

/-- An upstream response: the header, the bytes of the reads of its body, and what comes with the
last of them: `io.EOF` (`none`) or another error. -/
structure Reply where
  status : ℕ
  contentType : String
  reads : List Bytes
  readError : Option GoError := none

/-- What the surroundings answer at one position of the chain. -/
structure Attempt where
  /-- The error with which `breaker.Execute` refuses to run the call. -/
  refusal : Option GoError := none
  /-- The error of `http.NewRequestWithContext`. -/
  newRequestError : Option GoError := none
  /-- The outcome of `Do`. -/
  reply : Except GoError Reply

/-- The statement of `send` whose error comes back, and that error. -/
inductive SendFailure
  | notConfigured (provider : String)
  | normalize (err : GoError)
  | newRequest (err : GoError)
  | transport (err : GoError)
  | status (code : ℕ)
  | translate (err : GoError)
  | read (err : GoError)
  | response (err : GoError)
  | write (err : GoError)

structure Proxy where
  runtime : Runtime
  router : Router
  adapters : String → Option ProviderAdapter

/-- The error that `send` returns. -/
def SendFailure.toError (rt : Runtime) : SendFailure → GoError
  | notConfigured provider => .text ("provider " ++ rt.quote provider ++ " not configured")
  | normalize err => .wrap "normalize" err
  | status code => .text ("provider returned " ++ toString code)
  | newRequest err | transport err | translate err | read err | response err | write err => err

/-- `writeChunk`. -/
def writeChunk (tr : StreamTranslator) (i : ℕ) (s : tr.State) (chunk : Bytes) (x : Exchange) :
    Except SendFailure tr.State × Exchange :=
  if chunk.length = 0 then (.ok s, x)
  else
    match x.writeAll (.target i) (tr.translate s chunk).1 with
    | (some err, x') => (.error (.write err), x')
    | (none, x') =>
        match (tr.translate s chunk).2 with
        | .error err => (.error (.translate err), x')
        | .ok s' => (.ok s', x'.flush)

/-- `finishStream`. -/
def finishStream (tr : StreamTranslator) (i : ℕ) (s : tr.State) (x : Exchange) :
    Option SendFailure × Exchange :=
  match x.writeAll (.target i) (tr.close s).1 with
  | (some err, x') => (some (.write err), x')
  | (none, x') =>
      match (tr.close s).2 with
      | .error err => (some (.translate err), x')
      | .ok _ => (none, x'.flush)

/-- The loop of `streamResponse`, with the reads that are still to come.  The bytes of a read are
translated before its error is looked at. -/
def streamLoop (tr : StreamTranslator) (i : ℕ) (readError : Option GoError) :
    List Bytes → tr.State → Exchange → Option SendFailure × Exchange
  | chunk :: reads, s, x =>
      match writeChunk tr i s chunk x with
      | (.error f, x') => (some f, x')
      | (.ok s', x') => streamLoop tr i readError reads s' x'
  | [], s, x =>
      match readError with
      | none => finishStream tr i s x
      | some err => (some (.read err), x)

def streamResponse (a : ProviderAdapter) (i : ℕ) (resp : Reply) (x : Exchange) :
    Option SendFailure × Exchange :=
  streamLoop a.newStreamTranslator i resp.readError resp.reads a.newStreamTranslator.start x

/-- `io.ReadAll` of the body. -/
def Reply.readAll (resp : Reply) : Except GoError Bytes :=
  match resp.readError with
  | none => .ok resp.reads.flatten
  | some err => .error err

def bufferedResponse (a : ProviderAdapter) (i : ℕ) (resp : Reply) (x : Exchange) :
    Option SendFailure × Exchange :=
  match resp.readAll with
  | .error err => (some (.read err), x)
  | .ok full =>
      match a.normalizeResponse full with
      | .error err => (some (.response err), x)
      | .ok normalized =>
          match x.write (.target i) normalized with
          | (some err, x') => (some (.write err), x')
          | (none, x') => (none, x')

/-- The end of `send`, from the header of an accepted reply on. -/
def relay (a : ProviderAdapter) (i : ℕ) (stream : Bool) (resp : Reply) (x : Exchange) :
    Option SendFailure × Exchange :=
  let x := (x.record (.setHeader "Content-Type" resp.contentType)).record
    (.writeHeader (.target i) resp.status)
  if stream then streamResponse a i resp x else bufferedResponse a i resp x

namespace Proxy

variable (p : Proxy)

def send (env : Attempt) (i : ℕ) (target : Target) (a : ProviderAdapter) (body : Bytes)
    (stream : Bool) (x : Exchange) : Option SendFailure × Exchange :=
  match p.router.provider target.provider with
  | none => (some (.notConfigured target.provider), x)
  | some cfg =>
      match a.normalizeRequest target.model body cfg with
      | .error err => (some (.normalize err), x)
      | .ok upstream =>
          match env.newRequestError with
          | some err => (some (.newRequest err), x)
          | none =>
              let x := x.record (.contact i target
                { url := cfg.baseURL ++ upstream.path
                  headers := upstream.headers
                  body := upstream.body })
              match env.reply with
              | .error err => (some (.transport err), x)
              | .ok resp =>
                  if resp.status ≥ 500 ∨ resp.status = 429 then (some (.status resp.status), x)
                  else relay a i stream resp x

/-- The loop of `ChatCompletion` from the `i`-th position on. -/
def tryTargets (env : ℕ → Attempt) (body : Bytes) (stream : Bool) :
    ℕ → GoError → List Target → Exchange → Option GoError × Exchange
  | _, lastErr, [], x => (some (.wrap "all providers failed" lastErr), x)
  | i, _, t :: ts, x =>
      match p.adapters t.provider with
      | none =>
          tryTargets env body stream (i + 1)
            (.text ("no adapter for provider " ++ p.runtime.quote t.provider)) ts x
      | some a =>
          match (env i).refusal with
          | some err => tryTargets env body stream (i + 1) err ts x
          | none =>
              match p.send (env i) i t a body stream x with
              | (none, x') => (none, x')
              | (some f, x') => tryTargets env body stream (i + 1) (f.toError p.runtime) ts x'

def chatCompletion (env : ℕ → Attempt) (modelID : String) (body : Bytes) (stream : Bool)
    (x : Exchange) : Option GoError × Exchange :=
  match p.router.resolve modelID with
  | none => (some (.text ("unknown model " ++ p.runtime.quote modelID)), x)
  | some (primary, fallback) =>
      -- `lastErr` is nil before the first pass; the chain is not empty.
      p.tryTargets env body stream 0 (.text "") (primary :: fallback) x

/-! ## What becomes of one target -/

/-- How far a target gets before the HTTP client is called: why it is passed over, or the request
that is sent. -/
def prepare (env : Attempt) (body : Bytes) (t : Target) :
    Except GoError (ProviderAdapter × Outbound) :=
  match p.adapters t.provider with
  | none => .error (.text ("no adapter for provider " ++ p.runtime.quote t.provider))
  | some a =>
      match env.refusal with
      | some err => .error err
      | none =>
          match p.router.provider t.provider with
          | none => .error ((SendFailure.notConfigured t.provider).toError p.runtime)
          | some cfg =>
              match a.normalizeRequest t.model body cfg with
              | .error err => .error ((SendFailure.normalize err).toError p.runtime)
              | .ok upstream =>
                  match env.newRequestError with
                  | some err => .error err
                  | none =>
                      .ok (a,
                        { url := cfg.baseURL ++ upstream.path
                          headers := upstream.headers
                          body := upstream.body })

end Proxy

/-- How the answer to a request is turned down, or the reply that is passed on. -/
def Attempt.answer (rt : Runtime) (env : Attempt) : Except GoError Reply :=
  match env.reply with
  | .error err => .error err
  | .ok resp =>
      if resp.status ≥ 500 ∨ resp.status = 429 then
        .error ((SendFailure.status resp.status).toError rt)
      else .ok resp

namespace Proxy

variable {p : Proxy} {env : ℕ → Attempt} {body : Bytes} {stream : Bool} {i : ℕ}
  {lastErr err : GoError} {t : Target} {ts : List Target} {x : Exchange}

/-- What a target must have for its request to be sent. -/
theorem prepare_eq_ok_iff {e : Attempt} {a : ProviderAdapter} {o : Outbound} :
    p.prepare e body t = .ok (a, o) ↔
      p.adapters t.provider = some a ∧ e.refusal = none ∧ e.newRequestError = none ∧
        ∃ cfg upstream, p.router.provider t.provider = some cfg ∧
          a.normalizeRequest t.model body cfg = .ok upstream ∧
          o = { url := cfg.baseURL ++ upstream.path
                headers := upstream.headers
                body := upstream.body } := by
  constructor
  · intro h
    unfold prepare at h
    cases hadapter : p.adapters t.provider with
    | none => simp [hadapter] at h
    | some a' =>
        cases hrefusal : e.refusal with
        | some err => simp [hadapter, hrefusal] at h
        | none =>
            cases hcfg : p.router.provider t.provider with
            | none => simp [hadapter, hrefusal, hcfg] at h
            | some cfg =>
                cases hnorm : a'.normalizeRequest t.model body cfg with
                | error err => simp [hadapter, hrefusal, hcfg, hnorm] at h
                | ok upstream =>
                    cases hreq : e.newRequestError with
                    | some err => simp [hadapter, hrefusal, hcfg, hnorm, hreq] at h
                    | none =>
                        simp only [hadapter, hrefusal, hcfg, hnorm, hreq] at h
                        cases h
                        exact ⟨rfl, rfl, rfl, cfg, upstream, rfl, hnorm, rfl⟩
  · rintro ⟨hadapter, hrefusal, hreq, cfg, upstream, hcfg, hnorm, rfl⟩
    simp [prepare, hadapter, hrefusal, hreq, hcfg, hnorm]

/-- A breaker that refuses leaves nothing to send. -/
theorem prepare_of_refusal {e : Attempt} (h : e.refusal = some err) (body : Bytes) (t : Target) :
    ∃ err', p.prepare e body t = .error err' := by
  cases hprep : p.prepare e body t with
  | error err' => exact ⟨err', rfl⟩
  | ok c =>
      have hnone := (prepare_eq_ok_iff.1 hprep).2.1
      rw [h] at hnone
      cases hnone

/-- One pass of the loop. -/
theorem tryTargets_cons :
    p.tryTargets env body stream i lastErr (t :: ts) x =
      match p.prepare (env i) body t with
      | .error err => p.tryTargets env body stream (i + 1) err ts x
      | .ok (a, o) =>
          match (env i).answer p.runtime with
          | .error err =>
              p.tryTargets env body stream (i + 1) err ts (x.record (.contact i t o))
          | .ok resp =>
              match relay a i stream resp (x.record (.contact i t o)) with
              | (none, x') => (none, x')
              | (some f, x') =>
                  p.tryTargets env body stream (i + 1) (f.toError p.runtime) ts x' := by
  -- The cases are the tests of `send` in their order.
  cases hadapter : p.adapters t.provider with
  | none => simp [tryTargets, prepare, hadapter]
  | some a =>
      cases hrefusal : (env i).refusal with
      | some err => simp [tryTargets, prepare, hadapter, hrefusal]
      | none =>
          cases hcfg : p.router.provider t.provider with
          | none => simp [tryTargets, prepare, send, hadapter, hrefusal, hcfg]
          | some cfg =>
              cases hnorm : a.normalizeRequest t.model body cfg with
              | error err => simp [tryTargets, prepare, send, hadapter, hrefusal, hcfg, hnorm]
              | ok upstream =>
                  cases hreq : (env i).newRequestError with
                  | some err =>
                      simp [tryTargets, prepare, send, SendFailure.toError, hadapter, hrefusal,
                        hcfg, hnorm, hreq]
                  | none =>
                      cases hreply : (env i).reply with
                      | error err =>
                          simp [tryTargets, prepare, send, SendFailure.toError, Attempt.answer,
                            hadapter, hrefusal, hcfg, hnorm, hreq, hreply]
                      | ok resp =>
                          by_cases hstatus : resp.status ≥ 500 ∨ resp.status = 429 <;>
                            simp [tryTargets, prepare, send, Attempt.answer, hadapter, hrefusal,
                              hcfg, hnorm, hreq, hreply, hstatus]

theorem tryTargets_of_skip (h : p.prepare (env i) body t = .error err) :
    p.tryTargets env body stream i lastErr (t :: ts) x =
      p.tryTargets env body stream (i + 1) err ts x := by
  rw [tryTargets_cons, h]

theorem tryTargets_of_decline {a : ProviderAdapter} {o : Outbound}
    (h : p.prepare (env i) body t = .ok (a, o)) (hanswer : (env i).answer p.runtime = .error err) :
    p.tryTargets env body stream i lastErr (t :: ts) x =
      p.tryTargets env body stream (i + 1) err ts (x.record (.contact i t o)) := by
  rw [tryTargets_cons, h]
  simp only [hanswer]

theorem tryTargets_of_relay {a : ProviderAdapter} {o : Outbound} {resp : Reply}
    (h : p.prepare (env i) body t = .ok (a, o)) (hanswer : (env i).answer p.runtime = .ok resp) :
    p.tryTargets env body stream i lastErr (t :: ts) x =
      match relay a i stream resp (x.record (.contact i t o)) with
      | (none, x') => (none, x')
      | (some f, x') => p.tryTargets env body stream (i + 1) (f.toError p.runtime) ts x' := by
  rw [tryTargets_cons, h]
  simp only [hanswer]

end Proxy

end Gateway
end OpenRouter
