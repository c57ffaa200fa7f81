import OpenRouter.Gateway.Commit
import OpenRouter.Gateway.Flushing
import OpenRouter.Gateway.Middleware

/-!
# AccessLog — what the log says of a request

The outer middlewares of `buildHTTPServer` around the `/api/v1` chain: `RequestID`, `Recoverer`,
`Logger` and `Tracing`.  `Logger` writes down the last status that the handlers set, the client
reads the first.  `accounts_of_access` says when they are the same, and whose request it was.
-/

namespace OpenRouter
namespace Gateway
namespace AccessLog

open Base

/-! ## Response writers -/

/-- The status line that the writer of `net/http` has sent, and the status of the `statusRecorder`
around it. -/
structure Recorder where
  sent : Option ℕ := none
  status : ℕ := 200

/-- `checkWriteHeaderCode` lets the code pass. -/
def ValidCode (code : ℕ) : Prop :=
  100 ≤ code ∧ code ≤ 999

/-- Such a header goes out in front of the one that counts. -/
def Informational (code : ℕ) : Prop :=
  100 ≤ code ∧ code ≤ 199 ∧ code ≠ 101

instance (code : ℕ) : Decidable (ValidCode code) :=
  inferInstanceAs (Decidable (_ ∧ _))

instance (code : ℕ) : Decidable (Informational code) :=
  inferInstanceAs (Decidable (_ ∧ _))

/-- `WriteHeader` of `net/http`; `none` is a panic.  Only the first call counts. -/
def writeHeader (sent : Option ℕ) (code : ℕ) : Option (Option ℕ) :=
  match sent with
  | some first => some (some first)
  | none =>
      if ¬ ValidCode code then none
      else if Informational code then some none
      else some (some code)

/-- A call on the `statusRecorder`.  `Write` is promoted, and sends its own `200`. -/
def Recorder.call (w : Recorder) : Event → Option Recorder
  | .writeHeader _ code =>
      (writeHeader w.sent code).map fun sent => { sent := sent, status := code }
  | .write _ _ | .flush => some { w with sent := some (w.sent.getD 200) }
  | .contact _ _ _ | .setHeader _ _ => some w

/-- The calls of a handler; after the last one, or at the panic, it is left with this. -/
def Recorder.run : Recorder → List Event → Recorder × Bool
  | w, [] => (w, false)
  | w, e :: es =>
      match w.call e with
      | some w' => w'.run es
      | none => (w, true)

/-! ## Middlewares -/

structure HttpRequest extends ApiRequest where
  method : String
  path : String
  /-- The `X-Request-ID` header. -/
  requestID : String := ""

/-- The values of a request's context. -/
structure Context where
  requestID : Option String := none
  identity : Option Identity := none

def requestIDFrom (ctx : Context) : String :=
  ctx.requestID.getD ""

/-- `AuthIdentityFrom`, without an identity the zero value. -/
def authIdentityFrom (ctx : Context) : Identity :=
  ctx.identity.getD
    { keyID := "", orgID := "", userID := "", allowedModels := [], deniedModels := []
      rateLimit := {}, budget := {} }

inductive LogLine
  /-- `http request`. -/
  | httpRequest (method path : String) (status : ℕ) (durationMs : ℤ) (requestID keyID : String)
  /-- `panic recovered`. -/
  | panicRecovered (requestID : String)
  deriving DecidableEq

/-- What a middleware leaves behind. -/
structure Left where
  sent : Option ℕ
  panicked : Bool := false
  lines : List LogLine := []

/-- `Tracing`; the span holds no handler up. -/
def tracing (next : Context → List Event) (ctx : Context) : List Event :=
  next ctx

/-- `Logger`; its line is not deferred. -/
def logger (r : HttpRequest) (elapsed : ℤ) (next : Context → List Event) (ctx : Context) : Left :=
  match ({} : Recorder).run (next ctx) with
  | (w, true) => { sent := w.sent, panicked := true }
  | (w, false) =>
      { sent := w.sent
        lines := [.httpRequest r.method r.path w.status elapsed (requestIDFrom ctx)
          (authIdentityFrom ctx).keyID] }

/-- `Recoverer`; `http.Error` calls `WriteHeader(500)` on the writer of the server. -/
def recoverer (next : Context → Left) (ctx : Context) : Left :=
  match next ctx with
  | { sent, panicked := true, lines } =>
      { sent := some (sent.getD 500), lines := lines ++ [.panicRecovered (requestIDFrom ctx)] }
  | left => left

/-- What the client and the log get to see. -/
structure Access where
  /-- The status that the client reads; what no handler sends, the server does. -/
  status : ℕ
  /-- The `X-Request-ID` header of the response. -/
  requestID : String
  lines : List LogLine

/-- `RequestID`; `fresh` is `uuid.NewString()`. -/
def requestID (r : HttpRequest) (fresh : String) (next : Context → Left) : Access :=
  let id := if r.requestID = "" then fresh else r.requestID
  let left := next { requestID := some id }
  { status := left.sent.getD 200, requestID := id, lines := left.lines }

/-- `Auth` puts the identity in the context of the request that it hands on. -/
def protectedRoutes (p : Proxy) (s : ApiSurroundings) (r : ApiRequest) (x : Exchange)
    (ctx : Context) : List Event :=
  (auth p.runtime s r
    (fun ident => rateLimit s (p.handle s r) (authIdentityFrom { ctx with identity := some ident }))
    x).events

/-- `buildHTTPServer` on a request under `/api/v1`. -/
def access (p : Proxy) (s : ApiSurroundings) (r : HttpRequest) (fresh : String) (elapsed : ℤ)
    (fault : ℕ → Option (ℕ × GoError)) : Access :=
  let x : Exchange := { fault := fault, flusher := ResponseWriter.netHTTP.isFlusher }
  requestID r fresh (recoverer (logger r elapsed (tracing
    (protectedRoutes p s r.toApiRequest (x.over (.statusRecorder .netHTTP))))))

/-! ## The course of a response -/

/-- Events in front of a response. -/
def Quiet : Event → Prop
  | .contact _ _ _ | .setHeader _ _ => True
  | _ => False

def statusCode : Event → Option ℕ
  | .writeHeader _ code => some code
  | _ => none

/-- Nothing of the response is sent between the two. -/
structure QuietTo (x y : Exchange) : Prop where
  fault : y.fault = x.fault
  writes : y.writes = x.writes
  events : ∃ es, y.events = x.events ++ es ∧ ∀ e ∈ es, Quiet e

/-- The response begins with the first status, and the handlers set others later. -/
def Responds (x y : Exchange) (first : ℕ) (later : List ℕ) : Prop :=
  ∃ pre src post, y.events = x.events ++ (pre ++ .writeHeader src first :: post) ∧
    (∀ e ∈ pre, Quiet e) ∧ post.filterMap statusCode = later

namespace QuietTo

variable {x y z : Exchange} {first : ℕ} {later : List ℕ}

theorem refl (x : Exchange) : QuietTo x x where
  fault := rfl
  writes := rfl
  events := ⟨[], by simp, by simp⟩

theorem record {e : Event} (h : Quiet e) : QuietTo x (x.record e) where
  fault := rfl
  writes := rfl
  events := ⟨[e], rfl, by simpa using h⟩

theorem trans (h : QuietTo x y) (h' : QuietTo y z) : QuietTo x z := by
  rcases h.events with ⟨es, hes, hquiet⟩
  rcases h'.events with ⟨es', hes', hquiet'⟩
  refine
    { fault := h'.fault.trans h.fault
      writes := h'.writes.trans h.writes
      events := ⟨es ++ es', by rw [hes', hes, List.append_assoc], ?_⟩ }
  exact List.forall_mem_append.2 ⟨hquiet, hquiet'⟩

theorem responds (h : QuietTo x y) (h' : Responds y z first later) :
    Responds x z first later := by
  rcases h.events with ⟨es, hes, hquiet⟩
  rcases h' with ⟨pre, src, post, hevents, hpre, hlater⟩
  refine ⟨es ++ pre, src, post, ?_, List.forall_mem_append.2 ⟨hquiet, hpre⟩, hlater⟩
  rw [hevents, hes, List.append_assoc, List.append_assoc]

end QuietTo

/-- A status line and one write. -/
theorem responds_write (x : Exchange) (code : ℕ) (bs : Bytes) :
    Responds x ((x.record (.writeHeader .handler code)).write .handler bs).2 code [] := by
  unfold Exchange.write
  split
  · exact ⟨[], .handler, [.write .handler bs], by simp [Exchange.record], by simp, rfl⟩
  · rename_i n err _
    exact ⟨[], .handler, [.write .handler (bs.take n)], by simp [Exchange.record], by simp, rfl⟩

theorem responds_writeError (x : Exchange) (status : ℕ) (code msg : String) :
    Responds x (writeError x status code msg) status [] :=
  (QuietTo.record (e := .setHeader _ _) trivial).responds (responds_write _ _ _)

theorem responds_writeEntry (x : Exchange) (e : Entry) :
    Responds x (writeEntry x e) e.status [] :=
  ((QuietTo.record (e := .setHeader _ _) trivial).trans
    (QuietTo.record (e := .setHeader _ _) trivial)).responds (responds_write _ _ _)

theorem responds_writeAuthError (x : Exchange) (code msg : String) :
    Responds x (writeAuthError x code msg) 401 [] :=
  (QuietTo.record (e := .setHeader _ _) trivial).responds (responds_write _ _ _)

theorem responds_writeRateLimited (x : Exchange) (now : ℤ) (result : RateLimit.Result) :
    Responds x (writeRateLimited x now result) 429 [] :=
  ((QuietTo.record (e := .setHeader _ _) trivial).trans
    (QuietTo.record (e := .setHeader _ _) trivial)).responds (responds_write _ _ _)

theorem quietTo_rateLimitHeaders (x : Exchange) (result : RateLimit.Result) :
    QuietTo x (rateLimitHeaders x result) :=
  ((QuietTo.record (e := .setHeader _ _) trivial).trans
    (QuietTo.record (e := .setHeader _ _) trivial)).trans
    (QuietTo.record (e := .setHeader _ _) trivial)

theorem quietTo_streamHeaders (x : Exchange) : QuietTo x (streamHeaders x) :=
  ((QuietTo.record (e := .setHeader _ _) trivial).trans
    (QuietTo.record (e := .setHeader _ _) trivial)).trans
    (QuietTo.record (e := .setHeader _ _) trivial)

theorem reply_of_answer {rt : Runtime} {e : Attempt} {resp : Reply}
    (h : e.answer rt = .ok resp) : e.reply = .ok resp := by
  unfold Attempt.answer at h
  cases hreply : e.reply with
  | error err => simp [hreply] at h
  | ok resp' =>
      simp only [hreply] at h
      split_ifs at h
      cases h
      rfl

/-- A reply that is passed on: its status, and nothing but its body. -/
theorem responds_relay (a : ProviderAdapter) (i : ℕ) (stream : Bool) (resp : Reply)
    (x : Exchange) : Responds x (relay a i stream resp x).2 resp.status [] := by
  rcases (relay_eq a i stream resp x).2.events with ⟨es, hes, hbody⟩
  refine ⟨[.setHeader "Content-Type" resp.contentType], .target i, es, ?_, ?_, ?_⟩
  · rw [hes]
    simp [Exchange.record]
  · simp [Quiet]
  · refine List.filterMap_eq_nil_iff.2 fun e he => ?_
    rcases hbody e he with rfl | ⟨bs, rfl⟩
    · rfl
    · rfl

/-! ### Statuses on top of a response -/

/-- The statuses that are set between the two. -/
def Adds (P : ℕ → Prop) (x y : Exchange) : Prop :=
  ∃ es, y.events = x.events ++ es ∧ ∀ c ∈ es.filterMap statusCode, P c

namespace Adds

variable {P Q : ℕ → Prop} {x y z : Exchange}

theorem refl (P : ℕ → Prop) (x : Exchange) : Adds P x x :=
  ⟨[], by simp, by simp⟩

theorem mono (h : Adds P x y) (hPQ : ∀ c, P c → Q c) : Adds Q x y := by
  rcases h with ⟨es, hes, hall⟩
  exact ⟨es, hes, fun c hc => hPQ c (hall c hc)⟩

theorem trans (h : Adds P x y) (h' : Adds P y z) : Adds P x z := by
  rcases h with ⟨es, hes, hall⟩
  rcases h' with ⟨es', hes', hall'⟩
  refine ⟨es ++ es', by rw [hes', hes, List.append_assoc], ?_⟩
  rw [List.filterMap_append]
  exact List.forall_mem_append.2 ⟨hall, hall'⟩

end Adds

theorem filterMap_statusCode_of_quiet {es : List Event} (h : ∀ e ∈ es, Quiet e) :
    es.filterMap statusCode = [] := by
  refine List.filterMap_eq_nil_iff.2 fun e he => ?_
  have hquiet := h e he
  cases e with
  | contact => rfl
  | setHeader => rfl
  | _ => exact hquiet.elim

theorem QuietTo.adds {P : ℕ → Prop} {x y : Exchange} (h : QuietTo x y) : Adds P x y := by
  rcases h.events with ⟨es, hes, hquiet⟩
  refine ⟨es, hes, ?_⟩
  rw [filterMap_statusCode_of_quiet hquiet]
  simp

theorem Responds.adds {P : ℕ → Prop} {x y : Exchange} {first : ℕ} {later : List ℕ}
    (h : Responds x y first later) (hfirst : P first) (hlater : ∀ c ∈ later, P c) :
    Adds P x y := by
  rcases h with ⟨pre, src, post, hevents, hpre, rfl⟩
  refine ⟨_, hevents, ?_⟩
  have hcodes : (Event.writeHeader src first :: post).filterMap statusCode =
      first :: post.filterMap statusCode := rfl
  rw [List.filterMap_append, filterMap_statusCode_of_quiet hpre, List.nil_append, hcodes]
  exact List.forall_mem_cons.2 ⟨hfirst, hlater⟩

theorem Responds.append {P : ℕ → Prop} {x y z : Exchange} {first : ℕ}
    (h : Responds x y first []) (h' : Adds P y z) :
    ∃ later, Responds x z first later ∧ ∀ c ∈ later, P c := by
  rcases h with ⟨pre, src, post, hevents, hpre, hnone⟩
  rcases h' with ⟨es, hes, hall⟩
  refine ⟨es.filterMap statusCode, ⟨pre, src, post ++ es, ?_, hpre, ?_⟩, hall⟩
  · rw [hes, hevents]
    simp
  · rw [List.filterMap_append, hnone, List.nil_append]

/-! ### The chain of targets -/

/-- The status of an upstream's reply, from a position on. -/
def FromReply (env : ℕ → Attempt) (i c : ℕ) : Prop :=
  ∃ j resp, i ≤ j ∧ (env j).reply = .ok resp ∧ resp.status = c

section Chain

variable {p : Proxy} {env : ℕ → Attempt} {body : Bytes} {ts : List Target}

/-- Every status that the targets set is one of their replies. -/
theorem adds_tryTargets (stream : Bool) (i : ℕ) (lastErr : GoError) (x : Exchange) :
    Adds (FromReply env i) x (p.tryTargets env body stream i lastErr ts x).2 := by
  induction ts generalizing i lastErr x with
  | nil => exact .refl _ x
  | cons t ts ih =>
      have hrest : ∀ lastErr y,
          Adds (FromReply env i) y (p.tryTargets env body stream (i + 1) lastErr ts y).2 :=
        fun lastErr y => (ih (i + 1) lastErr y).mono fun c ⟨j, resp, hj, hreply⟩ =>
          ⟨j, resp, Nat.le_of_succ_le hj, hreply⟩
      cases hprep : p.prepare (env i) body t with
      | error err =>
          rw [Proxy.tryTargets_of_skip hprep]
          exact hrest err x
      | ok c =>
          have hcontact : Adds (FromReply env i) x (x.record (.contact i t c.2)) :=
            (QuietTo.record (e := .contact i t c.2) trivial).adds
          cases hanswer : (env i).answer p.runtime with
          | error err =>
              rw [Proxy.tryTargets_of_decline hprep hanswer]
              exact hcontact.trans (hrest err _)
          | ok resp =>
              rw [Proxy.tryTargets_of_relay hprep hanswer]
              have hstatus : FromReply env i resp.status :=
                ⟨i, resp, le_rfl, reply_of_answer hanswer, rfl⟩
              have hrelay := (responds_relay c.1 i stream resp
                (x.record (.contact i t c.2))).adds hstatus (by simp)
              rcases hresult : relay c.1 i stream resp (x.record (.contact i t c.2)) with ⟨r, y⟩
              rw [hresult] at hrelay
              cases r with
              | none => exact hcontact.trans hrelay
              | some f => exact (hcontact.trans hrelay).trans (hrest _ y)

/-- Without a reply to pass on, nothing of a response is sent. -/
theorem quietTo_of_firstRelay_eq_none {i : ℕ} (h : p.firstRelay env body i ts = none)
    (stream : Bool) (lastErr : GoError) (x : Exchange) :
    ∃ err y, p.tryTargets env body stream i lastErr ts x = (some err, y) ∧ QuietTo x y := by
  induction ts generalizing i lastErr x with
  | nil => exact ⟨_, x, rfl, .refl x⟩
  | cons t ts ih =>
      cases hprep : p.prepare (env i) body t with
      | error err =>
          rw [Proxy.tryTargets_of_skip hprep]
          exact ih (by simpa [Proxy.firstRelay, hprep] using h) err x
      | ok c =>
          cases hanswer : (env i).answer p.runtime with
          | ok resp => simp [Proxy.firstRelay, hprep, hanswer] at h
          | error err =>
              rw [Proxy.tryTargets_of_decline hprep hanswer]
              rcases ih (by simpa [Proxy.firstRelay, hprep, hanswer] using h) err _ with
                ⟨e, y, htry, hquiet⟩
              exact ⟨e, y, htry, (QuietTo.record (e := .contact i t c.2) trivial).trans hquiet⟩

/-- With one, nothing is sent in front of it. -/
theorem quietTo_of_firstRelay {i k : ℕ} {a : ProviderAdapter} {resp : Reply}
    {rest : List Target} (h : p.firstRelay env body i ts = some (k, a, resp, rest))
    (stream : Bool) (lastErr : GoError) (x : Exchange) :
    (env k).reply = .ok resp ∧ ∃ y, QuietTo x y ∧
      p.tryTargets env body stream i lastErr ts x =
        match relay a k stream resp y with
        | (none, z) => (none, z)
        | (some f, z) => p.tryTargets env body stream (k + 1) (f.toError p.runtime) rest z := by
  induction ts generalizing i lastErr x with
  | nil => cases h
  | cons t ts ih =>
      cases hprep : p.prepare (env i) body t with
      | error err =>
          rw [Proxy.tryTargets_of_skip hprep]
          exact ih (by simpa [Proxy.firstRelay, hprep] using h) err x
      | ok c =>
          have hcontact : QuietTo x (x.record (.contact i t c.2)) := .record trivial
          cases hanswer : (env i).answer p.runtime with
          | error err =>
              rw [Proxy.tryTargets_of_decline hprep hanswer]
              rcases ih (by simpa [Proxy.firstRelay, hprep, hanswer] using h) err _ with
                ⟨hreply, y, hquiet, htry⟩
              exact ⟨hreply, y, hcontact.trans hquiet, htry⟩
          | ok resp' =>
              rw [Proxy.tryTargets_of_relay hprep hanswer]
              simp only [Proxy.firstRelay, hprep, hanswer] at h
              cases h
              exact ⟨reply_of_answer hanswer, _, hcontact, rfl⟩

end Chain

/-! ### The `/api/v1` chain -/

/-- What the handler of a request hands to `ChatCompletion`, and whether as a stream. -/
def asked (p : Proxy) (s : ApiSurroundings) (r : ApiRequest) : Option (String × Bytes × Bool) :=
  match r.route with
  | .chatCompletions =>
      (p.forwarded s.toSurroundings r.toRequest).map fun c => (c.1.model, c.2, c.1.stream)
  | .embeddings | .imagesGenerations | .audioTranscriptions | .rerank =>
      (Proxy.passed r.toRequest).map fun c => (c.1, c.2, false)
  | .videos | .videoStatus | .videoContent | .models => none

/-- A reply is passed on under the first status and then breaks off; the later statuses are those
of replies behind it, and the `503` of the handler. -/
structure BrokenOff (p : Proxy) (s : ApiSurroundings) (r : ApiRequest)
    (fault : ℕ → Option (ℕ × GoError)) (first : ℕ) (later : List ℕ) : Prop where
  course : ∃ model body stream primary fallback k a resp rest f,
    asked p s r = some (model, body, stream) ∧
      p.router.resolve model = some (primary, fallback) ∧
      p.firstRelay s.attempts body 0 (primary :: fallback) = some (k, a, resp, rest) ∧
      relayFailure fault 0 (a.output stream resp) = some f ∧ first = resp.status ∧
      ∀ c ∈ later, c = 503 ∨ FromReply s.attempts (k + 1) c

/-- A status that comes from outside: of an upstream's reply, or of a cached entry. -/
def Foreign (s : ApiSurroundings) (c : ℕ) : Prop :=
  FromReply s.attempts 0 c ∨ ∃ key e, s.cacheGet key = .ok (some e) ∧ e.status = c

/-- A status of the gateway's own answers. -/
def Own (c : ℕ) : Prop :=
  c ∈ [400, 401, 429, 501, 503]

/-- How a request is answered: the client has gone before anything is sent, there is one status,
or a reply breaks off. -/
inductive Course (p : Proxy) (s : ApiSurroundings) (r : ApiRequest) (x y : Exchange) : Prop
  | silent (h : QuietTo x y)
  | one (first : ℕ) (h : Responds x y first []) (hfirst : Own first ∨ Foreign s first)
  | more (first : ℕ) (later : List ℕ) (h : Responds x y first later)
      (hfirst : Foreign s first) (hlater : BrokenOff p s r x.fault first later)

section Serve

variable {p : Proxy} {s : ApiSurroundings} {r : ApiRequest} {x y z : Exchange}

theorem QuietTo.course (h : QuietTo x y) (h' : Course p s r y z) : Course p s r x z := by
  cases h' with
  | silent hz => exact .silent (h.trans hz)
  | one first hz hfirst => exact .one first (h.responds hz) hfirst
  | more first later hz hfirst hlater =>
      exact .more first later (h.responds hz) hfirst (h.fault ▸ hlater)

/-- The two ways in which the handlers end: `conclude` and `concludePassed`. -/
def Ends (finish : Option GoError × Exchange → Exchange) : Prop :=
  (∀ x, finish (none, x) = x) ∧
    ∀ err x, finish (some err, x) = x ∨
      finish (some err, x) = writeError x 503 "providers_unavailable" err.error

theorem ends_conclude : Ends conclude := by
  refine ⟨fun _ => rfl, fun err x => ?_⟩
  cases herr : err.isCanceled with
  | true => exact .inl (conclude_of_isCanceled herr x)
  | false => exact .inr (by simp [conclude, herr])

theorem ends_concludePassed : Ends concludePassed :=
  ⟨fun _ => rfl, fun _ _ => .inr rfl⟩

theorem adds_of_ends {finish : Option GoError × Exchange → Exchange} (hfinish : Ends finish)
    (out : Option GoError × Exchange) : Adds (· = 503) out.2 (finish out) := by
  rcases out with ⟨err | err, z⟩
  · rw [hfinish.1]
    exact .refl _ z
  · rcases hfinish.2 err z with h | h
    · rw [h]
      exact .refl _ z
    · rw [h]
      exact (responds_writeError z 503 _ _).adds rfl (by simp)

/-- The end of a handler, from `ChatCompletion` on. -/
theorem course_chatCompletion {finish : Option GoError × Exchange → Exchange}
    (hfinish : Ends finish) {model : String} {body : Bytes} {stream : Bool}
    (hasked : asked p s r = some (model, body, stream)) (hx : x.writes = 0) :
    Course p s r x (finish (p.chatCompletion s.attempts model body stream x)) := by
  -- An error without a reply is the handler's to answer.
  have herror : ∀ err y, QuietTo x y → Course p s r x (finish (some err, y)) := by
    intro err y hy
    rcases hfinish.2 err y with h | h
    · rw [h]
      exact .silent hy
    · rw [h]
      exact hy.course (.one 503 (responds_writeError y 503 _ _) (.inl (by simp [Own])))
  unfold Proxy.chatCompletion
  cases hresolve : p.router.resolve model with
  | none => exact herror _ x (.refl x)
  | some c =>
      rcases c with ⟨primary, fallback⟩
      cases hfirst : p.firstRelay s.attempts body 0 (primary :: fallback) with
      | none =>
          rcases quietTo_of_firstRelay_eq_none hfirst stream (.text "") x with
            ⟨err, y, htry, hquiet⟩
          simp only [htry]
          exact herror err y hquiet
      | some c =>
          rcases c with ⟨k, a, resp, rest⟩
          rcases quietTo_of_firstRelay hfirst stream (.text "") x with
            ⟨hreply, y, hquiet, htry⟩
          have hforeign : Foreign s resp.status := .inl ⟨k, resp, Nat.zero_le k, hreply, rfl⟩
          have hresponds := responds_relay a k stream resp y
          have hfailure := (relay_eq a k stream resp y).1
          rw [hquiet.fault, hquiet.writes, hx] at hfailure
          simp only [htry]
          rcases hresult : relay a k stream resp y with ⟨f | f, z⟩
          · rw [hresult] at hresponds
            simp only [hfinish.1]
            exact .one resp.status (hquiet.responds hresponds) (.inr hforeign)
          · rw [hresult] at hresponds hfailure
            have hrest : Adds (fun c => c = 503 ∨ FromReply s.attempts (k + 1) c) z
                (p.tryTargets s.attempts body stream (k + 1) (f.toError p.runtime) rest z).2 :=
              (adds_tryTargets stream (k + 1) (f.toError p.runtime) z).mono fun c hc => .inr hc
            have hend := (adds_of_ends hfinish (p.tryTargets s.attempts body stream (k + 1)
              (f.toError p.runtime) rest z)).mono
              (Q := fun c => c = 503 ∨ FromReply s.attempts (k + 1) c) fun c hc => .inl hc
            rcases hresponds.append (hrest.trans hend) with ⟨later, hall, hlater⟩
            exact .more resp.status later (hquiet.responds hall) hforeign
              ⟨⟨model, body, stream, primary, fallback, k, a, resp, rest, f, hasked, hresolve,
                hfirst, hfailure.symm, rfl, hlater⟩⟩

theorem course_writeError (x : Exchange) {status : ℕ} (h : Own status) (code msg : String) :
    Course p s r x (writeError x status code msg) :=
  .one status (responds_writeError x status code msg) (.inl h)

theorem course_createMiss {req : ChatRequest} {body : Bytes}
    (hasked : asked p s r = some (req.model, body, req.stream)) (hx : x.writes = 0) :
    Course p s r x (p.createMiss s.toSurroundings req body x) := by
  unfold Proxy.createMiss
  by_cases hstream : req.stream = true
  · rw [if_pos hstream]
    exact (quietTo_streamHeaders x).course (course_chatCompletion ends_conclude hasked hx)
  · rw [if_neg hstream]
    exact course_chatCompletion ends_conclude hasked hx

theorem cacheGet_of_cacheHit {s : Surroundings} {key : String} {e : Entry}
    (h : s.cacheHit key = some e) : s.cacheGet key = .ok (some e) := by
  unfold Surroundings.cacheHit at h
  cases hget : s.cacheGet key with
  | error err => simp [hget] at h
  | ok hit =>
      simp only [hget] at h
      rw [h]

theorem course_create (hroute : r.route = .chatCompletions) (hx : x.writes = 0) :
    Course p s r x (p.create s.toSurroundings r.toRequest x) := by
  have hasked : asked p s r = (p.forwarded s.toSurroundings r.toRequest).map fun c =>
      (c.1.model, c.2, c.1.stream) := by
    rw [asked, hroute]
  have hown : Own 400 := by simp [Own]
  unfold Proxy.create
  unfold Proxy.forwarded at hasked
  cases hread : r.body.readAll chatBodyLimit with
  | error err => exact course_writeError x hown _ _
  | ok body =>
      cases hdecode : unmarshal {} decodeChatRequest body with
      | none => simpa [hdecode] using course_writeError x hown _ _
      | some req =>
          simp only [hread, hdecode] at hasked ⊢
          split_ifs at hasked ⊢ with hmodel hcache
          · exact course_writeError x hown _ _
          · cases hhit : s.cacheHit (hashRequest p.runtime req.model body) with
            | some e =>
                have hforeign : Foreign s e.status := .inr ⟨_, e, cacheGet_of_cacheHit hhit, rfl⟩
                exact .one e.status (responds_writeEntry x e) (.inr hforeign)
            | none =>
                simp only [hhit] at hasked
                exact course_createMiss hasked hx
          · exact course_createMiss hasked hx

theorem course_proxyTo (hasked : asked p s r =
      (Proxy.passed r.toRequest).map fun c => (c.1, c.2, false)) (hx : x.writes = 0) :
    Course p s r x (p.proxyTo s.toSurroundings r.toRequest x) := by
  have hown : Own 400 := by simp [Own]
  unfold Proxy.proxyTo
  unfold Proxy.passed at hasked
  cases hread : r.body.readAll proxyBodyLimit with
  | error err => exact course_writeError x hown _ _
  | ok body =>
      cases hdecode : unmarshal "" decodeModelField body with
      | none => simpa [hdecode] using course_writeError x hown _ _
      | some model =>
          simp only [hread, hdecode, Option.map_some] at hasked ⊢
          exact course_chatCompletion ends_concludePassed hasked hx

theorem course_handle (hx : x.writes = 0) : Course p s r x (p.handle s r x) := by
  unfold Proxy.handle
  cases hroute : r.route with
  | chatCompletions => exact course_create hroute hx
  | embeddings | imagesGenerations | audioTranscriptions | rerank =>
      exact course_proxyTo (by rw [asked, hroute]) hx
  | videos | videoStatus | videoContent | models =>
      exact course_writeError x (by simp [Own]) _ _

theorem course_rateLimit (ident : Identity) (hx : x.writes = 0) :
    Course p s r x (rateLimit s (p.handle s r) ident x) := by
  unfold rateLimit
  cases rateLimitResult s ident with
  | none => exact course_handle hx
  | some result =>
      have hquiet := quietTo_rateLimitHeaders x result
      simp only
      split_ifs
      · exact hquiet.course
          (.one 429 (responds_writeRateLimited _ s.now result) (.inl (by simp [Own])))
      · exact hquiet.course (course_handle (hquiet.writes.trans hx))

theorem course_serve (hx : x.writes = 0) : Course p s r x (p.serve s r x) := by
  have hauth : ∀ code msg, Course p s r x (writeAuthError x code msg) := fun code msg =>
    .one 401 (responds_writeAuthError x code msg) (.inl (by simp [Own]))
  unfold Proxy.serve auth
  cases bearerToken r.authorization with
  | none => exact hauth _ _
  | some tok =>
      simp only
      cases s.authGet (sha256Hex p.runtime tok) with
      | error err => exact hauth _ _
      | ok m =>
          simp only
          split_ifs
          · exact hauth _ _
          · exact course_rateLimit (identityOf m) hx

end Serve

/-! ## What is recorded -/

theorem run_of_quiet (w : Recorder) {es : List Event} (h : ∀ e ∈ es, Quiet e)
    (rest : List Event) : w.run (es ++ rest) = w.run rest := by
  induction es with
  | nil => rfl
  | cons e es ih =>
      have hcall : w.call e = some w := by
        have hquiet := h e List.mem_cons_self
        cases e with
        | contact => rfl
        | setHeader => rfl
        | _ => exact hquiet.elim
      rw [List.cons_append, Recorder.run, hcall]
      exact ih fun e he => h e (List.mem_cons_of_mem _ he)

/-- Once a status line is out it stays, and the recorder goes on with the statuses. -/
theorem run_of_sent {w : Recorder} {first : ℕ} (hw : w.sent = some first) (es : List Event) :
    w.run es =
      ({ sent := some first, status := (es.filterMap statusCode).getLastD w.status }, false) := by
  induction es generalizing w with
  | nil =>
      rcases w with ⟨sent, status⟩
      cases hw
      rfl
  | cons e es ih =>
      have hnext : ∃ w', w.call e = some w' ∧ w'.sent = some first ∧
          w'.status = (statusCode e).getD w.status := by
        cases e with
        | writeHeader src code =>
            exact ⟨⟨some first, code⟩, by simp [Recorder.call, writeHeader, hw], rfl, rfl⟩
        | write src bs => exact ⟨_, rfl, by simp [hw], rfl⟩
        | flush => exact ⟨_, rfl, by simp [hw], rfl⟩
        | contact i t o => exact ⟨w, rfl, hw, rfl⟩
        | setHeader key value => exact ⟨w, rfl, hw, rfl⟩
      rcases hnext with ⟨w', hcall, hsent, hstatus⟩
      rw [Recorder.run, hcall]
      simp only
      rw [ih hsent, hstatus]
      cases hcode : statusCode e with
      | none => simp [hcode]
      | some code =>
          rw [List.filterMap_cons_some hcode, List.getLastD_cons]
          rfl

/-- What a response leaves in the recorder: a first status that is no status at all is a panic. -/
theorem run_of_responds {x y : Exchange} {first : ℕ} {later : List ℕ} (hx : x.events = [])
    (h : Responds x y first later) (hinfo : ¬ Informational first) :
    ({} : Recorder).run y.events =
      if ValidCode first then
        ({ sent := some first, status := later.getLastD first }, false)
      else ({}, true) := by
  rcases h with ⟨pre, src, post, hevents, hquiet, rfl⟩
  rw [hevents, hx, List.nil_append, run_of_quiet _ hquiet, Recorder.run]
  by_cases hvalid : ValidCode first
  · have hcall : ({} : Recorder).call (.writeHeader src first) =
        some { sent := some first, status := first } := by
      simp [Recorder.call, writeHeader, hvalid, hinfo]
    rw [hcall, if_pos hvalid]
    exact run_of_sent rfl post
  · have hcall : ({} : Recorder).call (.writeHeader src first) = none := by
      simp [Recorder.call, writeHeader, hvalid]
    rw [hcall, if_neg hvalid]

/-! ## What the log says -/

/-- The transport swallows informational replies, and nobody caches one. -/
def NotInformational (s : ApiSurroundings) : Prop :=
  ∀ c, Foreign s c → ¬ Informational c

/-- What one request leaves in the log. -/
inductive Accounts (p : Proxy) (s : ApiSurroundings) (r : HttpRequest)
    (fault : ℕ → Option (ℕ × GoError)) (elapsed : ℤ) (a : Access) : Prop
  /-- The line has no key, and the status that the client reads; or a reply broke off, and it has
  one that the client has not read. -/
  | logged (status : ℕ)
      (h : a.lines = [.httpRequest r.method r.path status elapsed a.requestID ""])
      (hstatus : status = a.status ∨
        ∃ later, status ∈ later ∧ BrokenOff p s r.toApiRequest fault a.status later)
  /-- The line is missing: a status from outside is no status. -/
  | recovered (h : a.lines = [.panicRecovered a.requestID]) (hstatus : a.status = 500)
      (hforeign : ∃ c, Foreign s c ∧ ¬ ValidCode c)

theorem validCode_of_own {c : ℕ} (h : Own c) : ValidCode c ∧ ¬ Informational c := by
  simp only [Own, List.mem_cons, List.not_mem_nil, or_false] at h
  rcases h with rfl | rfl | rfl | rfl | rfl <;> decide

section Accounts

variable {p : Proxy} {s : ApiSurroundings} {r : HttpRequest}
  {fault : ℕ → Option (ℕ × GoError)} {fresh : String} {elapsed : ℤ}

/-- The exchange of the handlers, before anything has happened. -/
def opened (fault : ℕ → Option (ℕ × GoError)) : Exchange :=
  { fault := fault, flusher := false }

theorem access_eq (w : Recorder) (panicked : Bool)
    (h : ({} : Recorder).run (p.serve s r.toApiRequest (opened fault)).events = (w, panicked)) :
    let id := if r.requestID = "" then fresh else r.requestID
    access p s r fresh elapsed fault =
      if panicked then
        { status := w.sent.getD 500, requestID := id, lines := [.panicRecovered id] }
      else
        { status := w.sent.getD 200, requestID := id
          lines := [.httpRequest r.method r.path w.status elapsed id ""] } := by
  have hevents : ∀ ctx, tracing (protectedRoutes p s r.toApiRequest (opened fault)) ctx =
      (p.serve s r.toApiRequest (opened fault)).events := fun _ => rfl
  change requestID r fresh (recoverer (logger r elapsed
    (tracing (protectedRoutes p s r.toApiRequest (opened fault))))) = _
  cases panicked <;>
    simp [requestID, recoverer, logger, hevents, h, requestIDFrom, authIdentityFrom]

/-- Every request that gets an id gets one line under that id.  Its key is never in it, since the
identity is in the context of an inner request; and its status is wrong only when a reply breaks
off after its header. -/
theorem accounts_of_access (p : Proxy) (s : ApiSurroundings) (r : HttpRequest)
    (fault : ℕ → Option (ℕ × GoError)) (fresh : String) (elapsed : ℤ)
    (hinfo : NotInformational s) :
    Accounts p s r fault elapsed (access p s r fresh elapsed fault) ∧
      (access p s r fresh elapsed fault).requestID =
        if r.requestID = "" then fresh else r.requestID := by
  refine ⟨?_, rfl⟩
  cases course_serve (p := p) (s := s) (r := r.toApiRequest) (x := opened fault) rfl with
  | silent h =>
      rcases h.events with ⟨es, hes, hquiet⟩
      have hrun : ({} : Recorder).run (p.serve s r.toApiRequest (opened fault)).events =
          ({}, false) := by
        have hall := run_of_quiet {} hquiet []
        rw [List.append_nil] at hall
        rw [hes]
        exact hall
      rw [access_eq {} false hrun]
      exact .logged 200 rfl (.inl rfl)
  | one first h hfirst =>
      have hnot : ¬ Informational first :=
        hfirst.elim (fun hown => (validCode_of_own hown).2) (hinfo first)
      have hrun := run_of_responds rfl h hnot
      by_cases hvalid : ValidCode first
      · rw [if_pos hvalid] at hrun
        rw [access_eq _ false hrun]
        exact .logged first rfl (.inl rfl)
      · rw [if_neg hvalid] at hrun
        rw [access_eq _ true hrun]
        have hforeign : Foreign s first :=
          hfirst.resolve_left fun hown => hvalid (validCode_of_own hown).1
        exact .recovered rfl rfl ⟨first, hforeign, hvalid⟩
  | more first later h hfirst hlater =>
      have hrun := run_of_responds rfl h (hinfo first hfirst)
      by_cases hvalid : ValidCode first
      · rw [if_pos hvalid] at hrun
        rw [access_eq _ false hrun]
        refine .logged (later.getLastD first) rfl ?_
        cases later with
        | nil => exact .inl rfl
        | cons c cs =>
            refine .inr ⟨c :: cs, ?_, hlater⟩
            rw [List.getLastD_cons]
            exact List.getLastD_mem_cons
      · rw [if_neg hvalid] at hrun
        rw [access_eq _ true hrun]
        exact .recovered rfl rfl ⟨first, hfirst, hvalid⟩

end Accounts

/-! ### A stream that breaks off -/

/-- The first upstream breaks off after `200`, the second answers `400`. -/
def brokenStream : ApiSurroundings where
  attempts := fun i =>
    if i = 0 then
      { reply := .ok
          { status := 200, contentType := "text/event-stream", reads := [bytesOf "data: a"]
            readError := some (.text "unexpected EOF") } }
    else
      { reply := .ok
          { status := 400, contentType := "application/json", reads := [bytesOf "\x7b\x7d"] } }
  cacheGet := fun _ => .ok none
  now := 0
  authCache :=
    { ttl := 60000000000, loaders := 2, data := ∅, cap := 10000
      loaders_pos := Nat.two_pos, cap_pos := Nat.succ_pos 9999 }
  load := fun _ => .ok { valid := true, keyID := "key_1" }
  check := fun _ => some { allowed := true, limit := 0, remaining := 0, resetAt := 60000 }

def brokenStreamRequest : HttpRequest where
  body := { bytes := marshal (.obj [("model", .str "gpt-4o"), ("stream", .bool true)]) }
  route := .chatCompletions
  authorization := "Bearer sk-or-v1-1"
  method := "POST"
  path := "/api/v1/chat/completions"

theorem notInformational_brokenStream : NotInformational brokenStream := by
  rintro c (⟨j, resp, -, hreply, rfl⟩ | ⟨key, e, hget, -⟩)
  · cases j with
    | zero =>
        cases hreply
        decide
    | succ j =>
        cases hreply
        decide
  · cases hget

/-- The client reads `200`, and the log says `400`, of nobody. -/
theorem accounts_of_access_brokenStream :
    let a := access (newProxy plainRuntime twoProviders) brokenStream brokenStreamRequest "req-1" 12
      fun _ => none
    Accounts (newProxy plainRuntime twoProviders) brokenStream brokenStreamRequest (fun _ => none)
      12
        a ∧
      a.status = 200 ∧
      a.lines = [.httpRequest "POST" "/api/v1/chat/completions" 400 12 "req-1" ""] :=
  ⟨(accounts_of_access (newProxy plainRuntime twoProviders) brokenStream brokenStreamRequest
    (fun _ => none) "req-1" 12 notInformational_brokenStream).1, by decide +kernel,
    by decide +kernel⟩

end AccessLog
end Gateway
end OpenRouter
