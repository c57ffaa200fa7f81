import OpenRouter.Gateway.Anthropic
import OpenRouter.Gateway.Handlers
import OpenRouter.Gateway.Relay

/-!
# Commit — one response, one target

Once a target's status is on its way to the client there is no taking it back.  `ServedByOne` says
that a response stays with the target that began it; `servedByOne_create_iff` says for which
requests `Create` keeps to that.
-/

namespace OpenRouter
namespace Gateway

open Base

/-! ## Responses of one target -/

/-- The target whose status or body bytes an event sends. -/
def Event.commitOf : Event → Option ℕ
  | .writeHeader (.target i) _ => some i
  | .write (.target i) bs => if bs = [] then none else some i
  | _ => none

/-- What may follow once target `i` is committed: no request to an upstream, no second status, and
body bytes of `i` only. -/
def Event.Continues (i : ℕ) : Event → Prop
  | .contact _ _ _ => False
  | .writeHeader _ _ => False
  | .write src bs => src = .target i ∨ bs = []
  | _ => True

structure ServedByOne (es : List Event) : Prop where
  /-- Status and body bytes come from at most one target. -/
  single : ∀ e ∈ es, ∀ e' ∈ es, ∀ i j, e.commitOf = some i → e'.commitOf = some j → i = j
  final : es.Pairwise fun e e' => ∀ i, e.commitOf = some i → e'.Continues i

theorem eq_of_commitOf_of_continues {e : Event} {i j : ℕ} (h : e.Continues i)
    (hcommit : e.commitOf = some j) : i = j := by
  cases e with
  | write src bs =>
      cases src with
      | target k =>
          simp only [Event.commitOf] at hcommit
          split_ifs at hcommit with hbs
          cases hcommit
          rcases h with h | h
          · cases h
            rfl
          · exact absurd h hbs
      | handler => cases hcommit
  | writeHeader src status => exact h.elim
  | _ => cases hcommit

/-- The order of the events is all there is to check. -/
theorem servedByOne_of_final {es : List Event}
    (h : es.Pairwise fun e e' => ∀ i, e.commitOf = some i → e'.Continues i) : ServedByOne es := by
  refine { single := ?_, final := h }
  let same : Event → Event → Prop := fun e e' =>
    ∀ i j, e.commitOf = some i → e'.commitOf = some j → i = j
  have hpairs : es.Pairwise same :=
    h.imp fun hcont i j hi hj => eq_of_commitOf_of_continues (hcont i hi) hj
  have hsymm : Std.Symm same := ⟨fun e e' hee i j hi hj => (hee j i hj hi).symm⟩
  have hrefl : ∀ e ∈ es, same e e := fun e _ i j hi hj => Option.some.inj (hi.symm.trans hj)
  intro e he e' he'
  exact hpairs.forall_of_forall hrefl he he'

theorem commitOf_of_ownAnswer {e : Event} (h : e.OwnAnswer) : e.commitOf = none := by
  cases e with
  | writeHeader src status =>
      cases h
      rfl
  | write src bs =>
      cases h
      rfl
  | _ => rfl

theorem continues_of_bodyOf {i : ℕ} {e : Event} (h : BodyOf i e) : e.Continues i := by
  rcases h with rfl | ⟨bs, rfl⟩
  · trivial
  · exact .inl rfl

theorem commitOf_of_bodyOf {i j : ℕ} {e : Event} (h : BodyOf i e) (hcommit : e.commitOf = some j) :
    j = i :=
  (eq_of_commitOf_of_continues (continues_of_bodyOf h) hcommit).symm

/-- The header and the body that a target's reply is passed on as. -/
theorem servedByOne_response {pre es : List Event} {i status : ℕ} {contentType : String}
    (hpre : ∀ e ∈ pre, e.commitOf = none) (hes : ∀ e ∈ es, BodyOf i e) :
    ServedByOne
      (pre ++
        (.setHeader "Content-Type" contentType :: .writeHeader (.target i) status :: es)) := by
  refine servedByOne_of_final (List.pairwise_append.2 ⟨?_, ?_, ?_⟩)
  · exact List.Pairwise.imp_of_mem (fun he _ _ k hk => by simp [hpre _ he] at hk)
      (List.pairwise_of_forall fun _ _ => trivial)
  · refine List.pairwise_cons.2 ⟨fun e _ k hk => (by simp [Event.commitOf] at hk), ?_⟩
    refine List.pairwise_cons.2 ⟨fun e he k hk => ?_, ?_⟩
    · cases hk
      exact continues_of_bodyOf (hes e he)
    · refine List.Pairwise.imp_of_mem (fun he he' _ k hk => ?_)
        (List.pairwise_of_forall fun _ _ => trivial)
      rw [commitOf_of_bodyOf (hes _ he) hk]
      exact continues_of_bodyOf (hes _ he')
  · intro e he e' _ k hk
    simp [hpre e he] at hk

/-- What comes behind a committed event continues it. -/
theorem continues_of_servedByOne {front tail : List Event} (h : ServedByOne (front ++ tail))
    {e e' : Event} {i : ℕ} (he : e ∈ front) (hcommit : e.commitOf = some i) (he' : e' ∈ tail) :
    e'.Continues i :=
  (List.pairwise_append.1 h.final).2.2 e he e' he' i hcommit

/-! ## Runs up to the first reply that is passed on -/

/-- Nothing is committed between the two. -/
structure Approaches (x y : Exchange) : Prop where
  fault : y.fault = x.fault
  writes : y.writes = x.writes
  events : ∃ es, y.events = x.events ++ es ∧ ∀ e ∈ es, e.commitOf = none

namespace Approaches

variable {x y z : Exchange}

theorem refl (x : Exchange) : Approaches x x :=
  { fault := rfl
    writes := rfl
    events := ⟨[], by simp, by simp⟩ }

theorem record {e : Event} (h : e.commitOf = none) : Approaches x (x.record e) :=
  { fault := rfl
    writes := rfl
    events := ⟨[e], rfl, by simpa using h⟩ }

theorem trans (h : Approaches x y) (h' : Approaches y z) : Approaches x z := by
  rcases h.events with ⟨es, hes, hnone⟩
  rcases h'.events with ⟨es', hes', hnone'⟩
  refine
    { fault := h'.fault.trans h.fault
      writes := h'.writes.trans h.writes
      events := ⟨es ++ es', by rw [hes', hes, List.append_assoc], ?_⟩ }
  exact List.forall_mem_append.2 ⟨hnone, hnone'⟩

theorem commitOf_eq_none (h : Approaches x y) (hx : ∀ e ∈ x.events, e.commitOf = none) :
    ∀ e ∈ y.events, e.commitOf = none := by
  rcases h.events with ⟨es, hes, hnone⟩
  rw [hes]
  exact List.forall_mem_append.2 ⟨hx, hnone⟩

end Approaches

namespace Proxy

variable (p : Proxy) (env : ℕ → Attempt) (body : Bytes)

/-- The first position whose reply is passed on, and the targets behind it. -/
def firstRelay : ℕ → List Target → Option (ℕ × ProviderAdapter × Reply × List Target)
  | _, [] => none
  | i, t :: ts =>
      match p.prepare (env i) body t, (env i).answer p.runtime with
      | .ok (a, _), .ok resp => some (i, a, resp, ts)
      | _, _ => firstRelay (i + 1) ts

/-- The last error, when the HTTP client is called for none of the targets to come. -/
def passedOver : ℕ → GoError → List Target → Option GoError
  | _, lastErr, [] => some lastErr
  | i, _, t :: ts =>
      match p.prepare (env i) body t with
      | .error err => passedOver (i + 1) err ts
      | .ok _ => none

variable {p env body} {stream : Bool} {i : ℕ} {lastErr : GoError} {ts : List Target}
  {x : Exchange} {model : String}

/-- Without a reply to pass on, the chain ends in an error and nothing is committed. -/
theorem tryTargets_of_firstRelay_eq_none (h : p.firstRelay env body i ts = none)
    (stream : Bool) (lastErr : GoError) (x : Exchange) :
    ∃ err y, p.tryTargets env body stream i lastErr ts x = (some err, y) ∧ Approaches x y := by
  induction ts generalizing i lastErr x with
  | nil => exact ⟨_, x, rfl, Approaches.refl x⟩
  | cons t ts ih =>
      cases hprep : p.prepare (env i) body t with
      | error err =>
          rw [tryTargets_of_skip hprep]
          exact ih (by simpa [firstRelay, hprep] using h) err x
      | ok c =>
          cases hanswer : (env i).answer p.runtime with
          | error err =>
              rw [tryTargets_of_decline hprep hanswer]
              rcases ih (by simpa [firstRelay, hprep, hanswer] using h) err _ with
                ⟨e, y, htry, happ⟩
              exact ⟨e, y, htry, (Approaches.record rfl).trans happ⟩
          | ok resp => simp [firstRelay, hprep, hanswer] at h

/-- With one, nothing is committed before it. -/
theorem tryTargets_of_firstRelay {k : ℕ} {a : ProviderAdapter} {resp : Reply} {rest : List Target}
    (h : p.firstRelay env body i ts = some (k, a, resp, rest)) (stream : Bool)
    (lastErr : GoError) (x : Exchange) :
    ∃ y, Approaches x y ∧
      p.tryTargets env body stream i lastErr ts x =
        match relay a k stream resp y with
        | (none, x') => (none, x')
        | (some f, x') =>
            p.tryTargets env body stream (k + 1) (f.toError p.runtime) rest x' := by
  induction ts generalizing i lastErr x with
  | nil => cases h
  | cons t ts ih =>
      cases hprep : p.prepare (env i) body t with
      | error err =>
          rw [tryTargets_of_skip hprep]
          exact ih (by simpa [firstRelay, hprep] using h) err x
      | ok c =>
          cases hanswer : (env i).answer p.runtime with
          | error err =>
              rw [tryTargets_of_decline hprep hanswer]
              rcases ih (by simpa [firstRelay, hprep, hanswer] using h) err _ with ⟨y, happ, htry⟩
              exact ⟨y, (Approaches.record rfl).trans happ, htry⟩
          | ok resp' =>
              rw [tryTargets_of_relay hprep hanswer]
              simp only [firstRelay, hprep, hanswer] at h
              cases h
              exact ⟨_, Approaches.record rfl, rfl⟩

theorem tryTargets_of_passedOver {err : GoError}
    (h : p.passedOver env body i lastErr ts = some err) :
    p.tryTargets env body stream i lastErr ts x =
      (some (.wrap "all providers failed" err), x) := by
  induction ts generalizing i lastErr with
  | nil =>
      cases h
      rfl
  | cons t ts ih =>
      cases hprep : p.prepare (env i) body t with
      | error e =>
          rw [tryTargets_of_skip hprep]
          exact ih (by simpa [passedOver, hprep] using h)
      | ok c => simp [passedOver, hprep] at h

/-- Where a target is not passed over, another upstream is contacted. -/
theorem contact_of_passedOver_eq_none (h : p.passedOver env body i lastErr ts = none)
    (stream : Bool) (x : Exchange) :
    ∃ k t o tail, (p.tryTargets env body stream i lastErr ts x).2.events =
      x.events ++ .contact k t o :: tail := by
  induction ts generalizing i lastErr with
  | nil => cases h
  | cons t ts ih =>
      cases hprep : p.prepare (env i) body t with
      | error err =>
          rw [tryTargets_of_skip hprep]
          exact ih (by simpa [passedOver, hprep] using h)
      | ok c =>
          -- Its contact is recorded first, and what comes after only adds to it.
          have hgrows : (x.record (.contact i t c.2)).events <+:
              (p.tryTargets env body stream i lastErr (t :: ts) x).2.events :=
            grows_of_prepare hprep grows_tryTargets
          rcases hgrows with ⟨tail, htail⟩
          refine ⟨i, t, c.2, tail, ?_⟩
          rw [← htail]
          simp [Exchange.record]

/-! ## When a response stays with its target -/

/-- The first reply that is passed on gets through whole; or nobody is contacted after it and the
error that is left says that the client has gone. -/
def Settles (p : Proxy) (env : ℕ → Attempt) (fault : ℕ → Option (ℕ × GoError)) (body : Bytes)
    (stream : Bool) (i : ℕ) (chain : List Target) : Prop :=
  ∀ k a resp rest f, p.firstRelay env body i chain = some (k, a, resp, rest) →
    relayFailure fault 0 (a.output stream resp) = some f →
    ∃ err, p.passedOver env body (k + 1) (f.toError p.runtime) rest = some err ∧
      err.isCanceled = true

/-- The `503` of the handler comes on top of what was committed. -/
theorem writeHeader_mem_conclude (err : GoError) (herr : err.isCanceled = false) (x : Exchange) :
    ∃ tail, (conclude (some err, x)).events =
      x.events ++ .setHeader "Content-Type" "application/json" :: .writeHeader .handler 503 ::
        tail := by
  rcases answers_write ((x.record (.setHeader "Content-Type" "application/json")).record
    (.writeHeader .handler 503)) (errorBody "providers_unavailable" err.error) with ⟨es, hes, -⟩
  refine ⟨es, ?_⟩
  simp only [conclude, herr, writeError, Bool.false_eq_true, if_false]
  rw [hes]
  simp [Exchange.record]

theorem grows_conclude (out : Option GoError × Exchange) :
    out.2.events <+: (conclude out).events := by
  rcases answers_conclude out with ⟨es, hes, -⟩
  exact ⟨es, hes.symm⟩

theorem servedByOne_of_commitOf_eq_none {es : List Event} (h : ∀ e ∈ es, e.commitOf = none) :
    ServedByOne es := by
  refine servedByOne_of_final (List.Pairwise.imp_of_mem (fun he _ _ i hi => ?_)
    (List.pairwise_of_forall fun _ _ => trivial))
  simp [h _ he] at hi

/-- Once a target is committed, the response stays with it only if nobody else is contacted and the
handler keeps silent. -/
theorem servedByOne_after_commit {e : Event} {k : ℕ} (he : e ∈ x.events)
    (hcommit : e.commitOf = some k) (hserved : ServedByOne x.events) :
    ServedByOne (conclude (p.tryTargets env body stream i lastErr ts x)).events ↔
      ∃ err, p.passedOver env body i lastErr ts = some err ∧ err.isCanceled = true := by
  cases hpass : p.passedOver env body i lastErr ts with
  | none =>
      refine ⟨fun h => ?_, fun ⟨err, herr, _⟩ => by cases herr⟩
      rcases contact_of_passedOver_eq_none hpass stream x with ⟨j, t, o, tail, hevents⟩
      rcases grows_conclude (p.tryTargets env body stream i lastErr ts x) with ⟨more, hmore⟩
      rw [← hmore, hevents, List.append_assoc] at h
      -- A contact continues no response.
      have hcont : (Event.contact j t o).Continues k :=
        continues_of_servedByOne h he hcommit (by simp)
      exact hcont.elim
  | some err =>
      rw [tryTargets_of_passedOver hpass]
      cases hcanceled : err.isCanceled with
      | true =>
          rw [conclude_of_isCanceled (by simpa using hcanceled)]
          exact ⟨fun _ => ⟨err, rfl, hcanceled⟩, fun _ => hserved⟩
      | false =>
          refine ⟨fun h => ?_, fun ⟨err', herr, hc⟩ => ?_⟩
          · rcases writeHeader_mem_conclude (.wrap "all providers failed" err)
              (by simpa using hcanceled) x with ⟨tail, hevents⟩
            rw [hevents] at h
            -- Nor does the header of the handler.
            have hcont : (Event.writeHeader .handler 503).Continues k :=
              continues_of_servedByOne h he hcommit (by simp)
            exact hcont.elim
          · cases herr
            rw [hcanceled] at hc
            cases hc

theorem commitOf_of_answers {y : Exchange} (h : Answers x y)
    (hx : ∀ e ∈ x.events, e.commitOf = none) : ∀ e ∈ y.events, e.commitOf = none := by
  rcases h with ⟨es, hes, hown⟩
  rw [hes]
  exact List.forall_mem_append.2 ⟨hx, fun e he => commitOf_of_ownAnswer (hown e he)⟩

theorem servedByOne_conclude_iff (hx : ∀ e ∈ x.events, e.commitOf = none) (hwrites : x.writes = 0) :
    ServedByOne (conclude (p.tryTargets env body stream i lastErr ts x)).events ↔
      p.Settles env x.fault body stream i ts := by
  cases hfirst : p.firstRelay env body i ts with
  | none =>
      -- No reply is passed on, and the handler's own answer commits to none.
      rcases tryTargets_of_firstRelay_eq_none hfirst stream lastErr x with ⟨err, y, htry, happ⟩
      refine ⟨fun _ k a resp rest f h => by simp [hfirst] at h, fun _ => ?_⟩
      rw [htry]
      exact servedByOne_of_commitOf_eq_none
        (commitOf_of_answers (answers_conclude (some err, y)) (happ.commitOf_eq_none hx))
  | some c =>
      rcases c with ⟨k, a, resp, rest⟩
      rcases tryTargets_of_firstRelay hfirst stream lastErr x with ⟨y, happ, htry⟩
      rcases relay_eq a k stream resp y with ⟨hresult, hwrote⟩
      rcases hwrote.events with ⟨bodyEvents, hbodyEvents, hbody⟩
      have hpre : ∀ e ∈ y.events, e.commitOf = none := happ.commitOf_eq_none hx
      -- The reply's own header and body are the first commit; what matters is how the body ends.
      cases hrelay : relay a k stream resp y with
      | mk r x' =>
          rw [hrelay] at hresult hbodyEvents
          have hevents : x'.events = y.events ++ (.setHeader "Content-Type" resp.contentType ::
              .writeHeader (.target k) resp.status :: bodyEvents) := by
            simpa [Exchange.record] using hbodyEvents
          have hserved : ServedByOne x'.events := by
            rw [hevents]
            exact servedByOne_response hpre hbody
          rw [htry, hrelay]
          rw [happ.fault, happ.writes, hwrites] at hresult
          cases r with
          | none =>
              refine ⟨fun _ k' a' resp' rest' f h hf => ?_, fun _ => hserved⟩
              rw [hfirst] at h
              cases h
              rw [← hresult] at hf
              cases hf
          | some f =>
              have hcommit : Event.writeHeader (.target k) resp.status ∈ x'.events := by
                rw [hevents]
                simp
              refine (servedByOne_after_commit hcommit rfl hserved).trans ⟨?_, fun h => ?_⟩
              · rintro ⟨err, herr, hcanceled⟩ k' a' resp' rest' f' h hf
                rw [hfirst] at h
                cases h
                rw [← hresult] at hf
                cases hf
                exact ⟨err, herr, hcanceled⟩
              · exact h k a resp rest f hfirst hresult.symm

theorem answers_unknown (h : p.router.resolve model = none) :
    Answers x (conclude (p.chatCompletion env model body stream x)) := by
  simpa [chatCompletion, h] using answers_conclude (_, x)

theorem servedByOne_createMiss_iff {s : Surroundings} {req : ChatRequest}
    (hx : ∀ e ∈ x.events, e.commitOf = none) (hwrites : x.writes = 0) :
    ServedByOne (p.createMiss s req body x).events ↔
      ∀ primary fallback, p.router.resolve req.model = some (primary, fallback) →
        p.Settles s.attempts x.fault body req.stream 0 (primary :: fallback) := by
  -- The headers of a stream are set before the chain, and commit to nothing.
  let y : Exchange := if req.stream then streamHeaders x else x
  have hy : Answers x y ∧ y.fault = x.fault ∧ y.writes = 0 := by
    by_cases hstream : req.stream = true
    · simp only [y, hstream, if_true]
      exact ⟨answers_streamHeaders x, rfl, hwrites⟩
    · simp only [y, hstream]
      exact ⟨Answers.refl x, rfl, hwrites⟩
  rcases hy with ⟨hanswers, hfault, hcount⟩
  have hnone : ∀ e ∈ y.events, e.commitOf = none := commitOf_of_answers hanswers hx
  change ServedByOne
    (conclude (p.chatCompletion s.attempts req.model body req.stream y)).events ↔ _
  cases hresolve : p.router.resolve req.model with
  | none =>
      refine ⟨fun _ primary fallback h => (by cases h), fun _ => ?_⟩
      exact servedByOne_of_commitOf_eq_none
        (commitOf_of_answers (answers_unknown hresolve) hnone)
  | some c =>
      rcases c with ⟨primary, fallback⟩
      have hchain : p.chatCompletion s.attempts req.model body req.stream y =
          p.tryTargets s.attempts body req.stream 0 (.text "") (primary :: fallback) y := by
        simp [chatCompletion, hresolve]
      rw [hchain, servedByOne_conclude_iff hnone hcount, hfault]
      constructor
      · rintro h primary' fallback' ⟨⟩
        exact h
      · intro h
        exact h primary fallback rfl

/-- `Create` sends a response of at most one target exactly when its chain settles. -/
theorem servedByOne_create_iff (p : Proxy) (s : Surroundings) (r : Request)
    (fault : ℕ → Option (ℕ × GoError)) (flusher : Bool) :
    ServedByOne (p.create s r { fault := fault, flusher := flusher }).events ↔
      ∀ req body primary fallback, p.forwarded s r = some (req, body) →
        p.router.resolve req.model = some (primary, fallback) →
        p.Settles s.attempts fault body req.stream 0 (primary :: fallback) := by
  let x : Exchange := { fault := fault, flusher := flusher }
  have hx : ∀ e ∈ x.events, e.commitOf = none := by
    simp [x]
  change ServedByOne (p.create s r x).events ↔ _
  cases hforwarded : p.forwarded s r with
  | none =>
      refine ⟨fun _ req body primary fallback h => (by cases h), fun _ => ?_⟩
      exact servedByOne_of_commitOf_eq_none (commitOf_of_answers (answers_create hforwarded) hx)
  | some c =>
      rcases c with ⟨req, body⟩
      rw [create_of_forwarded hforwarded, servedByOne_createMiss_iff hx rfl]
      constructor
      · rintro h req' body' primary fallback ⟨⟩ hresolve
        exact h primary fallback hresolve
      · intro h primary fallback hresolve
        exact h req body primary fallback rfl hresolve

end Proxy

/-! ## A response of two targets -/

theorem ServedByOne.eq_of_mem {es : List Event} (h : ServedByOne es) {i j : ℕ}
    (hi : i ∈ es.filterMap Event.commitOf) (hj : j ∈ es.filterMap Event.commitOf) : i = j := by
  rcases List.mem_filterMap.1 hi with ⟨e, he, hei⟩
  rcases List.mem_filterMap.1 hj with ⟨e', he', hej⟩
  exact h.single e he e' he' i j hei hej

/-- The first upstream breaks off after `200` and some bytes, the second answers. -/
def brokenOff : Surroundings where
  attempts := fun i =>
    if i = 0 then
      { reply := .ok
          { status := 200, contentType := "text/event-stream", reads := [bytesOf "data: a"]
            readError := some (.text "unexpected EOF") } }
    else
      { reply := .ok
          { status := 200, contentType := "text/event-stream", reads := [bytesOf "data: b"] } }
  cacheGet := fun _ => .ok none

def streamedRequest : Request where
  body := { bytes := marshal (.obj [("model", .str "gpt-4o"), ("stream", .bool true)]) }

/-- The response carries a status and body bytes of the first target and then those of the
second. -/
theorem broken_stream_is_continued_by_fallback :
    ¬ ∀ (rt : Runtime) (router : Router) (s : Surroundings) (r : Request)
        (fault : ℕ → Option (ℕ × GoError)) (flusher : Bool),
      ServedByOne
        ((newProxy rt router).create s r { fault := fault, flusher := flusher }).events := by
  intro h
  have hcommits :
      ((newProxy plainRuntime twoProviders).create brokenOff streamedRequest
        { fault := fun _ => none, flusher := false }).events.filterMap Event.commitOf =
        [0, 0, 1, 1] := by
    decide +kernel
  have hone := h plainRuntime twoProviders brokenOff streamedRequest (fun _ => none) false
  have heq : (0 : ℕ) = 1 := by
    apply hone.eq_of_mem <;> rw [hcommits] <;> decide
  exact absurd heq (by decide)

end Gateway
end OpenRouter
