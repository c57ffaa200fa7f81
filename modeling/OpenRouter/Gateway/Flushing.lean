import OpenRouter.Gateway.EventStream
import OpenRouter.Gateway.Relay

/-!
# Flushing — the response writer behind the middlewares

`streamResponse` flushes if the writer it is given is an `http.Flusher`.  `Logger` hands on a
`statusRecorder`, whose method set is that of `http.ResponseWriter`.  `flushedAtReads_of_flusher`
is what the loop does over a writer that can flush, `flushedAtReads_served_iff` what is left of it
behind the chain of `buildHTTPServer`.
-/

namespace OpenRouter
namespace Gateway

open Base

/-! ## Writers and middlewares -/

inductive Method
  | header
  | write
  | writeHeader
  | flush
  deriving DecidableEq

/-- The writer of `net/http`, and the one that `Logger` puts around another. -/
inductive ResponseWriter
  | netHTTP
  | statusRecorder (inner : ResponseWriter)

/-- The method set; an embedded interface promotes the methods of the interface only. -/
def ResponseWriter.methods : ResponseWriter → List Method
  | netHTTP => [.header, .write, .writeHeader, .flush]
  | statusRecorder _ => [.header, .write, .writeHeader]

/-- Whether `w.(http.Flusher)` succeeds. -/
def ResponseWriter.isFlusher (w : ResponseWriter) : Bool :=
  decide (.flush ∈ w.methods)

/-- A handler is what it does to the writer it is given. -/
abbrev Handler (α : Type) := ResponseWriter → α

namespace Middleware

variable {α : Type}

def requestID (next : Handler α) : Handler α :=
  fun w => next w

def recoverer (next : Handler α) : Handler α :=
  fun w => next w

def logger (next : Handler α) : Handler α :=
  fun w => next (.statusRecorder w)

def tracing (next : Handler α) : Handler α :=
  fun w => next w

/-- `Auth`, on a request that it lets through. -/
def auth (next : Handler α) : Handler α :=
  fun w => next w

/-- `RateLimit`, on a request that it lets through. -/
def rateLimit (next : Handler α) : Handler α :=
  fun w => next w

end Middleware

/-- The first middleware is the outermost. -/
def chain {α : Type} (middlewares : List (Handler α → Handler α)) (endpoint : Handler α) :
    Handler α :=
  middlewares.foldr (fun m next => m next) endpoint

/-- The route of the chat completions in `buildHTTPServer`, on the server's own writer. -/
def buildHTTPServer {α : Type} (create : Handler α) : α :=
  chain [Middleware.requestID, Middleware.recoverer, Middleware.logger, Middleware.tracing]
    (chain [Middleware.auth, Middleware.rateLimit] create) .netHTTP

/-- The exchange over a writer: the type assertion of `streamResponse`. -/
def Exchange.over (x : Exchange) (w : ResponseWriter) : Exchange :=
  { x with flusher := w.isFlusher }

/-! ## Going back to read -/

/-- What is written behind the last flush. -/
def unflushed (es : List Event) : Bytes :=
  es.foldl
    (fun pending e =>
      match e with
      | .flush => []
      | .write _ bs => pending ++ bs
      | _ => pending)
    []

/-- The loop of `streamResponse` over some reads that more reads follow. -/
def relayReads (tr : StreamTranslator) (i : ℕ) :
    List Bytes → tr.State → Exchange → Except SendFailure tr.State × Exchange
  | [], s, x => (.ok s, x)
  | chunk :: reads, s, x =>
      match writeChunk tr i s chunk x with
      | (.error f, x') => (.error f, x')
      | (.ok s', x') => relayReads tr i reads s' x'

/-- `relayReads` is the loop up to where it goes back to read. -/
theorem streamLoop_append (tr : StreamTranslator) (i : ℕ) (readError : Option GoError)
    (before after : List Bytes) (s : tr.State) (x : Exchange) :
    streamLoop tr i readError (before ++ after) s x =
      match relayReads tr i before s x with
      | (.error f, x') => (some f, x')
      | (.ok s', x') => streamLoop tr i readError after s' x' := by
  induction before generalizing s x with
  | nil => rfl
  | cons chunk before ih =>
      rw [List.cons_append, streamLoop, relayReads]
      rcases writeChunk tr i s chunk x with ⟨f | s', x'⟩
      · rfl
      · exact ih s' x'

/-- Whenever `streamResponse` goes back to read, what it has written is flushed. -/
def FlushedAtReads (a : ProviderAdapter) (i : ℕ) (resp : Reply) (x : Exchange) : Prop :=
  ∀ before after s' y, resp.reads = before ++ after → before ≠ [] → after ≠ [] →
    relayReads a.newStreamTranslator i before a.newStreamTranslator.start x = (.ok s', y) →
    unflushed (y.events.drop x.events.length) = []

/-! ## Over a writer that can flush -/

theorem unflushed_append_flush (es : List Event) : unflushed (es ++ [.flush]) = [] := by
  simp [unflushed]

theorem flusher_writeAll (x : Exchange) (src : Source) (ws : List Bytes) :
    (x.writeAll src ws).2.flusher = x.flusher := by
  induction ws generalizing x with
  | nil => rfl
  | cons bs ws ih =>
      cases hfault : x.fault x.writes with
      | some f => simp [Exchange.writeAll, Exchange.write, hfault, Exchange.record]
      | none => simp [Exchange.writeAll, Exchange.write, hfault, ih, Exchange.record]

/-- A chunk that is relayed leaves nothing behind that is not flushed. -/
theorem unflushed_of_writeChunk {tr : StreamTranslator} {i : ℕ} {s s' : tr.State} {chunk : Bytes}
    {x y : Exchange} (hflusher : x.flusher = true) (h : writeChunk tr i s chunk x = (.ok s', y)) :
    y.flusher = true ∧ (y = x ∨ ∃ es, y.events = x.events ++ es ∧ unflushed es = []) := by
  unfold writeChunk at h
  split_ifs at h with hchunk
  · cases h
    exact ⟨hflusher, .inl rfl⟩
  · have hwrote := Wrote.writeAll i x (tr.translate s chunk).1
    have hsame := flusher_writeAll x (.target i) (tr.translate s chunk).1
    cases hall : x.writeAll (.target i) (tr.translate s chunk).1 with
    | mk r z =>
        rw [hall] at h hwrote hsame
        have hz : z.flusher = true := hsame.trans hflusher
        cases r with
        | some err => cases h
        | none =>
            cases hend : (tr.translate s chunk).2 with
            | error err =>
                rw [hend] at h
                cases h
            | ok s'' =>
                rw [hend] at h
                cases h
                rcases hwrote.events with ⟨es, hes, -⟩
                have hevents : z.events = x.events ++ es := hes
                refine ⟨by simp [Exchange.flush, hz, Exchange.record], .inr ⟨es ++ [.flush], ?_,
                  unflushed_append_flush es⟩⟩
                simp [Exchange.flush, hz, Exchange.record, hevents]

theorem unflushed_of_relayReads {tr : StreamTranslator} {i : ℕ} {reads : List Bytes}
    {s s' : tr.State} {x y : Exchange} (hflusher : x.flusher = true)
    (h : relayReads tr i reads s x = (.ok s', y)) :
    ∃ es, y.events = x.events ++ es ∧ unflushed es = [] := by
  -- The invariant is about the events since `x₀`, in front of any of the reads.
  suffices hrun : ∀ (x₀ : Exchange) es₀ s x, x.flusher = true → x.events = x₀.events ++ es₀ →
      unflushed es₀ = [] → relayReads tr i reads s x = (.ok s', y) →
      ∃ es, y.events = x₀.events ++ es ∧ unflushed es = [] from
    hrun x [] s x hflusher (by simp) rfl h
  clear h hflusher
  induction reads with
  | nil =>
      intro x₀ es₀ s x _ hes hnone h
      cases h
      exact ⟨es₀, hes, hnone⟩
  | cons chunk reads ih =>
      intro x₀ es₀ s x hflusher hes hnone h
      rw [relayReads] at h
      cases hstep : writeChunk tr i s chunk x with
      | mk r z =>
          rw [hstep] at h
          cases r with
          | error f => cases h
          | ok s'' =>
              rcases unflushed_of_writeChunk hflusher hstep with ⟨hz, rfl | ⟨es, hadd, hflushed⟩⟩
              · exact ih x₀ es₀ s'' z hz hes hnone h
              · refine ih x₀ (es₀ ++ es) s'' z hz (by rw [hadd, hes, List.append_assoc]) ?_ h
                have hall : unflushed (es₀ ++ es) = unflushed es := by
                  have hstart : unflushed es₀ = [] := hnone
                  rw [unflushed, List.foldl_append, ← unflushed, hstart]
                  rfl
                rw [hall, hflushed]

theorem flushedAtReads_of_flusher (a : ProviderAdapter) (i : ℕ) (resp : Reply) {x : Exchange}
    (hflusher : x.flusher = true) : FlushedAtReads a i resp x := by
  intro before after s' y _ _ _ h
  rcases unflushed_of_relayReads hflusher h with ⟨es, hes, hflushed⟩
  rw [hes, List.drop_left, hflushed]

/-! ## Over a writer that cannot -/

/-- What a translator makes of some reads; an empty read is not translated. -/
def StreamTranslator.translateReads (tr : StreamTranslator) :
    tr.State → List Bytes → List Bytes × Except GoError tr.State
  | s, [] => ([], .ok s)
  | s, chunk :: reads =>
      andThen (if chunk.length = 0 then ([], .ok s) else tr.translate s chunk) fun s' =>
        tr.translateReads s' reads

theorem unflushed_map_write (i : ℕ) (ws : List Bytes) :
    unflushed (ws.map (.write (.target i))) = ws.flatten := by
  suffices h : ∀ pending : Bytes, (ws.map (Event.write (.target i))).foldl
      (fun pending e =>
        match e with
        | .flush => []
        | .write _ bs => pending ++ bs
        | _ => pending) pending = pending ++ ws.flatten from h []
  induction ws with
  | nil => simp
  | cons bs ws ih =>
      intro pending
      simp [ih]

/-- A chunk is relayed when it is translated and none of its writes fails. -/
theorem writeChunk_eq_ok_iff {tr : StreamTranslator} {i : ℕ} {s s' : tr.State} {chunk : Bytes}
    {x y : Exchange} (hflusher : x.flusher = false) :
    writeChunk tr i s chunk x = (.ok s', y) ↔
      ∃ ws, (if chunk.length = 0 then ([], .ok s) else tr.translate s chunk) = (ws, .ok s') ∧
        firstFault x.fault x.writes ws.length = none ∧ y = x.wrote i ws := by
  by_cases hchunk : chunk.length = 0
  · simp only [writeChunk, hchunk, if_true]
    constructor
    · intro h
      cases h
      exact ⟨[], rfl, rfl, by simp [Exchange.wrote]⟩
    · rintro ⟨ws, htr, -, rfl⟩
      cases htr
      simp [Exchange.wrote]
  · simp only [writeChunk, hchunk, if_false]
    cases htr : tr.translate s chunk with
    | mk ws r =>
        cases hfirst : firstFault x.fault x.writes ws.length with
        | some err =>
            -- A write fails, so neither side holds.
            have hfail : (x.writeAll (.target i) ws).1 = some err :=
              (writeAll_eq i x ws).1.trans hfirst
            cases hall : x.writeAll (.target i) ws with
            | mk r' z =>
                rw [hall] at hfail
                have hr : r' = some err := hfail
                subst hr
                constructor
                · intro h
                  cases h
                · rintro ⟨ws', hpair, hnone, -⟩
                  cases hpair
                  rw [hfirst] at hnone
                  cases hnone
        | none =>
            simp only [writeAll_of_firstFault i hfirst]
            -- There is nothing to flush with.
            have hflush : (x.wrote i ws).flush = x.wrote i ws := by
              simp [Exchange.flush, Exchange.wrote, hflusher]
            cases r with
            | error err =>
                constructor
                · intro h
                  cases h
                · rintro ⟨ws', hpair, -⟩
                  cases hpair
            | ok s'' =>
                simp only [hflush]
                constructor
                · intro h
                  cases h
                  exact ⟨ws, rfl, hfirst, rfl⟩
                · rintro ⟨ws', hpair, -, rfl⟩
                  cases hpair
                  rfl

theorem relayReads_eq_ok_iff {tr : StreamTranslator} {i : ℕ} {reads : List Bytes}
    {s s' : tr.State} {x y : Exchange} (hflusher : x.flusher = false) :
    relayReads tr i reads s x = (.ok s', y) ↔
      ∃ ws, tr.translateReads s reads = (ws, .ok s') ∧
        firstFault x.fault x.writes ws.length = none ∧ y = x.wrote i ws := by
  induction reads generalizing s x with
  | nil =>
      constructor
      · intro h
        cases h
        exact ⟨[], rfl, rfl, by simp [Exchange.wrote]⟩
      · rintro ⟨ws, htr, -, rfl⟩
        cases htr
        simp [relayReads, Exchange.wrote]
  | cons chunk reads ih =>
      rw [relayReads, StreamTranslator.translateReads]
      constructor
      · intro h
        -- The first chunk is through, so the rest starts behind its writes.
        cases hstep : writeChunk tr i s chunk x with
        | mk r z =>
            rw [hstep] at h
            cases r with
            | error f => cases h
            | ok s'' =>
                rcases (writeChunk_eq_ok_iff hflusher).1 hstep with ⟨ws, htr, hfirst, rfl⟩
                rcases (ih (x := x.wrote i ws) hflusher).1 h with ⟨ws', hreads, hfirst', rfl⟩
                refine ⟨ws ++ ws', by rw [htr, andThen_ok, hreads], ?_, wrote_wrote x i ws ws'⟩
                rw [List.length_append, firstFault_add, hfirst]
                exact hfirst'
      · rintro ⟨ws, hreads, hfirst, rfl⟩
        -- The writes split at the end of the first chunk, and so do the faults.
        cases htr : (if chunk.length = 0 then ([], .ok s) else tr.translate s chunk :
            List Bytes × Except GoError tr.State) with
        | mk ws₁ r =>
            rw [htr] at hreads
            cases r with
            | error err => cases hreads
            | ok s'' =>
                rw [andThen_ok, Prod.mk.injEq] at hreads
                rcases hreads with ⟨rfl, hend⟩
                rw [List.length_append, firstFault_add, Option.or_eq_none_iff] at hfirst
                have hstep := (writeChunk_eq_ok_iff (i := i) hflusher).2 ⟨ws₁, htr, hfirst.1, rfl⟩
                rw [hstep]
                exact (ih (x := x.wrote i ws₁) hflusher).2
                  ⟨_, Prod.ext rfl hend, hfirst.2, (wrote_wrote ..).symm⟩

/-! ## The served response -/

/-- One streamed response is flushed at every read, behind the chain of middlewares. -/
def ServedFlushed (a : ProviderAdapter) (i : ℕ) (resp : Reply) (x : Exchange) : Prop :=
  buildHTTPServer fun w => FlushedAtReads a i resp (x.over w)

/-- No reads that another read follows are translated to any bytes; where the translation or one of
its writes fails, there is no next read. -/
def SilentBeforeLastRead (a : ProviderAdapter) (resp : Reply) (x : Exchange) : Prop :=
  ∀ before after ws s', resp.reads = before ++ after → after ≠ [] →
    a.newStreamTranslator.translateReads a.newStreamTranslator.start before = (ws, .ok s') →
    firstFault x.fault x.writes ws.length = none → ws.flatten = []

/-- `Logger` hides the `Flusher`: behind the chain of middlewares what is written is flushed
whenever `streamResponse` goes back to read exactly when nothing is written before the last read. -/
theorem servedFlushed_iff (a : ProviderAdapter) (i : ℕ) (resp : Reply) (x : Exchange) :
    ServedFlushed a i resp x ↔ SilentBeforeLastRead a resp x := by
  let y : Exchange := x.over (.statusRecorder .netHTTP)
  have hserved : ServedFlushed a i resp x = FlushedAtReads a i resp y := rfl
  have hflusher : y.flusher = false := rfl
  rw [hserved]
  constructor
  · intro h before after ws s' hreads hafter htr hfirst
    -- Before the first read there is nothing to flush.
    by_cases hbefore : before = []
    · subst hbefore
      cases htr
      rfl
    · have hrelay := (relayReads_eq_ok_iff (i := i) hflusher).2 ⟨ws, htr, hfirst, rfl⟩
      have hnone := h before after s' _ hreads hbefore hafter hrelay
      rwa [Exchange.wrote, List.drop_left, unflushed_map_write] at hnone
  · intro h before after s' z hreads _ hafter hrelay
    rcases (relayReads_eq_ok_iff hflusher).1 hrelay with ⟨ws, htr, hfirst, rfl⟩
    rw [Exchange.wrote, List.drop_left, unflushed_map_write]
    exact h before after ws s' hreads hafter htr hfirst

/-- A stream of OpenAI in two reads. -/
def twoReads : Reply where
  status := 200
  contentType := "text/event-stream"
  reads := [bytesOf "data: a\n\n", bytesOf "data: b\n\n"]

theorem first_read_stays_unflushed :
    ¬ServedFlushed (openAI plainRuntime) 0 twoReads
      { fault := fun _ => none, flusher := true } := by
  intro h
  have hnone := h [bytesOf "data: a\n\n"] [bytesOf "data: b\n\n"] () _ rfl (by decide) (by decide)
    rfl
  revert hnone
  decide +kernel

end Gateway
end OpenRouter
