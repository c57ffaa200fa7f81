import OpenRouter.Gateway.EventStream
import OpenRouter.Gateway.Relay

/-!
# Chunks — a stream does not depend on how it is read

`whole` is what one `Translate` of everything and then `Close` write.  `streamResponse_eq_whole`
says that `streamResponse` writes the same bytes and ends in the same error, however the reader
cuts the upstream's bytes.
-/

namespace OpenRouter
namespace Gateway

open Base

/-! ## What is written -/

/-- The bytes that an event puts on the body. -/
def Event.bytes : Event → Bytes
  | .write _ bs => bs
  | _ => []

/-- The bytes written so far. -/
def Exchange.body (x : Exchange) : Bytes :=
  x.events.flatMap Event.bytes

namespace Exchange

variable {x y : Exchange}

@[simp] theorem body_flush (x : Exchange) : x.flush.body = x.body := by
  unfold flush
  split_ifs
  · simp [body, record, Event.bytes]
  · rfl

@[simp] theorem fault_flush (x : Exchange) : x.flush.fault = x.fault := by
  unfold flush
  split_ifs <;> rfl

theorem body_wrote (x : Exchange) (i : ℕ) (ws : List Bytes) :
    (x.wrote i ws).body = x.body ++ ws.flatten := by
  simp [body, wrote, List.flatMap_map, Event.bytes, List.flatMap_id']

/-- Writes that do not fail are all on the body. -/
theorem writeAll_of_noFault (hfault : ∀ n, x.fault n = none) (i : ℕ) (ws : List Bytes) :
    ∃ y, x.writeAll (.target i) ws = (none, y) ∧ y.body = x.body ++ ws.flatten ∧
      y.fault = x.fault :=
  ⟨x.wrote i ws, writeAll_of_firstFault i (firstFault_eq_none hfault _ _), body_wrote x i ws, rfl⟩

end Exchange

/-! ## One call for everything -/

namespace StreamTranslator

variable (tr : StreamTranslator)

/-- The bytes and the end of a call. -/
def flat {α : Type} (r : List Bytes × Except GoError α) : Bytes × Except GoError α :=
  (r.1.flatten, r.2)

/-- `Translate` of all the bytes, and `Close` if that succeeds: what is written and the error. -/
def wholeFrom (s : tr.State) (bs : Bytes) : Bytes × Option GoError :=
  match flat (andThen (tr.translate s bs) tr.close) with
  | (out, .ok _) => (out, none)
  | (out, .error err) => (out, some err)

def whole (bs : Bytes) : Bytes × Option GoError :=
  tr.wholeFrom tr.start bs

/-- Two calls come to what one call for both chunks comes to. -/
structure Splits : Prop where
  append : ∀ s a b, flat (tr.translate s (a ++ b)) =
    flat (andThen (tr.translate s a) fun s' => tr.translate s' b)
  start : flat (tr.translate tr.start []) = ([], .ok tr.start)

/-- Nothing is left to do without more bytes. -/
def Settled (s : tr.State) : Prop :=
  flat (tr.translate s []) = ([], .ok s)

variable {tr}

theorem flat_andThen {α β : Type} {r r' : List Bytes × Except GoError α} (h : flat r = flat r')
    (f : α → List Bytes × Except GoError β) : flat (andThen r f) = flat (andThen r' f) := by
  rcases r with ⟨ws, q⟩
  rcases r' with ⟨ws', q'⟩
  simp only [flat, Prod.mk.injEq] at h
  rcases h with ⟨hws, rfl⟩
  cases q <;> simp [flat, hws]

theorem Splits.settled (h : tr.Splits) {s s' : tr.State} {a : Bytes} {ws : List Bytes}
    (htr : tr.translate s a = (ws, .ok s')) : tr.Settled s' := by
  -- Nothing more is written for no more bytes, so the state is settled.
  have happend := h.append s a []
  rw [List.append_nil, htr] at happend
  simp only [flat, andThen_ok, List.flatten_append, Prod.mk.injEq] at happend
  rcases happend with ⟨hout, hend⟩
  have hnil : (tr.translate s' []).1.flatten = [] := by
    simpa using hout
  simp only [Settled, flat, hnil, ← hend]

theorem wholeFrom_nil {s : tr.State} (h : tr.Settled s) :
    tr.wholeFrom s [] =
      match flat (tr.close s) with
      | (out, .ok _) => (out, none)
      | (out, .error err) => (out, some err) := by
  have hflat : flat (andThen (tr.translate s []) tr.close) = flat (tr.close s) := by
    have hsame : flat (tr.translate s []) = flat (([], .ok s) : List Bytes × Except GoError _) := h
    simpa [flat] using flat_andThen hsame tr.close
  rw [wholeFrom, hflat]

/-- The first chunk, and then the rest. -/
theorem wholeFrom_append (h : tr.Splits) (s : tr.State) (a b : Bytes) :
    tr.wholeFrom s (a ++ b) =
      match tr.translate s a with
      | (ws, .error err) => (ws.flatten, some err)
      | (ws, .ok s') => (ws.flatten ++ (tr.wholeFrom s' b).1, (tr.wholeFrom s' b).2) := by
  have hflat : flat (andThen (tr.translate s (a ++ b)) tr.close) =
      flat (andThen (tr.translate s a) fun s' => andThen (tr.translate s' b) tr.close) := by
    rw [flat_andThen (h.append s a b), andThen_assoc]
  rw [wholeFrom, hflat]
  rcases tr.translate s a with ⟨ws, err | s'⟩
  · rfl
  · rcases hrest : andThen (tr.translate s' b) tr.close with ⟨ws', err | u⟩ <;>
      simp [wholeFrom, flat, hrest]

end StreamTranslator

/-! ## The two translators -/

theorem splits_passthrough : passthroughTranslator.Splits where
  append := by
    intro s a b
    simp [passthroughTranslator, StreamTranslator.flat]
  start := rfl

theorem splits_anthropic (rt : Runtime) : (anthropicStreamTranslator rt).Splits where
  append := by
    intro s a b
    exact congrArg StreamTranslator.flat (AnthropicStream.translate_append rt s a b)
  start := rfl

/-! ## Reads -/

/-- Reads in any cut come to one call for all of their bytes. -/
theorem streamLoop_eq_whole {tr : StreamTranslator} (h : tr.Splits) (rt : Runtime) (i : ℕ)
    (reads : List Bytes) {s : tr.State} (hs : tr.Settled s) {x : Exchange}
    (hfault : ∀ n, x.fault n = none) :
    (streamLoop tr i none reads s x).2.body = x.body ++ (tr.wholeFrom s reads.flatten).1 ∧
      (streamLoop tr i none reads s x).1.map (SendFailure.toError rt) =
        (tr.wholeFrom s reads.flatten).2 := by
  induction reads generalizing s x with
  | nil =>
      rcases Exchange.writeAll_of_noFault hfault i (tr.close s).1 with
        ⟨y, hall, hbody, -⟩
      rw [List.flatten_nil, StreamTranslator.wholeFrom_nil hs]
      cases hend : (tr.close s).2 with
      | error err =>
          simp [streamLoop, finishStream, hall, hend, hbody, StreamTranslator.flat,
            SendFailure.toError]
      | ok u => simp [streamLoop, finishStream, hall, hend, hbody, StreamTranslator.flat]
  | cons chunk reads ih =>
      by_cases hchunk : chunk.length = 0
      -- A read of no bytes changes neither side.
      · have hnil : chunk = [] := List.length_eq_zero_iff.1 hchunk
        simpa [streamLoop, writeChunk, hnil] using ih hs hfault
      · rcases Exchange.writeAll_of_noFault hfault i (tr.translate s chunk).1 with
          ⟨y, hall, hbody, hsame⟩
        rw [List.flatten_cons, StreamTranslator.wholeFrom_append h]
        cases htr : tr.translate s chunk with
        | mk ws r =>
            rw [htr] at hall hbody
            cases r with
            | error err =>
                simp [streamLoop, writeChunk, hchunk, htr, hall, hbody, SendFailure.toError]
            | ok s' =>
                -- The writes leave the client as it was, so the rest does not fail either.
                have hfault' : ∀ n, y.flush.fault n = none := by
                  intro n
                  rw [Exchange.fault_flush, hsame]
                  exact hfault n
                rcases ih (h.settled htr) hfault' with ⟨hrest, herr⟩
                have hloop : streamLoop tr i none (chunk :: reads) s x =
                    streamLoop tr i none reads s' y.flush := by
                  simp [streamLoop, writeChunk, hchunk, htr, hall]
                rw [hloop]
                refine ⟨?_, herr⟩
                rw [hrest, Exchange.body_flush, hbody, List.append_assoc]

/-- However the reader delivers the upstream's bytes, with either translator, the bytes written
and the error are those of one `Translate` call on the whole and then `Close`. -/
theorem streamResponse_eq_whole {rt : Runtime} {a : ProviderAdapter}
    (ha : a.newStreamTranslator = passthroughTranslator ∨
      a.newStreamTranslator = anthropicStreamTranslator rt)
    (i : ℕ) {resp : Reply} (heof : resp.readError = none) {x : Exchange}
    (hfault : ∀ n, x.fault n = none) :
    (streamResponse a i resp x).2.body =
        x.body ++ (a.newStreamTranslator.whole resp.reads.flatten).1 ∧
      (streamResponse a i resp x).1.map (SendFailure.toError rt) =
        (a.newStreamTranslator.whole resp.reads.flatten).2 := by
  have hsplits : a.newStreamTranslator.Splits := by
    rcases ha with ha | ha
    · rw [ha]
      exact splits_passthrough
    · rw [ha]
      exact splits_anthropic rt
  have hloop : streamResponse a i resp x =
      streamLoop a.newStreamTranslator i none resp.reads a.newStreamTranslator.start x := by
    rw [streamResponse, heof]
  rw [hloop]
  exact streamLoop_eq_whole hsplits rt i resp.reads hsplits.start hfault

/-- An event of Anthropic, cut in the middle of its first line, with an empty read in between. -/
def cutReads : List Bytes :=
  [bytesOf "event: mess", [], bytesOf "age_delta\r",
    bytesOf "\ndata: " ++ marshal (.obj [("delta", .obj [("stop_reason", .str "end_turn")])]),
    bytesOf "\n\n"]

theorem streamResponse_eq_whole_cut :
    cutReads.length = 5 ∧
      (streamResponse (anthropic plainRuntime) 0
          { status := 200, contentType := "text/event-stream", reads := cutReads }
          { fault := fun _ => none, flusher := false }).2.body =
        [] ++ ((anthropic plainRuntime).newStreamTranslator.whole cutReads.flatten).1 ∧
      (streamResponse (anthropic plainRuntime) 0
          { status := 200, contentType := "text/event-stream", reads := cutReads }
          { fault := fun _ => none, flusher := false }).1.map (SendFailure.toError plainRuntime) =
        ((anthropic plainRuntime).newStreamTranslator.whole cutReads.flatten).2 :=
  ⟨rfl, @streamResponse_eq_whole plainRuntime (anthropic plainRuntime) (.inr rfl) 0 _ rfl _
    fun _ => rfl⟩

end Gateway
end OpenRouter
