import OpenRouter.Gateway.Anthropic

/-!
# EventStream — the line parser of the Anthropic translator

`Translate` appends a chunk to the buffer and drains the complete lines.  `drain_of_none`,
`drain_of_blank` and `drain_of_line` are its recursion without fuel, and `drain_induct` is the
induction that goes with it; `drain_feed` says that bytes which come later do not change what is
drained now.
-/

namespace OpenRouter
namespace Gateway

open Base

/-! ## Writes in sequence -/

/-- Go on with what a call leaves, unless it failed. -/
def andThen {α β : Type} (r : List Bytes × Except GoError α)
    (f : α → List Bytes × Except GoError β) : List Bytes × Except GoError β :=
  match r with
  | (ws, .error err) => (ws, .error err)
  | (ws, .ok a) => (ws ++ (f a).1, (f a).2)

@[simp] theorem andThen_error {α β : Type} (ws : List Bytes) (err : GoError)
    (f : α → List Bytes × Except GoError β) : andThen (ws, .error err) f = (ws, .error err) := rfl

@[simp] theorem andThen_ok {α β : Type} (ws : List Bytes) (a : α)
    (f : α → List Bytes × Except GoError β) :
    andThen (ws, .ok a) f = (ws ++ (f a).1, (f a).2) := rfl

theorem andThen_assoc {α β γ : Type} (r : List Bytes × Except GoError α)
    (f : α → List Bytes × Except GoError β) (g : β → List Bytes × Except GoError γ) :
    andThen (andThen r f) g = andThen r fun a => andThen (f a) g := by
  rcases r with ⟨ws, err | a⟩
  · rfl
  · rcases hf : f a with ⟨ws', err | b⟩ <;> simp [hf]

/-! ## Lines -/

theorem takeLine_append {bs raw rest : Bytes} (h : takeLine bs = some (raw, rest)) (more : Bytes) :
    takeLine (bs ++ more) = some (raw, rest ++ more) := by
  induction bs generalizing raw with
  | nil => cases h
  | cons b bs ih =>
      by_cases hb : b = 10
      · simp only [takeLine, hb, if_true, Option.some.injEq, Prod.mk.injEq] at h
        rcases h with ⟨rfl, rfl⟩
        simp [takeLine, hb]
      · simp only [takeLine, hb, if_false, Option.map_eq_some_iff, Prod.mk.injEq] at h
        rcases h with ⟨⟨raw', rest'⟩, hline, rfl, rfl⟩
        simp [takeLine, hb, ih hline]

theorem length_of_takeLine {bs raw rest : Bytes} (h : takeLine bs = some (raw, rest)) :
    rest.length < bs.length := by
  induction bs generalizing raw with
  | nil => cases h
  | cons b bs ih =>
      by_cases hb : b = 10
      · simp only [takeLine, hb, if_true, Option.some.injEq, Prod.mk.injEq] at h
        rcases h with ⟨rfl, rfl⟩
        exact Nat.lt_succ_self _
      · simp only [takeLine, hb, if_false, Option.map_eq_some_iff, Prod.mk.injEq] at h
        rcases h with ⟨⟨raw', rest'⟩, hline, rfl, rfl⟩
        exact Nat.lt_succ_of_lt (ih hline)

namespace AnthropicStream

variable {rt : Runtime} {t : AnthropicStream}

def setBuf (t : AnthropicStream) (buf : Bytes) : AnthropicStream :=
  { t with lineBuf := buf }

/-- More bytes in the buffer. -/
def feed (t : AnthropicStream) (more : Bytes) : AnthropicStream :=
  t.setBuf (t.lineBuf ++ more)

/-- The end of a dispatched event. -/
def reset (t : AnthropicStream) : AnthropicStream :=
  { t with currentEvent := [], currentData := [] }

@[simp] theorem lineBuf_setBuf (t : AnthropicStream) (buf : Bytes) :
    (t.setBuf buf).lineBuf = buf := rfl

@[simp] theorem setBuf_setBuf (t : AnthropicStream) (buf buf' : Bytes) :
    (t.setBuf buf).setBuf buf' = t.setBuf buf' := rfl

@[simp] theorem setBuf_lineBuf (t : AnthropicStream) : t.setBuf t.lineBuf = t := rfl

@[simp] theorem lineBuf_reset (t : AnthropicStream) : t.reset.lineBuf = t.lineBuf := rfl

theorem consumeLine_setBuf (t : AnthropicStream) (buf line : Bytes) :
    (t.setBuf buf).consumeLine line = (t.consumeLine line).setBuf buf := by
  unfold consumeLine
  cases hevent : stripLinePrefix line "event:" with
  | some name => rfl
  | none =>
      cases hdata : stripLinePrefix line "data:" with
      | some data => rfl
      | none => rfl

@[simp] theorem lineBuf_consumeLine (t : AnthropicStream) (line : Bytes) :
    (t.consumeLine line).lineBuf = t.lineBuf := by
  have hsame := congrArg lineBuf (consumeLine_setBuf t t.lineBuf line)
  simpa using hsame

/-- An event is dispatched without a look at the buffer. -/
theorem dispatch_setBuf (rt : Runtime) (t : AnthropicStream) (buf : Bytes) :
    (t.setBuf buf).dispatch rt =
      andThen (t.dispatch rt) fun t' => ([], .ok (t'.setBuf buf)) := by
  have hstart : (t.setBuf buf).handleMessageStart rt =
      andThen (t.handleMessageStart rt) fun t' => ([], .ok (t'.setBuf buf)) := by
    cases hev : unmarshal {} decodeMessageStart t.currentData <;>
      simp [handleMessageStart, setBuf, hev, chunkWrites, chunkTree]
  have hdelta : (t.setBuf buf).handleContentBlockDelta rt =
      andThen (t.handleContentBlockDelta rt) fun t' => ([], .ok (t'.setBuf buf)) := by
    cases hev : unmarshal {} decodeContentBlockDelta t.currentData with
    | none => simp [handleContentBlockDelta, setBuf, hev]
    | some ev =>
        by_cases htext : ev.type ≠ "text_delta" ∨ ev.text = "" <;>
          simp [handleContentBlockDelta, setBuf, hev, htext, chunkWrites, chunkTree]
  have hmessage : (t.setBuf buf).handleMessageDelta rt =
      andThen (t.handleMessageDelta rt) fun t' => ([], .ok (t'.setBuf buf)) := by
    cases hev : unmarshal "" decodeMessageDelta t.currentData with
    | none => simp [handleMessageDelta, setBuf, hev]
    | some reason =>
        by_cases hreason : reason = "" <;>
          simp [handleMessageDelta, setBuf, hev, hreason, chunkWrites, chunkTree]
  -- All that `dispatch` reads besides is untouched.
  have hevent : (t.setBuf buf).currentEvent = t.currentEvent := rfl
  have hdata : (t.setBuf buf).currentData = t.currentData := rfl
  simp only [dispatch, hevent, hdata, hstart, hdelta, hmessage]
  split_ifs <;> simp [setBuf, chunkWrites, chunkTree]

theorem lineBuf_of_dispatch {ws : List Bytes} {t' : AnthropicStream}
    (h : t.dispatch rt = (ws, .ok t')) : t'.lineBuf = t.lineBuf := by
  have hsame := dispatch_setBuf rt t t.lineBuf
  rw [setBuf_lineBuf, h, andThen_ok, Prod.mk.injEq, Except.ok.injEq] at hsame
  rw [hsame.2, lineBuf_setBuf]

/-! ## Draining the buffer -/

/-- What `Translate` does once the chunk is in the buffer. -/
def drain (rt : Runtime) (t : AnthropicStream) : List Bytes × Except GoError AnthropicStream :=
  t.translateLines rt t.lineBuf.length

theorem translate_eq (rt : Runtime) (t : AnthropicStream) (chunk : Bytes) :
    t.translate rt chunk = (t.feed chunk).drain rt := rfl

/-- One pass of the loop. -/
def drainWith (rt : Runtime)
    (loop : AnthropicStream → List Bytes × Except GoError AnthropicStream) (t : AnthropicStream) :
    List Bytes × Except GoError AnthropicStream :=
  match takeLine t.lineBuf with
  | none => ([], .ok t)
  | some (raw, rest) =>
      if trimCR raw = [] then andThen ((t.setBuf rest).dispatch rt) fun t => loop t.reset
      else loop ((t.setBuf rest).consumeLine (trimCR raw))

theorem translateLines_succ (rt : Runtime) (fuel : ℕ) (t : AnthropicStream) :
    t.translateLines rt (fuel + 1) = t.drainWith rt fun t => t.translateLines rt fuel := by
  rw [translateLines, drainWith]
  cases hline : takeLine t.lineBuf with
  | none => rfl
  | some p =>
      rcases p with ⟨raw, rest⟩
      by_cases hblank : trimCR raw = []
      · have hdispatch : ({ t with lineBuf := rest } : AnthropicStream).dispatch rt =
            (t.setBuf rest).dispatch rt := rfl
        simp only [hblank, if_true, hdispatch]
        rcases (t.setBuf rest).dispatch rt with ⟨ws, err | t'⟩ <;> rfl
      · simp only [hblank, if_false]
        rfl

/-- A pass only goes on with fewer bytes. -/
theorem drainWith_congr {f g : AnthropicStream → List Bytes × Except GoError AnthropicStream}
    (h : ∀ t', t'.lineBuf.length < t.lineBuf.length → f t' = g t') :
    t.drainWith rt f = t.drainWith rt g := by
  unfold drainWith
  cases hline : takeLine t.lineBuf with
  | none => rfl
  | some p =>
      rcases p with ⟨raw, rest⟩
      have hlt : rest.length < t.lineBuf.length := length_of_takeLine hline
      by_cases hblank : trimCR raw = []
      · simp only [hblank, if_true]
        cases hdispatch : (t.setBuf rest).dispatch rt with
        | mk ws r =>
            cases r with
            | error err => rfl
            | ok t' =>
                have hbuf : t'.reset.lineBuf.length < t.lineBuf.length := by
                  rw [lineBuf_reset, lineBuf_of_dispatch hdispatch]
                  exact hlt
                simp only [andThen_ok, h t'.reset hbuf]
      · simp only [hblank, if_false]
        apply h
        rw [lineBuf_consumeLine]
        exact hlt

theorem translateLines_of_nil (h : t.lineBuf.length = 0) (n : ℕ) :
    t.translateLines rt n = ([], .ok t) := by
  cases n with
  | zero => rfl
  | succ n => simp [translateLines_succ, drainWith, List.length_eq_zero_iff.1 h, takeLine]

/-- Fuel beyond the bytes changes nothing. -/
theorem translateLines_eq {n m : ℕ} (hn : t.lineBuf.length ≤ n) (hm : t.lineBuf.length ≤ m) :
    t.translateLines rt n = t.translateLines rt m := by
  induction n generalizing m t with
  | zero =>
      have hlen : t.lineBuf.length = 0 := Nat.le_zero.1 hn
      rw [translateLines_of_nil hlen, translateLines_of_nil hlen]
  | succ n ih =>
      cases m with
      | zero =>
          have hlen : t.lineBuf.length = 0 := Nat.le_zero.1 hm
          rw [translateLines_of_nil hlen, translateLines_of_nil hlen]
      | succ m =>
          rw [translateLines_succ, translateLines_succ]
          apply drainWith_congr
          -- Each pass takes a line off, so both amounts of fuel outlast the buffer.
          intro t' ht'
          exact ih (Nat.le_of_lt_succ (ht'.trans_le hn)) (Nat.le_of_lt_succ (ht'.trans_le hm))

/-- The recursion of the loop, without fuel. -/
theorem drain_eq (rt : Runtime) (t : AnthropicStream) : t.drain rt = t.drainWith rt (drain rt) := by
  have hfuel : t.drain rt = t.translateLines rt (t.lineBuf.length + 1) :=
    translateLines_eq le_rfl (Nat.le_succ _)
  rw [hfuel, translateLines_succ]
  apply drainWith_congr
  intro t' ht'
  exact translateLines_eq ht'.le le_rfl

theorem drain_of_none (h : takeLine t.lineBuf = none) : t.drain rt = ([], .ok t) := by
  rw [drain_eq, drainWith, h]

theorem drain_of_blank {raw rest : Bytes} (h : takeLine t.lineBuf = some (raw, rest))
    (hblank : trimCR raw = []) :
    t.drain rt = andThen ((t.setBuf rest).dispatch rt) fun t' => t'.reset.drain rt := by
  rw [drain_eq, drainWith, h]
  simp only [hblank, if_true]

theorem drain_of_line {raw rest : Bytes} (h : takeLine t.lineBuf = some (raw, rest))
    (hline : trimCR raw ≠ []) :
    t.drain rt = ((t.setBuf rest).consumeLine (trimCR raw)).drain rt := by
  rw [drain_eq, drainWith, h]
  simp only [hline, if_false]

/-- The induction of the loop: the parser waits for more bytes, a dispatch fails, an event is
dispatched and the loop goes on, or a line is taken in and the loop goes on. -/
theorem drain_induct {motive : AnthropicStream → List Bytes × Except GoError AnthropicStream → Prop}
    (wait : ∀ t, takeLine t.lineBuf = none → motive t ([], .ok t))
    (fail : ∀ t raw rest ws err, takeLine t.lineBuf = some (raw, rest) → trimCR raw = [] →
      (t.setBuf rest).dispatch rt = (ws, .error err) → motive t (ws, .error err))
    (event : ∀ t raw rest ws t', takeLine t.lineBuf = some (raw, rest) → trimCR raw = [] →
      (t.setBuf rest).dispatch rt = (ws, .ok t') → motive t'.reset (t'.reset.drain rt) →
        motive t (andThen (ws, .ok t') fun t' => t'.reset.drain rt))
    (line : ∀ t raw rest, takeLine t.lineBuf = some (raw, rest) → trimCR raw ≠ [] →
      motive ((t.setBuf rest).consumeLine (trimCR raw))
          (((t.setBuf rest).consumeLine (trimCR raw)).drain rt) →
        motive t (((t.setBuf rest).consumeLine (trimCR raw)).drain rt))
    (t : AnthropicStream) : motive t (t.drain rt) := by
  induction hn : t.lineBuf.length using Nat.strong_induction_on generalizing t with
  | _ n ih =>
      subst hn
      cases hline : takeLine t.lineBuf with
      | none =>
          rw [drain_of_none hline]
          exact wait t hline
      | some p =>
          rcases p with ⟨raw, rest⟩
          have hlt : rest.length < t.lineBuf.length := length_of_takeLine hline
          by_cases hblank : trimCR raw = []
          · rw [drain_of_blank hline hblank]
            cases hdispatch : (t.setBuf rest).dispatch rt with
            | mk ws r =>
                cases r with
                | error err => exact fail t raw rest ws err hline hblank hdispatch
                | ok t' =>
                    refine event t raw rest ws t' hline hblank hdispatch (ih _ ?_ _ rfl)
                    rw [lineBuf_reset, lineBuf_of_dispatch hdispatch]
                    exact hlt
          · rw [drain_of_line hline hblank]
            refine line t raw rest hline hblank (ih _ ?_ _ rfl)
            rw [lineBuf_consumeLine]
            exact hlt

/-- Bytes that come later do not change what is drained now. -/
theorem drain_feed (rt : Runtime) (t : AnthropicStream) (more : Bytes) :
    (t.feed more).drain rt = andThen (t.drain rt) fun t' => (t'.feed more).drain rt := by
  -- A line that is whole now is the same one with more bytes behind it.
  have hfed : ∀ {t : AnthropicStream} {raw rest : Bytes},
      takeLine t.lineBuf = some (raw, rest) →
        takeLine (t.feed more).lineBuf = some (raw, rest ++ more) :=
    fun hline => takeLine_append hline more
  -- A dispatch does not look at the buffer.
  have hdispatched : ∀ (t : AnthropicStream) (rest : Bytes),
      ((t.feed more).setBuf (rest ++ more)).dispatch rt =
        andThen ((t.setBuf rest).dispatch rt) fun t' => ([], .ok (t'.setBuf (rest ++ more))) :=
    fun t rest => dispatch_setBuf rt (t.setBuf rest) (rest ++ more)
  refine drain_induct
    (motive := fun t r => (t.feed more).drain rt = andThen r fun t' => (t'.feed more).drain rt)
    ?wait ?fail ?event ?line t
  case wait =>
    intro t _
    rw [andThen_ok, List.nil_append]
  case fail =>
    intro t raw rest ws err hline hblank hdispatch
    rw [drain_of_blank (hfed hline) hblank, hdispatched, hdispatch]
    rfl
  case event =>
    intro t raw rest ws t' hline hblank hdispatch ih
    have hbuf : t'.lineBuf = rest := lineBuf_of_dispatch hdispatch
    have hsame : (t'.setBuf (rest ++ more)).reset = t'.reset.feed more := by
      rw [← hbuf]
      rfl
    rw [drain_of_blank (hfed hline) hblank, hdispatched, hdispatch, andThen_assoc, andThen_assoc]
    simp only [andThen_ok, List.nil_append, hsame, ih]
  case line =>
    intro t raw rest hline hblank ih
    -- A line is taken in without a look at what is behind it.
    have hsame : ((t.feed more).setBuf (rest ++ more)).consumeLine (trimCR raw) =
        ((t.setBuf rest).consumeLine (trimCR raw)).feed more := by
      have hfeed : ((t.setBuf rest).consumeLine (trimCR raw)).feed more =
          ((t.setBuf rest).consumeLine (trimCR raw)).setBuf (rest ++ more) := by
        rw [feed, lineBuf_consumeLine, lineBuf_setBuf]
      rw [hfeed, ← consumeLine_setBuf]
      rfl
    rw [drain_of_line (hfed hline) hblank, hsame, ih]

theorem feed_append (t : AnthropicStream) (a b : Bytes) : t.feed (a ++ b) = (t.feed a).feed b := by
  simp [feed]

/-- Two chunks are translated as one. -/
theorem translate_append (rt : Runtime) (t : AnthropicStream) (a b : Bytes) :
    t.translate rt (a ++ b) = andThen (t.translate rt a) fun t' => t'.translate rt b := by
  calc
    t.translate rt (a ++ b) = ((t.feed a).feed b).drain rt := by
          rw [translate_eq, feed_append]
    _ = andThen ((t.feed a).drain rt) fun t' => (t'.feed b).drain rt := drain_feed rt _ b

end AnthropicStream

end Gateway
end OpenRouter
