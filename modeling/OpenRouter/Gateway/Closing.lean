import OpenRouter.Gateway.StreamedMessage

/-!
# Closing — the end of a stream that lacks its blank line

`Close` writes the end mark and leaves the rest of the buffer alone.  `close_keeps_end_iff` says
for which ends of a stream that comes to the same as if the missing line ends were there.
-/

namespace OpenRouter
namespace Gateway

open Base

namespace AnthropicStream

variable {rt : Runtime} {t t' : AnthropicStream} {ws : List Bytes}

/-! ## The state between two chunks -/

theorem close_of_open (h : t.finished = false) :
    (anthropicStreamTranslator rt).close t =
      ([bytesOf "data: [DONE]\n\n"], .ok { t with finished := true }) := by
  simp [anthropicStreamTranslator, h]

theorem finished_consumeLine (t : AnthropicStream) (line : Bytes) :
    (t.consumeLine line).finished = t.finished := by
  unfold consumeLine
  cases hevent : stripLinePrefix line "event:" with
  | some name => rfl
  | none =>
      cases hdata : stripLinePrefix line "data:" with
      | some data => rfl
      | none => rfl

theorem finished_of_dispatch (h : t.dispatch rt = (ws, .ok t')) : t'.finished = t.finished := by
  unfold dispatch handleMessageStart handleContentBlockDelta handleMessageDelta at h
  split_ifs at h
  · cases h
    rfl
  · split at h <;> cases h
    rfl
  · split at h
    · cases h
    · split_ifs at h <;> cases h <;> rfl
  · split at h
    · cases h
    · split_ifs at h <;> cases h <;> rfl
  · cases h
    rfl
  · cases h
    rfl

/-- What is left of the buffer is no whole line, and the stream is not closed. -/
theorem settled_of_drain (h : t.drain rt = (ws, .ok t')) :
    takeLine t'.lineBuf = none ∧ t'.finished = t.finished := by
  revert ws t'
  refine drain_induct
    (motive := fun t r => ∀ {ws t'}, r = (ws, .ok t') →
      takeLine t'.lineBuf = none ∧ t'.finished = t.finished)
    ?wait ?fail ?event ?line t
  case wait =>
    intro t hnone ws t' h
    cases h
    exact ⟨hnone, rfl⟩
  case fail =>
    intro t raw rest ws err _ _ _ ws' t' h
    cases h
  case event =>
    intro t raw rest ws t₁ _ _ hdispatch ih ws' t' h
    have hkept : t₁.finished = (t.setBuf rest).finished := finished_of_dispatch hdispatch
    cases hrest : t₁.reset.drain rt with
    | mk ws₂ r₂ =>
        rw [andThen_ok, hrest] at h
        cases h
        rcases ih hrest with ⟨hnone, hfinished⟩
        exact ⟨hnone, hfinished.trans hkept⟩
  case line =>
    intro t raw rest _ _ ih ws t' h
    rcases ih h with ⟨hnone, hfinished⟩
    exact ⟨hnone, hfinished.trans (finished_consumeLine _ _)⟩

/-- `Translate` on one chunk after another. -/
def translateChunks (rt : Runtime) (t : AnthropicStream) :
    List Bytes → List Bytes × Except GoError AnthropicStream
  | [] => ([], .ok t)
  | chunk :: chunks => andThen (t.translate rt chunk) fun t' => t'.translateChunks rt chunks

/-- The chunks come to what one chunk of all their bytes comes to. -/
theorem translateChunks_eq (h : takeLine t.lineBuf = none) (chunks : List Bytes) :
    t.translateChunks rt chunks = t.translate rt chunks.flatten := by
  induction chunks generalizing t with
  | nil =>
      have hfeed : t.feed [] = t := by simp [feed]
      rw [translateChunks, List.flatten_nil, translate_eq, hfeed, drain_of_none h]
  | cons chunk chunks ih =>
      rw [translateChunks, List.flatten_cons, translate_append]
      cases htr : t.translate rt chunk with
      | mk ws r =>
          cases r with
          | error err => rfl
          | ok t' => rw [andThen_ok, andThen_ok, ih (settled_of_drain htr).1]

/-! ## The line ends that are missing -/

/-- The parser when the line in the buffer counts as a whole one. -/
def cutOff (t : AnthropicStream) : AnthropicStream :=
  if trimCR t.lineBuf = [] then t else t.consumeLine (trimCR t.lineBuf)

theorem takeLine_terminated {buf : Bytes} (h : takeLine buf = none) (rest : Bytes) :
    takeLine (buf ++ 10 :: rest) = some (buf, rest) := by
  refine takeLine_of_clean ?_ rest
  intro b hb
  induction buf with
  | nil => cases hb
  | cons c buf ih =>
      by_cases hc : c = 10
      · simp [takeLine, hc] at h
      · simp only [takeLine, hc, if_false, Option.map_eq_none_iff] at h
        rcases List.mem_cons.1 hb with rfl | hb
        · exact hc
        · exact ih h hb

/-- A blank line after a dispatched event does nothing. -/
theorem drain_reset_blank (t : AnthropicStream) :
    (t.reset.setBuf [10]).drain rt = ([], .ok (t.reset.setBuf [])) := by
  have hline : takeLine (t.reset.setBuf [10]).lineBuf = some ([], []) := rfl
  have hdispatch : (t.reset.setBuf []).dispatch rt = ([], .ok (t.reset.setBuf [])) :=
    dispatch_of_empty (.inl rfl)
  rw [drain_of_blank hline rfl, setBuf_setBuf, hdispatch]
  exact drain_of_none rfl

/-- Two line feeds dispatch what a stream has left open. -/
theorem translate_lineFeeds (h : takeLine t.lineBuf = none) :
    t.translate rt [10, 10] =
      andThen (t.cutOff.dispatch rt) fun t' => ([], .ok (t'.reset.setBuf [])) := by
  have hline : takeLine (t.feed [10, 10]).lineBuf = some (t.lineBuf, [10]) :=
    takeLine_terminated h [10]
  have hdrain : ∀ u : AnthropicStream, (u.setBuf [10]).reset.drain rt =
      ([], .ok (u.reset.setBuf [])) := fun u => drain_reset_blank u
  have hbuf : (t.feed [10, 10]).setBuf [10] = t.setBuf [10] := rfl
  rw [translate_eq]
  by_cases hblank : trimCR t.lineBuf = []
  -- There is no line in the buffer, so the first line feed is the blank line already.
  · rw [drain_of_blank hline hblank, hbuf, dispatch_setBuf, andThen_assoc, cutOff, if_pos hblank]
    simp only [andThen_ok, hdrain, List.nil_append]
  · have hblank' : takeLine ((t.consumeLine (trimCR t.lineBuf)).setBuf [10]).lineBuf =
        some ([], []) := rfl
    rw [drain_of_line hline hblank, hbuf, consumeLine_setBuf, drain_of_blank hblank' rfl,
      setBuf_setBuf, dispatch_setBuf, andThen_assoc, cutOff, if_neg hblank]
    have hnil : ∀ u : AnthropicStream, (u.setBuf []).reset.drain rt =
        ([], .ok (u.reset.setBuf [])) := fun u => drain_of_none rfl
    simp only [andThen_ok, hnil, List.nil_append]

/-! ## What is lost at the end -/

/-- The fields so far are an event with an OpenAI equivalent. -/
def HasEquivalent (t : AnthropicStream) : Prop :=
  t.currentData ≠ [] ∧
    (t.currentEvent = bytesOf "message_start" ∨
      (t.currentEvent = bytesOf "content_block_delta" ∧
        ∃ ev, unmarshal {} decodeContentBlockDelta t.currentData = some ev ∧
          ev.type = "text_delta" ∧ ev.text ≠ "") ∨
      (t.currentEvent = bytesOf "message_delta" ∧
        ∃ reason, unmarshal "" decodeMessageDelta t.currentData = some reason ∧ reason ≠ "") ∨
      t.currentEvent = bytesOf "error")

theorem flatten_chunkWrites_ne_nil (t : AnthropicStream) (role content finishReason : String) :
    (t.chunkWrites role content finishReason).flatten ≠ [] := by
  have hstart : bytesOf "data: " ≠ [] := by decide +kernel
  rw [flatten_chunkWrites, chunkFrame]
  simp only [ne_eq, List.append_eq_nil_iff, hstart, false_and, not_false_eq_true]

theorem error_name_distinct :
    bytesOf "error" ≠ bytesOf "content_block_delta" ∧ bytesOf "error" ≠ bytesOf "message_delta" ∧
      bytesOf "error" ≠ [] ∧ bytesOf "error" ≠ bytesOf "message_start" := by
  decide +kernel

/-- By the name of an event that has data, when it has an equivalent. -/
theorem hasEquivalent_contentBlockDelta (hdata : t.currentData ≠ [])
    (hname : t.currentEvent = bytesOf "content_block_delta") :
    t.HasEquivalent ↔
      ∃ ev, unmarshal {} decodeContentBlockDelta t.currentData = some ev ∧
        ev.type = "text_delta" ∧ ev.text ≠ "" := by
  simp [HasEquivalent, hdata, hname, event_names_distinct.1, event_names_distinct.2.2.symm,
    error_name_distinct.1.symm]

theorem hasEquivalent_messageDelta (hdata : t.currentData ≠ [])
    (hname : t.currentEvent = bytesOf "message_delta") :
    t.HasEquivalent ↔
      ∃ reason, unmarshal "" decodeMessageDelta t.currentData = some reason ∧ reason ≠ "" := by
  simp [HasEquivalent, hdata, hname, event_names_distinct.2.1, event_names_distinct.2.2,
    error_name_distinct.2.1.symm]

theorem not_hasEquivalent_of_unhandled
    (h : t.currentEvent ≠ bytesOf "message_start" ∧
      t.currentEvent ≠ bytesOf "content_block_delta" ∧
      t.currentEvent ≠ bytesOf "message_delta" ∧ t.currentEvent ≠ bytesOf "error") :
    ¬ t.HasEquivalent := by
  rcases h with ⟨hstart, hblock, hend, hfailed⟩
  simp [HasEquivalent, hstart, hblock, hend, hfailed]

/-- The text of a delta is written unless it is empty. -/
theorem flatten_of_contentBlockDelta (hdata : t.currentData ≠ [])
    (hname : t.currentEvent = bytesOf "content_block_delta")
    (h : t.dispatch rt = (ws, .ok t')) : ws.flatten = [] ↔ ¬ t.HasEquivalent := by
  rw [dispatch_contentBlockDelta hdata hname, handleContentBlockDelta] at h
  rw [hasEquivalent_contentBlockDelta hdata hname]
  split at h
  · cases h
  · rename_i ev hread
    split_ifs at h with htext
    · cases h
      refine iff_of_true rfl ?_
      rintro ⟨ev', hread', htype, hne⟩
      rw [hread] at hread'
      cases hread'
      exact htext.elim (absurd htype) hne
    · cases h
      rw [not_or, not_not] at htext
      exact iff_of_false (flatten_chunkWrites_ne_nil _ _ _ _) (not_not.2 ⟨ev, hread, htext⟩)

/-- So is a stop reason. -/
theorem flatten_of_messageDelta (hdata : t.currentData ≠ [])
    (hname : t.currentEvent = bytesOf "message_delta")
    (h : t.dispatch rt = (ws, .ok t')) : ws.flatten = [] ↔ ¬ t.HasEquivalent := by
  rw [dispatch_messageDelta hdata hname, handleMessageDelta] at h
  rw [hasEquivalent_messageDelta hdata hname]
  split at h
  · cases h
  · rename_i reason hread
    split_ifs at h with hreason
    · cases h
      refine iff_of_true rfl ?_
      rintro ⟨reason', hread', hne⟩
      rw [hread] at hread'
      cases hread'
      exact hne hreason
    · cases h
      exact iff_of_false (flatten_chunkWrites_ne_nil _ _ _ _)
        (not_not.2 ⟨reason, hread, hreason⟩)

/-- An event is written exactly when it has an equivalent. -/
theorem flatten_of_dispatch (h : t.dispatch rt = (ws, .ok t')) :
    ws.flatten = [] ↔ ¬ t.HasEquivalent := by
  by_cases hdata : t.currentData = []
  · rw [dispatch_of_empty (.inr hdata)] at h
    cases h
    exact iff_of_true rfl fun heq => heq.1 hdata
  -- The cases are those of `dispatch`, in its order.
  by_cases hstart : t.currentEvent = bytesOf "message_start"
  · rw [dispatch_messageStart hdata hstart, handleMessageStart] at h
    split at h
    · cases h
    · cases h
      exact iff_of_false (flatten_chunkWrites_ne_nil _ _ _ _)
        (not_not.2 ⟨hdata, .inl hstart⟩)
  by_cases hblock : t.currentEvent = bytesOf "content_block_delta"
  · exact flatten_of_contentBlockDelta hdata hblock h
  by_cases hend : t.currentEvent = bytesOf "message_delta"
  · exact flatten_of_messageDelta hdata hend h
  by_cases hfailed : t.currentEvent = bytesOf "error"
  · simp only [dispatch, hdata, hfailed, error_name_distinct, or_self, if_false, if_true] at h
    cases h
    exact iff_of_false (flatten_chunkWrites_ne_nil _ _ _ _)
      (not_not.2 ⟨hdata, .inr (.inr (.inr hfailed))⟩)
  · have hunhandled := And.intro hstart (And.intro hblock (And.intro hend hfailed))
    rw [dispatch_of_unhandled hunhandled] at h
    cases h
    exact iff_of_true rfl (not_hasEquivalent_of_unhandled hunhandled)

end AnthropicStream

/-! ## Streams without their last line ends -/

/-- Where the stream with two more line feeds is translated, `Close` behind the chunks writes the
same exactly when the event that is cut off has no OpenAI equivalent. -/
theorem close_keeps_end_iff (rt : Runtime) (chunks : List Bytes) {ws : List Bytes}
    {t : AnthropicStream}
    (h : ({} : AnthropicStream).translate rt (chunks.flatten ++ bytesOf "\n\n") = (ws, .ok t)) :
    ∃ (ws' : List Bytes) (t' : AnthropicStream),
      ({} : AnthropicStream).translateChunks rt chunks = (ws', .ok t') ∧
        ((ws' ++ ((anthropicStreamTranslator rt).close t').1).flatten =
            (ws ++ ((anthropicStreamTranslator rt).close t).1).flatten ↔
          ¬ t'.cutOff.HasEquivalent) := by
  have hfeeds : bytesOf "\n\n" = [10, 10] := by decide +kernel
  rw [hfeeds, AnthropicStream.translate_append] at h
  rw [AnthropicStream.translateChunks_eq rfl]
  cases hfed : ({} : AnthropicStream).translate rt chunks.flatten with
  | mk ws' r =>
      rw [hfed] at h
      cases r with
      | error err => cases h
      | ok t' =>
          rcases AnthropicStream.settled_of_drain hfed with ⟨hnone, hopen⟩
          rw [andThen_ok, AnthropicStream.translate_lineFeeds hnone] at h
          cases hdispatch : t'.cutOff.dispatch rt with
          | mk ws'' r' =>
              rw [hdispatch] at h
              cases r' with
              | error err => cases h
              | ok u =>
                  cases h
                  refine ⟨ws', t', rfl, ?_⟩
                  -- Both end marks are written, so all that differs is the last dispatch.
                  have hcutOff : t'.cutOff.finished = t'.finished := by
                    unfold AnthropicStream.cutOff
                    split_ifs
                    · rfl
                    · exact AnthropicStream.finished_consumeLine _ _
                  have hended : (u.reset.setBuf []).finished = false :=
                    ((AnthropicStream.finished_of_dispatch hdispatch).trans hcutOff).trans hopen
                  rw [AnthropicStream.close_of_open hopen, AnthropicStream.close_of_open hended,
                    ← AnthropicStream.flatten_of_dispatch hdispatch]
                  simp

/-! ## A finish reason without its blank line -/

/-- The last event of a message; the stream breaks off behind the line feed of its payload. -/
def unterminated : Bytes :=
  bytesOf "event: message_delta\ndata: " ++
    marshal (.obj [("delta", .obj [("stop_reason", .str "end_turn")])]) ++ bytesOf "\n"

/-- The finish reason is lost. -/
theorem close_loses_finish_reason :
    ¬ ∀ (rt : Runtime) (chunks ws : List Bytes) (t : AnthropicStream),
      ({} : AnthropicStream).translate rt (chunks.flatten ++ bytesOf "\n\n") = (ws, .ok t) →
        ∃ (ws' : List Bytes) (t' : AnthropicStream),
          ({} : AnthropicStream).translateChunks rt chunks = (ws', .ok t') ∧
            (ws' ++ ((anthropicStreamTranslator rt).close t').1).flatten =
              (ws ++ ((anthropicStreamTranslator rt).close t).1).flatten := by
  intro h
  have hchunk : (({} : AnthropicStream).translate plainRuntime
      ([unterminated].flatten ++ bytesOf "\n\n")).1.flatten.length = 131 := by
    decide +kernel
  have hnothing : (({} : AnthropicStream).translateChunks plainRuntime
      [unterminated]).1.flatten.length = 0 := by
    decide +kernel
  have hok : (({} : AnthropicStream).translate plainRuntime
      ([unterminated].flatten ++ bytesOf "\n\n")).2.isOk = true := by
    decide +kernel
  cases htr : ({} : AnthropicStream).translate plainRuntime
      ([unterminated].flatten ++ bytesOf "\n\n") with
  | mk ws r =>
      rw [htr] at hchunk hok
      cases r with
      | error err => cases hok
      | ok t =>
          rcases h plainRuntime [unterminated] ws t htr with ⟨ws', t', hfed, hsame⟩
          rw [hfed] at hnothing
          rw [AnthropicStream.translateChunks_eq rfl] at hfed
          rw [AnthropicStream.close_of_open (AnthropicStream.settled_of_drain hfed).2,
            AnthropicStream.close_of_open (AnthropicStream.settled_of_drain htr).2,
            List.flatten_append, List.flatten_append, List.append_cancel_right_eq] at hsame
          rw [hsame, hchunk] at hnothing
          cases hnothing

/-- A ping that breaks off in the middle of its payload. -/
def unterminatedPing : List Bytes :=
  [bytesOf "event: pi", [], bytesOf "ng\ndata: \x7b"]

theorem close_keeps_end_iff_ping :
    ∃ (ws ws' : List Bytes) (t t' : AnthropicStream),
      ({} : AnthropicStream).translate plainRuntime
          (unterminatedPing.flatten ++ bytesOf "\n\n") = (ws, .ok t) ∧
        ({} : AnthropicStream).translateChunks plainRuntime unterminatedPing = (ws', .ok t') ∧
        ((ws' ++ ((anthropicStreamTranslator plainRuntime).close t').1).flatten =
            (ws ++ ((anthropicStreamTranslator plainRuntime).close t).1).flatten ↔
          ¬ t'.cutOff.HasEquivalent) := by
  have hok : (({} : AnthropicStream).translate plainRuntime
      (unterminatedPing.flatten ++ bytesOf "\n\n")).2.isOk = true := by
    decide +kernel
  cases htr : ({} : AnthropicStream).translate plainRuntime
      (unterminatedPing.flatten ++ bytesOf "\n\n") with
  | mk ws r =>
      rw [htr] at hok
      cases r with
      | error err => cases hok
      | ok t =>
          rcases close_keeps_end_iff plainRuntime unterminatedPing htr with ⟨ws', t', hfed, hiff⟩
          exact ⟨ws, ws', t, t', rfl, hfed, hiff⟩

end Gateway
end OpenRouter
