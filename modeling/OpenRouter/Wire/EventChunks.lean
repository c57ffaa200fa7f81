import OpenRouter.Cli.SseChunks
import OpenRouter.Gateway.StreamedMessage

/-!
# EventChunks — from the gateway's encoder to the CLI's decoder

The chunks that `writeChunk` puts on the stream and the `[DONE]` of `Close`, cut anywhere, are the
chunks that `parseSseChunks` yields before it returns (`parseSseChunks_writes`).
-/

namespace OpenRouter
namespace Wire

open Base Cli Gateway

/-! ## Texts -/

/-- The text of an event with one chunk. -/
def frameText (j : Json) : List Char :=
  "data: ".toList ++ j.render ++ ['\n', '\n']

def doneText : List Char :=
  "data: ".toList ++ "[DONE]".toList ++ ['\n', '\n']

/-- No chunk is written as the end mark is. -/
theorem render_ne_done (j : Json) : j.render ≠ "[DONE]".toList := by
  intro h
  have hparse := parse_render j
  rw [h] at hparse
  have hnone : parse "[DONE]".toList = none := by decide
  rw [hnone] at hparse
  cases hparse

theorem encode_append (as bs : List Char) : encode (as ++ bs) = encode as ++ encode bs :=
  List.flatMap_append

theorem chunkFrame_eq (j : Json) : chunkFrame j = encode (frameText j) := by
  have hend : bytesOf "\n\n" = encode ['\n', '\n'] := by decide +kernel
  show bytesOf "data: " ++ marshal j ++ bytesOf "\n\n" =
    encode ("data: ".toList ++ j.render ++ ['\n', '\n'])
  rw [encode_append, encode_append, hend]
  rfl

theorem flatMap_chunkFrame (js : List Json) :
    js.flatMap chunkFrame = encode (js.flatMap frameText) := by
  induction js with
  | nil => rfl
  | cons j js ih =>
      rw [List.flatMap_cons, List.flatMap_cons, encode_append, ih, chunkFrame_eq]

/-! ## Reading the frames -/

theorem drain_frame (j : Json) (rest : List Char) :
    drain (frameText j ++ rest) = (j :: (drain rest).1, (drain rest).2) := by
  calc
    drain (frameText j ++ rest)
        = drain ("data: ".toList ++ j.render ++ '\n' :: '\n' :: rest) :=
      congrArg drain (List.append_assoc ("data: ".toList ++ j.render) ['\n', '\n'] rest)
    _ = if j.render = "[DONE]".toList then ([], none)
        else ((parse j.render).toList ++ (drain rest).1, (drain rest).2) :=
      drain_line (oneLine_of_printable (printable_render j)) rest
    _ = (j :: (drain rest).1, (drain rest).2) := by
      rw [if_neg (render_ne_done j), parse_render, Option.toList_some, List.singleton_append]

theorem drain_done : drain doneText = ([], none) := by
  have hmark : OneLine "[DONE]".toList := oneLine_of_printable (printable_of_all rfl)
  exact (drain_line hmark []).trans (if_pos rfl)

theorem drain_frames (js : List Json) : drain (js.flatMap frameText ++ doneText) = (js, none) := by
  induction js with
  | nil => exact drain_done
  | cons j js ih => rw [List.flatMap_cons, List.append_assoc, drain_frame, ih]

theorem decode_frames (js : List Json) :
    (TextDecoder.decode {} (js.flatMap chunkFrame ++ bytesOf "data: [DONE]\n\n")).1 =
      js.flatMap frameText ++ doneText := by
  have hmark : bytesOf "data: [DONE]\n\n" = encode doneText := by decide +kernel
  -- The stream does not begin with a byte order mark, but with a `d`.
  have hstart : ∃ cs, js.flatMap frameText ++ doneText = 'd' :: cs := by
    cases js with
    | nil => exact ⟨_, rfl⟩
    | cons j js => exact ⟨_, rfl⟩
  rcases hstart with ⟨cs, hcs⟩
  rw [flatMap_chunkFrame, hmark, ← encode_append, hcs,
    TextDecoder.decode_encode_start (by decide) cs]

/-- A stream of events with one chunk each, and the end mark. -/
theorem parseSseChunks_frames {js : List Json} {pieces : List Bytes}
    (h : pieces.flatten = js.flatMap chunkFrame ++ bytesOf "data: [DONE]\n\n") :
    parseSseChunks (pieces.map Piece.bytes) = { chunks := js, done := true } := by
  rw [parseSseChunks_eq, bodyText_bytes, h, decode_frames, drain_frames]
  rfl

/-! ## The round trip -/

theorem flatten_writes (written : List (AnthropicStream × Delta)) :
    (written.flatMap fun w => w.1.chunkWrites w.2.role w.2.content w.2.finishReason).flatten =
      (written.map fun w => w.1.deltaTree w.2).flatMap chunkFrame := by
  induction written with
  | nil => rfl
  | cons w written ih =>
      rw [List.flatMap_cons, List.flatten_append, AnthropicStream.flatten_chunkWrites, ih]
      rfl

/-- Chunks that translators write, each under its own id and model, and the `Close` that follows:
however their bytes are cut, the CLI yields these chunks and then returns. -/
theorem parseSseChunks_writes (rt : Runtime) (written : List (AnthropicStream × Delta))
    (t : AnthropicStream) (hopen : t.finished = false) (pieces : List Bytes)
    (hcut : pieces.flatten =
      (written.flatMap fun w =>
          w.1.chunkWrites w.2.role w.2.content w.2.finishReason).flatten ++
        ((anthropicStreamTranslator rt).close t).1.flatten) :
    parseSseChunks (pieces.map Piece.bytes) =
      { chunks := written.map fun w => w.1.deltaTree w.2, done := true } := by
  refine parseSseChunks_frames ?_
  have hclose : ((anthropicStreamTranslator rt).close t).1 = [bytesOf "data: [DONE]\n\n"] := by
    simp [anthropicStreamTranslator, hopen]
  rw [hcut, flatten_writes, hclose, List.flatten_singleton]

/-- A chunk whose text looks like the end of the stream, under an id that is cut in the middle of
its only character. -/
theorem parseSseChunks_writes_cut :
    ∃ (t : AnthropicStream) (d : Delta) (whole : Bytes),
      t.id = "é" ∧ d.content = "\n\ndata: [DONE]\n\n" ∧
        whole = (t.chunkWrites d.role d.content d.finishReason).flatten ++
          bytesOf "data: [DONE]\n\n" ∧
        (whole.drop 13).take 2 = encode ['é'] ∧
        parseSseChunks [.bytes (whole.take 14), .bytes [], .bytes (whole.drop 14)] =
          { chunks := [t.deltaTree d], done := true } := by
  let t : AnthropicStream := { id := "é", model := "claude-3", created := 1700000000 }
  let d : Delta := { content := "\n\ndata: [DONE]\n\n" }
  let whole : Bytes :=
    (t.chunkWrites d.role d.content d.finishReason).flatten ++ bytesOf "data: [DONE]\n\n"
  refine ⟨t, d, whole, rfl, rfl, rfl, by decide +kernel,
    parseSseChunks_writes plainRuntime [(t, d)] t rfl [whole.take 14, [], whole.drop 14] ?_⟩
  calc
    [whole.take 14, [], whole.drop 14].flatten = whole.take 14 ++ whole.drop 14 := by
      simp only [List.flatten_cons, List.flatten_nil, List.nil_append, List.append_nil]
    _ = whole := List.take_append_drop 14 whole
    _ = _ := rfl

end Wire
end OpenRouter
