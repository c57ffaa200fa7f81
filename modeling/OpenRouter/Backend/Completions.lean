import Mathlib.Data.List.Basic
import Mathlib.Tactic.Common
import OpenRouter.Base.Json

/-!
# Completions — what the adapters return

`complete` of both adapters on the provider's answer, and `AnthropicAdapter.stream` on the events
that a message arrives in.  `Delivers` relates a message to its events; `streams_iff` says for which
messages the chunks carry the content and the finish reason of `complete`.
-/

namespace OpenRouter
namespace Backend
namespace Completions

open Base

/-! ## The unified shapes -/

structure TokenCount where
  input : ℕ
  output : ℕ
  cachedInput : ℕ := 0
  reasoning : ℕ := 0

structure ToolCall where
  id : String
  name : String
  arguments : Json

structure UnifiedResponse where
  id : String
  model : String
  content : String
  finishReason : String
  toolCalls : Option (List ToolCall)
  usage : TokenCount

structure UnifiedChunk where
  deltaText : String
  deltaToolCalls : Option (List ToolCall)
  finishReason : Option String

/-- `xs or None`. -/
def orNone {α : Type} (xs : List α) : Option (List α) :=
  if xs.isEmpty then none else some xs

/-- `s or default`. -/
def textOr (default : String) : Option String → String
  | some s => if s = "" then default else s
  | none => default

/-! ## OpenAI -/

namespace OpenAIAdapter

/-- `prompt_tokens_details` with its `cached_tokens`; either may be `None`. -/
structure CompletionUsage where
  promptTokens : ℕ
  completionTokens : ℕ
  promptTokensDetails : Option (Option ℕ) := none

structure Choice where
  content : Option String
  finishReason : Option String
  toolCalls : Option (List ToolCall)

structure ChatCompletion where
  id : String
  model : String
  choices : List Choice
  usage : CompletionUsage

def tokenCount (usage : CompletionUsage) : TokenCount where
  input := usage.promptTokens
  output := usage.completionTokens
  cachedInput := (usage.promptTokensDetails.getD none).getD 0

/-- `complete`, behind the call; `none` is the `IndexError` of an answer without choices. -/
def complete (resp : ChatCompletion) : Option UnifiedResponse :=
  match resp.choices with
  | [] => none
  | choice :: _ =>
      some
        { id := resp.id
          model := resp.model
          content := choice.content.getD ""
          finishReason := textOr "stop" choice.finishReason
          toolCalls := orNone (choice.toolCalls.getD [])
          usage := tokenCount resp.usage }

end OpenAIAdapter

/-! ## Anthropic -/

namespace AnthropicAdapter

/-- A block of a message; `text` is there when the block has the attribute. -/
structure ContentBlock where
  type : String
  text : Option String := none
  id : String := ""
  name : String := ""
  input : Json := .null

/-- The counts of a message; `cache_creation_input_tokens` is read by nobody. -/
structure Usage where
  inputTokens : ℕ
  outputTokens : ℕ
  cacheReadInputTokens : Option ℕ := none
  cacheCreationInputTokens : Option ℕ := none

structure Message where
  id : String
  model : String
  content : List ContentBlock
  stopReason : Option String
  usage : Usage

/-- `_map_stop_reason`. -/
def mapStopReason (s : String) : String :=
  if s = "end_turn" then "stop"
  else if s = "max_tokens" then "length"
  else if s = "tool_use" then "tool_calls"
  else if s = "stop_sequence" then "stop"
  else "stop"

def toolCalls (blocks : List ContentBlock) : List ToolCall :=
  blocks.filterMap fun b =>
    if b.type = "tool_use" then some { id := b.id, name := b.name, arguments := b.input } else none

def tokenCount (usage : Usage) : TokenCount where
  input := usage.inputTokens
  output := usage.outputTokens
  cachedInput := usage.cacheReadInputTokens.getD 0

/-- `complete`, behind the call. -/
def complete (resp : Message) : UnifiedResponse where
  id := resp.id
  model := resp.model
  content := String.join (resp.content.filterMap ContentBlock.text)
  finishReason := mapStopReason (textOr "end_turn" resp.stopReason)
  toolCalls := orNone (toolCalls resp.content)
  usage := tokenCount resp.usage

/-! ## Streams -/

/-- The delta of an event; `text` is there when the delta has the attribute. -/
structure Delta where
  type : String
  text : Option String := none

/-- What the loop of `stream` is given; `other` are pings and what the client library adds. -/
inductive StreamEvent
  | messageStart
  | contentBlockStart (index : ℕ)
  | contentBlockDelta (index : ℕ) (delta : Delta)
  | contentBlockStop (index : ℕ)
  | messageDelta (stopReason : Option String)
  | messageStop
  | other

namespace StreamEvent

/-- One pass of the loop. -/
def chunk : StreamEvent → Option UnifiedChunk
  | contentBlockDelta _ delta =>
      delta.text.map fun text => { deltaText := text, deltaToolCalls := none, finishReason := none }
  | messageStop => some { deltaText := "", deltaToolCalls := none, finishReason := some "stop" }
  | _ => none

/-- The delta of an event and the block it is for. -/
def delta : StreamEvent → Option (ℕ × Delta)
  | contentBlockDelta index delta => some (index, delta)
  | _ => none

def stopReason : StreamEvent → Option (Option String)
  | messageDelta reason => some reason
  | _ => none

end StreamEvent

/-- The chunks that `stream` yields. -/
def stream (events : List StreamEvent) : List UnifiedChunk :=
  events.filterMap StreamEvent.chunk

/-! ## Messages in events -/

/-- The deltas of one block: the text in pieces, or none that has text. -/
def ContentBlock.CutInto (b : ContentBlock) (ds : List Delta) : Prop :=
  match b.text with
  | some text => String.join (ds.filterMap Delta.text) = text
  | none => ∀ d ∈ ds, d.text = none

/-- The deltas of all blocks, each with the position of its block. -/
def numbered (cuts : List (List Delta)) : List (ℕ × Delta) :=
  cuts.zipIdx.flatMap fun p => p.1.map fun d => (p.2, d)

/-- The events of a message: its blocks one after the other, the stop reason, and the stop. -/
structure Delivers (msg : Message) (events : List StreamEvent) : Prop where
  blocks : ∃ cuts, List.Forall₂ ContentBlock.CutInto msg.content cuts ∧
    events.filterMap StreamEvent.delta = numbered cuts
  stopReason : (events.filterMap StreamEvent.stopReason).getLast? = some msg.stopReason
  stop : ∃ front, events = front ++ [.messageStop] ∧ .messageStop ∉ front

theorem map_snd_numbered (cuts : List (List Delta)) (n : ℕ) :
    ((cuts.zipIdx n).flatMap fun p => p.1.map fun d => (p.2, d)).map Prod.snd = cuts.flatten := by
  induction cuts generalizing n with
  | nil => rfl
  | cons ds cuts ih =>
      rw [List.zipIdx_cons, List.flatMap_cons, List.map_append, ih, List.flatten_cons, List.map_map]
      simp [Function.comp_def]

/-- The texts of the deltas are the texts of the blocks. -/
theorem join_of_cutInto {blocks : List ContentBlock} {cuts : List (List Delta)}
    (h : List.Forall₂ ContentBlock.CutInto blocks cuts) :
    String.join (cuts.flatten.filterMap Delta.text) =
      String.join (blocks.filterMap ContentBlock.text) := by
  induction h with
  | nil => rfl
  | @cons b ds blocks cuts hcut _ ih =>
      rw [List.flatten_cons, List.filterMap_append, String.join_append, ih, List.filterMap_cons]
      unfold ContentBlock.CutInto at hcut
      cases htext : b.text with
      | none =>
          -- A block without a text has no delta with one.
          rw [htext] at hcut
          have hnil : ds.filterMap Delta.text = [] := List.filterMap_eq_nil_iff.2 hcut
          rw [hnil, String.join_nil, String.empty_append]
      | some text =>
          rw [htext] at hcut
          rw [String.join_cons, hcut]

/-- The chunks say what the deltas do. -/
theorem join_stream (events : List StreamEvent) :
    String.join ((stream events).map UnifiedChunk.deltaText) =
      String.join (((events.filterMap StreamEvent.delta).map Prod.snd).filterMap Delta.text) := by
  induction events with
  | nil => rfl
  | cons e events ih =>
      unfold stream at ih ⊢
      cases e with
      | contentBlockDelta index delta =>
          cases htext : delta.text with
          | none => simpa [StreamEvent.chunk, StreamEvent.delta, htext] using ih
          | some text => simpa [StreamEvent.chunk, StreamEvent.delta, htext] using ih
      | _ => simpa [List.filterMap_cons, StreamEvent.chunk, StreamEvent.delta] using ih

theorem content_of_delivers {msg : Message} {events : List StreamEvent} (h : Delivers msg events) :
    String.join ((stream events).map UnifiedChunk.deltaText) = (complete msg).content := by
  rcases h.blocks with ⟨cuts, hcuts, hdeltas⟩
  rw [join_stream, hdeltas, numbered, map_snd_numbered, join_of_cutInto hcuts]
  rfl

/-- The last chunk of every message says `stop`. -/
theorem finishReason_of_delivers {msg : Message} {events : List StreamEvent}
    (h : Delivers msg events) :
    (stream events).getLast?.bind UnifiedChunk.finishReason = some "stop" := by
  rcases h.stop with ⟨front, rfl, -⟩
  -- Whatever is in front, `message_stop` gives the last chunk.
  rw [stream, List.filterMap_append]
  simp [StreamEvent.chunk]

theorem mapStopReason_eq_stop_iff (reason : Option String) :
    mapStopReason (textOr "end_turn" reason) = "stop" ↔
      reason ≠ some "max_tokens" ∧ reason ≠ some "tool_use" := by
  cases reason with
  | none => simp [textOr, mapStopReason]
  | some s =>
      -- An empty reason is falsy, so it counts as `end_turn`.
      by_cases hempty : s = ""
      · subst hempty
        simp [textOr, mapStopReason]
      · have htext : textOr "end_turn" (some s) = s := by
          simp [textOr, hempty]
        rw [htext, mapStopReason]
        split_ifs <;> simp_all

/-- The stream of a message carries its content; it carries the finish reason exactly when the
message does not end at the token limit or in a tool call. -/
theorem streams_iff {msg : Message} {events : List StreamEvent} (h : Delivers msg events) :
    (String.join ((stream events).map UnifiedChunk.deltaText) = (complete msg).content ∧
        (stream events).getLast?.bind UnifiedChunk.finishReason =
          some (complete msg).finishReason) ↔
      msg.stopReason ≠ some "max_tokens" ∧ msg.stopReason ≠ some "tool_use" := by
  rw [finishReason_of_delivers h, and_iff_right (content_of_delivers h), Option.some.injEq,
    eq_comm, ← mapStopReason_eq_stop_iff]
  rfl

/-- A message of one text that ended so. -/
def helloMessage (stopReason : String) : Message where
  id := "msg_1"
  model := "claude-sonnet-4-20250514"
  content := [{ type := "text", text := some "Hello" }]
  stopReason := some stopReason
  usage := { inputTokens := 3, outputTokens := 1 }

def helloEvents (stopReason : String) : List StreamEvent :=
  [.messageStart, .contentBlockStart 0, .other,
    .contentBlockDelta 0 { type := "text_delta", text := some "Hel" },
    .contentBlockDelta 0 { type := "text_delta", text := some "lo" }, .contentBlockStop 0,
    .messageDelta (some stopReason), .messageStop]

theorem delivers_hello (stopReason : String) :
    Delivers (helloMessage stopReason) (helloEvents stopReason) where
  blocks :=
    ⟨[[{ type := "text_delta", text := some "Hel" }, { type := "text_delta", text := some "lo" }]],
      .cons (show String.join ["Hel", "lo"] = "Hello" by decide) .nil, rfl⟩
  stopReason := rfl
  stop := ⟨(helloEvents stopReason).dropLast, rfl, by simp [helloEvents]⟩

/-- At the token limit the stream says `stop`, and `complete` says `length`. -/
theorem stream_hides_length :
    Delivers (helloMessage "max_tokens") (helloEvents "max_tokens") ∧
      (complete (helloMessage "max_tokens")).finishReason = "length" ∧
      (stream (helloEvents "max_tokens")).getLast?.bind UnifiedChunk.finishReason =
        some "stop" :=
  ⟨delivers_hello "max_tokens", rfl, rfl⟩

theorem streams_iff_hello :
    String.join ((stream (helloEvents "end_turn")).map UnifiedChunk.deltaText) =
        (complete (helloMessage "end_turn")).content ∧
      (stream (helloEvents "end_turn")).getLast?.bind UnifiedChunk.finishReason =
        some (complete (helloMessage "end_turn")).finishReason :=
  (streams_iff (delivers_hello "end_turn")).2 ⟨by decide, by decide⟩

end AnthropicAdapter

end Completions
end Backend
end OpenRouter
