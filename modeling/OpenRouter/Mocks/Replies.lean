import Mathlib.Algebra.BigOperators.Group.List.Basic
import OpenRouter.Base.EventSource
import OpenRouter.Base.JsonStyles

/-!
# Replies — what the mock providers answer

The bodies that the mocks of OpenAI, Anthropic and Google make of a request in JSON, whole or as a
stream.  A request that a handler cannot read makes it raise (`none`).
-/

namespace OpenRouter
namespace Mocks

open Base

/-! ## Values of Python -/

/-- What Python makes of values that are no texts. -/
structure Python where
  isZero : Number → Bool
  str : Json → String

/-- `bool(v)` of what `get` returns. -/
def Python.truthy (py : Python) : Option Json → Bool
  | none | some .null => false
  | some (.bool b) => b
  | some (.num n) => !py.isZero n
  | some (.str s) => s != ""
  | some (.arr xs) => !xs.isEmpty
  | some (.obj ms) => !ms.isEmpty

/-- `str(v)`. -/
def Python.text (py : Python) : Json → String
  | .str s => s
  | v => py.str v

/-- `v.get`, of a dict only. -/
def attr (key : String) : Json → Option (Option Json)
  | .obj ms => some (lastMember ms key)
  | _ => none

/-- `for x in v`: a dict yields its keys, and a text its characters. -/
def iterate : Json → Option (List Json)
  | .arr xs => some xs
  | .obj ms => some ((ms.map Prod.fst).eraseDups.map .str)
  | .str s => some (s.toList.map fun c => .str (String.singleton c))
  | _ => none

/-- `v[0]`; no dict of JSON has the key 0. -/
def first : Json → Option Json
  | .arr (x :: _) => some x
  | .str s => s.toList.head?.map fun c => .str (String.singleton c)
  | _ => none

/-- `f"{v[:80]}"`. -/
def Python.opening (py : Python) : Json → Option String
  | .str s => some (String.ofList (s.toList.take 80))
  | .arr xs => some (py.str (.arr (xs.take 80)))
  | _ => none

/-- A count as a number of JSON. -/
def count (n : ℕ) : Json :=
  .num (intNumber n)

def approxTokens (text : String) : ℕ :=
  max 1 (text.length / 4)

/-- `m.get("role") == "user"`. -/
def isUser (ms : List (String × Json)) : Bool :=
  match lastMember ms "role" with
  | some (.str role) => role == "user"
  | _ => false

/-- The first message of a user; what is met before it must be a dict. -/
def firstUser : List Json → Option (Option (List (String × Json)))
  | [] => some none
  | .obj ms :: rest => if isUser ms then some (some ms) else firstUser rest
  | _ :: _ => none

/-- What a request draws. -/
structure ReplyDraws where
  /-- The digits of `_id`. -/
  id : String
  /-- Those of a tool call. -/
  callId : String
  now : ℤ

variable (py : Python) (d : ReplyDraws)

def member (key : String) (default : Json) (ms : List (String × Json)) : Json :=
  (lastMember ms key).getD default

/-- `str(m.get("content", ""))` of each message. -/
def contentTokens (messages : List Json) : Option ℕ :=
  (messages.mapM fun m => (attr "content" m).map fun content =>
    approxTokens (py.text (content.getD (.str "")))).map List.sum

/-! ## OpenAI -/

namespace OpenAI

def defaultModel : Json :=
  .str "gpt-4o-mini"

/-- The call of the first tool. -/
def toolCall (tools : Json) : Option Json := do
  let tool ← first tools
  let function ← attr "function" tool
  let name ← attr "name" (function.getD (.obj []))
  return .obj
    [("role", .str "assistant"), ("content", .null),
      ("tool_calls",
        .arr
          [.obj
            [("id", .str ("call-" ++ d.callId)), ("type", .str "function"),
              ("function",
                .obj
                  [("name", name.getD (.str "do_something")),
                    ("arguments", .str "\x7b\"query\":\"mock\"\x7d")])]])]

def textMessage (text : String) : Json :=
  .obj [("role", .str "assistant"), ("content", .str text)]

/-- The message, its finish reason and the text that its tokens are counted of. -/
def message (ms : List (String × Json)) (userText : String) : Option (Json × String × String) :=
  let tools := lastMember ms "tools"
  let format := lastMember ms "response_format"
  if py.truthy tools then
    (toolCall d (tools.getD .null)).map fun call => (call, "tool_calls", "tool_call")
  else do
    let type ← attr "type" (if py.truthy format then format.getD .null else .obj [])
    let text :=
      match type with
      | some (.str type) =>
          if type = "json_schema" then "\x7b\"answer\": \"mocked\", \"confidence\": 0.42\x7d"
          else "Mocked reply to: " ++ userText
      | _ => "Mocked reply to: " ++ userText
    return (textMessage text, "stop", text)

/-- `_build_chat_response`. -/
def buildChatResponse (ms : List (String × Json)) : Option Json := do
  let messages ← iterate (member "messages" (.arr []) ms)
  let lastUser ← firstUser messages.reverse
  let userText :=
    match lastMember (lastUser.getD []) "content" with
    | some (.str s) => String.ofList (s.toList.take 80)
    | _ => ""
  let (message, finishReason, counted) ← message py d ms userText
  let promptTokens ← contentTokens py messages
  return .obj
    [("id", .str ("chatcmpl-" ++ d.id)), ("object", .str "chat.completion"),
      ("created", .num (intNumber d.now)), ("model", member "model" defaultModel ms),
      ("choices",
        .arr
          [.obj
            [("index", count 0), ("message", message), ("finish_reason", .str finishReason),
              ("logprobs", .null)]]),
      ("usage",
        .obj
          [("prompt_tokens", count promptTokens),
            ("completion_tokens", count (approxTokens counted)),
            ("total_tokens", count (promptTokens + approxTokens counted))]),
      ("system_fingerprint", .str "fp_mock")]

/-- A chunk with one choice. -/
def chunk (model delta finishReason : Json) : Json :=
  .obj
    [("id", .str ("chatcmpl-" ++ d.id)), ("object", .str "chat.completion.chunk"),
      ("created", .num (intNumber d.now)), ("model", model),
      ("choices",
        .arr [.obj [("index", count 0), ("delta", delta), ("finish_reason", finishReason)]])]

/-- `_stream_chunks_for`. -/
def streamChunksFor (ms : List (String × Json)) : List Json :=
  let model := member "model" defaultModel ms
  chunk d model (.obj [("role", .str "assistant")]) .null ::
    (["Mocked ", "streaming ", "reply. "].map (fun word =>
        chunk d model (.obj [("content", .str word)]) .null) ++
      [chunk d model (.obj []) (.str "stop")])

end OpenAI

/-! ## Anthropic -/

namespace Anthropic

def defaultModel : Json :=
  .str "claude-3-5-sonnet-20241022"

/-- The text of the first block of text. -/
def blockText : List Json → Json
  | [] => .str ""
  | .obj ms :: rest =>
      match lastMember ms "type" with
      | some (.str type) =>
          if type = "text" then member "text" (.str "") ms else blockText rest
      | _ => blockText rest
  | _ :: rest => blockText rest

/-- What the last message of a user says. -/
def userText (lastUser : Option (List (String × Json))) : Json :=
  match lastUser.bind fun ms => lastMember ms "content" with
  | some (.str s) => .str s
  | some (.arr blocks) => blockText blocks
  | _ => .str ""

/-- The block of the answer, the stop reason and the text that the tokens are counted of. -/
def block (ms : List (String × Json)) (userText : Json) : Option (Json × String × String) :=
  let tools := lastMember ms "tools"
  if py.truthy tools then do
    let tool ← first (tools.getD .null)
    let name ← attr "name" tool
    let name := name.getD (.str "do_something")
    return (.obj
      [("type", .str "tool_use"), ("id", .str ("toolu_" ++ d.callId)), ("name", name),
        ("input", .obj [("query", .str "mock")])], "tool_use", py.text name)
  else do
    let opening ← py.opening userText
    let text := "Mocked reply to: " ++ opening
    return (.obj [("type", .str "text"), ("text", .str text)], "end_turn", text)

/-- Only messages that are dicts count. -/
def inputTokens (messages : List Json) : ℕ :=
  (messages.filterMap fun m => (attr "content" m).map fun content =>
    approxTokens (py.text (content.getD (.str "")))).sum

/-- `_build_response`. -/
def buildResponse (ms : List (String × Json)) : Option Json := do
  let messages ← iterate (member "messages" (.arr []) ms)
  let lastUser ← firstUser messages.reverse
  let (block, stopReason, counted) ← block py d ms (userText lastUser)
  return .obj
    [("id", .str ("msg_" ++ d.id)), ("type", .str "message"), ("role", .str "assistant"),
      ("model", member "model" defaultModel ms), ("content", .arr [block]),
      ("stop_reason", .str stopReason), ("stop_sequence", .null),
      ("usage",
        .obj
          [("input_tokens", count (inputTokens py messages)),
            ("output_tokens", count (approxTokens counted))])]

/-- `_stream_events`. -/
def streamEvents (ms : List (String × Json)) : List Json :=
  [.obj
      [("type", .str "message_start"),
        ("message",
          .obj
            [("id", .str ("msg_" ++ d.id)), ("type", .str "message"), ("role", .str "assistant"),
              ("content", .arr []), ("model", member "model" defaultModel ms),
              ("stop_reason", .null),
              ("usage", .obj [("input_tokens", count 1), ("output_tokens", count 0)])])],
    .obj
      [("type", .str "content_block_start"), ("index", count 0),
        ("content_block", .obj [("type", .str "text"), ("text", .str "")])]] ++
    (["Mocked ", "streaming ", "reply. "].map fun word =>
      .obj
        [("type", .str "content_block_delta"), ("index", count 0),
          ("delta", .obj [("type", .str "text_delta"), ("text", .str word)])]) ++
    [.obj [("type", .str "content_block_stop"), ("index", count 0)],
      .obj
        [("type", .str "message_delta"),
          ("delta", .obj [("stop_reason", .str "end_turn"), ("stop_sequence", .null)]),
          ("usage", .obj [("output_tokens", count (approxTokens "Mocked streaming reply."))])],
      .obj [("type", .str "message_stop")]]

end Anthropic

/-! ## Google -/

namespace Google

/-- The first part with a text; `in` also finds `text` in a list or in a text, which then have no
such item. -/
def partText : List Json → Option (Option Json)
  | [] => some none
  | .obj ms :: rest =>
      match lastMember ms "text" with
      | some text => some (some text)
      | none => partText rest
  | .arr xs :: rest => if xs.any isText then none else partText rest
  | .str s :: rest => if "text".toList <:+: s.toList then none else partText rest
  | _ :: _ => none
where
  isText : Json → Bool
    | .str s => s == "text"
    | _ => false

def partsOf (content : Json) : Option (List Json) := do
  let parts ← attr "parts" content
  iterate (parts.getD (.arr []))

/-- `_extract_user_text`, of the contents from the last on. -/
def extractUserText : List Json → Option String
  | [] => some ""
  | content :: rest => do
      let parts ← partsOf content
      match ← partText parts with
      | some text => return py.text text
      | none => extractUserText rest

/-- `_approx_tokens` of what may have another length than a text. -/
def partTokens (part : Json) : Option ℕ := do
  let text ← attr "text" part
  match text.getD (.str "") with
  | .str s => return approxTokens s
  | .arr xs => return max 1 (xs.length / 4)
  | .obj ms => return max 1 ((ms.map Prod.fst).eraseDups.length / 4)
  | _ => none

/-- `generate_content` of a model that stands in the path. -/
def generateContent (model : String) (req : Json) : Option Json := do
  let contents ← attr "contents" req
  let contents ← iterate (contents.getD (.arr []))
  let userText ← extractUserText py contents.reverse
  let text := "Mocked Gemini reply to: " ++ String.ofList (userText.toList.take 80)
  let parts ← contents.mapM partsOf
  let promptTokens ← parts.flatten.mapM partTokens
  return .obj
    [("candidates",
        .arr
          [.obj
            [("content",
                .obj [("role", .str "model"), ("parts", .arr [.obj [("text", .str text)]])]),
              ("finishReason", .str "STOP"), ("index", count 0), ("safetyRatings", .arr [])]]),
      ("usageMetadata",
        .obj
          [("promptTokenCount", count promptTokens.sum),
            ("candidatesTokenCount", count (approxTokens text)),
            ("totalTokenCount", count (promptTokens.sum + approxTokens text))]),
      ("modelVersion", .str model)]

end Google

/-! ## The endpoints -/

/-- `stream_chunks`: what it yields, one text after the other. -/
def streamChunks (chunks : List Json) : List (List Char) :=
  chunks.map (fun chunk => "data: ".toList ++ (chunk.write spaced 0 ++ ['\n', '\n'])) ++
    ["data: [DONE]\n\n".toList]

/-- What a handler returns. -/
inductive Answer
  | document (j : Json)
  /-- `EventSourceResponse` of the texts. -/
  | events (texts : List (List Char))

/-- The body of a response. -/
def Answer.Body : Answer → List Char → Prop
  | .document j, body => body = j.write compact 0
  | .events texts, body => ∃ crlf, Framed crlf texts body

/-- `chat_completions` and `messages`: a stream if the request asks for one. -/
def handle (chunks : List (String × Json) → List Json)
    (build : List (String × Json) → Option Json) : Json → Option Answer
  | .obj ms =>
      if py.truthy (lastMember ms "stream") then some (.events (streamChunks (chunks ms)))
      else (build ms).map .document
  | _ => none

inductive Mock
  | chatCompletions
  | messages
  | generateContent (model : String)

/-- The endpoint for a body in JSON. -/
def Mock.answer : Mock → Json → Option Answer
  | .chatCompletions => handle py (OpenAI.streamChunksFor d) (OpenAI.buildChatResponse py d)
  | .messages => handle py (Anthropic.streamEvents d) (Anthropic.buildResponse py d)
  | .generateContent model => fun req => (Google.generateContent py model req).map .document

variable {py d}

/-- Whatever is streamed has the name of a field in the text already. -/
theorem head_of_mem_streamChunks {chunks : List Json} {text : List Char}
    (h : text ∈ streamChunks chunks) : ∃ rest, text = 'd' :: rest := by
  rcases List.mem_append.1 h with h | h
  · rcases List.mem_map.1 h with ⟨chunk, -, rfl⟩
    exact ⟨_, rfl⟩
  · exact ⟨_, List.mem_singleton.1 h⟩

/-- An answer is a document or a stream of `stream_chunks`. -/
theorem answer_cases {m : Mock} {req : Json} {answer : Answer}
    (h : m.answer py d req = some answer) :
    (∃ j, answer = .document j) ∨ ∃ chunks, answer = .events (streamChunks chunks) := by
  have hhandle : ∀ {chunks build}, handle py chunks build req = some answer →
      (∃ j, answer = .document j) ∨ ∃ chunks, answer = .events (streamChunks chunks) := by
    intro chunks build heq
    unfold handle at heq
    split at heq
    · split_ifs at heq
      · cases heq
        exact .inr ⟨_, rfl⟩
      · rcases Option.map_eq_some_iff.1 heq with ⟨j, -, rfl⟩
        exact .inl ⟨j, rfl⟩
    · cases heq
  cases m with
  | chatCompletions => exact hhandle h
  | messages => exact hhandle h
  | generateContent model =>
      rcases Option.map_eq_some_iff.1 h with ⟨j, -, rfl⟩
      exact .inl ⟨j, rfl⟩

end Mocks
end OpenRouter
