import OpenRouter.Gateway.Adapters
import OpenRouter.Gateway.Proxy

/-!
# Anthropic — the Messages API behind the OpenAI shape

`adapters.Anthropic`: the request and the response as structs read from one JSON shape and written
in another, and the translator from Anthropic's event stream.
-/

namespace OpenRouter
namespace Gateway

open Base

/-! ## Requests -/

/-- The literal of the zero `float64`. -/
def zeroFloat : Number :=
  { text := ['0'], valid := rfl }

/-- What `omitempty` leaves out of a `float64` field. -/
def isZeroFloat (n : Number) : Bool :=
  n.text == ['0'] || n.text == ['-', '0']

structure OpenAIMessage where
  role : String := ""
  content : String := ""

structure OpenAIChatRequest where
  model : String := ""
  messages : Slice OpenAIMessage := {}
  maxTokens : ℤ := 0
  temperature : Number := zeroFloat
  topP : Number := zeroFloat
  stream : Bool := false

def decodeOpenAIMessage : Decoder OpenAIMessage :=
  decodeStruct fun key m v =>
    if isField "role" key then (decodeString m.role v).map fun role => { m with role := role }
    else if isField "content" key then
      (decodeString m.content v).map fun content => { m with content := content }
    else some m

def decodeOpenAIChatRequest (rt : Runtime) : Decoder OpenAIChatRequest :=
  decodeStruct fun key req v =>
    if isField "model" key then
      (decodeString req.model v).map fun model => { req with model := model }
    else if isField "messages" key then
      (decodeSlice {} decodeOpenAIMessage req.messages v).map fun messages =>
        { req with messages := messages }
    else if isField "max_tokens" key then
      (decodeInt req.maxTokens v).map fun maxTokens => { req with maxTokens := maxTokens }
    else if isField "temperature" key then
      (decodeFloat rt req.temperature v).map fun temperature =>
        { req with temperature := temperature }
    else if isField "top_p" key then
      (decodeFloat rt req.topP v).map fun topP => { req with topP := topP }
    else if isField "stream" key then
      (decodeBool req.stream v).map fun stream => { req with stream := stream }
    else some req

structure AnthropicMessage where
  role : String
  content : String

structure AnthropicMessagesRequest where
  model : String
  system : String := ""
  messages : List AnthropicMessage := []
  maxTokens : ℤ
  temperature : Number
  topP : Number
  stream : Bool

def defaultIfZero (v default : ℤ) : ℤ :=
  if v = 0 then default else v

def appendSystem (existing addition : String) : String :=
  if existing = "" then addition else existing ++ "\n\n" ++ addition

/-- One pass of the loop over the messages. -/
def addMessage (req : AnthropicMessagesRequest) (m : OpenAIMessage) : AnthropicMessagesRequest :=
  if m.role = "system" then { req with system := appendSystem req.system m.content }
  else if m.role = "user" ∨ m.role = "assistant" ∨ m.role = "tool" then
    { req with messages := req.messages ++ [{ role := m.role, content := m.content }] }
  else req

/-- The Anthropic request of an OpenAI one. -/
def toAnthropic (modelID : String) (req : OpenAIChatRequest) : AnthropicMessagesRequest :=
  req.messages.toList.foldl addMessage
    { model := stripProviderPrefix modelID
      maxTokens := defaultIfZero req.maxTokens 4096
      temperature := req.temperature
      topP := req.topP
      stream := req.stream }

def AnthropicMessage.tree (m : AnthropicMessage) : Json :=
  .obj [("role", .str m.role), ("content", .str m.content)]

/-- A member that `omitempty` drops under a condition. -/
def omitIf (empty : Bool) (key : String) (v : Json) : List (String × Json) :=
  if empty then [] else [(key, v)]

/-- What `json.Marshal` writes of a request; a nil slice is `null`. -/
def AnthropicMessagesRequest.tree (req : AnthropicMessagesRequest) : Json :=
  .obj
    (("model", .str req.model) ::
      (omitIf (req.system == "") "system" (.str req.system) ++
        ("messages",
            if req.messages.isEmpty then .null
            else .arr (req.messages.map AnthropicMessage.tree)) ::
          ("max_tokens", .num (intNumber req.maxTokens)) ::
          (omitIf (isZeroFloat req.temperature) "temperature" (.num req.temperature) ++
            omitIf (isZeroFloat req.topP) "top_p" (.num req.topP) ++
            omitIf (!req.stream) "stream" (.bool req.stream))))

/-! ## Responses -/

structure AnthropicContentItem where
  type : String := ""
  text : String := ""

structure AnthropicUsage where
  inputTokens : ℤ := 0
  outputTokens : ℤ := 0

structure AnthropicMessagesResponse where
  id : String := ""
  model : String := ""
  createdAt : ℤ := 0
  content : Slice AnthropicContentItem := {}
  stopReason : String := ""
  usage : AnthropicUsage := {}

def decodeContentItem : Decoder AnthropicContentItem :=
  decodeStruct fun key item v =>
    if isField "type" key then (decodeString item.type v).map fun type => { item with type := type }
    else if isField "text" key then
      (decodeString item.text v).map fun text => { item with text := text }
    else some item

def decodeUsage : Decoder AnthropicUsage :=
  decodeStruct fun key usage v =>
    if isField "input_tokens" key then
      (decodeInt usage.inputTokens v).map fun n => { usage with inputTokens := n }
    else if isField "output_tokens" key then
      (decodeInt usage.outputTokens v).map fun n => { usage with outputTokens := n }
    else some usage

def decodeAnthropicResponse : Decoder AnthropicMessagesResponse :=
  decodeStruct fun key resp v =>
    if isField "id" key then (decodeString resp.id v).map fun id => { resp with id := id }
    else if isField "type" key then
      -- The field is read by nobody, but its value must be a string.
      (decodeString "" v).map fun _ => resp
    else if isField "model" key then
      (decodeString resp.model v).map fun model => { resp with model := model }
    else if isField "created_at" key then
      (decodeInt resp.createdAt v).map fun n => { resp with createdAt := n }
    else if isField "content" key then
      (decodeSlice {} decodeContentItem resp.content v).map fun content =>
        { resp with content := content }
    else if isField "stop_reason" key then
      (decodeString resp.stopReason v).map fun reason => { resp with stopReason := reason }
    else if isField "usage" key then
      (decodeUsage resp.usage v).map fun usage => { resp with usage := usage }
    else some resp

def AnthropicMessagesResponse.contentText (resp : AnthropicMessagesResponse) : String :=
  resp.content.toList.foldl (fun text c => if c.type = "text" then text ++ c.text else text) ""

def mapAnthropicStopReason (reason : String) : String :=
  if reason = "end_turn" then "stop"
  else if reason = "max_tokens" then "length"
  else if reason = "tool_use" then "tool_calls"
  else "stop"

/-- The sum of two `int`s wraps around. -/
def addInt (a b : ℤ) : ℤ :=
  (a + b).bmod (2 ^ 64)

/-- What `json.Marshal` writes of the OpenAI response. -/
def AnthropicMessagesResponse.openAITree (resp : AnthropicMessagesResponse) : Json :=
  .obj
    [("id", .str resp.id), ("object", .str "chat.completion"),
      ("created", .num (intNumber resp.createdAt)), ("model", .str resp.model),
      ("choices",
        .arr
          [.obj
            [("index", .num (intNumber 0)),
              ("message",
                .obj [("role", .str "assistant"), ("content", .str resp.contentText)]),
              ("finish_reason", .str (mapAnthropicStopReason resp.stopReason))]]),
      ("usage",
        .obj
          [("prompt_tokens", .num (intNumber resp.usage.inputTokens)),
            ("completion_tokens", .num (intNumber resp.usage.outputTokens)),
            ("total_tokens",
              .num (intNumber (addInt resp.usage.inputTokens resp.usage.outputTokens)))])]

/-! ## Streams -/

structure EventMessageStart where
  id : String := ""
  model : String := ""

def decodeMessageStart : Decoder EventMessageStart :=
  decodeStruct fun key ev v =>
    if isField "message" key then
      decodeStruct
        (fun key ev v =>
          if isField "id" key then (decodeString ev.id v).map fun id => { ev with id := id }
          else if isField "model" key then
            (decodeString ev.model v).map fun model => { ev with model := model }
          else some ev)
        ev v
    else some ev

structure EventContentBlockDelta where
  index : ℤ := 0
  type : String := ""
  text : String := ""
  partialJSON : String := ""

def decodeContentBlockDelta : Decoder EventContentBlockDelta :=
  decodeStruct fun key ev v =>
    if isField "index" key then (decodeInt ev.index v).map fun n => { ev with index := n }
    else if isField "delta" key then
      decodeStruct
        (fun key ev v =>
          if isField "type" key then
            (decodeString ev.type v).map fun type => { ev with type := type }
          else if isField "text" key then
            (decodeString ev.text v).map fun text => { ev with text := text }
          else if isField "partial_json" key then
            (decodeString ev.partialJSON v).map fun json => { ev with partialJSON := json }
          else some ev)
        ev v
    else some ev

/-- The `stop_reason` of a `message_delta`. -/
def decodeMessageDelta : Decoder String :=
  decodeStruct fun key reason v =>
    if isField "delta" key then
      decodeStruct
        (fun key reason v =>
          if isField "stop_reason" key then decodeString reason v else some reason)
        reason v
    else some reason

/-- `anthropicStreamTranslator`. -/
structure AnthropicStream where
  lineBuf : Bytes := []
  currentEvent : Bytes := []
  currentData : Bytes := []
  id : String := ""
  model : String := ""
  created : ℤ := 0
  finished : Bool := false

/-- What `json.Marshal` writes of an `openAIStreamChunk` with one choice. -/
def AnthropicStream.chunkTree (t : AnthropicStream) (role content finishReason : String) : Json :=
  .obj
    [("id", .str t.id), ("object", .str "chat.completion.chunk"),
      ("created", .num (intNumber t.created)), ("model", .str t.model),
      ("choices",
        .arr
          [.obj
            [("index", .num (intNumber 0)),
              ("delta",
                .obj (omitIf (role == "") "role" (.str role) ++
                  omitIf (content == "") "content" (.str content))),
              ("finish_reason", if finishReason = "" then .null else .str finishReason)]])]

/-- The three writes of `anthropicStreamTranslator.writeChunk`. -/
def AnthropicStream.chunkWrites (t : AnthropicStream) (role content finishReason : String) :
    List Bytes :=
  [bytesOf "data: ", marshal (t.chunkTree role content finishReason), bytesOf "\n\n"]

/-- The error of a handler whose payload does not decode. -/
def payloadError (rt : Runtime) (event type : String) (data : Bytes) : GoError :=
  .wrap ("anthropic " ++ event) (.text (rt.unmarshalError type data))

namespace AnthropicStream

variable (rt : Runtime) (t : AnthropicStream)

def handleMessageStart : List Bytes × Except GoError AnthropicStream :=
  match unmarshal {} decodeMessageStart t.currentData with
  | none =>
      ([], .error (payloadError rt "message_start" "anthropicEventMessageStart" t.currentData))
  | some ev =>
      let t := { t with id := ev.id, model := ev.model, created := rt.unixNow }
      (t.chunkWrites "assistant" "" "", .ok t)

def handleContentBlockDelta : List Bytes × Except GoError AnthropicStream :=
  match unmarshal {} decodeContentBlockDelta t.currentData with
  | none =>
      ([], .error
        (payloadError rt "content_block_delta" "anthropicEventContentBlockDelta" t.currentData))
  | some ev =>
      if ev.type ≠ "text_delta" ∨ ev.text = "" then ([], .ok t)
      else (t.chunkWrites "" ev.text "", .ok t)

def handleMessageDelta : List Bytes × Except GoError AnthropicStream :=
  match unmarshal "" decodeMessageDelta t.currentData with
  | none =>
      ([], .error (payloadError rt "message_delta" "anthropicEventMessageDelta" t.currentData))
  | some reason =>
      if reason = "" then ([], .ok t)
      else (t.chunkWrites "" "" (mapAnthropicStopReason reason), .ok t)

def dispatch : List Bytes × Except GoError AnthropicStream :=
  if t.currentEvent = [] ∨ t.currentData = [] then ([], .ok t)
  else if t.currentEvent = bytesOf "message_start" then t.handleMessageStart rt
  else if t.currentEvent = bytesOf "content_block_delta" then t.handleContentBlockDelta rt
  else if t.currentEvent = bytesOf "message_delta" then t.handleMessageDelta rt
  else if t.currentEvent = bytesOf "error" then (t.chunkWrites "" "" "error", .ok t)
  else ([], .ok t)

end AnthropicStream

/-- `stripPrefix` of `anthropic.go`. -/
def stripLinePrefix (line : Bytes) (start : String) : Option Bytes :=
  if bytesOf start <+: line then some (line.drop (bytesOf start).length) else none

/-- `bytes.TrimPrefix(b, " ")`. -/
def trimSpacePrefix : Bytes → Bytes
  | b :: bs => if b = 32 then bs else b :: bs
  | [] => []

/-- The first line, without its line feed, and what is behind it. -/
def takeLine : Bytes → Option (Bytes × Bytes)
  | [] => none
  | b :: bs => if b = 10 then some ([], bs) else (takeLine bs).map fun p => (b :: p.1, p.2)

/-- A line without a final carriage return. -/
def trimCR (line : Bytes) : Bytes :=
  if line.getLast? = some 13 then line.dropLast else line

namespace AnthropicStream

variable (rt : Runtime)

def consumeLine (t : AnthropicStream) (line : Bytes) : AnthropicStream :=
  match stripLinePrefix line "event:" with
  | some name => { t with currentEvent := trimSpacePrefix name }
  | none =>
      match stripLinePrefix line "data:" with
      | some data =>
          { t with
            currentData :=
              (if t.currentData = [] then [] else t.currentData ++ [10]) ++ trimSpacePrefix data }
      | none => t

/-- The loop of `Translate`; every pass takes a line feed out of the buffer, whose length is the
fuel. -/
def translateLines : ℕ → AnthropicStream → List Bytes × Except GoError AnthropicStream
  | 0, t => ([], .ok t)
  | fuel + 1, t =>
      match takeLine t.lineBuf with
      | none => ([], .ok t)
      | some (raw, rest) =>
          let t := { t with lineBuf := rest }
          if trimCR raw = [] then
            match t.dispatch rt with
            | (ws, .error err) => (ws, .error err)
            | (ws, .ok t) =>
                let more := translateLines fuel { t with currentEvent := [], currentData := [] }
                (ws ++ more.1, more.2)
          else translateLines fuel (t.consumeLine (trimCR raw))

def translate (t : AnthropicStream) (chunk : Bytes) : List Bytes × Except GoError AnthropicStream :=
  let t := { t with lineBuf := t.lineBuf ++ chunk }
  t.translateLines rt t.lineBuf.length

end AnthropicStream

def anthropicStreamTranslator (rt : Runtime) : StreamTranslator where
  State := AnthropicStream
  start := {}
  translate := AnthropicStream.translate rt
  close := fun t =>
    if t.finished then ([], .ok t)
    else ([bytesOf "data: [DONE]\n\n"], .ok { t with finished := true })

/-! ## The adapter -/

def anthropic (rt : Runtime) : ProviderAdapter where
  name := "anthropic"
  normalizeRequest := fun modelID body cfg =>
    match unmarshal {} (decodeOpenAIChatRequest rt) body with
    | none =>
        .error (.wrap "parse openai request" (.text (rt.unmarshalError "openAIChatRequest" body)))
    | some req =>
        .ok
          { path := "/messages"
            headers := withHeaders
              ((((∅ : AList fun _ : String => String).insert "Content-Type"
                "application/json").insert "x-api-key" (rt.getenv cfg.keyEnv)).insert
                "anthropic-version" "2023-06-01")
              cfg.headers
            body := marshal (toAnthropic modelID req).tree }
  normalizeResponse := fun body =>
    match unmarshal {} decodeAnthropicResponse body with
    | none =>
        .error
          (.wrap "parse anthropic response"
            (.text (rt.unmarshalError "anthropicMessagesResponse" body)))
    | some resp => .ok (marshal resp.openAITree)
  newStreamTranslator := anthropicStreamTranslator rt

/-! ## The wired proxy -/

/-- The adapters that `proxy.New` wires. -/
def standardAdapters (rt : Runtime) (provider : String) : Option ProviderAdapter :=
  if provider = "anthropic" then some (anthropic rt)
  else if provider = "google" then some google
  else if provider ∈ ["openai", "together", "fireworks", "ollama"] then some (openAI rt)
  else none

/-- `proxy.New`. -/
def newProxy (rt : Runtime) (router : Router) : Proxy where
  runtime := rt
  router := router
  adapters := standardAdapters rt

/-- A runtime with empty tables. -/
def plainRuntime : Runtime where
  getenv := fun _ => ""
  isPrintWide := fun _ => false
  unmarshalError := fun _ _ => "invalid"
  float64 := some
  sha256Hex := fun _ => ""
  unixNow := 0

/-- `gpt-4o` at OpenAI, with a fallback at Together. -/
def twoProviders : Router :=
  Router.load
    { providers :=
        ((∅ : AList fun _ : String => ProviderConfig).insert "openai"
          { baseURL := "https://api.openai.com/v1"
            keyEnv := "OPENAI_API_KEY"
            headers := ∅ }).insert "together"
          { baseURL := "https://api.together.xyz/v1", keyEnv := "TOGETHER_API_KEY", headers := ∅ }
      models :=
        [{ id := "gpt-4o", provider := "openai"
           fallback := [{ provider := "together", model := "llama-3-70b" }] }] }

end Gateway
end OpenRouter
