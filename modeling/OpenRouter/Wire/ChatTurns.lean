import OpenRouter.Cli.Chat
import OpenRouter.Gateway.Closing
import OpenRouter.Gateway.Commit
import OpenRouter.Gateway.ErrorReplies
import OpenRouter.Wire.Conversations
import OpenRouter.Wire.EventChunks

/-!
# ChatTurns — a conversation across the CLI, the gateway and Anthropic

The interactive session sends its messages to `ChatHandler.Create`, which translates them for
Anthropic and the event stream on the way back.  `conveyed_of_run` closes the loop: what the
upstream is sent at every question is made of the lines of the user and of its own messages.
-/

namespace OpenRouter
namespace Wire

open Base Cli Gateway

/-! ## The request on its way -/

/-- The bytes of a request body. -/
def bodyBytes (req : HttpRequest) : Bytes :=
  encode (req.body.getD [])

/-- The request that the CLI makes of some messages. -/
def asked (model : String) (messages : List ChatMessage) : ChatCompletionRequest where
  model := model
  messages := messages

theorem parse_bodyBytes (api : ApiClient) (model : String) (messages : List ChatMessage)
    (line : List Char) :
    parse (decode (bodyBytes (Chat.request api model messages line))) =
      some (asked model
        (messages ++ [{ role := .user, content := String.ofList line }])).tree := by
  rw [bodyBytes, decode_encode]
  exact parse_write compact _

theorem isField_request :
    isField "model" "model" = true ∧ isField "model" "messages" = false ∧
      isField "stream" "messages" = false ∧ isField "messages" "messages" = true ∧
      isField "model" "stream" = false ∧ isField "stream" "stream" = true ∧
      isField "messages" "stream" = false ∧ isField "max_tokens" "stream" = false ∧
      isField "temperature" "stream" = false ∧ isField "top_p" "stream" = false := by
  decide

/-- What `Create` reads of it. -/
theorem decodeChatRequest_asked (model : String) (messages : List ChatMessage) :
    decodeChatRequest {} (asked model messages).tree =
      some { model := model, stream := true } := by
  rcases isField_request with ⟨h₁, h₂, h₃, -, h₅, h₆, -⟩
  simp [decodeChatRequest, decodeStruct, asked, ChatCompletionRequest.tree, decodeString,
    decodeBool, h₁, h₂, h₃, h₅, h₆]

/-- The message that the adapter reads. -/
def decodedMessage (m : ChatMessage) : OpenAIMessage where
  role := m.role.name
  content := m.content

theorem decodeOpenAIMessage_tree (m : ChatMessage) :
    decodeOpenAIMessage {} m.tree = some (decodedMessage m) := by
  rcases isField_message with ⟨h₁, h₂, h₃⟩
  simp [decodeOpenAIMessage, decodeStruct, ChatMessage.tree, decodeString, decodedMessage, h₁, h₂,
    h₃]

/-- A slice without an array behind it takes a new slot for every element. -/
theorem decodeSlice_map {α β : Type} {zero : β} {decoder : Decoder β} {tree : α → Json}
    {read : α → β} (h : ∀ a, decoder zero (tree a) = some (read a)) (as : List α) :
    decodeSlice zero decoder {} (.arr (as.map tree)) =
      some { slots := as.map read, len := as.length } := by
  have helems : ∀ as : List α, decodeElems zero decoder [] (as.map tree) = some (as.map read) := by
    intro as
    induction as with
    | nil => rfl
    | cons a as ih => simp [decodeElems, h, ih]
  cases as with
  | nil => rfl
  | cons a as =>
      have hall := helems (a :: as)
      rw [List.map_cons] at hall ⊢
      simp [decodeSlice, hall]

/-- What the adapter reads of it. -/
def decodedRequest (model : String) (messages : List ChatMessage) : OpenAIChatRequest where
  model := model
  messages := { slots := messages.map decodedMessage, len := messages.length }
  stream := true

theorem decodeOpenAIChatRequest_asked (rt : Runtime) (model : String)
    (messages : List ChatMessage) :
    decodeOpenAIChatRequest rt {} (asked model messages).tree =
      some (decodedRequest model messages) := by
  rcases isField_request with ⟨h₁, h₂, -, h₄, h₅, h₆, h₇, h₈, h₉, h₁₀⟩
  have hslice := decodeSlice_map decodeOpenAIMessage_tree messages
  simp [decodeOpenAIChatRequest, decodeStruct, asked, ChatCompletionRequest.tree, decodeString,
    decodeBool, decodedRequest, hslice, h₁, h₂, h₄, h₅, h₆, h₇, h₈, h₉, h₁₀]

/-- A body that decodes is normalised. -/
theorem normalizeRequest_of_decode {rt : Runtime} {body : Bytes} {req : OpenAIChatRequest}
    (h : unmarshal {} (decodeOpenAIChatRequest rt) body = some req) (modelID : String)
    (cfg : ProviderConfig) :
    ∃ upstream, (anthropic rt).normalizeRequest modelID body cfg = .ok upstream ∧
      upstream.body = marshal (toAnthropic modelID req).tree :=
  ⟨_, by simp only [anthropic, h]; rfl, rfl⟩

/-- The request that Anthropic gets for the turns of a conversation under a system prompt. -/
def conveyed (modelID system : String) (turns : List ChatMessage) : AnthropicMessagesRequest where
  model := stripProviderPrefix modelID
  system := system
  messages := turns.map fun m => { role := m.role.name, content := m.content }
  maxTokens := 4096
  temperature := zeroFloat
  topP := zeroFloat
  stream := true

/-- The messages of a session: its prompt, unless it is empty or cleared, and turns without a
system message. -/
theorem toAnthropic_asked {modelID model system : String} {prompt turns : List ChatMessage}
    (hprompt : prompt = if system = "" then [] else [{ role := .system, content := system }])
    (hturns : ∀ m ∈ turns, m.role ≠ .system) :
    toAnthropic modelID (decodedRequest model (prompt ++ turns)) =
      conveyed modelID system turns := by
  have hname : ∀ role : Role, role.name = "system" ↔ role = .system := by
    intro role
    cases role <;> decide
  have hpassed : ∀ m ∈ turns, passed (decodedMessage m) =
      some { role := m.role.name, content := m.content } := by
    intro m hm
    have hrole := hturns m hm
    rcases m with ⟨role, content⟩
    cases role with
    | system => exact absurd rfl hrole
    | user | assistant | tool => rfl
  have hnone : turns.filter (fun m => (decodedMessage m).role == "system") = [] := by
    rw [List.filter_eq_nil_iff]
    intro m hm hsystem
    exact hturns m hm ((hname m.role).1 (beq_iff_eq.1 hsystem))
  have hlist : turns.filterMap (fun m => passed (decodedMessage m)) =
      turns.map fun m => { role := m.role.name, content := m.content } := by
    rw [← List.filterMap_eq_map]
    exact List.filterMap_congr hpassed
  have hlen : (prompt ++ turns).length = ((prompt ++ turns).map decodedMessage).length :=
    (List.length_map _).symm
  let start : AnthropicMessagesRequest :=
    { model := stripProviderPrefix modelID, maxTokens := 4096, temperature := zeroFloat
      topP := zeroFloat, stream := true }
  have hfields := foldl_addMessage_eq ((prompt ++ turns).map decodedMessage) start
  rcases foldl_addMessage ((prompt ++ turns).map decodedMessage) start with ⟨s, ms, hfold⟩
  have hreq : toAnthropic modelID (decodedRequest model (prompt ++ turns)) =
      { start with system := s, messages := ms } := by
    rw [← hfold, toAnthropic, decodedRequest, Slice.toList, hlen, List.take_length]
    rfl
  rw [hreq]
  rw [hfold] at hfields
  rcases hfields with ⟨hs, hms⟩
  simp only [List.map_append, List.filter_append, List.filterMap_append, List.filter_map,
    List.filterMap_map, Function.comp_def, hnone, hlist, List.map_nil, List.append_nil] at hs hms
  have hsystem : s = system := by
    rw [hs, hprompt]
    split_ifs with hempty
    · exact hempty.symm
    · rfl
  have hmessages : ms = turns.map fun m => { role := m.role.name, content := m.content } := by
    rw [hms, hprompt]
    split_ifs <;> rfl
  rw [hsystem, hmessages]
  rfl

/-! ## The answer on its way back -/

theorem chunkContent_deltaTree (t : AnthropicStream) (d : Delta) :
    Chat.chunkContent (t.deltaTree d) =
      .ok (if d.content = "" then none else some (.str d.content)) := by
  have hdelta : lastMember
      (omitIf (d.role == "") "role" (.str d.role) ++
        omitIf (d.content == "") "content" (.str d.content)) "content" =
      if d.content = "" then none else some (.str d.content) := by
    unfold omitIf
    split_ifs <;> simp_all [lastMember]
  rw [← hdelta]
  rfl

/-- The session joins the contents of the chunks. -/
theorem collect_deltaTrees (js : JsRuntime) (t : AnthropicStream) (ds : List Delta) :
    Chat.collect js (ds.map t.deltaTree) = .ok (String.join (ds.map Delta.content)) := by
  have hpiece : ∀ d : Delta,
      Chat.pieceText js (if d.content = "" then none else some (.str d.content)) =
        .ok d.content := by
    intro d
    split_ifs with hempty
    · rw [hempty]
      rfl
    · rfl
  induction ds with
  | nil => rfl
  | cons d ds ih =>
      calc
        Chat.collect js (t.deltaTree d :: ds.map t.deltaTree)
            = (Chat.pieceText js (if d.content = "" then none else some (.str d.content))).bind
                fun piece => .ok (piece ++ String.join (ds.map Delta.content)) := by
          rw [Chat.collect, chunkContent_deltaTree, ih]
          rfl
        _ = .ok (String.join ((d :: ds).map Delta.content)) := by
          rw [hpiece, List.map_cons, String.join_cons]
          rfl

/-- What the translator makes of the events of a message. -/
theorem whole_of_arrives (rt : Runtime) {resp : AnthropicMessagesResponse}
    {events : List ServerEvent} (h : Arrives resp events) :
    ∃ (t : AnthropicStream) (ds : List Delta),
      (anthropicStreamTranslator rt).whole (events.flatMap ServerEvent.bytes) =
          ((ds.map t.deltaTree).flatMap chunkFrame ++ bytesOf "data: [DONE]\n\n", none) ∧
        String.join (ds.map Delta.content) = resp.contentText := by
  rcases h with ⟨kinds, cuts, hsays, hcuts, hkinds⟩
  rcases AnthropicStream.drain_events rt {} hsays with ⟨ws, t', hdrain, hws, hopen⟩
  let t : AnthropicStream := { id := resp.id, model := resp.model, created := rt.unixNow }
  let blocks := (cuts.flatMap blockKinds).flatMap Kind.deltas
  let last := (Kind.messageDelta resp.stopReason).deltas
  have htrees : AnthropicStream.chunkTrees rt {} kinds =
      ({ role := "assistant" } :: (blocks ++ last)).map t.deltaTree := by
    have hrest : t.chunkTrees rt (cuts.flatMap blockKinds ++
        [Kind.messageDelta resp.stopReason, .messageStop]) = _ :=
      AnthropicStream.chunkTrees_of_noStart rt t fun k hk => next_of_blocks rt t hk
    have hdeltas : (cuts.flatMap blockKinds ++
        [Kind.messageDelta resp.stopReason, .messageStop]).flatMap Kind.deltas =
          blocks ++ last := by
      simp [blocks, last, Kind.deltas]
    rw [hdeltas] at hrest
    rw [← AnthropicStream.chunkTrees_filter, hkinds, AnthropicStream.chunkTrees]
    exact congrArg _ hrest
  have hlast : String.join (last.map Delta.content) = "" := by
    simp only [last, Kind.deltas]
    split_ifs <;> rfl
  refine ⟨t, { role := "assistant" } :: (blocks ++ last), ?_, ?_⟩
  · have hrun : andThen ((anthropicStreamTranslator rt).translate
        (anthropicStreamTranslator rt).start (events.flatMap ServerEvent.bytes))
          (anthropicStreamTranslator rt).close =
        (ws ++ [bytesOf "data: [DONE]\n\n"], .ok { t' with finished := true }) := by
      have htranslate : (anthropicStreamTranslator rt).translate
          (anthropicStreamTranslator rt).start (events.flatMap ServerEvent.bytes) =
          (ws, .ok t') := hdrain
      rw [htranslate]
      calc
        andThen (ws, .ok t') (anthropicStreamTranslator rt).close =
            (ws ++ ((anthropicStreamTranslator rt).close t').1,
              ((anthropicStreamTranslator rt).close t').2) := rfl
        _ = _ := by rw [AnthropicStream.close_of_open hopen]
    rw [StreamTranslator.whole, StreamTranslator.wholeFrom, hrun, ← htrees]
    simp [StreamTranslator.flat, hws]
  · calc
      String.join (({ role := "assistant" } :: (blocks ++ last)).map Delta.content)
          = String.join (blocks.map Delta.content) ++ String.join (last.map Delta.content) := by
        rw [List.map_cons, List.map_append, String.join_cons, String.join_append,
          String.empty_append]
      _ = resp.contentText := by
        rw [hlast, String.append_empty]
        exact deltas_of_cuts hcuts

/-! ## A stream that breaks off -/

/-- A front part of a text has the first chunks, and all of them if it has the end mark. -/
theorem drain_of_prefix {text more : List Char} {chunks : List Json} {rest : Option (List Char)}
    (h : drain (text ++ more) = (chunks, rest)) :
    (drain text).1 <+: chunks ∧ ((drain text).2.isNone = true → (drain text).1 = chunks) := by
  rw [drain_append] at h
  rcases hdrain : drain text with ⟨chunks', - | rest'⟩
  · rw [hdrain] at h
    cases h
    exact ⟨List.prefix_rfl, fun _ => rfl⟩
  · rw [hdrain] at h
    simp only [Prod.mk.injEq] at h
    rw [← h.1]
    refine ⟨List.prefix_append _ _, fun hnone => ?_⟩
    cases hnone

/-- A session that can join some chunks can join the first of them. -/
theorem collect_of_prefix {js : JsRuntime} {chunks chunks' : List Json} {a : String}
    (h : chunks' <+: chunks) (ha : Chat.collect js chunks = .ok a) :
    ∃ a', Chat.collect js chunks' = .ok a' := by
  induction chunks' generalizing chunks a with
  | nil => exact ⟨"", rfl⟩
  | cons chunk chunks' ih =>
      rcases List.cons_prefix_iff.1 h with ⟨more, rfl, hmore⟩
      rw [Chat.collect] at ha ⊢
      cases hchunk : Chat.chunkContent chunk with
      | error err =>
          rw [hchunk] at ha
          cases ha
      | ok content =>
          cases hpiece : Chat.pieceText js content with
          | error err =>
              simp only [hchunk, hpiece, bind, Except.bind] at ha
              cases ha
          | ok piece =>
              cases hrest : Chat.collect js more with
              | error err =>
                  simp only [hchunk, hpiece, hrest, bind, Except.bind] at ha
                  cases ha
              | ok b =>
                  rcases ih hmore hrest with ⟨a', ha'⟩
                  refine ⟨piece ++ a', ?_⟩
                  simp only [hpiece, ha', bind, Except.bind]
                  rfl

/-! ## Through the chain -/

/-- A question that is passed to a target, and what comes back to the session. -/
structure Passage where
  surroundings : Surroundings
  exchange : Exchange
  position : ℕ
  target : Target
  reply : Reply
  pieces : List Bytes
  /-- The end of the response, when the connection is lost before it, and the error of that. -/
  lost : Bytes := []
  broken : Option Thrown := none

namespace Passage

/-- The reply that the CLI reads. -/
def seen (v : Passage) : StreamReply where
  statusCode := v.reply.status
  pieces := v.pieces.map Piece.bytes
  broken := v.broken

/-- What the gateway makes of a request body. -/
def served (v : Passage) (rt : Runtime) (router : Router) (body : Bytes) : Exchange :=
  (newProxy rt router).create v.surroundings { body := { bytes := body } } v.exchange

/-- The reply is passed on, no write to the client fails, and the CLI reads the response, cut
anywhere, to its end or to an error. -/
structure Passes (v : Passage) (rt : Runtime) (router : Router) (model : String)
    (body : Bytes) : Prop where
  named : model ≠ ""
  size : body.length ≤ chatBodyLimit
  fresh : v.exchange.events = []
  noFault : ∀ n, v.exchange.fault n = none
  chain : ∃ primary fallback a rest, router.resolve model = some (primary, fallback) ∧
    (primary :: fallback)[v.position]? = some v.target ∧
    (newProxy rt router).firstRelay v.surroundings.attempts body 0 (primary :: fallback) =
      some (v.position, a, v.reply, rest)
  status : 200 ≤ v.reply.status ∧ v.reply.status < 300
  eof : v.reply.readError = none
  cut : v.pieces.flatten ++ v.lost = (v.served rt router body).body
  whole : v.broken = none → v.lost = []

/-- A target at Anthropic answers the request with the events of a message. -/
structure Carries (v : Passage) (rt : Runtime) (router : Router) (model : String)
    (message : AnthropicMessagesResponse) (body : Bytes) : Prop
    extends v.Passes rt router model body where
  provider : v.target.provider = "anthropic"
  arrives : ∃ events, Arrives message events ∧
    v.reply.reads.flatten = events.flatMap ServerEvent.bytes

variable {v : Passage} {rt : Runtime} {router : Router} {api : ApiClient} {model : String}
  {messages : List ChatMessage} {line : List Char} {message : AnthropicMessagesResponse}

/-- The gateway forwards a question of the CLI as a streamed request. -/
theorem Passes.forwarded
    (h : v.Passes rt router model (bodyBytes (Chat.request api model messages line))) :
    (newProxy rt router).forwarded v.surroundings
        { body := { bytes := bodyBytes (Chat.request api model messages line) } } =
      some ({ model := model, stream := true },
        bodyBytes (Chat.request api model messages line)) := by
  have hdecode : unmarshal {} decodeChatRequest (bodyBytes (Chat.request api model messages line)) =
      some { model := model, stream := true } := by
    rw [unmarshal, parse_bodyBytes, Option.bind_some, decodeChatRequest_asked]
  simp [Proxy.forwarded, RequestBody.readAll, Nat.not_lt.2 h.size, hdecode, h.named]

/-- The target is contacted, and its reply is what the response consists of. -/
theorem Passes.relayed
    (h : v.Passes rt router model (bodyBytes (Chat.request api model messages line))) :
    ∃ a o, (newProxy rt router).prepare (v.surroundings.attempts v.position)
          (bodyBytes (Chat.request api model messages line)) v.target = .ok (a, o) ∧
      .contact v.position v.target o ∈
        (v.served rt router (bodyBytes (Chat.request api model messages line))).events ∧
      ∀ bs, a.newStreamTranslator.whole v.reply.reads.flatten = (bs, none) →
        (v.served rt router (bodyBytes (Chat.request api model messages line))).body = bs := by
  rcases h.chain with ⟨primary, fallback, a, rest, hresolve, htarget, hfirst⟩
  rcases Proxy.contacted_of_firstRelay hfirst true (.text "") (streamHeaders v.exchange) with
    ⟨t, o, y, ht, -, hprep, -, hcontact, htry⟩
  have hsame : t = v.target := by
    rw [Nat.sub_zero, htarget] at ht
    exact (Option.some.inj ht).symm
  subst hsame
  have hserved : v.served rt router (bodyBytes (Chat.request api model messages line)) =
      conclude ((newProxy rt router).tryTargets v.surroundings.attempts
        (bodyBytes (Chat.request api model messages line)) true 0 (.text "")
        (primary :: fallback) (streamHeaders v.exchange)) := by
    have hroute : (newProxy rt router).router.resolve model = some (primary, fallback) := hresolve
    rw [served, Proxy.create_of_forwarded h.forwarded, Proxy.createMiss, Proxy.chatCompletion]
    simp only [hroute, if_true]
  refine ⟨a, o, hprep, ?_, ?_⟩
  · rw [hserved, htry]
    refine (Proxy.grows_conclude _).subset ?_
    cases hrelay : relay a v.position true v.reply y with
    | mk r z =>
        have hgrows := grows_relay a v.position true v.reply y
        rw [hrelay] at hgrows
        cases r with
        | none => exact hgrows.subset hcontact
        | some f => exact Proxy.grows_tryTargets.subset (hgrows.subset hcontact)
  · intro bs hwhole
    have htranslator : a.newStreamTranslator = passthroughTranslator ∨
        a.newStreamTranslator = anthropicStreamTranslator rt := by
      rcases standardAdapters_cases (Proxy.prepare_eq_ok_iff.1 hprep).1 with
        ⟨-, rfl⟩ | ⟨-, hpass, -⟩
      · exact .inr rfl
      · exact .inl hpass
    have hempty : (streamHeaders v.exchange).body = [] := by
      simp [Exchange.body, streamHeaders, Exchange.record, Event.bytes, h.fresh]
    have hnoFault : ∀ n, (streamHeaders v.exchange).fault n = none := h.noFault
    have hresponse : (v.served rt router
        (bodyBytes (Chat.request api model messages line))).body =
          (streamHeaders v.exchange).body ++ bs := by
      rw [hserved]
      refine response_of_firstRelay rt (.inl rfl) hnoFault hfirst htranslator h.eof ?_ _
      exact hwhole
    rw [hresponse, hempty, List.nil_append]

/-- What the session makes of the response depends on the chunks in its text. -/
theorem Passes.heard {body : Bytes} (h : v.Passes rt router model body) {chunks : List Json}
    {rest : Option (List Char)}
    (hdrain : drain (TextDecoder.decode {} (v.served rt router body).body).1 = (chunks, rest))
    (hrest : rest.elim [] flushTrailing = []) {js : JsRuntime} {a : String}
    (hcollect : Chat.collect js chunks = .ok a) :
    Chat.reply js (chatCompletionStream js (.ok v.seen)) = .ok a ∨
      ∃ err, v.broken = some err ∧
        Chat.reply js (chatCompletionStream js (.ok v.seen)) = .error err := by
  have hassert : assertOk js { statusCode := v.reply.status } none = .ok () := by
    simp [assertOk, h.status]
  rw [← h.cut, TextDecoder.decode_append] at hdrain
  cases hbroken : v.broken with
  | none =>
      refine .inl ?_
      have hparse : (parseSseChunks (v.pieces.map Piece.bytes)).chunks = chunks := by
        rw [h.whole hbroken] at hdrain
        have hdrain : drain (TextDecoder.decode {} v.pieces.flatten).1 = (chunks, rest) := by
          simpa [TextDecoder.decode] using hdrain
        rw [parseSseChunks_eq, bodyText_bytes, hdrain]
        cases rest with
        | none => rfl
        | some buffer => exact (congrArg (chunks ++ ·) hrest).trans (List.append_nil _)
      have hstream : chatCompletionStream js (.ok v.seen) =
          { chunks := chunks, thrown := none } := by
        simp [chatCompletionStream, seen, hassert, hbroken, hparse]
      rw [hstream, Chat.reply, hcollect]
      rfl
  | some err =>
      rcases drain_of_prefix hdrain with ⟨hbegin, hdone⟩
      rcases collect_of_prefix hbegin hcollect with ⟨a', ha'⟩
      have hread := readBroken_eq (v.pieces.map Piece.bytes) {} (drain_of_none takeEvent_nil)
      rw [List.nil_append, bodyText_bytes] at hread
      cases hmark : (drain (TextDecoder.decode {} v.pieces.flatten).1).2.isNone with
      | true =>
          refine .inl ?_
          have hstream : chatCompletionStream js (.ok v.seen) =
              { chunks := chunks, thrown := none } := by
            simp [chatCompletionStream, seen, hassert, hbroken, hread, hmark, hdone hmark]
          rw [hstream, Chat.reply, hcollect]
          rfl
      | false =>
          refine .inr ⟨err, rfl, ?_⟩
          have hstream : chatCompletionStream js (.ok v.seen) =
              { chunks := (drain (TextDecoder.decode {} v.pieces.flatten).1).1
                thrown := some err } := by
            simp [chatCompletionStream, seen, hassert, hbroken, hread, hmark]
          rw [hstream, Chat.reply, ha']
          rfl

theorem adapter_of_prepare {attempt : Attempt} {body : Bytes} {target : Target}
    {a : ProviderAdapter} {o : Outbound} (hprovider : target.provider = "anthropic")
    (hprep : (newProxy rt router).prepare attempt body target = .ok (a, o)) : a = anthropic rt := by
  have hstandard : standardAdapters rt target.provider = some a :=
    (Proxy.prepare_eq_ok_iff.1 hprep).1
  rw [standardAdapters, if_pos hprovider] at hstandard
  exact (Option.some.inj hstandard).symm

/-- What Anthropic is sent of a question. -/
theorem body_of_prepare {attempt : Attempt} {target : Target} {a : ProviderAdapter} {o : Outbound}
    (hprovider : target.provider = "anthropic")
    (hprep : (newProxy rt router).prepare attempt
      (bodyBytes (Chat.request api model messages line)) target = .ok (a, o)) :
    o.body = marshal (toAnthropic target.model (decodedRequest model
      (messages ++ [{ role := .user, content := String.ofList line }]))).tree := by
  obtain rfl := adapter_of_prepare hprovider hprep
  rcases Proxy.prepare_eq_ok_iff.1 hprep with ⟨-, -, -, cfg, upstream, -, hnorm, ho⟩
  have hread : unmarshal {} (decodeOpenAIChatRequest rt)
      (bodyBytes (Chat.request api model messages line)) = some (decodedRequest model
        (messages ++ [{ role := .user, content := String.ofList line }])) := by
    rw [unmarshal, parse_bodyBytes, Option.bind_some, decodeOpenAIChatRequest_asked]
  rcases normalizeRequest_of_decode hread target.model cfg with ⟨upstream', hnorm', hbody'⟩
  cases hnorm.symm.trans hnorm'
  rw [ho, hbody']

/-- Of a passage, the upstream gets the conversation, and the CLI the text of the message, if it
gets any answer. -/
theorem Carries.conveys
    (h : v.Carries rt router model message (bodyBytes (Chat.request api model messages line))) :
    (∃ o, .contact v.position v.target o ∈
          (v.served rt router (bodyBytes (Chat.request api model messages line))).events ∧
        o.body = marshal (toAnthropic v.target.model (decodedRequest model
          (messages ++ [{ role := .user, content := String.ofList line }]))).tree) ∧
      ∀ js, Chat.reply js (chatCompletionStream js (.ok v.seen)) = .ok message.contentText ∨
        ∃ err, v.broken = some err ∧
          Chat.reply js (chatCompletionStream js (.ok v.seen)) = .error err := by
  rcases h.toPasses.relayed with ⟨a, o, hprep, hcontact, hserved⟩
  obtain rfl := adapter_of_prepare h.provider hprep
  refine ⟨⟨o, hcontact, ?_⟩, fun js => ?_⟩
  · exact body_of_prepare h.provider hprep
  · rcases h.arrives with ⟨events, harrives, hreads⟩
    rcases whole_of_arrives rt harrives with ⟨t, ds, hwhole, htext⟩
    have hbody := hserved _ (hreads ▸ hwhole)
    have hdrain : drain (TextDecoder.decode {} (v.served rt router
        (bodyBytes (Chat.request api model messages line))).body).1 =
          (ds.map t.deltaTree, none) := by
      rw [hbody, decode_frames, drain_frames]
    have hcollect : Chat.collect js (ds.map t.deltaTree) = .ok message.contentText := by
      rw [collect_deltaTrees, htext]
    exact h.toPasses.heard hdrain rfl hcollect

end Passage

/-! ## A whole session -/

section Session

variable (js : JsRuntime) (api : ApiClient) (model : String) (system : Option String)
  (passages : ℕ → Passage) (carries : ℕ → Bytes → Prop) (answers : ℕ → String)

/-- Every question of a session goes through a passage, that of the `i`-th round through the `i`-th,
and the CLI reads what comes back. -/
def Looped (rounds : List Chat.Round) : Prop :=
  ∀ past r rest, rounds = past ++ r :: rest → ∀ line, Chat.question r = some line →
    carries past.length (bodyBytes (Chat.request api model (Chat.history js system past) line)) ∧
      r.fetched = .ok (passages past.length).seen

/-- A question that is carried gets its answer, or none at all. -/
def Answered : Prop :=
  ∀ i messages line, carries i (bodyBytes (Chat.request api model messages line)) →
    Chat.reply js (chatCompletionStream js (.ok (passages i).seen)) = .ok (answers i) ∨
      ∃ err, Chat.reply js (chatCompletionStream js (.ok (passages i).seen)) = .error err

/-- The system prompt that is in force after some rounds. -/
def promptAfter (rounds : List Chat.Round) : String :=
  if rounds.any Chat.clears then "" else system.getD ""

/-- A line of the user and its answer. -/
def exchanged (r : Chat.Round) (i : ℕ) : List ChatMessage :=
  match Chat.question r with
  | some line =>
      [{ role := .user, content := String.ofList line },
        { role := .assistant, content := answers i }]
  | none => []

/-- What was said since the last `/clear`. -/
def dialogue (rounds : List Chat.Round) : List ChatMessage :=
  (rounds.zipIdx.rtakeWhile fun r => !Chat.clears r.1).flatMap fun r => exchanged answers r.1 r.2

/-- The messages after some rounds: the prompt and the dialogue. -/
def spoken (rounds : List Chat.Round) : List ChatMessage :=
  (if promptAfter system rounds = "" then []
    else [{ role := .system, content := promptAfter system rounds }]) ++ dialogue answers rounds

theorem dialogue_concat (rounds : List Chat.Round) (r : Chat.Round) :
    dialogue answers (rounds ++ [r]) =
      if Chat.clears r then []
      else dialogue answers rounds ++ exchanged answers r rounds.length := by
  have hzip : (rounds ++ [r]).zipIdx = rounds.zipIdx ++ [(r, rounds.length)] := by
    simp [List.zipIdx_append]
  by_cases hclears : Chat.clears r = true
  · have hnone : (rounds.zipIdx ++ [(r, rounds.length)]).rtakeWhile
        (fun r => !Chat.clears r.1) = [] :=
      List.rtakeWhile_concat_neg _ _ _ (by simp [hclears])
    simp [dialogue, hzip, hnone, hclears]
  · have hmore : (rounds.zipIdx ++ [(r, rounds.length)]).rtakeWhile
        (fun r => !Chat.clears r.1) =
        rounds.zipIdx.rtakeWhile (fun r => !Chat.clears r.1) ++ [(r, rounds.length)] :=
      List.rtakeWhile_concat_pos _ _ _ (by simp [hclears])
    simp [dialogue, hzip, hmore, hclears]

theorem role_of_dialogue (rounds : List Chat.Round) :
    ∀ m ∈ dialogue answers rounds, m.role ≠ .system := by
  intro m hm
  rcases List.mem_flatMap.1 hm with ⟨⟨r, i⟩, -, hm⟩
  simp only [exchanged] at hm
  split at hm
  · rcases List.mem_pair.1 hm with rfl | rfl
    · exact Role.noConfusion
    · exact Role.noConfusion
  · cases hm

variable {js api model system passages carries answers}

/-- The turn of a round that gets its answer. -/
theorem turn_of_looped {past rest : List Chat.Round} {r : Chat.Round}
    (h : Looped js api model system passages carries (past ++ r :: rest))
    (hcarries : Answered js api model passages carries answers)
    (hanswered : (Chat.question r).isSome → ∃ a, Chat.answer js r = .ok a) :
    Chat.turn js r = exchanged answers r past.length := by
  cases hquestion : Chat.question r with
  | none => simp [Chat.turn, exchanged, hquestion]
  | some line =>
      rcases h past r rest rfl line hquestion with ⟨hcarried, hfetched⟩
      have hanswer : Chat.answer js r = .ok (answers past.length) := by
        rcases hanswered (by rw [hquestion]; rfl) with ⟨a, ha⟩
        rw [Chat.answer, hfetched] at ha ⊢
        rcases hcarries _ _ _ hcarried with hok | ⟨err, herr⟩
        · exact hok
        · rw [herr] at ha
          cases ha
      simp [Chat.turn, exchanged, hquestion, hanswer]

/-- The session's messages are what was spoken. -/
theorem history_of_looped {past rest : List Chat.Round}
    (h : Looped js api model system passages carries (past ++ rest))
    (hcarries : Answered js api model passages carries answers)
    (hanswered : ∀ r ∈ past, (Chat.question r).isSome → ∃ a, Chat.answer js r = .ok a) :
    Chat.history js system past = spoken system answers past := by
  induction past using List.reverseRecOn generalizing rest with
  | nil =>
      cases system with
      | none => rfl
      | some prompt => simp [Chat.history, Chat.start, spoken, promptAfter, dialogue]
  | append_singleton past r ih =>
      rw [List.append_assoc] at h
      rcases List.forall_mem_append.1 hanswered with ⟨hpast, hlast⟩
      by_cases hclears : Chat.clears r = true
      · simp [Chat.history_concat, spoken, dialogue_concat, promptAfter, hclears]
      · have hprompt : promptAfter system (past ++ [r]) = promptAfter system past := by
          simp [promptAfter, hclears]
        rw [Chat.history_concat, spoken, dialogue_concat, if_neg hclears, if_neg hclears, hprompt,
          ih h hpast, turn_of_looped h hcarries (hlast r List.mem_cons_self), spoken,
          List.append_assoc]

/-- Every request of a looped session asks its line of what was spoken before, and a session that
reads on holds what was spoken. -/
theorem spoken_of_run {rounds : List Chat.Round} {s : Chat.Session}
    (hrun : exec (Chat.step js api model) (Chat.start system) rounds = some s)
    (hlooped : Looped js api model system passages carries rounds)
    (hcarries : Answered js api model passages carries answers) :
    List.Forall₂
        (fun (req : HttpRequest) (asking : List Char × List Chat.Round) =>
          req = Chat.request api model (spoken system answers asking.2) asking.1 ∧
            carries asking.2.length (bodyBytes req))
        s.sent (Chat.marked Chat.question [] rounds) ∧
      (s.phase = .reading → s.messages = spoken system answers rounds) := by
  have hrecorded := Chat.recorded_of_run js api model hrun
  constructor
  · rw [hrecorded.sent, Chat.requests, List.forall₂_map_left_iff]
    refine List.forall₂_same.2 ?_
    rintro ⟨line, past⟩ hmem
    rcases Chat.mem_marked hmem with ⟨mid, r, rest, rfl, hpast, hquestion⟩
    rw [List.nil_append] at hpast
    subst hpast
    -- The session has read on, so all the questions before have had their answers.
    rcases exec_append.1 hrun with ⟨s₁, hbefore, hafter⟩
    rcases exec_cons.1 hafter with ⟨s₂, hstep, -⟩
    have hanswered := Chat.answered_of_reading js api model hbefore
      (Chat.effect_of_step js api model hstep).1
    exact ⟨congrArg (Chat.request api model · line) (history_of_looped hlooped hcarries hanswered),
      (hlooped past r rest rfl line hquestion).1⟩
  · intro hreading
    rw [hrecorded.messages hreading]
    have hlooped' : Looped js api model system passages carries (rounds ++ []) := by
      rwa [List.append_nil]
    exact history_of_looped hlooped' hcarries
      (Chat.answered_of_reading js api model hrun hreading)

end Session

/-! ## Anthropic at the other end -/

/-- The upstream of a session that is carried to Anthropic is sent, with every question, the lines
since the last `/clear`, each followed by the whole text of its own answer, under the system prompt
while nothing has been cleared; and a session that reads on holds the same conversation.  This is so
even if connections are lost in the middle of a stream. -/
theorem conveyed_of_run {js : JsRuntime} {rt : Runtime} {router : Router} {api : ApiClient}
    {model : String} {system : Option String} {passages : ℕ → Passage}
    {told : ℕ → AnthropicMessagesResponse} {rounds : List Chat.Round} {s : Chat.Session}
    (hrun : exec (Chat.step js api model) (Chat.start system) rounds = some s)
    (hlooped : Looped js api model system passages
      (fun i => (passages i).Carries rt router model (told i)) rounds) :
    List.Forall₂
        (fun (req : HttpRequest) (asking : List Char × List Chat.Round) =>
          let v := passages asking.2.length
          ∃ o, .contact v.position v.target o ∈ (v.served rt router (bodyBytes req)).events ∧
            parse (decode o.body) =
              some (conveyed v.target.model (promptAfter system asking.2)
                (dialogue (fun i => (told i).contentText) asking.2 ++
                  [{ role := .user, content := String.ofList asking.1 }])).tree)
        s.sent (Chat.marked Chat.question [] rounds) ∧
      (s.phase = .reading →
        s.messages = spoken system (fun i => (told i).contentText) rounds) := by
  have hcarries : Answered js api model passages
      (fun i => (passages i).Carries rt router model (told i)) fun i => (told i).contentText :=
    fun i messages line h => (h.conveys.2 js).imp_right fun ⟨err, _, herr⟩ => ⟨err, herr⟩
  rcases spoken_of_run hrun hlooped hcarries with ⟨hsent, hmessages⟩
  refine ⟨hsent.imp ?_, hmessages⟩
  rintro req ⟨line, past⟩ ⟨rfl, hcarried⟩
  rcases hcarried.conveys.1 with ⟨o, hcontact, hbody⟩
  refine ⟨o, hcontact, ?_⟩
  have hturns : ∀ m ∈ dialogue (fun i => (told i).contentText) past ++
      [({ role := .user, content := String.ofList line } : ChatMessage)], m.role ≠ .system := by
    intro m hm
    rcases List.mem_append.1 hm with hm | hm
    · exact role_of_dialogue _ past m hm
    · rw [List.mem_singleton.1 hm]
      exact Role.noConfusion
  rw [hbody, parse_marshal, spoken, List.append_assoc, toAnthropic_asked rfl hturns]

/-! ### Three questions -/

def briefly : List ChatMessage :=
  [{ role := .system, content := "Be brief." }]

/-- A line and its answer. -/
def said (line answer : String) : List ChatMessage :=
  [{ role := .user, content := line }, { role := .assistant, content := answer }]

def localRequest (messages : List ChatMessage) (line : String) : HttpRequest :=
  Chat.request Chat.localApi "claude-4" messages line.toList

def claude : Target where
  provider := "anthropic"
  model := "claude-4"

def replying (reply : Reply) : Surroundings where
  attempts := fun _ => { reply := .ok reply }
  cacheGet := fun _ => .ok none

/-- The response to a request. -/
def responseTo (reply : Reply) (req : HttpRequest) : Bytes :=
  ((newProxy plainRuntime anthropicOnly).create (replying reply)
    { body := { bytes := bodyBytes req } } quiet).body

/-- The response comes in two pieces. -/
def passageOf (reply : Reply) (req : HttpRequest) : Passage where
  surroundings := replying reply
  exchange := quiet
  position := 0
  target := claude
  reply := reply
  pieces := [(responseTo reply req).take 100, (responseTo reply req).drop 100]

section ThreeQuestions

variable {reply : Reply} {messages : List ChatMessage} {line : String}

/-- A reply that counts as an answer is passed on. -/
theorem firstRelay_passageOf
    (hanswer : ({ reply := .ok reply } : Attempt).answer plainRuntime = .ok reply) :
    (newProxy plainRuntime anthropicOnly).firstRelay (fun _ => { reply := .ok reply })
        (bodyBytes (localRequest messages line)) 0 [claude] =
      some (0, anthropic plainRuntime, reply, []) := by
  have hread : unmarshal {} (decodeOpenAIChatRequest plainRuntime)
      (bodyBytes (localRequest messages line)) = some (decodedRequest "claude-4"
        (messages ++ [{ role := .user, content := String.ofList line.toList }])) := by
    rw [unmarshal, localRequest, parse_bodyBytes, Option.bind_some, decodeOpenAIChatRequest_asked]
  have hprep : ∃ o, (newProxy plainRuntime anthropicOnly).prepare { reply := .ok reply }
      (bodyBytes (localRequest messages line)) claude = .ok (anthropic plainRuntime, o) := by
    rcases Option.isSome_iff_exists.1
      (by decide : (anthropicOnly.provider "anthropic").isSome = true) with ⟨cfg, hcfg⟩
    rcases normalizeRequest_of_decode hread claude.model cfg with ⟨upstream, hupstream, -⟩
    exact ⟨_, Proxy.prepare_eq_ok_iff.2
      ⟨rfl, rfl, rfl, cfg, upstream, hcfg, hupstream, rfl⟩⟩
  rcases hprep with ⟨o, hprep⟩
  have hpassed : ({ reply := .ok reply } : Attempt).answer
      (newProxy plainRuntime anthropicOnly).runtime = .ok reply := hanswer
  simp only [Proxy.firstRelay, hprep, hpassed]

theorem passes_passageOf
    (hanswer : ({ reply := .ok reply } : Attempt).answer plainRuntime = .ok reply)
    (hstatus : 200 ≤ reply.status ∧ reply.status < 300) (heof : reply.readError = none)
    (hsize : (bodyBytes (localRequest messages line)).length ≤ chatBodyLimit) :
    (passageOf reply (localRequest messages line)).Passes plainRuntime anthropicOnly "claude-4"
      (bodyBytes (localRequest messages line)) where
  named := by decide
  size := hsize
  fresh := rfl
  noFault := fun _ => rfl
  chain := ⟨claude, [], anthropic plainRuntime, [], rfl, rfl, firstRelay_passageOf hanswer⟩
  status := hstatus
  eof := heof
  cut := by
    have hcut : (passageOf reply (localRequest messages line)).pieces.flatten =
        responseTo reply (localRequest messages line) := by
      simp only [passageOf, List.flatten_cons, List.flatten_nil, List.append_nil,
        List.take_append_drop]
    exact (List.append_nil _).trans hcut
  whole := fun _ => rfl

/-- A round that asks, and gets the reply. -/
def askedRound (reply : Reply) (messages : List ChatMessage) (line : String) : Chat.Round where
  input := .line line.toList
  fetched := .ok (passageOf reply (localRequest messages line)).seen

theorem step_askedRound {s : Chat.Session} {answer : String} (hreading : s.phase = .reading)
    (hquestion : Chat.question (askedRound reply messages line) = some line.toList)
    (hanswer : Chat.answer Chat.plainJs (askedRound reply messages line) = .ok answer) :
    Chat.step Chat.plainJs Chat.localApi "claude-4" s (askedRound reply messages line) =
        some { s with
          messages := s.messages ++ said line answer
          sent := s.sent ++ [localRequest s.messages line] } ∧
      Chat.turn Chat.plainJs (askedRound reply messages line) = said line answer := by
  have hturn : Chat.turn Chat.plainJs (askedRound reply messages line) = said line answer := by
    simp only [Chat.turn, hquestion, hanswer, said, String.ofList_toList]
  refine ⟨?_, hturn⟩
  simp only [Chat.question, askedRound] at hquestion
  split at hquestion
  · cases hquestion
  · rename_i hline
    rcases not_or.1 hline with ⟨hempty, hslash⟩
    have htrim := Option.some.inj hquestion
    simp only [Chat.answer, askedRound, localRequest] at hanswer
    rw [htrim] at hempty hslash
    simp only [Chat.step, hreading, askedRound, htrim, if_neg hempty, if_neg hslash, Chat.ask,
      hanswer, said, localRequest, String.ofList_toList, List.append_assoc, List.cons_append,
      List.nil_append]

/-- The questions, each to what was said since the last `/clear`. -/
def questions (answer : String) : List (List ChatMessage × String) :=
  [(briefly, "Hi"), (briefly ++ said "Hi" answer, "Why?"), ([], "Bye")]

/-- The second question comes behind the first, the third behind `/clear`. -/
def threeRounds (reply : Reply) (answer : String) : List Chat.Round :=
  [askedRound reply briefly "Hi", askedRound reply (briefly ++ said "Hi" answer) "Why?",
    Chat.typed "/clear", askedRound reply [] "Bye"]

/-- The passage of each round. -/
def threePassages (reply : Reply) (answer : String) : ℕ → Passage
  | 0 => passageOf reply (localRequest briefly "Hi")
  | 1 => passageOf reply (localRequest (briefly ++ said "Hi" answer) "Why?")
  | _ => passageOf reply (localRequest [] "Bye")

/-- The CLI reads the same answer of every question. -/
def Heard (reply : Reply) (answer : String) : Prop :=
  ∀ q ∈ questions answer, Chat.answer Chat.plainJs (askedRound reply q.1 q.2) = .ok answer

variable {answer : String}

theorem exec_threeRounds (h : Heard reply answer) :
    exec (Chat.step Chat.plainJs Chat.localApi "claude-4") (Chat.start (some "Be brief."))
        (threeRounds reply answer) =
      some
        { messages := said "Bye" answer
          sent := (questions answer).map fun q => localRequest q.1 q.2 } := by
  simp only [Heard, questions, List.forall_mem_cons] at h
  rcases h with ⟨hfirst, hsecond, hthird, -⟩
  have hstart : Chat.start (some "Be brief.") = { messages := briefly } := rfl
  have hclear : ∀ s : Chat.Session, s.phase = .reading →
      Chat.step Chat.plainJs Chat.localApi "claude-4" s (Chat.typed "/clear") =
        some { s with messages := [] } := by
    rintro ⟨messages, sent, saved, phase⟩ hreading
    cases hreading
    rfl
  rw [hstart]
  refine exec_cons.2 ⟨_, (step_askedRound rfl rfl hfirst).1, ?_⟩
  refine exec_cons.2 ⟨_, (step_askedRound rfl rfl hsecond).1, ?_⟩
  refine exec_cons.2 ⟨_, hclear _ rfl, ?_⟩
  refine exec_cons.2 ⟨_, (step_askedRound rfl rfl hthird).1, ?_⟩
  rfl

/-- What the rounds before each question have said is what the question is asked after. -/
theorem looped_threeRounds (h : Heard reply answer) {carries : ℕ → Bytes → Prop}
    (hfirst : carries 0 (bodyBytes (localRequest briefly "Hi")))
    (hsecond : carries 1 (bodyBytes (localRequest (briefly ++ said "Hi" answer) "Why?")))
    (hthird : carries 3 (bodyBytes (localRequest [] "Bye"))) :
    Looped Chat.plainJs Chat.localApi "claude-4" (some "Be brief.") (threePassages reply answer)
      carries (threeRounds reply answer) := by
  have hheard : Chat.answer Chat.plainJs (askedRound reply briefly "Hi") = .ok answer :=
    h (briefly, "Hi") List.mem_cons_self
  have hturn : Chat.turn Chat.plainJs (askedRound reply briefly "Hi") = said "Hi" answer :=
    (step_askedRound (s := { messages := briefly }) rfl rfl hheard).2
  have hbefore : Chat.history Chat.plainJs (some "Be brief.") [askedRound reply briefly "Hi"] =
      briefly ++ said "Hi" answer := by
    rw [← hturn]
    exact Chat.history_concat Chat.plainJs (some "Be brief.") [] _
  have hcleared : Chat.history Chat.plainJs (some "Be brief.") ([askedRound reply briefly "Hi",
      askedRound reply (briefly ++ said "Hi" answer) "Why?"] ++ [Chat.typed "/clear"]) = [] :=
    Chat.history_concat Chat.plainJs (some "Be brief.") _ _
  intro past r rest hrounds line hquestion
  rcases past with - | ⟨r₀, - | ⟨r₁, - | ⟨r₂, - | ⟨r₃, past⟩⟩⟩⟩
  · cases hrounds
    cases hquestion
    exact ⟨hfirst, rfl⟩
  · cases hrounds
    cases hquestion
    rw [hbefore]
    exact ⟨hsecond, rfl⟩
  · cases hrounds
    cases hquestion
  · cases hrounds
    cases hquestion
    refine ⟨?_, rfl⟩
    rw [List.cons_append, List.cons_append, List.nil_append] at hcleared
    rw [hcleared]
    exact hthird
  · cases past <;> cases hrounds

end ThreeQuestions

def helloReply : Reply where
  status := 200
  contentType := "text/event-stream"
  reads := [toolCallEvents.flatMap ServerEvent.bytes]

theorem carries_passageOf {messages : List ChatMessage} {line : String}
    (hsize : (bodyBytes (localRequest messages line)).length ≤ chatBodyLimit) :
    (passageOf helloReply (localRequest messages line)).Carries plainRuntime anthropicOnly
      "claude-4" toolCallMessage (bodyBytes (localRequest messages line)) where
  toPasses := passes_passageOf rfl (by decide) rfl hsize
  provider := rfl
  arrives := ⟨toolCallEvents, toolCallEvents_arrive, by simp [passageOf, helloReply]⟩

theorem size_of_questions : ∀ q ∈ questions "Hello",
    (bodyBytes (localRequest q.1 q.2)).length ≤ chatBodyLimit := by
  decide +kernel

theorem heard_hello : Heard helloReply "Hello" := by
  intro q hq
  rcases (carries_passageOf (size_of_questions q hq)).conveys.2 Chat.plainJs with
    hanswer | ⟨err, herr, -⟩
  · exact hanswer
  · cases herr

/-- The second question carries the first and its answer; after `/clear` neither they nor the prompt
are sent, and the session holds the last answer alone. -/
theorem conveyed_of_run_hello :
    ∃ s, exec (Chat.step Chat.plainJs Chat.localApi "claude-4") (Chat.start (some "Be brief."))
        (threeRounds helloReply "Hello") = some s ∧
      List.Forall₂
        (fun (req : HttpRequest) (told : ℕ × String × List ChatMessage) =>
          ∃ o, .contact 0 claude o ∈ ((threePassages helloReply "Hello" told.1).served plainRuntime
              anthropicOnly (bodyBytes req)).events ∧
            parse (decode o.body) = some (conveyed "claude-4" told.2.1 told.2.2).tree)
        s.sent
        [(0, "Be brief.", [{ role := .user, content := "Hi" }]),
          (1, "Be brief.", said "Hi" "Hello" ++ [{ role := .user, content := "Why?" }]),
          (3, "", [{ role := .user, content := "Bye" }])] ∧
      s.phase = .reading ∧ s.messages = said "Bye" "Hello" := by
  have hsize := size_of_questions
  simp only [questions, List.forall_mem_cons] at hsize
  rcases hsize with ⟨hfirst, hsecond, hthird, -⟩
  have hlooped : Looped Chat.plainJs Chat.localApi "claude-4" (some "Be brief.")
      (threePassages helloReply "Hello")
      (fun i => (threePassages helloReply "Hello" i).Carries plainRuntime anthropicOnly "claude-4"
        toolCallMessage) (threeRounds helloReply "Hello") :=
    looped_threeRounds heard_hello (carries_passageOf hfirst) (carries_passageOf hsecond)
      (carries_passageOf hthird)
  have hrun := exec_threeRounds heard_hello
  have hconveyed := conveyed_of_run hrun hlooped
  refine ⟨_, hrun, ?_, rfl, hconveyed.2 rfl⟩
  have hmarked : Chat.marked Chat.question [] (threeRounds helloReply "Hello") =
      [("Hi".toList, []), ("Why?".toList, (threeRounds helloReply "Hello").take 1),
        ("Bye".toList, (threeRounds helloReply "Hello").take 3)] := rfl
  have hsent := hconveyed.1
  rw [hmarked] at hsent
  rcases List.forall₂_cons.1 hsent with ⟨hhi, hsent⟩
  rcases List.forall₂_cons.1 hsent with ⟨hwhy, hsent⟩
  rcases List.forall₂_cons.1 hsent with ⟨hbye, -⟩
  exact .cons hhi (.cons hwhy (.cons hbye .nil))

end Wire
end OpenRouter
