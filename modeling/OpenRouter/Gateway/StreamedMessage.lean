import OpenRouter.Gateway.Chunks

/-!
# StreamedMessage — one message, streamed or whole

A message of Anthropic either arrives as one JSON body, which `normalizeResponse` maps, or as a
stream of server-sent events, which the translator parses line by line.  The module writes the
event stream down on its own (`ServerEvent`, `Arrives`), proves what the parser makes of it
(`drain_events`), and compares what a client reads on the two paths (`stream_agrees_with_body`).
-/

namespace OpenRouter
namespace Gateway

open Base

/-! ## Server-sent events -/

/-- The end of a line. -/
def lineEnd (crlf : Bool) : Bytes :=
  if crlf then [13, 10] else [10]

/-- The value of a field behind its colon; the space in front of it is optional. -/
def spaced (space : Bool) (value : Bytes) : Bytes :=
  if space then 32 :: value else value

inductive Field
  | event (space : Bool) (name : Bytes)
  | data (space : Bool) (payload : Bytes)
  | comment (text : Bytes)

namespace Field

def value : Field → Bytes
  | event _ name => name
  | data _ payload => payload
  | comment text => text

/-- No line ends inside a value, and a space that belongs to a value has the optional one in front
of it. -/
def Valid (f : Field) : Prop :=
  (∀ b ∈ f.value, b ≠ 10 ∧ b ≠ 13) ∧
    match f with
    | event space value | data space value => space = true ∨ value.head? ≠ some 32
    | comment _ => True

instance (f : Field) : Decidable f.Valid :=
  match f with
  | event _ _ | data _ _ | comment _ => inferInstanceAs (Decidable (_ ∧ _))

def bytes : Field → Bytes
  | event space name => bytesOf "event:" ++ spaced space name
  | data space payload => bytesOf "data:" ++ spaced space payload
  | comment text => bytesOf ":" ++ text

/-- The name of the event, from the last field that gives one. -/
def nameAfter (name : Bytes) : Field → Bytes
  | event _ name' => name'
  | _ => name

/-- The lines of the payload are joined by line feeds; empty lines in front of it are white space
to JSON, and left out. -/
def dataAfter (data : Bytes) : Field → Bytes
  | .data _ payload => (if data = [] then [] else data ++ [10]) ++ payload
  | _ => data

end Field

structure Line where
  field : Field
  crlf : Bool
  valid : field.Valid

def Line.bytes (l : Line) : Bytes :=
  l.field.bytes ++ lineEnd l.crlf

/-- Some lines and a blank one. -/
structure ServerEvent where
  lines : List Line
  crlf : Bool

namespace ServerEvent

def bytes (e : ServerEvent) : Bytes :=
  e.lines.flatMap Line.bytes ++ lineEnd e.crlf

def name (e : ServerEvent) : Bytes :=
  e.lines.foldl (fun name l => l.field.nameAfter name) []

def data (e : ServerEvent) : Bytes :=
  e.lines.foldl (fun data l => l.field.dataAfter data) []

end ServerEvent

/-! ## The parser on such lines -/

theorem takeLine_of_clean {bs : Bytes} (h : ∀ b ∈ bs, b ≠ 10) (rest : Bytes) :
    takeLine (bs ++ 10 :: rest) = some (bs, rest) := by
  induction bs with
  | nil => rfl
  | cons b bs ih =>
      have hb : b ≠ 10 := h b List.mem_cons_self
      have hbs := ih fun b' hb' => h b' (List.mem_cons_of_mem _ hb')
      simp [takeLine, hb, hbs]

theorem takeLine_lineEnd {bs : Bytes} (h : ∀ b ∈ bs, b ≠ 10 ∧ b ≠ 13) (crlf : Bool)
    (rest : Bytes) :
    ∃ raw, takeLine (bs ++ lineEnd crlf ++ rest) = some (raw, rest) ∧ trimCR raw = bs := by
  cases crlf with
  | false =>
      refine ⟨bs, ?_, ?_⟩
      · simpa [lineEnd] using takeLine_of_clean (fun b hb => (h b hb).1) rest
      · have hlast : bs.getLast? ≠ some 13 := fun hlast =>
          (h 13 (List.mem_of_getLast? hlast)).2 rfl
        simp [trimCR, hlast]
  | true =>
      refine ⟨bs ++ [13], ?_, by simp [trimCR]⟩
      have hclean : ∀ b ∈ bs ++ [13], b ≠ 10 := by
        intro b hb
        rcases List.mem_append.1 hb with hb | hb
        · exact (h b hb).1
        · rw [List.mem_singleton.1 hb]
          decide
      simpa [lineEnd] using takeLine_of_clean hclean rest

theorem trimSpacePrefix_spaced {space : Bool} {value : Bytes}
    (h : space = true ∨ value.head? ≠ some 32) : trimSpacePrefix (spaced space value) = value := by
  cases space with
  | true => rfl
  | false =>
      have hhead : value.head? ≠ some 32 := h.resolve_left Bool.false_ne_true
      cases value with
      | nil => rfl
      | cons b bs =>
          have hb : b ≠ 32 := fun hb => hhead (congrArg some hb)
          simp [spaced, trimSpacePrefix, hb]

theorem bytesOf_event : bytesOf "event:" = [101, 118, 101, 110, 116, 58] := by
  decide +kernel

theorem bytesOf_data : bytesOf "data:" = [100, 97, 116, 97, 58] := by
  decide +kernel

theorem bytesOf_colon : bytesOf ":" = [58] := by
  decide +kernel

theorem Field.bytes_clean {f : Field} (h : f.Valid) : ∀ b ∈ f.bytes, b ≠ 10 ∧ b ≠ 13 := by
  have hspaced : ∀ (space : Bool) (value : Bytes), (∀ b ∈ value, b ≠ 10 ∧ b ≠ 13) →
      ∀ b ∈ spaced space value, b ≠ 10 ∧ b ≠ 13 := by
    intro space value hvalue b hb
    cases space with
    | false => exact hvalue b hb
    | true =>
        rcases List.mem_cons.1 hb with rfl | hb
        · decide
        · exact hvalue b hb
  have happend : ∀ {as bs : Bytes}, (∀ b ∈ as, b ≠ 10 ∧ b ≠ 13) → (∀ b ∈ bs, b ≠ 10 ∧ b ≠ 13) →
      ∀ b ∈ as ++ bs, b ≠ 10 ∧ b ≠ 13 :=
    fun has hbs b hb => (List.mem_append.1 hb).elim (has b) (hbs b)
  cases f with
  | event space name =>
      apply happend _ (hspaced space name h.1)
      simp [bytesOf_event]
  | data space payload =>
      apply happend _ (hspaced space payload h.1)
      simp [bytesOf_data]
  | comment text =>
      apply happend _ h.1
      simp [bytesOf_colon]

theorem Field.bytes_ne_nil (f : Field) : f.bytes ≠ [] := by
  cases f <;> simp [Field.bytes, bytesOf_event, bytesOf_data, bytesOf_colon]

namespace AnthropicStream

variable {rt : Runtime}

/-- The parser between two lines of an event. -/
def withEvent (t : AnthropicStream) (name data : Bytes) : AnthropicStream :=
  { t with currentEvent := name, currentData := data }

/-- A field is read as it was written. -/
theorem consumeLine_field (t : AnthropicStream) (name data : Bytes) {f : Field} (h : f.Valid) :
    (t.withEvent name data).consumeLine f.bytes =
      t.withEvent (f.nameAfter name) (f.dataAfter data) := by
  cases f with
  | event space value =>
      have hevent : stripLinePrefix (bytesOf "event:" ++ spaced space value) "event:" =
          some (spaced space value) := by
        simp [stripLinePrefix]
      simp [Field.bytes, consumeLine, hevent, trimSpacePrefix_spaced h.2, withEvent,
        Field.nameAfter, Field.dataAfter]
  | data space value =>
      have hevent : stripLinePrefix (bytesOf "data:" ++ spaced space value) "event:" = none := by
        simp [stripLinePrefix, bytesOf_event, bytesOf_data]
      have hdata : stripLinePrefix (bytesOf "data:" ++ spaced space value) "data:" =
          some (spaced space value) := by
        simp [stripLinePrefix]
      by_cases hempty : data = [] <;>
        simp [Field.bytes, consumeLine, hevent, hdata, trimSpacePrefix_spaced h.2, withEvent,
          Field.nameAfter, Field.dataAfter, hempty]
  | comment text =>
      have hevent : stripLinePrefix (bytesOf ":" ++ text) "event:" = none := by
        simp [stripLinePrefix, bytesOf_event, bytesOf_colon]
      have hdata : stripLinePrefix (bytesOf ":" ++ text) "data:" = none := by
        simp [stripLinePrefix, bytesOf_data, bytesOf_colon]
      simp [Field.bytes, consumeLine, hevent, hdata, Field.nameAfter, Field.dataAfter]

theorem drain_lines (rt : Runtime) (t : AnthropicStream) (name data : Bytes) (lines : List Line)
    (rest : Bytes) :
    ((t.withEvent name data).setBuf (lines.flatMap Line.bytes ++ rest)).drain rt =
      ((t.withEvent (lines.foldl (fun name l => l.field.nameAfter name) name)
        (lines.foldl (fun data l => l.field.dataAfter data) data)).setBuf rest).drain rt := by
  induction lines generalizing name data with
  | nil => rfl
  | cons l lines ih =>
      rcases takeLine_lineEnd (Field.bytes_clean l.valid) l.crlf (lines.flatMap Line.bytes ++ rest)
        with ⟨raw, hline, htrim⟩
      have hbuf : takeLine ((t.withEvent name data).setBuf
          ((l :: lines).flatMap Line.bytes ++ rest)).lineBuf =
          some (raw, lines.flatMap Line.bytes ++ rest) := by
        simpa [Line.bytes] using hline
      have hraw : trimCR raw ≠ [] := by
        rw [htrim]
        exact l.field.bytes_ne_nil
      rw [drain_of_line hbuf hraw, setBuf_setBuf, htrim, consumeLine_setBuf,
        consumeLine_field t name data l.valid, ih]
      rfl

/-- The lines of an event set its name and its payload, and the blank line dispatches it. -/
theorem drain_event (rt : Runtime) (t : AnthropicStream) (e : ServerEvent) (rest : Bytes) :
    ((t.withEvent [] []).setBuf (e.bytes ++ rest)).drain rt =
      andThen (((t.withEvent e.name e.data).setBuf rest).dispatch rt)
        fun t' => t'.reset.drain rt := by
  have hnil : ∀ b ∈ ([] : Bytes), b ≠ 10 ∧ b ≠ 13 := fun b hb => absurd hb List.not_mem_nil
  rcases takeLine_lineEnd hnil e.crlf rest with ⟨raw, hline, htrim⟩
  rw [List.nil_append] at hline
  rw [ServerEvent.bytes, List.append_assoc, drain_lines]
  exact drain_of_blank hline htrim

end AnthropicStream

/-! ## A message as events -/

/-- What an event of the stream says. -/
inductive Kind
  | messageStart (id model : String)
  | contentBlockStart
  | textDelta (text : String)
  | contentBlockStop
  | messageDelta (stopReason : String)
  | messageStop
  | other
  deriving DecidableEq

/-- Pings, unknown events, comments between blank lines, and deltas that are no text. -/
def ServerEvent.IsOther (e : ServerEvent) : Prop :=
  e.name = [] ∨ e.data = [] ∨
    (e.name = bytesOf "content_block_delta" ∧
      ∃ ev, unmarshal {} decodeContentBlockDelta e.data = some ev ∧ ev.type ≠ "text_delta") ∨
    (e.name ≠ bytesOf "message_start" ∧ e.name ≠ bytesOf "content_block_delta" ∧
      e.name ≠ bytesOf "message_delta" ∧ e.name ≠ bytesOf "error")

/-- What the payload of an event with the given name reads as. -/
def ServerEvent.Says (e : ServerEvent) : Kind → Prop
  | .messageStart id model =>
      e.name = bytesOf "message_start" ∧
        unmarshal {} decodeMessageStart e.data = some { id := id, model := model }
  | .contentBlockStart => e.name = bytesOf "content_block_start"
  | .textDelta text =>
      e.name = bytesOf "content_block_delta" ∧
        ∃ ev, unmarshal {} decodeContentBlockDelta e.data = some ev ∧ ev.type = "text_delta" ∧
          ev.text = text
  | .contentBlockStop => e.name = bytesOf "content_block_stop"
  | .messageDelta stopReason =>
      e.name = bytesOf "message_delta" ∧ unmarshal "" decodeMessageDelta e.data = some stopReason
  | .messageStop => e.name = bytesOf "message_stop"
  | .other => e.IsOther

/-- The texts that a block is cut into; only a block of text has any. -/
def AnthropicContentItem.CutInto (item : AnthropicContentItem) (texts : List String) : Prop :=
  if item.type = "text" then String.join texts = item.text else texts = []

def blockKinds (texts : List String) : List Kind :=
  .contentBlockStart :: (texts.map .textDelta ++ [.contentBlockStop])

/-- The events are those of the message, block by block, with others anywhere. -/
def Arrives (resp : AnthropicMessagesResponse) (events : List ServerEvent) : Prop :=
  ∃ kinds cuts, List.Forall₂ ServerEvent.Says events kinds ∧
    List.Forall₂ AnthropicContentItem.CutInto resp.content.toList cuts ∧
    kinds.filter (· ≠ .other) =
      .messageStart resp.id resp.model ::
        (cuts.flatMap blockKinds ++ [.messageDelta resp.stopReason, .messageStop])

/-! ## What the translator writes of it -/

/-- The role, the content and the finish reason of a chunk. -/
structure Delta where
  role : String := ""
  content : String := ""
  finishReason : String := ""

namespace Kind

def deltas : Kind → List Delta
  | messageStart _ _ => [{ role := "assistant" }]
  | textDelta text => if text = "" then [] else [{ content := text }]
  | messageDelta stopReason =>
      if stopReason = "" then [] else [{ finishReason := mapAnthropicStopReason stopReason }]
  | _ => []

/-- The translator behind an event. -/
def next (rt : Runtime) (t : AnthropicStream) : Kind → AnthropicStream
  | messageStart id model => { t with id := id, model := model, created := rt.unixNow }
  | _ => t

end Kind

/-- An event of the translated stream. -/
def chunkFrame (j : Json) : Bytes :=
  bytesOf "data: " ++ marshal j ++ bytesOf "\n\n"

namespace AnthropicStream

variable {rt : Runtime}

def deltaTree (t : AnthropicStream) (d : Delta) : Json :=
  t.chunkTree d.role d.content d.finishReason

/-- The chunks for a list of events, each under the id and model of its time. -/
def chunkTrees (rt : Runtime) (t : AnthropicStream) : List Kind → List Json
  | [] => []
  | k :: kinds => k.deltas.map (k.next rt t).deltaTree ++ (k.next rt t).chunkTrees rt kinds

theorem flatten_chunkWrites (t : AnthropicStream) (role content finishReason : String) :
    (t.chunkWrites role content finishReason).flatten =
      chunkFrame (t.chunkTree role content finishReason) := by
  simp [chunkWrites, chunkFrame]

theorem event_names_distinct :
    bytesOf "content_block_delta" ≠ bytesOf "message_start" ∧
      bytesOf "message_delta" ≠ bytesOf "message_start" ∧
      bytesOf "message_delta" ≠ bytesOf "content_block_delta" := by
  decide +kernel

theorem dispatch_messageStart {t : AnthropicStream} (hdata : t.currentData ≠ [])
    (hname : t.currentEvent = bytesOf "message_start") :
    t.dispatch rt = t.handleMessageStart rt := by
  have hne : bytesOf "message_start" ≠ [] := by decide +kernel
  simp [dispatch, hdata, hname, hne]

theorem dispatch_contentBlockDelta {t : AnthropicStream} (hdata : t.currentData ≠ [])
    (hname : t.currentEvent = bytesOf "content_block_delta") :
    t.dispatch rt = t.handleContentBlockDelta rt := by
  have hne : bytesOf "content_block_delta" ≠ [] := by decide +kernel
  simp [dispatch, hdata, hname, hne, event_names_distinct.1]

theorem dispatch_messageDelta {t : AnthropicStream} (hdata : t.currentData ≠ [])
    (hname : t.currentEvent = bytesOf "message_delta") :
    t.dispatch rt = t.handleMessageDelta rt := by
  have hne : bytesOf "message_delta" ≠ [] := by decide +kernel
  simp [dispatch, hdata, hname, hne, event_names_distinct.2.1, event_names_distinct.2.2]

theorem dispatch_of_unhandled {t : AnthropicStream}
    (h : t.currentEvent ≠ bytesOf "message_start" ∧
      t.currentEvent ≠ bytesOf "content_block_delta" ∧
      t.currentEvent ≠ bytesOf "message_delta" ∧ t.currentEvent ≠ bytesOf "error") :
    t.dispatch rt = ([], .ok t) := by
  rcases h with ⟨hstart, hdelta, hmessage, herror⟩
  simp [dispatch, hstart, hdelta, hmessage, herror]

theorem dispatch_of_empty {t : AnthropicStream} (h : t.currentEvent = [] ∨ t.currentData = []) :
    t.dispatch rt = ([], .ok t) := by
  simp [dispatch, h]

end AnthropicStream

theorem ne_nil_of_unmarshal {α : Type} {zero : α} {decoder : Decoder α} {bs : Bytes} {a : α}
    (h : unmarshal zero decoder bs = some a) : bs ≠ [] := by
  rintro rfl
  cases h

namespace AnthropicStream

variable {rt : Runtime}

theorem dispatch_of_other (t : AnthropicStream) {e : ServerEvent} (h : e.IsOther) :
    (t.withEvent e.name e.data).dispatch rt = ([], .ok (t.withEvent e.name e.data)) := by
  rcases h with hname | hdata | ⟨hname, ev, hev, htype⟩ | hunhandled
  · exact dispatch_of_empty (.inl hname)
  · exact dispatch_of_empty (.inr hdata)
  · have hdata : e.data ≠ [] := ne_nil_of_unmarshal hev
    have hread : unmarshal {} decodeContentBlockDelta (t.withEvent e.name e.data).currentData =
        some ev := hev
    rw [dispatch_contentBlockDelta hdata hname]
    simp [handleContentBlockDelta, hread, htype]
  · exact dispatch_of_unhandled hunhandled

/-- A name that `dispatch` has no case for. -/
theorem isOther_of_name {e : ServerEvent} {name : String} (h : e.name = bytesOf name)
    (hname : bytesOf name ≠ bytesOf "message_start" ∧
      bytesOf name ≠ bytesOf "content_block_delta" ∧ bytesOf name ≠ bytesOf "message_delta" ∧
      bytesOf name ≠ bytesOf "error") : e.IsOther := by
  refine .inr (.inr (.inr ?_))
  rw [h]
  exact hname

/-- An event is dispatched to the chunks of what it says. -/
theorem dispatch_of_says (rt : Runtime) (t : AnthropicStream) {e : ServerEvent} {k : Kind}
    (h : e.Says k) :
    ∃ ws, (t.withEvent e.name e.data).dispatch rt =
        (ws, .ok ((k.next rt t).withEvent e.name e.data)) ∧
      ws.flatten = (k.deltas.map (k.next rt t).deltaTree).flatMap chunkFrame := by
  cases k with
  | messageStart id model =>
      rcases h with ⟨hname, hread⟩
      have hdata : e.data ≠ [] := ne_nil_of_unmarshal hread
      have hread' : unmarshal {} decodeMessageStart (t.withEvent e.name e.data).currentData =
          some { id := id, model := model } := hread
      rw [dispatch_messageStart hdata hname]
      refine ⟨_, by simp only [handleMessageStart, hread']; rfl, ?_⟩
      rw [flatten_chunkWrites]
      simp [Kind.deltas, Kind.next, deltaTree, chunkTree]
  | textDelta text =>
      rcases h with ⟨hname, ev, hread, htype, htext⟩
      have hdata : e.data ≠ [] := ne_nil_of_unmarshal hread
      have hread' : unmarshal {} decodeContentBlockDelta (t.withEvent e.name e.data).currentData =
          some ev := hread
      rw [dispatch_contentBlockDelta hdata hname]
      -- A delta without text is skipped, as it says nothing.
      by_cases hempty : text = ""
      · refine ⟨[], ?_, by simp [Kind.deltas, hempty]⟩
        simp [handleContentBlockDelta, hread', htext, hempty, Kind.next]
      · refine ⟨(t.withEvent e.name e.data).chunkWrites "" text "", ?_, ?_⟩
        · simp [handleContentBlockDelta, hread', htype, htext, hempty, Kind.next]
        · rw [flatten_chunkWrites]
          simp [Kind.deltas, hempty, Kind.next, deltaTree, chunkTree, withEvent]
  | messageDelta stopReason =>
      rcases h with ⟨hname, hread⟩
      have hdata : e.data ≠ [] := ne_nil_of_unmarshal hread
      have hread' : unmarshal "" decodeMessageDelta (t.withEvent e.name e.data).currentData =
          some stopReason := hread
      rw [dispatch_messageDelta hdata hname]
      -- The first `message_delta` may have no stop reason yet.
      by_cases hempty : stopReason = ""
      · refine ⟨[], ?_, by simp [Kind.deltas, hempty]⟩
        simp [handleMessageDelta, hread', hempty, Kind.next]
      · refine ⟨(t.withEvent e.name e.data).chunkWrites "" "" (mapAnthropicStopReason stopReason),
          ?_, ?_⟩
        · simp [handleMessageDelta, hread', hempty, Kind.next]
        · rw [flatten_chunkWrites]
          simp [Kind.deltas, hempty, Kind.next, deltaTree, chunkTree, withEvent]
  | contentBlockStart =>
      exact ⟨[], dispatch_of_other t (isOther_of_name h (by decide +kernel)), rfl⟩
  | contentBlockStop =>
      exact ⟨[], dispatch_of_other t (isOther_of_name h (by decide +kernel)), rfl⟩
  | messageStop =>
      exact ⟨[], dispatch_of_other t (isOther_of_name h (by decide +kernel)), rfl⟩
  | other => exact ⟨[], dispatch_of_other t h, rfl⟩

theorem finished_next (rt : Runtime) (t : AnthropicStream) (k : Kind) :
    (k.next rt t).finished = t.finished := by
  cases k <;> rfl

/-- A whole list of events is drained to the chunks of what they say. -/
theorem drain_events (rt : Runtime) (t : AnthropicStream) {events : List ServerEvent}
    {kinds : List Kind} (h : List.Forall₂ ServerEvent.Says events kinds) :
    ∃ ws t', ((t.withEvent [] []).setBuf (events.flatMap ServerEvent.bytes)).drain rt =
        (ws, .ok t') ∧
      ws.flatten = (t.chunkTrees rt kinds).flatMap chunkFrame ∧ t'.finished = t.finished := by
  induction h generalizing t with
  | nil => exact ⟨[], _, drain_of_none rfl, rfl, rfl⟩
  | @cons e k events kinds hsays _ ih =>
      rcases dispatch_of_says rt t hsays with ⟨ws, hdispatch, hws⟩
      rcases ih (k.next rt t) with ⟨ws', t', hdrain, hws', hfinished⟩
      -- The event is dispatched with the rest of the stream still in the buffer.
      have hbuf : ((t.withEvent e.name e.data).setBuf
          (events.flatMap ServerEvent.bytes)).dispatch rt =
          (ws, .ok (((k.next rt t).withEvent e.name e.data).setBuf
            (events.flatMap ServerEvent.bytes))) := by
        rw [dispatch_setBuf, hdispatch]
        simp
      have hreset : (((k.next rt t).withEvent e.name e.data).setBuf
          (events.flatMap ServerEvent.bytes)).reset =
          ((k.next rt t).withEvent [] []).setBuf (events.flatMap ServerEvent.bytes) := rfl
      refine ⟨ws ++ ws', t', ?_, ?_, hfinished.trans (finished_next rt t k)⟩
      · rw [List.flatMap_cons, drain_event, hbuf, andThen_ok, hreset, hdrain]
      · simp [chunkTrees, hws, hws']

end AnthropicStream

/-! ## What a client reads -/

def memberOf (key : String) : Json → Option Json
  | .obj ms => (ms.find? fun m => m.1 == key).map Prod.snd
  | _ => none

def stringOf : Json → Option String
  | .str s => some s
  | _ => none

def firstChoice (j : Json) : Option Json :=
  match memberOf "choices" j with
  | some (.arr (choice :: _)) => some choice
  | _ => none

structure Answer where
  id : String
  model : String
  content : String
  finishReason : Option String

/-- A completion has its text in the `message` of its choice, a chunk in the `delta`. -/
def readAnswer (part : String) (j : Json) : Option Answer := do
  let id ← (memberOf "id" j).bind stringOf
  let model ← (memberOf "model" j).bind stringOf
  let choice ← firstChoice j
  let message ← memberOf part choice
  return {
    id := id
    model := model
    content := ((memberOf "content" message).bind stringOf).getD ""
    finishReason := (memberOf "finish_reason" choice).bind stringOf }

/-- What a client reads in a chunk of the translator. -/
def AnthropicStream.answer (t : AnthropicStream) (d : Delta) : Answer where
  id := t.id
  model := t.model
  content := d.content
  finishReason := if d.finishReason = "" then none else some d.finishReason

theorem AnthropicStream.readAnswer_deltaTree (t : AnthropicStream) (d : Delta) :
    readAnswer "delta" (t.deltaTree d) = some (t.answer d) := by
  by_cases hrole : d.role = "" <;> by_cases hcontent : d.content = "" <;>
    by_cases hreason : d.finishReason = "" <;>
    simp [readAnswer, deltaTree, chunkTree, answer, memberOf, firstChoice, stringOf, omitIf, hrole,
      hcontent, hreason]

theorem readAnswer_openAITree (resp : AnthropicMessagesResponse) :
    readAnswer "message" resp.openAITree =
      some
        { id := resp.id
          model := resp.model
          content := resp.contentText
          finishReason := some (mapAnthropicStopReason resp.stopReason) } := by
  simp [readAnswer, AnthropicMessagesResponse.openAITree, memberOf, firstChoice, stringOf]

/-! ## The two paths -/

namespace AnthropicStream

variable (rt : Runtime)

/-- Others leave no trace. -/
theorem chunkTrees_filter (t : AnthropicStream) (kinds : List Kind) :
    t.chunkTrees rt (kinds.filter (· ≠ .other)) = t.chunkTrees rt kinds := by
  induction kinds generalizing t with
  | nil => rfl
  | cons k kinds ih =>
      -- The induction is on the events; an event of another kind changes no translator.
      by_cases hk : k = .other
      · subst hk
        have hskip : t.chunkTrees rt (.other :: kinds) = t.chunkTrees rt kinds := rfl
        simpa [hskip] using ih t
      · simpa [hk, chunkTrees] using ih (k.next rt t)

/-- Once the message has begun, all chunks are under its id and model. -/
theorem chunkTrees_of_noStart (t : AnthropicStream) {kinds : List Kind}
    (h : ∀ k ∈ kinds, k.next rt t = t) :
    t.chunkTrees rt kinds = (kinds.flatMap Kind.deltas).map t.deltaTree := by
  induction kinds with
  | nil => rfl
  | cons k kinds ih =>
      have hk : k.next rt t = t := h k List.mem_cons_self
      have hrest := ih fun k' hk' => h k' (List.mem_cons_of_mem _ hk')
      simp [chunkTrees, hk, hrest]

end AnthropicStream

theorem foldl_append_text (items : List AnthropicContentItem) (text : String) :
    items.foldl (fun text c => if c.type = "text" then text ++ c.text else text) text =
      text ++ items.foldl (fun text c => if c.type = "text" then text ++ c.text else text) "" := by
  induction items generalizing text with
  | nil => simp
  | cons item items ih =>
      rw [List.foldl_cons, List.foldl_cons, ih, ih (if item.type = "text" then _ else _)]
      split_ifs <;> simp [String.append_assoc]

/-- The deltas of the blocks carry the text of the message, and no finish reason. -/
theorem deltas_of_cuts {items : List AnthropicContentItem} {cuts : List (List String)}
    (h : List.Forall₂ AnthropicContentItem.CutInto items cuts) :
    String.join (((cuts.flatMap blockKinds).flatMap Kind.deltas).map Delta.content) =
      items.foldl (fun text c => if c.type = "text" then text ++ c.text else text) "" := by
  have hblock : ∀ texts : List String,
      String.join (((blockKinds texts).flatMap Kind.deltas).map Delta.content) =
        String.join texts := by
    intro texts
    induction texts with
    | nil => rfl
    | cons text texts ih =>
        by_cases hempty : text = "" <;>
          simp_all [blockKinds, Kind.deltas, String.join_cons]
  induction h with
  | nil => rfl
  | @cons item texts items cuts hcut _ ih =>
      rw [List.flatMap_cons, List.flatMap_append, List.map_append, String.join_append, hblock, ih,
        List.foldl_cons]
      -- Only blocks of text have texts, and the message counts only these.
      by_cases htype : item.type = "text"
      · have htexts : String.join texts = item.text := by
          simpa [AnthropicContentItem.CutInto, htype] using hcut
        simpa [htype, htexts] using (foldl_append_text items item.text).symm
      · have htexts : texts = [] := by
          simpa [AnthropicContentItem.CutInto, htype] using hcut
        simp [htype, htexts]

theorem finishReason_of_cuts {cuts : List (List String)} {d : Delta}
    (h : d ∈ (cuts.flatMap blockKinds).flatMap Kind.deltas) : d.finishReason = "" := by
  rcases List.mem_flatMap.1 h with ⟨k, hk, hdelta⟩
  rcases List.mem_flatMap.1 hk with ⟨texts, -, hblock⟩
  rcases List.mem_cons.1 hblock with rfl | hblock
  · cases hdelta
  · rcases List.mem_append.1 hblock with htext | hstop
    · rcases List.mem_map.1 htext with ⟨text, -, rfl⟩
      rw [Kind.deltas] at hdelta
      split_ifs at hdelta with hempty
      · cases hdelta
      · rw [List.mem_singleton.1 hdelta]
    · rw [List.mem_singleton.1 hstop] at hdelta
      cases hdelta

theorem next_of_blocks (rt : Runtime) (t : AnthropicStream) {cuts : List (List String)}
    {stopReason : String} {k : Kind}
    (h : k ∈ cuts.flatMap blockKinds ++ [.messageDelta stopReason, .messageStop]) :
    k.next rt t = t := by
  rcases List.mem_append.1 h with hblock | hend
  · rcases List.mem_flatMap.1 hblock with ⟨texts, -, hk⟩
    rcases List.mem_cons.1 hk with rfl | hk
    · rfl
    · rcases List.mem_append.1 hk with htext | hstop
      · rcases List.mem_map.1 htext with ⟨text, -, rfl⟩
        rfl
      · rw [List.mem_singleton.1 hstop]
        rfl
  · rcases List.mem_cons.1 hend with rfl | hstop
    · rfl
    · rw [List.mem_singleton.1 hstop]
      rfl

theorem mapAnthropicStopReason_ne (reason : String) : mapAnthropicStopReason reason ≠ "" := by
  unfold mapAnthropicStopReason
  split_ifs <;> decide

/-- The chunks of a stream tell together what a completion tells. -/
structure Answer.ToldBy (a : Answer) (chunks : List Answer) : Prop where
  message : ∀ c ∈ chunks, c.id = a.id ∧ c.model = a.model
  content : String.join (chunks.map Answer.content) = a.content
  finishReason : ∃ reason, a.finishReason = some reason ∧
    chunks.filterMap Answer.finishReason = [reason]

theorem toldBy_of_cuts {resp : AnthropicMessagesResponse}
    {cuts : List (List String)}
    (hcuts : List.Forall₂ AnthropicContentItem.CutInto resp.content.toList cuts)
    (hreason : resp.stopReason ≠ "") {t : AnthropicStream} (hid : t.id = resp.id)
    (hmodel : t.model = resp.model) :
    Answer.ToldBy
      { id := resp.id, model := resp.model, content := resp.contentText
        finishReason := some (mapAnthropicStopReason resp.stopReason) }
      (((Kind.messageStart resp.id resp.model ::
        (cuts.flatMap blockKinds ++ [.messageDelta resp.stopReason, .messageStop])).flatMap
          Kind.deltas).map t.answer) := by
  -- The start tells the role, the blocks the text, and the end the finish reason.
  have hdeltas : (Kind.messageStart resp.id resp.model ::
      (cuts.flatMap blockKinds ++ [.messageDelta resp.stopReason, .messageStop])).flatMap
        Kind.deltas =
      { role := "assistant" } ::
        ((cuts.flatMap blockKinds).flatMap Kind.deltas ++
          [{ finishReason := mapAnthropicStopReason resp.stopReason }]) := by
    simp [Kind.deltas, hreason]
  rw [hdeltas]
  constructor
  · intro c hc
    rcases List.mem_map.1 hc with ⟨d, -, rfl⟩
    exact ⟨hid, hmodel⟩
  · have hcontent : Answer.content ∘ t.answer = Delta.content := rfl
    simp [hcontent, String.join_cons, String.join_append, deltas_of_cuts hcuts,
      AnthropicMessagesResponse.contentText, AnthropicStream.answer]
  · refine ⟨_, rfl, ?_⟩
    -- No block finishes the message.
    have hnone : ((cuts.flatMap blockKinds).flatMap Kind.deltas).filterMap
        (Answer.finishReason ∘ t.answer) = [] := by
      apply List.filterMap_eq_nil_iff.2
      intro d hd
      simp [AnthropicStream.answer, finishReason_of_cuts hd]
    simp [List.filterMap_map, hnone, AnthropicStream.answer, mapAnthropicStopReason_ne]

/-- A message that arrives as an event stream is told by the chunks of the translator as the
completion tells it that `normalizeResponse` makes of its body, and `[DONE]` follows last. -/
theorem stream_agrees_with_body (rt : Runtime) {resp : AnthropicMessagesResponse} {body : Bytes}
    (hbody : unmarshal {} decodeAnthropicResponse body = some resp) (hreason : resp.stopReason ≠ "")
    {events : List ServerEvent} (harrives : Arrives resp events) :
    ∃ (out : Bytes) (answer : Answer) (chunks : List Json) (answers : List Answer),
      (anthropic rt).normalizeResponse body = .ok out ∧
        (parse (decode out)).bind (readAnswer "message") = some answer ∧
        (anthropicStreamTranslator rt).whole (events.flatMap ServerEvent.bytes) =
          (chunks.flatMap chunkFrame ++ bytesOf "data: [DONE]\n\n", none) ∧
        chunks.map (readAnswer "delta") = answers.map some ∧ answer.ToldBy answers := by
  rcases harrives with ⟨kinds, cuts, hsays, hcuts, hkinds⟩
  rcases AnthropicStream.drain_events rt {} hsays with ⟨ws, t', hdrain, hws, hfinished⟩
  -- From `message_start` on, every chunk is under the message's id and model.
  let t : AnthropicStream := { id := resp.id, model := resp.model, created := rt.unixNow }
  let ds : List Delta := (Kind.messageStart resp.id resp.model ::
    (cuts.flatMap blockKinds ++ [.messageDelta resp.stopReason, .messageStop])).flatMap Kind.deltas
  have htrees : AnthropicStream.chunkTrees rt {} kinds = ds.map t.deltaTree := by
    have hnext : t.chunkTrees rt (cuts.flatMap blockKinds ++
        [.messageDelta resp.stopReason, .messageStop]) = _ :=
      AnthropicStream.chunkTrees_of_noStart rt t fun k hk => next_of_blocks rt t hk
    rw [← AnthropicStream.chunkTrees_filter, hkinds, AnthropicStream.chunkTrees]
    have hstart : Kind.next rt {} (.messageStart resp.id resp.model) = t := rfl
    rw [hstart, hnext]
    simp [ds]
  refine ⟨marshal resp.openAITree, _, ds.map t.deltaTree, ds.map t.answer, ?_, ?_, ?_, ?_,
    toldBy_of_cuts hcuts hreason rfl rfl⟩
  · simp [anthropic, hbody]
  · rw [parse_marshal, Option.bind_some, readAnswer_openAITree]
  · have htranslate : (anthropicStreamTranslator rt).translate (anthropicStreamTranslator rt).start
        (events.flatMap ServerEvent.bytes) = (ws, .ok t') := hdrain
    -- `message_stop` is not handled, so `Close` still writes the end mark.
    have hclose : (anthropicStreamTranslator rt).close t' =
        ([bytesOf "data: [DONE]\n\n"], .ok { t' with finished := true }) := by
      simp [anthropicStreamTranslator, hfinished]
    have hrun : andThen ((anthropicStreamTranslator rt).translate
        (anthropicStreamTranslator rt).start (events.flatMap ServerEvent.bytes))
          (anthropicStreamTranslator rt).close =
        (ws ++ [bytesOf "data: [DONE]\n\n"], .ok { t' with finished := true }) := by
      rw [htranslate]
      calc
        andThen (ws, .ok t') (anthropicStreamTranslator rt).close =
            (ws ++ ((anthropicStreamTranslator rt).close t').1,
              ((anthropicStreamTranslator rt).close t').2) := rfl
        _ = _ := by rw [hclose]
    rw [StreamTranslator.whole, StreamTranslator.wholeFrom, hrun]
    simp [StreamTranslator.flat, hws, htrees]
  · rw [List.map_map, List.map_map]
    apply List.map_congr_left
    intro d _
    exact t.readAnswer_deltaTree d

/-! ## A message with a tool call -/

/-- A comment, the name and the payload of an event. -/
def commentedEvent (crlf space : Bool) (name : String) (payload : Json)
    (hname : (Field.event space (bytesOf name)).Valid := by decide +kernel)
    (hdata : (Field.data space (marshal payload)).Valid := by decide +kernel) : ServerEvent where
  lines :=
    [{ field := .comment (bytesOf " keep-alive"), crlf := crlf, valid := by decide +kernel },
      { field := .event space (bytesOf name), crlf := crlf, valid := hname },
      { field := .data space (marshal payload), crlf := crlf, valid := hdata }]
  crlf := crlf

def toolCallBody : Json :=
  .obj
    [("id", .str "msg_01"), ("model", .str "claude-3"),
      ("content",
        .arr
          [.obj [("type", .str "text"), ("text", .str "Hello")],
            .obj [("type", .str "tool_use"), ("name", .str "search")]]),
      ("stop_reason", .str "tool_use")]

def toolCallMessage : AnthropicMessagesResponse where
  id := "msg_01"
  model := "claude-3"
  content := { slots := [{ type := "text", text := "Hello" }, { type := "tool_use" }], len := 2 }
  stopReason := "tool_use"

def toolCallEvents : List ServerEvent :=
  [commentedEvent true true "message_start"
      (.obj [("message", .obj [("id", .str "msg_01"), ("model", .str "claude-3")])]),
    commentedEvent false true "ping" (.obj []),
    commentedEvent true false "content_block_start" (.obj [("index", .num (intNumber 0))]),
    commentedEvent true true "content_block_delta"
      (.obj [("delta", .obj [("type", .str "text_delta"), ("text", .str "Hel")])]),
    commentedEvent false false "content_block_delta"
      (.obj [("delta", .obj [("type", .str "text_delta"), ("text", .str "lo")])]),
    commentedEvent true true "content_block_stop" (.obj [("index", .num (intNumber 0))]),
    commentedEvent true true "content_block_start" (.obj [("index", .num (intNumber 1))]),
    commentedEvent true true "content_block_delta"
      (.obj [("delta", .obj [("type", .str "input_json_delta"), ("partial_json", .str "\"q\"")])]),
    commentedEvent true true "content_block_stop" (.obj [("index", .num (intNumber 1))]),
    commentedEvent true true "message_delta"
      (.obj [("delta", .obj [("stop_reason", .str "tool_use")])]),
    commentedEvent true true "message_stop" (.obj [])]

theorem unmarshal_marshal {α : Type} (zero : α) (decoder : Decoder α) (j : Json) :
    unmarshal zero decoder (marshal j) = decoder zero j := by
  rw [unmarshal, parse_marshal, Option.bind_some]

theorem toolCallEvents_arrive : Arrives toolCallMessage toolCallEvents := by
  refine ⟨[.messageStart "msg_01" "claude-3", .other, .contentBlockStart, .textDelta "Hel",
    .textDelta "lo", .contentBlockStop, .contentBlockStart, .other, .contentBlockStop,
    .messageDelta "tool_use", .messageStop], [["Hel", "lo"], []], ?_, ?_, by decide⟩
  · have hdata : ∀ (crlf space : Bool) (name : String) (payload : Json) hname hdata,
        (commentedEvent crlf space name payload hname hdata).data = marshal payload :=
      fun _ _ _ _ _ _ => rfl
    have hname : ∀ (crlf space : Bool) (name : String) (payload : Json) hname hdata,
        (commentedEvent crlf space name payload hname hdata).name = bytesOf name :=
      fun _ _ _ _ _ _ => rfl
    refine .cons ⟨hname .., ?_⟩ <| .cons (.inr (.inr (.inr ?_))) <| .cons (hname ..) <|
      .cons ⟨hname .., { type := "text_delta", text := "Hel" }, ?_, rfl, rfl⟩ <|
      .cons ⟨hname .., { type := "text_delta", text := "lo" }, ?_, rfl, rfl⟩ <|
      .cons (hname ..) <| .cons (hname ..) <|
      .cons (.inr (.inr (.inl ⟨hname ..,
        { type := "input_json_delta", partialJSON := "\"q\"" }, ?_, by decide⟩))) <|
      .cons (hname ..) <|
      .cons ⟨hname .., ?_⟩ <| .cons (hname ..) .nil
    all_goals first | (rw [hdata, unmarshal_marshal]; rfl) | (rw [hname]; decide +kernel)
  · refine .cons ?_ (.cons ?_ .nil)
    · simp [AnthropicContentItem.CutInto, String.join_cons]
    · simp [AnthropicContentItem.CutInto]

theorem stream_agrees_with_body_toolCall :
    ∃ (out : Bytes) (answer : Answer) (chunks : List Json) (answers : List Answer),
      (anthropic plainRuntime).normalizeResponse (marshal toolCallBody) = .ok out ∧
        (parse (decode out)).bind (readAnswer "message") = some answer ∧
        (anthropicStreamTranslator plainRuntime).whole (toolCallEvents.flatMap ServerEvent.bytes) =
          (chunks.flatMap chunkFrame ++ bytesOf "data: [DONE]\n\n", none) ∧
        chunks.map (readAnswer "delta") = answers.map some ∧ answer.ToldBy answers :=
  @stream_agrees_with_body plainRuntime toolCallMessage (marshal toolCallBody)
    ((unmarshal_marshal _ _ _).trans rfl) (by decide) toolCallEvents toolCallEvents_arrive

end Gateway
end OpenRouter
