import OpenRouter.Cli.LineEndings
import OpenRouter.Mocks.Replies
import OpenRouter.Wire.ChatTurns

/-!
# MockedTurns — the mock providers behind the gateway

The mocks stream what `stream_chunks` yields, with `data: ` in front of every text already, and
`EventSourceResponse` puts its own in front of that.  So neither the translator for Anthropic nor
the CLI finds a chunk in it, and the assistant of a session has nothing to say (`muted_of_run`).
-/

namespace OpenRouter
namespace Wire

open Base Cli Gateway

/-! ## What the CLI reads -/

def ending (crlf : Bool) : Ending :=
  if crlf then .crlf else .lf

theorem text_ending (crlf : Bool) : (ending crlf).text = lineBreak crlf := by
  cases crlf <;> rfl

theorem ending_ne_cr (crlf : Bool) : ending crlf ≠ .cr := by
  cases crlf <;> exact Ending.noConfusion

/-- What the CLI takes for the payload of an event that was made of a text. -/
def joined (text : List Char) : List Char :=
  List.intercalate ['\n'] (breakLines text)

/-- A line of a text that is sent. -/
structure DataLine where
  text : List Char
  oneLine : OneLine text

namespace DataLine

/-- Its field. -/
def field (l : DataLine) : Cli.Line where
  text := dataField ++ l.text
  nonempty := List.cons_ne_nil _ _
  oneLine := oneLine_data l.oneLine

theorem exists_lines {lines : List (List Char)} (h : ∀ l ∈ lines, OneLine l) :
    ∃ ls : List DataLine, ls.map DataLine.text = lines := by
  induction lines with
  | nil => exact ⟨[], rfl⟩
  | cons line lines ih =>
      rcases List.forall_mem_cons.1 h with ⟨hline, hmore⟩
      rcases ih hmore with ⟨ls, rfl⟩
      exact ⟨⟨line, hline⟩ :: ls, rfl⟩

theorem dataOfLine_field (l : DataLine) : dataOfLine l.field.text = some l.text :=
  rfl

end DataLine

open DataLine

/-- The CLI reads the texts back, their line breaks as line feeds. -/
theorem drain_framed {crlf : Bool} {texts : List (List Char)} {body : List Char}
    (h : Framed crlf texts body) :
    drain body = (texts.map fun text => some (joined text)).foldr readPayload ([], some []) := by
  induction h with
  | done => exact drain_of_none takeEvent_nil
  | @comment texts body line oneLine rest ih =>
      let e : SseEvent :=
        { init := []
          last := (⟨':' :: line, List.cons_ne_nil _ _,
            List.forall_mem_cons.2 ⟨by decide, oneLine⟩⟩, ending crlf)
          blank := ending crlf }
      have htext : commentEvent crlf line = e.text := by
        simp [e, SseEvent.text, SseEvent.body, linesText, commentEvent, text_ending]
      have hpayload : e.payload = none := by
        have hnone : dataOfLine (':' :: line) = none := dataOfLine_of_head (by simp)
        simp [e, SseEvent.payload, hnone]
      have htolerated : e.Tolerated := ⟨by simp [e], ending_ne_cr crlf, rfl⟩
      rw [htext, SseEvent.drain_text htolerated, hpayload, ih]
      rfl
  | @data texts body text rest ih =>
      rcases exists_lines fun l (hl : l ∈ breakLines text) => oneLine_of_mem_breakLines hl with
        ⟨ls, hls⟩
      rcases List.eq_nil_or_concat ls with rfl | ⟨front, last, rfl⟩
      · exact absurd hls.symm (breakLines_ne_nil text)
      · let e : SseEvent :=
          { init := front.map fun l => (l.field, ending crlf)
            last := (last.field, ending crlf)
            blank := ending crlf }
        have htext : dataEvent crlf text = e.text := by
          simp [e, SseEvent.text, SseEvent.body, linesText, dataEvent, dataLine, ← hls,
            text_ending, List.flatMap_map, DataLine.field]
        have hpayload : e.payload = some (joined text) := by
          have hdata : ((e.init ++ [e.last]).map fun l => l.1.text).filterMap dataOfLine =
              breakLines text := by
            rw [← hls]
            simp [e, Function.comp_def, dataOfLine_field]
          simp only [SseEvent.payload, hdata, joined]
          exact if_neg (by simp [breakLines_ne_nil])
        have htolerated : e.Tolerated := ⟨by simp [e, ending_ne_cr], ending_ne_cr crlf, rfl⟩
        rw [htext, SseEvent.drain_text htolerated, hpayload, ih]
        rfl

/-! ## What the mocks send -/

/-- A text that is no JSON is passed over. -/
theorem readPayload_of_head (cs : List Char) (more : List Json × Option (List Char)) :
    readPayload (some ('d' :: cs)) more = more := by
  have hmark : 'd' :: cs ≠ "[DONE]".toList := by
    intro h
    cases h
  have hnone : parse ('d' :: cs) = none := by
    refine Option.eq_none_iff_forall_ne_some.2 fun j hj => ?_
    have hstarts := (List.isChain_cons_cons.1 (fits_of_parse hj)).1 rfl
    exact absurd hstarts (by decide)
  rw [readPayload, if_neg hmark, hnone]
  rfl

theorem joined_cons (cs : List Char) : ∃ rest, joined ('d' :: cs) = 'd' :: rest := by
  rcases breakLines_cons (c := 'd') (by decide) cs with ⟨line, lines, hlines⟩
  rw [joined, hlines]
  cases lines with
  | nil => exact ⟨line ++ [], rfl⟩
  | cons second lines => exact ⟨_, rfl⟩

variable {py : Mocks.Python} {d : Mocks.ReplyDraws} {m : Mocks.Mock} {req : Json}
  {answer : Mocks.Answer} {text : List Char}

/-- The lines of a body begin neither with a name of an event nor with a byte order mark. -/
theorem noLine_of_body {x : Char} (hbegins : beginsLine x = false) (hstarts : startsToken x = false)
    (h : answer.Body text) : NoLine x text := by
  cases answer with
  | document j =>
      cases h
      exact noLine_of_fits hstarts (fits_of_parse (parse_write compact j))
  | events texts =>
      rcases h with ⟨crlf, hframed⟩
      exact noLine_framed hbegins hframed

theorem noEventLine_of_body (h : answer.Body text) : NoEventLine (encode text) :=
  noLine_encode (x := 'e') (by decide) (noLine_of_body (by decide) (by decide) h)

theorem decode_of_body (h : answer.Body text) :
    (TextDecoder.decode {} (encode text)).1 = text := by
  have hmark : NoLine '\uFEFF' text := noLine_of_body (by decide) (by decide) h
  cases text with
  | nil => rfl
  | cons c cs => rw [TextDecoder.decode_encode_start ((List.isChain_cons_cons.1 hmark).1 rfl)]

/-- The CLI finds no chunk in a body. -/
theorem drain_of_body (h : m.answer py d req = some answer) (hbody : answer.Body text) :
    ∃ rest, drain text = ([], some rest) ∧ flushTrailing rest = [] := by
  rcases Mocks.answer_cases h with ⟨j, rfl⟩ | ⟨chunks, rfl⟩
  · cases hbody
    have hnone : NoDataLine (j.write compact 0) :=
      noLine_of_fits (x := 'd') (by decide) (fits_of_parse (parse_write compact j))
    rcases drain_of_noDataLine hnone with ⟨rest, hdrain, hrest⟩
    refine ⟨rest, hdrain, ?_⟩
    simp [flushTrailing, extractDataPayload_of_noDataLine hrest]
  · rcases hbody with ⟨crlf, hframed⟩
    refine ⟨[], ?_, by simp [flushTrailing]⟩
    rw [drain_framed hframed]
    have hskip : ∀ texts : List (List Char), (∀ text ∈ texts, ∃ rest, text = 'd' :: rest) →
        (texts.map fun text => some (joined text)).foldr readPayload ([], some []) =
          ([], some []) := by
      intro texts htexts
      induction texts with
      | nil => rfl
      | cons text texts ih =>
          rcases List.forall_mem_cons.1 htexts with ⟨⟨cs, rfl⟩, hmore⟩
          rcases joined_cons cs with ⟨rest, hrest⟩
          rw [List.map_cons, List.foldr_cons, ih hmore, hrest, readPayload_of_head]
    exact hskip _ fun text htext => Mocks.head_of_mem_streamChunks htext

/-! ## A session in front of the mocks -/

/-- A mock answers the request that the target is sent. -/
structure Passage.Mocked (v : Passage) (rt : Runtime) (router : Router) (model : String)
    (py : Mocks.Python) (d : Mocks.ReplyDraws) (m : Mocks.Mock) (body : Bytes) : Prop
    extends v.Passes rt router model body where
  mocked : ∀ a o, (newProxy rt router).prepare (v.surroundings.attempts v.position) body v.target =
      .ok (a, o) →
    ∃ req answer text, parse (decode o.body) = some req ∧ m.answer py d req = some answer ∧
      answer.Body text ∧ v.reply.reads.flatten = encode text

/-- Whatever a mock answers, the assistant has nothing to say. -/
theorem Passage.Mocked.muted {v : Passage} {rt : Runtime} {router : Router} {api : ApiClient}
    {model : String} {messages : List ChatMessage} {line : List Char}
    (h : v.Mocked rt router model py d m (bodyBytes (Chat.request api model messages line)))
    (js : JsRuntime) :
    Chat.reply js (chatCompletionStream js (.ok v.seen)) = .ok "" ∨
      ∃ err, v.broken = some err ∧
        Chat.reply js (chatCompletionStream js (.ok v.seen)) = .error err := by
  rcases h.toPasses.relayed with ⟨a, o, hprep, -, hserved⟩
  rcases h.mocked a o hprep with ⟨req, answer, text, -, hanswer, hbody, hreads⟩
  rw [hreads] at hserved
  have hheard : ∀ rest : Option (List Char),
      drain (TextDecoder.decode {} (v.served rt router
        (bodyBytes (Chat.request api model messages line))).body).1 = ([], rest) →
      rest.elim [] flushTrailing = [] →
      Chat.reply js (chatCompletionStream js (.ok v.seen)) = .ok "" ∨
        ∃ err, v.broken = some err ∧
          Chat.reply js (chatCompletionStream js (.ok v.seen)) = .error err := by
    intro rest hdrain hrest
    exact h.toPasses.heard hdrain hrest rfl
  rcases standardAdapters_cases (Proxy.prepare_eq_ok_iff.1 hprep).1 with
    ⟨-, rfl⟩ | ⟨-, hpass, -⟩
  -- The translator for Anthropic finds no event, and sends the end mark alone.
  · have hdone := hserved _ (whole_of_noEventLine rt (noEventLine_of_body hbody))
    have hdecode := decode_frames []
    rw [List.flatMap_nil, List.nil_append, List.flatMap_nil, List.nil_append] at hdecode
    refine hheard none ?_ rfl
    rw [hdone, hdecode, drain_done]
  · rw [hpass] at hserved
    have hsame := hserved _ (whole_passthrough _)
    rcases drain_of_body hanswer hbody with ⟨rest, hdrain, hrest⟩
    refine hheard (some rest) ?_ hrest
    rw [hsame, decode_of_body hbody, hdrain]

/-- A session whose questions are answered by the mocks is a monologue: each request has the lines
since the last `/clear` with empty answers between them, and so has a session that reads on. -/
theorem muted_of_run {js : JsRuntime} {rt : Runtime} {router : Router} {api : ApiClient}
    {model : String} {system : Option String} {passages : ℕ → Passage}
    {draws : ℕ → Mocks.ReplyDraws} {mock : ℕ → Mocks.Mock} {rounds : List Chat.Round}
    {s : Chat.Session}
    (hrun : exec (Chat.step js api model) (Chat.start system) rounds = some s)
    (hlooped : Looped js api model system passages
      (fun i => (passages i).Mocked rt router model py (draws i) (mock i)) rounds) :
    List.Forall₂
        (fun (req : HttpRequest) (asking : List Char × List Chat.Round) =>
          req = Chat.request api model (spoken system (fun _ => "") asking.2) asking.1)
        s.sent (Chat.marked Chat.question [] rounds) ∧
      (s.phase = .reading → s.messages = spoken system (fun _ => "") rounds) := by
  have hcarries : Answered js api model passages
      (fun i => (passages i).Mocked rt router model py (draws i) (mock i)) fun _ => "" :=
    fun i messages line h => (h.muted js).imp_right fun ⟨err, _, herr⟩ => ⟨err, herr⟩
  rcases spoken_of_run hrun hlooped hcarries with ⟨hsent, hmessages⟩
  exact ⟨hsent.imp fun _ _ h => h.1, hmessages⟩

/-! ### Three questions -/

def plainPython : Mocks.Python where
  isZero := fun n => n.text == ['0']
  str := fun _ => ""

def mockDraws : Mocks.ReplyDraws where
  id := "0"
  callId := "0"
  now := 0

/-- What the mock of Anthropic is sent of a question. -/
def mockRequest (messages : List ChatMessage) (line : String) : Json :=
  (toAnthropic "claude-4" (decodedRequest "claude-4"
    (messages ++ [{ role := .user, content := line }]))).tree

/-- What it yields. -/
def mockTexts : List (List Char) :=
  match mockRequest briefly "Hi" with
  | .obj ms => Mocks.streamChunks (Mocks.Anthropic.streamEvents mockDraws ms)
  | _ => []

def mockReply : Reply where
  status := 200
  contentType := "text/event-stream"
  reads := [encode (mockTexts.flatMap (dataEvent true))]

/-- The mock yields the same texts whatever it is asked. -/
theorem answer_of_questions : ∀ q ∈ questions "",
    Mocks.Mock.messages.answer plainPython mockDraws (mockRequest q.1 q.2) =
      some (.events mockTexts) := by
  simp only [questions, List.forall_mem_cons]
  exact ⟨rfl, rfl, rfl, List.forall_mem_nil _⟩

theorem mocked_of_questions : ∀ q ∈ questions "",
    (passageOf mockReply (localRequest q.1 q.2)).Mocked plainRuntime anthropicOnly "claude-4"
      plainPython mockDraws .messages (bodyBytes (localRequest q.1 q.2)) := by
  intro q hq
  have hsize : ∀ q ∈ questions "", (bodyBytes (localRequest q.1 q.2)).length ≤ chatBodyLimit := by
    decide +kernel
  refine { toPasses := passes_passageOf rfl (by decide) rfl (hsize q hq), mocked := ?_ }
  intro a o hprep
  have hbody : o.body = marshal (mockRequest q.1 q.2) := by
    rw [mockRequest, ← String.ofList_toList (s := q.2)]
    exact Passage.body_of_prepare rfl hprep
  refine ⟨mockRequest q.1 q.2, .events mockTexts, _, ?_, answer_of_questions q hq,
    ⟨true, framed_dataEvents true _⟩, ?_⟩
  · rw [hbody, parse_marshal]
  · exact List.append_nil _

theorem heard_nothing : Heard mockReply "" := by
  intro q hq
  rcases (mocked_of_questions q hq).muted Chat.plainJs with hanswer | ⟨err, herr, -⟩
  · exact hanswer
  · cases herr

/-- The assistant answers nothing, and the session goes on. -/
theorem muted_of_run_hello :
    ∃ s, exec (Chat.step Chat.plainJs Chat.localApi "claude-4") (Chat.start (some "Be brief."))
        (threeRounds mockReply "") = some s ∧
      s.sent = [localRequest briefly "Hi", localRequest (briefly ++ said "Hi" "") "Why?",
        localRequest [] "Bye"] ∧
      s.phase = .reading ∧ s.messages = said "Bye" "" := by
  have hmocked := mocked_of_questions
  simp only [questions, List.forall_mem_cons] at hmocked
  rcases hmocked with ⟨hfirst, hsecond, hthird, -⟩
  have hlooped : Looped Chat.plainJs Chat.localApi "claude-4" (some "Be brief.")
      (threePassages mockReply "")
      (fun i => (threePassages mockReply "" i).Mocked plainRuntime anthropicOnly "claude-4"
        plainPython mockDraws .messages) (threeRounds mockReply "") :=
    looped_threeRounds heard_nothing hfirst hsecond hthird
  have hrun := exec_threeRounds heard_nothing
  have hmuted := muted_of_run hrun hlooped
  refine ⟨_, hrun, ?_, rfl, hmuted.2 rfl⟩
  have hmarked : Chat.marked Chat.question [] (threeRounds mockReply "") =
      [("Hi".toList, []), ("Why?".toList, (threeRounds mockReply "").take 1),
        ("Bye".toList, (threeRounds mockReply "").take 3)] := rfl
  have hsent := hmuted.1
  rw [hmarked] at hsent
  rcases List.forall₂_cons.1 hsent with ⟨hhi, hsent⟩
  rcases List.forall₂_cons.1 hsent with ⟨hwhy, hsent⟩
  rcases List.forall₂_cons.1 hsent with ⟨hbye, -⟩
  exact List.forall₂_eq_eq_eq ▸ (.cons hhi (.cons hwhy (.cons hbye .nil)))

end Wire
end OpenRouter
