import OpenRouter.Base.JsonLines
import OpenRouter.Gateway.Commit
import OpenRouter.Gateway.RoutedModel
import OpenRouter.Gateway.StreamedMessage

/-!
# ErrorReplies — what a client reads of an upstream's error

A reply of `4xx` but `429` is passed on like a successful one.  `reportsError_iff` says for which
replies the client reads the upstream's message: a pass-through adapter hands the body on, and the
Anthropic adapter reads it as a message, or as an event stream without events.
-/

namespace OpenRouter
namespace Gateway

open Base

/-! ## Error objects -/

/-- The message of `{"error": {"message": …}}`. -/
def errorMessage (j : Json) : Option String :=
  ((memberOf "error" j).bind (memberOf "message")).bind stringOf

/-- The names of the members of an error body, behind an adapter of this name. -/
def errorMember (adapter key : String) : Prop :=
  if adapter = "anthropic" then key ∈ ["type", "error", "request_id"] else key ≠ "object"

/-- A body in the error format of the provider, with its message. -/
structure ErrorFormat (adapter m : String) (j : Json) : Prop where
  message : errorMessage j = some m
  members : ∃ ms, j = .obj ms ∧ ∀ kv ∈ ms, errorMember adapter kv.1 ∧
    (kv.1 = "type" → adapter = "anthropic" → ∃ s, kv.2 = .str s)

/-- The status line that an event sends. -/
def Event.statusLine : Event → Option (Source × ℕ)
  | .writeHeader src status => some (src, status)
  | _ => none

/-- The client reads the error of target `i`: under its status, as an error object with its
message, and neither as a completion nor as an event stream without events. -/
structure ReportsError (i status : ℕ) (m : String) (x : Exchange) : Prop where
  /-- The first call of `WriteHeader` counts. -/
  status : x.events.findSome? Event.statusLine = some (.target i, status)
  message : (parse (decode x.body)).bind errorMessage = some m
  notCompletion :
    ((parse (decode x.body)).bind (memberOf "object")).bind stringOf ≠ some "chat.completion"
  notEmptyStream : x.body ≠ bytesOf "data: [DONE]\n\n"

/-! ## A body without fields, in the translator -/

theorem eq_of_takeLine {bs raw rest : Bytes} (h : takeLine bs = some (raw, rest)) :
    bs = raw ++ 10 :: rest := by
  induction bs generalizing raw with
  | nil => cases h
  | cons b bs ih =>
      by_cases hb : b = 10
      · simp only [takeLine, hb, if_true, Option.some.injEq, Prod.mk.injEq] at h
        rcases h with ⟨rfl, rfl⟩
        rw [hb, List.nil_append]
      · simp only [takeLine, hb, if_false, Option.map_eq_some_iff, Prod.mk.injEq] at h
        rcases h with ⟨⟨raw', rest'⟩, hline, rfl, rfl⟩
        rw [ih hline, List.cons_append]

/-- No line of the bytes gives an event its name. -/
def NoEventLine (bs : Bytes) : Prop :=
  List.IsChain (fun b d : UInt8 => b = 10 → d ≠ 101) (10 :: bs)

namespace AnthropicStream

variable {rt : Runtime}

/-- A line that does not begin with an `e` leaves the event without a name. -/
theorem currentEvent_consumeLine (t : AnthropicStream) {line : Bytes} (h : line.head? ≠ some 101) :
    (t.consumeLine line).currentEvent = t.currentEvent ∧
      (t.consumeLine line).lineBuf = t.lineBuf ∧
        (t.consumeLine line).finished = t.finished := by
  have hevent : stripLinePrefix line "event:" = none := by
    rw [stripLinePrefix, bytesOf_event]
    refine if_neg ?_
    rintro ⟨tail, rfl⟩
    exact h rfl
  simp only [consumeLine, hevent]
  cases stripLinePrefix line "data:" with
  | none => exact ⟨rfl, rfl, rfl⟩
  | some data => exact ⟨rfl, rfl, rfl⟩

theorem head_trimCR {raw : Bytes} {b : UInt8} (h : (trimCR raw).head? = some b) :
    raw.head? = some b := by
  unfold trimCR at h
  split_ifs at h
  · cases raw with
    | nil => cases h
    | cons c raw =>
        cases raw with
        | nil => cases h
        | cons d raw => simpa using h
  · exact h

/-- Events without a name are passed over. -/
theorem drain_of_noEventLine (t : AnthropicStream) (hevent : t.currentEvent = [])
    (hbuf : NoEventLine t.lineBuf) :
    ∃ t', t.drain rt = ([], .ok t') ∧ t'.finished = t.finished := by
  have hbehind : ∀ {raw rest bs : Bytes}, takeLine bs = some (raw, rest) → NoEventLine bs →
      NoEventLine rest := by
    intro raw rest bs hline hbs
    unfold NoEventLine at hbs
    rw [eq_of_takeLine hline, ← List.cons_append] at hbs
    exact (List.isChain_append.1 hbs).2.1
  revert hevent hbuf
  refine drain_induct
    (motive := fun t r => t.currentEvent = [] → NoEventLine t.lineBuf →
      ∃ t', r = ([], .ok t') ∧ t'.finished = t.finished)
    ?wait ?fail ?event ?line t
  case wait => exact fun t _ _ _ => ⟨t, rfl, rfl⟩
  case fail =>
    intro t raw rest ws err _ _ hdispatch hevent _
    have hempty : (t.setBuf rest).dispatch rt = _ :=
      dispatch_of_empty (.inl hevent)
    rw [hempty] at hdispatch
    cases hdispatch
  case event =>
    intro t raw rest ws t' hline _ hdispatch ih hevent hbuf
    have hempty : (t.setBuf rest).dispatch rt = _ :=
      dispatch_of_empty (.inl hevent)
    rw [hempty] at hdispatch
    cases hdispatch
    rcases ih rfl (hbehind hline hbuf) with ⟨t', hdrain, hfinished⟩
    refine ⟨t', ?_, hfinished⟩
    rw [andThen_ok, hdrain, List.nil_append]
  case line =>
    intro t raw rest hline _ ih hevent hbuf
    have hhead : (trimCR raw).head? ≠ some 101 := by
      intro hb
      unfold NoEventLine at hbuf
      have hraw := head_trimCR hb
      cases raw with
      | nil => cases hraw
      | cons c raw =>
          cases hraw
          rw [eq_of_takeLine hline, List.cons_append] at hbuf
          exact (List.isChain_cons_cons.1 hbuf).1 rfl rfl
    rcases currentEvent_consumeLine (t.setBuf rest) hhead with ⟨hname, hrest, hopen⟩
    rcases ih (hname.trans hevent) (hrest ▸ hbehind hline hbuf) with ⟨t', hdrain, hfinished⟩
    exact ⟨t', hdrain, hfinished.trans hopen⟩

end AnthropicStream

/-- A stream without names is translated to the end mark alone. -/
theorem whole_of_noEventLine (rt : Runtime) {bs : Bytes} (h : NoEventLine bs) :
    (anthropicStreamTranslator rt).whole bs = (bytesOf "data: [DONE]\n\n", none) := by
  let fed : AnthropicStream := { lineBuf := bs }
  have hfed : ∃ t', fed.drain rt = ([], .ok t') ∧ t'.finished = fed.finished :=
    AnthropicStream.drain_of_noEventLine fed rfl h
  rcases hfed with ⟨t', hdrain, hfinished⟩
  have htranslate : AnthropicStream.translate rt {} bs = ([], .ok t') := hdrain
  have hopen : t'.finished = false := hfinished
  simp [StreamTranslator.whole, StreamTranslator.wholeFrom, StreamTranslator.flat,
    anthropicStreamTranslator, htranslate, hopen]

/-- Such a body is an event stream without events. -/
theorem whole_of_noFieldLine (rt : Runtime) {bs : Bytes} (h : NoFieldLine bs) :
    (anthropicStreamTranslator rt).whole bs = (bytesOf "data: [DONE]\n\n", none) :=
  whole_of_noEventLine rt (h.imp fun _ _ hfield hfeed => (hfield hfeed).2)

/-! ## The reply that is passed on -/

/-- Only requests are sent between the two. -/
structure Contacts (x y : Exchange) : Prop where
  fault : y.fault = x.fault
  events : ∃ es, y.events = x.events ++ es ∧ ∀ e ∈ es, ∃ k t o, e = .contact k t o

theorem Contacts.trans {x y z : Exchange} (h : Contacts x y) (h' : Contacts y z) :
    Contacts x z := by
  rcases h.events with ⟨es, hes, hcontact⟩
  rcases h'.events with ⟨es', hes', hcontact'⟩
  refine
    { fault := h'.fault.trans h.fault
      events := ⟨es ++ es', by rw [hes', hes, List.append_assoc], ?_⟩ }
  exact List.forall_mem_append.2 ⟨hcontact, hcontact'⟩

theorem Contacts.record (x : Exchange) (k : ℕ) (t : Target) (o : Outbound) :
    Contacts x (x.record (.contact k t o)) where
  fault := rfl
  events := ⟨[.contact k t o], rfl, by simp⟩

namespace Proxy

variable {p : Proxy} {env : ℕ → Attempt} {body : Bytes} {i : ℕ} {ts : List Target}

/-- Until a reply is passed on, upstreams are contacted and nothing else happens; the last of them
is the target that has sent the reply. -/
theorem contacted_of_firstRelay {k : ℕ} {a : ProviderAdapter} {resp : Reply} {rest : List Target}
    (h : p.firstRelay env body i ts = some (k, a, resp, rest)) (stream : Bool)
    (lastErr : GoError) (x : Exchange) :
    ∃ t o y, ts[k - i]? = some t ∧ i ≤ k ∧ p.prepare (env k) body t = .ok (a, o) ∧
      Contacts x y ∧ .contact k t o ∈ y.events ∧
      p.tryTargets env body stream i lastErr ts x =
        match relay a k stream resp y with
        | (none, x') => (none, x')
        | (some f, x') =>
            p.tryTargets env body stream (k + 1) (f.toError p.runtime) rest x' := by
  have hbehind : ∀ {i : ℕ} (t : Target) (ts : List Target), i + 1 ≤ k →
      (t :: ts)[k - i]? = ts[k - (i + 1)]? := by
    intro i t ts hik
    have hk : k - i = k - (i + 1) + 1 := by omega
    rw [hk, List.getElem?_cons_succ]
  induction ts generalizing i lastErr x with
  | nil => cases h
  | cons t ts ih =>
      cases hprep : p.prepare (env i) body t with
      | error err =>
          rw [tryTargets_of_skip hprep]
          rcases ih (by simpa [firstRelay, hprep] using h) err x with
            ⟨t', o, y, ht, hik, hmore⟩
          exact ⟨t', o, y, (hbehind t ts hik).trans ht, Nat.le_of_succ_le hik, hmore⟩
      | ok c =>
          cases hanswer : (env i).answer p.runtime with
          | error err =>
              rw [tryTargets_of_decline hprep hanswer]
              rcases ih (by simpa [firstRelay, hprep, hanswer] using h) err _ with
                ⟨t', o, y, ht, hik, hprep', hcontacts, hmore⟩
              exact ⟨t', o, y, (hbehind t ts hik).trans ht, Nat.le_of_succ_le hik, hprep',
                (Contacts.record x i t c.2).trans hcontacts, hmore⟩
          | ok resp' =>
              rw [tryTargets_of_relay hprep hanswer]
              simp only [firstRelay, hprep, hanswer] at h
              cases h
              refine ⟨t, c.2, x.record (.contact k t c.2), by simp, le_rfl, hprep,
                Contacts.record x _ t c.2, ?_, rfl⟩
              simp [Exchange.record]

/-- Up to the first reply that is passed on, nothing is sent to the client. -/
theorem contacts_of_firstRelay {k : ℕ} {a : ProviderAdapter} {resp : Reply} {rest : List Target}
    (h : p.firstRelay env body i ts = some (k, a, resp, rest)) (stream : Bool)
    (lastErr : GoError) (x : Exchange) :
    ∃ y, Contacts x y ∧
      p.tryTargets env body stream i lastErr ts x =
        match relay a k stream resp y with
        | (none, x') => (none, x')
        | (some f, x') =>
            p.tryTargets env body stream (k + 1) (f.toError p.runtime) rest x' := by
  rcases contacted_of_firstRelay h stream lastErr x with ⟨_, _, y, _, _, _, hcontacts, -, htry⟩
  exact ⟨y, hcontacts, htry⟩

/-- A target whose reply is passed on stands at the first such position, or behind it. -/
theorem firstRelay_of_answer {j : ℕ} {t : Target} {a : ProviderAdapter} {o : Outbound}
    {resp : Reply} (ht : ts[j]? = some t) (hprep : p.prepare (env (i + j)) body t = .ok (a, o))
    (hanswer : (env (i + j)).answer p.runtime = .ok resp) :
    ∃ k a' resp' rest, p.firstRelay env body i ts = some (k, a', resp', rest) ∧
      (k = i + j → a' = a ∧ resp' = resp) := by
  induction ts generalizing i j with
  | nil => cases ht
  | cons t' ts ih =>
      cases j with
      | zero =>
          cases ht
          rw [Nat.add_zero] at hprep hanswer
          exact ⟨i, a, resp, ts, by simp only [firstRelay, hprep, hanswer], fun _ => ⟨rfl, rfl⟩⟩
      | succ j =>
          have hpos : i + (j + 1) = i + 1 + j := by omega
          rw [hpos] at hprep hanswer
          rcases ih ht hprep hanswer with ⟨k, a', resp', rest, hfirst, hsame⟩
          unfold firstRelay
          split
          · rename_i a'' o' resp'' _ _
            exact ⟨i, a'', resp'', ts, rfl, fun hi => absurd hi (by omega)⟩
          · exact ⟨k, a', resp', rest, hfirst, fun hk => hsame (by omega)⟩

/-- The position of the first reply that a request has passed on. -/
def passesOn (p : Proxy) (env : ℕ → Attempt) (modelID : String) (body : Bytes) : Option ℕ :=
  (p.router.resolve modelID).bind fun chain =>
    (p.firstRelay env body 0 (chain.1 :: chain.2)).map Prod.fst

end Proxy

/-! ## The response to it -/

/-- The client's status line is that of the first reply that is passed on. -/
theorem statusLine_of_grows {x y z : Exchange} {i status : ℕ} {contentType : String}
    (hx : ∀ e ∈ x.events, e.statusLine = none) (hcontacts : Contacts x y)
    (hz : ((y.record (.setHeader "Content-Type" contentType)).record
      (.writeHeader (.target i) status)).events <+: z.events) :
    z.events.findSome? Event.statusLine = some (.target i, status) := by
  rcases hcontacts.events with ⟨es, hes, hcontact⟩
  rcases hz with ⟨tail, hz⟩
  have hnone : (x.events ++ es).findSome? Event.statusLine = none := by
    refine List.findSome?_eq_none_iff.2 (List.forall_mem_append.2 ⟨hx, fun e he => ?_⟩)
    rcases hcontact e he with ⟨k, t, o, rfl⟩
    rfl
  rw [← hz]
  simp only [Exchange.record, hes, List.append_assoc]
  rw [← List.append_assoc, List.findSome?_append, hnone, Option.none_or]
  rfl

/-- An undisturbed reply is passed on under its status, with the body that the adapter makes of
it. -/
theorem relay_of_body {rt : Runtime} {a : ProviderAdapter}
    (ha : a.newStreamTranslator = passthroughTranslator ∨
      a.newStreamTranslator = anthropicStreamTranslator rt)
    (i : ℕ) (stream : Bool) {resp : Reply} (heof : resp.readError = none) {x : Exchange}
    (hfault : ∀ n, x.fault n = none) {bs : Bytes}
    (hbody : match stream with
      | true => a.newStreamTranslator.whole resp.reads.flatten = (bs, none)
      | false => a.normalizeResponse resp.reads.flatten = .ok bs) :
    ∃ y, relay a i stream resp x = (none, y) ∧ y.body = x.body ++ bs := by
  let begun : Exchange := (x.record (.setHeader "Content-Type" resp.contentType)).record
    (.writeHeader (.target i) resp.status)
  have hbegun : begun.body = x.body := by
    simp [begun, Exchange.body, Exchange.record, Event.bytes]
  cases stream with
  | true =>
      rcases streamResponse_eq_whole ha i heof (x := begun) hfault with ⟨hwritten, herr⟩
      rw [hbody] at hwritten herr
      refine ⟨(streamResponse a i resp begun).2, Prod.ext ?_ rfl, ?_⟩
      · exact Option.map_eq_none_iff.1 herr
      · rw [hwritten, hbegun]
  | false =>
      have hall : resp.readAll = .ok resp.reads.flatten := by
        simp [Reply.readAll, heof]
      have hnofault : begun.fault begun.writes = none := hfault _
      refine ⟨{ begun.record (.write (.target i) bs) with writes := begun.writes + 1 }, ?_, ?_⟩
      · change bufferedResponse a i resp begun = _
        simp only [bufferedResponse, hall, hbody, Exchange.write, hnofault]
      · rw [← hbegun]
        simp [Exchange.body, Exchange.record, Event.bytes]

/-- No member of an error is one of a message, the type apart. -/
theorem isField_errorMember :
    ∀ key ∈ ["type", "error", "request_id"],
      ∀ field ∈ ["id", "model", "created_at", "content", "stop_reason", "usage"],
        isField field key = false := by
  decide +kernel

/-- An error of Anthropic is read as a message of which nothing is set. -/
theorem decode_errorMembers {ms : List (String × Json)}
    (h : ∀ kv ∈ ms, errorMember "anthropic" kv.1 ∧
      (kv.1 = "type" → "anthropic" = "anthropic" → ∃ s, kv.2 = .str s)) :
    decodeAnthropicResponse {} (.obj ms) = some {} := by
  induction ms with
  | nil => rfl
  | cons kv ms ih =>
      rcases kv with ⟨key, v⟩
      rcases List.forall_mem_cons.1 h with ⟨⟨hmember, htype⟩, hrest⟩
      have hkey : key ∈ ["type", "error", "request_id"] := by
        simpa only [errorMember, if_true] using hmember
      have hset := isField_errorMember key hkey
      simp only [List.forall_mem_cons, List.not_mem_nil, false_imp_iff, implies_true,
        and_true] at hset
      rcases hset with ⟨hid, hmodel, hcreated, hcontent, hreason, husage⟩
      -- The value of the type must be a string; the other values are not looked at.
      have hstep : decodeAnthropicResponse {} (.obj ((key, v) :: ms)) =
          decodeAnthropicResponse {} (.obj ms) := by
        simp only [decodeAnthropicResponse, decodeStruct, List.foldlM_cons, hid, hmodel, hcreated,
          hcontent, hreason, husage, Bool.false_eq_true, if_false]
        by_cases hfield : isField "type" key = true
        · have hname : key = "type" := by
            have hothers : isField "type" "error" = false ∧
                isField "type" "request_id" = false := by
              decide +kernel
            simp only [List.mem_cons, List.not_mem_nil, or_false] at hkey
            rcases hkey with rfl | rfl | rfl
            · rfl
            · rw [hothers.1] at hfield
              cases hfield
            · rw [hothers.2] at hfield
              cases hfield
          rcases htype hname rfl with ⟨text, rfl⟩
          simp [hfield, decodeString]
        · simp [hfield]
      rw [hstep, ih hrest]

theorem standardAdapters_cases {rt : Runtime} {provider : String} {a : ProviderAdapter}
    (h : standardAdapters rt provider = some a) :
    provider = "anthropic" ∧ a = anthropic rt ∨
      provider ≠ "anthropic" ∧ a.newStreamTranslator = passthroughTranslator ∧
        a.normalizeResponse = Except.ok := by
  unfold standardAdapters at h
  split_ifs at h with hanthropic hgoogle hopenAI
  · cases h
    exact .inl ⟨hanthropic, rfl⟩
  · cases h
    exact .inr ⟨hanthropic, rfl, rfl⟩
  · cases h
    exact .inr ⟨hanthropic, rfl, rfl⟩

/-- What a handler writes comes behind what the proxy wrote. -/
theorem grows_of_finish {finish : Option GoError × Exchange → Exchange}
    (h : finish = conclude ∨ finish = concludePassed) (out : Option GoError × Exchange) :
    out.2.events <+: (finish out).events := by
  rcases h with rfl | rfl
  · exact Proxy.grows_conclude out
  · rcases answers_concludePassed out with ⟨es, hes, -⟩
    exact ⟨es, hes.symm⟩

theorem finish_of_none {finish : Option GoError × Exchange → Exchange}
    (h : finish = conclude ∨ finish = concludePassed) (x : Exchange) : finish (none, x) = x := by
  rcases h with rfl | rfl <;> rfl

/-- The bytes that the client is sent, when the reply is the first that is passed on. -/
theorem response_of_firstRelay {p : Proxy} (rt : Runtime) {env : ℕ → Attempt} {body : Bytes}
    {stream : Bool} {ts : List Target} {finish : Option GoError × Exchange → Exchange}
    (hfinish : finish = conclude ∨ finish = concludePassed) {x : Exchange}
    (hfault : ∀ n, x.fault n = none) {k : ℕ} {a : ProviderAdapter} {resp : Reply}
    {rest : List Target} (hfirst : p.firstRelay env body 0 ts = some (k, a, resp, rest))
    (ha : a.newStreamTranslator = passthroughTranslator ∨
      a.newStreamTranslator = anthropicStreamTranslator rt)
    (heof : resp.readError = none) {bs : Bytes}
    (hbody : match stream with
      | true => a.newStreamTranslator.whole resp.reads.flatten = (bs, none)
      | false => a.normalizeResponse resp.reads.flatten = .ok bs)
    (lastErr : GoError) :
    (finish (p.tryTargets env body stream 0 lastErr ts x)).body = x.body ++ bs := by
  rcases Proxy.contacts_of_firstRelay hfirst stream lastErr x with ⟨y, hcontacts, htry⟩
  have hfault' : ∀ n, y.fault n = none := by
    intro n
    rw [hcontacts.fault, hfault]
  rcases relay_of_body ha k stream heof hfault' hbody with ⟨z, hrelay, hz⟩
  have hy : y.body = x.body := by
    rcases hcontacts.events with ⟨es, hes, hcontact⟩
    have hnone : es.flatMap Event.bytes = [] := by
      refine List.flatMap_eq_nil_iff.2 fun e he => ?_
      rcases hcontact e he with ⟨j, t, o, rfl⟩
      rfl
    rw [Exchange.body, hes, List.flatMap_append, hnone, List.append_nil, Exchange.body]
  rw [htry, hrelay]
  simp only
  rw [finish_of_none hfinish, hz, hy]

/-- The status line of a response is that of the first reply that is passed on. -/
theorem statusLine_of_firstRelay {p : Proxy} {env : ℕ → Attempt} {body : Bytes} (stream : Bool)
    {ts : List Target} {finish : Option GoError × Exchange → Exchange}
    (hfinish : finish = conclude ∨ finish = concludePassed) {x : Exchange}
    (hx : ∀ e ∈ x.events, e.statusLine = none) {k : ℕ} {a : ProviderAdapter} {resp : Reply}
    {rest : List Target} (hfirst : p.firstRelay env body 0 ts = some (k, a, resp, rest))
    (lastErr : GoError) :
    (finish (p.tryTargets env body stream 0 lastErr ts x)).events.findSome? Event.statusLine =
      some (.target k, resp.status) := by
  rcases Proxy.contacts_of_firstRelay hfirst stream lastErr x with ⟨y, hcontacts, htry⟩
  have hgrows := (relay_eq a k stream resp y).2.grows
  refine statusLine_of_grows hx hcontacts (hgrows.trans (List.IsPrefix.trans ?_
    (grows_of_finish hfinish _)))
  rw [htry]
  rcases relay a k stream resp y with ⟨r, z⟩
  cases r with
  | none => exact List.prefix_rfl
  | some f => exact Proxy.grows_tryTargets

/-- What becomes of an error body: pass-through adapters hand it on. -/
theorem reportsError_of_passThrough {i status : ℕ} {m provider : String} {j : Json}
    {cs : List Char} {x : Exchange} (hparse : parse cs = some j)
    (hformat : ErrorFormat provider m j) (hprovider : provider ≠ "anthropic")
    (hstatus : x.events.findSome? Event.statusLine = some (.target i, status))
    (hbody : x.body = encode cs) : ReportsError i status m x := by
  have hread : parse (decode x.body) = some j := by
    rw [hbody, decode_encode, hparse]
  rcases hformat.members with ⟨ms, rfl, hmembers⟩
  refine
    { status := hstatus
      message := by rw [hread]; exact hformat.message
      notCompletion := ?_
      notEmptyStream := ?_ }
  · have hnone : memberOf "object" (.obj ms) = none := by
      have hfind : ms.find? (fun kv => kv.1 == "object") = none := by
        refine List.find?_eq_none.2 fun kv hkv => ?_
        have hne : kv.1 ≠ "object" := by
          simpa only [errorMember, hprovider, if_false] using (hmembers kv hkv).1
        simpa using hne
      simp only [memberOf, hfind, Option.map_none]
    rw [hread, Option.bind_some, hnone]
    simp
  · -- An event stream without events is no JSON text.
    intro hempty
    have hnone : parse (decode (bytesOf "data: [DONE]\n\n")) = none := by
      decide +kernel
    rw [hempty, hnone] at hread
    cases hread

/-- What the Anthropic adapter makes of an error: an event stream without events, or a completion
of nothing. -/
def blankAnswer (stream : Bool) : Bytes :=
  if stream then bytesOf "data: [DONE]\n\n" else marshal ({} : AnthropicMessagesResponse).openAITree

theorem anthropic_of_errorFormat (rt : Runtime) {m : String} {j : Json} {cs : List Char}
    (hparse : parse cs = some j) (hformat : ErrorFormat "anthropic" m j) (stream : Bool) :
    match stream with
    | true => (anthropic rt).newStreamTranslator.whole (encode cs) = (blankAnswer stream, none)
    | false => (anthropic rt).normalizeResponse (encode cs) = .ok (blankAnswer stream) := by
  cases stream with
  | true => exact whole_of_noFieldLine rt (noFieldLine_encode (fits_of_parse hparse))
  | false =>
      rcases hformat.members with ⟨ms, rfl, hmembers⟩
      have hread : unmarshal {} decodeAnthropicResponse (encode cs) = some {} := by
        rw [unmarshal, decode_encode, hparse, Option.bind_some, decode_errorMembers hmembers]
      simp [anthropic, hread, blankAnswer]

theorem not_reportsError_of_blankAnswer {i status : ℕ} {m : String} {x : Exchange} (stream : Bool)
    (hbody : x.body = blankAnswer stream) : ¬ ReportsError i status m x := by
  intro hreports
  cases stream with
  | true => exact hreports.notEmptyStream hbody
  | false =>
      refine hreports.notCompletion ?_
      have hread : parse (decode (blankAnswer false)) =
          some ({} : AnthropicMessagesResponse).openAITree :=
        parse_marshal _
      rw [hbody, hread]
      rfl

theorem whole_passthrough (bs : Bytes) : passthroughTranslator.whole bs = (bs, none) := by
  simp [StreamTranslator.whole, StreamTranslator.wholeFrom, StreamTranslator.flat,
    passthroughTranslator]

/-- The first reply that is passed on reads as an error unless its adapter is Anthropic's. -/
theorem reportsError_firstRelay_iff {p : Proxy} {rt : Runtime} {env : ℕ → Attempt} {body : Bytes}
    {stream : Bool} {ts : List Target} {finish : Option GoError × Exchange → Exchange}
    (hfinish : finish = conclude ∨ finish = concludePassed) {x : Exchange}
    (hline : ∀ e ∈ x.events, e.statusLine = none) (hnil : x.body = [])
    (hfault : ∀ n, x.fault n = none) {k : ℕ} {a : ProviderAdapter} {resp : Reply}
    {rest : List Target} (hfirst : p.firstRelay env body 0 ts = some (k, a, resp, rest))
    {provider : String} (hadapter : standardAdapters rt provider = some a)
    (heof : resp.readError = none) {cs : List Char} {j : Json} {m : String}
    (hbytes : resp.reads.flatten = encode cs) (hparse : parse cs = some j)
    (hformat : ErrorFormat provider m j) (lastErr : GoError) :
    ReportsError k resp.status m (finish (p.tryTargets env body stream 0 lastErr ts x)) ↔
      provider ≠ "anthropic" := by
  rcases standardAdapters_cases hadapter with ⟨rfl, rfl⟩ | ⟨hprovider, htranslator, hnormalize⟩
  · refine iff_of_false (not_reportsError_of_blankAnswer stream ?_) (fun h => h rfl)
    have hbody := anthropic_of_errorFormat rt hparse hformat stream
    rw [← hbytes] at hbody
    rw [response_of_firstRelay rt hfinish hfault hfirst (.inr rfl) heof hbody, hnil,
      List.nil_append]
  · have hbody : match stream with
        | true => a.newStreamTranslator.whole resp.reads.flatten = (resp.reads.flatten, none)
        | false => a.normalizeResponse resp.reads.flatten = .ok resp.reads.flatten := by
      cases stream with
      | true => simp only [htranslator, whole_passthrough]
      | false => simp only [hnormalize]
    refine iff_of_true (reportsError_of_passThrough hparse hformat hprovider ?_ ?_) hprovider
    · exact statusLine_of_firstRelay stream hfinish hline hfirst lastErr
    · rw [response_of_firstRelay rt hfinish hfault hfirst (.inl htranslator) heof hbody,
        hnil, List.nil_append, hbytes]

/-- A target that answered is behind a reply that was passed on, or is that reply's own. -/
theorem firstRelay_of_contact {rt : Runtime} {router : Router} {env : ℕ → Attempt}
    {modelID : String} {body : Bytes} {stream : Bool} {x : Exchange} {i : ℕ} {t : Target}
    {o : Outbound}
    (hcontact : .contact i t o ∈
      ((newProxy rt router).chatCompletion env modelID body stream x).2.events)
    (hnot : .contact i t o ∉ x.events) {resp : Reply} (hanswer : (env i).answer rt = .ok resp) :
    ∃ ts k a resp' rest,
      (newProxy rt router).chatCompletion env modelID body stream x =
          (newProxy rt router).tryTargets env body stream 0 (.text "") ts x ∧
        (newProxy rt router).firstRelay env body 0 ts = some (k, a, resp', rest) ∧
        (newProxy rt router).passesOn env modelID body = some k ∧
        (k = i → standardAdapters rt t.provider = some a ∧ resp' = resp) := by
  cases hresolve : router.resolve modelID with
  | none =>
      rw [Proxy.chatCompletion, newProxy, hresolve] at hcontact
      exact absurd hcontact hnot
  | some chain =>
      rcases chain with ⟨primary, fallback⟩
      have hchat : (newProxy rt router).chatCompletion env modelID body stream x =
          (newProxy rt router).tryTargets env body stream 0 (.text "") (primary :: fallback) x := by
        rw [Proxy.chatCompletion]
        simp only [newProxy, hresolve]
      rw [hchat] at hcontact ⊢
      rcases (Proxy.prepare_of_contact hcontact).resolve_left hnot with ⟨n, a, ht, hn, hprep⟩
      rw [Nat.zero_add] at hn
      subst hn
      rcases Proxy.firstRelay_of_answer ht (by rwa [Nat.zero_add]) (by rwa [Nat.zero_add]) with
        ⟨k, a', resp', rest, hfirst, hsame⟩
      rw [Nat.zero_add] at hsame
      have hpasses : (newProxy rt router).passesOn env modelID body = some k := by
        have hrouter : (newProxy rt router).router.resolve modelID = some (primary, fallback) :=
          hresolve
        rw [Proxy.passesOn, hrouter, Option.bind_some, hfirst, Option.map_some]
      refine ⟨primary :: fallback, k, a', resp', rest, rfl, hfirst, hpasses, fun hk => ?_⟩
      rcases hsame hk with ⟨rfl, rfl⟩
      exact ⟨(Proxy.prepare_eq_ok_iff.1 hprep).1, rfl⟩

/-- For an upstream's answer of `4xx` but `429` with a body in its provider's error format, the
client reads the upstream's message, under the upstream's status, exactly when nothing was passed
on to the client before and the provider is not Anthropic. -/
theorem reportsError_iff (rt : Runtime) (router : Router) (env : ℕ → Attempt) (modelID : String)
    (body : Bytes) (stream : Bool) {finish : Option GoError × Exchange → Exchange}
    (hfinish : finish = conclude ∨ finish = concludePassed) {x : Exchange}
    (hx : ∀ e ∈ x.events, ∃ key value, e = .setHeader key value)
    (hfault : ∀ n, x.fault n = none) {i : ℕ} {t : Target} {o : Outbound}
    (hcontact : .contact i t o ∈
      ((newProxy rt router).chatCompletion env modelID body stream x).2.events)
    {resp : Reply} (hreply : (env i).reply = .ok resp)
    (hstatus : 400 ≤ resp.status ∧ resp.status < 500 ∧ resp.status ≠ 429)
    (heof : resp.readError = none) {cs : List Char} {j : Json} {m : String}
    (hbytes : resp.reads.flatten = encode cs) (hparse : parse cs = some j)
    (hformat : ErrorFormat t.provider m j) :
    ReportsError i resp.status m
        (finish ((newProxy rt router).chatCompletion env modelID body stream x)) ↔
      (newProxy rt router).passesOn env modelID body = some i ∧ t.provider ≠ "anthropic" := by
  have hline : ∀ e ∈ x.events, e.statusLine = none := by
    intro e he
    rcases hx e he with ⟨key, value, rfl⟩
    rfl
  have hnil : x.body = [] := by
    refine List.flatMap_eq_nil_iff.2 fun e he => ?_
    rcases hx e he with ⟨key, value, rfl⟩
    rfl
  have hnocontact : .contact i t o ∉ x.events := by
    intro hmem
    rcases hx _ hmem with ⟨key, value, hheader⟩
    cases hheader
  have hanswer : (env i).answer rt = .ok resp := by
    have hnot : ¬ (resp.status ≥ 500 ∨ resp.status = 429) := by omega
    simp only [Attempt.answer, hreply, hnot, if_false]
  rcases firstRelay_of_contact hcontact hnocontact hanswer with
    ⟨ts, k, a, resp', rest, hchat, hfirst, hpasses, hsame⟩
  have hsent := statusLine_of_firstRelay stream hfinish hline hfirst (.text "")
  rw [hchat, hpasses]
  by_cases hk : k = i
  · subst hk
    rcases hsame rfl with ⟨hadapter, rfl⟩
    simp only [true_and]
    exact reportsError_firstRelay_iff hfinish hline hnil hfault hfirst hadapter heof hbytes
      hparse hformat (.text "")
  · constructor
    · intro hreports
      -- The status line is that of the reply in front.
      have hboth := hsent.symm.trans hreports.status
      rw [Option.some.injEq, Prod.mk.injEq, Source.target.injEq] at hboth
      exact absurd hboth.1 hk
    · rintro ⟨hki, -⟩
      exact absurd (Option.some.inj hki) hk

/-! ## An unknown model -/

/-- The body of a `404`; OpenAI has no member `type` beside `error`. -/
def notFoundTree (type : List (String × Json)) : Json :=
  .obj (type ++
    [("error", .obj [("type", .str "not_found_error"), ("message", .str "model: claude-4")])])

theorem errorFormat_notFound :
    ErrorFormat "openai" "model: claude-4" (notFoundTree []) ∧
      ErrorFormat "anthropic" "model: claude-4" (notFoundTree [("type", .str "error")]) := by
  constructor
  · refine { message := by decide +kernel, members := ⟨_, rfl, ?_⟩ }
    simp [errorMember]
  · refine { message := by decide +kernel, members := ⟨_, rfl, ?_⟩ }
    simp [errorMember]

/-- An upstream that answers every request so. -/
def notFound (type : List (String × Json)) : ℕ → Attempt := fun _ =>
  { reply := .ok
      { status := 404, contentType := "application/json", reads := [marshal (notFoundTree type)] } }

def quiet : Exchange where
  fault := fun _ => none
  flusher := false

/-- `claude-4` at Anthropic. -/
def anthropicOnly : Router :=
  Router.load
    { providers := (∅ : AList fun _ : String => ProviderConfig).insert "anthropic"
        { baseURL := "https://api.anthropic.com/v1", keyEnv := "ANTHROPIC_API_KEY", headers := ∅ }
      models := [{ id := "claude-4", provider := "anthropic", fallback := [] }] }

/-- The client reads an empty completion, or an event stream that ends at once. -/
theorem anthropic_error_is_lost :
    ErrorFormat "anthropic" "model: claude-4" (notFoundTree [("type", .str "error")]) ∧
      ∀ stream,
        ((newProxy plainRuntime anthropicOnly).chatCompletion
            (notFound [("type", .str "error")]) "claude-4" (marshal (.obj [])) stream
            quiet).1 = none ∧
          ¬ ReportsError 0 404 "model: claude-4"
            (conclude
              ((newProxy plainRuntime anthropicOnly).chatCompletion
                (notFound [("type", .str "error")]) "claude-4" (marshal (.obj [])) stream
                quiet)) := by
  refine ⟨errorFormat_notFound.2, ?_⟩
  rintro (_ | _)
  · exact ⟨rfl, not_reportsError_of_blankAnswer false (by decide +kernel)⟩
  · exact ⟨rfl, not_reportsError_of_blankAnswer true (by decide +kernel)⟩

theorem reportsError_iff_openAI :
    ReportsError 0 404 "model: claude-4"
      (conclude ((newProxy plainRuntime twoProviders).chatCompletion (notFound []) "gpt-4o" [] true
        quiet)) := by
  refine (reportsError_iff plainRuntime twoProviders (notFound []) "gpt-4o" [] true (.inl rfl)
    (x := quiet) (i := 0) (t := { provider := "openai", model := "gpt-4o" }) (by simp [quiet])
    (fun _ => rfl) (List.mem_of_getElem? (i := 0) rfl) rfl (by decide) rfl (List.append_nil _)
    (parse_render _) errorFormat_notFound.1).2 ⟨rfl, by decide⟩

end Gateway
end OpenRouter
