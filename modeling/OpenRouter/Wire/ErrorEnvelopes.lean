import OpenRouter.Backend.Errors
import OpenRouter.Cli.Chat
import OpenRouter.Frontend.ApiClient

/-!
# ErrorEnvelopes — an exception of the backend, as its two clients report it

The envelope that `api/errors.py` writes is read by `fromResponse` of the frontend and by
`assertOk` of the CLI.  `reported_of_raised` follows every exception through the bytes and the
retries to the error that the user of either client gets.
-/

namespace OpenRouter
namespace Wire

open Base Backend

/-! ## The bytes -/

theorem json_of_body (r : ErrorReply) : parse (utf8Text r.body) = some r.tree := by
  have hstart : ∃ cs, r.tree.write compact 0 = '\x7b' :: cs := by
    rw [ErrorReply.tree, Json.write]
    exact ⟨_, rfl⟩
  rcases hstart with ⟨cs, hcs⟩
  rw [ErrorReply.body, hcs, utf8Text_encode (by decide), ← hcs]
  exact parse_write compact _

theorem property_error (r : ErrorReply) :
    property "message" (property "error" (some r.tree)) = some (.str r.message) ∧
      property "code" (property "error" (some r.tree)) = some (.str r.code) ∧
      property "param" (property "error" (some r.tree)) = r.param.map .str := by
  cases hparam : r.param <;>
    simp [ErrorReply.tree, property, lastMember, hparam]

/-! ## The two readers -/

/-- The response of the backend as `fetch` hands it over. -/
def fetched (e : Escaped) (statusText : String) : Frontend.Response where
  status := e.reply.status
  statusText := statusText
  contentType := some "application/json"
  body := some e.reply.body

/-- The same response as the CLI reads it. -/
def delivered (e : Escaped) : Cli.HttpReply where
  statusCode := e.reply.status
  body := some e.reply.body

/-- What the frontend reports of an exception. -/
def reported (e : Escaped) (statusText : String) : Frontend.Errors.DomainError where
  kind := Frontend.Errors.kindOf e.reply.status
  status := e.reply.status
  message :=
    -- Only an empty message gives way to the text of the status.
    if e.reply.message = "" then
      if statusText = "" then "Request failed" else statusText
    else e.reply.message
  code := some (.str e.reply.code)
  param := e.reply.param.map .str
  retryAfterSeconds := none

theorem fromResponse_fetched (rt : JsRuntime) (e : Escaped) (statusText : String) :
    Frontend.Errors.fromResponse rt (fetched e statusText) = reported e statusText := by
  rcases property_error e.reply with ⟨hmessage, hcode, hparam⟩
  have hjson : (fetched e statusText).json = some e.reply.tree := by
    rw [Frontend.Response.json, fetched, Option.bind_some, json_of_body]
  simp only [Frontend.Errors.fromResponse, hjson, hmessage, hcode, hparam]
  by_cases hempty : e.reply.message = ""
  · simp only [truthy, reported, hempty]
    rfl
  · simp [truthy, reported, fetched, hempty, JsRuntime.stringOf]

/-- What the CLI throws for a status outside the 200s and a message. -/
def cliError (status : ℕ) (message : String) : Cli.CliError :=
  if status = 401 ∨ status = 403 then .auth message
  else if status = 400 ∨ status = 422 then .validation message
  else if status = 429 then .rateLimit message none
  else .server message status

theorem assertOk_delivered (rt : JsRuntime) (e : Escaped) :
    Cli.assertOk rt (delivered e).toReplyHead (delivered e).json =
      .error (cliError e.reply.status e.reply.message) := by
  have hjson : (delivered e).json = some e.reply.tree := by
    rw [Cli.HttpReply.json, delivered, Option.bind_some, json_of_body]
  have hstatus := status_of_escaped e
  have hfailed : ¬ (200 ≤ e.reply.status ∧ e.reply.status < 300) := by omega
  have hmessage : Cli.errorMessage rt e.reply.status (some e.reply.tree) = e.reply.message := by
    rw [Cli.errorMessage, (property_error e.reply).1]
    rfl
  rw [hjson]
  simp only [Cli.assertOk, delivered, hmessage, hfailed, if_false, Cli.parseRetryAfter, cliError]
  split_ifs <;> rfl

/-! ## What is reported -/

theorem ok_fetched (e : Escaped) (statusText : String) : (fetched e statusText).ok = false := by
  have hstatus := status_of_escaped e
  have hover : ¬ e.reply.status < 300 := by omega
  simp [Frontend.Response.ok, fetched, hover]

theorem transient_fetched_iff (e : Escaped) (statusText : String) :
    Frontend.Transient (.ok (fetched e statusText)) ↔
      e.reply.status ∈ Frontend.retryableStatus := by
  constructor
  · rintro ⟨response, hresponse, -, hmem⟩
    cases hresponse
    exact hmem
  · exact fun hmem => ⟨_, rfl, ok_fetched e statusText, hmem⟩

theorem requestJson_delivered (rt : JsRuntime) (api : Cli.ApiClient) (e : Escaped) :
    api.requestJson rt (.ok (delivered e)) =
      .error (cliError e.reply.status e.reply.message) := by
  have hkept : api.normaliseTransport (.cli (cliError e.reply.status e.reply.message)) =
      cliError e.reply.status e.reply.message := by
    unfold cliError
    split_ifs <;> rfl
  rw [Cli.ApiClient.requestJson]
  simp only [assertOk_delivered, hkept]

theorem exitCode_cliError (status : ℕ) (message : String) :
    (cliError status message).message = message ∧
      ((cliError status message).exitCode = 1 ↔ status ∈ [400, 401, 403, 422]) := by
  unfold cliError
  split_ifs <;> simp [Cli.CliError.message, Cli.CliError.exitCode] <;> omega

/-- Whatever the backend raises at each attempt of a request, the frontend reports the one that it
stops at, with its status, message, code and parameter, and stops where the request may not be
repeated or the status is not transient; and the CLI throws an error with the same message, whose
exit code tells an error of the user from one of the service. -/
theorem reported_of_raised (rt : JsRuntime) (w : Frontend.Weather) (raised : ℕ → Escaped)
    (statusText : ℕ → String)
    (hfetch : ∀ k, w.fetch k = .ok (fetched (raised k) (statusText k)))
    (baseUrl method path : String) (body bearerToken : Option String) (retries : ℕ)
    (hbase : Frontend.hasScheme baseUrl = true) :
    (∃ n, (Frontend.request rt w baseUrl method path body bearerToken retries).outcome =
          .domain (reported (raised n) (statusText n)) ∧
        (Frontend.request rt w baseUrl method path body bearerToken retries).sent.length = n + 1 ∧
        (∀ k < n, (raised k).reply.status ∈ Frontend.retryableStatus) ∧
        (n = retries ∨ (raised n).reply.status ∉ Frontend.retryableStatus ∨
          method.toUpper ∉ Frontend.idempotentMethods)) ∧
      ∀ (api : Cli.ApiClient) (e : Escaped), ∃ err,
        api.requestJson rt (.ok (delivered e)) = .error err ∧
        err.message = e.reply.message ∧
        (err.exitCode = 1 ↔ e.reply.status ∈ [400, 401, 403, 422]) := by
  have htransient : ∀ k, Frontend.Transient (w.fetch k) ↔
      (raised k).reply.status ∈ Frontend.retryableStatus := fun k => by
    rw [hfetch k, transient_fetched_iff]
  constructor
  · rcases Frontend.attempts_attemptFrom rt w
      (Frontend.apiRequest baseUrl method path body bearerToken)
      (Frontend.idempotentMethods.contains method.toUpper) retries 0 with ⟨n, h⟩
    have hstops := h.stops
    have houtcome := h.outcome
    simp only [Nat.zero_add] at hstops houtcome
    refine ⟨n, ?_⟩
    rw [Frontend.request, if_pos hbase]
    refine ⟨?_, ?_, fun k hk => ?_, ?_⟩
    · rw [houtcome, hfetch n, Frontend.settle, ok_fetched, fromResponse_fetched]
      rfl
    · rw [h.sent, List.length_replicate]
    · have hagain := h.again k hk
      rwa [Nat.zero_add, htransient] at hagain
    · by_cases hmethod : method.toUpper ∈ Frontend.idempotentMethods
      · by_cases hstatus : (raised n).reply.status ∈ Frontend.retryableStatus
        · have hle := hstops ((htransient n).2 hstatus) (List.contains_iff_mem.2 hmethod)
          rcases Nat.eq_zero_or_pos n with rfl | hn
          · exact .inl (Nat.le_zero.1 hle).symm
          · have hge := (h.bound hn).2
            exact .inl (by omega)
        · exact .inr (.inl hstatus)
      · exact .inr (.inr hmethod)
  · intro api e
    exact ⟨_, requestJson_delivered rt api e, exitCode_cliError _ _⟩

/-! ### Out of credits -/

/-- Every attempt is told that too many requests were made; then the balance is used up. -/
def thirdOutOfCredits (k : ℕ) : Escaped :=
  if k < 2 then .domain .rateLimited "" else .domain .insufficientCredits "Insufficient \"credits\""

/-- The reason phrase goes with the status. -/
def reasonPhrase (k : ℕ) : String :=
  if k < 2 then "Too Many Requests" else "Payment Required"

def calmWeather (raised : ℕ → Escaped) : Frontend.Weather :=
  .calm fun k => .ok (fetched (raised k) (reasonPhrase k))

theorem reported_of_raised_credits :
    (∃ n, (Frontend.request Cli.Chat.plainJs (calmWeather thirdOutOfCredits)
          "http://backend:8000" "get" "/v1/keys").outcome =
          .domain (reported (thirdOutOfCredits n) (reasonPhrase n)) ∧
        (Frontend.request Cli.Chat.plainJs (calmWeather thirdOutOfCredits)
          "http://backend:8000" "get" "/v1/keys").sent.length = n + 1 ∧
        (∀ k < n, (thirdOutOfCredits k).reply.status ∈ Frontend.retryableStatus) ∧
        (n = 2 ∨ (thirdOutOfCredits n).reply.status ∉ Frontend.retryableStatus ∨
          "get".toUpper ∉ Frontend.idempotentMethods)) ∧
      ∀ (api : Cli.ApiClient) (e : Escaped), ∃ err,
        api.requestJson Cli.Chat.plainJs (.ok (delivered e)) = .error err ∧
        err.message = e.reply.message ∧
        (err.exitCode = 1 ↔ e.reply.status ∈ [400, 401, 403, 422]) :=
  reported_of_raised Cli.Chat.plainJs (calmWeather thirdOutOfCredits) thirdOutOfCredits
    reasonPhrase (fun _ => rfl) "http://backend:8000" "get" "/v1/keys" none none 2 (by decide)

end Wire
end OpenRouter
