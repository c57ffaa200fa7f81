import OpenRouter.Base.JsValues
import OpenRouter.Base.JsonStyles
import OpenRouter.Cli.SseChunks

/-!
# ApiClient — the CLI's requests and the errors they end in

`ApiClient` of `repository/api-client.ts` over an HTTP client that may answer anything, and the
error hierarchy of `shared/errors.ts` with its exit codes.
-/

namespace OpenRouter
namespace Cli

open Base

/-! ## Errors -/

/-- `CliError` and the classes below it. -/
inductive CliError
  | auth (message : String)
  | validation (message : String)
  | config (message : String)
  | network (message : String)
  | server (message : String) (status : ℕ)
  | rateLimit (message : String) (retryAfterSeconds : Option String)

namespace CliError

def exitCode : CliError → ℕ
  | auth _ | validation _ | config _ => 1
  | network _ | server _ _ | rateLimit _ _ => 2

def message : CliError → String
  | auth m | validation m | config m | network m | server m _ | rateLimit m _ => m

def friendlyMessage : CliError → String
  | auth m => m ++ "\n\nTry: openrouter login"
  | rateLimit m (some seconds) => m ++ "\nRetry after " ++ seconds ++ "s."
  | config m => m ++ "\n\nCheck the config file or run with --base-url <url>."
  | network m => m ++ "\n\nCheck your network connection."
  | e => e.message

end CliError

/-- A value that is thrown: one of the CLI's errors, or another `Error` with its `code`. -/
inductive Thrown
  | cli (e : CliError)
  | error (message : String) (code : Option String)

/-- The exit code and what goes to `stderr`. -/
structure Exit where
  code : ℕ
  stderr : String

def exitWithError : Thrown → Exit
  | .cli e => { code := e.exitCode, stderr := "error: " ++ e.friendlyMessage ++ "\n" }
  | .error message _ => { code := 2, stderr := "error: " ++ message ++ "\n" }

/-! ## Requests -/

structure HttpRequest where
  method : String
  url : String
  headers : List (String × String)
  body : Option (List Char) := none

structure ApiClient where
  baseUrl : String
  token : Option String := none
  userAgent : String := ""
  timeoutMs : ℕ := 60000

namespace ApiClient

variable (api : ApiClient)

/-- `baseUrl.replace(/\/$/, '')`, and the path with a slash in front. -/
def url (path : String) : String :=
  let base := api.baseUrl.toList
  let front := if base.getLast? = some '/' then base.dropLast else base
  String.ofList front ++ (if path.toList.head? = some '/' then path else "/" ++ path)

def headers (accept contentType : String) : List (String × String) :=
  [("user-agent", api.userAgent), ("accept", accept), ("content-type", contentType)] ++
    match api.token with
    -- An empty token is falsy.
    | some token => if token = "" then [] else [("authorization", "Bearer " ++ token)]
    | none => []

end ApiClient

/-! ## Replies -/

/-- The head of a reply; a header that comes more than once is an array. -/
structure ReplyHead where
  statusCode : ℕ
  retryAfter : List String := []

/-- A reply whose body is read as a whole; `none` when reading it fails. -/
structure HttpReply extends ReplyHead where
  body : Option Bytes
  /-- What `json()` and `dump()` throw, when they do. -/
  unreadable : Thrown := .error "terminated" none

/-- `res.body.json()`. -/
def HttpReply.json (res : HttpReply) : Option Json :=
  res.body.bind fun bs => parse (utf8Text bs)

def parseRetryAfter (rt : JsRuntime) : List String → Option String
  | [] => none
  | [value] => if value = "" then none else rt.finiteNumber value
  | value :: _ => rt.finiteNumber value

/-- `body?.error?.message ?? …`, as the constructor of `Error` stores it. -/
def errorMessage (rt : JsRuntime) (statusCode : ℕ) (body : Option Json) : String :=
  match property "message" (property "error" body) with
  | none | some .null => "HTTP " ++ toString statusCode
  | some v => rt.stringOf v

/-- `assertOk`; the body is read only for a status outside the 200s. -/
def assertOk (rt : JsRuntime) (head : ReplyHead) (body : Option Json) : Except CliError Unit :=
  let message := errorMessage rt head.statusCode body
  if 200 ≤ head.statusCode ∧ head.statusCode < 300 then .ok ()
  else if head.statusCode = 401 ∨ head.statusCode = 403 then .error (.auth message)
  else if head.statusCode = 400 ∨ head.statusCode = 422 then .error (.validation message)
  else if head.statusCode = 429 then
    .error (.rateLimit message (parseRetryAfter rt head.retryAfter))
  else .error (.server message head.statusCode)

namespace ApiClient

variable (api : ApiClient)

def normaliseTransport : Thrown → CliError
  | .cli (.auth m) => .auth m
  | .cli (.validation m) => .validation m
  | .cli (.server m status) => .server m status
  | .cli (.rateLimit m after) => .rateLimit m after
  | .cli (.config m) => .network m
  | .cli (.network m) => .network m
  | .error message code =>
      if code = some "ABORT_ERR" ∨ code = some "UND_ERR_ABORTED" then
        .network ("Request timed out after " ++ toString api.timeoutMs ++ "ms")
      else
        match code with
        | some c =>
            if c = "ENOTFOUND" ∨ c = "ECONNREFUSED" ∨ c = "ECONNRESET" then
              .network ("Cannot reach " ++ api.baseUrl ++ ": " ++ c)
            else .network message
        | none => .network message

/-- `requestJson`, once the HTTP client has answered or thrown. -/
def requestJson (rt : JsRuntime) (fetched : Except Thrown HttpReply) : Except CliError Json :=
  match fetched with
  | .error err => .error (api.normaliseTransport err)
  | .ok res =>
      match assertOk rt res.toReplyHead res.json with
      | .error e => .error (api.normaliseTransport (.cli e))
      | .ok () =>
          match res.json with
          | some j => .ok j
          | none => .error (api.normaliseTransport res.unreadable)

/-- `requestVoid`; a body that cannot be drained is an error too. -/
def requestVoid (rt : JsRuntime) (fetched : Except Thrown HttpReply) : Except CliError Unit :=
  match fetched with
  | .error err => .error (api.normaliseTransport err)
  | .ok res =>
      match assertOk rt res.toReplyHead res.json with
      | .error e => .error (api.normaliseTransport (.cli e))
      | .ok () =>
          match res.body with
          | some _ => .ok ()
          | none => .error (api.normaliseTransport res.unreadable)

end ApiClient

/-! ## Chat completions -/

inductive Role
  | system
  | user
  | assistant
  | tool
  deriving DecidableEq

def Role.name : Role → String
  | .system => "system"
  | .user => "user"
  | .assistant => "assistant"
  | .tool => "tool"

structure ChatMessage where
  role : Role
  content : String
  deriving DecidableEq

def ChatMessage.tree (m : ChatMessage) : Json :=
  .obj [("role", .str m.role.name), ("content", .str m.content)]

structure ChatCompletionRequest where
  model : String
  messages : List ChatMessage

/-- `{ ...req, stream: true }`. -/
def ChatCompletionRequest.tree (req : ChatCompletionRequest) : Json :=
  .obj [("model", .str req.model), ("messages", .arr (req.messages.map ChatMessage.tree)),
    ("stream", .bool true)]

/-- The request of `chatCompletionStream`. -/
def ApiClient.streamRequest (api : ApiClient) (req : ChatCompletionRequest) : HttpRequest where
  method := "POST"
  url := api.url "/chat/completions"
  headers := api.headers "text/event-stream" "application/json"
  body := some (req.tree.write compact 0)

/-- A reply to a streamed request: an error has a body that is read as a whole, a stream comes in
pieces, and reading it may fail behind them. -/
structure StreamReply extends ReplyHead where
  error : Option Bytes := none
  pieces : List Piece := []
  broken : Option Thrown := none

/-- What `parseSseChunks` yields of a body that breaks off, and whether it has returned before. -/
def readBroken (d : TextDecoder) (buffer : List Char) : List Piece → Parsed
  | [] => { chunks := [], done := false }
  | p :: ps =>
      match drain (buffer ++ (p.decode d).1) with
      | (chunks, none) => { chunks := chunks, done := true }
      | (chunks, some rest) =>
          let more := readBroken (p.decode d).2 rest ps
          { chunks := chunks ++ more.chunks, done := more.done }

/-- The chunks that a call of `chatCompletionStream` yields, and what it throws behind them. -/
structure Streamed where
  chunks : List Json
  thrown : Option Thrown

def chatCompletionStream (rt : JsRuntime) (fetched : Except Thrown StreamReply) : Streamed :=
  match fetched with
  | .error err => { chunks := [], thrown := some err }
  | .ok res =>
      match assertOk rt res.toReplyHead (res.error.bind fun bs => parse (utf8Text bs)) with
      | .error e => { chunks := [], thrown := some (.cli e) }
      | .ok () =>
          match res.broken with
          | none => { chunks := (parseSseChunks res.pieces).chunks, thrown := none }
          | some err =>
              let parsed := readBroken {} [] res.pieces
              { chunks := parsed.chunks, thrown := if parsed.done then none else some err }

/-! ## Streams that break off -/

/-- As with a whole body, what is read before it breaks off depends on the text alone. -/
theorem readBroken_eq (ps : List Piece) (d : TextDecoder) {buffer : List Char}
    (hbuffer : drain buffer = ([], some buffer)) :
    readBroken d buffer ps =
      { chunks := (drain (buffer ++ bodyText d ps)).1
        done := (drain (buffer ++ bodyText d ps)).2.isNone } := by
  induction ps generalizing d buffer with
  | nil => rw [bodyText, List.append_nil, hbuffer, readBroken, Option.isNone_some]
  | cons p ps ih =>
      rw [readBroken, bodyText, ← List.append_assoc, drain_append (buffer ++ (p.decode d).1)]
      rcases hdrain : drain (buffer ++ (p.decode d).1) with ⟨chunks, - | rest⟩
      · rfl
      · simp only [ih _ (drain_rest hdrain)]

end Cli
end OpenRouter
