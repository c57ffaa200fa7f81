import Mathlib.Tactic.Linarith
import Mathlib.Tactic.Ring
import OpenRouter.Base.JsValues
import OpenRouter.Frontend.Bff

/-!
# ApiClient — requests with retries

`ApiClient.request` of `repository/client.ts` over a `fetch` that may do anything, and the errors
that `repository/errors.ts` makes of a response.  `request_attempts` says which of the responses a
request ends with, and what it sends and waits before.
-/

namespace OpenRouter
namespace Frontend

open Base

/-! ## Responses and errors -/

/-- What a request reads of a response; `body` is `none` when reading it fails. -/
structure Response where
  status : ℕ
  statusText : String := ""
  contentType : Option String := none
  retryAfter : Option String := none
  body : Option Bytes := some []

def Response.ok (r : Response) : Bool :=
  200 ≤ r.status && r.status < 300

/-- `response.json()`. -/
def Response.json (r : Response) : Option Json :=
  r.body.bind fun bs => parse (utf8Text bs)

namespace Errors

inductive DomainErrorKind
  | badRequest
  | unauthorized
  | insufficientCredits
  | rateLimited
  | providersUnavailable
  | notFound
  | serverError
  | network
  deriving DecidableEq

structure DomainError where
  kind : DomainErrorKind
  status : ℕ
  message : String
  code : Option Json
  param : Option Json
  retryAfterSeconds : Option String

/-- `STATUS_TO_KIND[status] ?? …`. -/
def kindOf (status : ℕ) : DomainErrorKind :=
  if status = 400 then .badRequest
  else if status = 401 then .unauthorized
  else if status = 402 then .insufficientCredits
  else if status = 404 then .notFound
  else if status = 429 then .rateLimited
  else if status = 503 then .providersUnavailable
  else if status ≥ 500 then .serverError
  else .badRequest

/-- `fromResponse`; a body that is no JSON is passed over. -/
def fromResponse (rt : JsRuntime) (response : Response) : DomainError :=
  let error := property "error" response.json
  let fallback := if response.statusText = "" then "Request failed" else response.statusText
  { kind := kindOf response.status
    status := response.status
    message :=
      match property "message" error with
      | some m => if truthy rt (some m) then rt.stringOf m else fallback
      | none => fallback
    code := property "code" error
    param := property "param" error
    retryAfterSeconds := (given response.retryAfter).bind rt.finiteInt }

end Errors

/-! ## One request -/

open Errors

def retryableStatus : List ℕ :=
  [408, 425, 429, 500, 502, 503, 504]

def idempotentMethods : List String :=
  ["GET", "HEAD", "OPTIONS"]

inductive Value
  | undefined
  | json (j : Json)
  | text (s : List Char)

inductive Outcome
  | value (v : Value)
  | domain (e : DomainError)
  /-- What `new URL`, `fetch` or the reading of a body throws. -/
  | thrown (message : String)

/-- `parse`. -/
def parseResponse (response : Response) : Outcome :=
  if response.status = 204 then .value .undefined
  else if includes "application/json" (response.contentType.getD "") then
    match response.json with
    | some j => .value (.json j)
    | none => .thrown "SyntaxError"
  else
    match response.body with
    | some bs => .value (.text (utf8Text bs))
    | none => .thrown "TypeError: terminated"
where
  /-- `s.includes(part)`. -/
  includes (part s : String) : Bool :=
    s.toList.tails.any fun rest => part.toList.isPrefixOf rest

/-- In milliseconds; `random` is in `[0, 1)`. -/
def backoffMs (attempt : ℕ) (random : ℚ) : ℚ :=
  250 * 2 ^ attempt + random * 100

/-- What the surroundings do at each attempt. -/
structure Weather where
  fetch : ℕ → Except String Response
  random : ℕ → ℚ
  random_nonneg : ∀ n, 0 ≤ random n
  random_lt_one : ∀ n, random n < 1

/-- A weather in which no wait is lengthened. -/
def Weather.calm (fetch : ℕ → Except String Response) : Weather where
  fetch := fetch
  random := fun _ => 0
  random_nonneg := fun _ => le_rfl
  random_lt_one := fun _ => zero_lt_one

/-- What a request has sent and waited, and how it ends. -/
structure Run where
  sent : List Outgoing := []
  waits : List ℚ := []
  outcome : Outcome

section Request

variable (rt : JsRuntime) (w : Weather)

/-- What an attempt ends with if it is the last. -/
def settle : Except String Response → Outcome
  | .error err => .thrown err
  | .ok response =>
      if response.ok then parseResponse response else .domain (fromResponse rt response)

/-- The loop of `request`, from an attempt on; `limit` is the last attempt that it may make. -/
def attemptFrom (out : Outgoing) (allowRetry : Bool) (retries attempt : ℕ) : Run :=
  match w.fetch attempt with
  | .error err => { sent := [out], outcome := .thrown err }
  | .ok response =>
      if response.ok then { sent := [out], outcome := parseResponse response }
      else if !allowRetry || !(retryableStatus.contains response.status) || attempt ≥ retries then
        { sent := [out], outcome := .domain (fromResponse rt response) }
      else
        let more := attemptFrom out allowRetry retries (attempt + 1)
        { sent := out :: more.sent
          waits := backoffMs attempt (w.random attempt) :: more.waits
          outcome := more.outcome }
termination_by retries - attempt
decreasing_by
  simp only [Bool.or_eq_true, decide_eq_true_eq, not_or] at *
  omega

/-- An absolute URL begins with a scheme. -/
def hasScheme (url : String) : Bool :=
  match url.toList with
  | c :: cs =>
      c.isAlpha && (cs.dropWhile fun c => c.isAlphanum || "+-.".toList.contains c).head? == some ':'
  | [] => false

/-- `request`; a base without a scheme makes `new URL` throw. -/
def request (baseUrl method path : String) (body bearerToken : Option String := none)
    (retries : ℕ := 2) : Run :=
  if hasScheme baseUrl then
    attemptFrom rt w (apiRequest baseUrl method path body bearerToken)
      (idempotentMethods.contains method.toUpper) retries 0
  else { outcome := .thrown "TypeError: Invalid URL" }

/-! ## How a request ends -/

/-- A response after which an idempotent request is made again. -/
def Transient (fetched : Except String Response) : Prop :=
  ∃ response, fetched = .ok response ∧ response.ok = false ∧ response.status ∈ retryableStatus

/-- The attempts from one on, up to the `n`-th behind it. -/
structure Attempts (out : Outgoing) (allowRetry : Bool) (retries attempt n : ℕ) (run : Run) :
    Prop where
  sent : run.sent = List.replicate (n + 1) out
  waits : run.waits = (List.range n).map fun k =>
    backoffMs (attempt + k) (w.random (attempt + k))
  outcome : run.outcome = settle rt (w.fetch (attempt + n))
  /-- Every attempt before was turned down for the moment. -/
  again : ∀ k < n, Transient (w.fetch (attempt + k))
  /-- A request that may not be repeated is made once, and one that may be as often as allowed. -/
  bound : 0 < n → allowRetry = true ∧ attempt + n ≤ retries
  stops : Transient (w.fetch (attempt + n)) → allowRetry = true → retries ≤ attempt + n

/-- The attempts of a request that stops at the first. -/
theorem attempts_last {out : Outgoing} {allowRetry : Bool} {retries attempt : ℕ} {outcome : Outcome}
    (houtcome : outcome = settle rt (w.fetch attempt))
    (hstops : Transient (w.fetch attempt) → allowRetry = true → retries ≤ attempt) :
    Attempts rt w out allowRetry retries attempt 0
      { sent := [out], waits := [], outcome := outcome } where
  sent := rfl
  waits := rfl
  outcome := houtcome
  again := by simp
  bound := by simp
  stops := hstops

theorem attempts_attemptFrom (out : Outgoing) (allowRetry : Bool) (retries attempt : ℕ) :
    ∃ n, Attempts rt w out allowRetry retries attempt n
      (attemptFrom rt w out allowRetry retries attempt) := by
  -- Of the four cases of an attempt, the last makes another one.
  fun_induction attemptFrom rt w out allowRetry retries attempt with
  | case1 attempt err hfetch =>
      refine ⟨0, attempts_last rt w ?_ ?_⟩
      · rw [hfetch, settle]
      · rintro ⟨response, hresponse, -⟩
        rw [hfetch] at hresponse
        cases hresponse
  | case2 attempt response hfetch hok =>
      refine ⟨0, attempts_last rt w ?_ ?_⟩
      · rw [hfetch, settle, if_pos hok]
      · rintro ⟨response', hresponse, hfailed, -⟩
        rw [hfetch] at hresponse
        cases hresponse
        rw [hok] at hfailed
        cases hfailed
  | case3 attempt response hfetch hok hlast =>
      refine ⟨0, attempts_last rt w ?_ ?_⟩
      · rw [hfetch, settle, if_neg hok]
      · rintro ⟨response', hresponse, -, hstatus⟩ hallow
        rw [hfetch] at hresponse
        cases hresponse
        simpa [hallow, hstatus] using hlast
  | case4 attempt response hfetch hok hmore more ih =>
      rcases ih with ⟨n, h⟩
      have hstep : ∀ k, attempt + 1 + k = attempt + (k + 1) := fun k => by omega
      simp only [Bool.or_eq_true, Bool.not_eq_true', decide_eq_true_eq, not_or,
        Bool.not_eq_false] at hmore
      rcases hmore with ⟨⟨hallow, hstatus⟩, hleft⟩
      refine ⟨n + 1, { sent := ?_, waits := ?_, outcome := ?_, again := ?_, bound := ?_,
                       stops := ?_ }⟩
      · exact congrArg (out :: ·) h.sent
      · refine (congrArg (List.cons _) h.waits).trans ?_
        simp only [List.range_succ_eq_map, List.map_cons, List.map_map, Nat.add_zero,
          Function.comp_def, hstep]
      · rw [h.outcome, hstep]
      · intro k hk
        cases k with
        | zero => exact ⟨response, hfetch, by simpa using hok, List.contains_iff_mem.1 hstatus⟩
        | succ k =>
            rw [← hstep]
            exact h.again k (Nat.lt_of_succ_lt_succ hk)
      · intro _
        refine ⟨hallow, ?_⟩
        by_cases hn : 0 < n
        · rw [← hstep]
          exact (h.bound hn).2
        · omega
      · rw [← hstep]
        exact h.stops

/-- The waits double, each with up to a tenth of a second on top. -/
theorem sum_backoffMs (n : ℕ) :
    250 * (2 ^ n - 1) ≤ ((List.range n).map fun k => backoffMs k (w.random k)).sum ∧
      ((List.range n).map fun k => backoffMs k (w.random k)).sum ≤ 250 * (2 ^ n - 1) + 100 * n := by
  induction n with
  | zero => simp
  | succ n ih =>
      have hnonneg := w.random_nonneg n
      have hlt := w.random_lt_one n
      rw [List.range_succ, List.map_append, List.sum_append, List.map_singleton,
        List.sum_singleton, backoffMs, Nat.cast_succ, pow_succ]
      constructor <;> linarith [ih.1, ih.2]

/-- A request ends with the first response that is not transient, or with the last that it may ask
for; before that it has sent the same thing every time and waited for twice as long every time.
Under a base without a scheme, such as that of the browser's client, nothing is sent at all. -/
theorem request_attempts (baseUrl method path : String) (body bearerToken : Option String)
    (retries : ℕ) :
    if hasScheme baseUrl then
      ∃ n, Attempts rt w (apiRequest baseUrl method path body bearerToken)
          (idempotentMethods.contains method.toUpper) retries 0 n
          (request rt w baseUrl method path body bearerToken retries) ∧
        250 * (2 ^ n - 1) ≤ (request rt w baseUrl method path body bearerToken retries).waits.sum ∧
        (request rt w baseUrl method path body bearerToken retries).waits.sum ≤
          250 * (2 ^ n - 1) + 100 * n
    else
      request rt w baseUrl method path body bearerToken retries =
        { sent := [], waits := [], outcome := .thrown "TypeError: Invalid URL" } := by
  split_ifs with hbase
  · rcases attempts_attemptFrom rt w (apiRequest baseUrl method path body bearerToken)
      (idempotentMethods.contains method.toUpper) retries 0 with ⟨n, h⟩
    have hwaits := h.waits
    simp only [Nat.zero_add] at hwaits
    refine ⟨n, ?_⟩
    rw [request, if_pos hbase, hwaits]
    exact ⟨h, sum_backoffMs w n⟩
  · exact if_neg hbase

/-- The base of the client in a browser. -/
example : hasScheme "/api/proxy" = false := by decide

end Request

end Frontend
end OpenRouter
