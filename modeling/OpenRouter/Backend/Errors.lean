import OpenRouter.Base.JsonStyles
import OpenRouter.Base.Utf8

/-!
# Errors — every exception as an envelope

The error classes of `service/domain/errors.py` and the handlers that `api/errors.py` registers:
whatever a route raises is answered with one JSON envelope.
-/

namespace OpenRouter
namespace Backend

open Base

/-! ## What is raised -/

/-- `DomainError` and the classes below it. -/
inductive ErrorClass
  | domainError
  | notFound
  | forbidden
  | conflict
  | invalidApiKey
  | insufficientCredits
  | budgetExceeded
  | rateLimited
  | guardrailViolation
  | providerError
  deriving DecidableEq

namespace ErrorClass

def code : ErrorClass → String
  | domainError => "domain_error"
  | notFound => "not_found"
  | forbidden => "forbidden"
  | conflict => "conflict"
  | invalidApiKey => "invalid_api_key"
  | insufficientCredits => "insufficient_credits"
  | budgetExceeded => "budget_exceeded"
  | rateLimited => "rate_limit_exceeded"
  | guardrailViolation => "guardrail_violation"
  | providerError => "provider_error"

def httpStatus : ErrorClass → ℕ
  | domainError | guardrailViolation => 400
  | notFound => 404
  | forbidden => 403
  | conflict => 409
  | invalidApiKey => 401
  | insufficientCredits | budgetExceeded => 402
  | rateLimited => 429
  | providerError => 502

end ErrorClass

/-- One of the errors of a `RequestValidationError`; the parts of `loc` as `str` makes them. -/
structure ValidationIssue where
  loc : List String
  msg : Option String

/-- An exception that leaves a route. -/
inductive Escaped
  | domain (cls : ErrorClass) (message : String)
  | validation (errors : List ValidationIssue)
  /-- Starlette raises these for errors only. -/
  | http (status : ℕ) (detail : String) (error : 400 ≤ status)
  | other

/-! ## The envelope -/

structure ErrorReply where
  status : ℕ
  message : String
  type : String
  code : String
  param : Option String := none

namespace ErrorReply

/-- `_envelope`. -/
def tree (r : ErrorReply) : Json :=
  .obj
    [("error",
      .obj
        ([("message", .str r.message), ("type", .str r.type), ("code", .str r.code)] ++
          r.param.toList.map fun param => ("param", .str param)))]

/-- What `JSONResponse` renders. -/
def body (r : ErrorReply) : Bytes :=
  encode (r.tree.write compact 0)

end ErrorReply

/-- The registered handlers. -/
def Escaped.reply : Escaped → ErrorReply
  | .domain cls message =>
      { status := cls.httpStatus
        message := if message = "" then cls.code else message
        type := "invalid_request_error"
        code := cls.code }
  | .validation errors =>
      let param := ".".intercalate ((errors.head?.map ValidationIssue.loc).getD [])
      { status := 422
        message := (errors.head?.bind ValidationIssue.msg).getD "Invalid request"
        type := "invalid_request_error"
        code := "validation_error"
        param := if param = "" then none else some param }
  | .http status detail _ =>
      { status := status
        message := detail
        type := "invalid_request_error"
        code := "http_" ++ toString status }
  | .other =>
      { status := 500
        message := "Internal server error"
        type := "server_error"
        code := "internal_error" }

theorem status_of_escaped (e : Escaped) : 400 ≤ e.reply.status := by
  cases e with
  | domain cls message =>
      have hclass : 400 ≤ cls.httpStatus := by cases cls <;> decide
      exact hclass
  | validation errors => exact Nat.le_of_ble_eq_true rfl
  | http status detail error => exact error
  | other => exact Nat.le_of_ble_eq_true rfl

end Backend
end OpenRouter
