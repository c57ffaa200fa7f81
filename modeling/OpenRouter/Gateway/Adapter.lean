import Mathlib.Data.List.AList
import OpenRouter.Base.Json
import OpenRouter.Base.Utf8

/-!
# Adapter — errors, routing shapes and the provider interface

The vocabulary of the outbound side: Go's errors as the callers look at them, the shapes of
`shared/model`, and the `ProviderAdapter` and `StreamTranslator` interfaces.
-/

namespace OpenRouter
namespace Gateway

open Base

/-! ## Errors -/

/-- An error, as `Error()` and `errors.Is` see it. -/
inductive GoError
  | canceled
  | deadlineExceeded
  | text (msg : String)
  /-- `fmt.Errorf("…: %w", err)`, and the `url.Error` of an HTTP client. -/
  | wrap (context : String) (err : GoError)

namespace GoError

/-- `Error()`. -/
def error : GoError → String
  | canceled => "context canceled"
  | deadlineExceeded => "context deadline exceeded"
  | text msg => msg
  | wrap context err => context ++ ": " ++ err.error

/-- `errors.Is(err, context.Canceled)`. -/
def isCanceled : GoError → Bool
  | canceled => true
  | wrap _ err => err.isCanceled
  | _ => false

@[simp] theorem isCanceled_wrap (context : String) (err : GoError) :
    (wrap context err).isCanceled = err.isCanceled := rfl

end GoError

/-! ## The runtime -/

/-- What the process takes from its surroundings and from library tables. -/
structure Runtime where
  getenv : String → String
  /-- `strconv.IsPrint` outside ASCII. -/
  isPrintWide : Char → Bool
  /-- The error text of `json.Unmarshal` for a body that does not fit the named type. -/
  unmarshalError : String → Bytes → String
  /-- The literal that `json.Marshal` prints of the `float64` that a literal is read as; `none`
  when it is out of range. -/
  float64 : Number → Option Number
  sha256Hex : Bytes → String
  unixNow : ℤ

namespace Runtime

variable (rt : Runtime)

def isPrint (c : Char) : Bool :=
  if c.toNat < 128 then 32 ≤ c.toNat && c.toNat < 127 else rt.isPrintWide c

/-- One character of `strconv.Quote`. -/
def quoteRune (c : Char) : List Char :=
  if c = '"' ∨ c = '\\' then ['\\', c]
  else if rt.isPrint c then [c]
  else if c = '\x07' then ['\\', 'a']
  else if c = '\x08' then ['\\', 'b']
  else if c = '\x0c' then ['\\', 'f']
  else if c = '\n' then ['\\', 'n']
  else if c = '\r' then ['\\', 'r']
  else if c = '\t' then ['\\', 't']
  else if c = '\x0b' then ['\\', 'v']
  else if c.toNat < 32 ∨ c.toNat = 127 then
    ['\\', 'x', hexDigit (c.toNat / 16), hexDigit (c.toNat % 16)]
  else if c.toNat < 0x10000 then unicodeEscape c.toNat
  else
    ['\\', 'U', '0', '0', hexDigit (c.toNat / 0x100000), hexDigit (c.toNat / 0x10000 % 16),
      hexDigit (c.toNat / 4096 % 16), hexDigit (c.toNat / 256 % 16), hexDigit (c.toNat / 16 % 16),
      hexDigit (c.toNat % 16)]

/-- `%q`. -/
def quote (s : String) : String :=
  String.ofList ('"' :: (s.toList.flatMap rt.quoteRune ++ ['"']))

end Runtime

/-! ## Routing shapes -/

structure Target where
  provider : String
  model : String
  deriving DecidableEq

structure ModelEntry where
  id : String
  provider : String
  fallback : List Target

structure ProviderConfig where
  baseURL : String
  keyEnv : String
  headers : AList fun _ : String => String

/-! ## Adapters -/

structure UpstreamRequest where
  path : String
  headers : AList fun _ : String => String
  body : Bytes

/-- One translator.  `translate` and `close` give the writes they make in order, each of which
ends the call when it fails, and how the call ends when none does. -/
structure StreamTranslator where
  State : Type
  start : State
  translate : State → Bytes → List Bytes × Except GoError State
  close : State → List Bytes × Except GoError State

structure ProviderAdapter where
  name : String
  normalizeRequest : String → Bytes → ProviderConfig → Except GoError UpstreamRequest
  normalizeResponse : Bytes → Except GoError Bytes
  newStreamTranslator : StreamTranslator

/-- `NewPassthroughTranslator`. -/
def passthroughTranslator : StreamTranslator where
  State := Unit
  start := ()
  translate := fun _ chunk => ([chunk], .ok ())
  close := fun _ => ([], .ok ())

end Gateway
end OpenRouter
