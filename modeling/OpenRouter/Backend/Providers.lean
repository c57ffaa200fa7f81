import Mathlib.Data.List.AList
import OpenRouter.Base.Json
import OpenRouter.Base.Yaml

/-!
# Providers — what the adapters send

The arguments that `OpenAIAdapter` and `AnthropicAdapter` build of a `UnifiedRequest`, once in
`complete` and once in `stream`.  `sendsAlike_iff` says for which requests the two agree.
-/

namespace OpenRouter
namespace Backend
namespace Providers

open Base

/-! ## Requests -/

/-- A message, a dict with distinct keys. -/
abbrev Message : Type :=
  List (String × Json)

/-- `m.get(key)`. -/
def Message.get (key : String) (m : Message) : Option Json :=
  (m.find? fun e => e.1 == key).map Prod.snd

/-- The fields of a `UnifiedRequest` that an adapter reads. -/
structure UnifiedRequest where
  model : String
  messages : List Message
  maxTokens : Option ℤ := none
  temperature : Option PyNumber := none
  tools : Option (List Json) := none
  responseFormat : Option (List (String × Json)) := none
  reasoningEffort : Option String := none

/-! ## Arguments -/

/-- The value of a keyword argument. -/
inductive Argument
  | flag (b : Bool)
  | text (s : String)
  | int (n : ℤ)
  | number (x : PyNumber)
  | messages (ms : List Message)
  | tools (ts : List Json)
  | dict (ms : List (String × Json))

abbrev Arguments : Type :=
  AList fun _ : String => Argument

/-- `kwargs[key] = value` under a condition. -/
def Arguments.setIf (kwargs : Arguments) (key : String) : Option Argument → Arguments
  | some v => kwargs.insert key v
  | none => kwargs

theorem lookup_insert (kwargs : Arguments) (key key' : String) (v : Argument) :
    (kwargs.insert key v).lookup key' = if key' = key then some v else kwargs.lookup key' := by
  by_cases h : key' = key
  · subst h
    simp
  · simp [h]

theorem lookup_setIf (kwargs : Arguments) (key key' : String) (v : Option Argument) :
    (kwargs.setIf key v).lookup key' =
      if key' = key then v.or (kwargs.lookup key') else kwargs.lookup key' := by
  cases v with
  | none => simp [Arguments.setIf]
  | some v =>
      rw [Arguments.setIf, lookup_insert]
      split <;> rfl

/-- `if xs:`. -/
def nonempty {α : Type} (xs : Option (List α)) : Option (List α) :=
  xs.filter fun xs => !xs.isEmpty

def nonemptyText (s : Option String) : Option String :=
  s.filter fun s => s != ""

/-- `model.split("/", 1)[1] if "/" in model else model`. -/
def stripPrefix (model : String) : String :=
  match model.toList.dropWhile (· != '/') with
  | _ :: rest => String.ofList rest
  | [] => model

/-! ## OpenAI -/

namespace OpenAIAdapter

/-- The subclasses send the same to another URL. -/
def completeArguments (req : UnifiedRequest) : Arguments :=
  let kwargs : Arguments :=
    (((∅ : Arguments).insert "model" (.text req.model)).insert "messages"
      (.messages req.messages)).insert "stream" (.flag false)
  let kwargs := kwargs.setIf "max_tokens" (req.maxTokens.map .int)
  let kwargs := kwargs.setIf "temperature" (req.temperature.map .number)
  let kwargs := kwargs.setIf "tools" ((nonempty req.tools).map .tools)
  let kwargs := kwargs.setIf "response_format" ((nonempty req.responseFormat).map .dict)
  kwargs.setIf "reasoning_effort" ((nonemptyText req.reasoningEffort).map .text)

def streamArguments (req : UnifiedRequest) : Arguments :=
  let kwargs : Arguments :=
    (((∅ : Arguments).insert "model" (.text req.model)).insert "messages"
      (.messages req.messages)).insert "stream" (.flag true)
  kwargs.setIf "max_tokens" (req.maxTokens.map .int)

end OpenAIAdapter

/-! ## Anthropic -/

namespace AnthropicAdapter

section Split

-- `str(v)` of a content that is no text.
variable (repr : Json → String)

/-- `str(m.get("content", ""))`. -/
def contentText (m : Message) : String :=
  match m.get "content" with
  | none => ""
  | some (.str s) => s
  | some v => repr v

/-- `m.get("role") == "system"`. -/
def isSystem (m : Message) : Bool :=
  match m.get "role" with
  | some (.str role) => role == "system"
  | _ => false

/-- The two lists that the loop of `_split_system` fills. -/
def collect : List Message → List String × List Message
  | [] => ([], [])
  | m :: ms =>
      let (parts, rest) := collect ms
      if isSystem m then (contentText repr m :: parts, rest) else (parts, m :: rest)

/-- `_split_system`. -/
def splitSystem (ms : List Message) : Option String × List Message :=
  let (parts, rest) := collect repr ms
  (if parts.isEmpty then none else some ("\n\n".intercalate parts), rest)

/-- The arguments that both methods begin with. -/
def baseArguments (req : UnifiedRequest) : Arguments :=
  let (system, messages) := splitSystem repr req.messages
  let kwargs : Arguments :=
    (((∅ : Arguments).insert "model" (.text (stripPrefix req.model))).insert "messages"
      (.messages messages)).insert "max_tokens"
      (.int ((req.maxTokens.filter fun n => n != 0).getD 4096))
  kwargs.setIf "system" ((nonemptyText system).map .text)

def completeArguments (req : UnifiedRequest) : Arguments :=
  let kwargs := baseArguments repr req
  let kwargs := kwargs.setIf "temperature" (req.temperature.map .number)
  kwargs.setIf "tools" ((nonempty req.tools).map .tools)

def streamArguments (req : UnifiedRequest) : Arguments :=
  baseArguments repr req

end Split

end AnthropicAdapter

/-! ## The two methods -/

inductive Adapter
  | openAI
  | anthropic

section Adapters

variable (repr : Json → String)

def Adapter.completeArguments : Adapter → UnifiedRequest → Arguments
  | openAI => OpenAIAdapter.completeArguments
  | anthropic => AnthropicAdapter.completeArguments repr

def Adapter.streamArguments : Adapter → UnifiedRequest → Arguments
  | openAI => OpenAIAdapter.streamArguments
  | anthropic => AnthropicAdapter.streamArguments repr

/-- The provider is sent the same on both paths, the stream switch apart. -/
def SendsAlike (adapter : Adapter) (req : UnifiedRequest) : Prop :=
  ∀ key, key ≠ "stream" →
    (adapter.streamArguments repr req).lookup key = (adapter.completeArguments repr req).lookup key

/-- The request has nothing that only `complete` passes on. -/
def Plain (adapter : Adapter) (req : UnifiedRequest) : Prop :=
  req.temperature = none ∧ nonempty req.tools = none ∧
    match adapter with
    | .openAI => nonempty req.responseFormat = none ∧ nonemptyText req.reasoningEffort = none
    | .anthropic => True

theorem sendsAlike_openAI_iff (req : UnifiedRequest) :
    SendsAlike repr .openAI req ↔ Plain .openAI req := by
  simp only [SendsAlike, Plain, Adapter.streamArguments, Adapter.completeArguments,
    OpenAIAdapter.streamArguments, OpenAIAdapter.completeArguments, lookup_setIf, lookup_insert,
    AList.lookup_empty]
  constructor
  · intro h
    -- Under these four keys `stream` never has anything.
    have htemperature := h "temperature" (by decide)
    have htools := h "tools" (by decide)
    have hformat := h "response_format" (by decide)
    have heffort := h "reasoning_effort" (by decide)
    simp only [String.reduceEq, if_false, if_true, Option.or_none]
      at htemperature htools hformat heffort
    exact ⟨Option.map_eq_none_iff.1 htemperature.symm, Option.map_eq_none_iff.1 htools.symm,
      Option.map_eq_none_iff.1 hformat.symm, Option.map_eq_none_iff.1 heffort.symm⟩
  · rintro ⟨htemperature, htools, hformat, heffort⟩ key hkey
    simp only [htemperature, htools, hformat, heffort, hkey, Option.map_none, Option.none_or,
      ite_self, if_false]

/-- No part of what both methods begin with is a setting of `complete`. -/
theorem lookup_baseArguments (req : UnifiedRequest) {key : String}
    (h : key = "temperature" ∨ key = "tools") :
    (AnthropicAdapter.baseArguments repr req).lookup key = none := by
  simp only [AnthropicAdapter.baseArguments, lookup_setIf, lookup_insert, AList.lookup_empty]
  rcases h with rfl | rfl <;> simp only [String.reduceEq, if_false]

theorem sendsAlike_anthropic_iff (req : UnifiedRequest) :
    SendsAlike repr .anthropic req ↔ Plain .anthropic req := by
  simp only [SendsAlike, Plain, Adapter.streamArguments, Adapter.completeArguments,
    AnthropicAdapter.streamArguments, AnthropicAdapter.completeArguments, lookup_setIf, and_true]
  constructor
  · intro h
    have htemperature := h "temperature" (by decide)
    have htools := h "tools" (by decide)
    simp only [String.reduceEq, if_false, if_true, lookup_baseArguments repr req (.inl rfl),
      lookup_baseArguments repr req (.inr rfl), Option.or_none] at htemperature htools
    exact ⟨Option.map_eq_none_iff.1 htemperature.symm, Option.map_eq_none_iff.1 htools.symm⟩
  · rintro ⟨htemperature, htools⟩ key _
    simp only [htemperature, htools, Option.map_none, Option.none_or, ite_self]

/-- Both adapters send the same on both paths exactly when the request has no temperature and no
tools, and for OpenAI neither a response format nor a reasoning effort. -/
theorem sendsAlike_iff (adapter : Adapter) (req : UnifiedRequest) :
    SendsAlike repr adapter req ↔ Plain adapter req := by
  cases adapter with
  | openAI => exact sendsAlike_openAI_iff repr req
  | anthropic => exact sendsAlike_anthropic_iff repr req

end Adapters

/-- A request with the temperature zero. -/
def coldRequest : UnifiedRequest where
  model := "gpt-4o"
  messages := [[("role", .str "user"), ("content", .str "ok")]]
  temperature := some (.finite 0)

/-- No stream is sampled at the temperature that was asked for. -/
theorem stream_drops_temperature :
    ¬ SendsAlike (fun _ => "") .openAI coldRequest ∧
      ¬ SendsAlike (fun _ => "") .anthropic coldRequest := by
  constructor
  · intro h
    have htemperature := h "temperature" (by decide)
    cases htemperature
  · intro h
    have htemperature := h "temperature" (by decide)
    cases htemperature

end Providers
end Backend
end OpenRouter
