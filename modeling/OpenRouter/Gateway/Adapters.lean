import Mathlib.Data.Nat.Digits.Defs
import OpenRouter.Gateway.Unmarshal

/-!
# Adapters — OpenAI, Google and Anthropic

The adapters that `proxy.New` wires.  The first two pass the client's body on as it came; the
Anthropic adapter reads it into a struct and writes a body of its own.
-/

namespace OpenRouter
namespace Gateway

open Base

/-! ## Shared pieces -/

def stripProviderPrefix (model : String) : String :=
  match model.toList.dropWhile (· != '/') with
  | _ :: rest => String.ofList rest
  | [] => model

/-- A header map with the configured headers set over it. -/
def withHeaders (headers extra : AList fun _ : String => String) : AList fun _ : String => String :=
  extra.entries.foldl (fun hs e => hs.insert e.1 e.2) headers

/-! ## Pass-through adapters -/

/-- `adapters.OpenAI`. -/
def openAI (rt : Runtime) : ProviderAdapter where
  name := "openai"
  normalizeRequest := fun _ body cfg =>
    .ok
      { path := "/chat/completions"
        headers := withHeaders
          (((∅ : AList fun _ : String => String).insert "Content-Type" "application/json").insert
            "Authorization" ("Bearer " ++ rt.getenv cfg.keyEnv))
          cfg.headers
        body := body }
  normalizeResponse := .ok
  newStreamTranslator := passthroughTranslator

/-- `adapters.Google`. -/
def google : ProviderAdapter where
  name := "google"
  normalizeRequest := fun modelID body _ =>
    .ok
      { path := "/models/" ++ stripProviderPrefix modelID ++ ":generateContent"
        headers := (∅ : AList fun _ : String => String).insert "Content-Type" "application/json"
        body := body }
  normalizeResponse := .ok
  newStreamTranslator := passthroughTranslator

end Gateway
end OpenRouter
