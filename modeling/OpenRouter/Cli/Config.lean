import OpenRouter.Cli.ApiClient

/-!
# Config — the CLI's preferences on disk

`repository/config.ts`: the schema of `config.json`, and what a process makes of the file.
`readConfig_text` says that a saved configuration is the one that is loaded.
-/

namespace OpenRouter
namespace Cli

open Base

/-! ## The schema -/

inductive AuthBackend
  | keytar
  | encryptedFile
  | auto
  deriving DecidableEq

namespace AuthBackend

def value : AuthBackend → String
  | keytar => "keytar"
  | encryptedFile => "encrypted-file"
  | auto => "auto"

def ofValue (s : String) : Option AuthBackend :=
  [keytar, encryptedFile, auto].find? fun b => b.value = s

theorem ofValue_value (b : AuthBackend) : ofValue b.value = some b := by
  cases b <;> decide

end AuthBackend

def defaultBaseUrl : String :=
  "https://api.openrouter.example.com/api/v1"

/-- The file's place, and what zod and `JSON.parse` say of a text. -/
structure ConfigRuntime where
  configFile : String
  /-- `z.string().url()`. -/
  isUrl : String → Bool
  isUrl_default : isUrl defaultBaseUrl = true
  /-- `parsed.error.message`. -/
  zodMessage : Json → String
  /-- The message of a `SyntaxError`. -/
  syntaxError : List Char → String

variable (rt : ConfigRuntime)

/-- A value that the schema has let through. -/
structure CliConfig where
  baseUrl : String := defaultBaseUrl
  defaultModel : String := "anthropic/claude-sonnet-4-20250514"
  authBackend : AuthBackend := .auto
  isUrl : rt.isUrl baseUrl = true

/-- A field of the schema; only a missing one has its default. -/
def stringField {α : Type} (ms : List (String × Json)) (name : String) (default : α)
    (check : String → Option α) : Option α :=
  match lastMember ms name with
  | none => some default
  | some (.str s) => check s
  | some _ => none

/-- The end of the schema's work, when the fields have their types. -/
def checked (baseUrl defaultModel : String) (authBackend : AuthBackend) :
    Option (CliConfig rt) :=
  if h : rt.isUrl baseUrl = true then
    some
      { baseUrl := baseUrl
        defaultModel := defaultModel
        authBackend := authBackend
        isUrl := h }
  else none

/-- `ConfigSchema.safeParse`; members that the schema does not have are dropped. -/
def safeParse : Json → Option (CliConfig rt)
  | .obj ms => do
      let baseUrl ← stringField ms "baseUrl" defaultBaseUrl some
      let defaultModel ←
        stringField ms "defaultModel" "anthropic/claude-sonnet-4-20250514" some
      let authBackend ← stringField ms "authBackend" .auto AuthBackend.ofValue
      checked rt baseUrl defaultModel authBackend
  | _ => none

/-- `DEFAULTS`. -/
def defaults : CliConfig rt where
  isUrl := rt.isUrl_default

/-! ## The file -/

/-- `loadConfig` past its cache, on the content of the file. -/
def readConfig : Option Bytes → Except Thrown (CliConfig rt)
  | none => .ok (defaults rt)
  | some raw =>
      match parse (decode raw) with
      | none => .error (.error (rt.syntaxError (decode raw)) none)
      | some j =>
          match safeParse rt j with
          | some cfg => .ok cfg
          | none =>
              .error (.cli (.config
                ("Invalid config at " ++ rt.configFile ++ ": " ++ rt.zodMessage j)))

variable {rt}

def CliConfig.tree (cfg : CliConfig rt) : Json :=
  .obj
    [("baseUrl", .str cfg.baseUrl), ("defaultModel", .str cfg.defaultModel),
      ("authBackend", .str cfg.authBackend.value)]

/-- `JSON.stringify(merged, null, 2) + '\n'`. -/
def CliConfig.text (cfg : CliConfig rt) : List Char :=
  cfg.tree.write (indented 2) 0 ++ ['\n']

/-- `Partial<CliConfig>`, without members that are set to `undefined`. -/
structure ConfigPatch where
  baseUrl : Option String := none
  defaultModel : Option String := none
  authBackend : Option AuthBackend := none

/-- `ConfigSchema.parse({ ...current, ...next })`. -/
def CliConfig.merge (current : CliConfig rt) (next : ConfigPatch) :
    Except Thrown (CliConfig rt) :=
  let baseUrl := next.baseUrl.getD current.baseUrl
  let defaultModel := next.defaultModel.getD current.defaultModel
  let authBackend := next.authBackend.getD current.authBackend
  match checked rt baseUrl defaultModel authBackend with
  | some merged => .ok merged
  | none =>
      .error (.error (rt.zodMessage (.obj
        [("baseUrl", .str baseUrl), ("defaultModel", .str defaultModel),
          ("authBackend", .str authBackend.value)])) none)

theorem safeParse_tree (cfg : CliConfig rt) : safeParse rt cfg.tree = some cfg := by
  have hbackend : stringField
      [("baseUrl", .str cfg.baseUrl), ("defaultModel", .str cfg.defaultModel),
        ("authBackend", .str cfg.authBackend.value)] "authBackend" .auto AuthBackend.ofValue =
      some cfg.authBackend := by
    simp [stringField, lastMember, AuthBackend.ofValue_value]
  rw [CliConfig.tree, safeParse, hbackend]
  simp [stringField, lastMember, checked, cfg.isUrl]

theorem readConfig_text (cfg : CliConfig rt) :
    readConfig rt (some (encode cfg.text)) = .ok cfg := by
  have hspace : ∀ c ∈ ['\n'], isSpace c = true := by
    intro c hc
    rw [List.mem_singleton.1 hc]
    rfl
  rw [readConfig, decode_encode]
  simp only [CliConfig.text, parse_write_gap (indented 2) hspace, safeParse_tree]

end Cli
end OpenRouter
