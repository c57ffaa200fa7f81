import OpenRouter.Backend.CurrentAuth
import OpenRouter.Backend.Errors
import OpenRouter.Backend.Mappers

/-!
# KeyBodies — the body of a request that creates a key

`POST /v1/keys` from its bytes on: what `CreateKeyBody` accepts of them, with the errors in the
order in which they are reported, and the route behind it.  A member that the model does not have
is an error, whatever else the body holds (`validate_of_extra`).
-/

namespace OpenRouter
namespace Backend
namespace Routes

open Base

/-! ## The fields -/

/-- What the libraries under the model make of a body. -/
structure Pydantic where
  /-- The instant that a value stands for, or the message of the error. -/
  datetime : Json → Except String ℤ
  /-- Where `json.loads` gives up. -/
  errorPos : List Char → ℕ

abbrev Validated (α : Type) : Type :=
  Except (List ValidationIssue) α

def Validated.issues {α : Type} : Validated α → List ValidationIssue
  | .error issues => issues
  | .ok _ => []

def invalid {α : Type} (loc : List String) (msg : String) : Validated α :=
  .error [{ loc := "body" :: loc, msg := some msg }]

/-- `name: str = Field(min_length=1, max_length=200)`. -/
def nameField (ms : List (String × Json)) : Validated String :=
  match lastMember ms "name" with
  | none => invalid ["name"] "Field required"
  | some (.str name) =>
      if name.length < 1 then invalid ["name"] "String should have at least 1 character"
      else if 200 < name.length then invalid ["name"] "String should have at most 200 characters"
      else .ok name
  | some _ => invalid ["name"] "Input should be a valid string"

/-- `scope: KeyScope = KeyScope.PERSONAL`. -/
def scopeField (ms : List (String × Json)) : Validated KeyScope :=
  match lastMember ms "scope" with
  | none => .ok .personal
  | some (.str value) =>
      match Mappers.keyScope value with
      | .ok scope => .ok scope
      | .error _ => unknownScope
  | some _ => unknownScope
where
  unknownScope : Validated KeyScope :=
    invalid ["scope"] "Input should be 'personal', 'project', 'team', 'admin' or 'byok'"

/-- `allowed_models: list[str]`; each element that is no text is an error of its own. -/
def allowedModelsField (ms : List (String × Json)) : Validated (List String) :=
  match lastMember ms "allowed_models" with
  | none => .ok []
  | some (.arr xs) =>
      match xs.zipIdx.filterMap fun x => (element x.1).elim (some x.2) fun _ => none with
      | [] => .ok (xs.filterMap element)
      | bad =>
          .error (bad.map fun i =>
            { loc := ["body", "allowed_models", toString i]
              msg := some "Input should be a valid string" })
  | some _ => invalid ["allowed_models"] "Input should be a valid list"
where
  element : Json → Option String
    | .str s => some s
    | _ => none

/-- `expires_at: datetime | None = None`. -/
def expiresAtField (py : Pydantic) (ms : List (String × Json)) : Validated (Option ℤ) :=
  match lastMember ms "expires_at" with
  | none | some .null => .ok none
  | some j =>
      match py.datetime j with
      | .ok instant => .ok (some instant)
      | .error msg => invalid ["expires_at"] msg

def fields : List String :=
  ["name", "scope", "allowed_models", "expires_at"]

/-- `extra="forbid"`: an error for each other member, in the order of the body. -/
def extraMembers (ms : List (String × Json)) : List ValidationIssue :=
  ((ms.map Prod.fst).eraseDups.filter fun key => !(fields.contains key)).map fun key =>
    { loc := ["body", key], msg := some "Extra inputs are not permitted" }

/-- `CreateKeyBody` of a JSON value; no value at all is `null`. -/
def CreateKeyBody.validate (py : Pydantic) : Json → Validated CreateKeyBody
  | .obj ms =>
      match nameField ms, scopeField ms, allowedModelsField ms, expiresAtField py ms,
        extraMembers ms with
      | .ok name, .ok scope, .ok allowedModels, .ok expiresAt, [] =>
          .ok
            { name := name
              scope := scope
              allowedModels := allowedModels
              expiresAt := expiresAt }
      | name, scope, allowedModels, expiresAt, extra =>
          .error (name.issues ++ scope.issues ++ allowedModels.issues ++ expiresAt.issues ++ extra)
  | .null => invalid [] "Field required"
  | _ => invalid [] "Input should be a valid dictionary or object to extract fields from"

/-! ## The route -/

/-- What the handler of a domain error answers. -/
def errorReply (e : DomainError) : ErrorReply where
  status := e.httpStatus
  message := if e.message = "" then e.code else e.message
  type := "invalid_request_error"
  code := e.code

/-- `await request.json()`, where there are bytes. -/
def bodyJson (body : Bytes) : Option Json :=
  if body = [] then some .null else parse (decode body)

/-- `POST /v1/keys` of a body in JSON.  The dependencies come before the errors of the body, and
nothing is left of a request that is refused. -/
def postKeys (py : Pydantic) (p : Platform) (verifyApiKey : String → String → Bool) (d : Draws)
    (authorization : Option String) (body : Bytes) (db : Db) : Except ErrorReply Response × Db :=
  if encode (decode body) = body then
    match bodyJson body with
    | none =>
        (.error (Escaped.validation
          [{ loc := ["body", toString (py.errorPos (decode body))]
             msg := some "JSON decode error" }]).reply, db)
    | some j =>
        match getCurrentAuth p.sha256Lookup verifyApiKey db d.now authorization with
        | .error exc => (.error (errorReply exc), db)
        | .ok auth =>
            match CreateKeyBody.validate py j with
            | .error issues => (.error (Escaped.validation issues).reply, db)
            | .ok body =>
                match handler p d auth (.createKey body) db with
                | .ok (r, db') => (.ok r, db')
                | .error (.domain e) => (.error (errorReply e), db)
                | .error .other => (.error Escaped.other.reply, db)
  else
    (.error (Escaped.http 400 "There was an error parsing the body" (Nat.le_refl 400)).reply, db)

/-! ## A member too many -/

theorem mem_extraMembers {ms : List (String × Json)} {key : String} (hmem : key ∈ ms.map Prod.fst)
    (hextra : key ∉ fields) :
    { loc := ["body", key], msg := some "Extra inputs are not permitted" } ∈ extraMembers ms := by
  refine List.mem_map.2 ⟨key, List.mem_filter.2 ⟨List.mem_eraseDups.2 hmem, ?_⟩, rfl⟩
  simpa using hextra

/-- A body with a member that the model does not have is refused. -/
theorem validate_of_extra (py : Pydantic) {ms : List (String × Json)} {key : String}
    (hmem : key ∈ ms.map Prod.fst) (hextra : key ∉ fields) :
    CreateKeyBody.validate py (.obj ms) =
      .error ((nameField ms).issues ++ (scopeField ms).issues ++ (allowedModelsField ms).issues ++
        (expiresAtField py ms).issues ++ extraMembers ms) := by
  have hsome := List.ne_nil_of_mem (mem_extraMembers hmem hextra)
  rw [CreateKeyBody.validate]
  split
  · rename_i hnone
    exact absurd hnone hsome
  · rfl

end Routes
end Backend
end OpenRouter
