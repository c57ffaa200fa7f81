import OpenRouter.Base.AsciiJson
import OpenRouter.Base.JsonStyles
import OpenRouter.Frontend.ApiClient

/-!
# KeyForms — the two ways to create a key in the dashboard

`createKeyAction` of `dashboard/keys/actions.ts`, from the fields of the form to the state that the
page shows, and the request that the dialog of `CreateKeyDialog.tsx` makes through the client of
`repository/api-key.ts`.
-/

namespace OpenRouter
namespace Frontend

open Base

/-! ## The form -/

inductive FormValue
  | text (s : String)
  | file

/-- `String(value)`. -/
def FormValue.string : FormValue → String
  | .text s => s
  | .file => "[object File]"

abbrev FormData : Type :=
  List (String × FormValue)

def FormData.get (form : FormData) (name : String) : Option FormValue :=
  (form.find? fun e => e.1 = name).map Prod.snd

def FormData.getAll (form : FormData) (name : String) : List FormValue :=
  (form.filter fun e => e.1 = name).map Prod.snd

/-- A number of JavaScript; what `JSON.stringify` prints of a finite one stands beside it. -/
inductive JsNumber
  | nan
  | infinite (negative : Bool)
  | finite (value : ℚ) (printed : Number)

namespace JsNumber

def isInteger : JsNumber → Bool
  | finite value _ => value.den = 1
  | _ => false

def below (bound : ℚ) : JsNumber → Bool
  | nan => false
  | infinite negative => negative
  | finite value _ => value < bound

def above (bound : ℚ) : JsNumber → Bool
  | nan => false
  | infinite negative => !negative
  | finite value _ => bound < value

/-- `JSON.stringify` has no other numbers than the finite ones. -/
def json : JsNumber → Json
  | finite _ printed => .num printed
  | _ => .null

end JsNumber

structure FormRuntime extends JsRuntime where
  /-- `Number(text)`. -/
  number : String → JsNumber

/-- `value ? Number(value) : …`. -/
def FormRuntime.numberOf (rt : FormRuntime) : Option FormValue → Option JsNumber
  | none => none
  | some (.text s) => if s = "" then none else some (rt.number s)
  | some .file => some .nan

/-! ## The schema -/

/-- What `z.string().min(1).max(80)` has against a value; the length is in code units. -/
def nameMessages : Option FormValue → List String
  | none => ["Expected string, received null"]
  | some .file => ["Expected string, received object"]
  | some (.text s) =>
      let length := (s.toList.flatMap codeUnits).length
      (if length < 1 then ["String must contain at least 1 character(s)"] else []) ++
        (if 80 < length then ["String must contain at most 80 character(s)"] else [])

/-- What `z.number().nonnegative()` has against a number. -/
def budgetMessages : JsNumber → List String
  | .nan => ["Expected number, received nan"]
  | n => if n.below 0 then ["Number must be greater than or equal to 0"] else []

/-- What `z.number().int().positive().max(365)` has against a number. -/
def daysMessages : JsNumber → List String
  | .nan => ["Expected number, received nan"]
  | n =>
      (if n.isInteger then [] else ["Expected integer, received float"]) ++
        (if n.above 0 then [] else ["Number must be greater than 0"]) ++
        (if n.above 365 then ["Number must be less than or equal to 365"] else [])

/-- The data of a form that was accepted. -/
structure CreateKeyForm where
  name : String
  scopes : List String
  monthlyBudgetUsd : Option JsNumber
  expiresInDays : Option JsNumber

/-- `createKeySchema.safeParse` of what the action takes from the form, or the messages of the
issues. -/
def createKeySchema (rt : FormRuntime) (form : FormData) : Except (List String) CreateKeyForm :=
  let budget := rt.numberOf (form.get "monthlyBudgetUsd")
  let days := rt.numberOf (form.get "expiresInDays")
  match form.get "name",
    nameMessages (form.get "name") ++ budget.elim [] budgetMessages ++
      days.elim [] daysMessages with
  | some (.text name), [] =>
      .ok
        { name := name
          scopes := (form.getAll "scopes").map FormValue.string
          monthlyBudgetUsd := budget
          expiresInDays := days }
  | _, messages => .error messages

/-- An absent `expiresInDays` is `undefined`, and so is left out. -/
def CreateKeyForm.tree (data : CreateKeyForm) : Json :=
  .obj
    ([("name", .str data.name), ("scopes", .arr (data.scopes.map .str)),
        ("monthlyBudgetUsd", data.monthlyBudgetUsd.elim .null JsNumber.json)] ++
      data.expiresInDays.toList.map fun n => ("expiresInDays", n.json))

/-- `JSON.stringify(parsed.data)`. -/
def CreateKeyForm.body (data : CreateKeyForm) : String :=
  String.ofList (data.tree.write compact 0)

/-! ## The action and the dialog -/

/-- What the action leaves the page with. -/
inductive CreateKeyState
  | error (message : String)
  | success (key : Value)

/-- The state for the outcome of the request. -/
def Outcome.state : Outcome → CreateKeyState
  | .value key => .success key
  | .domain _ | .thrown _ => .error "Could not create key. Try again."

/-- `createKeyAction`, and the requests that it has sent; `weather` is what a request meets. -/
def createKeyAction (rt : FormRuntime) (weather : Outgoing → Weather) (site : Site)
    (session : Option Session) (form : FormData) : CreateKeyState × List Outgoing :=
  match session with
  | none => (.error "Not authenticated", [])
  | some session =>
      match createKeySchema rt form with
      | .error messages => (.error (messages.head?.getD "Invalid input"), [])
      | .ok data =>
          let out :=
            apiRequest site.backendUrl "POST" "/v1/keys" (some data.body) session.backendJwt
          let run := request rt.toJsRuntime (weather out) site.backendUrl "POST" "/v1/keys"
            (some data.body) session.backendJwt
          (run.outcome.state, run.sent)

/-- `apiKeyRepository.create` in a browser, for values that the dialog has accepted. -/
def createFromDialog (rt : JsRuntime) (w : Weather) (payload : Json) : Run :=
  request rt w "/api/proxy" "POST" "/keys" (some (String.ofList (payload.write compact 0)))

/-- Whatever a request sends is the request that was built. -/
theorem eq_of_mem_sent (rt : JsRuntime) (w : Weather) {baseUrl method path : String}
    {body bearerToken : Option String} {retries : ℕ} {out : Outgoing}
    (h : out ∈ (request rt w baseUrl method path body bearerToken retries).sent) :
    out = apiRequest baseUrl method path body bearerToken := by
  rw [request] at h
  split_ifs at h
  · rcases attempts_attemptFrom rt w (apiRequest baseUrl method path body bearerToken)
      (idempotentMethods.contains method.toUpper) retries 0 with ⟨n, hattempts⟩
    rw [hattempts.sent] at h
    exact List.eq_of_mem_replicate h
  · cases h

/-- A request ends as one of its attempts does, unless its address is no address. -/
theorem outcome_cases (rt : JsRuntime) (w : Weather) (baseUrl method path : String)
    (body bearerToken : Option String) (retries : ℕ) :
    (∃ k, (request rt w baseUrl method path body bearerToken retries).outcome =
        settle rt (w.fetch k)) ∨
      (request rt w baseUrl method path body bearerToken retries).outcome =
        .thrown "TypeError: Invalid URL" := by
  rw [request]
  split_ifs
  · rcases attempts_attemptFrom rt w (apiRequest baseUrl method path body bearerToken)
      (idempotentMethods.contains method.toUpper) retries 0 with ⟨n, hattempts⟩
    exact .inl ⟨_, hattempts.outcome⟩
  · exact .inr rfl

end Frontend
end OpenRouter
