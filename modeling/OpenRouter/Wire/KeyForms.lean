import OpenRouter.Backend.KeyBodies
import OpenRouter.Frontend.KeyForms

/-!
# KeyForms — the dashboard's form for a key, at the backend

What `createKeyAction` sends is answered by `POST /v1/keys`.  The data of the form always have the
member `scopes`, which `CreateKeyBody` forbids, and the dialog never gets as far as a request: no
form makes a key (`refused_of_form`).
-/

namespace OpenRouter
namespace Wire
namespace KeyForms

open Base Backend Backend.Routes Frontend

/-! ## The two sides -/

/-- What becomes of a request and of its answer. -/
inductive Delivery
  | answered (statusText : String)
  /-- The answer is lost. -/
  | unanswered (err : String)
  /-- The request is lost. -/
  | undelivered (err : String)

variable (py : Pydantic) (p : Platform) (verifyApiKey : String → String → Bool) (d : Draws)
  (render : Routes.Response → List Char)

/-- The route of a request. -/
def arrive (out : Outgoing) (db : Db) : Except ErrorReply Routes.Response × Db :=
  postKeys py p verifyApiKey d out.authorization (encode (out.body.getD "").toList) db

/-- The answer as `fetch` hands it over; `render` is the JSON of a view. -/
def answer (statusText : String) : Except ErrorReply Routes.Response → Frontend.Response
  | .error e =>
      { status := e.status
        statusText := statusText
        contentType := some "application/json"
        body := some e.body }
  | .ok r =>
      { status := 201
        statusText := statusText
        contentType := some "application/json"
        body := some (encode (render r)) }

/-- What a request of the action meets while the rows are `db`. -/
def weather (delivery : Delivery) (db : Db) (out : Outgoing) : Weather :=
  .calm fun _ =>
    match delivery with
    | .answered statusText =>
        .ok (answer render statusText (arrive py p verifyApiKey d out db).1)
    | .unanswered err | .undelivered err => .error err

/-- The action with the backend behind it: the state of the page, and the rows that are left. -/
def submit (rt : FormRuntime) (site : Site) (session : Option Session) (form : FormData)
    (delivery : Delivery) (db : Db) : CreateKeyState × Db :=
  let r := createKeyAction rt (weather py p verifyApiKey d render delivery db) site session form
  (r.1,
    match delivery with
    | .undelivered _ => db
    | _ => r.2.foldl (fun db out => (arrive py p verifyApiKey d out db).2) db)

/-! ## The body of the form -/

variable {py p verifyApiKey d render}

/-- A name that the form accepts is one that the backend accepts. -/
theorem nameField_of_accepted {name : String} (h : nameMessages (some (.text name)) = [])
    {ms : List (String × Json)} (hms : lastMember ms "name" = some (.str name)) :
    nameField ms = .ok name := by
  have hunits : ∀ cs : List Char, cs.length ≤ (cs.flatMap codeUnits).length := by
    intro cs
    induction cs with
    | nil => exact Nat.le_refl 0
    | cons c cs ih =>
        have hone : 1 ≤ (codeUnits c).length := by
          unfold codeUnits
          split_ifs <;> simp
        rw [List.flatMap_cons, List.length_append, List.length_cons]
        omega
  have hlength := hunits name.toList
  rw [String.length_toList] at hlength
  have hempty : name.length < 1 → (name.toList.flatMap codeUnits).length < 1 := by
    intro hlt
    have hnil : name.toList = [] := by
      rw [← List.length_eq_zero_iff, String.length_toList]
      omega
    rw [hnil]
    exact Nat.zero_lt_one
  simp only [nameMessages, List.append_eq_nil_iff, ite_eq_right_iff, List.cons_ne_nil,
    imp_false, not_lt] at h
  have hshort : ¬name.length < 1 := fun hlt => absurd (hempty hlt) (not_lt.2 h.1)
  have hlong : ¬200 < name.length := by omega
  rw [nameField, hms]
  simp only [if_neg hshort, if_neg hlong]

/-- What the schema has accepted. -/
theorem name_of_createKeySchema {rt : FormRuntime} {form : FormData} {data : CreateKeyForm}
    (h : createKeySchema rt form = .ok data) : nameMessages (some (.text data.name)) = [] := by
  simp only [createKeySchema] at h
  split at h
  · rename_i name hname hmessages
    cases h
    rw [hname] at hmessages
    exact (List.append_eq_nil_iff.1 (List.append_eq_nil_iff.1 hmessages).1).1
  · cases h

/-- The first member too many is `scopes`. -/
theorem validate_of_form (py : Pydantic) {rt : FormRuntime} {form : FormData} {data : CreateKeyForm}
    (h : createKeySchema rt form = .ok data) :
    ∃ more, CreateKeyBody.validate py data.tree =
      .error ({ loc := ["body", "scopes"], msg := some "Extra inputs are not permitted" } ::
        more) := by
  rcases data with ⟨name, scopes, budget, days⟩
  let ms : List (String × Json) :=
    [("name", .str name), ("scopes", .arr (scopes.map .str)),
      ("monthlyBudgetUsd", budget.elim .null JsNumber.json)] ++
        days.toList.map fun n => ("expiresInDays", n.json)
  have hname : lastMember ms "name" = some (.str name) := by
    cases days <;> simp [ms, lastMember]
  have hnone : lastMember ms "scope" = none ∧ lastMember ms "allowed_models" = none ∧
      lastMember ms "expires_at" = none := by
    cases days <;> simp [ms, lastMember]
  have hmem : "scopes" ∈ ms.map Prod.fst := by simp [ms]
  have hvalid := validate_of_extra py hmem (by decide)
  rw [nameField_of_accepted (name_of_createKeySchema h) hname, scopeField, hnone.1,
    allowedModelsField, hnone.2.1, expiresAtField, hnone.2.2] at hvalid
  -- The keys of the body are known, so its extra members are.
  have hextra : ∃ more, extraMembers ms =
      { loc := ["body", "scopes"], msg := some "Extra inputs are not permitted" } :: more := by
    cases days with
    | none => exact ⟨_, rfl⟩
    | some n => exact ⟨_, rfl⟩
  rcases hextra with ⟨more, hextra⟩
  refine ⟨more, ?_⟩
  rw [← hextra]
  exact hvalid

/-- A request that is not let in gets a 401. -/
theorem status_of_getCurrentAuth {sha256Lookup : String → String} {db : Db} {now : ℤ}
    {authorization : Option String} {exc : Backend.DomainError}
    (h : getCurrentAuth sha256Lookup verifyApiKey db now authorization = .error exc) :
    exc.httpStatus = 401 := by
  unfold getCurrentAuth at h
  split at h
  · rename_i err hbearer
    cases h
    unfold extractBearer at hbearer
    split at hbearer
    · cases hbearer
      rfl
    · split_ifs at hbearer
      cases hbearer
      rfl
  · split at h
    · cases h
      rfl
    · split_ifs at h
      · cases h
        rfl
      · split at h
        · rename_i err husable
          cases h
          unfold APIKey.assertUsable at husable
          split_ifs at husable
          · cases husable
            rfl
          · split at husable
            · split_ifs at husable
              cases husable
              rfl
            · cases husable
        · split at h
          · cases h
            rfl
          · cases h

theorem bodyJson_of_tree (data : CreateKeyForm) :
    bodyJson (encode (data.tree.write compact 0)) = some data.tree := by
  have hsome : encode (data.tree.write compact 0) ≠ [] := by
    intro hnil
    have hround := congrArg decode hnil
    rw [decode_encode] at hround
    rcases head_write compact 0 data.tree with ⟨c, cs, hwrite, -⟩
    rw [hwrite] at hround
    cases hround
  rw [bodyJson, if_neg hsome, decode_encode]
  exact parse_write compact _

/-- What the backend answers to the data of a form. -/
theorem arrive_of_form {rt : FormRuntime} {form : FormData} {data : CreateKeyForm}
    (h : createKeySchema rt form = .ok data) {out : Outgoing} (hbody : out.body = some data.body)
    (db : Db) :
    ∃ e, arrive py p verifyApiKey d out db = (.error e, db) ∧
      ((∃ exc, getCurrentAuth p.sha256Lookup verifyApiKey db d.now out.authorization = .error exc ∧
          e = errorReply exc) ∨
        e.status = 422 ∧ e.message = "Extra inputs are not permitted" ∧
          e.param = some "body.scopes") := by
  have hbytes : encode (out.body.getD "").toList = encode (data.tree.write compact 0) := by
    rw [hbody, Option.getD_some, CreateKeyForm.body, String.toList_ofList]
  rw [arrive, postKeys, hbytes, decode_encode, if_pos rfl, bodyJson_of_tree]
  cases hauth : getCurrentAuth p.sha256Lookup verifyApiKey db d.now out.authorization with
  | error exc => exact ⟨errorReply exc, rfl, .inl ⟨exc, rfl, rfl⟩⟩
  | ok auth =>
      rcases validate_of_form py h with ⟨more, hvalid⟩
      simp only [hvalid]
      have hparam : ".".intercalate ["body", "scopes"] = "body.scopes" := by decide
      have hsome : ¬"body.scopes" = "" := by decide
      refine ⟨_, rfl, .inr ⟨rfl, rfl, ?_⟩⟩
      simp [Escaped.reply, hparam, hsome]

/-! ## The refusal -/

/-- An error of the backend is no value for the action. -/
theorem state_of_refused (rt : JsRuntime) (delivery : Delivery) {db : Db} {out : Outgoing}
    {e : ErrorReply} (he : (arrive py p verifyApiKey d out db).1 = .error e)
    (hstatus : 300 ≤ e.status) (k : ℕ) :
    (settle rt ((weather py p verifyApiKey d render delivery db out).fetch k)).state =
      .error "Could not create key. Try again." := by
  cases delivery with
  | answered statusText =>
      have hnot : (answer render statusText (.error e)).ok = false := by
        simp only [answer, Frontend.Response.ok, Bool.and_eq_false_iff]
        exact .inr (decide_eq_false (not_lt.2 hstatus))
      simp only [weather, Weather.calm, he, settle, hnot, Bool.false_eq_true, if_false]
      rfl
  | unanswered err => rfl
  | undelivered err => rfl

/-- Requests that are refused one by one leave the rows as they are. -/
theorem rows_of_refused {db : Db} : ∀ outs : List Outgoing,
    (∀ out ∈ outs, ∃ e, arrive py p verifyApiKey d out db = (.error e, db)) →
    outs.foldl (fun db out => (arrive py p verifyApiKey d out db).2) db = db
  | [], _ => rfl
  | out :: outs, h => by
      rcases h out List.mem_cons_self with ⟨e, he⟩
      rw [List.foldl_cons, he]
      exact rows_of_refused outs fun out hout => h out (List.mem_cons_of_mem _ hout)

/-- The data of a form are refused, whoever sends them. -/
theorem refused_of_accepted {rt : FormRuntime} {form : FormData} {data : CreateKeyForm}
    (h : createKeySchema rt form = .ok data) {out : Outgoing} (hbody : out.body = some data.body)
    (db : Db) :
    ∃ e, arrive py p verifyApiKey d out db = (.error e, db) ∧
      (e.status = 401 ∨ e.status = 422 ∧ e.message = "Extra inputs are not permitted" ∧
        e.param = some "body.scopes") := by
  rcases arrive_of_form h hbody db with ⟨e, harrive, he⟩
  refine ⟨e, harrive, he.imp_left ?_⟩
  rintro ⟨exc, hauth, rfl⟩
  exact status_of_getCurrentAuth hauth

/-- The action on a form that was accepted: each of its requests is refused. -/
theorem submit_of_accepted {rt : FormRuntime} {form : FormData} {data : CreateKeyForm}
    (h : createKeySchema rt form = .ok data) (site : Site) (session : Session)
    (delivery : Delivery) (db : Db) :
    submit py p verifyApiKey d render rt site (some session) form delivery db =
      (.error "Could not create key. Try again.", db) := by
  simp only [submit, createKeyAction, h]
  let out : Outgoing :=
    apiRequest site.backendUrl "POST" "/v1/keys" (some data.body) session.backendJwt
  have hbody : out.body = some data.body := rfl
  rcases refused_of_accepted h hbody db with ⟨e, harrive, hstatus⟩
  have hstatus : 300 ≤ e.status := by omega
  let w : Weather := weather py p verifyApiKey d render delivery db out
  let run : Run :=
    request rt.toJsRuntime w site.backendUrl "POST" "/v1/keys" (some data.body) session.backendJwt
  refine Prod.ext ?_ ?_
  · change run.outcome.state = _
    rcases outcome_cases rt.toJsRuntime w site.backendUrl "POST" "/v1/keys" (some data.body)
      session.backendJwt 2 with ⟨k, houtcome⟩ | houtcome
    · rw [houtcome]
      exact state_of_refused rt.toJsRuntime delivery (congrArg Prod.fst harrive) hstatus k
    · rw [houtcome]
      rfl
  · have hrows := rows_of_refused run.sent fun sent hsent => by
      have hsent : sent = out := eq_of_mem_sent rt.toJsRuntime w hsent
      rw [hsent]
      exact ⟨e, harrive⟩
    cases delivery with
    | answered statusText => exact hrows
    | unanswered err => exact hrows
    | undelivered err => rfl

/-- No form makes a key.  The action always reports an error and leaves the rows as they are: what
it sends is refused for want of a key of the backend, or else for the member `scopes`.  The dialog
sends nothing. -/
theorem refused_of_form (rt : FormRuntime) (site : Site) (session : Option Session)
    (form : FormData) (delivery : Delivery) (db : Db) :
    submit py p verifyApiKey d render rt site session form delivery db =
        (.error
          (match session, createKeySchema rt form with
            | none, _ => "Not authenticated"
            | some _, .error messages => messages.head?.getD "Invalid input"
            | some _, .ok _ => "Could not create key. Try again."), db) ∧
      (∀ data out, createKeySchema rt form = .ok data → out.body = some data.body →
        ∃ e, arrive py p verifyApiKey d out db = (.error e, db) ∧
          (e.status = 401 ∨ e.status = 422 ∧ e.message = "Extra inputs are not permitted" ∧
            e.param = some "body.scopes")) ∧
      ∀ w payload, createFromDialog rt.toJsRuntime w payload =
        { sent := [], outcome := .thrown "TypeError: Invalid URL" } := by
  refine ⟨?_, ?_, ?_⟩
  · cases session with
    | none => cases delivery <;> rfl
    | some session =>
        cases hform : createKeySchema rt form with
        | error messages =>
            simp only [submit, createKeyAction, hform]
            cases delivery <;> rfl
        | ok data => exact submit_of_accepted hform site session delivery db
  · exact fun data out hform hbody => refused_of_accepted hform hbody db
  · intro w payload
    have hscheme : ¬hasScheme "/api/proxy" = true := by decide
    rw [createFromDialog, request, if_neg hscheme]

end KeyForms
end Wire
end OpenRouter
