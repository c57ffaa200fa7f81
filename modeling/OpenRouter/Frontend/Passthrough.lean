import OpenRouter.Frontend.Bff

/-!
# Passthrough — what the proxy route keeps of a request and of its answer

The route copies query parameters and headers by `set`, which leaves one value of a name, and hands
them to `fetch`, which refuses some header fields and writes others itself.  `transparent_iff` says
for which requests and answers nothing of this shows.
-/

namespace OpenRouter
namespace Frontend

open Base

/-! ## Messages -/

/-- What iterating over a `Headers` yields: names in lower case, with the values of a name combined
into one, but for `set-cookie`. -/
structure IsEntries (hs : Headers) : Prop where
  lower : ∀ h ∈ hs, h.1.toLower = h.1
  combined : ∀ name, name ≠ "set-cookie" → (valuesOf hs name).length ≤ 1

/-- A request as the route gets it. -/
structure BrowserRequest extends Request where
  entries : IsEntries headers

/-- The statuses of answers without a body. -/
def nullBodyStatuses : List ℕ :=
  [101, 103, 204, 205, 304]

/-- What `fetch` returns. -/
structure UpstreamResponse where
  status : ℕ
  headers : Headers
  body : Option String
  entries : IsEntries headers
  nullBody : status ∈ nullBodyStatuses → body = none

structure BrowserResponse where
  status : ℕ
  headers : Headers
  body : Option String

/-- What the constructor of a response throws. -/
inductive Thrown
  /-- A status that is not in the range of 200 to 599. -/
  | rangeError
  /-- A body where the status has none. -/
  | typeError
  deriving DecidableEq

/-! ## What `fetch` sends -/

/-- The header fields with which the runtime's `fetch` rejects a request. -/
def refusedNames : List String :=
  ["transfer-encoding", "expect", "keep-alive", "upgrade"]

/-- The header fields that `fetch` writes itself. -/
def writtenNames : List String :=
  ["sec-fetch-mode", "content-length"]

/-- The methods that announce an empty body. -/
def payloadMethods : List String :=
  ["POST", "PUT", "PATCH"]

/-- The `content-length` that goes with a request. -/
def contentLength (method : String) : Option String → Headers
  | none => []
  | some body =>
      if body = "" ∧ ¬payloadMethods.contains method then []
      else [("content-length", toString body.utf8ByteSize)]

/-- `Headers.has`. -/
def hasName (hs : Headers) (name : String) : Bool :=
  hs.any fun h => h.1 == name

/-- The value of a field as `fetch` hands it on: a range may be answered without an encoding. -/
def handedOn (hs : Headers) (name value : String) : String :=
  if name = "accept-encoding" ∧ hasName hs "range" then value ++ ", identity" else value

/-- The header fields that `fetch` sends, or `none` when it rejects: it writes the mode and the
length itself, and the rest is what it was given and `defaults` for names that were not. -/
def fetchHeaders (defaults : Headers) (out : Outgoing) : Option Headers :=
  if out.headers.any fun h => refusedNames.contains h.1 then
    none
  else
    let own := ("sec-fetch-mode", "cors") :: contentLength out.method out.body
    some
      (((out.headers.filter fun h => !writtenNames.contains h.1).map
          fun h => (h.1, handedOn out.headers h.1 h.2)) ++
        own ++ defaults.filter fun d => !hasName out.headers d.1 && !hasName own d.1)

/-! ## The answer -/

/-- `new NextResponse(body, { status, headers })`. -/
def nextResponse (body : Option String) (status : ℕ) (headers : Headers) :
    Except Thrown BrowserResponse :=
  if status < 200 ∨ 599 < status then .error .rangeError
  else if body.isSome ∧ status ∈ nullBodyStatuses then .error .typeError
  else .ok { status := status, headers := headers, body := body }

def passthroughHeaders (upstream : Headers) : Headers :=
  let kept := upstream.filter fun h => h.1.toLower ∉ ["transfer-encoding", "connection"]
  kept.foldl (fun out h => out.set h.1.toLower h.2) []

/-- The end of `proxy`. -/
def answer (upstream : UpstreamResponse) : Except Thrown BrowserResponse :=
  nextResponse upstream.body upstream.status (passthroughHeaders upstream.headers)

/-! ## Transparency -/

/-- The upstream gets the parameters and the headers of the request, and the browser the status and
the headers of the answer, but for the headers that belong to one connection or to the session. -/
structure Transparent (defaults : Headers) (req : BrowserRequest) (out : Outgoing)
    (upstream : UpstreamResponse) : Prop where
  params : out.searchParams = req.searchParams
  headers : ∃ sent, fetchHeaders defaults out = some sent ∧
    ∀ name, name ∉ ["host", "cookie", "connection", "authorization"] →
      valuesOf req.headers name ≠ [] → valuesOf sent name = valuesOf req.headers name
  response : ∃ r, answer upstream = .ok r ∧ r.status = upstream.status ∧
    ∀ name, name ∉ ["transfer-encoding", "connection"] →
      valuesOf r.headers name = valuesOf upstream.headers name

/-- `fetch` refuses no field of the request and changes none, and the copy loses none. -/
structure Sendable (req : BrowserRequest) : Prop where
  accepted : ∀ h ∈ req.headers, h.1 ∉ refusedNames
  setCookie : (valuesOf req.headers "set-cookie").length ≤ 1
  fetchMode : ∀ h ∈ req.headers, h.1 = "sec-fetch-mode" → h.2 = "cors"
  length : ∀ h ∈ req.headers, h.1 = "content-length" → req.method ≠ "GET" ∧ req.method ≠ "HEAD" ∧
    (req.body = "" → req.method ∈ payloadMethods) ∧ h.2 = toString req.body.utf8ByteSize
  encoding : hasName req.headers "range" = true → hasName req.headers "accept-encoding" = false

/-- No name is repeated, the parameters that are in the path come first among those of the request,
`fetch` leaves its fields as they are, and the status can be that of a response. -/
structure Unrepeated (site : Site) (req : BrowserRequest) (upstream : UpstreamResponse) : Prop where
  params : (req.searchParams.map Prod.fst).Nodup
  pathParams : ((site.parseQuery (queryOf (targetUrl site req.path))).map Prod.fst).eraseDups <+:
    req.searchParams.map Prod.fst
  headers : Sendable req
  setCookieReceived : (valuesOf upstream.headers "set-cookie").length ≤ 1
  status : 200 ≤ upstream.status ∧ upstream.status ≤ 599

/-! ## Copied headers -/

theorem Headers.valuesOf_set_self (hs : Headers) (name value : String) :
    valuesOf (hs.set name value) name = [value] := by
  rw [Headers.set, valuesOf_append, valuesOf_cons, if_pos rfl]
  simp [valuesOf]

theorem Headers.valuesOf_set_of_ne (hs : Headers) (name value : String) (name' : String)
    (h : name' ≠ name) : valuesOf (hs.set name value) name' = valuesOf hs name' := by
  rw [Headers.set, valuesOf_append, valuesOf_cons, if_neg (Ne.symm h), valuesOf_nil,
    List.append_nil, valuesOf_filter]
  rintro p - rfl
  simpa using h

/-- The copy that both functions make: without the dropped names, and by `set`. -/
def copyOf (hs : Headers) (dropped : List String) : Headers :=
  (hs.filter fun h => h.1.toLower ∉ dropped).foldl (fun out h => out.set h.1.toLower h.2) []

/-- Of a name that is not dropped, the copy has the last value. -/
theorem valuesOf_copyOf {hs : Headers} (h : IsEntries hs) {dropped : List String} {name : String}
    (hname : name ∉ dropped) :
    valuesOf (copyOf hs dropped) name = (valuesOf hs name).getLast?.toList := by
  have hkept : valuesOf (hs.filter fun h => h.1.toLower ∉ dropped) name = valuesOf hs name := by
    refine valuesOf_filter fun p hp hk => ?_
    rw [decide_eq_true_iff, h.lower p hp, hk]
    exact hname
  -- The names are in lower case already.
  have hlower : copyOf hs dropped = (hs.filter fun h => h.1.toLower ∉ dropped).foldl
      (fun (out : Headers) p => out.set p.1 p.2) [] := by
    refine List.foldl_ext _ _ _ fun out p hp => ?_
    rw [h.lower p (List.mem_of_mem_filter hp)]
  rw [hlower, valuesOf_foldl Headers.valuesOf_set_self Headers.valuesOf_set_of_ne, hkept]
  cases (valuesOf hs name).getLast? <;> rfl

/-- Only `set-cookie` can be repeated. -/
theorem IsEntries.length_le_one {hs : Headers} (h : IsEntries hs)
    (hcookie : (valuesOf hs "set-cookie").length ≤ 1) (name : String) :
    (valuesOf hs name).length ≤ 1 := by
  by_cases hname : name = "set-cookie"
  · rwa [hname]
  · exact h.combined name hname

theorem passthroughHeaders_faithful_iff {upstream : Headers} (h : IsEntries upstream) :
    (∀ name, name ∉ ["transfer-encoding", "connection"] →
      valuesOf (passthroughHeaders upstream) name = valuesOf upstream name) ↔
        (valuesOf upstream "set-cookie").length ≤ 1 := by
  have hcopy : passthroughHeaders upstream = copyOf upstream ["transfer-encoding", "connection"] :=
    rfl
  rw [hcopy]
  constructor
  · intro hall
    have hcookie := hall "set-cookie" (by decide)
    rwa [valuesOf_copyOf h (by decide), getLast?_toList_eq_iff] at hcookie
  · intro honce name hname
    rw [valuesOf_copyOf h hname, getLast?_toList_eq_iff]
    exact h.length_le_one honce name

/-! ## Sent headers -/

/-- What `proxy` hands to `fetch` for a session with a token. -/
theorem proxy_eq_ok {site : Site} {session : Option Session} {req : Request} {out : Outgoing}
    (h : proxy site session req = .ok out) :
    ∃ accessToken, given (session.bind Session.accessToken) = some accessToken ∧
      out.method = req.method ∧
      out.searchParams = req.searchParams.foldl (fun out q => setPair out q.1 q.2)
        (site.parseQuery (queryOf (targetUrl site req.path))) ∧
      out.headers = filterHeaders req.headers accessToken ∧
      out.body = if req.method = "GET" ∨ req.method = "HEAD" then none else some req.body := by
  unfold proxy at h
  split at h
  · cases h
  · rename_i accessToken hgiven
    cases h
    exact ⟨accessToken, hgiven, rfl, rfl, rfl, rfl⟩

theorem valuesOf_filterHeaders {incoming : Headers} (h : IsEntries incoming) (token : String)
    {name : String} (hname : name ∉ ["host", "cookie", "connection", "authorization"]) :
    valuesOf (filterHeaders incoming token) name = (valuesOf incoming name).getLast?.toList := by
  have hset : filterHeaders incoming token =
      (copyOf incoming ["host", "cookie", "authorization", "connection"]).set "authorization"
        ("Bearer " ++ token) := rfl
  simp only [List.mem_cons, List.not_mem_nil, or_false, not_or] at hname
  have hdropped : name ∉ ["host", "cookie", "authorization", "connection"] := by
    simp [hname]
  rw [hset, Headers.valuesOf_set_of_ne _ _ _ _ hname.2.2.2, valuesOf_copyOf h hdropped]

theorem hasName_iff {hs : Headers} {name : String} :
    hasName hs name = true ↔ valuesOf hs name ≠ [] := by
  rw [valuesOf_ne_nil_iff, hasName, List.any_eq_true]
  simp only [beq_iff_eq]

theorem hasName_filterHeaders {incoming : Headers} (h : IsEntries incoming) (token : String)
    {name : String} (hname : name ∉ ["host", "cookie", "connection", "authorization"]) :
    hasName (filterHeaders incoming token) name = hasName incoming name := by
  have hboth : hasName (filterHeaders incoming token) name = true ↔
      hasName incoming name = true := by
    rw [hasName_iff, hasName_iff, valuesOf_filterHeaders h token hname]
    cases valuesOf incoming name <;> simp [List.getLast?_cons]
  cases hout : hasName (filterHeaders incoming token) name <;>
    cases hin : hasName incoming name <;> simp_all

/-- What `fetch` sends under a name that it was given. -/
theorem valuesOf_fetchHeaders {defaults : Headers} {out : Outgoing} {sent : Headers}
    (h : fetchHeaders defaults out = some sent) {name : String}
    (hname : hasName out.headers name = true) :
    valuesOf sent name =
      if name = "sec-fetch-mode" then ["cors"]
      else if name = "content-length" then (contentLength out.method out.body).map Prod.snd
      else (valuesOf out.headers name).map (handedOn out.headers name) := by
  have hlength : ∀ k, valuesOf (contentLength out.method out.body) k =
      if k = "content-length" then (contentLength out.method out.body).map Prod.snd else [] := by
    intro k
    unfold contentLength
    split
    · simp
    · split
      · simp
      · simp only [valuesOf_cons, valuesOf_nil, eq_comm (a := k)]
        rfl
  have hdefaults : valuesOf (defaults.filter fun d => !hasName out.headers d.1 &&
      !hasName (("sec-fetch-mode", "cors") :: contentLength out.method out.body) d.1) name = [] :=
    valuesOf_filter_eq_nil fun d _ hk => by simp [hk, hname]
  unfold fetchHeaders at h
  split at h
  · cases h
  · cases h
    rw [valuesOf_append, valuesOf_append, hdefaults, List.append_nil, valuesOf_cons, hlength,
      valuesOf_map]
    by_cases hmode : name = "sec-fetch-mode"
    · subst hmode
      rw [valuesOf_filter_eq_nil fun p _ hk => by simp [writtenNames, hk]]
      rfl
    · by_cases hlen : name = "content-length"
      · subst hlen
        rw [valuesOf_filter_eq_nil fun p _ hk => by simp [writtenNames, hk]]
        rfl
      · rw [valuesOf_filter fun p _ hk => by simp [writtenNames, hk, hmode, hlen]]
        simp only [hmode, hlen, Ne.symm hmode, if_false, List.append_nil]

theorem contentLength_eq_iff {method body value : String} :
    (contentLength method (if method = "GET" ∨ method = "HEAD" then none else some body)).map
        Prod.snd = [value] ↔
      method ≠ "GET" ∧ method ≠ "HEAD" ∧ (body = "" → method ∈ payloadMethods) ∧
        value = toString body.utf8ByteSize := by
  by_cases hread : method = "GET" ∨ method = "HEAD"
  · rw [if_pos hread]
    simp only [contentLength, List.map_nil, List.nil_eq, List.cons_ne_nil, false_iff]
    rintro ⟨hget, hhead, -⟩
    exact hread.elim hget hhead
  · rw [if_neg hread, contentLength]
    rw [not_or] at hread
    by_cases hsilent : body = "" ∧ ¬payloadMethods.contains method
    · rw [if_pos hsilent]
      simp only [List.map_nil, List.nil_eq, List.cons_ne_nil, false_iff]
      rintro ⟨-, -, hpayload, -⟩
      exact hsilent.2 (List.contains_iff_mem.2 (hpayload hsilent.1))
    · rw [if_neg hsilent]
      have hpayload : body = "" → method ∈ payloadMethods := by
        intro hempty
        by_contra hnot
        exact hsilent ⟨hempty, fun hcontains => hnot (List.contains_iff_mem.1 hcontains)⟩
      simp only [List.map_cons, List.map_nil, List.cons.injEq, and_true]
      exact ⟨fun heq => ⟨hread.1, hread.2, hpayload, heq.symm⟩, fun hall => hall.2.2.2.symm⟩

/-- A name of the request has one value, unless it is `set-cookie`. -/
theorem IsEntries.valuesOf_eq {hs : Headers} (h : IsEntries hs) {name value : String}
    (hne : name ≠ "set-cookie") (hmem : (name, value) ∈ hs) : valuesOf hs name = [value] := by
  have hvalue := mem_valuesOf.2 hmem
  have hone := h.combined name hne
  match hvalues : valuesOf hs name with
  | [] => simp [hvalues] at hvalue
  | [v] =>
      rw [hvalues, List.mem_singleton] at hvalue
      rw [hvalue]
  | v :: w :: vs => simp [hvalues] at hone

/-- The proxy drops no field that `fetch` refuses. -/
theorem kept_of_refused :
    ∀ name ∈ refusedNames, name ∉ ["host", "cookie", "connection", "authorization"] := by
  decide

section Proxied

variable {site : Site} {session : Option Session} {req : BrowserRequest} {out : Outgoing}
  (h : proxy site session req.toRequest = .ok out)

include h

theorem hasName_of_proxy {name : String}
    (hname : name ∉ ["host", "cookie", "connection", "authorization"]) :
    hasName out.headers name = hasName req.headers name := by
  rcases proxy_eq_ok h with ⟨accessToken, -, -, -, hheaders, -⟩
  rw [hheaders]
  exact hasName_filterHeaders req.entries accessToken hname

theorem valuesOf_of_proxy {name : String}
    (hname : name ∉ ["host", "cookie", "connection", "authorization"]) :
    valuesOf out.headers name = (valuesOf req.headers name).getLast?.toList := by
  rcases proxy_eq_ok h with ⟨accessToken, -, -, -, hheaders, -⟩
  rw [hheaders]
  exact valuesOf_filterHeaders req.entries accessToken hname

/-- `fetch` refuses what it is handed exactly when the request has a field that it refuses. -/
theorem refused_of_proxy : (out.headers.any fun h => refusedNames.contains h.1) = true ↔
    ∃ p ∈ req.headers, p.1 ∈ refusedNames := by
  constructor
  · intro hany
    rcases List.any_eq_true.1 hany with ⟨⟨name, value⟩, hp, hcontains⟩
    have hrefused : name ∈ refusedNames := List.contains_iff_mem.1 hcontains
    have hthere : hasName out.headers name = true := List.any_eq_true.2 ⟨_, hp, by simp⟩
    rw [hasName_of_proxy h (kept_of_refused name hrefused)] at hthere
    rcases List.any_eq_true.1 hthere with ⟨q, hq, hk⟩
    exact ⟨q, hq, by rwa [eq_of_beq hk]⟩
  · rintro ⟨⟨name, value⟩, hmem, hrefused⟩
    have hthere : hasName req.headers name = true := List.any_eq_true.2 ⟨_, hmem, by simp⟩
    rw [← hasName_of_proxy h (kept_of_refused name hrefused)] at hthere
    rcases List.any_eq_true.1 hthere with ⟨p, hp, hk⟩
    refine List.any_eq_true.2 ⟨p, hp, ?_⟩
    rw [eq_of_beq hk]
    exact List.contains_iff_mem.2 hrefused

theorem sendable_of_sent {defaults sent : Headers} (hsent : fetchHeaders defaults out = some sent)
    (hall : ∀ name, name ∉ ["host", "cookie", "connection", "authorization"] →
      valuesOf req.headers name ≠ [] → valuesOf sent name = valuesOf req.headers name) :
    Sendable req := by
  rcases proxy_eq_ok h with ⟨accessToken, -, hmethod, -, -, hbody⟩
  -- What a name of the request has is what `fetch` sends under it.
  have hvalues : ∀ {name value : String}, (name, value) ∈ req.headers →
      name ∉ ["host", "cookie", "connection", "authorization"] →
      valuesOf req.headers name =
        if name = "sec-fetch-mode" then ["cors"]
        else if name = "content-length" then (contentLength out.method out.body).map Prod.snd
        else (valuesOf req.headers name).getLast?.toList.map (handedOn out.headers name) := by
    intro name value hmem hname
    have hne : valuesOf req.headers name ≠ [] := valuesOf_ne_nil_iff.2 ⟨_, hmem, rfl⟩
    have hthere : hasName out.headers name = true := by
      rw [hasName_of_proxy h hname]
      exact hasName_iff.2 hne
    have hsame := hall name hname hne
    rw [valuesOf_fetchHeaders hsent hthere, valuesOf_of_proxy h hname] at hsame
    exact hsame.symm
  refine
    { accepted := ?_
      setCookie := ?_
      fetchMode := ?_
      length := ?_
      encoding := ?_ }
  · intro p hmem hrefused
    rw [fetchHeaders, if_pos ((refused_of_proxy h).2 ⟨p, hmem, hrefused⟩)] at hsent
    cases hsent
  · by_cases hnone : valuesOf req.headers "set-cookie" = []
    · simp [hnone]
    · rcases valuesOf_ne_nil_iff.1 hnone with ⟨⟨name, value⟩, hmem, rfl⟩
      rw [hvalues hmem (by decide)]
      cases (valuesOf req.headers "set-cookie").getLast? <;> simp
  · rintro ⟨name, value⟩ hmem rfl
    have hmode := mem_valuesOf.2 hmem
    rw [hvalues hmem (by decide)] at hmode
    simpa using hmode
  · rintro ⟨name, value⟩ hmem rfl
    have hlength := hvalues hmem (by decide)
    rw [req.entries.valuesOf_eq (by decide) hmem, hmethod, hbody] at hlength
    exact contentLength_eq_iff.1 hlength.symm
  · intro hrange
    by_contra hencoding
    rcases List.any_eq_true.1 (Bool.eq_true_of_not_eq_false hencoding) with
      ⟨⟨name, value⟩, hmem, hname⟩
    cases eq_of_beq hname
    have hidentity := hvalues hmem (by decide)
    have hranged : hasName out.headers "range" = true := by rwa [hasName_of_proxy h (by decide)]
    rw [req.entries.valuesOf_eq (by decide) hmem] at hidentity
    have hlonger : value = value ++ ", identity" := by
      simpa [handedOn, hranged] using hidentity
    have hlen := congrArg String.length hlonger
    rw [String.length_append] at hlen
    have hpositive : 0 < ", identity".length := by decide
    omega

theorem sent_of_sendable (defaults : Headers) (hsendable : Sendable req) :
    ∃ sent, fetchHeaders defaults out = some sent ∧
      ∀ name, name ∉ ["host", "cookie", "connection", "authorization"] →
        valuesOf req.headers name ≠ [] → valuesOf sent name = valuesOf req.headers name := by
  rcases proxy_eq_ok h with ⟨accessToken, -, hmethod, -, -, hbody⟩
  have haccepted : ¬(out.headers.any fun h => refusedNames.contains h.1) = true := by
    rw [refused_of_proxy h]
    rintro ⟨p, hmem, hrefused⟩
    exact hsendable.accepted p hmem hrefused
  refine ⟨_, if_neg haccepted, fun name hname hne => ?_⟩
  rcases valuesOf_ne_nil_iff.1 hne with ⟨⟨name', value⟩, hmem, rfl⟩
  have hthere : hasName out.headers name' = true := by
    rw [hasName_of_proxy h hname]
    exact hasName_iff.2 hne
  have hone : (valuesOf req.headers name').getLast?.toList = valuesOf req.headers name' :=
    (getLast?_toList_eq_iff _).2 (req.entries.length_le_one hsendable.setCookie name')
  rw [valuesOf_fetchHeaders (if_neg haccepted) hthere]
  by_cases hmode : name' = "sec-fetch-mode"
  · have hcors : value = "cors" := hsendable.fetchMode _ hmem hmode
    rw [if_pos hmode, req.entries.valuesOf_eq (by rw [hmode]; decide) hmem, hcors]
  · by_cases hlength : name' = "content-length"
    · rw [if_neg hmode, if_pos hlength, req.entries.valuesOf_eq (by rw [hlength]; decide) hmem,
        hmethod, hbody]
      exact contentLength_eq_iff.2 (hsendable.length _ hmem hlength)
    · have hid : ∀ value, handedOn out.headers name' value = value := by
        intro value
        refine if_neg ?_
        rintro ⟨rfl, hrange⟩
        rw [hasName_of_proxy h (by decide)] at hrange
        have hencoding := hsendable.encoding hrange
        rw [hasName_of_proxy h (by decide), hencoding] at hthere
        cases hthere
      have hmap : ∀ vs : List String, vs.map (handedOn out.headers name') = vs := fun vs => by
        rw [funext hid]
        exact List.map_id' vs
      rw [if_neg hmode, if_neg hlength, hmap, valuesOf_of_proxy h hname, hone]

/-- `fetch` sends every field of the request exactly when the request is sendable. -/
theorem fetchHeaders_iff_sendable (defaults : Headers) :
    (∃ sent, fetchHeaders defaults out = some sent ∧
      ∀ name, name ∉ ["host", "cookie", "connection", "authorization"] →
        valuesOf req.headers name ≠ [] → valuesOf sent name = valuesOf req.headers name) ↔
      Sendable req := by
  constructor
  · rintro ⟨sent, hsent, hall⟩
    exact sendable_of_sent h hsent hall
  · exact sent_of_sendable h defaults

end Proxied

/-! ## The answer to the browser -/

/-- The body of what `fetch` returns is never refused, only its status. -/
theorem answer_eq_ok_iff {upstream : UpstreamResponse} {r : BrowserResponse} :
    answer upstream = .ok r ↔
      (200 ≤ upstream.status ∧ upstream.status ≤ 599) ∧
        r = { status := upstream.status
              headers := passthroughHeaders upstream.headers
              body := upstream.body } := by
  -- `fetch` returns no body with a status that has none.
  have hbody : ¬ (upstream.body.isSome ∧ upstream.status ∈ nullBodyStatuses) := by
    rintro ⟨hsome, hstatus⟩
    rw [upstream.nullBody hstatus] at hsome
    cases hsome
  unfold answer nextResponse
  by_cases hrange : upstream.status < 200 ∨ 599 < upstream.status
  · rw [if_pos hrange]
    simp only [reduceCtorEq, false_iff]
    rintro ⟨hstatus, -⟩
    omega
  · have hstatus : 200 ≤ upstream.status ∧ upstream.status ≤ 599 := by omega
    rw [if_neg hrange, if_neg hbody, Except.ok.injEq]
    simp only [hstatus, and_self, true_and]
    exact eq_comm

/-! ## When the proxy is transparent -/

theorem isEntries_of_nodup {hs : Headers} (hlower : (hs.all fun h => h.1.toLower == h.1) = true)
    (hnodup : ((hs.filter fun h => h.1 ≠ "set-cookie").map Prod.fst).Nodup) : IsEntries hs where
  lower h hmem := eq_of_beq (List.all_eq_true.1 hlower h hmem)
  combined name hname := by
    have hkept : valuesOf (hs.filter fun h => h.1 ≠ "set-cookie") name = valuesOf hs name := by
      refine valuesOf_filter fun p _ hk => ?_
      rw [decide_eq_true_iff, hk]
      exact hname
    rw [← hkept]
    exact length_valuesOf_le_one hnodup name

theorem entries_accept : IsEntries [("accept", "application/json")] :=
  isEntries_of_nodup (by decide +kernel) (by decide)

/-- Two cookies and the type of the body. -/
def cookieHeaders : Headers :=
  [("content-type", "application/json"), ("set-cookie", "a=1; Path=/"), ("set-cookie", "b=2")]

theorem entries_cookieHeaders : IsEntries cookieHeaders :=
  isEntries_of_nodup (by decide +kernel) (by decide)

/-- `GET /api/proxy/models` with these query parameters. -/
def modelsRequest (searchParams : List (String × String)) : BrowserRequest where
  method := "GET"
  path := ["models"]
  searchParams := searchParams
  headers := [("accept", "application/json")]
  body := ""
  entries := entries_accept

theorem body_of_ok (h : 200 ∈ nullBodyStatuses) : (some "[]" : Option String) = none :=
  absurd h (by decide)

/-- An answer with these headers. -/
def okResponse (headers : Headers) (entries : IsEntries headers) : UpstreamResponse where
  status := 200
  headers := headers
  body := some "[]"
  entries := entries
  nullBody := body_of_ok

def localSite : Site where
  apiBaseUrl := "http://localhost:8080"
  backendUrl := "http://localhost:8000"
  encodeURIComponent := id
  parseQuery := fun _ => []

def signedInSession : Session where
  backendJwt := none
  userId := none
  orgId := none
  role := none
  accessToken := some "ya29.a0AfH"

end Frontend
end OpenRouter
