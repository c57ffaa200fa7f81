import OpenRouter.Base.Transition
import OpenRouter.Gateway.Proxy

/-!
# ClientPool — HTTP clients while the routing configuration is replaced

`clientPool.For` keeps one client for each provider, made from the configuration that is in force
when the provider is contacted first, and `ReloadConfig` replaces the configuration but not the
clients.  `honoured_iff_settled` says in which runs a request gets the client that the configuration
of its start asks for.
-/

namespace OpenRouter
namespace Gateway
namespace ClientPool

open Base

/-! ## Configurations and clients -/

/-- The fields of `model.ProviderConfig` that only the pool reads; the defaults are Go's zero
value. -/
structure Limits where
  timeoutSeconds : ℤ := 0
  maxIdleConns : ℤ := 0
  maxConnsPerHost : ℤ := 0

/-- What the pointer of `Router` points to. -/
structure Config where
  router : Router
  limits : String → Limits
  /-- The zero value that `For` reads of a provider that is not there. -/
  limits_of_absent : ∀ name, router.provider name = none → limits name = {}

/-- `http.Client` with its `http.Transport`.  Durations are in nanoseconds. -/
structure HttpClient where
  timeout : ℤ
  dialTimeout : ℤ := 5000000000
  keepAlive : ℤ := 30000000000
  maxIdleConns : ℤ
  maxIdleConnsPerHost : ℤ
  maxConnsPerHost : ℤ
  idleConnTimeout : ℤ := 90000000000
  forceAttemptHTTP2 : Bool := true
  tlsHandshakeTimeout : ℤ := 5000000000

def maxInt (a d : ℤ) : ℤ :=
  if a ≤ 0 then d else a

/-- `time.Duration(n) * time.Second`, a product of 64 bits. -/
def seconds (n : ℤ) : ℤ :=
  (n * 1000000000).bmod (2 ^ 64)

/-- The client that `For` builds. -/
def newClient (cfg : Limits) : HttpClient where
  timeout := seconds (maxInt cfg.timeoutSeconds 60)
  maxIdleConns := maxInt cfg.maxIdleConns 100
  maxIdleConnsPerHost := maxInt cfg.maxConnsPerHost 50
  maxConnsPerHost := maxInt cfg.maxConnsPerHost 50

/-- `clientPool.clients`. -/
abbrev Clients := String → Option HttpClient

/-- `clientPool.For`: the client and the map it leaves. -/
def clientFor (clients : Clients) (config : Config) (provider : String) : HttpClient × Clients :=
  match clients provider with
  | some c => (c, clients)
  | none =>
      let c := newClient (config.limits provider)
      (c, Function.update clients provider (some c))

/-! ## Requests and reloads -/

inductive Stage
  | arrived
  /-- At the head of the loop of `ChatCompletion`. -/
  | trying (rest : List Target)
  /-- In `send`, about to fetch the client. -/
  | sending (t : Target) (rest : List Target)
  | done

/-- A call of `ChatCompletion`, with the configuration that was in force at its start. -/
structure ChatCall where
  model : String
  startedUnder : Config
  stage : Stage

/-- `contacts` records each use of a client with the configuration in force then, the oldest
first. -/
structure Service where
  config : Config
  clients : Clients := fun _ => none
  calls : List ChatCall := []
  contacts : List (String × Config) := []

inductive Label
  /-- `ReloadConfig`, given what `LoadFromFile` reads; `none` is its error. -/
  | reload (loaded : Option Config)
  | start (model : String)
  | resolve (i : ℕ)
  /-- One pass of the loop up to `For`.  Not `ready` is a pass that an open breaker, the adapter or
  `http.NewRequestWithContext` ends with an error. -/
  | attempt (i : ℕ) (ready : Bool)
  /-- `For` and `Do`; `served` ends the request. -/
  | contact (i : ℕ) (served : Bool)

namespace Service

/-- Move the call at index `i` on to `stage`. -/
def advance (s : Service) (i : ℕ) (c : ChatCall) (stage : Stage) : Service :=
  { s with calls := s.calls.set i { c with stage := stage } }

/-- What is left of the chain behind a target. -/
def goOn (s : Service) (i : ℕ) (c : ChatCall) (rest : List Target) : Service :=
  s.advance i c (.trying rest)

end Service

-- The names of the providers that `Proxy.adapters` has.
variable (adapted : String → Bool)

def step (s : Service) : Label → Option Service
  | .reload loaded => some { s with config := loaded.getD s.config }
  | .start model =>
      let c := { model := model, startedUnder := s.config, stage := .arrived }
      some { s with calls := s.calls ++ [c] }
  | .resolve i => s.calls[i]?.bind fun c =>
      match c.stage with
      | .arrived =>
          match s.config.router.resolve c.model with
          | none => some (s.advance i c .done)
          | some (primary, fallback) => some (s.goOn i c (primary :: fallback))
      | _ => none
  | .attempt i ready => s.calls[i]?.bind fun c =>
      match c.stage with
      | .trying [] => some (s.advance i c .done)
      | .trying (t :: rest) =>
          if adapted t.provider ∧ ready ∧ s.config.router.provider t.provider ≠ none then
            some (s.advance i c (.sending t rest))
          else some (s.goOn i c rest)
      | _ => none
  | .contact i served => s.calls[i]?.bind fun c =>
      match c.stage with
      | .sending t rest =>
          let s' := if served then s.advance i c .done else s.goOn i c rest
          some
            { s' with
              clients := (clientFor s.clients s.config t.provider).2
              contacts := s.contacts ++ [(t.provider, s.config)] }
      | _ => none

/-! ## What is promised -/

/-- The client has the settings of the provider, the defaults for those that are not positive. -/
structure HttpClient.Honours (c : HttpClient) (cfg : Limits) : Prop where
  timeout : c.timeout = maxInt cfg.timeoutSeconds 60 * 1000000000
  maxIdleConns : c.maxIdleConns = maxInt cfg.maxIdleConns 100
  maxIdleConnsPerHost : c.maxIdleConnsPerHost = maxInt cfg.maxConnsPerHost 50
  maxConnsPerHost : c.maxConnsPerHost = maxInt cfg.maxConnsPerHost 50

/-- The client that a request uses has the settings of the configuration of its start. -/
def Honoured (s : Service) : Label → Prop
  | .contact i _ =>
      ∀ c t rest, s.calls[i]? = some c → c.stage = .sending t rest →
        (clientFor s.clients s.config t.provider).1.Honours (c.startedUnder.limits t.provider)
  | _ => True

/-- Two settings of a provider come to the same, and the timeout of the first is a duration of
64 bits. -/
def SameLimits (first wanted : Limits) : Prop :=
  seconds (maxInt first.timeoutSeconds 60) = maxInt wanted.timeoutSeconds 60 * 1000000000 ∧
    maxInt first.maxIdleConns 100 = maxInt wanted.maxIdleConns 100 ∧
    maxInt first.maxConnsPerHost 50 = maxInt wanted.maxConnsPerHost 50

/-- Up to some three hundred years a timeout is a duration of 64 bits. -/
theorem seconds_of_le {n : ℤ} (hpos : 0 ≤ n) (hle : n ≤ 9223372036) :
    seconds n = n * 1000000000 := by
  unfold seconds
  rw [Int.bmod_eq_of_le]
  · omega
  · omega

theorem maxInt_pos {a d : ℤ} (hd : 0 < d) : 0 < maxInt a d := by
  unfold maxInt
  split <;> omega

/-- With such timeouts it is the settings themselves that have to come to the same. -/
theorem sameLimits_iff {first wanted : Limits}
    (hfits : maxInt first.timeoutSeconds 60 ≤ 9223372036) :
    SameLimits first wanted ↔
      maxInt first.timeoutSeconds 60 = maxInt wanted.timeoutSeconds 60 ∧
        maxInt first.maxIdleConns 100 = maxInt wanted.maxIdleConns 100 ∧
        maxInt first.maxConnsPerHost 50 = maxInt wanted.maxConnsPerHost 50 := by
  have hpos : 0 < maxInt first.timeoutSeconds 60 := maxInt_pos (by decide)
  -- Without overflow the nanoseconds tell the seconds apart.
  rw [SameLimits, seconds_of_le hpos.le hfits]
  refine and_congr_left fun _ => ?_
  constructor
  · intro h
    omega
  · intro h
    rw [h]

/-- The configuration in force at the first contact of a provider. -/
def Service.firstContact (s : Service) (provider : String) : Config :=
  (s.contacts.lookup provider).getD s.config

/-- The provider's settings at its first contact are those of the configuration of the request's
start. -/
def Settled (s : Service) : Label → Prop
  | .contact i _ =>
      ∀ c t rest, s.calls[i]? = some c → c.stage = .sending t rest →
        SameLimits ((s.firstContact t.provider).limits t.provider)
          (c.startedUnder.limits t.provider)
  | _ => True

/-! ## The pool remembers first contacts -/

/-- The clients are those of the first contacts. -/
def Inv (s : Service) : Prop :=
  ∀ provider, s.clients provider =
    (s.contacts.lookup provider).map fun config => newClient (config.limits provider)

theorem clientFor_of_inv {s : Service} (h : Inv s) (provider : String) :
    (clientFor s.clients s.config provider).1 =
      newClient ((s.firstContact provider).limits provider) := by
  have hclient := h provider
  unfold clientFor Service.firstContact
  cases hlook : s.contacts.lookup provider with
  | none =>
      rw [hlook, Option.map_none] at hclient
      rw [hclient]
      rfl
  | some config =>
      rw [hlook, Option.map_some] at hclient
      rw [hclient]
      rfl

/-- The first contact of a provider adds its client, and a later one adds none. -/
theorem inv_contact {s : Service} (h : Inv s) (provider : String) (calls : List ChatCall) :
    Inv { s with
      calls := calls
      clients := (clientFor s.clients s.config provider).2
      contacts := s.contacts ++ [(provider, s.config)] } := by
  intro other
  have hother := h other
  show (clientFor s.clients s.config provider).2 other = _
  rw [List.lookup_append]
  by_cases hsame : other = provider
  · subst hsame
    unfold clientFor
    cases hlook : s.contacts.lookup other with
    -- This is the first contact, and its configuration is the one in force.
    | none =>
        rw [hlook, Option.map_none] at hother
        rw [hother]
        simp
    | some config =>
        rw [hlook, Option.map_some] at hother
        rw [hother]
        simp [hother]
  · have hmiss : List.lookup other [(provider, s.config)] = none := by
      rw [List.lookup_cons, beq_eq_false_iff_ne.2 hsame]
      rfl
    rw [hmiss, Option.or_none, ← hother]
    unfold clientFor
    cases s.clients provider with
    | none => exact Function.update_of_ne hsame _ _
    | some client => rfl

/-- Only a contact touches the clients. -/
theorem inv_of_step {s t : Service} {l : Label} (h : Inv s) (hstep : step adapted s l = some t) :
    Inv t := by
  cases l with
  | reload loaded =>
      cases hstep
      exact h
  | start model =>
      cases hstep
      exact h
  | resolve i =>
      rcases Option.bind_eq_some_iff.1 hstep with ⟨c, -, hstep⟩
      split at hstep
      · split at hstep
        all_goals
          cases hstep
          exact h
      · cases hstep
  | attempt i ready =>
      rcases Option.bind_eq_some_iff.1 hstep with ⟨c, -, hstep⟩
      split at hstep
      · cases hstep
        exact h
      · split at hstep
        all_goals
          cases hstep
          exact h
      · cases hstep
  | contact i served =>
      rcases Option.bind_eq_some_iff.1 hstep with ⟨c, -, hstep⟩
      split at hstep
      · rename_i target rest hstage
        cases hstep
        cases served
        all_goals exact inv_contact h target.provider _
      · cases hstep

/-! ## Runs -/

theorem honours_newClient_iff {first wanted : Limits} :
    (newClient first).Honours wanted ↔ SameLimits first wanted := by
  constructor
  · intro h
    exact ⟨h.timeout, h.maxIdleConns, h.maxConnsPerHost⟩
  · rintro ⟨htimeout, hidle, hhost⟩
    exact
      { timeout := htimeout
        maxIdleConns := hidle
        maxIdleConnsPerHost := hhost
        maxConnsPerHost := hhost }

theorem honoured_iff {s : Service} (h : Inv s) (l : Label) : Honoured s l ↔ Settled s l := by
  -- The client in the pool was made from the settings of the first contact.
  cases l with
  | contact i served =>
      simp only [Honoured, Settled, clientFor_of_inv h, honours_newClient_iff]
  | _ => exact Iff.rfl

/-- From the start of the gateway, every request uses clients with the settings of the
configuration of its start if and only if every provider's settings at its first contact are those
of the start of each request that contacts it. -/
theorem honoured_iff_settled (config : Config) (labels : List Label) :
    Guarded (step adapted) Honoured { config := config } labels ↔
      Guarded (step adapted) Settled { config := config } labels := by
  have hlaw : ∀ s l, Inv s → (Honoured s l ↔ Settled s l) := fun _ l h => honoured_iff h l
  exact guarded_iff hlaw (fun _ _ _ h _ hstep => inv_of_step adapted h hstep) fun _ => rfl

/-- A configuration with one provider and one model. -/
def withTimeout (timeoutSeconds : ℤ) : Config where
  router := .load
    { providers := AList.singleton "openai"
        { baseURL := "https://api.openai.com", keyEnv := "OPENAI_API_KEY", headers := ∅ }
      models := [{ id := "m", provider := "openai", fallback := [] }] }
  limits name := if name = "openai" then { timeoutSeconds := timeoutSeconds } else {}
  limits_of_absent := by
    intro name habsent
    refine if_neg ?_
    rintro rfl
    cases habsent

/-- The timeout is raised from 30 to 120 seconds; a request of the new configuration still gets the
client with the old one. -/
theorem reloaded_timeout_not_honoured :
    ∃ s, exec (step fun _ => true) { config := withTimeout 30 }
        [.start "m", .resolve 0, .attempt 0 true, .contact 0 true, .reload (some (withTimeout 120)),
          .start "m", .resolve 1, .attempt 1 true] = some s ∧
      (clientFor s.clients s.config "openai").1.timeout = 30000000000 ∧
      ¬ Honoured s (.contact 1 true) := by
  refine ⟨_, rfl, by decide +kernel, fun h => ?_⟩
  have htimeout := (h _ _ _ rfl rfl).timeout
  revert htimeout
  decide +kernel

end ClientPool
end Gateway
end OpenRouter
