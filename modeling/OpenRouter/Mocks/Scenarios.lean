import Mathlib.Algebra.Order.Field.Rat
import Mathlib.Data.List.Induction
import OpenRouter.Base.Transition

/-!
# Scenarios — what the mock providers are told to do

The engine of `mock-providers` and the endpoints that ask it: each request looks for an injected
error, then sleeps, then is recorded, and the control plane may speak in between.  `forced_iff`
says which request is answered with a forced status, and `answers_heard` which settings no request
ever asks for.
-/

namespace OpenRouter
namespace Mocks

open Base

/-! ## The engine -/

/-- An override of a provider and a route; `none` is the default of the settings. -/
structure ScenarioState where
  latencyMs : Option ℚ := none
  errorRate : Option ℚ := none
  rateLimitRate : Option ℚ := none
  streamChunkDelayMs : Option ℚ := none
  forceStatus : Option ℤ := none

structure Stats where
  requests : ℕ := 0
  errorsInjected : ℕ := 0
  rateLimitsInjected : ℕ := 0
  latencyTotalMs : ℚ := 0

structure Settings where
  defaultLatencyMs : ℚ := 5
  defaultErrorRate : ℚ := 0
  defaultRateLimitRate : ℚ := 0
  streamChunkDelayMs : ℚ := 20

structure Engine where
  overrides : String × String → Option ScenarioState := fun _ => none
  stats : Stats := {}

/-- The keyword arguments of `set`; a value may be `None`. -/
structure Changes where
  latencyMs : Option (Option ℚ) := none
  errorRate : Option (Option ℚ) := none
  rateLimitRate : Option (Option ℚ) := none
  streamChunkDelayMs : Option (Option ℚ) := none
  forceStatus : Option (Option ℤ) := none

def Changes.apply (c : Changes) (s : ScenarioState) : ScenarioState where
  latencyMs := c.latencyMs.getD s.latencyMs
  errorRate := c.errorRate.getD s.errorRate
  rateLimitRate := c.rateLimitRate.getD s.rateLimitRate
  streamChunkDelayMs := c.streamChunkDelayMs.getD s.streamChunkDelayMs
  forceStatus := c.forceStatus.getD s.forceStatus

namespace Engine

variable (cfg : Settings) (e : Engine) (key : String × String)

def set (c : Changes) : ScenarioState × Engine :=
  let state := c.apply ((e.overrides key).getD {})
  (state, { e with overrides := Function.update e.overrides key (some state) })

def reset : Engine :=
  { overrides := fun _ => none, stats := {} }

def get : ScenarioState :=
  (e.overrides key).getD {}

def latencyMs : ℚ :=
  (e.get key).latencyMs.getD cfg.defaultLatencyMs

def errorRate : ℚ :=
  (e.get key).errorRate.getD cfg.defaultErrorRate

def rateLimitRate : ℚ :=
  (e.get key).rateLimitRate.getD cfg.defaultRateLimitRate

def takeForceStatus : Option ℤ × Engine :=
  match e.overrides key with
  | none => (none, e)
  | some state =>
      (state.forceStatus,
        { e with
          overrides := Function.update e.overrides key (some { state with forceStatus := none }) })

def record (latency : ℚ) (error rateLimit : Bool) : Engine :=
  { e with
    stats :=
      { requests := e.stats.requests + 1
        errorsInjected := e.stats.errorsInjected + error.toNat
        rateLimitsInjected := e.stats.rateLimitsInjected + rateLimit.toNat
        latencyTotalMs := e.stats.latencyTotalMs + latency } }

end Engine

/-! ## Injected errors -/

/-- What `random` draws for one request. -/
structure Draws where
  rateLimit : ℚ
  error : ℚ
  /-- Between `503` and `500`. -/
  mix : ℚ
  /-- `random.uniform(-jitter, jitter)`. -/
  jitter : ℚ

/-- `_make_openai_error`. -/
structure InjectedError where
  message : String
  code : String
  status : ℤ
  deriving DecidableEq

/-- The header of a `429`. -/
def InjectedError.retryAfter (err : InjectedError) : Option String :=
  if err.status = 429 then some "1" else none

/-- The end of `maybe_inject_error`: the configured rates. -/
def drawError (cfg : Settings) (d : Draws) (e : Engine) (key : String × String) :
    Option InjectedError × Engine :=
  if d.rateLimit < e.rateLimitRate cfg key then
    (some ⟨"Rate limit reached for requests", "rate_limit_exceeded", 429⟩, e.record 0 false true)
  else if d.error < e.errorRate cfg key then
    (some ⟨"The server had an error processing your request", "server_error",
      if d.mix < 1 / 2 then 503 else 500⟩, e.record 0 true false)
  else (none, e)

/-- `maybe_inject_error`; another forced status than `429` and `5xx` is taken and forgotten. -/
def maybeInjectError (cfg : Settings) (d : Draws) (e : Engine) (key : String × String) :
    Option InjectedError × Engine :=
  match e.takeForceStatus key with
  | (none, e) => drawError cfg d e key
  | (some forced, e) =>
      if forced = 429 then
        (some ⟨"Rate limit exceeded (forced)", "rate_limit_exceeded", 429⟩, e.record 0 false true)
      else if 500 ≤ forced then
        (some ⟨"Forced server error", "server_error", forced⟩, e.record 0 true false)
      else drawError cfg d e key

/-- `sleep_with_jitter`. -/
def sleepWithJitter (base jitter : ℚ) : ℚ :=
  if base ≤ 0 then 0 else max 0 (base + jitter)

/-! ## Endpoints -/

inductive Endpoint
  | chatCompletions
  | embeddings
  | imagesGenerations
  | messages
  | generateContent
  | streamGenerateContent

/-- `PROVIDER` and `route`; the aggregators are served by the mock of OpenAI. -/
def Endpoint.key : Endpoint → String × String
  | chatCompletions => ("openai", "chat")
  | embeddings => ("openai", "embeddings")
  | imagesGenerations => ("openai", "images")
  | messages => ("anthropic", "messages")
  | generateContent | streamGenerateContent => ("google", "generateContent")

/-- The request is recorded before its document is built; the others build first. -/
def Endpoint.recordsFirst : Endpoint → Bool
  | chatCompletions | messages => true
  | embeddings | imagesGenerations | generateContent | streamGenerateContent => false

/-- Where a handler raises: at a body that is no object, or while it builds the document. -/
inductive Raise
  | body
  | build

/-- Whether the request has been recorded by then. -/
def Endpoint.records (e : Endpoint) : Option Raise → Bool
  | none => true
  | some .body => false
  | some .build => e.recordsFirst

/-- A request that is asleep, and for how long. -/
structure Sleeper where
  endpoint : Endpoint
  slept : ℚ

structure Server where
  engine : Engine := {}
  sleeping : List Sleeper := []

inductive Input
  | set (provider route : String) (c : Changes)
  | reset
  /-- A request with a JSON body. -/
  | arrive (e : Endpoint) (d : Draws)
  /-- The sleep of a request is over. -/
  | wake (i : ℕ) (raises : Option Raise)

inductive Reply
  | state (s : ScenarioState)
  | ok
  | injected (err : InjectedError)
  | asleep (slept : ℚ)
  | answered (e : Endpoint)
  | raised (e : Endpoint)

variable (cfg : Settings)

def serve (s : Server) : Input → Reply × Server
  | .set provider route c =>
      let (state, engine) := s.engine.set (provider, route) c
      (.state state, { s with engine := engine })
  | .reset => (.ok, { s with engine := Engine.reset })
  | .arrive e d =>
      match maybeInjectError cfg d s.engine e.key with
      | (some err, engine) => (.injected err, { s with engine := engine })
      | (none, engine) =>
          let slept := sleepWithJitter (engine.latencyMs cfg e.key) d.jitter
          (.asleep slept, { engine := engine, sleeping := s.sleeping ++ [⟨e, slept⟩] })
  | .wake i raises =>
      match s.sleeping[i]? with
      | none => (.ok, s)
      | some r =>
          let engine :=
            if r.endpoint.records raises then s.engine.record r.slept false false else s.engine
          (if raises.isSome then .raised r.endpoint else .answered r.endpoint,
            { engine := engine, sleeping := s.sleeping.eraseIdx i })

/-! ### The control plane and the helpers -/

inductive ProviderName
  | openai
  | anthropic
  | google
  | together
  | fireworks
  | ollama
  deriving DecidableEq

def ProviderName.value : ProviderName → String
  | openai => "openai"
  | anthropic => "anthropic"
  | google => "google"
  | together => "together"
  | fireworks => "fireworks"
  | ollama => "ollama"

/-- `POST /control/scenario`; what is left out is not changed. -/
structure ScenarioRequest where
  provider : ProviderName
  route : String
  latencyMs : Option ℚ := none
  errorRate : Option ℚ := none
  rateLimitRate : Option ℚ := none
  streamChunkDelayMs : Option ℚ := none
  forceStatus : Option ℤ := none

def setScenario (r : ScenarioRequest) : Input :=
  .set r.provider.value r.route
    { latencyMs := r.latencyMs.map some
      errorRate := r.errorRate.map some
      rateLimitRate := r.rateLimitRate.map some
      streamChunkDelayMs := r.streamChunkDelayMs.map some
      forceStatus := r.forceStatus.map some }

def breakProvider (provider : String) (route : String := "chat") (status : ℤ := 503) : Input :=
  .set provider route { forceStatus := some (some status) }

def healProvider (provider : String) (route : String := "chat") : Input :=
  .set provider route { forceStatus := some none }

def degradeProvider (provider : String) (route : String := "chat") (latency : ℚ := 2000) : Input :=
  .set provider route { latencyMs := some (some latency) }

/-! ## Forced statuses -/

variable {cfg : Settings}

/-- The status that the next request is forced to. -/
def Engine.forced (e : Engine) (key : String × String) : Option ℤ :=
  (e.overrides key).bind ScenarioState.forceStatus

/-- The error of a forced status. -/
def forcedError (status : ℤ) : InjectedError :=
  if status = 429 then ⟨"Rate limit exceeded (forced)", "rate_limit_exceeded", 429⟩
  else ⟨"Forced server error", "server_error", status⟩

/-- The input decides by itself what is forced afterwards. -/
def Touches (key : String × String) : Input → Prop
  | .set provider route c => (provider, route) = key ∧ c.forceStatus ≠ none
  | .reset => True
  | .arrive e _ => e.key = key
  | .wake _ _ => False

/-- The input sets a forced status. -/
def Forces (key : String × String) (status : ℤ) (i : Input) : Prop :=
  ∃ c : Changes, i = .set key.1 key.2 c ∧ c.forceStatus = some (some status)

theorem takeForceStatus_fst (e : Engine) (key : String × String) :
    (e.takeForceStatus key).1 = e.forced key := by
  unfold Engine.takeForceStatus Engine.forced
  cases e.overrides key with
  | none => rfl
  | some state => rfl

theorem forced_takeForceStatus (e : Engine) (key key' : String × String) :
    (e.takeForceStatus key).2.forced key' = if key' = key then none else e.forced key' := by
  unfold Engine.takeForceStatus
  cases hover : e.overrides key with
  | none =>
      by_cases hkey : key' = key
      · rw [if_pos hkey, hkey, Engine.forced, hover, Option.bind_none]
      · rw [if_neg hkey]
  | some state =>
      by_cases hkey : key' = key
      · simp [Engine.forced, hkey]
      · simp [Engine.forced, hkey, Function.update_of_ne]

theorem overrides_drawError (d : Draws) (e : Engine) (key : String × String) :
    (drawError cfg d e key).2.overrides = e.overrides := by
  unfold drawError
  split_ifs <;> rfl

/-- Whatever is injected, the forced status is taken, and nothing else of the overrides. -/
theorem overrides_maybeInjectError (d : Draws) (e : Engine) (key : String × String) :
    (maybeInjectError cfg d e key).2.overrides = (e.takeForceStatus key).2.overrides := by
  unfold maybeInjectError
  rcases e.takeForceStatus key with ⟨forced, e'⟩
  cases forced with
  | none => exact overrides_drawError d e' key
  | some forced =>
      simp only
      split_ifs
      · rfl
      · rfl
      · exact overrides_drawError d e' key

theorem forced_set (c : Changes) (e : Engine) (key key' : String × String) :
    (e.set key c).2.forced key' =
      if key' = key then c.forceStatus.getD (e.forced key) else e.forced key' := by
  by_cases hkey : key' = key
  · have hold : ((e.overrides key).getD {}).forceStatus = e.forced key := by
      unfold Engine.forced
      cases e.overrides key <;> rfl
    rw [if_pos hkey, hkey, ← hold]
    simp [Engine.forced, Engine.set, Changes.apply]
  · rw [if_neg hkey]
    simp [Engine.forced, Engine.set, Function.update_of_ne hkey]

theorem forced_maybeInjectError (d : Draws) (e : Engine) (key key' : String × String) :
    (maybeInjectError cfg d e key).2.forced key' = if key' = key then none else e.forced key' := by
  rw [Engine.forced, overrides_maybeInjectError, ← Engine.forced, forced_takeForceStatus]

/-- What is forced after an input. -/
theorem forced_serve (s : Server) (i : Input) (key : String × String) (status : ℤ) :
    (serve cfg s i).2.engine.forced key = some status ↔
      Forces key status i ∨ ¬ Touches key i ∧ s.engine.forced key = some status := by
  cases i with
  | set provider route c =>
      have hset : (serve cfg s (.set provider route c)).2.engine.forced key =
          if key = (provider, route) then c.forceStatus.getD (s.engine.forced (provider, route))
          else s.engine.forced key := forced_set c s.engine (provider, route) key
      rw [hset]
      by_cases hkey : key = (provider, route)
      · subst hkey
        cases hforce : c.forceStatus <;> simp [Forces, Touches, hforce]
      · have hne : ¬ (provider, route) = key := fun h => hkey h.symm
        have hnot : ¬ Forces key status (.set provider route c) := by
          rintro ⟨c', hset, -⟩
          cases hset
          exact hkey rfl
        simp [hkey, hne, hnot, Touches]
  | reset => simp [serve, Engine.reset, Engine.forced, Forces, Touches]
  | arrive e d =>
      have harrive : (serve cfg s (.arrive e d)).2.engine.forced key =
          if key = e.key then none else s.engine.forced key := by
        rw [← @forced_maybeInjectError cfg d s.engine e.key key, serve]
        rcases maybeInjectError cfg d s.engine e.key with ⟨err | err, engine⟩
        · rfl
        · rfl
      rw [harrive]
      by_cases hkey : key = e.key
      · simp [hkey, Forces, Touches]
      · have hne : ¬ e.key = key := fun h => hkey h.symm
        simp [hkey, hne, Forces, Touches]
  | wake i raises =>
      have hwake : (serve cfg s (.wake i raises)).2.engine.forced key = s.engine.forced key := by
        simp only [serve]
        cases s.sleeping[i]? with
        | none => rfl
        | some r =>
            change (if r.endpoint.records raises = true then s.engine.record r.slept false false
              else s.engine).forced key = s.engine.forced key
            split
            · rfl
            · rfl
      rw [hwake]
      simp [Forces, Touches]

/-- The last input that touches the override forces the status. -/
def LastForces (key : String × String) (status : ℤ) (past : List Input) : Prop :=
  ∃ before i after, past = before ++ i :: after ∧ Forces key status i ∧
    ∀ j ∈ after, ¬ Touches key j

theorem lastForces_concat (key : String × String) (status : ℤ) (past : List Input) (i : Input) :
    LastForces key status (past ++ [i]) ↔
      Forces key status i ∨ ¬ Touches key i ∧ LastForces key status past := by
  constructor
  · rintro ⟨before, j, after, hpast, hforces, hafter⟩
    rcases List.eq_nil_or_concat after with rfl | ⟨after, l, rfl⟩
    · rcases List.append_inj' hpast rfl with ⟨-, hj⟩
      cases hj
      exact .inl hforces
    · rw [List.concat_eq_append, ← List.cons_append, ← List.append_assoc] at hpast
      rcases List.append_inj' hpast rfl with ⟨rfl, hl⟩
      cases hl
      rw [List.concat_eq_append, List.forall_mem_append] at hafter
      exact .inr ⟨hafter.2 i (by simp), before, j, after, rfl, hforces, hafter.1⟩
  · rintro (hforces | ⟨hnot, before, j, after, rfl, hforces, hafter⟩)
    · exact ⟨past, i, [], rfl, hforces, by simp⟩
    · refine ⟨before, j, after ++ [i], by simp, hforces, ?_⟩
      exact List.forall_mem_append.2 ⟨hafter, by simpa using hnot⟩

/-- The run lemma. -/
theorem forced_afterAll (key : String × String) (status : ℤ) (past : List Input) :
    (afterAll (serve cfg) {} past).engine.forced key = some status ↔
      LastForces key status past := by
  induction past using List.reverseRecOn with
  | nil =>
      constructor
      · intro h
        cases h
      · rintro ⟨before, i, after, hpast, -⟩
        simp at hpast
  | append_singleton past i ih =>
      rw [afterAll_append, lastForces_concat, ← ih]
      exact forced_serve (afterAll (serve cfg) {} past) i key status

@[simp] theorem status_forcedError (status : ℤ) : (forcedError status).status = status := by
  unfold forcedError
  split_ifs with h
  · exact h.symm
  · rfl

/-- An error that the draws bring about says so. -/
theorem message_forcedError (status : ℤ) :
    (forcedError status).message ≠ "Rate limit reached for requests" ∧
      (forcedError status).message ≠ "The server had an error processing your request" := by
  unfold forcedError
  split_ifs <;> exact ⟨by simp, by simp⟩

section Injection

variable {d : Draws} {e : Engine} {key : String × String}

theorem drawError_ne (status : ℤ) : (drawError cfg d e key).1 ≠ some (forcedError status) := by
  have hmessage := message_forcedError status
  unfold drawError
  by_cases hlimit : d.rateLimit < e.rateLimitRate cfg key
  · rw [if_pos hlimit]
    intro herr
    rw [← Option.some.inj herr] at hmessage
    exact hmessage.1 rfl
  · rw [if_neg hlimit]
    by_cases herror : d.error < e.errorRate cfg key
    · rw [if_pos herror]
      intro herr
      rw [← Option.some.inj herr] at hmessage
      exact hmessage.2 rfl
    · rw [if_neg herror]
      exact fun herr => by cases herr

theorem maybeInjectError_of_forced {status : ℤ} (h : e.forced key = some status)
    (hstatus : status = 429 ∨ 500 ≤ status) :
    (maybeInjectError cfg d e key).1 = some (forcedError status) := by
  rw [← takeForceStatus_fst] at h
  rcases htake : e.takeForceStatus key with ⟨forced, e'⟩
  rw [htake] at h
  cases h
  simp only [maybeInjectError, htake, forcedError]
  rcases hstatus with rfl | hserver
  · rfl
  · have hne : status ≠ 429 := by omega
    rw [if_neg hne, if_neg hne, if_pos hserver]

/-- Without a forced status that counts, it is the draws that decide. -/
theorem maybeInjectError_of_not_forced
    (h : ∀ status, e.forced key = some status → ¬ (status = 429 ∨ 500 ≤ status)) (status : ℤ) :
    (maybeInjectError cfg d e key).1 ≠ some (forcedError status) := by
  rw [← takeForceStatus_fst] at h
  rcases htake : e.takeForceStatus key with ⟨forced, e'⟩
  rw [htake] at h
  simp only [maybeInjectError, htake]
  cases forced with
  | none => exact drawError_ne status
  | some forced =>
      have hnot := h forced rfl
      have hlimit : forced ≠ 429 := fun heq => hnot (.inl heq)
      have hserver : ¬ 500 ≤ forced := fun hle => hnot (.inr hle)
      simp only
      rw [if_neg hlimit, if_neg hserver]
      exact drawError_ne status

theorem maybeInjectError_eq_forced_iff (status : ℤ) :
    (maybeInjectError cfg d e key).1 = some (forcedError status) ↔
      e.forced key = some status ∧ (status = 429 ∨ 500 ≤ status) := by
  constructor
  · intro h
    by_cases hcounts : ∃ f, e.forced key = some f ∧ (f = 429 ∨ 500 ≤ f)
    · rcases hcounts with ⟨f, hforced, hf⟩
      have herr : some (forcedError f) = some (forcedError status) :=
        (maybeInjectError_of_forced hforced hf).symm.trans h
      have hstatus : f = status := by
        simpa using congrArg InjectedError.status (Option.some.inj herr)
      exact hstatus ▸ ⟨hforced, hf⟩
    · exact absurd h (maybeInjectError_of_not_forced (fun f hforced hf =>
        hcounts ⟨f, hforced, hf⟩) status)
  · rintro ⟨hforced, hf⟩
    exact maybeInjectError_of_forced hforced hf

end Injection

theorem injected_arrive_iff (s : Server) (e : Endpoint) (d : Draws) (err : InjectedError) :
    (serve cfg s (.arrive e d)).1 = .injected err ↔
      (maybeInjectError cfg d s.engine e.key).1 = some err := by
  rw [serve]
  rcases maybeInjectError cfg d s.engine e.key with ⟨err' | err', engine⟩ <;> simp

/-- Whatever the mocks have been told and asked before, a request is answered with a forced status
exactly when the last input that touched its override forced it, and the status is `429` or
`5xx`.  So the next request is not, until it is forced again. -/
theorem forced_iff (cfg : Settings) (past : List Input) (e : Endpoint) (d : Draws) (status : ℤ) :
    (serve cfg (afterAll (serve cfg) {} past) (.arrive e d)).1 = .injected (forcedError status) ↔
      (status = 429 ∨ 500 ≤ status) ∧ LastForces e.key status past := by
  rw [injected_arrive_iff, maybeInjectError_eq_forced_iff, forced_afterAll, and_comm]

/-- Only the first of two requests fails. -/
example :
    (replies (serve {}) {} [breakProvider "openai", .arrive .chatCompletions ⟨0, 0, 0, 0⟩,
      .arrive .chatCompletions ⟨0, 0, 0, 0⟩]).map (fun r => r matches .injected _) =
      [false, true, false] := by
  decide +kernel

/-! ## Settings that nobody asks for -/

def servedKeys : List (String × String) :=
  [Endpoint.chatCompletions, .embeddings, .imagesGenerations, .messages, .generateContent].map
    Endpoint.key

/-- Every input but a setting of a key that no endpoint asks for. -/
def heard : Input → Bool
  | .set provider route _ => servedKeys.contains (provider, route)
  | _ => true

/-- What a client of the mocks reads, apart from the control plane. -/
def Reply.answer : Reply → Option Reply
  | .state _ | .ok => none
  | r => some r

theorem key_mem_servedKeys (e : Endpoint) : e.key ∈ servedKeys := by
  cases e <;> decide

/-- The engines are the same to every endpoint. -/
structure Agree (e e' : Engine) : Prop where
  stats : e.stats = e'.stats
  overrides : ∀ key ∈ servedKeys, e.overrides key = e'.overrides key

namespace Agree

variable {e e' : Engine} {key : String × String}

theorem record (h : Agree e e') (latency : ℚ) (error rateLimit : Bool) :
    Agree (e.record latency error rateLimit) (e'.record latency error rateLimit) where
  stats := by simp only [Engine.record, h.stats]
  overrides := h.overrides

theorem update (h : Agree e e') (key : String × String) (state : ScenarioState) :
    Agree { e with overrides := Function.update e.overrides key (some state) }
      { e' with overrides := Function.update e'.overrides key (some state) } where
  stats := h.stats
  overrides := by
    intro key' hkey'
    by_cases heq : key' = key
    · subst heq
      simp
    · simpa [Function.update_of_ne heq] using h.overrides key' hkey'

theorem set (h : Agree e e') (hkey : key ∈ servedKeys) (c : Changes) :
    Agree (e.set key c).2 (e'.set key c).2 := by
  unfold Engine.set
  rw [h.overrides key hkey]
  exact h.update key _

/-- A setting of another key. -/
theorem set_left (h : Agree e e') (hkey : key ∉ servedKeys) (c : Changes) :
    Agree (e.set key c).2 e' where
  stats := h.stats
  overrides := by
    intro key' hkey'
    have hne : key' ≠ key := fun heq => hkey (heq ▸ hkey')
    rw [← h.overrides key' hkey']
    exact Function.update_of_ne hne _ _

theorem takeForceStatus (h : Agree e e') (hkey : key ∈ servedKeys) :
    (e.takeForceStatus key).1 = (e'.takeForceStatus key).1 ∧
      Agree (e.takeForceStatus key).2 (e'.takeForceStatus key).2 := by
  unfold Engine.takeForceStatus
  rw [h.overrides key hkey]
  cases e'.overrides key with
  | none => exact ⟨rfl, h⟩
  | some state => exact ⟨rfl, h.update key _⟩

theorem drawError (h : Agree e e') (hkey : key ∈ servedKeys) (d : Draws) :
    (drawError cfg d e key).1 = (drawError cfg d e' key).1 ∧
      Agree (Mocks.drawError cfg d e key).2 (Mocks.drawError cfg d e' key).2 := by
  have hget : e.get key = e'.get key := by
    rw [Engine.get, Engine.get, h.overrides key hkey]
  have hlimit : e.rateLimitRate cfg key = e'.rateLimitRate cfg key := by
    rw [Engine.rateLimitRate, hget, Engine.rateLimitRate]
  have herror : e.errorRate cfg key = e'.errorRate cfg key := by
    rw [Engine.errorRate, hget, Engine.errorRate]
  rw [Mocks.drawError, Mocks.drawError, hlimit, herror]
  split_ifs
  · exact ⟨rfl, h.record _ _ _⟩
  · exact ⟨rfl, h.record _ _ _⟩
  · exact ⟨rfl, h.record _ _ _⟩
  · exact ⟨rfl, h⟩

theorem maybeInjectError (h : Agree e e') (hkey : key ∈ servedKeys) (d : Draws) :
    (maybeInjectError cfg d e key).1 = (maybeInjectError cfg d e' key).1 ∧
      Agree (Mocks.maybeInjectError cfg d e key).2 (Mocks.maybeInjectError cfg d e' key).2 := by
  unfold Mocks.maybeInjectError
  rcases h.takeForceStatus hkey with ⟨hforced, hnext⟩
  rcases hleft : e.takeForceStatus key with ⟨forced, e₁⟩
  rcases hright : e'.takeForceStatus key with ⟨forced', e₁'⟩
  rw [hleft, hright] at hforced hnext
  cases hforced
  cases forced with
  | none => exact hnext.drawError hkey d
  | some forced =>
      simp only
      split_ifs
      · exact ⟨rfl, hnext.record _ _ _⟩
      · exact ⟨rfl, hnext.record _ _ _⟩
      · exact hnext.drawError hkey d

end Agree

/-- Servers whose requests are asleep alike, over engines that agree. -/
structure Indistinct (s t : Server) : Prop where
  engine : Agree s.engine t.engine
  sleeping : s.sleeping = t.sleeping

/-- An input that is heard, on both servers. -/
theorem Indistinct.serve {s t : Server} (h : Indistinct s t) (i : Input) (hi : heard i = true) :
    (serve cfg s i).1.answer = (serve cfg t i).1.answer ∧
      Indistinct (Mocks.serve cfg s i).2 (Mocks.serve cfg t i).2 := by
  cases i with
  | set provider route c =>
      have hkey : (provider, route) ∈ servedKeys := by simpa [heard] using hi
      exact ⟨rfl, h.engine.set hkey c, h.sleeping⟩
  | reset => exact ⟨rfl, ⟨rfl, fun _ _ => rfl⟩, h.sleeping⟩
  | arrive e d =>
      have hkey := key_mem_servedKeys e
      rcases @Agree.maybeInjectError cfg _ _ _ h.engine hkey d with ⟨herr, hnext⟩
      simp only [Mocks.serve]
      rcases hleft : maybeInjectError cfg d s.engine e.key with ⟨err, engine⟩
      rcases hright : maybeInjectError cfg d t.engine e.key with ⟨err', engine'⟩
      rw [hleft, hright] at herr hnext
      cases herr
      cases err with
      | some err => exact ⟨rfl, hnext, h.sleeping⟩
      | none =>
          have hlatency : engine.latencyMs cfg e.key = engine'.latencyMs cfg e.key := by
            rw [Engine.latencyMs, Engine.latencyMs, Engine.get, Engine.get,
              hnext.overrides e.key hkey]
          simp only [hlatency, h.sleeping]
          exact ⟨trivial, hnext, rfl⟩
  | wake i raises =>
      simp only [Mocks.serve, h.sleeping]
      cases t.sleeping[i]? with
      | none => exact ⟨rfl, h⟩
      | some r =>
          refine ⟨rfl, ?_, rfl⟩
          change Agree (if r.endpoint.records raises = true then s.engine.record r.slept false false
              else s.engine)
            (if r.endpoint.records raises = true then t.engine.record r.slept false false
              else t.engine)
          split
          · exact h.engine.record _ _ _
          · exact h.engine

/-- Settings of a key that no endpoint asks for may as well be left out: the requests are answered
the same.  The keys of the aggregators are such keys, so nothing that is set for them is ever
seen. -/
theorem answers_heard (cfg : Settings) (is : List Input) :
    (replies (serve cfg) {} is).filterMap Reply.answer =
        (replies (serve cfg) {} (is.filter heard)).filterMap Reply.answer ∧
      ∀ r : ScenarioRequest, r.provider ∈ [.together, .fireworks, .ollama] →
        heard (setScenario r) = false := by
  have hstart : Indistinct ({} : Server) {} := ⟨⟨rfl, fun _ _ => rfl⟩, rfl⟩
  refine ⟨filterMap_replies_filter (fun s t i hi h => h.serve i hi) ?_ hstart is, ?_⟩
  · intro s t i hi h
    cases i with
    | set provider route c =>
        have hkey : (provider, route) ∉ servedKeys := by simpa [heard] using hi
        exact ⟨rfl, h.engine.set_left hkey c, h.sleeping⟩
    | _ => cases hi
  · intro r hr
    have hother : ∀ provider ∈ [ProviderName.together, .fireworks, .ollama], ∀ key ∈ servedKeys,
        key.1 ≠ provider.value := by
      decide
    by_contra hheard
    have hkey : (r.provider.value, r.route) ∈ servedKeys := by
      simpa [heard, setScenario] using hheard
    exact hother r.provider hr _ hkey rfl

end Mocks
end OpenRouter
