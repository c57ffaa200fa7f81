import OpenRouter.Gateway.Anthropic
import OpenRouter.Gateway.Handlers
import OpenRouter.Gateway.Relay

/-!
# RoutedModel — the model that an upstream is asked for

A target names a model; the request that goes to it carries a body.  `RoutesModel` says that every
body asks for its target's model.  The Anthropic adapter writes the model itself
(`asks_anthropic`); the others leave the body to the client, and `routesModel_iff` says when that
is good enough.
-/

namespace OpenRouter
namespace Gateway

open Base

/-! ## Bodies that ask for a model -/

/-- Every member that is named exactly `model` is the string `m`, and there is one. -/
def Asks (body : Bytes) (m : String) : Prop :=
  ∃ ms, parse (decode body) = some (.obj ms) ∧ (∃ v, ("model", v) ∈ ms) ∧
    ∀ v, ("model", v) ∈ ms → v = .str m

/-- The model of a target as its provider knows it: the Anthropic and the Google adapter strip the
provider's prefix. -/
def Target.upstreamModel (t : Target) : String :=
  if t.provider = "anthropic" ∨ t.provider = "google" then stripProviderPrefix t.model else t.model

/-- Whatever the surroundings answer, each upstream that is contacted is asked for the model of its
target. -/
def RoutesModel (p : Proxy) (modelID : String) (body : Bytes) : Prop :=
  ∀ (env : ℕ → Attempt) (stream : Bool) (fault : ℕ → Option (ℕ × GoError)) (flusher : Bool)
    (i : ℕ) (t : Target) (o : Outbound),
    .contact i t o ∈
      (p.chatCompletion env modelID body stream { fault := fault, flusher := flusher }).2.events →
    Asks o.body t.upstreamModel

/-! ## The Anthropic adapter -/

theorem model_foldl_addMessage (ms : List OpenAIMessage) (req : AnthropicMessagesRequest) :
    (ms.foldl addMessage req).model = req.model := by
  induction ms generalizing req with
  | nil => rfl
  | cons m ms ih =>
      have hstep : (addMessage req m).model = req.model := by
        unfold addMessage
        split_ifs <;> rfl
      rw [List.foldl_cons, ih, hstep]

theorem key_eq_of_mem_omitIf {empty : Bool} {key key' : String} {v v' : Json}
    (h : (key', v') ∈ omitIf empty key v) : key' = key := by
  unfold omitIf at h
  split at h
  · cases h
  · cases List.mem_singleton.1 h
    rfl

/-- The request is an object whose only `model` is its own. -/
theorem asks_tree (req : AnthropicMessagesRequest) : Asks (marshal req.tree) req.model := by
  refine ⟨_, parse_marshal _, ⟨.str req.model, List.mem_cons_self⟩, fun v hv => ?_⟩
  rcases List.mem_cons.1 hv with hv | hv
  · cases hv
    rfl
  · exfalso
    simp only [List.mem_append, List.mem_cons] at hv
    rcases hv with hv | hv | hv | (hv | hv) | hv
    · exact absurd (key_eq_of_mem_omitIf hv) (by decide)
    · exact absurd (Prod.mk.inj hv).1 (by decide)
    · exact absurd (Prod.mk.inj hv).1 (by decide)
    · exact absurd (key_eq_of_mem_omitIf hv) (by decide)
    · exact absurd (key_eq_of_mem_omitIf hv) (by decide)
    · exact absurd (key_eq_of_mem_omitIf hv) (by decide)

/-- The Anthropic adapter asks for its target's model, whatever the client's body says. -/
theorem asks_anthropic {rt : Runtime} {modelID : String} {body : Bytes} {cfg : ProviderConfig}
    {upstream : UpstreamRequest}
    (h : (anthropic rt).normalizeRequest modelID body cfg = .ok upstream) :
    Asks upstream.body (stripProviderPrefix modelID) := by
  simp only [anthropic] at h
  split at h
  · cases h
  · rename_i req hreq
    cases h
    have hmodel : (toAnthropic modelID req).model = stripProviderPrefix modelID := by
      rw [toAnthropic, model_foldl_addMessage]
    rw [← hmodel]
    exact asks_tree _

/-! ## The pass-through adapters -/

/-- The providers whose adapter sends the client's body as it came. -/
def passThroughProviders : List String :=
  ["google", "openai", "together", "fireworks", "ollama"]

theorem provider_of_standardAdapters {rt : Runtime} {provider : String} {a : ProviderAdapter}
    (h : standardAdapters rt provider = some a) :
    provider = "anthropic" ∧ a = anthropic rt ∨ provider ∈ passThroughProviders := by
  unfold standardAdapters at h
  split_ifs at h with hanthropic hgoogle hopenAI
  · cases h
    exact .inl ⟨hanthropic, rfl⟩
  · exact .inr (by simp [passThroughProviders, hgoogle])
  · exact .inr (List.mem_cons_of_mem _ hopenAI)

/-- A pass-through provider accepts every body and sends it on. -/
theorem body_of_passThrough (rt : Runtime) {provider : String}
    (h : provider ∈ passThroughProviders) (modelID : String) (body : Bytes) (cfg : ProviderConfig) :
    ∃ a upstream, standardAdapters rt provider = some a ∧
      a.normalizeRequest modelID body cfg = .ok upstream ∧ upstream.body = body := by
  rcases List.mem_cons.1 h with rfl | hopenAI
  · exact ⟨google, _, rfl, rfl, rfl⟩
  · have hne : provider ≠ "anthropic" ∧ provider ≠ "google" := by
      constructor <;> rintro rfl <;> exact absurd hopenAI (by decide)
    refine ⟨openAI rt, _, ?_, rfl, rfl⟩
    simp only [standardAdapters, hne.1, hne.2, if_false, hopenAI, if_true]

/-! ## Routing -/

/-- The surroundings in which every breaker but the `k`-th refuses and no upstream can be
reached. -/
def onlyAttempt (k : ℕ) : ℕ → Attempt := fun i =>
  { refusal := if i = k then none else some (.text "circuit breaker is open")
    reply := .error (.text "connection refused") }

/-- They bring a request to the `k`-th target, if it can be prepared at all. -/
theorem contact_onlyAttempt {p : Proxy} {body : Bytes} {t : Target} {a : ProviderAdapter}
    {o : Outbound} {stream : Bool} {ts : List Target} {i j k : ℕ} {lastErr : GoError}
    {x : Exchange} (ht : ts[j]? = some t) (hk : k = i + j)
    (hprep : p.prepare (onlyAttempt k k) body t = .ok (a, o)) :
    .contact k t o ∈ (p.tryTargets (onlyAttempt k) body stream i lastErr ts x).2.events := by
  induction ts generalizing i j lastErr with
  | nil => simp at ht
  | cons t' ts ih =>
      cases j with
      | zero =>
          cases ht
          have hi : i = k := by
            omega
          subst hi
          -- What is recorded here is not taken back by the rest of the chain.
          have hgrows : (x.record (.contact i t o)).events <+:
              (p.tryTargets (onlyAttempt i) body stream i lastErr (t :: ts) x).2.events :=
            Proxy.grows_of_prepare hprep Proxy.grows_tryTargets
          exact hgrows.subset (by simp [Exchange.record])
      | succ j =>
          -- Every earlier position is refused by its breaker.
          have hrefusal : (onlyAttempt k i).refusal = some (.text "circuit breaker is open") := by
            have hne : i ≠ k := by
              omega
            simp [onlyAttempt, hne]
          rcases Proxy.prepare_of_refusal (p := p) hrefusal body t' with ⟨err, hskip⟩
          rw [Proxy.tryTargets_of_skip hskip]
          exact ih ht (by omega)

/-- Upstreams are asked for their targets' models exactly when the client's own body asks for the
model of each configured pass-through target of the chain. -/
theorem routesModel_iff (rt : Runtime) (router : Router) (modelID : String) (body : Bytes) :
    RoutesModel (newProxy rt router) modelID body ↔
      ∀ primary fallback, router.resolve modelID = some (primary, fallback) →
        ∀ t ∈ primary :: fallback, t.provider ∈ passThroughProviders →
          (router.provider t.provider).isSome → Asks body t.upstreamModel := by
  constructor
  · intro h primary fallback hresolve t ht hpass hconfigured
    rcases List.mem_iff_getElem?.1 ht with ⟨k, hk⟩
    rcases Option.isSome_iff_exists.1 hconfigured with ⟨cfg, hcfg⟩
    rcases body_of_passThrough rt hpass t.model body cfg with
      ⟨a, upstream, hadapter, hnorm, hbody⟩
    -- Let every target before `t` be refused: then `t` is asked, with the client's own body.
    let o : Outbound :=
      { url := cfg.baseURL ++ upstream.path, headers := upstream.headers, body := upstream.body }
    have hprep : (newProxy rt router).prepare (onlyAttempt k k) body t = .ok (a, o) :=
      Proxy.prepare_eq_ok_iff.2
        ⟨hadapter, by simp [onlyAttempt], rfl, cfg, upstream, hcfg, hnorm, rfl⟩
    have hasks : Asks o.body t.upstreamModel := by
      refine h (onlyAttempt k) false (fun _ => none) false k t o ?_
      have hchain : (newProxy rt router).router.resolve modelID = some (primary, fallback) :=
        hresolve
      simp only [Proxy.chatCompletion, hchain]
      exact contact_onlyAttempt hk (Nat.zero_add k).symm hprep
    simpa [o, hbody] using hasks
  · intro h env stream fault flusher i t o hcontact
    unfold Proxy.chatCompletion at hcontact
    cases hresolve : (newProxy rt router).router.resolve modelID with
    | none => simp [hresolve] at hcontact
    | some c =>
        rcases c with ⟨primary, fallback⟩
        simp only [hresolve] at hcontact
        rcases Proxy.prepare_of_contact hcontact with hmem | ⟨j, a, hj, -, hprep⟩
        · simp at hmem
        · rcases Proxy.prepare_eq_ok_iff.1 hprep with
            ⟨hadapter, -, -, cfg, upstream, hcfg, hnorm, rfl⟩
          -- Anthropic's body is built for the target; the others get the client's.
          rcases provider_of_standardAdapters hadapter with ⟨hprovider, rfl⟩ | hpass
          · have hmodel : t.upstreamModel = stripProviderPrefix t.model := by
              simp [Target.upstreamModel, hprovider]
            rw [hmodel]
            exact asks_anthropic hnorm
          · have hcfg' : router.provider t.provider = some cfg := hcfg
            have hasks := h primary fallback hresolve t (List.mem_of_getElem? hj) hpass
              (by simp [hcfg'])
            rcases body_of_passThrough rt hpass t.model body cfg with
              ⟨a', upstream', hadapter', hnorm', hbody⟩
            have hsame : a = a' := Option.some.inj (hadapter.symm.trans hadapter')
            subst hsame
            rw [hnorm] at hnorm'
            cases hnorm'
            simpa [hbody] using hasks

/-- The target and the body of a request that is sent. -/
def Event.asked : Event → Option (Target × Bytes)
  | .contact _ t o => some (t, o.body)
  | _ => none

/-- A body with one `model` asks for no other. -/
theorem eq_of_asks_marshal {m m' : String} (h : Asks (marshal (.obj [("model", .str m)])) m') :
    m = m' := by
  rcases h with ⟨ms, hparse, -, hall⟩
  rw [parse_marshal] at hparse
  cases hparse
  have hvalue : Json.str m = .str m' := hall (.str m) List.mem_cons_self
  cases hvalue
  rfl

/-- With the primary unreachable, its fallback is asked for the primary's model. -/
theorem fallback_is_asked_for_primary :
    ¬ ∀ (rt : Runtime) (router : Router) (modelID : String) (body : Bytes),
      (router.resolve modelID).isSome → unmarshal "" decodeModelField body = some modelID →
      RoutesModel (newProxy rt router) modelID body := by
  intro h
  let body : Bytes := marshal (.obj [("model", .str "gpt-4o")])
  let llama : Target := { provider := "together", model := "llama-3-70b" }
  let unreachable : ℕ → Attempt := fun _ => { reply := .error (.text "connection refused") }
  let events : List Event :=
    ((newProxy plainRuntime twoProviders).chatCompletion unreachable "gpt-4o" body false
      { fault := fun _ => none, flusher := false }).2.events
  have hroutes := h plainRuntime twoProviders "gpt-4o" body (by decide +kernel) (by decide +kernel)
  have hasked : events.filterMap Event.asked =
      [({ provider := "openai", model := "gpt-4o" }, body), (llama, body)] := by
    decide +kernel
  have hmem : (llama, body) ∈ events.filterMap Event.asked := by
    rw [hasked]
    exact List.mem_cons_of_mem _ List.mem_cons_self
  rcases List.mem_filterMap.1 hmem with ⟨e, he, hvalue⟩
  -- The fallback's request carries a body with the primary's model.
  cases e with
  | contact i t o =>
      have hpair : t = llama ∧ o.body = body := by
        simpa [Event.asked] using hvalue
      have hasks : Asks o.body t.upstreamModel :=
        hroutes unreachable false (fun _ => none) false i t o he
      rw [hpair.1, hpair.2] at hasks
      exact absurd (eq_of_asks_marshal hasks) (by decide)
  | _ => cases hvalue

end Gateway
end OpenRouter
