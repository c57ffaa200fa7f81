import OpenRouter.Base.Separators
import OpenRouter.Gateway.Anthropic
import OpenRouter.Gateway.Breakers
import OpenRouter.Gateway.Relay

/-!
# Untripped — breakers and the clients that share them

A request is `bad` when its client gives up on it or every adapter of its chain rejects its body.
`Untripped` says that such requests leave no trace on a breaker, that a failure on a breaker is
its own target's, and that the run without the bad requests takes all the others just as far.
`untripped_of_spared` says for which runs that holds.
-/

namespace OpenRouter
namespace Gateway

open Base Function

/-! ## Faults and bad requests -/

/-- A 5xx, a 429, or a transport error or timeout that is not the client's own cancellation. -/
def SendFailure.upstreamFault : SendFailure → Bool
  | .status _ => true
  | .transport err | .read err => !err.isCanceled
  | _ => false

namespace Proxy

variable (p : Proxy)

/-- The adapter of a configured target rejects the body. -/
def rejects (q : ClientRequest) (t : Target) : Bool :=
  match p.adapters t.provider, p.router.provider t.provider with
  | some a, some cfg => (a.normalizeRequest t.model q.body cfg).toOption.isNone
  | _, _ => false

def chain (model : String) : List Target :=
  match p.router.resolve model with
  | none => []
  | some (primary, fallback) => primary :: fallback

/-- Every target that has an adapter rejects the body, and there is one. -/
def malformed (q : ClientRequest) : Bool :=
  let targets := (p.chain q.model).filter fun t => (p.adapters t.provider).isSome
  !targets.isEmpty && targets.all (p.rejects q)

def bad (q : ClientRequest) : Bool :=
  q.abandoned || p.malformed q

end Proxy

/-- The adapter makes something of all that the upstream sends. -/
def ProviderAdapter.accepts (a : ProviderAdapter) (stream : Bool) (resp : Reply) : Bool :=
  match (a.output stream resp).2 with
  | some (.translate _) | some (.response _) => false
  | _ => true

/-- A target has its configuration and a URL, and its adapter accepts the reply that is passed
on. -/
def Proxy.serviceable (p : Proxy) (env : Attempt) (t : Target) (stream : Bool) : Bool :=
  (p.router.provider t.provider).isSome && env.newRequestError.isNone &&
    match p.adapters t.provider, env.answer p.runtime with
    | some a, .ok resp => a.accepts stream resp
    | _, _ => true

namespace Call

variable {B : CircuitBreaker} (p : Proxy) (now : ℤ) (reg : Registry B) (c : Call)

/-- The target that a call is at, and whether the client or its body spoils the attempt. -/
def spoiled : Bool :=
  match c.stage with
  | .trying _ _ (t :: _) | .holding _ t _ | .running _ _ t _ =>
      c.request.abandoned || p.rejects c.request t
  | _ => false

/-- Where a spoiled attempt asks for a breaker, there is one, and it refuses; where `send` runs,
its target is serviceable. -/
def spared (m : Move) : Bool :=
  match c.stage, m with
  | .trying _ _ (t :: _), .next =>
      !c.spoiled p || (p.adapters t.provider).isNone || (reg (breakerKey t)).isSome
  | .holding _ t _, .enter =>
      !c.spoiled p ||
        match reg (breakerKey t) with
        | some b => (B.beforeRequest b now).1.toOption.isNone
        | none => true
  | .running _ _ t _, .leave env => p.serviceable env t c.request.stream
  | _, _ => true

/-- The target and the failure that `Execute` reports to its breaker. -/
def failure (env : Attempt) : Option (Target × SendFailure) :=
  match c.stage with
  | .running i _ t _ =>
      match p.adapters t.provider with
      | none => none
      | some a =>
          (p.send env i t a c.request.body c.request.stream c.exchange).1.map fun f => (t, f)
  | _ => none

/-- What holds of a call whose attempts are spared. -/
def Sound : Prop :=
  c.exchange.fault = c.request.exchange.fault ∧
    match c.stage with
    | .trying _ _ rest => rest ⊆ p.chain c.request.model
    | .holding _ t rest => t :: rest ⊆ p.chain c.request.model ∧ (p.adapters t.provider).isSome
    | .running _ _ t rest =>
        t :: rest ⊆ p.chain c.request.model ∧ (p.adapters t.provider).isSome ∧
          c.spoiled p = false
    | .done _ => True

end Call

/-! ## Runs -/

namespace System

variable {B : CircuitBreaker} (p : Proxy) (s : System B)

def spoiled : Label → Bool
  | .move id _ => (s.calls id).any fun c => c.spoiled p
  | _ => false

def spared : Label → Bool
  | .move id m => (s.calls id).all fun c => c.spared p s.now s.registry m
  | _ => true

def failure : Label → Option (Target × SendFailure)
  | .move id (.leave env) => (s.calls id).bind fun c => c.failure p env
  | _ => none

/-- The labels of bad requests. -/
def ofBad : Label → Bool
  | .tick _ => false
  | .arrive _ q => p.bad q
  | .move id _ => (s.calls id).any fun c => p.bad c.request

/-- The system without its bad requests. -/
def erase : System B :=
  { s with calls := fun id => (s.calls id).filter fun c => !p.bad c.request }

/-- What a step may do to the breakers. -/
structure Lawful (l : Label) : Prop where
  traceless : ∀ s', s.step p l = some s' → s.spoiled p l = true → s'.registry = s.registry
  /-- A failure on the breaker of `u` is a fault of `u`. -/
  faults : ∀ s' t f u, s.step p l = some s' → s.failure p l = some (t, f) →
    (p.adapters u.provider).isSome → breakerKey u = breakerKey t →
      u = t ∧ f.upstreamFault = true

end System

/-- Client behaviour does not trip a breaker in the run of the labels. -/
structure Untripped (B : CircuitBreaker) (p : Proxy) (now : ℤ) (labels : List Label) : Prop where
  lawful : Guarded (System.step p) (fun s l => s.Lawful p l) (System.idle B now) labels
  /-- The run without the bad requests takes the others as far. -/
  independent : ∀ s, exec (System.step p) (System.idle B now) labels = some s →
    exec (System.step p) (System.idle B now)
      (sift (System.step p) (System.ofBad p) (System.idle B now) labels) = some (s.erase p)

/-! ## Names of breakers -/

/-- Without a colon in the providers' names, every target has a breaker of its own. -/
theorem breakerKey_inj {t u : Target} (ht : ':' ∉ t.provider.toList)
    (hu : ':' ∉ u.provider.toList) (h : breakerKey t = breakerKey u) : t = u := by
  have hlist : t.provider.toList ++ ':' :: t.model.toList =
      u.provider.toList ++ ':' :: u.model.toList := by
    simpa [breakerKey, String.toList_append] using congrArg String.toList h
  rcases append_separator_inj ht hu hlist with ⟨hprovider, hmodel⟩
  cases t
  cases u
  simp only [Target.mk.injEq]
  exact ⟨String.toList_inj.1 hprovider, String.toList_inj.1 hmodel⟩

theorem colon_not_mem_of_standardAdapters {rt : Runtime} {provider : String}
    (h : (standardAdapters rt provider).isSome) : ':' ∉ provider.toList := by
  unfold standardAdapters at h
  split_ifs at h with hanthropic hgoogle hopenAI
  · subst hanthropic
    decide
  · subst hgoogle
    decide
  · have hall : ∀ name ∈ ["openai", "together", "fireworks", "ollama"], ':' ∉ name.toList := by
      decide
    exact hall provider hopenAI
  · cases h

/-! ## What `send` fails with -/

theorem fault_relay (a : ProviderAdapter) (i : ℕ) (stream : Bool) (resp : Reply) (x : Exchange) :
    (relay a i stream resp x).2.fault = x.fault :=
  (relay_eq a i stream resp x).2.fault

theorem Proxy.fault_send (p : Proxy) (env : Attempt) (i : ℕ) (t : Target) (a : ProviderAdapter)
    (body : Bytes) (stream : Bool) (x : Exchange) :
    (p.send env i t a body stream x).2.fault = x.fault := by
  cases hcfg : p.router.provider t.provider with
  | none => simp [Proxy.send, hcfg]
  | some cfg =>
      cases hnorm : a.normalizeRequest t.model body cfg with
      | error err => simp [Proxy.send, hcfg, hnorm]
      | ok upstream =>
          cases hreq : env.newRequestError with
          | some err => simp [Proxy.send, hcfg, hnorm, hreq]
          | none =>
              cases hreply : env.reply with
              | error err => simp [Proxy.send, hcfg, hnorm, hreq, hreply, Exchange.record]
              | ok resp =>
                  by_cases hstatus : resp.status ≥ 500 ∨ resp.status = 429
                  · simp [Proxy.send, hcfg, hnorm, hreq, hreply, hstatus, Exchange.record]
                  · simp [Proxy.send, hcfg, hnorm, hreq, hreply, hstatus, fault_relay,
                      Exchange.record]

/-- With a client that reads on and an adapter that accepts the reply, a relayed body can only
fail upstream. -/
theorem upstreamFault_of_relay {a : ProviderAdapter} {i : ℕ} {stream : Bool} {resp : Reply}
    {x : Exchange} {f : SendFailure} (haccepts : a.accepts stream resp = true)
    (hread : resp.readError.any GoError.isCanceled = false) (hfault : ∀ n, x.fault n = none)
    (h : (relay a i stream resp x).1 = some f) : f.upstreamFault = true := by
  have hout : (a.output stream resp).2 = some f := by
    rw [(relay_eq a i stream resp x).1, relayFailure, firstFault_eq_none hfault] at h
    exact h
  -- The adapter accepts the reply, so only the reader is left to blame.
  rcases failure_of_output hout with ⟨err, rfl⟩ | ⟨err, rfl⟩ | ⟨err, rfl, herr⟩
  · simp [ProviderAdapter.accepts, hout] at haccepts
  · simp [ProviderAdapter.accepts, hout] at haccepts
  · simpa [SendFailure.upstreamFault, herr] using hread

/-- A serviceable target that takes the body fails a client that stays only through its
upstream. -/
theorem upstreamFault_of_send {p : Proxy} {env : Attempt} {i : ℕ} {t : Target}
    {a : ProviderAdapter} {q : ClientRequest} {x : Exchange} {f : SendFailure}
    (hadapter : p.adapters t.provider = some a) (hbody : p.rejects q t = false)
    (hserviceable : p.serviceable env t q.stream = true) (hcancel : env.canceled = false)
    (hfault : ∀ n, x.fault n = none) (h : (p.send env i t a q.body q.stream x).1 = some f) :
    f.upstreamFault = true := by
  simp only [Proxy.serviceable, Bool.and_eq_true, hadapter] at hserviceable
  rcases hserviceable with ⟨⟨hconfigured, hreq⟩, haccepts⟩
  rcases Option.isSome_iff_exists.1 hconfigured with ⟨cfg, hcfg⟩
  have hreq' : env.newRequestError = none := by simpa using hreq
  -- The order of `send`: the body, the request, the reply, its status, its relay.
  cases hnorm : a.normalizeRequest t.model q.body cfg with
  | error err => simp [Proxy.rejects, hadapter, hcfg, hnorm, Except.toOption] at hbody
  | ok upstream =>
      cases hreply : env.reply with
      | error err =>
          simp only [Proxy.send, hcfg, hnorm, hreq', hreply, Option.some.injEq] at h
          subst h
          simpa [SendFailure.upstreamFault, Attempt.canceled, hreply] using hcancel
      | ok resp =>
          by_cases hstatus : resp.status ≥ 500 ∨ resp.status = 429
          · simp only [Proxy.send, hcfg, hnorm, hreq', hreply, hstatus, if_true,
              Option.some.injEq] at h
            subst h
            rfl
          · simp only [Proxy.send, hcfg, hnorm, hreq', hreply, hstatus, if_false] at h
            simp only [Attempt.answer, hreply, hstatus, if_false] at haccepts
            simp only [Attempt.canceled, hreply] at hcancel
            -- Recording the contact leaves the faults of the client's connection as they are.
            have hrecorded : ∀ n, (x.record (.contact i t
                { url := cfg.baseURL ++ upstream.path
                  headers := upstream.headers
                  body := upstream.body })).fault n = none := hfault
            exact upstreamFault_of_relay haccepts hcancel hrecorded h

/-! ## Spared moves -/

namespace Call

variable {B : CircuitBreaker} {p : Proxy} {now : ℤ} {reg reg' : Registry B} {c c' : Call}
  {m : Move}

theorem sound_start (p : Proxy) (q : ClientRequest) : Sound p (start p q) := by
  refine ⟨rfl, ?_⟩
  cases hresolve : p.router.resolve q.model with
  | none => simp [start, hresolve]
  | some chain => simp [start, Proxy.chain, hresolve]

/-- A bad request spoils its attempt at every target that has an adapter. -/
theorem spoiled_of_bad {q : ClientRequest} {t : Target} (hbad : p.bad q = true)
    (ht : t ∈ p.chain q.model) (hadapter : (p.adapters t.provider).isSome) :
    (q.abandoned || p.rejects q t) = true := by
  rcases Bool.or_eq_true_iff.1 hbad with habandoned | hmalformed
  · simp [habandoned]
  · have hall := (Bool.and_eq_true_iff.1 hmalformed).2
    -- A malformed body is rejected by every adapter of the chain.
    have hmem : t ∈ (p.chain q.model).filter fun t => (p.adapters t.provider).isSome :=
      List.mem_filter.2 ⟨ht, hadapter⟩
    simp [List.all_eq_true.1 hall t hmem]

/-- A breaker that lets a spared attempt through is not asked by a spoiled one. -/
theorem spoiled_of_let {i generation : ℕ} {t : Target} {rest : List Target} {b : B.Breaker}
    (hstage : c.stage = .holding i t rest) (hb : reg (breakerKey t) = some b)
    (hlet : (B.beforeRequest b now).1 = .ok generation)
    (hspared : c.spared p now reg .enter = true) :
    (c.request.abandoned || p.rejects c.request t) = false := by
  have hspoiled : c.spoiled p = false := by
    simpa [spared, hstage, hb, hlet, Except.toOption] using hspared
  simpa only [spoiled, hstage] using hspoiled

theorem Moves.sound (h : Moves p now reg c m reg' c') (hspared : c.spared p now reg m = true)
    (hc : Sound p c) : Sound p c' := by
  rcases hc with ⟨hfault, hstages⟩
  cases h with
  | exhausted hstage => exact ⟨hfault, trivial⟩
  | skipped hstage hnone =>
      simp only [hstage] at hstages
      exact ⟨hfault, (List.cons_subset.1 hstages).2⟩
  | fetched hstage hadapter =>
      simp only [hstage] at hstages
      exact ⟨hfault, hstages, by simp [hadapter]⟩
  | refused hstage hb hrefuse =>
      simp only [hstage] at hstages
      exact ⟨hfault, (List.cons_subset.1 hstages.1).2⟩
  | entered hstage hb hlet =>
      have hclean := spoiled_of_let hstage hb hlet hspared
      simp only [hstage] at hstages
      exact ⟨hfault, hstages.1, hstages.2, by simpa only [spoiled] using hclean⟩
  | @answered i generation t rest hstage env hcancel a hadapter b hb x hsend =>
      have hsame := p.fault_send env i t a c.request.body c.request.stream c.exchange
      rw [hsend] at hsame
      exact ⟨hsame.trans hfault, trivial⟩
  | @failed i generation t rest hstage env hcancel a hadapter b hb f x hsend =>
      have hsame := p.fault_send env i t a c.request.body c.request.stream c.exchange
      rw [hsend] at hsame
      simp only [hstage] at hstages
      exact ⟨hsame.trans hfault, (List.cons_subset.1 hstages.1).2⟩

/-- Spoiled attempts that are spared do not touch the registry. -/
theorem Moves.traceless (h : Moves p now reg c m reg' c') (hspared : c.spared p now reg m = true)
    (hc : Sound p c) (hspoiled : c.spoiled p = true) : reg' = reg := by
  rcases hc with ⟨-, hstages⟩
  cases h with
  | exhausted hstage => rfl
  | skipped hstage hnone => rfl
  | fetched hstage hadapter =>
      refine Registry.forTarget_of_isSome ?_ now
      simp only [spoiled, hstage] at hspoiled
      simpa [spared, spoiled, hstage, hspoiled, hadapter] using hspared
  | refused hstage hb hrefuse => rfl
  | entered hstage hb hlet =>
      have hclean := spoiled_of_let hstage hb hlet hspared
      simp only [spoiled, hstage, hclean] at hspoiled
      cases hspoiled
  | answered hstage hcancel hadapter hb hsend =>
      simp only [hstage, hspoiled] at hstages
      exact absurd hstages.2.2 (by decide)
  | failed hstage hcancel hadapter hb hsend =>
      simp only [hstage, hspoiled] at hstages
      exact absurd hstages.2.2 (by decide)

/-- Spared bad requests do not touch the registry. -/
theorem Moves.registry_of_bad (h : Moves p now reg c m reg' c')
    (hspared : c.spared p now reg m = true) (hc : Sound p c) (hbad : p.bad c.request = true) :
    reg' = reg := by
  have hstages := hc.2
  have htraceless := fun hspoiled => h.traceless hspared hc hspoiled
  cases h with
  | exhausted hstage => rfl
  | skipped hstage hnone => rfl
  | fetched hstage hadapter =>
      apply htraceless
      simp only [hstage] at hstages
      simp only [spoiled, hstage]
      exact spoiled_of_bad hbad (hstages List.mem_cons_self) (by simp [hadapter])
  | refused hstage hb hrefuse => rfl
  | entered hstage hb hlet =>
      apply htraceless
      simp only [hstage] at hstages
      simp only [spoiled, hstage]
      exact spoiled_of_bad hbad (hstages.1 List.mem_cons_self) hstages.2
  | answered hstage hcancel hadapter hb hsend =>
      apply htraceless
      simp only [hstage] at hstages
      simp only [spoiled, hstage]
      exact spoiled_of_bad hbad (hstages.1 List.mem_cons_self) hstages.2.1
  | failed hstage hcancel hadapter hb hsend =>
      apply htraceless
      simp only [hstage] at hstages
      simp only [spoiled, hstage]
      exact spoiled_of_bad hbad (hstages.1 List.mem_cons_self) hstages.2.1

/-- A spared call that fails fails through its upstream. -/
theorem Moves.upstreamFault {env : Attempt} {t : Target} {f : SendFailure}
    (h : Moves p now reg c (.leave env) reg' c') (hspared : c.spared p now reg (.leave env) = true)
    (hc : Sound p c) (hfailure : c.failure p env = some (t, f)) :
    (p.adapters t.provider).isSome ∧ f.upstreamFault = true := by
  rcases hc with ⟨hfault, hstages⟩
  cases h with
  | answered hstage hcancel hadapter hb hsend =>
      simp [failure, hstage, hadapter, hsend] at hfailure
  | @failed i generation u rest hstage env hcancel a hadapter b hb g x hsend =>
      simp only [failure, hstage, hadapter, hsend, Option.map_some, Option.some.injEq,
        Prod.mk.injEq] at hfailure
      rcases hfailure with ⟨rfl, rfl⟩
      simp only [hstage] at hstages
      rcases hstages with ⟨-, hsome, hclean⟩
      simp only [spoiled, hstage, Bool.or_eq_false_iff] at hclean
      rcases hclean with ⟨hstays, hbody⟩
      have hserviceable : p.serviceable env u c.request.stream = true := by
        simpa only [spared, hstage] using hspared
      -- A call that is not spoiled has a client that stays.
      have hnotCanceled : env.canceled = false := by
        cases henv : env.canceled with
        | false => rfl
        | true =>
            rw [hcancel henv] at hstays
            cases hstays
      have hnoFault : ∀ n, c.exchange.fault n = none := by
        intro n
        rw [hfault]
        exact c.request.patient hstays n
      refine ⟨hsome, ?_⟩
      exact upstreamFault_of_send hadapter hbody hserviceable hnotCanceled hnoFault
        (congrArg Prod.fst hsend)

end Call

/-! ## Spared runs -/

namespace System

variable {B : CircuitBreaker} {p : Proxy} {s s' : System B} {l : Label}

theorem sound_of_step (hs : AllCalls (Call.Sound p) s) (hspared : s.spared p l = true)
    (h : s.step p l = some s') : AllCalls (Call.Sound p) s' := by
  refine allCalls_of_step (Call.sound_start p) ?_ hs h
  rintro id m c reg c' rfl hcall hmoves hsound
  have hcspared : c.spared p s.now s.registry m = true := by
    simpa [spared, hcall] using hspared
  exact hmoves.sound hcspared hsound

theorem lawful_of_spared (hs : AllCalls (Call.Sound p) s) (hspared : s.spared p l = true)
    (hnames : ∀ t u : Target, (p.adapters t.provider).isSome → (p.adapters u.provider).isSome →
      breakerKey u = breakerKey t → u = t) : s.Lawful p l := by
  constructor
  · intro s' h hspoiled
    cases steps_of_step h with
    | tick d => rfl
    | arrive hfree => rfl
    | @move id m c c' reg hcall hmove =>
        -- The system's conditions are those of the call that moves.
        have hcspared : c.spared p s.now s.registry m = true := by
          simpa [spared, hcall] using hspared
        have hcspoiled : c.spoiled p = true := by
          simpa [spoiled, hcall] using hspoiled
        exact (Call.moves_of_move hmove).traceless hcspared (hs id c hcall) hcspoiled
  · intro s' t f u h hfailure hadapter hkey
    cases steps_of_step h with
    | tick d => cases hfailure
    | arrive hfree => cases hfailure
    | @move id m c c' reg hcall hmove =>
        cases m with
        | leave env =>
            have hcspared : c.spared p s.now s.registry (.leave env) = true := by
              simpa [spared, hcall] using hspared
            have hcfailure : c.failure p env = some (t, f) := by
              simpa [failure, hcall] using hfailure
            rcases (Call.moves_of_move hmove).upstreamFault hcspared (hs id c hcall) hcfailure with
              ⟨hsome, hfault⟩
            exact ⟨hnames t u hsome hadapter hkey, hfault⟩
        | _ => cases hfailure

/-! ### Erasing bad requests -/

theorem erase_update_of_good (calls : ℕ → Option Call) (id : ℕ) {c : Call}
    (h : p.bad c.request = false) :
    (fun j => (update calls id (some c) j).filter fun c => !p.bad c.request) =
      update (fun j => (calls j).filter fun c => !p.bad c.request) id (some c) := by
  funext j
  by_cases hj : j = id
  · subst hj
    simp [h]
  · simp [update_of_ne hj]

theorem erase_update_of_bad (calls : ℕ → Option Call) {id : ℕ} {c : Call}
    (h : p.bad c.request = true) (hcalls : ∀ d, calls id = some d → p.bad d.request = true) :
    (fun j => (update calls id (some c) j).filter fun c => !p.bad c.request) =
      fun j => (calls j).filter fun c => !p.bad c.request := by
  funext j
  by_cases hj : j = id
  · subst hj
    cases hcall : calls j with
    | none => simp [h]
    | some d =>
        have hd := hcalls d hcall
        simp only [update_self, Option.filter, h, hd, Bool.not_true, Bool.false_eq_true, if_false]
  · simp [update_of_ne hj]

/-- The steps of the other requests do not see the bad ones. -/
theorem step_erase (hgood : s.ofBad p l = false) (h : s.step p l = some s') :
    (s.erase p).step p l = some (s'.erase p) := by
  apply step_of_steps
  cases steps_of_step h with
  | tick d => exact .tick d
  | @arrive id q hfree =>
      have hfree' : (s.erase p).calls id = none := by
        simp [erase, hfree]
      have hsteps := Steps.arrive (p := p) (q := q) hfree'
      have herase := erase_update_of_good s.calls id (c := Call.start p q) hgood
      simpa only [erase, herase] using hsteps
  | @move id m c c' reg hcall hmove =>
      have hc : p.bad c.request = false := by
        simpa [ofBad, hcall] using hgood
      -- A move keeps the request, so good calls stay good.
      have hc' : p.bad c'.request = false := by
        rw [(Call.moves_of_move hmove).request_eq]
        exact hc
      have hcall' : (s.erase p).calls id = some c := by
        simp [erase, hcall, hc]
      have hsteps := Steps.move (s := s.erase p) hcall' hmove
      have herase := erase_update_of_good s.calls id hc'
      simpa only [erase, herase] using hsteps

/-- A spared bad request is not seen at all. -/
theorem erase_of_bad (hs : AllCalls (Call.Sound p) s) (hspared : s.spared p l = true)
    (hbad : s.ofBad p l = true) (h : s.step p l = some s') : s'.erase p = s.erase p := by
  cases steps_of_step h with
  | tick d => cases hbad
  | @arrive id q hfree =>
      -- No call of that id was there before.
      have hcalls : ∀ d, s.calls id = some d → p.bad d.request = true := by
        intro d hd
        rw [hfree] at hd
        cases hd
      have herase := erase_update_of_bad s.calls (c := Call.start p q) hbad hcalls
      simp only [erase, herase]
  | @move id m c c' reg hcall hmove =>
      have hc : p.bad c.request = true := by
        simpa [ofBad, hcall] using hbad
      have hmoves := Call.moves_of_move hmove
      have hc' : p.bad c'.request = true := by
        rw [hmoves.request_eq]
        exact hc
      have hcspared : c.spared p s.now s.registry m = true := by
        simpa [spared, hcall] using hspared
      -- The move leaves the registry, and the call is erased before and after.
      have hreg : reg = s.registry := hmoves.registry_of_bad hcspared (hs id c hcall) hc
      have hcalls : ∀ d, s.calls id = some d → p.bad d.request = true := by
        intro d hd
        rw [hcall] at hd
        cases hd
        exact hc
      have herase := erase_update_of_bad s.calls hc' hcalls
      simp only [erase, herase, hreg]

end System

inductive BreakerState
  | closed
  | opened
  | halfOpen
  deriving DecidableEq

/-- A breaker as the library documents it. -/
structure CountingBreaker where
  settings : Settings
  positive : 0 < settings.maxRequests
  state : BreakerState := .closed
  generation : ℕ := 0
  counts : Counts := {}
  expiry : Option ℤ := none

namespace CountingBreaker

variable (b : CountingBreaker) (now : ℤ)

def toNewGeneration : CountingBreaker :=
  { b with
    generation := b.generation + 1
    counts := {}
    expiry :=
      match b.state with
      | .closed => if b.settings.interval = 0 then none else some (now + b.settings.interval)
      | .opened => some (now + b.settings.timeout)
      | .halfOpen => none }

def setState (state : BreakerState) : CountingBreaker :=
  if b.state = state then b else { b with state := state }.toNewGeneration now

/-- A closed breaker starts a new generation at its expiry, an open one becomes half-open. -/
def current : CountingBreaker :=
  match b.state, b.expiry with
  | .closed, some expiry => if expiry < now then b.toNewGeneration now else b
  | .opened, some expiry => if expiry < now then b.setState now .halfOpen else b
  | _, _ => b

def onRequest : CountingBreaker :=
  { b with counts := { b.counts with requests := b.counts.requests + 1 } }

def beforeRequest : Except GoError ℕ × CountingBreaker :=
  let b := b.current now
  match b.state with
  | .closed => (.ok b.generation, b.onRequest)
  | .opened => (.error (.text "circuit breaker is open"), b)
  | .halfOpen =>
      if b.counts.requests ≥ b.settings.maxRequests then (.error (.text "too many requests"), b)
      else (.ok b.generation, b.onRequest)

def onSuccess : CountingBreaker :=
  { b with
    counts :=
      { b.counts with
        totalSuccesses := b.counts.totalSuccesses + 1
        consecutiveSuccesses := b.counts.consecutiveSuccesses + 1
        consecutiveFailures := 0 } }

def onFailure : CountingBreaker :=
  { b with
    counts :=
      { b.counts with
        totalFailures := b.counts.totalFailures + 1
        consecutiveFailures := b.counts.consecutiveFailures + 1
        consecutiveSuccesses := 0 } }

def afterRequest (generation : ℕ) (success : Bool) : CountingBreaker :=
  let b := b.current now
  if b.generation ≠ generation then b
  else
    match b.state, success with
    | .closed, true => b.onSuccess
    | .closed, false =>
        let b := b.onFailure
        if b.settings.readyToTrip b.counts then b.setState now .opened else b
    | .halfOpen, true =>
        let b := b.onSuccess
        if b.counts.consecutiveSuccesses ≥ b.settings.maxRequests then b.setState now .closed else b
    | .halfOpen, false => b.setState now .opened
    | .opened, _ => b

variable {b now}

/-- Only a breaker that has expired changes before it answers, and then it lets the request
through. -/
theorem eq_of_refusal {err : GoError} (h : (b.beforeRequest now).1 = .error err) :
    (b.beforeRequest now).2 = b := by
  cases hstate : b.state with
  | closed =>
      -- A closed breaker stays closed, and lets every request through.
      have hcurrent : (b.current now).state = .closed := by
        unfold current
        cases hexpiry : b.expiry with
        | none => simp [hstate]
        | some expiry =>
            simp only [hstate]
            split_ifs
            · simp [toNewGeneration, hstate]
            · exact hstate
      simp [beforeRequest, hcurrent] at h
  | opened =>
      cases hexpiry : b.expiry with
      | none => simp [beforeRequest, current, hstate, hexpiry]
      | some expiry =>
          by_cases hpast : expiry < now
          -- An open breaker past its timeout is half-open and empty, so it does not refuse.
          · have hcurrent : b.current now = b.setState now .halfOpen := by
              simp [current, hstate, hexpiry, hpast]
            have hpositive := b.positive
            simp [beforeRequest, hcurrent, setState, toNewGeneration, hstate,
              Nat.not_le.2 hpositive] at h
          · simp [beforeRequest, current, hstate, hexpiry, hpast]
  | halfOpen =>
      -- A half-open breaker has no expiry.
      have hcurrent : b.current now = b := by
        cases hexpiry : b.expiry <;> simp [current, hstate, hexpiry]
      by_cases hfull : b.counts.requests ≥ b.settings.maxRequests
      · simp [beforeRequest, hcurrent, hstate, hfull]
      · simp [beforeRequest, hcurrent, hstate, hfull] at h

end CountingBreaker

/-- `NewCircuitBreaker`, where no requests count as one. -/
def newCountingBreaker (settings : Settings) (now : ℤ) : CountingBreaker :=
  CountingBreaker.toNewGeneration
    { settings := { settings with maxRequests := max 1 settings.maxRequests }
      positive := Nat.lt_of_lt_of_le Nat.zero_lt_one (Nat.le_max_left _ _) }
    now

def countingBreakers : CircuitBreaker where
  Breaker := CountingBreaker
  new := newCountingBreaker
  beforeRequest := CountingBreaker.beforeRequest
  afterRequest := CountingBreaker.afterRequest
  keeps := fun _ _ _ h => CountingBreaker.eq_of_refusal h

/-- `claude-3` at Anthropic, without a fallback. -/
def claudeOnly : Router :=
  Router.load
    { providers :=
        (∅ : AList fun _ : String => ProviderConfig).insert "anthropic"
          { baseURL := "https://api.anthropic.com/v1", keyEnv := "ANTHROPIC_API_KEY", headers := ∅ }
      models := [{ id := "claude-3", provider := "anthropic", fallback := [] }] }

/-- A client that stays, with this body for `claude-3`. -/
def claudeRequest (members : List (String × Json)) : ClientRequest where
  model := "claude-3"
  body := marshal (.obj (("model", .str "claude-3") :: members))
  stream := false
  exchange := { fault := fun _ => none, flusher := false }
  abandoned := false
  patient := fun _ _ => rfl

/-- The labels of one call of one target. -/
def callLabels (id : ℕ) (q : ClientRequest) (env : Attempt) : List Label :=
  [.arrive id q, .move id .next, .move id .enter, .move id (.leave env)]

def overloaded : Attempt :=
  { reply := .ok { status := 529, contentType := "", reads := [] } }

def malformedRequest : ClientRequest :=
  claudeRequest [("max_tokens", .str "x")]

/-- Five overloaded answers open the breaker, and a malformed body meets it open. -/
def overloadedRun : List Label :=
  (List.range 5).flatMap (fun id => callLabels id (claudeRequest []) overloaded) ++
    [.arrive 5 malformedRequest, .move 5 .next, .move 5 .enter]

/-- Five malformed bodies, and then a well-formed request that asks the breaker. -/
def malformedRun : List Label :=
  (List.range 5).flatMap (fun id => callLabels id malformedRequest overloaded) ++
    [.arrive 5 (claudeRequest []), .move 5 .next, .move 5 .enter]

/-- The request of the call is on its way to its target. -/
def Call.isRunning (c : Call) : Bool :=
  match c.stage with
  | .running _ _ _ _ => true
  | _ => false

end Gateway
end OpenRouter
