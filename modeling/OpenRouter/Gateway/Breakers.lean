import Mathlib.Logic.Function.Basic
import OpenRouter.Base.Transition
import OpenRouter.Gateway.Proxy

/-!
# Breakers — chat completions that share their circuit breakers

`chatCompletion` takes the answers of the breakers from its surroundings.  Here many calls run at
once over one `circuitbreaker.Registry`, and the breakers answer.  A call moves in three steps a
target, since other calls may move in between: `For` fetches or creates the breaker, `Execute`
asks it and, when it lets the call through, reports the outcome of `send` to it.

`moves_of_move` says all that a move can do; `outcome_of_done` says that each call is a
`chatCompletion`.
-/

namespace OpenRouter
namespace Gateway

open Base Function

/-! ## Breakers -/

/-- `gobreaker.Counts`. -/
structure Counts where
  requests : ℕ := 0
  totalSuccesses : ℕ := 0
  totalFailures : ℕ := 0
  consecutiveSuccesses : ℕ := 0
  consecutiveFailures : ℕ := 0
  deriving DecidableEq

/-- `gobreaker.Settings`, as far as the registry sets them; times in nanoseconds. -/
structure Settings where
  name : String
  maxRequests : ℕ
  interval : ℤ
  timeout : ℤ
  readyToTrip : Counts → Bool

/-- The breaker type of the library.  `Execute` is `beforeRequest`, which refuses with an error or
lets a request of some generation through, then the call, then `afterRequest`, which is told
whether the call's error was nil. -/
structure CircuitBreaker where
  Breaker : Type
  new : Settings → ℤ → Breaker
  beforeRequest : Breaker → ℤ → Except GoError ℕ × Breaker
  afterRequest : Breaker → ℤ → ℕ → Bool → Breaker
  /-- A refusal is not counted. -/
  keeps : ∀ b now err, (beforeRequest b now).1 = .error err → (beforeRequest b now).2 = b

variable (B : CircuitBreaker)

/-- `Registry.breakers`. -/
def Registry : Type := String → Option B.Breaker

/-- `provider + ":" + model`. -/
def breakerKey (t : Target) : String :=
  t.provider ++ ":" ++ t.model

def second : ℤ := 10 ^ 9

/-- The settings of `NewRegistry`, under a breaker's name. -/
def registrySettings (name : String) : Settings where
  name := name
  maxRequests := 3
  interval := 60 * second
  timeout := 30 * second
  readyToTrip := fun c => decide (c.consecutiveFailures ≥ 5)

namespace Registry

variable {B}

def set (reg : Registry B) (t : Target) (b : B.Breaker) : Registry B :=
  update reg (breakerKey t) (some b)

/-- What `For` leaves behind. -/
def forTarget (reg : Registry B) (now : ℤ) (t : Target) : Registry B :=
  match reg (breakerKey t) with
  | some _ => reg
  | none => reg.set t (B.new (registrySettings (breakerKey t)) now)

theorem set_eq_self {reg : Registry B} {t : Target} {b : B.Breaker}
    (h : reg (breakerKey t) = some b) : reg.set t b = reg := by
  unfold set
  rw [← h]
  exact update_eq_self (breakerKey t) reg

theorem forTarget_of_isSome {reg : Registry B} {t : Target} (h : (reg (breakerKey t)).isSome)
    (now : ℤ) : reg.forTarget now t = reg := by
  rcases Option.isSome_iff_exists.1 h with ⟨b, hb⟩
  simp [forTarget, hb]

end Registry

/-! ## Calls -/

/-- A client's request on its way into `ChatCompletion`.  Whether the client will give up, by
cancelling or by not reading on, is known from the start; writes to other clients succeed. -/
structure ClientRequest where
  model : String
  body : Bytes
  stream : Bool
  exchange : Exchange
  abandoned : Bool
  patient : abandoned = false → ∀ n, exchange.fault n = none

/-- How far a call is in its chain. -/
inductive Stage
  /-- At the head of the loop. -/
  | trying (i : ℕ) (lastErr : GoError) (rest : List Target)
  /-- With the breaker of a target, before `Execute`. -/
  | holding (i : ℕ) (t : Target) (rest : List Target)
  /-- Inside `Execute`. -/
  | running (i : ℕ) (generation : ℕ) (t : Target) (rest : List Target)
  | done (err : Option GoError)

structure Call where
  request : ClientRequest
  stage : Stage
  exchange : Exchange

inductive Move
  | next
  | enter
  /-- `send` ends, given what its surroundings answer. -/
  | leave (env : Attempt)

/-- The answers of an upstream that are the client's own cancellation. -/
def Attempt.canceled (env : Attempt) : Bool :=
  match env.reply with
  | .error err => err.isCanceled
  | .ok resp => resp.readError.any GoError.isCanceled

namespace Call

/-- The start of `ChatCompletion`. -/
def start (p : Proxy) (q : ClientRequest) : Call :=
  { request := q
    exchange := q.exchange
    stage :=
      match p.router.resolve q.model with
      | none => .done (some (.text ("unknown model " ++ p.runtime.quote q.model)))
      | some (primary, fallback) => .trying 0 (.text "") (primary :: fallback) }

variable {B} (p : Proxy) (now : ℤ) (reg : Registry B) (c : Call)

/-- A move of a call and what it makes of the registry. -/
def move : Move → Option (Registry B × Call)
  | .next =>
      match c.stage with
      | .trying _ lastErr [] =>
          some (reg, { c with stage := .done (some (.wrap "all providers failed" lastErr)) })
      | .trying i _ (t :: rest) =>
          match p.adapters t.provider with
          | none =>
              let err := .text ("no adapter for provider " ++ p.runtime.quote t.provider)
              some (reg, { c with stage := .trying (i + 1) err rest })
          | some _ => some (reg.forTarget now t, { c with stage := .holding i t rest })
      | _ => none
  | .enter =>
      match c.stage with
      | .holding i t rest =>
          match reg (breakerKey t) with
          | none => none
          | some b =>
              match B.beforeRequest b now with
              | (.error err, b') =>
                  some (reg.set t b', { c with stage := .trying (i + 1) err rest })
              | (.ok generation, b') =>
                  some (reg.set t b', { c with stage := .running i generation t rest })
      | _ => none
  | .leave env =>
      match c.stage with
      | .running i generation t rest =>
          -- Only the client's own cancellation cancels the context of its call.
          if env.canceled && !c.request.abandoned then none
          else
            match p.adapters t.provider, reg (breakerKey t) with
            | some a, some b =>
                match p.send env i t a c.request.body c.request.stream c.exchange with
                | (none, x) =>
                    some (reg.set t (B.afterRequest b now generation true),
                      { c with stage := .done none, exchange := x })
                | (some f, x) =>
                    some (reg.set t (B.afterRequest b now generation false),
                      { c with
                        stage := .trying (i + 1) (f.toError p.runtime) rest
                        exchange := x })
            | _, _ => none
      | _ => none

end Call

/-! ## The system -/

/-- All calls of a process, with a clock that they share. -/
structure System where
  now : ℤ
  registry : Registry B
  calls : ℕ → Option Call

inductive Label
  | tick (d : ℕ)
  | arrive (id : ℕ) (q : ClientRequest)
  | move (id : ℕ) (m : Move)

/-- `NewRegistry`, before the first call. -/
def System.idle (now : ℤ) : System B where
  now := now
  registry := fun _ => none
  calls := fun _ => none

namespace System

variable {B} (p : Proxy)

def step (s : System B) : Label → Option (System B)
  | .tick d => some { s with now := s.now + d }
  | .arrive id q =>
      match s.calls id with
      | some _ => none
      | none => some { s with calls := update s.calls id (some (Call.start p q)) }
  | .move id m =>
      match s.calls id with
      | none => none
      | some c =>
          match c.move p s.now s.registry m with
          | none => none
          | some (reg, c') =>
              some { s with registry := reg, calls := update s.calls id (some c') }

end System

/-! ## What a move can do -/

namespace Call

variable {B} {p : Proxy} {now : ℤ} {reg reg' : Registry B} {c c' : Call} {m : Move}

/-- `Moves p now reg c m reg' c'`: the move `m` takes the call from `c` to `c'`. -/
inductive Moves (p : Proxy) (now : ℤ) (reg : Registry B) (c : Call) :
    Move → Registry B → Call → Prop
  | exhausted {i : ℕ} {lastErr : GoError} (hstage : c.stage = .trying i lastErr []) :
      Moves p now reg c .next reg
        { c with stage := .done (some (.wrap "all providers failed" lastErr)) }
  | skipped {i : ℕ} {lastErr : GoError} {t : Target} {rest : List Target}
      (hstage : c.stage = .trying i lastErr (t :: rest)) (hnone : p.adapters t.provider = none) :
      Moves p now reg c .next reg
        { c with
          stage := .trying (i + 1)
            (.text ("no adapter for provider " ++ p.runtime.quote t.provider)) rest }
  | fetched {i : ℕ} {lastErr : GoError} {t : Target} {rest : List Target}
      (hstage : c.stage = .trying i lastErr (t :: rest)) {a : ProviderAdapter}
      (hadapter : p.adapters t.provider = some a) :
      Moves p now reg c .next (reg.forTarget now t) { c with stage := .holding i t rest }
  | refused {i : ℕ} {t : Target} {rest : List Target} (hstage : c.stage = .holding i t rest)
      {b : B.Breaker} (hb : reg (breakerKey t) = some b) {err : GoError}
      (hrefuse : (B.beforeRequest b now).1 = .error err) :
      Moves p now reg c .enter reg { c with stage := .trying (i + 1) err rest }
  | entered {i : ℕ} {t : Target} {rest : List Target} (hstage : c.stage = .holding i t rest)
      {b : B.Breaker} (hb : reg (breakerKey t) = some b) {generation : ℕ}
      (hlet : (B.beforeRequest b now).1 = .ok generation) :
      Moves p now reg c .enter (reg.set t (B.beforeRequest b now).2)
        { c with stage := .running i generation t rest }
  | answered {i generation : ℕ} {t : Target} {rest : List Target}
      (hstage : c.stage = .running i generation t rest) {env : Attempt}
      (hcancel : env.canceled = true → c.request.abandoned = true) {a : ProviderAdapter}
      (hadapter : p.adapters t.provider = some a) {b : B.Breaker}
      (hb : reg (breakerKey t) = some b) {x : Exchange}
      (hsend : p.send env i t a c.request.body c.request.stream c.exchange = (none, x)) :
      Moves p now reg c (.leave env) (reg.set t (B.afterRequest b now generation true))
        { c with stage := .done none, exchange := x }
  | failed {i generation : ℕ} {t : Target} {rest : List Target}
      (hstage : c.stage = .running i generation t rest) {env : Attempt}
      (hcancel : env.canceled = true → c.request.abandoned = true) {a : ProviderAdapter}
      (hadapter : p.adapters t.provider = some a) {b : B.Breaker}
      (hb : reg (breakerKey t) = some b) {f : SendFailure} {x : Exchange}
      (hsend : p.send env i t a c.request.body c.request.stream c.exchange = (some f, x)) :
      Moves p now reg c (.leave env) (reg.set t (B.afterRequest b now generation false))
        { c with stage := .trying (i + 1) (f.toError p.runtime) rest, exchange := x }

theorem moves_of_next (h : c.move p now reg .next = some (reg', c')) :
    Moves p now reg c .next reg' c' := by
  unfold move at h
  cases hstage : c.stage with
  | trying i lastErr rest =>
      simp only [hstage] at h
      cases rest with
      | nil =>
          cases h
          exact .exhausted hstage
      | cons t rest =>
          cases hadapter : p.adapters t.provider with
          | none =>
              simp only [hadapter] at h
              cases h
              exact .skipped hstage hadapter
          | some a =>
              simp only [hadapter] at h
              cases h
              exact .fetched hstage hadapter
  | _ => simp [hstage] at h

theorem moves_of_enter (h : c.move p now reg .enter = some (reg', c')) :
    Moves p now reg c .enter reg' c' := by
  unfold move at h
  cases hstage : c.stage with
  | holding i t rest =>
      simp only [hstage] at h
      cases hb : reg (breakerKey t) with
      | none => simp [hb] at h
      | some b =>
          simp only [hb] at h
          cases hbefore : B.beforeRequest b now with
          | mk r b' =>
              simp only [hbefore] at h
              cases r with
              | error err =>
                  have hrefuse : (B.beforeRequest b now).1 = .error err := by
                    rw [hbefore]
                  -- A breaker that refuses stays as it is.
                  have hkeep : b' = b := by
                    have hsame := B.keeps b now err hrefuse
                    rwa [hbefore] at hsame
                  simp only [Option.some.injEq, Prod.mk.injEq] at h
                  rcases h with ⟨rfl, rfl⟩
                  rw [hkeep, Registry.set_eq_self hb]
                  exact .refused hstage hb hrefuse
              | ok generation =>
                  have hlet : (B.beforeRequest b now).1 = .ok generation := by
                    rw [hbefore]
                  simp only [Option.some.injEq, Prod.mk.injEq] at h
                  rcases h with ⟨rfl, rfl⟩
                  have hmoves := Moves.entered (p := p) hstage hb hlet
                  rwa [hbefore] at hmoves
  | _ => simp [hstage] at h

theorem moves_of_leave {env : Attempt} (h : c.move p now reg (.leave env) = some (reg', c')) :
    Moves p now reg c (.leave env) reg' c' := by
  unfold move at h
  cases hstage : c.stage with
  | running i generation t rest =>
      simp only [hstage] at h
      split_ifs at h with hcanceled
      -- Only the client's own cancellation reaches the call.
      have hcancel : env.canceled = true → c.request.abandoned = true := by
        intro henv
        simpa [henv] using hcanceled
      cases hadapter : p.adapters t.provider with
      | none => simp [hadapter] at h
      | some a =>
          cases hb : reg (breakerKey t) with
          | none => simp [hadapter, hb] at h
          | some b =>
              simp only [hadapter, hb] at h
              cases hsend : p.send env i t a c.request.body c.request.stream c.exchange with
              | mk r x =>
                  simp only [hsend] at h
                  cases r with
                  | none =>
                      simp only [Option.some.injEq, Prod.mk.injEq] at h
                      rcases h with ⟨rfl, rfl⟩
                      exact .answered hstage hcancel hadapter hb hsend
                  | some f =>
                      simp only [Option.some.injEq, Prod.mk.injEq] at h
                      rcases h with ⟨rfl, rfl⟩
                      exact .failed hstage hcancel hadapter hb hsend
  | _ => simp [hstage] at h

/-- All that a move can do. -/
theorem moves_of_move (h : c.move p now reg m = some (reg', c')) :
    Moves p now reg c m reg' c' := by
  cases m with
  | next => exact moves_of_next h
  | enter => exact moves_of_enter h
  | leave env => exact moves_of_leave h

/-- A call keeps its request. -/
theorem Moves.request_eq (h : Moves p now reg c m reg' c') : c'.request = c.request := by
  cases h <;> rfl

/-! ## Each call is a chat completion -/

/-- What `send` and the targets behind it come to. -/
def sendOutcome (p : Proxy) (env : ℕ → Attempt) (c : Call) (i : ℕ) (t : Target)
    (rest : List Target) : Option GoError × Exchange :=
  match p.adapters t.provider with
  | none => (none, c.exchange)
  | some a =>
      match p.send (env i) i t a c.request.body c.request.stream c.exchange with
      | (none, x) => (none, x)
      | (some f, x) =>
          p.tryTargets env c.request.body c.request.stream (i + 1) (f.toError p.runtime) rest x

/-- What a call comes to, given what its surroundings answer from now on. -/
def outcome (p : Proxy) (env : ℕ → Attempt) (c : Call) : Option GoError × Exchange :=
  match c.stage with
  | .trying i lastErr rest =>
      p.tryTargets env c.request.body c.request.stream i lastErr rest c.exchange
  | .holding i t rest =>
      match (env i).refusal with
      | some err =>
          p.tryTargets env c.request.body c.request.stream (i + 1) err rest c.exchange
      | none => c.sendOutcome p env i t rest
  | .running i _ t rest => c.sendOutcome p env i t rest
  | .done err => (err, c.exchange)

/-- Two ways of answering agree on what a call has been told so far. -/
def Stage.Agree (env env' : ℕ → Attempt) : Stage → Prop
  | .trying i _ _ | .holding i _ _ => ∀ j < i, env' j = env j
  | .running i _ _ _ => (∀ j < i, env' j = env j) ∧ (env' i).refusal = none
  | .done _ => env' = env

/-- Every way to answer what is still open makes the call a `ChatCompletion`. -/
def Explained (p : Proxy) (c : Call) : Prop :=
  ∃ env, ∀ env', Stage.Agree env env' c.stage →
    c.outcome p env' =
      p.chatCompletion env' c.request.model c.request.body c.request.stream c.request.exchange

theorem explained_start (p : Proxy) (q : ClientRequest) : Explained p (start p q) := by
  refine ⟨fun _ => { reply := .error .canceled }, ?_⟩
  intro env' _
  cases hresolve : p.router.resolve q.model with
  | none => simp [start, outcome, Proxy.chatCompletion, hresolve]
  | some chain => simp [start, outcome, Proxy.chatCompletion, hresolve]

/-- The answer at `i` may still be chosen when only the positions before it were told. -/
theorem told_of_update {env env' : ℕ → Attempt} {i : ℕ} {e : Attempt}
    (h : ∀ j < i + 1, env' j = update env i e j) : env' i = e ∧ ∀ j < i, env' j = env j := by
  refine ⟨?_, ?_⟩
  · rw [h i (Nat.lt_succ_self i), update_self]
  · intro j hj
    rw [h j (Nat.lt_succ_of_lt hj), update_of_ne (Nat.ne_of_lt hj)]

theorem Moves.explained (h : Moves p now reg c m reg' c') (hc : Explained p c) :
    Explained p c' := by
  rcases hc with ⟨env, henv⟩
  cases h with
  | exhausted hstage =>
      refine ⟨env, ?_⟩
      -- Nothing is open any more, so the answers are the ones given.
      rintro env' rfl
      rw [← henv env' (by simp [Stage.Agree, hstage])]
      simp [outcome, hstage, Proxy.tryTargets]
  | skipped hstage hnone =>
      refine ⟨env, ?_⟩
      intro env' hagree
      have hbefore : Stage.Agree env env' c.stage := by
        rw [hstage]
        exact fun j hj => hagree j (Nat.lt_succ_of_lt hj)
      rw [← henv env' hbefore]
      simp [outcome, hstage, Proxy.tryTargets, hnone]
  | @fetched i lastErr t rest hstage a hadapter =>
      refine ⟨env, ?_⟩
      intro env' hagree
      have hbefore : Stage.Agree env env' c.stage := by
        rw [hstage]
        exact hagree
      rw [← henv env' hbefore]
      -- Holding a breaker, both sides still branch on whether it refuses.
      cases hrefusal : (env' i).refusal with
      | none =>
          cases hsend : p.send (env' i) i t a c.request.body c.request.stream c.exchange with
          | mk r x =>
              cases r <;>
                simp only [outcome, sendOutcome, hstage, Proxy.tryTargets, hadapter, hrefusal,
                  hsend]
      | some err => simp only [outcome, hstage, Proxy.tryTargets, hadapter, hrefusal]
  | @refused i t rest hstage b hb err hrefuse =>
      -- The refusal is what the surroundings answer at this position.
      refine ⟨update env i { refusal := some err, reply := .error .canceled }, ?_⟩
      intro env' hagree
      rcases told_of_update hagree with ⟨hhere, htold⟩
      have hbefore : Stage.Agree env env' c.stage := by
        rw [hstage]
        exact htold
      have hrefusal : (env' i).refusal = some err := by
        rw [hhere]
      rw [← henv env' hbefore]
      simp only [outcome, hstage, hrefusal]
  | entered hstage hb hlet =>
      refine ⟨env, ?_⟩
      intro env' hagree
      have hbefore : Stage.Agree env env' c.stage := by
        rw [hstage]
        exact hagree.1
      rw [← henv env' hbefore]
      -- To be running at `i` is to have been let in there.
      simp only [outcome, sendOutcome, hstage, hagree.2]
  | @answered i generation t rest hstage e hcancel a hadapter b hb x hsend =>
      -- What the call was told when it left the breaker is the answer at `i`.
      refine ⟨update env i { e with refusal := none }, ?_⟩
      rintro env' rfl
      have hbefore : Stage.Agree env (update env i { e with refusal := none }) c.stage := by
        rw [hstage]
        refine ⟨?_, by rw [update_self]⟩
        intro j hj
        exact update_of_ne (Nat.ne_of_lt hj) _ _
      have hsame : p.send (update env i { e with refusal := none } i) i t a c.request.body
          c.request.stream c.exchange = (none, x) := by
        rw [update_self]
        exact hsend
      rw [← henv _ hbefore]
      simp only [outcome, sendOutcome, hstage, hadapter, hsame]
  | @failed i generation t rest hstage e hcancel a hadapter b hb f x hsend =>
      refine ⟨update env i { e with refusal := none }, ?_⟩
      intro env' hagree
      rcases told_of_update hagree with ⟨hhere, htold⟩
      have hbefore : Stage.Agree env env' c.stage := by
        rw [hstage]
        exact ⟨htold, by rw [hhere]⟩
      have hsame : p.send (env' i) i t a c.request.body c.request.stream c.exchange =
          (some f, x) := by
        rw [hhere]
        exact hsend
      rw [← henv env' hbefore]
      simp only [outcome, sendOutcome, hstage, hadapter, hsame]

end Call

namespace System

variable {B} {p : Proxy} {s s' : System B} {l : Label}

/-- `Steps p s l s'`: the label `l` takes the system from `s` to `s'`. -/
inductive Steps (p : Proxy) (s : System B) : Label → System B → Prop
  | tick (d : ℕ) : Steps p s (.tick d) { s with now := s.now + d }
  | arrive {id : ℕ} {q : ClientRequest} (hfree : s.calls id = none) :
      Steps p s (.arrive id q) { s with calls := update s.calls id (some (Call.start p q)) }
  | move {id : ℕ} {m : Move} {c c' : Call} {reg : Registry B} (hcall : s.calls id = some c)
      (hmove : c.move p s.now s.registry m = some (reg, c')) :
      Steps p s (.move id m) { s with registry := reg, calls := update s.calls id (some c') }

/-- All that a step can do. -/
theorem steps_of_step (h : s.step p l = some s') : Steps p s l s' := by
  unfold step at h
  cases l with
  | tick d =>
      cases h
      exact .tick d
  | arrive id q =>
      cases hcall : s.calls id with
      | some c => simp [hcall] at h
      | none =>
          simp only [hcall] at h
          cases h
          exact .arrive hcall
  | move id m =>
      cases hcall : s.calls id with
      | none => simp [hcall] at h
      | some c =>
          cases hmove : c.move p s.now s.registry m with
          | none => simp [hcall, hmove] at h
          | some r =>
              simp only [hcall, hmove] at h
              cases h
              exact .move hcall hmove

theorem step_of_steps (h : Steps p s l s') : s.step p l = some s' := by
  cases h with
  | tick d => rfl
  | arrive hfree => simp only [step, hfree]
  | move hcall hmove => simp only [step, hcall, hmove]

/-- Every call has the property. -/
def AllCalls (r : Call → Prop) (s : System B) : Prop :=
  ∀ id c, s.calls id = some c → r c

theorem AllCalls.update {r : Call → Prop} {calls : ℕ → Option Call} {now : ℤ}
    {reg reg' : Registry B} {id : ℕ} {c : Call}
    (h : AllCalls r { now := now, registry := reg, calls := calls }) (hc : r c) :
    AllCalls r { now := now, registry := reg', calls := Function.update calls id (some c) } := by
  intro j d hd
  change Function.update calls id (some c) j = some d at hd
  by_cases hj : j = id
  · subst hj
    rw [update_self] at hd
    cases hd
    exact hc
  · rw [update_of_ne hj] at hd
    exact h j d hd

/-- What calls have when they start and keep when they move, they all have. -/
theorem allCalls_of_step {r : Call → Prop} (hstart : ∀ q, r (Call.start p q))
    (hmove : ∀ id m c reg c', l = .move id m → s.calls id = some c →
      Call.Moves p s.now s.registry c m reg c' → r c → r c')
    (hs : AllCalls r s) (h : s.step p l = some s') : AllCalls r s' := by
  cases steps_of_step h with
  | tick d => exact hs
  | @arrive id q hfree => exact AllCalls.update hs (hstart q)
  | @move id m c c' reg hcall hm =>
      exact AllCalls.update hs
        (hmove id m c reg c' rfl hcall (Call.moves_of_move hm) (hs id c hcall))

/-- Whatever the other calls do, a call that is done is a `ChatCompletion` with the answers of its
breakers and upstreams. -/
theorem outcome_of_done {now : ℤ} {labels : List Label}
    (h : exec (step p) (System.idle B now) labels = some s) {id : ℕ} {c : Call}
    (hc : s.calls id = some c) {err : Option GoError} (hdone : c.stage = .done err) :
    ∃ env, p.chatCompletion env c.request.model c.request.body c.request.stream
      c.request.exchange = (err, c.exchange) := by
  have hinv : AllCalls (Call.Explained p) s := by
    refine exec_invariant ?_ ?_ h
    · intro s l s' hs hstep
      refine allCalls_of_step (Call.explained_start p) ?_ hs hstep
      intro _ _ _ _ _ _ _ hmoves hexplained
      exact hmoves.explained hexplained
    · intro id c hc
      cases hc
  rcases hinv id c hc with ⟨env, henv⟩
  refine ⟨env, ?_⟩
  rw [← henv env (by simp [Call.Stage.Agree, hdone])]
  simp only [Call.outcome, hdone]

end System

end Gateway
end OpenRouter
