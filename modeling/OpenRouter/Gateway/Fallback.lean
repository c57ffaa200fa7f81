import OpenRouter.Gateway.Untripped

/-!
# Fallback — one chat completion and the breakers of its chain

`Proxy.chatCompletion` takes the refusals of the breakers from its surroundings.  Here one call
walks its chain over a registry of breakers, which a target that comes twice meets twice, and the
positions it visits are recorded with what became of them.

`walked_chatCompletion` says how the chain is walked; `chatCompletion_eq` says that the walk is the
`chatCompletion` whose surroundings refuse what the breakers reject.
-/

namespace OpenRouter
namespace Gateway
namespace Fallback

open Base Function

/-! ## One position -/

/-- The instants at which the breaker of one position is fetched, asked and told. -/
structure Clock where
  fetched : ℤ
  asked : ℤ
  told : ℤ

inductive Outcome
  | noAdapter (err : GoError)
  /-- `Execute` does not run the call. -/
  | rejected (err : GoError)
  /-- `Execute` runs the call, which fails. -/
  | failed (err : GoError)
  | succeeded

namespace Outcome

def error : Outcome → Option GoError
  | noAdapter err | rejected err | failed err => some err
  | succeeded => none

def executed : Outcome → Bool
  | failed _ | succeeded => true
  | _ => false

theorem error_eq_none_iff {o : Outcome} : o.error = none ↔ o = .succeeded := by
  cases o <;> simp [error]

end Outcome

/-- How `send` ends. -/
def ofSend (rt : Runtime) : Option SendFailure → Outcome
  | none => .succeeded
  | some f => .failed (f.toError rt)

/-- What became of a position, and the breaker that its target met there. -/
structure Visit (B : CircuitBreaker) where
  position : ℕ
  target : Target
  breaker : B.Breaker
  outcome : Outcome

variable {B : CircuitBreaker} (p : Proxy)

/-- The breaker that `For` returns. -/
def breakerFor (reg : Registry B) (now : ℤ) (t : Target) : B.Breaker :=
  (reg (breakerKey t)).getD (B.new (registrySettings (breakerKey t)) now)

/-- The body of the loop of `ChatCompletion`: the registry keeps what the breaker has become. -/
def visit (clock : Clock) (env : Attempt) (body : Bytes) (stream : Bool) (i : ℕ) (t : Target)
    (reg : Registry B) (x : Exchange) : Outcome × Registry B × Exchange :=
  match p.adapters t.provider with
  | none => (.noAdapter (.text ("no adapter for provider " ++ p.runtime.quote t.provider)), reg, x)
  | some a =>
      match B.beforeRequest (breakerFor reg clock.fetched t) clock.asked with
      | (.error err, b) => (.rejected err, reg.set t b, x)
      | (.ok generation, b) =>
          let sent := p.send env i t a body stream x
          (ofSend p.runtime sent.1,
            reg.set t (B.afterRequest b clock.told generation sent.1.isNone), sent.2)

/-! ## The chain -/

/-- What a call of `ChatCompletion` comes to. -/
structure Walk (B : CircuitBreaker) where
  err : Option GoError
  registry : Registry B
  exchange : Exchange
  visits : List (Visit B)

def Walk.after (v : Visit B) (w : Walk B) : Walk B :=
  { w with visits := v :: w.visits }

@[simp] theorem Walk.visits_after (v : Visit B) (w : Walk B) :
    (w.after v).visits = v :: w.visits := rfl

variable (clock : ℕ → Clock) (env : ℕ → Attempt) (body : Bytes) (stream : Bool)

/-- The loop of `ChatCompletion` from the `i`-th position on. -/
def walk : ℕ → GoError → List Target → Registry B → Exchange → Walk B
  | _, lastErr, [], reg, x =>
      { err := some (.wrap "all providers failed" lastErr)
        registry := reg
        exchange := x
        visits := [] }
  | i, _, t :: ts, reg, x =>
      match visit p (clock i) (env i) body stream i t reg x with
      | (outcome, reg', x') =>
          let v : Visit B :=
            { position := i
              target := t
              breaker := breakerFor reg (clock i).fetched t
              outcome := outcome }
          match outcome.error with
          | none => { err := none, registry := reg', exchange := x', visits := [v] }
          | some err => (walk (i + 1) err ts reg' x').after v

def chatCompletion (modelID : String) (reg : Registry B) (x : Exchange) : Walk B :=
  match p.router.resolve modelID with
  | none =>
      { err := some (.text ("unknown model " ++ p.runtime.quote modelID))
        registry := reg
        exchange := x
        visits := [] }
  | some (primary, fallback) =>
      -- `lastErr` is nil before the first pass; the chain is not empty.
      walk p clock env body stream 0 (.text "") (primary :: fallback) reg x

/-! ## What a visit does -/

variable {p} {body} {stream} {i : ℕ} {t : Target} {reg : Registry B} {x : Exchange}

/-- `send` contacts nobody but its target. -/
theorem contact_of_send {e : Attempt} {a : ProviderAdapter} {k : ℕ} {u : Target} {o : Outbound}
    (h : .contact k u o ∈ (p.send e i t a body stream x).2.events) :
    .contact k u o ∈ x.events ∨ k = i ∧ u = t := by
  have hrecord : ∀ {o'}, .contact k u o ∈ (x.record (.contact i t o')).events →
      .contact k u o ∈ x.events ∨ k = i ∧ u = t := by
    intro o' hmem
    rcases List.mem_append.1 hmem with hmem | hmem
    · exact .inl hmem
    · cases List.mem_singleton.1 hmem
      exact .inr ⟨rfl, rfl⟩
  unfold Proxy.send at h
  split at h
  · exact .inl h
  · split at h
    · exact .inl h
    · split at h
      · exact .inl h
      · simp only at h
        split at h
        · exact hrecord h
        · split at h
          · exact hrecord h
          · exact hrecord (contact_of_relay _ _ _ _ _ h)

/-- The target has an adapter, and its breaker lets the call through. -/
def Admitted (p : Proxy) (clock : Clock) (t : Target) (b : B.Breaker) : Prop :=
  (p.adapters t.provider).isSome ∧
    ∃ generation, (B.beforeRequest b clock.asked).1 = .ok generation

/-- What a visit may do to the registry and to the outside, by its outcome. -/
structure Confined (p : Proxy) (clock : Clock) (i : ℕ) (t : Target) (reg : Registry B)
    (x : Exchange) (outcome : Outcome) (reg' : Registry B) (x' : Exchange) : Prop where
  executed_iff : outcome.executed = true ↔
    Admitted p clock t (breakerFor reg clock.fetched t)
  contacts : ∀ k u o, .contact k u o ∈ x'.events →
    .contact k u o ∈ x.events ∨ outcome.executed = true ∧ k = i ∧ u = t
  breakers : ∀ key b, reg key = some b → (outcome.executed = true → breakerKey t ≠ key) →
    reg' key = some b

theorem set_of_ne {key : String} (hne : breakerKey t ≠ key) (b : B.Breaker) :
    reg.set t b key = reg key :=
  update_of_ne hne.symm _ _

theorem executed_ofSend (rt : Runtime) (r : Option SendFailure) :
    (ofSend rt r).executed = true := by
  cases r <;> rfl

/-- Only a target that is executed is contacted, and only its breaker changes. -/
theorem confined_visit (p : Proxy) (c : Clock) (e : Attempt) (body : Bytes) (stream : Bool)
    (i : ℕ) (t : Target) (reg : Registry B) (x : Exchange) :
    Confined p c i t reg x (visit p c e body stream i t reg x).1
      (visit p c e body stream i t reg x).2.1 (visit p c e body stream i t reg x).2.2 := by
  unfold visit
  split
  · rename_i hadapter
    exact
      { executed_iff := by simp [Outcome.executed, Admitted, hadapter]
        contacts := fun _ _ _ h => .inl h
        breakers := fun _ _ h _ => h }
  · rename_i a hadapter
    split
    · rename_i err b hask
      refine
        { executed_iff := by simp [Outcome.executed, Admitted, hask]
          contacts := fun _ _ _ h => .inl h
          breakers := ?_ }
      intro key b' hkey _
      by_cases heq : breakerKey t = key
      · subst heq
        -- A refusal leaves the breaker as it was.
        have hkeeps := B.keeps (breakerFor reg c.fetched t) c.asked err (by rw [hask])
        have hb : b = b' := by
          rw [hask] at hkeeps
          simpa [breakerFor, hkey] using hkeeps
        rw [← hb]
        exact update_self _ _ _
      · exact (set_of_ne heq b).trans hkey
    · rename_i generation b hask
      have hexecuted := executed_ofSend p.runtime (p.send e i t a body stream x).1
      constructor
      · exact iff_of_true hexecuted ⟨by simp [hadapter], generation, by rw [hask]⟩
      · intro k u o hmem
        exact (contact_of_send hmem).imp_right fun hhere => ⟨hexecuted, hhere⟩
      · intro key b' hkey hne
        exact (set_of_ne (hne hexecuted) _).trans hkey

/-! ## How the chain is walked -/

/-- The error of the last visit; without a visit it is the one from before. -/
def lastError (before : GoError) (visits : List (Visit B)) : Option GoError :=
  match visits.getLast? with
  | none => some before
  | some v => v.outcome.error

/-- The visits take the registry and the exchange along: each meets the breaker that its target has
by then, one that is executed ends as its `send` does, goes on with the exchange that this leaves
and reports to its breaker, and the others leave all breakers and the exchange as they are. -/
inductive Carried (p : Proxy) (clock : ℕ → Clock) (env : ℕ → Attempt) (body : Bytes)
    (stream : Bool) :
    List (Visit B) → Registry B → Exchange → Registry B → Exchange → Prop
  | nil (reg : Registry B) (x : Exchange) : Carried p clock env body stream [] reg x reg x
  | skipped {v : Visit B} {vs : List (Visit B)} {reg reg' regEnd : Registry B} {x xEnd : Exchange}
      (hbreaker : v.breaker = breakerFor reg (clock v.position).fetched v.target)
      (hskipped : v.outcome.executed = false)
      (hkept : ∀ key b, reg key = some b → reg' key = some b)
      (h : Carried p clock env body stream vs reg' x regEnd xEnd) :
      Carried p clock env body stream (v :: vs) reg x regEnd xEnd
  | sent {v : Visit B} {vs : List (Visit B)} {reg regEnd : Registry B} {x xEnd : Exchange}
      {a : ProviderAdapter} {generation : ℕ} {b : B.Breaker}
      {sent : Option SendFailure × Exchange}
      (hbreaker : v.breaker = breakerFor reg (clock v.position).fetched v.target)
      (hadapter : p.adapters v.target.provider = some a)
      (hask : B.beforeRequest v.breaker (clock v.position).asked = (.ok generation, b))
      (hsent : sent = p.send (env v.position) v.position v.target a body stream x)
      (houtcome : v.outcome = ofSend p.runtime sent.1)
      (h : Carried p clock env body stream vs
        (reg.set v.target
          (B.afterRequest b (clock v.position).told generation sent.1.isNone)) sent.2 regEnd xEnd) :
      Carried p clock env body stream (v :: vs) reg x regEnd xEnd

/-- A walk along the chain `ts` from the `i`-th position on. -/
structure Walked (p : Proxy) (clock : ℕ → Clock) (env : ℕ → Attempt) (body : Bytes) (stream : Bool)
    (i : ℕ) (before : GoError) (ts : List Target) (reg : Registry B) (x : Exchange) (w : Walk B) :
    Prop where
  carried : Carried p clock env body stream w.visits reg x w.registry w.exchange
  /-- The visited positions are the first ones, in order and each once. -/
  inOrder : w.visits.map (fun v => (v.target, v.position)) <+: ts.zipIdx i
  /-- What comes before another visit has not succeeded. -/
  goesOn : ∀ v ∈ w.visits.dropLast, v.outcome ≠ .succeeded
  /-- The walk ends early only with a success. -/
  stops : w.visits.length < ts.length → ∃ v, w.visits.getLast? = some v ∧ v.outcome = .succeeded
  /-- A target is executed if it has an adapter and its breaker lets it through. -/
  executed_iff : ∀ v ∈ w.visits,
    v.outcome.executed = true ↔ Admitted p (clock v.position) v.target v.breaker
  contacts : ∀ k u o, .contact k u o ∈ w.exchange.events → .contact k u o ∈ x.events ∨
    ∃ v ∈ w.visits, v.outcome.executed = true ∧ k = v.position ∧ u = v.target
  nil_iff : w.err = none ↔ ∃ v ∈ w.visits, v.outcome = .succeeded
  wraps : ∀ err, w.err = some err →
    ∃ last, lastError before w.visits = some last ∧ err = .wrap "all providers failed" last
  breakers : ∀ key b, reg key = some b →
    (∀ v ∈ w.visits, v.outcome.executed = true → breakerKey v.target ≠ key) →
    w.registry key = some b

variable {clock : ℕ → Clock} {env : ℕ → Attempt}

theorem walk_cons (before : GoError) (ts : List Target) :
    walk p clock env body stream i before (t :: ts) reg x =
      match (visit p (clock i) (env i) body stream i t reg x).1.error with
      | none =>
          { err := none
            registry := (visit p (clock i) (env i) body stream i t reg x).2.1
            exchange := (visit p (clock i) (env i) body stream i t reg x).2.2
            visits :=
              [⟨i, t, breakerFor reg (clock i).fetched t,
                (visit p (clock i) (env i) body stream i t reg x).1⟩] }
      | some err =>
          (walk p clock env body stream (i + 1) err ts
            (visit p (clock i) (env i) body stream i t reg x).2.1
            (visit p (clock i) (env i) body stream i t reg x).2.2).after
              ⟨i, t, breakerFor reg (clock i).fetched t,
                (visit p (clock i) (env i) body stream i t reg x).1⟩ :=
  rfl

/-- A visit hands on the registry and the exchange. -/
theorem Carried.visit {vs : List (Visit B)} {regEnd : Registry B} {xEnd : Exchange}
    (h : Carried p clock env body stream vs
      (visit p (clock i) (env i) body stream i t reg x).2.1
      (visit p (clock i) (env i) body stream i t reg x).2.2 regEnd xEnd) :
    Carried p clock env body stream
      (⟨i, t, breakerFor reg (clock i).fetched t,
        (Fallback.visit p (clock i) (env i) body stream i t reg x).1⟩ :: vs) reg x regEnd xEnd := by
  have hkept := (confined_visit p (clock i) (env i) body stream i t reg x).breakers
  unfold Fallback.visit at h hkept ⊢
  cases hadapter : p.adapters t.provider with
  | none =>
      simp only [hadapter] at h ⊢
      exact .skipped rfl rfl (fun _ _ hkey => hkey) h
  | some a =>
      simp only [hadapter] at h hkept ⊢
      cases hask : B.beforeRequest (breakerFor reg (clock i).fetched t) (clock i).asked with
      | mk verdict b =>
          simp only [hask] at h hkept ⊢
          cases verdict with
          | error err =>
              exact .skipped rfl rfl
                (fun key b' hkey => hkept key b' hkey fun hexecuted => by cases hexecuted) h
          | ok generation => exact .sent rfl hadapter hask rfl rfl h

/-- A walk that goes on behind a visit that failed. -/
theorem Walked.after {before err : GoError} {ts : List Target} {outcome : Outcome}
    {reg' : Registry B} {x' : Exchange} {w : Walk B}
    (heq : visit p (clock i) (env i) body stream i t reg x = (outcome, reg', x'))
    (hvisit : Confined p (clock i) i t reg x outcome reg' x') (herr : outcome.error = some err)
    (hfailed : outcome ≠ .succeeded)
    (h : Walked p clock env body stream (i + 1) err ts reg' x' w) :
    Walked p clock env body stream i before (t :: ts) reg x
      (w.after ⟨i, t, breakerFor reg (clock i).fetched t, outcome⟩) where
  carried := by
    have hcarried := h.carried
    have hhere : outcome = (visit p (clock i) (env i) body stream i t reg x).1 := by rw [heq]
    rw [hhere]
    refine Carried.visit ?_
    rw [heq]
    exact hcarried
  inOrder := by
    rw [List.zipIdx_cons]
    exact List.cons_prefix_cons.2 ⟨rfl, h.inOrder⟩
  goesOn := by
    intro v hv
    cases hvisits : w.visits with
    | nil => simp [hvisits] at hv
    | cons v' vs =>
        simp only [Walk.visits_after, hvisits, List.dropLast_cons_cons, List.mem_cons] at hv
        rcases hv with rfl | hv
        · exact fun hsucceeded => hfailed hsucceeded
        · exact h.goesOn v (by rwa [hvisits])
  stops := by
    intro hlen
    have hshort : w.visits.length < ts.length := by simpa using hlen
    rcases h.stops hshort with ⟨v, hlast, hsucceeded⟩
    exact ⟨v, by simp [List.getLast?_cons, hlast], hsucceeded⟩
  executed_iff := by
    intro v hv
    rcases List.mem_cons.1 hv with rfl | hv
    · exact hvisit.executed_iff
    · exact h.executed_iff v hv
  contacts := by
    intro k u o hmem
    rcases h.contacts k u o hmem with hmem | ⟨v, hv, hexecuted⟩
    · exact (hvisit.contacts k u o hmem).imp_right fun hhere => ⟨_, List.mem_cons_self, hhere⟩
    · exact .inr ⟨v, List.mem_cons_of_mem _ hv, hexecuted⟩
  nil_iff := by
    change w.err = none ↔ ∃ v ∈ _ :: w.visits, v.outcome = .succeeded
    rw [h.nil_iff, List.exists_mem_cons_iff, or_iff_right hfailed]
  wraps := by
    intro err' herr'
    rcases h.wraps err' herr' with ⟨last, hlast, rfl⟩
    refine ⟨last, ?_, rfl⟩
    rw [← hlast]
    cases hvisits : w.visits.getLast? with
    | none => simp [lastError, List.getLast?_cons, hvisits, herr]
    | some v => simp [lastError, List.getLast?_cons, hvisits]
  breakers := by
    intro key b hkey hne
    refine h.breakers key b (hvisit.breakers key b hkey (hne _ List.mem_cons_self)) ?_
    intro v hv
    exact hne v (List.mem_cons_of_mem _ hv)

theorem walked_walk (before : GoError) (ts : List Target) :
    Walked p clock env body stream i before ts reg x
      (walk p clock env body stream i before ts reg x) := by
  induction ts generalizing i before reg x with
  | nil =>
      exact
        { carried := .nil _ _
          inOrder := List.prefix_rfl
          goesOn := by simp [walk]
          stops := by simp [walk]
          executed_iff := by simp [walk]
          contacts := fun _ _ _ h => .inl h
          nil_iff := by simp [walk]
          wraps := by simp [walk, lastError]
          breakers := fun _ _ h _ => h }
  | cons t ts ih =>
      have hvisit := confined_visit p (clock i) (env i) body stream i t reg x
      rw [walk_cons]
      -- The walk goes on behind an error, with it as the last one, and ends at a success.
      cases herr : (visit p (clock i) (env i) body stream i t reg x).1.error with
      | some err =>
          refine Walked.after rfl hvisit herr ?_ (ih err)
          intro hsucceeded
          rw [Outcome.error_eq_none_iff.2 hsucceeded] at herr
          cases herr
      | none =>
          have hsucceeded := Outcome.error_eq_none_iff.1 herr
          exact
            { carried := Carried.visit (.nil _ _)
              inOrder := by
                rw [List.zipIdx_cons]
                exact List.cons_prefix_cons.2 ⟨rfl, List.nil_prefix⟩
              goesOn := by simp
              stops := fun _ => ⟨_, rfl, hsucceeded⟩
              executed_iff := by
                intro v hv
                cases List.mem_singleton.1 hv
                exact hvisit.executed_iff
              contacts := fun k u o hmem =>
                (hvisit.contacts k u o hmem).imp_right fun hhere => ⟨_, List.mem_cons_self, hhere⟩
              nil_iff := iff_of_true rfl ⟨_, List.mem_cons_self, hsucceeded⟩
              wraps := fun _ h => by cases h
              breakers := fun key b hkey hne =>
                hvisit.breakers key b hkey (hne _ List.mem_cons_self) }

/-- What one call does, for every chain, table of adapters and state of the breakers, and however
the surroundings behave. -/
theorem walked_chatCompletion (p : Proxy) (clock : ℕ → Clock) (env : ℕ → Attempt) (modelID : String)
    (body : Bytes) (stream : Bool) (reg : Registry B) (x : Exchange) {primary : Target}
    {fallback : List Target} (hresolve : p.router.resolve modelID = some (primary, fallback)) :
    Walked p clock env body stream 0 (.text "") (primary :: fallback) reg x
      (chatCompletion p clock env body stream modelID reg x) := by
  rw [chatCompletion, hresolve]
  exact walked_walk _ _

/-- Both upstreams are down. -/
theorem walked_chatCompletion_twoProviders :
    let x : Exchange := { fault := fun _ => none, flusher := false }
    let env : ℕ → Attempt := fun _ => { reply := .error (.text "connection refused") }
    let clock : ℕ → Clock := fun i => { fetched := i, asked := i, told := i + 1 }
    let reg : Registry countingBreakers := fun _ => none
    let p := newProxy plainRuntime twoProviders
    Walked p clock env [] false 0 (.text "")
      [{ provider := "openai", model := "gpt-4o" },
        { provider := "together", model := "llama-3-70b" }]
      reg x (chatCompletion p clock env [] false "gpt-4o" reg x) :=
  walked_chatCompletion _ _ _ _ _ _ _ _ rfl

/-! ## The breakers as surroundings -/

/-- The error with which a breaker rejected the visit. -/
def Outcome.refusal : Outcome → Option GoError
  | rejected err => some err
  | _ => none

/-- The refusal at a position, as it was recorded. -/
def refusalAt (visits : List (Visit B)) (j : ℕ) : Option GoError :=
  (visits.find? fun v => v.position == j).bind fun v => v.outcome.refusal

theorem refusalAt_cons_self (v : Visit B) (vs : List (Visit B)) :
    refusalAt (v :: vs) v.position = v.outcome.refusal := by
  simp [refusalAt]

theorem refusalAt_cons_of_ne {v : Visit B} {j : ℕ} (h : v.position ≠ j) (vs : List (Visit B)) :
    refusalAt (v :: vs) j = refusalAt vs j := by
  simp [refusalAt, h]

/-- `tryTargets` goes the way of a visit. -/
theorem tryTargets_of_visit (c : Clock) (e : Attempt) {env : ℕ → Attempt} (before : GoError)
    (ts : List Target)
    (henv : env i = { e with refusal := (visit p c e body stream i t reg x).1.refusal }) :
    p.tryTargets env body stream i before (t :: ts) x =
      match (visit p c e body stream i t reg x).1.error with
      | none => (none, (visit p c e body stream i t reg x).2.2)
      | some err =>
          p.tryTargets env body stream (i + 1) err ts (visit p c e body stream i t reg x).2.2 := by
  have hsend : ∀ a r, p.send { e with refusal := r } i t a body stream x =
      p.send e i t a body stream x := fun _ _ => rfl
  unfold visit at henv ⊢
  cases hadapter : p.adapters t.provider with
  | none => simp [Proxy.tryTargets, hadapter, Outcome.error]
  | some a =>
      simp only [hadapter] at henv ⊢
      cases hask : B.beforeRequest (breakerFor reg c.fetched t) c.asked with
      | mk verdict b =>
          rw [hask] at henv
          cases verdict with
          | error err =>
              have hrefusal : (env i).refusal = some err := by rw [henv]; rfl
              simp [Proxy.tryTargets, hadapter, hrefusal, Outcome.error]
          | ok generation =>
              simp only at henv ⊢
              cases hresult : p.send e i t a body stream x with
              | mk r x' =>
                  cases r with
                  | none =>
                      simp [Proxy.tryTargets, hadapter, henv, hsend, hresult, ofSend,
                        Outcome.refusal, Outcome.error]
                  | some f =>
                      simp [Proxy.tryTargets, hadapter, henv, hsend, hresult, ofSend,
                        Outcome.refusal, Outcome.error]

theorem tryTargets_eq_walk (clock : ℕ → Clock) (env : ℕ → Attempt) (before : GoError)
    (ts : List Target) {env' : ℕ → Attempt}
    (henv : ∀ j, i ≤ j → env' j =
      { env j with
        refusal := refusalAt (walk p clock env body stream i before ts reg x).visits j }) :
    p.tryTargets env' body stream i before ts x =
      ((walk p clock env body stream i before ts reg x).err,
        (walk p clock env body stream i before ts reg x).exchange) := by
  induction ts generalizing i before reg x with
  | nil => rfl
  | cons t ts ih =>
      rw [walk_cons] at henv ⊢
      cases herr : (visit p (clock i) (env i) body stream i t reg x).1.error with
      | none =>
          rw [herr] at henv
          have hhere := henv i (Nat.le_refl i)
          rw [refusalAt_cons_self] at hhere
          rw [tryTargets_of_visit (clock i) (env i) before ts hhere, herr]
      | some err =>
          rw [herr] at henv
          have hhere := henv i (Nat.le_refl i)
          rw [Walk.visits_after, refusalAt_cons_self] at hhere
          rw [tryTargets_of_visit (clock i) (env i) before ts hhere, herr]
          -- Later positions have been refused in the rest of the walk, if at all.
          refine ih err fun j hj => ?_
          rw [henv j (by omega), Walk.visits_after, refusalAt_cons_of_ne (by simp; omega)]

/-- A call over its breakers is the `chatCompletion` whose surroundings refuse what they reject. -/
theorem chatCompletion_eq (p : Proxy) (clock : ℕ → Clock) (env : ℕ → Attempt) (modelID : String)
    (body : Bytes) (stream : Bool) (reg : Registry B) (x : Exchange) :
    p.chatCompletion
        (fun j =>
          { env j with
            refusal := refusalAt (chatCompletion p clock env body stream modelID reg x).visits j })
        modelID body stream x =
      ((chatCompletion p clock env body stream modelID reg x).err,
        (chatCompletion p clock env body stream modelID reg x).exchange) := by
  cases hresolve : p.router.resolve modelID with
  | none => simp [Proxy.chatCompletion, chatCompletion, hresolve]
  | some route =>
      simp only [Proxy.chatCompletion, chatCompletion, hresolve]
      exact tryTargets_eq_walk clock env _ _ fun _ _ => rfl

end Fallback
end Gateway
end OpenRouter
