import OpenRouter.Base.Transition
import OpenRouter.Gateway.Anthropic

/-!
# Reload — one request while the routing configuration is replaced

`ReloadConfig` swaps the pointer that `Resolve` reads once and `Provider` reads again for every
target.  A run is one request with reloads between its steps, and `Seen` is what it reads.
`served_under_one_file` gives the reloads with which the request is served as `chatCompletion`
serves it under a single file.
-/

namespace OpenRouter
namespace Gateway

open Base

namespace Reload

/-- The arguments of `ChatCompletion`. -/
structure ChatCall where
  model : String
  body : Bytes
  stream : Bool
  exchange : Exchange

inductive Stage
  | arrived
  /-- At the head of the loop. -/
  | trying (i : ℕ) (lastErr : GoError) (rest : List Target) (x : Exchange)
  | done (err : Option GoError) (x : Exchange)

/-- The state that `Router` points to, and the request. -/
structure Service where
  router : Router
  stage : Stage

inductive Label
  /-- `ReloadConfig`, given what `LoadFromFile` reads; `none` is its error. -/
  | reload (loaded : Option ConfigFile)
  | resolve
  /-- One target.  `send` reads the pointer at its start and keeps the value it read. -/
  | attempt (env : Attempt)

variable (p : Proxy) (q : ChatCall)

/-- One pass of the loop of `ChatCompletion`, with `r` in force at its start. -/
def pass (r : Router) (env : Attempt) (i : ℕ) (lastErr : GoError) (ts : List Target)
    (x : Exchange) : Stage :=
  match ts with
  | [] => .done (some (.wrap "all providers failed" lastErr)) x
  | t :: rest =>
      match p.adapters t.provider with
      | none =>
          .trying (i + 1) (.text ("no adapter for provider " ++ p.runtime.quote t.provider)) rest x
      | some a =>
          match env.refusal with
          | some err => .trying (i + 1) err rest x
          | none =>
              match ({ p with router := r } : Proxy).send env i t a q.body q.stream x with
              | (none, x') => .done none x'
              | (some f, x') => .trying (i + 1) (f.toError p.runtime) rest x'

def step (s : Service) : Label → Option Service
  | .reload none => some s
  | .reload (some f) => some { s with router := .load f }
  | .resolve =>
      match s.stage with
      | .arrived =>
          match s.router.resolve q.model with
          | none =>
              let err := .text ("unknown model " ++ p.runtime.quote q.model)
              some { s with stage := .done (some err) q.exchange }
          | some (primary, fallback) =>
              some { s with stage := .trying 0 (.text "") (primary :: fallback) q.exchange }
      | _ => none
  | .attempt env =>
      match s.stage with
      | .trying i lastErr rest x =>
          some { s with stage := pass p q s.router env i lastErr rest x }
      | _ => none

/-- The request before its first step. -/
def start (r : Router) : Service :=
  { router := r, stage := .arrived }

/-! ## What a run reads -/

inductive Seen
  | loaded (r : Router)
  | chain (c : Option (Target × List Target))
  | config (t : Target) (cfg : Option ProviderConfig)

/-- What a step reads at the pointer, or stores there. -/
def seen (s : Service) : Label → Option Seen
  | .reload loaded => loaded.map fun f => .loaded (.load f)
  | .resolve => some (.chain (s.router.resolve q.model))
  | .attempt env =>
      match s.stage with
      | .trying _ _ (t :: _) _ =>
          match p.adapters t.provider, env.refusal with
          | some _, none => some (.config t (s.router.provider t.provider))
          | _, _ => none
      | _ => none

/-- What was read is what `r` has there. -/
def Seen.ReadFrom (r : Router) : Seen → Prop
  | .loaded _ => True
  | .chain c => r.resolve q.model = c
  | .config t cfg => r.provider t.provider = cfg

/-- A file that was in force before the request or was loaded since. -/
def Loaded (r₀ : Router) (log : List Seen) (r : Router) : Prop :=
  r = r₀ ∨ .loaded r ∈ log

/-- All that the request reads is in one loaded file. -/
def UnderOneFile (r₀ : Router) (log : List Seen) : Prop :=
  ∃ r, Loaded r₀ log r ∧ ∀ e ∈ log, e.ReadFrom q r

/-- A reload between `Resolve` and the last target leaves the providers of the targets to come as
they are. -/
def Spares (s : Service) : Label → Prop
  | .reload (some f) =>
      match s.stage with
      | .trying _ _ rest _ =>
          ∀ t ∈ rest, p.adapters t.provider ≠ none →
            (Router.load f).provider t.provider = s.router.provider t.provider
      | _ => True
  | _ => True

/-! ## One file -/

variable {p q}

theorem send_congr {r r' : Router} {env : Attempt} {i : ℕ} {t : Target} {a : ProviderAdapter}
    {body : Bytes} {stream : Bool} {x : Exchange}
    (h : r.provider t.provider = r'.provider t.provider) :
    ({ p with router := r } : Proxy).send env i t a body stream x =
      ({ p with router := r' } : Proxy).send env i t a body stream x := by
  simp [Proxy.send, h]

/-- The request is where the loop of `ChatCompletion` is under the file `r`, if the steps taken so
far are given what they were given. -/
def Follows (p : Proxy) (q : ChatCall) (r : Router) : Stage → Prop
  | .arrived => True
  | .trying i lastErr rest x =>
      ∃ past : ℕ → Attempt, ∀ env, (∀ j < i, env j = past j) →
        ({ p with router := r } : Proxy).chatCompletion env q.model q.body q.stream q.exchange =
          ({ p with router := r } : Proxy).tryTargets env q.body q.stream i lastErr rest x
  | .done err x =>
      ∃ env, ({ p with router := r } : Proxy).chatCompletion env q.model q.body q.stream
        q.exchange = (err, x)

/-- What the file in force has in common with the one that was resolved. -/
def Agrees (p : Proxy) (r current : Router) : Stage → Prop
  | .trying _ _ rest _ =>
      ∀ t ∈ rest, p.adapters t.provider ≠ none →
        current.provider t.provider = r.provider t.provider
  | _ => True

/-- The invariant of the runs; before `Resolve`, the file is any that is in force then. -/
def Inv (p : Proxy) (q : ChatCall) (r₀ : Router) (s : Service × List Seen) : Prop :=
  Loaded r₀ s.2 s.1.router ∧
    match s.1.stage with
    | .arrived => ∀ e ∈ s.2, ∃ r, e = .loaded r
    | stage => ∃ r, Loaded r₀ s.2 r ∧ (∀ e ∈ s.2, e.ReadFrom q r) ∧ Agrees p r s.1.router stage ∧
        Follows p q r stage

theorem Loaded.log_append {r₀ r : Router} {log : List Seen} (h : Loaded r₀ log r)
    (more : List Seen) : Loaded r₀ (more ++ log) r :=
  h.imp_right fun hmem => List.mem_append_right _ hmem

theorem pass_congr {r r' : Router} {env : Attempt} {i : ℕ} {lastErr : GoError} {ts : List Target}
    {x : Exchange}
    (h : ∀ t ∈ ts, p.adapters t.provider ≠ none → r.provider t.provider = r'.provider t.provider) :
    pass p q r env i lastErr ts x = pass p q r' env i lastErr ts x := by
  cases ts with
  | nil => rfl
  | cons t rest =>
      cases hadapter : p.adapters t.provider with
      | none => simp only [pass, hadapter]
      | some a =>
          have hsame : r.provider t.provider = r'.provider t.provider :=
            h t List.mem_cons_self (by simp [hadapter])
          cases hrefusal : env.refusal with
          | some err => simp only [pass, hadapter, hrefusal]
          | none => simp only [pass, hadapter, hrefusal, send_congr hsame]

/-- The loop goes on after a pass as it does in `tryTargets`. -/
theorem follows_pass {r : Router} {i : ℕ} {lastErr : GoError} {ts : List Target} {x : Exchange}
    (h : Follows p q r (.trying i lastErr ts x)) (env : Attempt) :
    Follows p q r (pass p q r env i lastErr ts x) := by
  rcases h with ⟨past, hpast⟩
  cases ts with
  | nil => exact ⟨past, hpast past fun _ _ => rfl⟩
  | cons t rest =>
      -- What the surroundings have answered so far, with this attempt behind it.
      let past' : ℕ → Attempt := Function.update past i env
      have hbefore : ∀ env' : ℕ → Attempt, (∀ j < i + 1, env' j = past' j) →
          (∀ j < i, env' j = past j) ∧ env' i = env := by
        intro env' hagree
        refine ⟨fun j hj => ?_, ?_⟩
        · rw [hagree j (Nat.lt_succ_of_lt hj)]
          exact Function.update_of_ne hj.ne _ _
        · rw [hagree i (Nat.lt_succ_self i)]
          exact Function.update_self ..
      -- The cases of the loop's body; in each of them `tryTargets` takes the same branch.
      cases hadapter : p.adapters t.provider with
      | none =>
          simp only [pass, hadapter]
          refine ⟨past', fun env' hagree => ?_⟩
          rw [hpast env' (hbefore env' hagree).1]
          simp [Proxy.tryTargets, hadapter]
      | some a =>
          cases hrefusal : env.refusal with
          | some err =>
              simp only [pass, hadapter, hrefusal]
              refine ⟨past', fun env' hagree => ?_⟩
              rcases hbefore env' hagree with ⟨hold, hnew⟩
              rw [hpast env' hold]
              simp [Proxy.tryTargets, hadapter, hnew, hrefusal]
          | none =>
              cases hsend : ({ p with router := r } : Proxy).send env i t a q.body q.stream x with
              | mk f x' =>
                  cases f with
                  | none =>
                      simp only [pass, hadapter, hrefusal, hsend]
                      -- The request is over, so one way of answering is enough.
                      rcases hbefore past' fun _ _ => rfl with ⟨hold, hnew⟩
                      refine ⟨past', ?_⟩
                      rw [hpast past' hold]
                      simp [Proxy.tryTargets, hadapter, hnew, hrefusal, hsend]
                  | some f =>
                      simp only [pass, hadapter, hrefusal, hsend]
                      refine ⟨past', fun env' hagree => ?_⟩
                      rcases hbefore env' hagree with ⟨hold, hnew⟩
                      rw [hpast env' hold]
                      simp [Proxy.tryTargets, hadapter, hnew, hrefusal, hsend]

/-- A pass ends the request or takes the first target off. -/
theorem pass_cases (r : Router) (env : Attempt) (i : ℕ) (lastErr : GoError) (ts : List Target)
    (x : Exchange) :
    (∃ err x', pass p q r env i lastErr ts x = .done err x') ∨
      ∃ err x', pass p q r env i lastErr ts x = .trying (i + 1) err ts.tail x' := by
  cases ts with
  | nil => exact .inl ⟨_, _, rfl⟩
  | cons t rest =>
      cases hadapter : p.adapters t.provider with
      | none => exact .inr ⟨_, _, by simp only [pass, hadapter]; rfl⟩
      | some a =>
          cases hrefusal : env.refusal with
          | some err => exact .inr ⟨_, _, by simp only [pass, hadapter, hrefusal]; rfl⟩
          | none =>
              cases hsend : ({ p with router := r } : Proxy).send env i t a q.body q.stream x with
              | mk f x' =>
                  cases f with
                  | none => exact .inl ⟨none, x', by simp only [pass, hadapter, hrefusal, hsend]⟩
                  | some f =>
                      exact .inr ⟨f.toError p.runtime, x', by
                        simp only [pass, hadapter, hrefusal, hsend]; rfl⟩

theorem agrees_pass {r current : Router} {i : ℕ} {lastErr : GoError} {ts : List Target}
    {x : Exchange} (h : Agrees p r current (.trying i lastErr ts x)) (r' : Router) (env : Attempt) :
    Agrees p r current (pass p q r' env i lastErr ts x) := by
  rcases pass_cases (p := p) (q := q) r' env i lastErr ts x with ⟨err, x', hpass⟩ | ⟨err, x', hpass⟩
  · rw [hpass]
    trivial
  · rw [hpass]
    exact fun t ht => h t (List.mem_of_mem_tail ht)

/-! ## Runs -/

variable {r₀ : Router} {s s' : Service × List Seen}

theorem inv_reload (h : Inv p q r₀ s) {loaded : Option ConfigFile}
    (hspares : Spares p s.1 (.reload loaded))
    (hstep : logged (step p q) (seen p q) s (.reload loaded) = some s') : Inv p q r₀ s' := by
  rcases s with ⟨⟨current, stage⟩, log⟩
  cases loaded with
  | none =>
      -- A file that does not load leaves the router in force.
      cases hstep
      exact h
  | some f =>
      cases hstep
      rcases h with ⟨-, hstage⟩
      refine ⟨.inr List.mem_cons_self, ?_⟩
      cases stage with
      | arrived =>
          intro e he
          rcases List.mem_cons.1 he with rfl | he
          · exact ⟨_, rfl⟩
          · exact hstage e he
      | trying i lastErr rest x =>
          rcases hstage with ⟨r, hloaded, hread, hagree, hfollow⟩
          refine ⟨r, hloaded.log_append [_], List.forall_mem_cons.2 ⟨trivial, hread⟩, ?_, hfollow⟩
          -- The new file agrees with the old one about the targets that are still to come.
          intro t ht hadapter
          exact (hspares t ht hadapter).trans (hagree t ht hadapter)
      | done err x =>
          rcases hstage with ⟨r, hloaded, hread, -, hfollow⟩
          exact ⟨r, hloaded.log_append [_], List.forall_mem_cons.2 ⟨trivial, hread⟩, trivial,
            hfollow⟩

/-- `Resolve` settles the file that the request is served under. -/
theorem inv_resolve (h : Inv p q r₀ s)
    (hstep : logged (step p q) (seen p q) s .resolve = some s') : Inv p q r₀ s' := by
  rcases s with ⟨⟨current, stage⟩, log⟩
  rcases h with ⟨hcurrent, hstage⟩
  cases stage with
  | trying i lastErr rest x => cases hstep
  | done err x => cases hstep
  | arrived =>
      have hread : ∀ e ∈ .chain (current.resolve q.model) :: log, e.ReadFrom q current := by
        intro e he
        rcases List.mem_cons.1 he with rfl | he
        · rfl
        · rcases hstage e he with ⟨r, rfl⟩
          trivial
      have hloaded : Loaded r₀ (.chain (current.resolve q.model) :: log) current :=
        hcurrent.log_append [_]
      cases hresolve : current.resolve q.model with
      | none =>
          rw [hresolve] at hread hloaded
          simp only [logged, step, seen, hresolve, Option.map_some, Option.some.injEq] at hstep
          subst hstep
          refine ⟨hloaded, current, hloaded, hread, trivial,
            ⟨fun _ => { reply := .error (.text "") }, ?_⟩⟩
          simp [Proxy.chatCompletion, hresolve]
      | some c =>
          rcases c with ⟨primary, fallback⟩
          rw [hresolve] at hread hloaded
          simp only [logged, step, seen, hresolve, Option.map_some, Option.some.injEq] at hstep
          subst hstep
          refine ⟨hloaded, current, hloaded, hread, fun _ _ _ => rfl,
            ⟨fun _ => { reply := .error (.text "") }, fun env _ => ?_⟩⟩
          simp [Proxy.chatCompletion, hresolve]

theorem inv_attempt (h : Inv p q r₀ s) {env : Attempt}
    (hstep : logged (step p q) (seen p q) s (.attempt env) = some s') : Inv p q r₀ s' := by
  rcases s with ⟨⟨current, stage⟩, log⟩
  rcases h with ⟨hcurrent, hstage⟩
  cases stage with
  | arrived => cases hstep
  | done err x => cases hstep
  | trying i lastErr ts x =>
      rcases hstage with ⟨r, hloaded, hread, hagree, hfollow⟩
      rcases Option.map_eq_some_iff.1 hstep with ⟨s'', hpass, rfl⟩
      cases hpass
      -- The router in force agrees with `r` about the first target, so either gives its provider.
      have hnew : ∀ e ∈ (seen p q ⟨current, .trying i lastErr ts x⟩ (.attempt env)).toList,
          e.ReadFrom q r := by
        intro e he
        have he' := Option.mem_toList.1 he
        cases ts with
        | nil => cases he'
        | cons t rest =>
            cases hadapter : p.adapters t.provider with
            | none => simp [seen, hadapter] at he'
            | some a =>
                cases hrefusal : env.refusal with
                | some err => simp [seen, hadapter, hrefusal] at he'
                | none =>
                    simp only [seen, hadapter, hrefusal, Option.some.injEq] at he'
                    subst he'
                    exact (hagree t List.mem_cons_self (by simp [hadapter])).symm
      have hlog : ∀ e ∈ (seen p q ⟨current, .trying i lastErr ts x⟩ (.attempt env)).toList ++ log,
          e.ReadFrom q r := List.forall_mem_append.2 ⟨hnew, hread⟩
      have hsame : pass p q current env i lastErr ts x = pass p q r env i lastErr ts x :=
        pass_congr hagree
      have hfollow' := follows_pass hfollow env
      have hagree' : Agrees p r current (pass p q r env i lastErr ts x) := agrees_pass hagree r env
      refine ⟨hcurrent.log_append _, ?_⟩
      simp only [hsame]
      -- Whether the request ends here or goes on, `r` is the file it is served under.
      rcases pass_cases (p := p) (q := q) r env i lastErr ts x with
        ⟨err, x', hstage'⟩ | ⟨err, x', hstage'⟩
      · rw [hstage'] at hfollow' hagree' ⊢
        exact ⟨r, hloaded.log_append _, hlog, hagree', hfollow'⟩
      · rw [hstage'] at hfollow' hagree' ⊢
        exact ⟨r, hloaded.log_append _, hlog, hagree', hfollow'⟩

theorem inv_start (p : Proxy) (q : ChatCall) (r₀ : Router) : Inv p q r₀ (start r₀, []) :=
  ⟨.inl rfl, fun _ he => absurd he List.not_mem_nil⟩

/-- With reloads that spare the targets to come, one loaded file has all that the request reads,
and the request ends as `ChatCompletion` ends under that file alone. -/
theorem served_under_one_file {ls : List Label} {t : Service} {log : List Seen}
    (hspares : Guarded (logged (step p q) (seen p q)) (fun s l => Spares p s.1 l) (start r₀, []) ls)
    (hrun : exec (logged (step p q) (seen p q)) (start r₀, []) ls = some (t, log)) :
    ∃ r, Loaded r₀ log r ∧ (∀ e ∈ log, e.ReadFrom q r) ∧
      ∀ err x, t.stage = .done err x →
        ∃ env, ({ p with router := r } : Proxy).chatCompletion env q.model q.body q.stream
          q.exchange = (err, x) := by
  have hinv : Inv p q r₀ (t, log) := by
    refine exec_invariant_of_guarded ?_ (inv_start p q r₀) hspares hrun
    intro s l s' hs hguard hstep
    cases l with
    | reload loaded => exact inv_reload hs hguard hstep
    | resolve => exact inv_resolve hs hstep
    | attempt env => exact inv_attempt hs hstep
  rcases hinv with ⟨hcurrent, hstage⟩
  -- Before `Resolve` nothing has been read, so any file does.
  cases hcase : t.stage with
  | arrived =>
      simp only [hcase] at hstage
      refine ⟨t.router, hcurrent, ?_, fun _ _ hdone => nomatch hdone⟩
      intro e he
      rcases hstage e he with ⟨r, rfl⟩
      trivial
  | trying i lastErr rest x =>
      simp only [hcase] at hstage
      rcases hstage with ⟨r, hloaded, hread, -, -⟩
      exact ⟨r, hloaded, hread, fun _ _ hdone => nomatch hdone⟩
  | done err x =>
      simp only [hcase] at hstage
      rcases hstage with ⟨r, hloaded, hread, -, hfollow⟩
      refine ⟨r, hloaded, hread, ?_⟩
      intro err' x' hdone
      cases hdone
      exact hfollow

/-! ## A file without the provider -/

/-- `gpt-4o` at OpenAI. -/
def oldFile : ConfigFile where
  providers := (∅ : AList fun _ : String => ProviderConfig).insert "openai"
    { baseURL := "https://api.openai.com/v1", keyEnv := "OPENAI_API_KEY", headers := ∅ }
  models := [{ id := "gpt-4o", provider := "openai", fallback := [] }]

/-- `gpt-4o` at Together, and OpenAI gone. -/
def newFile : ConfigFile where
  providers := (∅ : AList fun _ : String => ProviderConfig).insert "together"
    { baseURL := "https://api.together.xyz/v1", keyEnv := "TOGETHER_API_KEY", headers := ∅ }
  models := [{ id := "gpt-4o", provider := "together", fallback := [] }]

def oneChat : ChatCall where
  model := "gpt-4o"
  body := []
  stream := false
  exchange := { fault := fun _ => none, flusher := false }

/-- An upstream that cannot be reached. -/
def unreachable : Attempt where
  reply := .error (.text "connection refused")

/-- Reloads before `Resolve`, and one that fails behind it. -/
def calmRun : List Label :=
  [.reload (some newFile), .resolve, .reload none, .attempt unreachable]

theorem served_under_one_file_calmRun :
    ∃ t log, exec (logged (step (newProxy plainRuntime (.load oldFile)) oneChat)
        (seen (newProxy plainRuntime (.load oldFile)) oneChat))
          (start (.load oldFile), []) calmRun = some (t, log) ∧
      ∃ r, Loaded (.load oldFile) log r ∧ (∀ e ∈ log, e.ReadFrom oneChat r) ∧
        ∀ err x, t.stage = .done err x →
          ∃ env, ({ newProxy plainRuntime (.load oldFile) with router := r } : Proxy).chatCompletion
            env oneChat.model oneChat.body oneChat.stream oneChat.exchange = (err, x) :=
  ⟨_, _, rfl, @served_under_one_file _ _ _ calmRun _ _
    ⟨trivial, fun _ _ => ⟨trivial, fun _ _ => ⟨trivial, fun _ _ => ⟨trivial, fun _ _ => trivial⟩⟩⟩⟩
    rfl⟩

/-- What is read when the reload falls between `Resolve` and the first target, the newest first. -/
def tornLog : List Seen :=
  [.config { provider := "openai", model := "gpt-4o" } none, .loaded (.load newFile),
    .chain (some ({ provider := "openai", model := "gpt-4o" }, []))]

/-- The provider of a target that was resolved is missing from another file. -/
theorem reload_takes_provider_away :
    exec (logged (step (newProxy plainRuntime (.load oldFile)) oneChat)
        (seen (newProxy plainRuntime (.load oldFile)) oneChat)) (start (.load oldFile), [])
          [.resolve, .reload (some newFile), .attempt unreachable] =
        some (⟨.load newFile, .trying 1
          ((SendFailure.notConfigured "openai").toError plainRuntime) [] oneChat.exchange⟩,
            tornLog) ∧
      ¬UnderOneFile oneChat (.load oldFile) tornLog := by
  refine ⟨rfl, ?_⟩
  rintro ⟨r, hloaded, hread⟩
  have hchain : r.resolve "gpt-4o" = some ({ provider := "openai", model := "gpt-4o" }, []) :=
    hread (.chain _) (by simp [tornLog])
  have hconfig : r.provider "openai" = none :=
    hread (.config { provider := "openai", model := "gpt-4o" } none) (by simp [tornLog])
  rcases hloaded with rfl | hloaded
  · exact absurd hconfig (by decide +kernel)
  · have hr : r = .load newFile := by
      simpa [tornLog] using hloaded
    subst hr
    exact absurd hchain (by decide +kernel)

end Reload

end Gateway
end OpenRouter
