import Mathlib.Data.List.Basic
import OpenRouter.Base.Yaml

/-!
# Routing — `openrouter/auto` from the candidate pool

`parse` is `_parse` of `routing.yaml`, `RoutingConfig.filter` applies the hints of a request, and
`resolveModel` is `RoutingServicer.ResolveModel`.  A request that names jurisdictions gets targets
that the pool lists there, or, when nothing is left of the pool, the sentinel
(`resident_or_sentinel`).
-/

namespace OpenRouter
namespace Backend
namespace Routing

open Base

/-- What is raised. -/
inductive Raised
  /-- The file cannot be opened or decoded. -/
  | unreadable
  | notYaml
  /-- `_parse` of something that is not a routing config. -/
  | malformed
  /-- `KeyError: Unknown routing strategy`, or the `TypeError` of a name that has no hash. -/
  | unknownStrategy (name : Yaml)
  | indexError
  /-- `decimal.InvalidOperation`, the order of a NaN. -/
  | invalidOperation
  /-- A field of the response cannot hold the value. -/
  | notText
  | assertionError (message : String)

/-! ## The pool -/

structure Candidate where
  model : Yaml
  provider : Yaml
  pricingPerMillion : PyNumber
  qualityScore : PyNumber
  latencyP50Ms : PyNumber

/-- A routable model with its capability surface; the sets are frozensets. -/
structure PoolEntry where
  model : Yaml
  provider : Yaml
  pricingPerMillion : PyNumber
  qualityScore : PyNumber
  latencyP50Ms : PyNumber
  capabilities : List Yaml
  geosAllowed : List Yaml
  residency : List Yaml

def PoolEntry.toCandidate (e : PoolEntry) : Candidate where
  model := e.model
  provider := e.provider
  pricingPerMillion := e.pricingPerMillion
  qualityScore := e.qualityScore
  latencyP50Ms := e.latencyP50Ms

structure RoutingConfig where
  defaultStrategy : Yaml
  fallbackMax : ℤ
  pool : List PoolEntry
  qualityFloor : PyNumber
  latencyMaxMs : PyNumber

/-- `RequestHints`; a request without them has the defaults of proto3. -/
structure RequestHints where
  needsTools : Bool := false
  needsVision : Bool := false
  needsStreaming : Bool := false
  userGeo : String := ""
  dataResidencyJurisdictions : List String := []

def RequestHints.required (hints : RequestHints) : List String :=
  (if hints.needsTools then ["tools"] else []) ++ (if hints.needsVision then ["vision"] else []) ++
    if hints.needsStreaming then ["streaming"] else []

namespace RoutingConfig

/-- The entry reaches `survivors.append`. -/
def passes (cfg : RoutingConfig) (hints : RequestHints) (e : PoolEntry) : Bool :=
  if !hints.required.all (Yaml.containsStr · e.capabilities) then false
  else if hints.userGeo != "" && !Yaml.containsStr "*" e.geosAllowed &&
      !Yaml.containsStr hints.userGeo e.geosAllowed then false
  else if !hints.dataResidencyJurisdictions.isEmpty &&
      !hints.dataResidencyJurisdictions.any (Yaml.containsStr · e.residency) then false
  else if e.qualityScore.lt cfg.qualityFloor then false
  else if cfg.latencyMaxMs.lt e.latencyP50Ms then false
  else true

def filter (cfg : RoutingConfig) (hints : RequestHints) : List Candidate :=
  (cfg.pool.filter (cfg.passes hints)).map PoolEntry.toCandidate

end RoutingConfig

/-! ## `_parse` -/

def parseEntry (cv : Conversions) (item : Yaml) : Option PoolEntry :=
  match item with
  | .map ms => do
      let model ← Yaml.lookup "model" ms
      let provider ← Yaml.lookup "provider" ms
      let pricing ← (Yaml.lookup "pricing_per_million" ms).bind (toDecimal cv)
      let quality ← (Yaml.lookup "quality_score" ms).bind (toFloat cv)
      let latency ← (Yaml.lookup "latency_p50_ms" ms).bind (toFloat cv)
      let capabilities ← ((Yaml.lookup "capabilities" ms).getD (.seq [])).frozenset
      let geos ← ((Yaml.lookup "geos_allowed" ms).getD (.seq [.str "*"])).frozenset
      let residency ← ((Yaml.lookup "residency" ms).getD (.seq [.str "global"])).frozenset
      some
        { model := model
          provider := provider
          pricingPerMillion := pricing
          qualityScore := quality
          latencyP50Ms := latency
          capabilities := capabilities
          geosAllowed := geos
          residency := residency }
  | _ => none

/-- `_parse`; `none` is what it raises on a file that is not a routing config. -/
def parse (cv : Conversions) (raw : Yaml) : Option RoutingConfig :=
  match raw with
  | .map ms => do
      let items ← ((Yaml.lookup "pool" ms).getD (.seq [])).iterate
      let pool ← items.mapM (parseEntry cv)
      let fallbackMax ← toInt cv ((Yaml.lookup "fallback_max" ms).getD (.int 2))
      match (Yaml.lookup "strategy_floors" ms).getD (.map []) with
      | .map floors => do
          let quality ← toFloat cv ((Yaml.lookup "quality" floors).getD (.float (.finite 0)))
          let latency ←
            toFloat cv ((Yaml.lookup "latency_max_ms" floors).getD (.float (.finite (10 ^ 9))))
          some
            { defaultStrategy := (Yaml.lookup "default_strategy" ms).getD (.str "cost")
              fallbackMax := fallbackMax
              pool := pool
              qualityFloor := quality
              latencyMaxMs := latency }
      | _ => none
  | _ => none

/-! ## Strategies -/

/-- The order that `sorted` leaves to candidates when a key is a NaN. -/
structure Disorder where
  sorted : (Candidate → PyNumber) → Bool → List Candidate → List Candidate
  perm : ∀ key reverse cs, (sorted key reverse cs).Perm cs

/-- `sorted(candidates, key=…, reverse=…)`, which is stable either way. -/
def sortedBy (dis : Disorder) (key : Candidate → PyNumber) (reverse : Bool)
    (cs : List Candidate) : List Candidate :=
  if cs.any (fun c => (key c).isNan) then dis.sorted key reverse cs
  else
    cs.mergeSort fun c c' => if reverse then !(key c).lt (key c') else !(key c').lt (key c)

structure RoutingDecision where
  primary : Candidate
  fallback : List Candidate
  strategy : String

structure RoutingStrategy where
  name : String
  /-- The candidates from the first choice to the last. -/
  ranked : List Candidate → Except Raised (List Candidate)

/-- `choose`, which is the same in every strategy but for the ranking. -/
def RoutingStrategy.choose (s : RoutingStrategy) (cs : List Candidate) :
    Except Raised RoutingDecision :=
  match s.ranked cs with
  | .error exc => .error exc
  | .ok [] => .error .indexError
  | .ok (c :: rest) => .ok { primary := c, fallback := rest, strategy := s.name }

/-- Decimals are not ordered when one is a NaN, and a sort of two compares each. -/
def costStrategy (dis : Disorder) : RoutingStrategy where
  name := "cost"
  ranked cs :=
    if 2 ≤ cs.length ∧ cs.any (fun c => c.pricingPerMillion.isNan) then .error .invalidOperation
    else .ok (sortedBy dis Candidate.pricingPerMillion false cs)

def latencyStrategy (dis : Disorder) : RoutingStrategy where
  name := "latency"
  ranked cs := .ok (sortedBy dis Candidate.latencyP50Ms false cs)

def qualityStrategy (dis : Disorder) : RoutingStrategy where
  name := "quality"
  ranked cs := .ok (sortedBy dis Candidate.qualityScore true cs)

/-- `StrategyRegistry`; `get` finds a strategy by its name. -/
abbrev StrategyRegistry := List RoutingStrategy

namespace StrategyRegistry

def default (dis : Disorder) : StrategyRegistry :=
  [costStrategy dis, latencyStrategy dis, qualityStrategy dis]

def get (registry : StrategyRegistry) (name : Yaml) : Except Raised RoutingStrategy :=
  match registry.find? fun s => name.isStr s.name with
  | some s => .ok s
  | none => .error (.unknownStrategy name)

end StrategyRegistry

/-! ## ResolveModel -/

structure FallbackTarget where
  model : String
  provider : String
  deriving DecidableEq

structure ResolveModelResponse where
  primaryModel : String
  primaryProvider : String
  fallbackChain : List FallbackTarget
  strategyUsed : String

/-- A string field that is set to a value; `None` leaves it unset, and bytes are UTF-8. -/
def stringField : Yaml → Option String
  | .null => some ""
  | .str s => some s
  | .bytes bs => String.fromUTF8? bs.toByteArray
  | _ => none

def fallbackTarget (c : Candidate) : Option FallbackTarget := do
  let model ← stringField c.model
  let provider ← stringField c.provider
  some { model := model, provider := provider }

/-- `xs[:n]`. -/
def sliceTo {α : Type} (xs : List α) (n : ℤ) : List α :=
  if 0 ≤ n then xs.take n.toNat else xs.take (xs.length - (-n).toNat)

/-- The response when every candidate is filtered out. -/
def sentinel : ResolveModelResponse where
  primaryModel := "gpt-4o-mini"
  primaryProvider := "openai"
  fallbackChain := []
  strategyUsed := "sentinel"

def respond (cfg : RoutingConfig) (decision : RoutingDecision) : Option ResolveModelResponse := do
  let primary ← fallbackTarget decision.primary
  let chain ← (sliceTo decision.fallback cfg.fallbackMax).mapM fallbackTarget
  some
    { primaryModel := primary.model
      primaryProvider := primary.provider
      fallbackChain := chain
      strategyUsed := decision.strategy }

/-- `ResolveModel`. -/
def resolveModel (strategies : StrategyRegistry) (cfg : RoutingConfig) (hints : RequestHints) :
    Except Raised ResolveModelResponse :=
  let candidates := cfg.filter hints
  if candidates.isEmpty then .ok sentinel
  else
    match strategies.get cfg.defaultStrategy with
    | .error exc => .error exc
    | .ok strategy =>
        match strategy.choose candidates with
        | .error exc => .error exc
        | .ok decision =>
            match respond cfg decision with
            | some response => .ok response
            | none => .error .notText

/-! ## The filters -/

variable {cfg : RoutingConfig} {hints : RequestHints}

/-- What the hints and the floors ask of an entry. -/
structure Admits (cfg : RoutingConfig) (hints : RequestHints) (e : PoolEntry) : Prop where
  capable : ∀ capability ∈ hints.required, .str capability ∈ e.capabilities
  near : hints.userGeo = "" ∨ .str "*" ∈ e.geosAllowed ∨ .str hints.userGeo ∈ e.geosAllowed
  resident : hints.dataResidencyJurisdictions = [] ∨
    ∃ j ∈ hints.dataResidencyJurisdictions, .str j ∈ e.residency
  good : ¬ e.qualityScore.lt cfg.qualityFloor = true
  fast : ¬ cfg.latencyMaxMs.lt e.latencyP50Ms = true

theorem capable_iff {required : List String} {capabilities : List Yaml} :
    required.all (Yaml.containsStr · capabilities) = true ↔
      ∀ capability ∈ required, .str capability ∈ capabilities := by
  rw [List.all_eq_true]
  exact forall₂_congr fun _ _ => Yaml.containsStr_iff

theorem near_iff {geo : String} {geos : List Yaml} :
    (geo != "" && !Yaml.containsStr "*" geos && !Yaml.containsStr geo geos) = false ↔
      geo = "" ∨ .str "*" ∈ geos ∨ .str geo ∈ geos := by
  simp only [← Yaml.containsStr_iff, Bool.and_eq_false_iff, bne_eq_false_iff_eq,
    Bool.not_eq_false', or_assoc]

theorem resident_iff {jurisdictions : List String} {residency : List Yaml} :
    (!jurisdictions.isEmpty && !jurisdictions.any (Yaml.containsStr · residency)) = false ↔
      jurisdictions = [] ∨ ∃ j ∈ jurisdictions, .str j ∈ residency := by
  simp only [← Yaml.containsStr_iff, Bool.and_eq_false_iff, Bool.not_eq_false',
    List.isEmpty_iff, List.any_eq_true]

theorem passes_iff {e : PoolEntry} : cfg.passes hints e = true ↔ Admits cfg hints e := by
  unfold RoutingConfig.passes
  constructor
  · intro h
    -- One early `return False` after the other.
    split at h
    · cases h
    rename_i hcapable
    split at h
    · cases h
    rename_i hnear
    split at h
    · cases h
    rename_i hresident
    split at h
    · cases h
    rename_i hgood
    split at h
    · cases h
    rename_i hfast
    exact
      { capable := capable_iff.1 (by simpa using hcapable)
        near := near_iff.1 (Bool.not_eq_true _ ▸ hnear)
        resident := resident_iff.1 (Bool.not_eq_true _ ▸ hresident)
        good := hgood
        fast := hfast }
  · intro h
    have hcapable := capable_iff.2 h.capable
    have hnear := near_iff.2 h.near
    have hresident := resident_iff.2 h.resident
    simp only [hcapable, hnear, hresident, h.good, h.fast, Bool.not_true, Bool.false_eq_true,
      if_false]

theorem mem_filter_iff {c : Candidate} :
    c ∈ cfg.filter hints ↔ ∃ e ∈ cfg.pool, Admits cfg hints e ∧ e.toCandidate = c := by
  simp only [RoutingConfig.filter, List.mem_map, List.mem_filter, passes_iff, and_assoc]

theorem filter_isEmpty_iff :
    (cfg.filter hints).isEmpty = true ↔ ∀ e ∈ cfg.pool, ¬ Admits cfg hints e := by
  rw [List.isEmpty_iff, RoutingConfig.filter, List.map_eq_nil_iff, List.filter_eq_nil_iff]
  exact forall₂_congr fun _ _ => not_congr passes_iff

/-! ## The ranking -/

/-- The strategy orders what it is given: it adds no candidate and drops none. -/
def RoutingStrategy.Ranks (s : RoutingStrategy) : Prop :=
  ∀ cs ranked, s.ranked cs = .ok ranked → ranked.Perm cs

theorem sortedBy_perm (dis : Disorder) (key : Candidate → PyNumber) (reverse : Bool)
    (cs : List Candidate) : (sortedBy dis key reverse cs).Perm cs := by
  unfold sortedBy
  split
  · exact dis.perm key reverse cs
  · exact List.mergeSort_perm cs _

theorem sortedBy_singleton (dis : Disorder) (key : Candidate → PyNumber) (reverse : Bool)
    (c : Candidate) : sortedBy dis key reverse [c] = [c] :=
  List.perm_singleton.1 (sortedBy_perm dis key reverse [c])

theorem ranks_of_mem_default {dis : Disorder} {s : RoutingStrategy}
    (hs : s ∈ StrategyRegistry.default dis) : s.Ranks := by
  simp only [StrategyRegistry.default, List.mem_cons, List.not_mem_nil, or_false] at hs
  intro cs ranked hranked
  rcases hs with rfl | rfl | rfl
  · simp only [costStrategy] at hranked
    split at hranked
    · cases hranked
    · cases hranked
      exact sortedBy_perm dis _ _ cs
  · cases hranked
    exact sortedBy_perm dis _ _ cs
  · cases hranked
    exact sortedBy_perm dis _ _ cs

theorem RoutingStrategy.Ranks.choose {s : RoutingStrategy} (hs : s.Ranks) {cs : List Candidate}
    {decision : RoutingDecision} (h : s.choose cs = .ok decision) :
    (decision.primary :: decision.fallback).Perm cs := by
  unfold RoutingStrategy.choose at h
  split at h
  · cases h
  · cases h
  · rename_i c rest hranked
    cases h
    exact hs cs _ hranked

theorem StrategyRegistry.mem_of_get {registry : StrategyRegistry} {name : Yaml}
    {s : RoutingStrategy} (h : registry.get name = .ok s) : s ∈ registry := by
  unfold StrategyRegistry.get at h
  split at h
  · rename_i s' hfind
    cases h
    exact List.mem_of_find?_eq_some hfind
  · cases h

/-! ## The targets -/

/-- The pairs of a response, the primary first. -/
def ResolveModelResponse.targets (r : ResolveModelResponse) : List FallbackTarget :=
  { model := r.primaryModel, provider := r.primaryProvider } :: r.fallbackChain

theorem mem_of_mem_sliceTo {α : Type} {xs : List α} {n : ℤ} {x : α} (h : x ∈ sliceTo xs n) :
    x ∈ xs := by
  unfold sliceTo at h
  split at h <;> exact List.mem_of_mem_take h

theorem exists_of_mem_mapM {α β : Type} {f : α → Option β} {xs : List α} {ys : List β}
    (h : xs.mapM f = some ys) {y : β} (hy : y ∈ ys) : ∃ x ∈ xs, f x = some y := by
  induction xs generalizing ys with
  | nil =>
      cases h
      cases hy
  | cons x xs ih =>
      rw [List.mapM_cons] at h
      rcases Option.bind_eq_some_iff.1 h with ⟨z, hz, h⟩
      rcases Option.bind_eq_some_iff.1 h with ⟨zs, hzs, h⟩
      cases h
      rcases List.mem_cons.1 hy with rfl | hy
      · exact ⟨x, List.mem_cons_self, hz⟩
      · rcases ih hzs hy with ⟨x', hx', hf⟩
        exact ⟨x', List.mem_cons_of_mem x hx', hf⟩

/-- A target of a response is a candidate of the decision. -/
theorem exists_of_mem_targets {decision : RoutingDecision} {response : ResolveModelResponse}
    (h : respond cfg decision = some response) {t : FallbackTarget} (ht : t ∈ response.targets) :
    ∃ c ∈ decision.primary :: decision.fallback, fallbackTarget c = some t := by
  rcases Option.bind_eq_some_iff.1 h with ⟨primary, hprimary, h⟩
  rcases Option.bind_eq_some_iff.1 h with ⟨chain, hchain, h⟩
  cases h
  rcases List.mem_cons.1 ht with rfl | ht
  · exact ⟨decision.primary, List.mem_cons_self, hprimary⟩
  · rcases exists_of_mem_mapM hchain ht with ⟨c, hc, htarget⟩
    exact ⟨c, List.mem_cons_of_mem _ (mem_of_mem_sliceTo hc), htarget⟩

/-- What `ResolveModel` answers when candidates are left. -/
theorem exists_decision_of_resolveModel {strategies : StrategyRegistry}
    {response : ResolveModelResponse} (hleft : (cfg.filter hints).isEmpty = false)
    (h : resolveModel strategies cfg hints = .ok response) :
    ∃ strategy ∈ strategies, ∃ decision, strategy.choose (cfg.filter hints) = .ok decision ∧
      respond cfg decision = some response := by
  simp only [resolveModel, hleft, Bool.false_eq_true, if_false] at h
  split at h
  · cases h
  · rename_i strategy hget
    split at h
    · cases h
    · rename_i decision hchoose
      split at h
      · rename_i response' hrespond
        cases h
        exact ⟨strategy, StrategyRegistry.mem_of_get hget, decision, hchoose, hrespond⟩
      · cases h

/-- The pool lists the pair with a residency in one of the jurisdictions. -/
def Listed (cfg : RoutingConfig) (jurisdictions : List String) (t : FallbackTarget) : Prop :=
  ∃ e ∈ cfg.pool, (∃ j ∈ jurisdictions, .str j ∈ e.residency) ∧
    stringField e.model = some t.model ∧ stringField e.provider = some t.provider

theorem stringField_of_fallbackTarget {c : Candidate} {t : FallbackTarget}
    (h : fallbackTarget c = some t) :
    stringField c.model = some t.model ∧ stringField c.provider = some t.provider := by
  rcases Option.bind_eq_some_iff.1 h with ⟨model, hmodel, h⟩
  rcases Option.bind_eq_some_iff.1 h with ⟨provider, hprovider, h⟩
  cases h
  exact ⟨hmodel, hprovider⟩

theorem resident_or_sentinel (dis : Disorder) (cfg : RoutingConfig) (hints : RequestHints)
    (response : ResolveModelResponse) (hasked : hints.dataResidencyJurisdictions ≠ [])
    (h : resolveModel (.default dis) cfg hints = .ok response) :
    ((∃ e ∈ cfg.pool, Admits cfg hints e) →
        ∀ t ∈ response.targets, Listed cfg hints.dataResidencyJurisdictions t) ∧
      ((∀ e ∈ cfg.pool, ¬ Admits cfg hints e) → response = sentinel) := by
  constructor
  · rintro ⟨e, he, hadmits⟩ t ht
    have hleft : (cfg.filter hints).isEmpty = false := by
      rw [← Bool.not_eq_true, filter_isEmpty_iff]
      exact fun hnone => hnone e he hadmits
    rcases exists_decision_of_resolveModel hleft h with
      ⟨strategy, hstrategy, decision, hchoose, hrespond⟩
    rcases exists_of_mem_targets hrespond ht with ⟨c, hc, htarget⟩
    -- A ranked candidate is one that passed the filters.
    have hfiltered : c ∈ cfg.filter hints :=
      ((ranks_of_mem_default hstrategy).choose hchoose).mem_iff.1 hc
    rcases mem_filter_iff.1 hfiltered with ⟨e', he', hadmits', rfl⟩
    exact ⟨e', he', hadmits'.resident.resolve_left hasked, stringField_of_fallbackTarget htarget⟩
  · intro hnone
    simp only [resolveModel, filter_isEmpty_iff.2 hnone, if_true] at h
    exact (Except.ok.inj h).symm

/-! ## Small pools -/

/-- Conversions that read no text; the text of a float is its value. -/
def plainConversions : Conversions where
  int _ := none
  float _ := none
  decimal v := v.number

def inOrder : Disorder where
  sorted _ _ cs := cs
  perm _ _ cs := List.Perm.refl cs

/-- A file with `gpt-4o-mini` in the United States and the European Union. -/
def miniFile : Yaml :=
  .map
    [(.str "pool", .seq
      [.map
        [(.str "model", .str "gpt-4o-mini"), (.str "provider", .str "openai"),
          (.str "pricing_per_million", .float (.finite (1 / 4))),
          (.str "quality_score", .float (.finite (3 / 4))),
          (.str "latency_p50_ms", .float (.finite 420)),
          (.str "capabilities", .seq [.str "text", .str "tools"]),
          (.str "residency", .seq [.str "us", .str "eu"])]])]

def miniEntry : PoolEntry where
  model := .str "gpt-4o-mini"
  provider := .str "openai"
  pricingPerMillion := .finite (1 / 4)
  qualityScore := .finite (3 / 4)
  latencyP50Ms := .finite 420
  capabilities := [.str "text", .str "tools"]
  geosAllowed := [.str "*"]
  residency := [.str "us", .str "eu"]

def miniConfig : RoutingConfig where
  defaultStrategy := .str "cost"
  fallbackMax := 2
  pool := [miniEntry]
  qualityFloor := .finite 0
  latencyMaxMs := .finite (10 ^ 9)

theorem parse_miniFile : parse plainConversions miniFile = some miniConfig := by
  rfl

def sonnetEntry : PoolEntry :=
  { miniEntry with
    model := .str "anthropic/claude-sonnet-4-20250514"
    provider := .str "anthropic"
    pricingPerMillion := .finite (1 / 8)
    residency := [.str "us"] }

def gemmaEntry : PoolEntry :=
  { miniEntry with
    model := .str "google/gemma-4-31b"
    provider := .str "fireworks"
    pricingPerMillion := .finite (3 / 10) }

def threeConfig : RoutingConfig :=
  { miniConfig with pool := [sonnetEntry, miniEntry, gemmaEntry] }

/-- The cheapest entry is not in the European Union; the two others are. -/
theorem resident_or_sentinel_eu :
    let hints : RequestHints := { dataResidencyJurisdictions := ["eu"] }
    let response : ResolveModelResponse :=
      { primaryModel := "gpt-4o-mini", primaryProvider := "openai"
        fallbackChain := [{ model := "google/gemma-4-31b", provider := "fireworks" }]
        strategyUsed := "cost" }
    resolveModel (.default inOrder) threeConfig hints = .ok response ∧
      ((∃ e ∈ threeConfig.pool, Admits threeConfig hints e) →
        ∀ t ∈ response.targets, Listed threeConfig ["eu"] t) := by
  intro hints response
  have hpasses : threeConfig.passes hints sonnetEntry = false ∧
      threeConfig.passes hints miniEntry = true ∧
      threeConfig.passes hints gemmaEntry = true := by
    decide +kernel
  have hfilter : threeConfig.filter hints = [miniEntry.toCandidate, gemmaEntry.toCandidate] := by
    rcases hpasses with ⟨hsonnet, hmini, hgemma⟩
    show ([sonnetEntry, miniEntry, gemmaEntry].filter (threeConfig.passes hints)).map
      PoolEntry.toCandidate = _
    simp only [List.filter_cons, List.filter_nil, hsonnet, hmini, hgemma, if_true,
      Bool.false_eq_true, if_false, List.map_cons, List.map_nil]
  have hget : (StrategyRegistry.default inOrder).get threeConfig.defaultStrategy =
      .ok (costStrategy inOrder) := by
    rfl
  have hsorted : sortedBy inOrder Candidate.pricingPerMillion false
      [miniEntry.toCandidate, gemmaEntry.toCandidate] =
        [miniEntry.toCandidate, gemmaEntry.toCandidate] :=
    List.mergeSort_of_pairwise (by decide +kernel)
  have hchoose : (costStrategy inOrder).choose [miniEntry.toCandidate, gemmaEntry.toCandidate] =
      .ok
        { primary := miniEntry.toCandidate
          fallback := [gemmaEntry.toCandidate]
          strategy := "cost" } := by
    have hnan : [miniEntry.toCandidate, gemmaEntry.toCandidate].any
        (fun c => c.pricingPerMillion.isNan) = false := rfl
    simp only [RoutingStrategy.choose, costStrategy, hnan, hsorted, Bool.false_eq_true, and_false,
      if_false]
  have h : resolveModel (.default inOrder) threeConfig hints = .ok response := by
    rw [resolveModel, hfilter, hget]
    simp only [List.isEmpty_cons, Bool.false_eq_true, if_false, hchoose]
    rfl
  exact ⟨h, (resident_or_sentinel inOrder threeConfig hints response (List.cons_ne_nil _ _) h).1⟩

/-- Nothing in the pool is in India: the sentinel is, although the pool lists it elsewhere. -/
theorem sentinel_is_not_resident :
    ∃ (cv : Conversions) (raw : Yaml) (cfg : RoutingConfig) (hints : RequestHints)
      (response : ResolveModelResponse),
      parse cv raw = some cfg ∧ hints.dataResidencyJurisdictions ≠ [] ∧
        resolveModel (.default inOrder) cfg hints = .ok response ∧
        ∃ t ∈ response.targets, ¬ Listed cfg hints.dataResidencyJurisdictions t := by
  refine ⟨plainConversions, miniFile, miniConfig, { dataResidencyJurisdictions := ["in"] },
    sentinel, parse_miniFile, List.cons_ne_nil _ _, rfl, _, List.mem_cons_self, ?_⟩
  rintro ⟨e, he, ⟨j, hj, hresident⟩, -⟩
  rw [List.mem_singleton.1 he] at hresident
  rw [List.mem_singleton.1 hj] at hresident
  simp [miniEntry] at hresident

end Routing
end Backend
end OpenRouter
