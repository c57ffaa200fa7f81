import OpenRouter.Backend.Routing
import OpenRouter.Base.Transition

/-!
# RoutingReload — `get_routing_config` and its reload

`get_routing_config` caches one config; `reload_routing_config` reads the file to validate it,
clears the cache and has it read again.  A run is a sequence of both, each read with a file of its
own.  `lawful_iff_settles` says what the two reads of a reload must have in common for the reload
to keep or to swap what is served.
-/

namespace OpenRouter
namespace Backend
namespace RoutingReload

open Base Routing

/-! ## Equality of pools -/

section Entry

variable (e e' : PoolEntry)

/-- `e == e'`, for entries of two loads.  A `Decimal` is a new object in each of them. -/
def entryEq : Bool :=
  Yaml.eq e.model e'.model && Yaml.eq e.provider e'.provider &&
    e.pricingPerMillion.eq e'.pricingPerMillion && e.qualityScore.same e'.qualityScore &&
    e.latencyP50Ms.same e'.latencyP50Ms && Yaml.setEq e.capabilities e'.capabilities &&
    Yaml.setEq e.geosAllowed e'.geosAllowed && Yaml.setEq e.residency e'.residency

/-- The same entry, where a NaN is as good as another. -/
def entryAgrees : Bool :=
  Yaml.eq e.model e'.model && Yaml.eq e.provider e'.provider &&
    e.pricingPerMillion.agrees e'.pricingPerMillion && e.qualityScore.agrees e'.qualityScore &&
    e.latencyP50Ms.agrees e'.latencyP50Ms && Yaml.setEq e.capabilities e'.capabilities &&
    Yaml.setEq e.geosAllowed e'.geosAllowed && Yaml.setEq e.residency e'.residency

/-- Nothing in the entry differs from itself. -/
def comparable : Bool :=
  !e.pricingPerMillion.isNan && !e.qualityScore.fresh && !e.latencyP50Ms.fresh

end Entry

/-- `pool == pool'`. -/
def poolEq : List PoolEntry → List PoolEntry → Bool
  | [], [] => true
  | e :: es, e' :: es' => entryEq e e' && poolEq es es'
  | _, _ => false

def poolAgrees : List PoolEntry → List PoolEntry → Bool
  | [], [] => true
  | e :: es, e' :: es' => entryAgrees e e' && poolAgrees es es'
  | _, _ => false

/-- The same config: every setting has the same value in both. -/
def Agrees (cfg cfg' : RoutingConfig) : Prop :=
  (Yaml.eq cfg.defaultStrategy cfg'.defaultStrategy = true ∧ cfg.fallbackMax = cfg'.fallbackMax) ∧
    poolAgrees cfg.pool cfg'.pool = true ∧ cfg.qualityFloor.agrees cfg'.qualityFloor = true ∧
      cfg.latencyMaxMs.agrees cfg'.latencyMaxMs = true

theorem entryAgrees_refl (e : PoolEntry) : entryAgrees e e = true := by
  simp only [entryAgrees, Yaml.eq_refl, PyNumber.agrees_refl, Yaml.setEq_refl, Bool.and_self]

theorem poolAgrees_refl (es : List PoolEntry) : poolAgrees es es = true := by
  induction es with
  | nil => rfl
  | cons e es ih => rw [poolAgrees, entryAgrees_refl, ih, Bool.and_self]

theorem agrees_refl (cfg : RoutingConfig) : Agrees cfg cfg :=
  ⟨⟨Yaml.eq_refl _, rfl⟩, poolAgrees_refl _, PyNumber.agrees_refl _, PyNumber.agrees_refl _⟩

theorem entryEq_self (e : PoolEntry) : entryEq e e = comparable e := by
  have hsame : ∀ x : PyNumber, x.same x = !x.fresh := by
    intro x
    rw [Bool.eq_iff_iff, PyNumber.same_iff]
    simp [PyNumber.agrees_refl]
  simp only [entryEq, comparable, Yaml.eq_refl, Yaml.setEq_refl, PyNumber.eq,
    PyNumber.agrees_refl, hsame, Bool.true_and, Bool.and_true]

/-- A pool equals itself when no price is a NaN and no score is one that is not the loader's. -/
theorem poolEq_self (es : List PoolEntry) : poolEq es es = es.all comparable := by
  induction es with
  | nil => rfl
  | cons e es ih => rw [poolEq, entryEq_self, ih, List.all_cons]

/-! ## The two functions -/

/-- What the process reads the file with. -/
structure Loader where
  conversions : Conversions
  /-- `yaml.safe_load`; `none` when it raises. -/
  safeLoad : String → Option Yaml

/-- One read of the file, whose text is `none` when it cannot be opened or decoded. -/
def Loader.read (ld : Loader) : Option String → Except Raised RoutingConfig
  | none => .error .unreadable
  | some text =>
      match ld.safeLoad text with
      | none => .error .notYaml
      | some raw =>
          match parse ld.conversions raw with
          | none => .error .malformed
          | some cfg => .ok cfg

/-- What a call returns or raises, and the cache behind it. -/
structure Result where
  outcome : Except Raised RoutingConfig
  cache : Option RoutingConfig

/-- `get_routing_config`; an exception is not cached. -/
def getRoutingConfig (ld : Loader) (cache : Option RoutingConfig) (file : Option String) :
    Result :=
  match cache with
  | some cfg => { outcome := .ok cfg, cache := some cfg }
  | none =>
      match ld.read file with
      | .error exc => { outcome := .error exc, cache := none }
      | .ok cfg => { outcome := .ok cfg, cache := some cfg }

/-- `reload_routing_config`, which reads `first` and then, with the cache cleared, `second`. -/
def reloadRoutingConfig (ld : Loader) (cache : Option RoutingConfig)
    (first second : Option String) : Result :=
  match ld.read first with
  | .error exc => { outcome := .error exc, cache := cache }
  | .ok newCfg =>
      let primed := getRoutingConfig ld none second
      match primed.outcome with
      | .error exc => { outcome := .error exc, cache := primed.cache }
      | .ok cached =>
          if poolEq cached.pool newCfg.pool then { outcome := .ok cached, cache := primed.cache }
          else
            { outcome := .error (.assertionError "cache primed with stale config")
              cache := primed.cache }

/-- A call with the contents of the file at its reads. -/
inductive Label
  | get (file : Option String)
  | reload (first second : Option String)

/-- The handler of `SIGHUP` logs what a reload raises. -/
def step (ld : Loader) (cache : Option RoutingConfig) : Label → Option (Option RoutingConfig)
  | .get file => some (getRoutingConfig ld cache file).cache
  | .reload first second => some (reloadRoutingConfig ld cache first second).cache

/-! ## Validate, then swap -/

/-- Whatever the file holds by then, the next `get_routing_config` returns this config. -/
def Serves (ld : Loader) (cache : Option RoutingConfig) (cfg : RoutingConfig) : Prop :=
  ∀ file, ∃ served, (getRoutingConfig ld cache file).outcome = .ok served ∧ Agrees served cfg

/-- A reload that raises keeps what was served, and one that returns serves what it validated. -/
def Lawful (ld : Loader) (cache : Option RoutingConfig) : Label → Prop
  | .get _ => True
  | .reload first second =>
      match (reloadRoutingConfig ld cache first second).outcome with
      | .error _ =>
          ∀ before, cache = some before →
            Serves ld (reloadRoutingConfig ld cache first second).cache before
      | .ok _ =>
          ∃ validated, ld.read first = .ok validated ∧
            Serves ld (reloadRoutingConfig ld cache first second).cache validated

/-- When the first read is a config, the second one settles the reload: a read with an equal pool
has the other settings of the first, any other read is harmless only to what it agrees with. -/
def Settles (ld : Loader) (cache : Option RoutingConfig) : Label → Prop
  | .get _ => True
  | .reload first second =>
      ∀ newCfg, ld.read first = .ok newCfg →
        match ld.read second with
        | .error _ => cache = none
        | .ok again =>
            if poolEq again.pool newCfg.pool then Agrees again newCfg
            else ∀ before, cache = some before → Agrees again before

variable {ld : Loader} {cache : Option RoutingConfig} {first second : Option String}

theorem serves_some_iff {cfg cfg' : RoutingConfig} :
    Serves ld (some cfg) cfg' ↔ Agrees cfg cfg' := by
  constructor
  · intro h
    rcases h none with ⟨served, hget, hagrees⟩
    cases hget
    exact hagrees
  · exact fun h file => ⟨cfg, rfl, h⟩

/-- With an empty cache nothing is served when the file is gone. -/
theorem not_serves_none {cfg : RoutingConfig} : ¬ Serves ld none cfg := by
  intro h
  rcases h none with ⟨served, hget, -⟩
  cases hget

theorem reload_of_error {exc : Raised} (hfirst : ld.read first = .error exc) :
    reloadRoutingConfig ld cache first second = { outcome := .error exc, cache := cache } := by
  simp only [reloadRoutingConfig, hfirst]

theorem reload_of_error_again {newCfg : RoutingConfig} {exc : Raised}
    (hfirst : ld.read first = .ok newCfg) (hsecond : ld.read second = .error exc) :
    reloadRoutingConfig ld cache first second = { outcome := .error exc, cache := none } := by
  simp only [reloadRoutingConfig, getRoutingConfig, hfirst, hsecond]

theorem reload_of_ok {newCfg again : RoutingConfig} (hfirst : ld.read first = .ok newCfg)
    (hsecond : ld.read second = .ok again) :
    reloadRoutingConfig ld cache first second =
      if poolEq again.pool newCfg.pool then { outcome := .ok again, cache := some again }
      else
        { outcome := .error (.assertionError "cache primed with stale config")
          cache := some again } := by
  simp only [reloadRoutingConfig, getRoutingConfig, hfirst, hsecond]

theorem lawful_iff_settles_reload :
    Lawful ld cache (.reload first second) ↔ Settles ld cache (.reload first second) := by
  unfold Lawful Settles
  cases hfirst : ld.read first with
  | error exc =>
      simp only [reload_of_error hfirst, hfirst, reduceCtorEq, false_implies, implies_true,
        iff_true]
      rintro before rfl
      exact serves_some_iff.2 (agrees_refl before)
  | ok newCfg =>
      simp only [hfirst, Except.ok.injEq, forall_eq']
      cases hsecond : ld.read second with
      | error exc =>
          simp only [reload_of_error_again hfirst hsecond, not_serves_none, imp_false]
          rw [Option.eq_none_iff_forall_ne_some]
      | ok again =>
          rw [reload_of_ok hfirst hsecond]
          by_cases hpool : poolEq again.pool newCfg.pool = true
          · simp only [hpool, if_true, exists_eq_left', serves_some_iff]
          · simp only [hpool, Bool.false_eq_true, if_false, serves_some_iff]

/-- In a run every reload keeps or swaps what is served exactly when its two reads settle it. -/
theorem lawful_iff_settles (ld : Loader) (cache : Option RoutingConfig) (labels : List Label) :
    Guarded (step ld) (Lawful ld) cache labels ↔ Guarded (step ld) (Settles ld) cache labels := by
  have hlaw : ∀ cache label, True → (Lawful ld cache label ↔ Settles ld cache label) := by
    intro cache label _
    cases label with
    | get file => exact Iff.rfl
    | reload first second => exact lawful_iff_settles_reload
  exact guarded_iff hlaw (fun _ _ _ _ _ _ => trivial) trivial

/-- A file that stays as it is settles its reload when its pool equals itself. -/
theorem settles_of_unchanged
    (h : ∀ cfg, ld.read first = .ok cfg → cfg.pool.all comparable = true) :
    Settles ld cache (.reload first first) := by
  intro newCfg hfirst
  rw [hfirst]
  simp only [poolEq_self, h newCfg hfirst, if_true]
  exact agrees_refl newCfg

/-! ### A file that is being written -/

/-- Two texts: `pool: []` and the empty one, which loads to `None`. -/
def twoTexts : Loader where
  conversions := plainConversions
  safeLoad text :=
    if text = "pool: []" then some (.map [(.str "pool", .seq [])])
    else if text = "" then some .null
    else none

/-- The config of `pool: []`. -/
def noPool : RoutingConfig where
  defaultStrategy := .str "cost"
  fallbackMax := 2
  pool := []
  qualityFloor := .finite 0
  latencyMaxMs := .finite (10 ^ 9)

/-- A file that is truncated between the two reads leaves nothing to serve. -/
theorem reload_drops_config :
    ∃ (ld : Loader) (labels : List Label),
      labels = [.get (some "pool: []"), .reload (some "pool: []") (some "")] ∧
        exec (step ld) none labels = some none ∧
        (reloadRoutingConfig ld (some noPool) (some "pool: []") (some "")).outcome =
          .error .malformed ∧
        (getRoutingConfig ld none (some "")).outcome = .error .malformed ∧
        ¬ Guarded (step ld) (Lawful ld) none labels := by
  have hget : step twoTexts none (.get (some "pool: []")) = some (some noPool) := by
    rfl
  refine ⟨twoTexts, _, rfl, by rfl, by rfl, by rfl, fun h => ?_⟩
  -- The config of the first label is served when the reload begins.
  have hlawful : Lawful twoTexts (some noPool) (.reload (some "pool: []") (some "")) :=
    (h.2 _ hget).1
  have hserves : Serves twoTexts none noPool := hlawful noPool rfl
  exact not_serves_none hserves

end RoutingReload
end Backend
end OpenRouter
